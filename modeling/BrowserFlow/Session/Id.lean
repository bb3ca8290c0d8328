import BrowserFlow.Text.Digit

/-!
# Names of sessions

A session is named by a random UUID: 122 random bits and six fixed ones, written as thirty-two
hexadecimal digits in five parts.
-/

namespace BrowserFlow.SessionId

/-- The last `width` hexadecimal digits of a number. -/
def hexDigits : (width n : Nat) → List Char
  | 0, _ => []
  | width + 1, n => hexDigits width (n / 16) ++ [Text.hexDigit (n % 16)]

/-- The bits of the first half, with the version in their place. -/
def withVersion (bits : UInt64) : UInt64 :=
  (bits &&& 0xFFFFFFFFFFFF0FFF) ||| 0x4000

/-- The bits of the second half, with the variant in their place. -/
def withVariant (bits : UInt64) : UInt64 :=
  (bits &&& 0x3FFFFFFFFFFFFFFF) ||| 0x8000000000000000

/-- The name that random bits give. -/
def ofBits (first second : UInt64) : String :=
  let a := hexDigits 16 (withVersion first).toNat
  let b := hexDigits 16 (withVariant second).toNat
  String.ofList (a.take 8 ++ '-' :: (a.drop 8).take 4 ++ '-' :: a.drop 12 ++ '-' :: b.take 4 ++
    '-' :: b.drop 4)

end BrowserFlow.SessionId
