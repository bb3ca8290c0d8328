/-!
# Escape sequences

What of a text is left when it is not written to a terminal. Escape sequences and control
characters go, blanks and everything that can be seen stay. Which characters belong to a sequence
is decided by the states in which a terminal reads it; a sequence that is not complete takes what
follows with it, until something ends it.
-/

namespace BrowserFlow.Terminal

/-- How much of the head of a control sequence has been read. -/
inductive HeadPart
  /-- Nothing. -/
  | start
  /-- A parameter. -/
  | parameters
  /-- A character that stands between the parameters and the end. -/
  | intermediates
  deriving DecidableEq, Repr

/-- The state in which a terminal reads a character. -/
inductive ReadState
  /-- Outside sequences. -/
  | text
  /-- After an escape character. -/
  | escape
  /-- In a sequence of the kind that consists of an escape character and a few others. -/
  | short
  /-- In a control sequence. -/
  | control (part : HeadPart)
  /-- In a control sequence that means nothing. -/
  | spoiled
  /-- In the head of a sequence that has a text of its own. -/
  | head (part : HeadPart)
  /-- In the text of a sequence, up to an escape character or a string terminator. -/
  | body
  /-- In the text of a command to the operating system, which may also end with a bell. -/
  | command
  deriving DecidableEq, Repr

namespace ReadState

/-- The part of a head after a character below `@`, or nothing if the character is out of place. -/
def nextPart (part : HeadPart) (code : Nat) : Option HeadPart :=
  if code < 0x30 then some .intermediates
  else
    match part with
    | .start => some .parameters
    | .parameters => if code < 0x3C then some .parameters else none
    | .intermediates => none

/-- The state after an escape character and one more character. -/
def afterEscape (c : Char) : ReadState :=
  if c.toNat < 0x30 then .short
  else if c == '[' then .control .start
  else if c == ']' then .command
  else if c == 'P' then .head .start
  else if c == 'X' || c == '^' || c == '_' then .body
  else .text

/-- The state after an ASCII character that is neither a control character nor a deletion. -/
def afterGraphic (state : ReadState) (c : Char) : ReadState :=
  let code := c.toNat
  match state with
  | text => text
  | escape => afterEscape c
  | short => if code < 0x30 then short else text
  | control part =>
    if 0x40 ≤ code then text
    else
      match nextPart part code with
      | some part => control part
      | none => spoiled
  | spoiled => if 0x40 ≤ code then text else spoiled
  | head part =>
    if 0x40 ≤ code then body
    else
      match nextPart part code with
      | some part => head part
      | none => body
  | body => body
  | command => command

/-- Whether a string terminator is among the trailing bytes of a character in UTF-8. -/
def hasTerminator (c : Char) : Bool :=
  let code := c.toNat
  code % 0x40 == 0x1C || (0x800 ≤ code && code / 0x40 % 0x40 == 0x1C) ||
    (0x10000 ≤ code && code / 0x1000 % 0x40 == 0x1C)

/-- The state after a character. An escape character begins a sequence everywhere, and two other
control characters end one. -/
def next (state : ReadState) (c : Char) : ReadState :=
  let code := c.toNat
  if code == 0x1B then escape
  else if code == 0x18 || code == 0x1A then text
  else if 0x80 ≤ code then (if state == body && hasTerminator c then text else state)
  else if code < 0x20 || code == 0x7F then
    (if state == command && code == 0x07 then text else state)
  else state.afterGraphic c

/-- Whether control characters take effect although a sequence is not complete. -/
def obeysControls : ReadState → Bool
  | text | escape | short | control _ | spoiled => true
  | head _ | body | command => false

/-- Whether a control character moves the cursor as a blank does. -/
def isBlankControl (c : Char) : Bool :=
  c == '\t' || c == '\n' || c == '\x0c' || c == '\r'

/-- Whether a character is left. -/
def shows (state : ReadState) (c : Char) : Bool :=
  if c.toNat < 0x20 then state.obeysControls && isBlankControl c
  else state == text && c.toNat != 0x7F

end ReadState

/-- What is left of a text that is read from some state on. After a blank inside a sequence, what
follows is `resumed`: it is left as if the sequence were complete, up to the next control
character. -/
def visibleFrom (state : ReadState) (resumed : Bool) : List Char → List Char
  | [] => []
  | c :: rest =>
    if resumed && ReadState.text.shows c then
      c :: visibleFrom (if c.toNat < 0x80 then state else .text) true rest
    else
      let shown := visibleFrom (state.next c) (state.shows c) rest
      if state.shows c then c :: shown else shown

/-- What is left of a text when it is not written to a terminal. -/
def visible (text : String) : String :=
  String.ofList (visibleFrom .text false text.toList)

end BrowserFlow.Terminal
