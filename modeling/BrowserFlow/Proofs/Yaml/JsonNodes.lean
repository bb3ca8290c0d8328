import BrowserFlow.Proofs.Yaml.JsonTokens
import BrowserFlow.Yaml.Document

/-!
# JSON texts as nodes

The nodes of a JSON text are read from its tokens. `Gives` says which tokens a reading takes and what
it makes of them, whatever comes behind; with it, by induction on the source, a value gives its node
(`JsonSource.gives`). The reading goes no deeper than there are tokens, four calls for each, and the
text is at least as long (`JsonDocument.length_tokens_le`). Together with the tokens this says what
the document of a JSON text is (`JsonDocument.read_eq`).
-/

namespace BrowserFlow

open Text JsonText JsonSource

/-! ## Nodes -/

namespace JsonSource

/-- The node of a plain scalar. -/
def plainNode (chars : List Char) : Yaml.Node :=
  .scalar ⟨String.ofList chars, .plain, none⟩

/-- The node of a string. -/
def stringNode (pieces : List Piece) : Yaml.Node :=
  .scalar ⟨String.ofList (folded pieces), .doubleQuoted, none⟩

end JsonSource

mutual

/-- The node of a value. -/
def JsonSource.node : JsonSource → Yaml.Node
  | .null => plainNode "null".toList
  | .bool b => plainNode (if b then "true" else "false").toList
  | .number _ digits _ => plainNode digits
  | .string pieces => stringNode pieces
  | .emptyArray _ => .sequence none []
  | .array items => .sequence none items.nodes
  | .emptyObject _ => .mapping none []
  | .object members => .mapping none members.nodes

/-- The nodes of some items. -/
def ItemsSource.nodes : ItemsSource → List Yaml.Node
  | .last _ item _ => [item.node]
  | .cons _ item _ rest => item.node :: rest.nodes

/-- The nodes of some members. -/
def MembersSource.nodes : MembersSource → List (Yaml.Node × Yaml.Node)
  | .last _ key _ _ item _ => [(stringNode key, item.node)]
  | .cons _ key _ _ item _ rest => (stringNode key, item.node) :: rest.nodes

end

namespace Yaml

variable {α β : Type} {p p' : Progress} {t : Token} {later tokens : List Token}

/-! ## Taking tokens -/

namespace Read

/-- A sequence of readings goes on where its first part ends. -/
theorem bind_apply (read : Read α) (next : α → Read β) (p : Progress) :
    (read >>= next) p = next (read p).1 (read p).2 := rfl

theorem pure_apply (a : α) (p : Progress) : (pure a : Read α) p = (a, p) := rfl

theorem get_apply (p : Progress) : (get : Read Progress) p = (p, p) := rfl

end Read

namespace Progress

/-- These are the tokens that are still to be taken. -/
structure Feeds (p : Progress) (tokens : List Token) : Prop where
  /-- No error has been met. -/
  fault : p.fault = none
  /-- They are those that are left of all tokens. -/
  runs : ∃ n whole pre, Layout.Runs n whole (pre ++ tokens) ∧ Layout.Follows pre whole p.layout ∧
    n < p.limit

/-- The first of the tokens that are still to be taken has been looked at. -/
structure Offers (p : Progress) (t : Token) (later : List Token) : Prop extends
    Feeds p (t :: later) where
  /-- It waits. -/
  offers : p.layout.Offers t

theorem peek_apply {layout : Layout} (hfault : p.fault = none)
    (hsupply : p.layout.supply p.limit = .ok layout) :
    Read.peek p = (layout.waiting.head?, { p with layout }) := by
  obtain ⟨_, limit, fault, handles, anchors, targets⟩ := p
  cases hfault
  simp only [Read.peek, Read.bind_apply, Read.get_apply, hsupply]
  rfl

/-- The next token is looked at. -/
theorem Feeds.peek (h : p.Feeds (t :: later)) :
    ∃ p', Read.peek p = (some t, p') ∧ p'.Offers t later := by
  obtain ⟨n, whole, pre, hruns, hfollows, hlimit⟩ := h.runs
  obtain ⟨n', whole', layout', hsupply, hoffers, hle, hruns', hfollows'⟩ :=
    hruns.supply hfollows hlimit
  refine ⟨{ p with layout := layout' }, ?_,
    ⟨⟨h.fault, n', whole', pre, hruns', hfollows', Nat.lt_of_le_of_lt hle hlimit⟩, hoffers⟩⟩
  rw [peek_apply h.fault hsupply, hoffers.head]

/-- A token that has been looked at stays where it is. -/
theorem Offers.peek (h : p.Offers t later) : Read.peek p = (some t, p) := by
  rw [peek_apply h.fault (h.offers.supply p.limit), h.offers.head]

/-- A token that has been looked at is taken. -/
theorem Offers.skip (h : p.Offers t later) : ∃ p', Read.skip p = ((), p') ∧ p'.Feeds later := by
  obtain ⟨n, whole, pre, hruns, hfollows, hlimit⟩ := h.runs
  obtain ⟨rest, hwaiting⟩ := List.head?_eq_some_iff.mp h.offers.head
  refine ⟨{ p with layout := p.layout.take }, rfl, h.fault, n, whole, pre ++ [t],
    by simpa using hruns, hfollows.take hwaiting h.offers.settled, hlimit⟩

/-- What the next token is, is found out by looking at it. -/
theorem Feeds.isAt (h : p.Feeds (t :: later)) (tokens : List Token) :
    ∃ p', Read.isAt tokens p = (tokens.contains t, p') ∧ p'.Offers t later := by
  obtain ⟨p', hpeek, h'⟩ := h.peek
  refine ⟨p', ?_, h'⟩
  simp only [Read.isAt, Read.bind_apply, hpeek]
  rfl

/-- What the next token is, is known once it has been looked at. -/
theorem Offers.isAt (h : p.Offers t later) (tokens : List Token) :
    Read.isAt tokens p = (tokens.contains t, p) := by
  simp only [Read.isAt, Read.bind_apply, h.peek]
  rfl

end Progress

/-- From some tokens a reading gives a result and leaves other tokens. -/
def Gives (read : Read α) (a : α) (before after : List Token) : Prop :=
  ∀ p : Progress, p.Feeds before → ∃ p', read p = (a, p') ∧ p'.Feeds after

/-! ## Reading nodes -/

/-- Whether a token begins a node that has no anchor and no tag. -/
def isContent : Token → Bool
  | .scalar _ _ | .flowSequenceStart | .flowMappingStart => true
  | _ => false

/-- A token that begins a node is none of those that do not. -/
theorem contains_eq_false (ht : isContent t = true) (h : ∀ t' ∈ tokens, isContent t' = false) :
    tokens.contains t = false := by
  rw [List.contains_eq_mem, decide_eq_false_iff_not]
  intro hmem
  rw [h t hmem] at ht
  cases ht

variable {fuel : Nat} {next : List Token}

/-- A node without an anchor and a tag is its content. -/
theorem exists_readContent (h : p.Feeds (t :: later)) (ht : isContent t = true)
    (isBlock mayHang : Bool) (fuel : Nat) : ∃ p', p'.Offers t later ∧
      readNode isBlock mayHang (fuel + 1) p = readContent isBlock mayHang none none fuel p' := by
  obtain ⟨p', hpeek, h'⟩ := h.peek
  refine ⟨p', h', ?_⟩
  cases t <;> first
    | exact absurd ht Bool.false_ne_true
    | simp only [readNode, readProperties, Read.bind_apply, hpeek, h'.peek, Read.pure_apply,
        Read.get_apply]
      rfl

/-- A scalar is a node. -/
theorem readNode_scalar (fuel : Nat) (isBlock mayHang : Bool) (text : String) (style : Style) :
    Gives (readNode isBlock mayHang (fuel + 2)) (some (.scalar ⟨text, style, none⟩))
      (.scalar text style :: later) later := by
  intro p h
  obtain ⟨p₁, h₁, hread⟩ := exists_readContent h rfl isBlock mayHang (fuel + 1)
  obtain ⟨p₂, hskip, h₂⟩ := h₁.skip
  refine ⟨p₂, ?_, h₂⟩
  rw [hread]
  simp only [readContent, Read.bind_apply, h₁.peek, hskip]
  rfl

/-- A list between brackets is a node. -/
theorem readNode_sequence (isBlock mayHang : Bool) {items : List Node}
    (hitems : Gives (readFlowItems true fuel) items tokens later) :
    Gives (readNode isBlock mayHang (fuel + 2)) (some (.sequence none items))
      (.flowSequenceStart :: tokens) later := by
  intro p h
  obtain ⟨p₁, h₁, hread⟩ := exists_readContent h rfl isBlock mayHang (fuel + 1)
  obtain ⟨p₂, hskip, h₂⟩ := h₁.skip
  obtain ⟨p₃, hitems, h₃⟩ := hitems p₂ h₂
  refine ⟨p₃, ?_, h₃⟩
  rw [hread]
  simp only [readContent, Read.bind_apply, h₁.peek, hskip, Read.register, Read.pure_apply, hitems]

/-- A mapping between braces is a node. -/
theorem readNode_mapping (isBlock mayHang : Bool) {members : List (Node × Node)}
    (hmembers : Gives (readFlowMembers true fuel) members tokens later) :
    Gives (readNode isBlock mayHang (fuel + 2)) (some (.mapping none members))
      (.flowMappingStart :: tokens) later := by
  intro p h
  obtain ⟨p₁, h₁, hread⟩ := exists_readContent h rfl isBlock mayHang (fuel + 1)
  obtain ⟨p₂, hskip, h₂⟩ := h₁.skip
  obtain ⟨p₃, hmembers, h₃⟩ := hmembers p₂ h₂
  refine ⟨p₃, ?_, h₃⟩
  rw [hread]
  simp only [readContent, Read.bind_apply, h₁.peek, hskip, Read.register, Read.pure_apply, hmembers]

/-! ## Reading collections -/

/-- What stands in front of an item or a member: a comma, unless it is the first one. -/
def separator (isFirst : Bool) : List Token :=
  if isFirst then [] else [.flowEntry]

/-- A list ends with its bracket. -/
theorem readFlowItems_end (isFirst : Bool) :
    Gives (readFlowItems isFirst (fuel + 1)) [] (.flowSequenceEnd :: later) later := by
  intro p h
  obtain ⟨p₁, hat, h₁⟩ := h.isAt [.flowSequenceEnd]
  obtain ⟨p₂, hskip, h₂⟩ := h₁.skip
  refine ⟨p₂, ?_, h₂⟩
  simp only [readFlowItems, Read.bind_apply, hat]
  simp only [List.contains_cons, beq_self_eq_true, Bool.true_or, if_true, Read.bind_apply, hskip]
  rfl

/-- Behind a comma the reading goes on as at the beginning of the list. -/
theorem exists_readFlowItems (isFirst : Bool) (h : p.Feeds (separator isFirst ++ t :: tokens))
    (ht : isContent t = true) (fuel : Nat) : ∃ p', p'.Offers t tokens ∧
      readFlowItems isFirst (fuel + 1) p = readFlowItems true (fuel + 1) p' := by
  have hend : [Token.flowSequenceEnd].contains t = false :=
    contains_eq_false ht (by simp [isContent])
  cases isFirst with
  | true =>
    obtain ⟨p₁, hat, h₁⟩ := h.isAt [.flowSequenceEnd]
    refine ⟨p₁, h₁, ?_⟩
    simp only [readFlowItems, Read.bind_apply, hat, h₁.isAt]
  | false =>
    obtain ⟨p₁, hat, h₁⟩ := h.isAt [.flowSequenceEnd]
    -- Behind an item the comma comes first.
    obtain ⟨p₂, hskip, h₂⟩ := h₁.skip
    obtain ⟨p₃, hpeek, h₃⟩ := h₂.peek
    refine ⟨p₃, h₃, ?_⟩
    have hcomma : Read.isAt [.flowEntry] p₁ = (true, p₁) := h₁.isAt _
    have hnone : [Token.flowSequenceEnd].contains .flowEntry = false := rfl
    simp only [readFlowItems, Read.bind_apply, hat, h₃.isAt, hend, hnone, Bool.false_eq_true,
      if_false, Bool.not_false, Bool.not_true, if_true, hcomma, hskip, hpeek, h₃.peek]

/-- An item is read, and then the others. -/
theorem readFlowItems_cons (isFirst : Bool) {item : Node} {items : List Node}
    (ht : isContent t = true)
    (hitem : Gives (readNode false false fuel) (some item) (t :: tokens) next)
    (hitems : Gives (readFlowItems false fuel) items next later) :
    Gives (readFlowItems isFirst (fuel + 1)) (item :: items) (separator isFirst ++ t :: tokens)
      later := by
  intro p h
  obtain ⟨p₁, h₁, hbegin⟩ := exists_readFlowItems isFirst h ht fuel
  obtain ⟨p₂, hread, h₂⟩ := hitem p₁ h₁.toFeeds
  obtain ⟨p₃, hrest, h₃⟩ := hitems p₂ h₂
  refine ⟨p₃, ?_, h₃⟩
  have hend : [Token.flowSequenceEnd].contains t = false :=
    contains_eq_false ht (by simp [isContent])
  rw [hbegin]
  simp only [readFlowItems, Read.bind_apply, h₁.isAt, hend, Bool.false_eq_true, if_false,
    Bool.not_true, h₁.peek]
  -- Only the tokens that begin content are left, and for all of them an item is read.
  cases t <;> first
    | exact absurd ht Bool.false_ne_true
    | simp only [Read.bind_apply, hread, hrest, Read.pure_apply]

/-- A mapping ends with its brace. -/
theorem readFlowMembers_end (isFirst : Bool) :
    Gives (readFlowMembers isFirst (fuel + 1)) [] (.flowMappingEnd :: later) later := by
  intro p h
  obtain ⟨p₁, hat, h₁⟩ := h.isAt [.flowMappingEnd]
  obtain ⟨p₂, hskip, h₂⟩ := h₁.skip
  refine ⟨p₂, ?_, h₂⟩
  simp only [readFlowMembers, Read.bind_apply, hat]
  simp only [List.contains_cons, beq_self_eq_true, Bool.true_or, if_true, Read.bind_apply, hskip]
  rfl

/-- Behind a comma the reading goes on as at the beginning of the mapping. -/
theorem exists_readFlowMembers (isFirst : Bool)
    (h : p.Feeds (separator isFirst ++ .key :: tokens)) (fuel : Nat) : ∃ p', p'.Offers .key tokens ∧
      readFlowMembers isFirst (fuel + 1) p = readFlowMembers true (fuel + 1) p' := by
  have hend : [Token.flowMappingEnd].contains .key = false := rfl
  cases isFirst with
  | true =>
    obtain ⟨p₁, hat, h₁⟩ := h.isAt [.flowMappingEnd]
    refine ⟨p₁, h₁, ?_⟩
    simp only [readFlowMembers, Read.bind_apply, hat, h₁.isAt]
  | false =>
    obtain ⟨p₁, hat, h₁⟩ := h.isAt [.flowMappingEnd]
    -- Behind a member the comma comes first.
    obtain ⟨p₂, hskip, h₂⟩ := h₁.skip
    obtain ⟨p₃, hpeek, h₃⟩ := h₂.peek
    refine ⟨p₃, h₃, ?_⟩
    have hcomma : Read.isAt [.flowEntry] p₁ = (true, p₁) := h₁.isAt _
    have hnone : [Token.flowMappingEnd].contains .flowEntry = false := rfl
    simp only [readFlowMembers, Read.bind_apply, hat, h₃.isAt, hend, hnone, Bool.false_eq_true,
      if_false, Bool.not_false, Bool.not_true, if_true, hcomma, hskip, hpeek, h₃.peek]

/-- A node that must not be left out is read like any other. -/
theorem readNodeUnless_gives (absent : List Token) {isBlock mayHang : Bool} {node : Node}
    (ht : isContent t = true) (habsent : ∀ t' ∈ absent, isContent t' = false)
    (hnode : Gives (readNode isBlock mayHang fuel) (some node) (t :: tokens) next) :
    Gives (readNodeUnless absent isBlock mayHang (fuel + 1)) (some node) (t :: tokens) next := by
  intro p h
  obtain ⟨p₁, hpeek, h₁⟩ := h.peek
  obtain ⟨p₂, hread, h₂⟩ := hnode p₁ h₁.toFeeds
  refine ⟨p₂, ?_, h₂⟩
  have hnone := contains_eq_false ht habsent
  simp only [readNodeUnless, Read.bind_apply, hpeek, hnone, Bool.false_eq_true, if_false, hread]

/-- The value of a key is read, and then the other members. -/
theorem readFlowValue_gives (key : Node) {item : Node} {members : List (Node × Node)}
    (ht : isContent t = true)
    (hitem : Gives (readNode false false fuel) (some item) (t :: tokens) next)
    (hmembers : Gives (readFlowMembers false (fuel + 1)) members next later) :
    Gives (readFlowValue key (fuel + 2)) ((key, item) :: members) (.value :: t :: tokens)
      later := by
  intro p h
  obtain ⟨p₁, hat, h₁⟩ := h.isAt [.value]
  obtain ⟨p₂, hskip, h₂⟩ := h₁.skip
  obtain ⟨p₃, hread, h₃⟩ := readNodeUnless_gives [.flowEntry, .flowMappingEnd] ht
    (by simp [isContent]) hitem p₂ h₂
  obtain ⟨p₄, hrest, h₄⟩ := hmembers p₃ h₃
  refine ⟨p₄, ?_, h₄⟩
  have hvalue : [Token.value].contains .value = true := rfl
  simp only [readFlowValue, Read.bind_apply, hat, hvalue, if_true, hskip, hread, hrest,
    Read.pure_apply]

/-- A member is read, and then the others. -/
theorem readFlowMembers_cons (isFirst : Bool) (key : List Piece) {item : Node}
    {members : List (Node × Node)} (ht : isContent t = true)
    (hitem : Gives (readNode false false (fuel + 1)) (some item) (t :: tokens) next)
    (hmembers : Gives (readFlowMembers false (fuel + 2)) members next later) :
    Gives (readFlowMembers isFirst (fuel + 4)) ((stringNode key, item) :: members)
      (separator isFirst ++ .key :: stringToken key :: .value :: t :: tokens) later := by
  intro p h
  obtain ⟨p₁, h₁, hbegin⟩ := exists_readFlowMembers isFirst h (fuel + 3)
  obtain ⟨p₂, hskip, h₂⟩ := h₁.skip
  obtain ⟨p₃, hread, h₃⟩ := readNodeUnless_gives
    [.value, .flowEntry, .flowMappingEnd] rfl (by simp [isContent])
    (readNode_scalar fuel false false _ _) p₂ h₂
  obtain ⟨p₄, hvalue, h₄⟩ := readFlowValue_gives (stringNode key) ht hitem hmembers p₃ h₃
  refine ⟨p₄, ?_, h₄⟩
  have hend : [Token.flowMappingEnd].contains .key = false := rfl
  rw [hbegin]
  simp only [readFlowMembers, Read.bind_apply, h₁.isAt, hend, Bool.false_eq_true, if_false,
    Bool.not_true, h₁.peek, hskip, hread]
  exact hvalue

end Yaml

/-! ## Values -/

open Yaml

/-- The first token of a value begins a node. -/
theorem JsonSource.exists_tokens_eq (source : JsonSource) :
    ∃ t tokens, source.tokens = t :: tokens ∧ isContent t = true := by
  cases source <;> exact ⟨_, _, rfl, rfl⟩

mutual

/-- The node of a value is read from its tokens. -/
theorem JsonSource.gives (source : JsonSource) (isBlock mayHang : Bool) {fuel : Nat}
    (hfuel : 4 * source.tokens.length ≤ fuel) (later : List Token) :
    Gives (readNode isBlock mayHang fuel) (some source.node) (source.tokens ++ later) later := by
  -- The fuel is four steps for each token: a member with key, value and marks takes no more.
  match source with
  | .null | .bool _ | .number _ _ _ | .string _ =>
    simp only [JsonSource.tokens, List.length_singleton] at hfuel
    obtain ⟨fuel, rfl⟩ := Nat.exists_eq_add_of_le' (Nat.le_trans (by decide : 2 ≤ 4 * 1) hfuel)
    exact readNode_scalar fuel isBlock mayHang _ _
  | .emptyArray _ =>
    simp only [JsonSource.tokens, List.length_cons] at hfuel
    obtain ⟨fuel, rfl⟩ := Nat.exists_eq_add_of_le' (show 3 ≤ fuel by omega)
    exact readNode_sequence isBlock mayHang (readFlowItems_end true)
  | .array items =>
    simp only [JsonSource.tokens, List.length_cons] at hfuel
    obtain ⟨fuel, rfl⟩ := Nat.exists_eq_add_of_le' (show 2 ≤ fuel by omega)
    exact readNode_sequence isBlock mayHang (items.gives true (by omega) later)
  | .emptyObject _ =>
    simp only [JsonSource.tokens, List.length_cons] at hfuel
    obtain ⟨fuel, rfl⟩ := Nat.exists_eq_add_of_le' (show 3 ≤ fuel by omega)
    exact readNode_mapping isBlock mayHang (readFlowMembers_end true)
  | .object members =>
    simp only [JsonSource.tokens, List.length_cons] at hfuel
    obtain ⟨fuel, rfl⟩ := Nat.exists_eq_add_of_le' (show 2 ≤ fuel by omega)
    exact readNode_mapping isBlock mayHang (members.gives true (by omega) later)

/-- The nodes of items are read from their tokens. -/
theorem ItemsSource.gives (items : ItemsSource) (isFirst : Bool) {fuel : Nat}
    (hfuel : 4 * items.tokens.length ≤ fuel) (later : List Token) :
    Gives (readFlowItems isFirst fuel) items.nodes (separator isFirst ++ (items.tokens ++ later))
      later := by
  match items with
  | .last _ item _ =>
    obtain ⟨t, tokens, htokens, ht⟩ := item.exists_tokens_eq
    simp only [ItemsSource.tokens, List.length_append, List.length_singleton] at hfuel
    obtain ⟨fuel, rfl⟩ := Nat.exists_eq_add_of_le' (show 2 ≤ fuel by omega)
    have hlength : 4 * item.tokens.length ≤ fuel + 1 := by omega
    have hitem := item.gives false false hlength (.flowSequenceEnd :: later)
    have hend : Gives (readFlowItems false (fuel + 1)) [] (.flowSequenceEnd :: later) later :=
      readFlowItems_end false
    have hcons := readFlowItems_cons isFirst ht (by simpa [htokens] using hitem) hend
    simpa [ItemsSource.tokens, ItemsSource.nodes, htokens] using hcons
  | .cons _ item _ rest =>
    obtain ⟨t, tokens, htokens, ht⟩ := item.exists_tokens_eq
    simp only [ItemsSource.tokens, List.length_append, List.length_cons] at hfuel
    obtain ⟨fuel, rfl⟩ := Nat.exists_eq_add_of_le' (show 2 ≤ fuel by omega)
    have hlength : 4 * item.tokens.length ≤ fuel + 1 ∧ 4 * rest.tokens.length ≤ fuel + 1 := by omega
    have hitem := item.gives false false hlength.1 (.flowEntry :: (rest.tokens ++ later))
    have hrest := rest.gives false hlength.2 later
    have hcons := readFlowItems_cons isFirst ht (by simpa [separator, htokens] using hitem) hrest
    simpa [ItemsSource.tokens, ItemsSource.nodes, htokens] using hcons

/-- The nodes of members are read from their tokens. -/
theorem MembersSource.gives (members : MembersSource) (isFirst : Bool) {fuel : Nat}
    (hfuel : 4 * members.tokens.length ≤ fuel) (later : List Token) :
    Gives (readFlowMembers isFirst fuel) members.nodes
      (separator isFirst ++ (members.tokens ++ later)) later := by
  match members with
  | .last _ key _ _ item _ =>
    obtain ⟨t, tokens, htokens, ht⟩ := item.exists_tokens_eq
    simp only [MembersSource.tokens, List.length_append, List.length_cons, List.length_nil] at hfuel
    obtain ⟨fuel, rfl⟩ := Nat.exists_eq_add_of_le' (show 4 ≤ fuel by omega)
    have hlength : 4 * item.tokens.length ≤ fuel + 1 := by omega
    have hitem := item.gives false false hlength (.flowMappingEnd :: later)
    have hend : Gives (readFlowMembers false (fuel + 2)) [] (.flowMappingEnd :: later) later :=
      readFlowMembers_end false
    have hcons := readFlowMembers_cons isFirst key ht (by simpa [htokens] using hitem) hend
    simpa [MembersSource.tokens, MembersSource.nodes, htokens] using hcons
  | .cons _ key _ _ item _ rest =>
    obtain ⟨t, tokens, htokens, ht⟩ := item.exists_tokens_eq
    simp only [MembersSource.tokens, List.length_append, List.length_cons] at hfuel
    obtain ⟨fuel, rfl⟩ := Nat.exists_eq_add_of_le' (show 4 ≤ fuel by omega)
    have hlength : 4 * item.tokens.length ≤ fuel + 1 ∧ 4 * rest.tokens.length ≤ fuel + 2 := by omega
    have hitem := item.gives false false hlength.1 (.flowEntry :: (rest.tokens ++ later))
    have hrest := rest.gives false hlength.2 later
    have hcons := readFlowMembers_cons isFirst key ht
      (by simpa [separator, htokens] using hitem) hrest
    simpa [MembersSource.tokens, MembersSource.nodes, htokens] using hcons

end

/-! ## Documents -/

namespace Yaml

theorem forbidden?_eq_none_iff {s : List Char} {position : Nat} :
    forbidden? position s = none ↔ ∀ c ∈ s, isAllowed c = true := by
  induction s generalizing position with
  | nil => simp [forbidden?]
  | cons c s ih =>
    rw [forbidden?, List.forall_mem_cons]
    split_ifs with h <;> simp [h, ih]

/-- A text that begins with a node holds that one. -/
theorem readFirst_gives {t : Token} {tokens next : List Token} {node? : Option Node} {fuel : Nat}
    (ht : isContent t = true) (hnode : Gives (readNode true false fuel) node? (t :: tokens) next) :
    Gives (readFirst fuel) node? (t :: tokens) next := by
  intro p h
  obtain ⟨p₁, hpeek, h₁⟩ := h.peek
  obtain ⟨p₂, hread, h₂⟩ := hnode p₁ h₁.toFeeds
  refine ⟨p₂, ?_, h₂⟩
  cases t <;> first
    | exact absurd ht Bool.false_ne_true
    | simp only [readFirst, Read.bind_apply, hpeek, hread]

/-- Behind the node the text ends. -/
theorem readEnding_gives (fuel : Nat) :
    Gives (readEnding (fuel + 1)) () [.streamEnd] [.streamEnd] := by
  intro p h
  obtain ⟨p₁, hpeek, h₁⟩ := h.peek
  refine ⟨p₁, ?_, h₁.toFeeds⟩
  simp only [readEnding, endsAfterMarks, Read.bind_apply, hpeek, Option.isSome_some, if_true,
    h₁.peek, Read.pure_apply, Bool.not_true, Bool.false_eq_true, if_false]

end Yaml

/-- The steps that the reading of a text may take are enough for its tokens. -/
theorem JsonDocument.length_tokens_le (document : JsonDocument) :
    document.source.tokens.length ≤ document.text.length := by
  have := document.source.length_tokens_le
  rw [← String.length_toList, JsonDocument.text, String.toList_ofList]
  simp only [List.length_append]
  omega

/-- The text of an object is one document, which is the node of the object. -/
theorem JsonDocument.read_eq {document : JsonDocument} {members : List (Spelling × JsonText)}
    (h : document.IsReadable) (hobject : document.source.value = .object members)
    (hallowed : ∀ c ∈ document.text.toList, isAllowed c = true) :
    ∃ targets, Document.read document.text =
      { root := some document.source.node, targets, fault := none } := by
  obtain ⟨n, hn, hruns⟩ := JsonDocument.runs h hobject
  have hlength := document.length_tokens_le
  obtain ⟨t, tokens, htokens, ht⟩ := document.source.exists_tokens_eq
  -- The document is its root, and nothing is left behind it but the end.
  have hread : Gives (do
      let root ← readFirst (stepLimit document.text)
      readEnding (stepLimit document.text)
      return root) (some document.source.node) (document.source.tokens ++ [.streamEnd])
      [.streamEnd] := by
    intro p hp
    have hsteps : 4 * document.source.tokens.length ≤ stepLimit document.text := by
      unfold stepLimit
      omega
    have hnode := document.source.gives true false hsteps [.streamEnd]
    rw [htokens] at hnode hp
    obtain ⟨p₁, hfirst, h₁⟩ := readFirst_gives ht hnode p hp
    obtain ⟨fuel, hfuel⟩ := Nat.exists_eq_add_of_le' (show 1 ≤ stepLimit document.text by
      unfold stepLimit; omega)
    obtain ⟨p₂, hending, h₂⟩ := readEnding_gives fuel p₁ h₁
    rw [← hfuel] at hending
    refine ⟨p₂, ?_, h₂⟩
    simp only [Read.bind_apply, hfirst, hending, Read.pure_apply]
  -- The reader begins with no token at all, and follows the scanner from there.
  obtain ⟨p, hp, hfeeds⟩ := hread
    { layout := { cursor := { rest := document.text.toList } }, limit := document.text.length + 2 }
    ⟨rfl, n, _, [], hruns, ⟨⟨rfl, by simp⟩, rfl, .inl rfl⟩,
      show n < document.text.length + 2 by omega⟩
  refine ⟨p.targets, ?_⟩
  have hforbidden : forbidden? 0 document.text.toList = none := forbidden?_eq_none_iff.mpr hallowed
  simp only [Document.read, Layout.ofText, hforbidden, StateT.run, hp, hfeeds.fault]

end BrowserFlow
