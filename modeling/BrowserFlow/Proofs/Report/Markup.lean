import BrowserFlow.Proofs.Report.Entity
import BrowserFlow.Text.Blank

/-!
# Reading markup

What a page shows is decided by whoever reads it, so the markup of a page is read here without
regard to how it was written: character by character, with the elements kept in mind that are still
open. The text of a section is markup if all its elements are closed in the reverse order of their
opening (`nodes?`), and it then stands for a list of characters and elements.

What the parts of a text stand for, the text stands for in their order (`Reads.append`), and a text
between two tags of an element becomes that element (`Reads.tagged`). `Contains`, `IsBox` and
`Encloses` say what a reader sees in this: elements with blanks between them, an element that shows
a text, and an element around others.
-/

namespace BrowserFlow.Report

open Text

/-- What markup stands for. -/
inductive Node
  /-- A character. -/
  | char (c : Char)
  /-- An element, with what is between its tags. -/
  | element (name attributes : String) (content : List Node)

/-- How far markup has been read. -/
structure Reader where
  /-- The tag that is being read, without its brackets. -/
  tag : Option (List Char)
  /-- What has been read of the innermost element that is open. -/
  content : List Node
  /-- The names and attributes of the elements that are open, the innermost first, each with what
  was read before it. -/
  opened : List ((String × String) × List Node)

namespace Reader

/-- Whether a character is part of a name. -/
def isNameChar (c : Char) : Bool :=
  c != ' '

/-- A tag has been read: it closes the innermost element, if that has its name, or opens another. -/
def endTag (reader : Reader) : (tag : List Char) → Option Reader
  | '/' :: name =>
    match reader.opened with
    | [] => none
    | ((opened, attributes), before) :: rest =>
      if opened.toList = name then
        some ⟨none, before ++ [.element opened attributes reader.content], rest⟩
      else none
  | tag =>
    let name := String.ofList (tag.takeWhile isNameChar)
    let attributes := String.ofList ((tag.dropWhile isNameChar).drop 1)
    some ⟨none, [], ((name, attributes), reader.content) :: reader.opened⟩

/-- One more character is read. -/
def next (reader : Reader) (c : Char) : Option Reader :=
  match reader.tag with
  | none =>
    if c = '<' then some { reader with tag := some [] }
    else some { reader with content := reader.content ++ [.char c] }
  | some tag =>
    if c = '<' then none
    else if c = '>' then reader.endTag tag
    else some { reader with tag := some (tag ++ [c]) }

end Reader

/-- What a text stands for, if it is markup all of whose elements are closed. -/
def nodes? (s : String) : Option (List Node) :=
  match s.toList.foldlM Reader.next ⟨none, [], []⟩ with
  | some ⟨none, nodes, []⟩ => some nodes
  | _ => none

/-- A text stands for some nodes, wherever it is in a page. -/
def Reads (s : String) (nodes : List Node) : Prop :=
  ∀ before opened, s.toList.foldlM Reader.next ⟨none, before, opened⟩ =
    some ⟨none, before ++ nodes, opened⟩

/-- The tag that opens an element. -/
def openTag (name attributes : String) : String :=
  "<" ++ name ++ " " ++ attributes ++ ">"

/-- The tag that closes an element. -/
def closeTag (name : String) : String :=
  "</" ++ name ++ ">"

/-- A text between the tags of an element. -/
def tagged (name attributes s : String) : String :=
  openTag name attributes ++ s ++ closeTag name

/-- A name and attributes that can stand in a tag. -/
structure IsTag (name attributes : String) : Prop where
  /-- The tag does not look like one that closes an element. -/
  head_ne : name.toList.head? ≠ some '/'
  /-- The name ends before the attributes. -/
  name : ∀ c ∈ name.toList, c ≠ '<' ∧ c ≠ '>' ∧ Reader.isNameChar c = true
  /-- The attributes end before the tag does. -/
  attributes : ∀ c ∈ attributes.toList, c ≠ '<' ∧ c ≠ '>'

instance (name attributes : String) : Decidable (IsTag name attributes) :=
  have := List.decidableBAll (fun c => c ≠ '<' ∧ c ≠ '>' ∧ Reader.isNameChar c = true) name.toList
  have := List.decidableBAll (fun c => c ≠ '<' ∧ c ≠ '>') attributes.toList
  decidable_of_iff (name.toList.head? ≠ some '/' ∧
      (∀ c ∈ name.toList, c ≠ '<' ∧ c ≠ '>' ∧ Reader.isNameChar c = true) ∧
      ∀ c ∈ attributes.toList, c ≠ '<' ∧ c ≠ '>')
    ⟨fun ⟨hhead, hname, hattributes⟩ => ⟨hhead, hname, hattributes⟩,
      fun h => ⟨h.head_ne, h.name, h.attributes⟩⟩

/-! ## Reading -/

namespace Reads

variable {s s' name attributes : String} {nodes nodes' : List Node}

/-- A text that stands for some nodes is markup. -/
theorem nodes?_eq (h : Reads s nodes) : nodes? s = some nodes := by
  rw [nodes?, h [] []]
  rfl

/-- Nothing stands for nothing. -/
theorem nil : Reads "" [] := fun before _ => by
  rw [List.append_nil]
  rfl

/-- What two texts stand for, they stand for one after the other. -/
theorem append (h : Reads s nodes) (h' : Reads s' nodes') : Reads (s ++ s') (nodes ++ nodes') := by
  intro before opened
  rw [String.toList_append, List.foldlM_append, h before opened]
  simpa using h' (before ++ nodes) opened

/-- A text without a tag stands for its characters. -/
theorem chars (h : '<' ∉ s.toList) : Reads s (s.toList.map .char) := by
  unfold Reads
  generalize s.toList = w at h ⊢
  induction w with
  | nil => simp
  | cons c w ih =>
    rw [List.mem_cons, not_or] at h
    intro before opened
    simp only [List.foldlM_cons, Reader.next, if_neg (Ne.symm h.1), Option.bind_eq_bind,
      Option.bind_some, ih h.2]
    simp

/-- The characters of a tag are gathered until it ends. -/
theorem foldlM_tag {w : List Char} (h : ∀ c ∈ w, c ≠ '<' ∧ c ≠ '>') (content : List Node)
    (opened : List ((String × String) × List Node)) :
    ('<' :: (w ++ ['>'])).foldlM Reader.next ⟨none, content, opened⟩ =
      Reader.endTag ⟨some w, content, opened⟩ w := by
  have hgather (tag : List Char) : (w ++ ['>']).foldlM Reader.next ⟨some tag, content, opened⟩ =
      Reader.endTag ⟨some (tag ++ w), content, opened⟩ (tag ++ w) := by
    induction w generalizing tag with
    | nil => simp [Reader.next]
    | cons c w ih =>
      rw [List.forall_mem_cons] at h
      simp only [List.cons_append, List.foldlM_cons, Reader.next, if_neg h.1.1, if_neg h.1.2,
        Option.bind_eq_bind, Option.bind_some, ih h.2]
      simp
  exact hgather []

/-- A tag with a name and attributes opens an element. -/
theorem endTag_open (htag : IsTag name attributes) (reader : Reader) :
    reader.endTag (name.toList ++ ' ' :: attributes.toList) =
      some ⟨none, [], ((name, attributes), reader.content) :: reader.opened⟩ := by
  have hchars : ∀ c ∈ name.toList, Reader.isNameChar c = true := fun c hc => (htag.name c hc).2.2
  have hblank : ¬ Reader.isNameChar ' ' = true := by decide
  unfold Reader.endTag
  split
  · -- The tag would start with a slash, and so would the name.
    rename_i close heq
    cases hw : name.toList with
    | nil =>
      rw [hw] at heq
      cases heq
    | cons c w =>
      rw [hw] at heq
      obtain ⟨rfl, -⟩ := List.cons.inj heq
      exact absurd (congrArg List.head? hw) htag.head_ne
  · simp only [List.takeWhile_append_of_pos hchars, List.dropWhile_append_of_pos hchars,
      List.takeWhile_cons_of_neg hblank, List.dropWhile_cons_of_neg hblank, List.append_nil,
      List.drop_one, List.tail_cons, String.ofList_toList]

/-- What stands between the tags of an element is the content of that element. -/
theorem tagged (htag : IsTag name attributes) (h : Reads s nodes) :
    Reads (Report.tagged name attributes s) [.element name attributes nodes] := by
  have hopen : ∀ c ∈ name.toList ++ ' ' :: attributes.toList, c ≠ '<' ∧ c ≠ '>' := by
    intro c hc
    rw [List.mem_append, List.mem_cons] at hc
    rcases hc with hc | rfl | hc
    · exact ⟨(htag.name c hc).1, (htag.name c hc).2.1⟩
    · decide
    · exact htag.attributes c hc
  have hclose : ∀ c ∈ '/' :: name.toList, c ≠ '<' ∧ c ≠ '>' := by
    rw [List.forall_mem_cons]
    exact ⟨by decide, fun c hc => ⟨(htag.name c hc).1, (htag.name c hc).2.1⟩⟩
  -- Cut into the opening tag, what is enclosed and the closing tag, as the reader comes to them.
  have htext : (Report.tagged name attributes s).toList =
      '<' :: ((name.toList ++ ' ' :: attributes.toList) ++ ['>']) ++
        (s.toList ++ '<' :: (('/' :: name.toList) ++ ['>'])) := by
    simp [Report.tagged, openTag, closeTag]
  intro before opened
  rw [htext, List.foldlM_append, foldlM_tag hopen, endTag_open htag, Option.bind_eq_bind,
    Option.bind_some, List.foldlM_append, h, Option.bind_eq_bind, Option.bind_some,
    foldlM_tag hclose]
  simp [Reader.endTag]

end Reads

/-! ## What a reader sees -/

/-- Whether a node is an element. -/
def Node.isElement : Node → Bool
  | .char _ => false
  | .element _ _ _ => true

/-- Some nodes are these elements, and there are only blanks around them. -/
structure Holds (nodes elements : List Node) : Prop where
  /-- The elements, in order. -/
  elements_eq : nodes.filter Node.isElement = elements
  /-- All characters are blanks. -/
  blank : ∀ c, .char c ∈ nodes → isBlank c = true

/-- Some nodes are characters that are read as a text. -/
def Says (nodes : List Node) (text : String) : Prop :=
  ∃ chars, nodes = chars.map .char ∧ unescape chars = text.toList

/-- A node is an element that shows a text. -/
def IsBox (name attributes text : String) (node : Node) : Prop :=
  ∃ content, node = .element name attributes content ∧ Says content text

/-- A node is an element around these elements. -/
def Encloses (name attributes : String) (elements : List Node) (node : Node) : Prop :=
  ∃ content, node = .element name attributes content ∧ Holds content elements

/-- A text is markup of these elements. -/
def Contains (s : String) (elements : List Node) : Prop :=
  ∃ nodes, Reads s nodes ∧ Holds nodes elements

/-- A text without tags is read as another text. -/
def Writes (s text : String) : Prop :=
  '<' ∉ s.toList ∧ unescape s.toList = text.toList

/-- A text with entities is read as the text that is shown. -/
theorem writes_escaped (text : String) : Writes (escaped text) text := by
  refine ⟨fun hlt => ?_, unescape_escaped text⟩
  have hmem : '<' ∈ delimiters (escaped text) := List.mem_filter.mpr ⟨hlt, rfl⟩
  rw [delimiters_escaped] at hmem
  cases hmem

/-- A text without markup and entities is read as it stands. -/
theorem writes_self {s : String} (hlt : '<' ∉ s.toList) (hamp : '&' ∉ s.toList) : Writes s s := by
  refine ⟨hlt, ?_⟩
  generalize s.toList = w at hamp
  induction w with
  | nil => rfl
  | cons c w ih =>
    rw [List.mem_cons, not_or] at hamp
    rw [unescape_cons (Ne.symm hamp.1), ih hamp.2]

namespace Contains

variable {s s' name attributes text : String} {elements elements' : List Node}

/-- Blanks are markup of no element. -/
theorem blank (h : ∀ c ∈ s.toList, isBlank c = true) : Contains s [] := by
  have hlt : '<' ∉ s.toList := fun hmem => absurd (h '<' hmem) (by decide)
  refine ⟨_, .chars hlt, ?_, fun c hc => ?_⟩
  · simp [List.filter_eq_nil_iff, Node.isElement]
  · obtain ⟨d, hd, hdc⟩ := List.mem_map.mp hc
    exact Node.char.inj hdc ▸ h d hd

/-- Nothing is markup of no element. -/
theorem nil : Contains "" [] :=
  blank (by simp)

/-- Nor is the end of a line. -/
theorem lineFeed : Contains "\n" [] :=
  blank (List.all_eq_true.mp (by decide))

/-- The elements of two texts stand one after the other. -/
theorem append (h : Contains s elements) (h' : Contains s' elements') :
    Contains (s ++ s') (elements ++ elements') := by
  obtain ⟨nodes, hreads, hholds⟩ := h
  obtain ⟨nodes', hreads', hholds'⟩ := h'
  refine ⟨nodes ++ nodes', hreads.append hreads', ?_, fun c hc => ?_⟩
  · rw [List.filter_append, hholds.elements_eq, hholds'.elements_eq]
  · rcases List.mem_append.mp hc with hc | hc
    · exact hholds.blank c hc
    · exact hholds'.blank c hc

/-- An element is markup of itself. -/
theorem element {nodes : List Node} (htag : IsTag name attributes) (h : Reads s nodes) :
    Contains (tagged name attributes s) [.element name attributes nodes] :=
  ⟨_, h.tagged htag, rfl, by simp⟩

/-- A text between tags becomes an element that shows it. -/
theorem box (htag : IsTag name attributes) (h : Writes s text) :
    ∃ node, Contains (tagged name attributes s) [node] ∧ IsBox name attributes text node :=
  ⟨_, element htag (.chars h.1), _, rfl, _, rfl, h.2⟩

/-- Elements between tags are enclosed in an element. -/
theorem enclosed (htag : IsTag name attributes) (h : Contains s elements) :
    ∃ node, Contains (tagged name attributes s) [node] ∧
      Encloses name attributes elements node := by
  obtain ⟨nodes, hreads, hholds⟩ := h
  exact ⟨_, element htag hreads, nodes, rfl, hholds⟩

/-- What is markup of some elements is read as them. -/
theorem exists_nodes (h : Contains s elements) :
    ∃ nodes, nodes? s = some nodes ∧ Holds nodes elements := by
  obtain ⟨nodes, hreads, hholds⟩ := h
  exact ⟨nodes, hreads.nodes?_eq, hholds⟩

end Contains

end BrowserFlow.Report
