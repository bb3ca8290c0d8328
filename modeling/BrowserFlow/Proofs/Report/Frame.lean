import BrowserFlow.Proofs.Report.Entity

/-!
# Frames of pages

The frame of a page is its markup, with a place left open for every shown text. A page is its frame
with the escaped texts in the places, each text in one place and in order (`Frame.Filled`). Since an
escaped text contains no delimiter, the delimiters of the page are those of the frame
(`Frame.Filled.delimiters_eq`), whatever the texts are.
-/

namespace BrowserFlow.Report

/-- A page without its texts: pieces of markup, and places where texts are shown. -/
abbrev Frame := List (Option String)

/-- The delimiters in the markup of a frame. -/
def Frame.delimiters (frame : Frame) : List Char :=
  frame.flatMap fun piece => (piece.map Report.delimiters).getD []

/-- A page is a frame with some texts in its places, one in each and in order. -/
inductive Frame.Filled : Frame → List String → String → Prop
  /-- The empty page. -/
  | nil : Filled [] [] ""
  /-- Markup stands in the page. -/
  | markup {frame : Frame} {texts : List String} {page : String} (text : String) :
    Filled frame texts page → Filled (some text :: frame) texts (text ++ page)
  /-- The next text stands in the place. -/
  | place {frame : Frame} {texts : List String} {page : String} (text : String) :
    Filled frame texts page → Filled (none :: frame) (text :: texts) (text ++ page)

theorem delimiters_append (a b : String) :
    delimiters (a ++ b) = delimiters a ++ delimiters b := by
  simp [delimiters]

/-- Texts without delimiters leave a page with the delimiters of its frame. -/
theorem Frame.Filled.delimiters_eq {frame : Frame} {texts : List String} {page : String}
    (h : frame.Filled texts page) (htexts : ∀ text ∈ texts, Report.delimiters text = []) :
    Report.delimiters page = frame.delimiters := by
  induction h with
  | nil => rfl
  | markup text _ ih =>
    rw [delimiters_append, ih htexts]
    rfl
  | place text _ ih =>
    rw [List.forall_mem_cons] at htexts
    rw [delimiters_append, ih htexts.2, htexts.1]
    rfl

/-! ## Fragments -/

/-- A fragment without its text. -/
def Fragment.outline : Fragment → Option String
  | .markup text => some text
  | .shown _ => none

/-- The text that a fragment shows. -/
def Fragment.text? : Fragment → Option String
  | .markup _ => none
  | .shown text => some text

namespace Fragments

/-- The frame of a piece of a page. -/
def frame (fragments : Fragments) : Frame :=
  fragments.map Fragment.outline

/-- The texts that a piece of a page shows, in order. -/
def texts (fragments : Fragments) : List String :=
  fragments.filterMap Fragment.text?

@[simp] theorem frame_nil : frame [] = [] := rfl

@[simp] theorem frame_markup (text : String) (rest : Fragments) :
    frame (.markup text :: rest) = some text :: frame rest := rfl

@[simp] theorem frame_shown (text : String) (rest : Fragments) :
    frame (.shown text :: rest) = none :: frame rest := rfl

@[simp] theorem frame_append (a b : Fragments) : frame (a ++ b) = frame a ++ frame b :=
  List.map_append

@[simp] theorem frame_line (depth : Nat) (content : Fragments) :
    frame (line depth content) =
      some ("".pushn ' ' (4 * depth)) :: (frame content ++ [some "\n"]) := by
  simp [line]

@[simp] theorem texts_nil : texts [] = [] := rfl

@[simp] theorem texts_markup (text : String) (rest : Fragments) :
    texts (.markup text :: rest) = texts rest := rfl

@[simp] theorem texts_shown (text : String) (rest : Fragments) :
    texts (.shown text :: rest) = text :: texts rest := rfl

@[simp] theorem texts_append (a b : Fragments) : texts (a ++ b) = texts a ++ texts b :=
  List.filterMap_append

@[simp] theorem texts_line (depth : Nat) (content : Fragments) :
    texts (line depth content) = texts content := by
  simp [line]

@[simp] theorem texts_markupLine (depth : Nat) (text : String) :
    texts (markupLine depth text) = [] := by
  simp [markupLine]

@[simp] theorem texts_emptyLine : texts emptyLine = [] := rfl

theorem frame_flatten (pieces : List Fragments) :
    frame pieces.flatten = (pieces.map frame).flatten :=
  List.map_flatten

theorem texts_flatten (pieces : List Fragments) :
    texts pieces.flatten = (pieces.map texts).flatten :=
  List.filterMap_flatten

theorem texts_flatMap {α : Type} (f : α → Fragments) (items : List α) :
    texts (items.flatMap f) = items.flatMap fun a => texts (f a) := by
  rw [List.flatMap_def, texts_flatten, List.map_map, List.flatMap_def, Function.comp_def]

/-- Pieces that are made of related items have the same frame if the items' pieces do. -/
theorem frame_flatMap_eq {α : Type} {R : α → α → Prop} (f : α → Fragments)
    (hf : ∀ a b, R a b → frame (f a) = frame (f b)) {as bs : List α}
    (h : List.Forall₂ R as bs) : frame (as.flatMap f) = frame (bs.flatMap f) := by
  induction h with
  | nil => rfl
  | cons hab _ ih => simp only [List.flatMap_cons, frame_append, hf _ _ hab, ih]

theorem render_cons (fragment : Fragment) (fragments : Fragments) :
    render (fragment :: fragments) = fragment.render ++ render fragments := by
  cases fragments with
  | nil => simp [render]
  | cons next rest => simp [render, String.intercalate_cons_cons]

/-- A rendered page is its frame with its escaped texts in the places. -/
theorem filled (fragments : Fragments) :
    (frame fragments).Filled ((texts fragments).map escaped) (render fragments) := by
  induction fragments with
  | nil => exact .nil
  | cons fragment fragments ih =>
    rw [render_cons]
    cases fragment with
    | markup text => exact .markup text ih
    | shown text => exact .place (escaped text) ih

/-- The delimiters of a rendered page are those of its frame. -/
theorem delimiters_render (fragments : Fragments) :
    delimiters (render fragments) = (frame fragments).delimiters := by
  refine (filled fragments).delimiters_eq fun text htext => ?_
  obtain ⟨shown, -, rfl⟩ := List.mem_map.mp htext
  exact delimiters_escaped shown

end Fragments

end BrowserFlow.Report
