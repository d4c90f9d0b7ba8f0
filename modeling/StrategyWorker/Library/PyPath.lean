import StrategyWorker.Library.PyText

/-!
# Paths

{lit}`pathlib.PurePosixPath`: a root, which is empty for a relative path, and
the parts after it.  Only what does not ask the file system is here.

Main results:

- Definition {lit}`ofText`: the path that a text stands for.
- Definition {lit}`relativeTo?`: a path seen from one of its ancestors.
- Theorem {lit}`ofText_of_name`: a text without a slash.
-/

namespace StrategyWorker
namespace Library

open PyText

structure PyPath where
  root : String
  parts : List String
  deriving DecidableEq, Repr

namespace PyPath

/-- The root of a path's text: two leading slashes are kept, more are one. -/
def rootOf (text : String) : String :=
  match text.toList with
  | '/' :: '/' :: '/' :: _ => "/"
  | '/' :: '/' :: _ => "//"
  | '/' :: _ => "/"
  | _ => ""

/-- {lit}`text.split(separator)`. -/
def splitText (separator : Char) (text : String) : List String :=
  (text.toList.splitOn separator).map String.ofList

/-- {lit}`Path(text)`. -/
def ofText (text : String) : PyPath where
  root := rootOf text
  parts := (splitText '/' text).filter fun part => part ≠ "" ∧ part ≠ "."

/-- {lit}`is_absolute()`. -/
def isAbsolute (p : PyPath) : Bool :=
  p.root ≠ ""

/-- {lit}`p / q`. -/
def join (p q : PyPath) : PyPath :=
  if q.isAbsolute then q else ⟨p.root, p.parts ++ q.parts⟩

/-- {lit}`p / text`. -/
def child (p : PyPath) (text : String) : PyPath :=
  p.join (ofText text)

/-- {lit}`p.joinpath(*texts)`. -/
def joinpath (p : PyPath) (texts : List String) : PyPath :=
  texts.foldl child p

def parent (p : PyPath) : PyPath :=
  ⟨p.root, p.parts.dropLast⟩

def name (p : PyPath) : String :=
  p.parts.getLastD ""

/-- The name before and from its last dot; a dot at either end of the name does not count. -/
def splitName (p : PyPath) : String × String :=
  let reversed := p.name.toList.reverse
  let extension := (reversed.takeWhile fun c => c ≠ '.').reverse
  let before := (reversed.drop (extension.length + 1)).reverse
  if '.' ∈ reversed ∧ before ≠ [] ∧ extension ≠ [] then
    (String.ofList before, String.ofList ('.' :: extension))
  else (p.name, "")

def stem (p : PyPath) : String :=
  p.splitName.1

def suffix (p : PyPath) : String :=
  p.splitName.2

/-- {lit}`str(p)`. -/
def text (p : PyPath) : String :=
  if p.root = "" ∧ p.parts = [] then "." else p.root ++ String.intercalate "/" p.parts

/-- {lit}`p.relative_to(base)`: {lit}`none` where it raises. -/
def relativeTo? (p base : PyPath) : Option PyPath :=
  if p.root = base.root ∧ base.parts.isPrefixOf p.parts then
    some ⟨"", p.parts.drop base.parts.length⟩
  else none

/-! ## Names -/

/-- No part that a text is split into has the separator. -/
theorem not_mem_of_mem_splitOn {α : Type} [DecidableEq α] {a : α} {xs part : List α}
    (h : part ∈ xs.splitOn a) : a ∉ part := by
  induction xs generalizing part with
  | nil =>
      rw [List.splitOn_nil, List.mem_singleton] at h
      simp [h]
  | cons x xs ih =>
      rw [List.splitOn_cons_eq_if_modifyHead] at h
      split at h
      · rcases List.mem_cons.1 h with rfl | h
        · simp
        · exact ih h
      · rename_i hx
        cases hsplit : xs.splitOn a with
        | nil => exact absurd hsplit (List.splitOn_ne_nil a xs)
        | cons first rest =>
            rw [hsplit, List.modifyHead_cons, List.mem_cons] at h
            rcases h with rfl | h
            · rw [List.mem_cons, not_or]
              exact ⟨fun heq => hx (beq_iff_eq.2 heq.symm), ih (hsplit ▸ List.mem_cons_self)⟩
            · exact ih (hsplit ▸ List.mem_cons_of_mem first h)

/-- The parts of a path that a text stands for. -/
theorem of_mem_parts_ofText {text part : String} (h : part ∈ (ofText text).parts) :
    part ≠ "" ∧ part ≠ "." ∧ '/' ∉ part.toList := by
  unfold ofText at h
  rcases List.mem_filter.1 h with ⟨hsplit, hpart⟩
  rcases List.mem_map.1 hsplit with ⟨chars, hchars, rfl⟩
  have hnames := of_decide_eq_true hpart
  refine ⟨hnames.1, hnames.2, ?_⟩
  rw [String.toList_ofList]
  exact not_mem_of_mem_splitOn hchars

/-- A text without a slash is a relative path of one part. -/
theorem ofText_of_name {name : String} (hempty : name ≠ "") (hdot : name ≠ ".")
    (hslash : '/' ∉ name.toList) : ofText name = ⟨"", [name]⟩ := by
  have hroot : rootOf name = "" := by
    unfold rootOf
    split <;> rename_i heq <;> first | rfl | simp [heq] at hslash
  have hparts : splitText '/' name = [name] := by
    rw [splitText, List.splitOn_eq_singleton hslash, List.map_singleton, String.ofList_toList]
  simp [ofText, hroot, hparts, hempty, hdot]

theorem child_of_name (p : PyPath) {name : String} (hempty : name ≠ "") (hdot : name ≠ ".")
    (hslash : '/' ∉ name.toList) : p.child name = ⟨p.root, p.parts ++ [name]⟩ := by
  rw [child, ofText_of_name hempty hdot hslash]
  rfl

/-- The stem of a name is a part of it. -/
theorem stem_subset_name (p : PyPath) : p.stem.toList ⊆ p.name.toList := by
  unfold stem splitName
  dsimp only
  split
  · intro c hc
    simp only [String.toList_ofList, List.mem_reverse] at hc
    exact List.mem_reverse.1 (List.mem_of_mem_drop hc)
  · exact fun c hc => hc

example : (ofText "/srv//bundles/./sma.tar.gz").text = "/srv/bundles/sma.tar.gz" ∧
    (ofText "/srv/sma.tar.gz").suffix = ".gz" ∧ (ofText "/srv/.gz").suffix = "" := by
  decide +kernel

end PyPath
end Library
end StrategyWorker
