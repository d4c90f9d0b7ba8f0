import Mathlib.Data.List.Infix
import StrategyWorker.Library.PyPath

/-!
# File trees without symbolic links

A place is the list of names from the root of the file system.  A path leads to
a place: {lit}`..` leaves the directory reached so far.  A tree says what is at
each place; what changes from one tree to another is compared with a place that
a program should stay under.

Main results:

- Theorem {lit}`walk_of_stays`: a path that never leaves its start leads to the
  same place under every start.
- Theorem {lit}`not_under_walk_of_leaves`: one that leaves it can end elsewhere.
- Theorem {lit}`OnlyTouches.trans`: what is touched by two changes.
- Theorem {lit}`Overwritten.holdsExactly_iff`: when the files below a place are
  those that were written.
-/

namespace StrategyWorker
namespace Library

abbrev Place := List String

/-! ## Paths -/

/-- The place that parts lead to from a place. -/
def walk : Place → List String → Place
  | base, [] => base
  | base, part :: parts =>
      if part = ".." then walk base.dropLast parts else walk (base ++ [part]) parts

/-- The place of a path, without symbolic links. -/
def PyPath.place (cwd : Place) (p : PyPath) : Place :=
  walk (if p.isAbsolute then [] else cwd) p.parts

/-- The parts reached inside the start of a walk; {lit}`none` when it leaves its start. -/
def stays : Place → List String → Option Place
  | reached, [] => some reached
  | reached, part :: parts =>
      if part = ".." then
        if reached = [] then none else stays reached.dropLast parts
      else stays (reached ++ [part]) parts

attribute [local simp] walk stays in
theorem walk_append (base : Place) (parts parts' : List String) :
    walk base (parts ++ parts') = walk (walk base parts) parts' := by
  induction parts generalizing base with
  | nil => rfl
  | cons part parts ih =>
      simp only [List.cons_append, walk]
      split <;> exact ih _

/-- Without {lit}`..` the parts are followed one by one. -/
theorem walk_of_plain (base : Place) {parts : List String} (h : ".." ∉ parts) :
    walk base parts = base ++ parts := by
  induction parts generalizing base with
  | nil => simp [walk]
  | cons part parts ih =>
      rw [List.mem_cons, not_or] at h
      rw [walk, if_neg (Ne.symm h.1), ih _ h.2, List.append_assoc]
      rfl

/-- A place reached is named without {lit}`..`. -/
theorem not_mem_walk {base : Place} (h : ".." ∉ base) (parts : List String) :
    ".." ∉ walk base parts := by
  induction parts generalizing base with
  | nil => exact h
  | cons part parts ih =>
      rw [walk]
      split
      · exact ih fun hmem => h (List.mem_of_mem_dropLast hmem)
      · rename_i hpart
        refine ih fun hmem => ?_
        rcases List.mem_append.1 hmem with hmem | hmem
        · exact h hmem
        · exact hpart (List.mem_singleton.1 hmem).symm

theorem PyPath.place_of_plain (cwd : Place) {root : String} {parts : List String}
    (hroot : root ≠ "") (h : ".." ∉ parts) : PyPath.place cwd ⟨root, parts⟩ = parts := by
  have habsolute : PyPath.isAbsolute ⟨root, parts⟩ = true := decide_eq_true hroot
  rw [PyPath.place, habsolute, if_pos rfl, walk_of_plain _ h, List.nil_append]

theorem PyPath.not_mem_place {cwd : Place} (h : ".." ∉ cwd) (p : PyPath) :
    ".." ∉ p.place cwd := by
  unfold PyPath.place
  split
  · exact not_mem_walk (by simp) _
  · exact not_mem_walk h _

theorem stays_of_plain (reached : Place) {parts : List String} (h : ".." ∉ parts) :
    stays reached parts = some (reached ++ parts) := by
  induction parts generalizing reached with
  | nil => simp [stays]
  | cons part parts ih =>
      rw [List.mem_cons, not_or] at h
      rw [stays, if_neg (Ne.symm h.1), ih _ h.2, List.append_assoc]
      rfl

/-- A path that never leaves its start leads to the same place under every start. -/
theorem walk_of_stays (base : Place) {reached reached' : Place} {parts : List String}
    (h : stays reached parts = some reached') :
    walk (base ++ reached) parts = base ++ reached' := by
  induction parts generalizing reached with
  | nil =>
      obtain rfl := Option.some.inj h
      rfl
  | cons part parts ih =>
      rw [stays] at h
      rw [walk]
      split_ifs at h ⊢ with hup hstart
      · rw [List.dropLast_append_of_ne_nil hstart]
        exact ih h
      · rw [List.append_assoc]
        exact ih h

/-- Once a walk is outside a directory whose name it does not use, it stays outside. -/
theorem not_under_walk {fresh : String} {parts : List String} (hfresh : fresh ∉ parts)
    {base : Place} (hbase : ¬ [fresh] <+: base) : ¬ [fresh] <+: walk base parts := by
  induction parts generalizing base with
  | nil => exact hbase
  | cons part parts ih =>
      rw [List.mem_cons, not_or] at hfresh
      rw [walk]
      split
      · exact ih hfresh.2 fun h => hbase (h.trans (List.dropLast_prefix base))
      · refine ih hfresh.2 fun h => ?_
        cases base with
        | nil => exact hfresh.1 (by simpa using h)
        | cons name names => exact hbase (by simpa using h)

/-- A path that leaves its start leads out of a directory whose name it does not use. -/
theorem not_under_walk_of_leaves {fresh : String} {parts : List String} (hfresh : fresh ∉ parts)
    {reached : Place} (h : stays reached parts = none) :
    ¬ [fresh] <+: walk (fresh :: reached) parts := by
  induction parts generalizing reached with
  | nil => cases h
  | cons part parts ih =>
      rw [List.mem_cons, not_or] at hfresh
      rw [stays] at h
      rw [walk]
      split_ifs at h ⊢ with hup hstart
      · subst hstart
        exact not_under_walk hfresh.2 (by simp)
      · rw [List.dropLast_cons_of_ne_nil hstart]
        exact ih hfresh.2 h
      · exact ih hfresh.2 h

/-! ## Trees -/

inductive FileNode where
  | directory
  | file (bytes : List Nat)
  deriving DecidableEq

/-- What is at each place. -/
abbrev FileTree := Place → Option FileNode

/-- A directory with all those it lies in. -/
def DirectoryAt (tree : FileTree) (base : Place) : Prop :=
  ∀ place, place <+: base → tree place = some .directory

/-- Everything that changed is in a directory, below it. -/
def ChangesBelow (base : Place) (tree tree' : FileTree) : Prop :=
  ∀ place, tree' place = tree place ∨ base <+: place ∧ place ≠ base

/-- Elsewhere nothing changed but that missing directories were made. -/
def OnlyTouches (within : Place → Prop) (tree tree' : FileTree) : Prop :=
  ∀ place, within place ∨ tree' place = tree place ∨
    tree place = none ∧ tree' place = some .directory

theorem ChangesBelow.refl (base : Place) (tree : FileTree) : ChangesBelow base tree tree :=
  fun _ => .inl rfl

theorem ChangesBelow.trans {base : Place} {tree tree' tree'' : FileTree}
    (h : ChangesBelow base tree tree') (h' : ChangesBelow base tree' tree'') :
    ChangesBelow base tree tree'' := by
  intro place
  rcases h' place with heq' | hbelow
  · rcases h place with heq | hbelow
    · exact .inl (heq'.trans heq)
    · exact .inr hbelow
  · exact .inr hbelow

/-- The directory itself is still there. -/
theorem ChangesBelow.directoryAt {base : Place} {tree tree' : FileTree}
    (h : ChangesBelow base tree tree') (hbase : DirectoryAt tree base) :
    DirectoryAt tree' base := by
  intro place hplace
  rcases h place with heq | ⟨hunder, hne⟩
  · rw [heq]
    exact hbase place hplace
  · exact absurd (hplace.eq_of_length_le hunder.length_le) hne

theorem OnlyTouches.refl (within : Place → Prop) (tree : FileTree) :
    OnlyTouches within tree tree :=
  fun _ => .inr (.inl rfl)

/-- What is touched by two changes. -/
theorem OnlyTouches.trans {within : Place → Prop} {tree tree' tree'' : FileTree}
    (h : OnlyTouches within tree tree') (h' : OnlyTouches within tree' tree'') :
    OnlyTouches within tree tree'' := by
  intro place
  rcases h place with hwithin | heq | ⟨hnone, hmade⟩
  · exact .inl hwithin
  · rcases h' place with hwithin | heq' | ⟨hnone', hmade'⟩
    · exact .inl hwithin
    · exact .inr (.inl (heq'.trans heq))
    · exact .inr (.inr ⟨heq ▸ hnone', hmade'⟩)
  · rcases h' place with hwithin | heq' | ⟨hnone', hmade'⟩
    · exact .inl hwithin
    · exact .inr (.inr ⟨hnone, heq'.trans hmade⟩)
    · rw [hmade] at hnone'
      cases hnone'

theorem OnlyTouches.mono {within within' : Place → Prop} {tree tree' : FileTree}
    (h : OnlyTouches within tree tree') (hwithin : ∀ place, within place → within' place) :
    OnlyTouches within' tree tree' :=
  fun place => (h place).imp_left (hwithin place)

/-! ## Writes -/

/-- The bytes of the file at a place. -/
def fileBytes (tree : FileTree) (q : Place) : Option (List Nat) :=
  match tree q with
  | some (.file bytes) => some bytes
  | _ => none

/-- What was written to a place last. -/
def lastWritten (writes : List (Place × List Nat)) (q : Place) : Option (List Nat) :=
  (writes.reverse.find? fun write => write.1 = q).map Prod.snd

/-- The files are those of the first tree, with the writes on top. -/
def Overwritten (first tree : FileTree) (writes : List (Place × List Nat)) : Prop :=
  ∀ q, fileBytes tree q = (lastWritten writes q).or (fileBytes first q)

/-- The files below a place are those that were written. -/
def HoldsExactly (tree : FileTree) (base : Place) (writes : List (Place × List Nat)) : Prop :=
  ∀ q bytes, base <+: q ∧ fileBytes tree q = some bytes ↔ lastWritten writes q = some bytes

theorem fileBytes_eq_some_iff {tree : FileTree} {q : Place} {bytes : List Nat} :
    fileBytes tree q = some bytes ↔ tree q = some (.file bytes) := by
  unfold fileBytes
  split
  · rename_i content h
    simp [h]
  · rename_i h
    simpa using h bytes

/-- Making a directory where nothing was changes no file. -/
theorem fileBytes_eq_of_made {tree tree' : FileTree} {q : Place}
    (h : tree' q = tree q ∨ tree q = none ∧ tree' q = some .directory) :
    fileBytes tree' q = fileBytes tree q := by
  unfold fileBytes
  rcases h with heq | ⟨hnone, hmade⟩
  · rw [heq]
  · rw [hnone, hmade]

theorem lastWritten_concat (writes : List (Place × List Nat)) (place : Place) (bytes : List Nat)
    (q : Place) :
    lastWritten (writes ++ [(place, bytes)]) q =
      if place = q then some bytes else lastWritten writes q := by
  unfold lastWritten
  rw [List.reverse_append, List.reverse_singleton, List.singleton_append, List.find?_cons]
  by_cases h : place = q
  · simp [h]
  · simp [h]

theorem lastWritten_eq_none_iff {writes : List (Place × List Nat)} {q : Place} :
    lastWritten writes q = none ↔ q ∉ writes.map Prod.fst := by
  unfold lastWritten
  rw [Option.map_eq_none_iff, List.find?_eq_none, List.mem_map]
  constructor
  · rintro h ⟨write, hmem, hplace⟩
    exact h write (List.mem_reverse.2 hmem) (decide_eq_true hplace)
  · intro h write hmem hplace
    exact h ⟨write, List.mem_reverse.1 hmem, of_decide_eq_true hplace⟩

theorem mem_of_lastWritten {writes : List (Place × List Nat)} {q : Place} {bytes : List Nat}
    (h : lastWritten writes q = some bytes) : (q, bytes) ∈ writes := by
  rcases Option.map_eq_some_iff.1 h with ⟨⟨place, content⟩, hfind, rfl⟩
  have hplace : place = q := by simpa using List.find?_some hfind
  exact hplace ▸ List.mem_reverse.1 (List.mem_of_find?_eq_some hfind)

theorem Overwritten.refl (first : FileTree) : Overwritten first first [] :=
  fun _ => rfl

theorem Overwritten.keep {first tree tree' : FileTree} {writes : List (Place × List Nat)}
    (h : Overwritten first tree writes) (hfiles : ∀ q, fileBytes tree' q = fileBytes tree q) :
    Overwritten first tree' writes :=
  fun q => (hfiles q).trans (h q)

/-- One more write. -/
theorem Overwritten.write {first tree tree' : FileTree} {writes : List (Place × List Nat)}
    {place : Place} {bytes : List Nat} (h : Overwritten first tree writes)
    (hwritten : tree' place = some (.file bytes))
    (hothers : ∀ q, q ≠ place → fileBytes tree' q = fileBytes tree q) :
    Overwritten first tree' (writes ++ [(place, bytes)]) := by
  intro q
  rw [lastWritten_concat]
  by_cases hq : place = q
  · subst hq
    rw [if_pos rfl, fileBytes_eq_some_iff.2 hwritten]
    rfl
  · rw [if_neg hq, hothers q (Ne.symm hq), h q]

/-- What was written is all there is below a place when no other file was there before. -/
theorem Overwritten.holdsExactly_iff {first tree : FileTree} {base : Place}
    {writes : List (Place × List Nat)} (h : Overwritten first tree writes)
    (hunder : ∀ write ∈ writes, base <+: write.1) :
    HoldsExactly tree base writes ↔
      ∀ q, base <+: q → fileBytes first q ≠ none → q ∈ writes.map Prod.fst := by
  constructor
  · intro hexact q hbase hfirst
    by_contra hmem
    have hnone := lastWritten_eq_none_iff.2 hmem
    rcases Option.ne_none_iff_exists'.1 hfirst with ⟨bytes, hbytes⟩
    have hstale : fileBytes tree q = some bytes := by rw [h q, hnone, hbytes, Option.none_or]
    have hwritten := (hexact q bytes).1 ⟨hbase, hstale⟩
    rw [hnone] at hwritten
    cases hwritten
  · intro hwritten q bytes
    constructor
    · rintro ⟨hbase, hbytes⟩
      cases hlast : lastWritten writes q with
      | some content => rwa [h q, hlast, Option.some_or] at hbytes
      | none =>
          rw [h q, hlast, Option.none_or] at hbytes
          have hmem := hwritten q hbase (by rw [hbytes]; exact Option.some_ne_none _)
          exact absurd hmem (lastWritten_eq_none_iff.1 hlast)
    · intro hlast
      refine ⟨hunder _ (mem_of_lastWritten hlast), ?_⟩
      rw [h q, hlast, Option.some_or]

end Library
end StrategyWorker
