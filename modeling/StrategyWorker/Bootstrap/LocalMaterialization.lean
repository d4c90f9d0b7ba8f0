import StrategyWorker.Bootstrap.TreeDigest

/-!
# What a local fetch materialises

The target is emptied, and the entries of a directory, or a file and the
parameter file next to it, are copied into it.

Main results:

- Theorem {lit}`ends_localFetch_dir`: the files of a directory are below the
  target, unless the directory is the target.
- Theorem {lit}`ends_localFetch_file`: a file and its parameter file are in the
  target.
-/

namespace StrategyWorker
namespace Bootstrap

open Library
open PyText Logged

/-- Every node lies in directories. -/
def InDirectories (tree : FileTree) : Prop :=
  ∀ q q', q <+: q' → q ≠ q' → tree q' ≠ none → tree q = some .directory

theorem InDirectories.none_below {tree : FileTree} (h : InDirectories tree) {q q' : Place}
    (hq : tree q ≠ some .directory) (hleads : q <+: q') (hne : q ≠ q') : tree q' = none := by
  by_contra hsome
  exact hq (h q q' hleads hne hsome)

/-- A place is as it was, or is a missing directory on the way to the target. -/
def MadeOnly (first tree : FileTree) (target q : Place) : Prop :=
  tree q = first q ∨ first q = none ∧ tree q = some .directory ∧ q <+: target

theorem MadeOnly.isFileAt {first tree : FileTree} {target q : Place}
    (h : MadeOnly first tree target q) : isFileAt tree q = Bootstrap.isFileAt first q := by
  unfold Bootstrap.isFileAt
  rcases h with heq | ⟨hnone, hmade, -⟩
  · rw [heq]
  · rw [hnone, hmade]

theorem MadeOnly.contentAt {first tree : FileTree} {target q : Place}
    (h : MadeOnly first tree target q) : contentAt tree q = Bootstrap.contentAt first q := by
  unfold Bootstrap.contentAt
  rcases h with heq | ⟨hnone, hmade, -⟩
  · rw [heq]
  · rw [hnone, hmade]

/-- The target is a directory now; no file was there, and nothing else changed. -/
structure Made (first tree : FileTree) (target : Place) : Prop where
  there : DirectoryAt tree target
  others : ∀ q, MadeOnly first tree target q

/-- The target is gone. -/
structure Cleared (first tree : FileTree) (target : Place) : Prop where
  noFile : isFileAt first target = false
  inside : ∀ q, target <+: q → tree q = none
  outside : ∀ q, ¬ target <+: q → MadeOnly first tree target q

/-- The target is an empty directory. -/
structure Emptied (first tree : FileTree) (target : Place) : Prop where
  there : DirectoryAt tree target
  noFile : isFileAt first target = false
  inside : ∀ q, target <+: q → q ≠ target → tree q = none
  outside : ∀ q, ¬ target <+: q → MadeOnly first tree target q

theorem Made.noFile {first tree : FileTree} {target : Place} (h : Made first tree target) :
    isFileAt first target = false := by
  rw [← (h.others target).isFileAt, isFileAt, h.there target (List.prefix_refl _)]

/-! ## Copies -/

/-- What the loop over the entries has copied so far, from the tree at its start. -/
structure Copied (start tree : FileTree) (base target : Place) (names : List String) : Prop where
  there : DirectoryAt tree target
  outside : ∀ q, ¬ target <+: q → tree q = start q
  copied : ∀ name ∈ names, ∀ rel, tree (target ++ name :: rel) = start (base ++ name :: rel)
  rest : ∀ name, name ∉ names → ∀ rel, tree (target ++ name :: rel) = none
  apart : ∀ name ∈ names, ¬ base ++ [name] <+: target

/-- An entry that does not lead to the target has nothing to do with it. -/
theorem not_prefix_of_entry {base target : Place} {name : String} (hbase : ¬ target <+: base)
    (hentry : ¬ base ++ [name] <+: target) (rel : Place) : ¬ target <+: base ++ name :: rel := by
  intro hleads
  have hsplit : base ++ name :: rel = base ++ [name] ++ rel := by simp
  rw [hsplit] at hleads
  rcases List.prefix_or_prefix_of_prefix hleads (List.prefix_append (base ++ [name]) rel) with
    hback | hforth
  · rcases List.prefix_concat_iff.1 hback with heq | hunder
    · exact hentry (heq ▸ List.prefix_refl _)
    · exact hbase hunder
  · exact hentry hforth

/-- One more entry is copied when its tree is. -/
theorem Copied.step {start tree tree' : FileTree} {base goal : Place} {names : List String}
    {name : String} (h : Copied start tree base goal names)
    (hentry : ¬ base ++ [name] <+: goal)
    (hcopy : ∀ rel, tree' (goal ++ name :: rel) = start (base ++ name :: rel))
    (hothers : ∀ q, ¬ goal ++ [name] <+: q → tree' q = tree q) :
    Copied start tree' base goal (names ++ [name]) := by
  have hkeep : ∀ other, other ≠ name → ∀ rel,
      tree' (goal ++ other :: rel) = tree (goal ++ other :: rel) := by
    intro other hne rel
    refine hothers _ fun hleads => hne ?_
    rw [List.prefix_append_right_inj] at hleads
    exact (List.cons_prefix_cons.1 hleads).1.symm
  refine ⟨fun q hq => ?_, fun q hq => ?_, ?_, ?_, ?_⟩
  · rw [hothers q fun hleads => ?_]
    · exact h.there q hq
    · have hlength := (hleads.trans hq).length_le
      simp at hlength
  · rw [hothers q fun hleads => hq ((List.prefix_append _ _).trans hleads)]
    exact h.outside q hq
  · intro other hother rel
    by_cases heq : other = name
    · rw [heq, hcopy rel]
    · rw [hkeep other heq rel]
      refine h.copied other ?_ rel
      simpa [heq] using hother
  · intro other hother rel
    rw [List.mem_append, List.mem_singleton, not_or] at hother
    rw [hkeep other hother.2 rel, h.rest other hother.1 rel]
  · intro other hother
    rcases List.mem_append.1 hother with hother | hother
    · exact h.apart other hother
    · exact List.mem_singleton.1 hother ▸ hentry

/-- What the fetch of a directory leaves: its files below the target, or nothing where the target is
the directory itself. -/
structure DirectoryMaterialized (first tree : FileTree) (base target : Place) : Prop where
  targetThere : tree target = some .directory
  sourceThere : tree base = some .directory
  files : ∀ rel, rel ≠ [] →
    tree (target ++ rel) = if base = target then none else first (base ++ rel)

/-- Where an emptied target leaves a directory, unless the directory was in it. -/
theorem Emptied.source {first tree : FileTree} {base target : Place}
    (h : Emptied first tree target) (hdir : first base = some .directory) :
    tree base = some .directory ∧ (base = target ∨ ¬ target <+: base) ∨
      tree base = none ∧ target <+: base := by
  by_cases hin : target <+: base
  · by_cases heq : base = target
    · exact .inl ⟨heq ▸ h.there target (List.prefix_refl _), .inl heq⟩
    · exact .inr ⟨h.inside base hin heq, hin⟩
  · rcases h.outside base hin with hsame | ⟨hnone, -, -⟩
    · exact .inl ⟨hsame.trans hdir, .inr hin⟩
    · rw [hdir] at hnone
      cases hnone

/-- Below an entry that is a file there is nothing. -/
theorem Emptied.none_below_file {first tree : FileTree} {base target : Place}
    (h : Emptied first tree target) (hdirectories : InDirectories first) (hbase : ¬ target <+: base)
    {name : String} {rel : Place} (hfile : isFileAt tree (base ++ [name]) = true) (hrel : rel ≠ []) :
    tree (base ++ name :: rel) = none := by
  have hentry : ¬ base ++ [name] <+: target := by
    intro hleads
    rw [isFileAt, h.there _ hleads] at hfile
    cases hfile
  have hway : base ++ [name] <+: base ++ name :: rel := ⟨rel, by simp⟩
  have hfirst := (h.outside _ (not_prefix_of_entry hbase hentry [])).isFileAt
  rw [hfile] at hfirst
  rcases isFileAt_iff.1 hfirst.symm with ⟨bytes, hbytes⟩
  rcases h.outside _ (not_prefix_of_entry hbase hentry rel) with hsame | ⟨-, -, hleads⟩
  · rw [hsame]
    refine hdirectories.none_below (q := base ++ [name]) ?_ hway (by simpa using hrel.symm)
    rw [hbytes]
    simp
  · exact absurd (hway.trans hleads) hentry

/-- What has been copied is what the directory held at first. -/
theorem Copied.materialized {first start tree : FileTree} {base target : Place}
    {names : List String} (h : Copied start tree base target names)
    (hempty : Emptied first start target) (hdirectories : InDirectories first)
    (hdir : first base = some .directory) (hbase : ¬ target <+: base)
    (hnames : ∀ name, name ∈ names ↔ start (base ++ [name]) ≠ none) :
    DirectoryMaterialized first tree base target := by
  have hne : base ≠ target := by
    rintro rfl
    exact hbase (List.prefix_refl _)
  have hstart : start base = some .directory := by
    rcases hempty.source hdir with hsource | hsource
    · exact hsource.1
    · exact absurd hsource.2 hbase
  refine ⟨h.there target (List.prefix_refl _), (h.outside base hbase).trans hstart, ?_⟩
  intro rel hrel
  rw [if_neg hne]
  cases rel with
  | nil => exact absurd rfl hrel
  | cons name rel =>
      by_cases hname : name ∈ names
      · have hentry := h.apart name hname
        rw [h.copied name hname rel]
        rcases hempty.outside _ (not_prefix_of_entry hbase hentry rel) with hsame | ⟨-, -, hleads⟩
        · exact hsame
        · refine absurd (List.IsPrefix.trans ⟨rel, ?_⟩ hleads) hentry
          simp
      · have hnone : start (base ++ [name]) = none :=
          not_not.1 fun hsome => hname ((hnames name).2 hsome)
        have hfirst : first (base ++ [name]) = none := by
          by_cases hin : target <+: base ++ [name]
          · rcases List.prefix_concat_iff.1 hin with heq | hunder
            · rw [← heq, hempty.there target (List.prefix_refl _)] at hnone
              cases hnone
            · exact absurd hunder hbase
          · rcases hempty.outside _ hin with hsame | ⟨-, hmade, -⟩
            · exact hsame ▸ hnone
            · rw [hmade] at hnone
              cases hnone
        rw [h.rest name hname rel]
        cases rel with
        | nil => exact hfirst.symm
        | cons part rel =>
            refine (hdirectories.none_below (q := base ++ [name]) ?_ ⟨part :: rel, ?_⟩ ?_).symm
            · rw [hfirst]
              simp
            · simp
            · simp

/-- What the fetch of a single file leaves: the files of the target are copies, and the files next to
the source are as they were. -/
structure FileMaterialized (first tree : FileTree) (dir target : Place) (names : List String) :
    Prop where
  apart : dir ≠ target
  there : tree target = some .directory
  free : ∀ name, tree (target ++ [name]) ≠ some .directory
  next : ∀ name, isFileAt tree (dir ++ [name]) = isFileAt first (dir ++ [name])
  kept : ∀ name, isFileAt tree (dir ++ [name]) = true → tree (dir ++ [name]) = first (dir ++ [name])
  copies : ∀ name ∈ names, tree (target ++ [name]) = first (dir ++ [name])

/-- Emptying a target elsewhere leaves the files of a directory. -/
theorem Emptied.fileMaterialized {first tree : FileTree} {dir target : Place}
    (h : Emptied first tree target) (hdir : ¬ target <+: dir) :
    FileMaterialized first tree dir target [] := by
  have hnext : ∀ name, isFileAt tree (dir ++ [name]) = isFileAt first (dir ++ [name]) ∧
      (isFileAt tree (dir ++ [name]) = true → tree (dir ++ [name]) = first (dir ++ [name])) := by
    intro name
    by_cases hin : target <+: dir ++ [name]
    · have heq : target = dir ++ [name] := (List.prefix_concat_iff.1 hin).resolve_right hdir
      have hno : isFileAt tree (dir ++ [name]) = false := by
        rw [isFileAt, ← heq, h.there target (List.prefix_refl _)]
      rw [hno, ← heq, h.noFile]
      exact ⟨rfl, fun hfile => by cases hfile⟩
    · have hmade := h.outside _ hin
      refine ⟨hmade.isFileAt, fun hfile => ?_⟩
      rcases hmade with hsame | ⟨-, hdirectory, -⟩
      · exact hsame
      · rw [isFileAt, hdirectory] at hfile
        cases hfile
  refine ⟨fun heq => hdir (heq ▸ List.prefix_refl _), h.there target (List.prefix_refl _),
    fun name => ?_, fun name => (hnext name).1, fun name => (hnext name).2, by simp⟩
  rw [h.inside _ (List.prefix_append _ _) (by simp)]
  simp

/-- One more copy. -/
theorem FileMaterialized.step {first tree tree' : FileTree} {dir target : Place}
    {names : List String} {name : String} (h : FileMaterialized first tree dir target names)
    (hfile : isFileAt tree (dir ++ [name]) = true)
    (hcopy : ∀ q, tree' q = if q = target ++ [name] then tree (dir ++ [name]) else tree q) :
    FileMaterialized first tree' dir target (names ++ [name]) := by
  have hnext : ∀ other, tree' (dir ++ [other]) = tree (dir ++ [other]) := by
    intro other
    rw [hcopy, if_neg]
    exact fun heq => h.apart (List.append_inj_left' heq rfl)
  have hchild : ∀ other, tree' (target ++ [other]) =
      if other = name then tree (dir ++ [name]) else tree (target ++ [other]) := by
    intro other
    rw [hcopy]
    simp
  refine ⟨h.apart, ?_, fun other => ?_, fun other => ?_, fun other hother => ?_,
    fun other hother => ?_⟩
  · rw [hcopy, if_neg (by simp)]
    exact h.there
  · rw [hchild]
    split
    · rcases isFileAt_iff.1 hfile with ⟨bytes, hbytes⟩
      simp [hbytes]
    · exact h.free other
  · rw [isFileAt, hnext]
    exact h.next other
  · rw [isFileAt, hnext] at hother
    rw [hnext]
    exact h.kept other hother
  · rw [hchild]
    split <;> rename_i hname
    · rw [hname]
      exact h.kept name hfile
    · refine h.copies other ?_
      simpa [hname] using hother

theorem FileMaterialized.siblingName {first tree : FileTree} {dir target : Place}
    {names : List String} (h : FileMaterialized first tree dir target names) (stem : String) :
    siblingName tree dir stem = Bootstrap.siblingName first dir stem := by
  unfold Bootstrap.siblingName
  rw [h.next, h.next]

/-! ## Places of plain paths -/

/-- Where a path starts. -/
def placeStart (cwd : Place) (p : PyPath) : Place :=
  if p.isAbsolute then [] else cwd

theorem place_plain (cwd : Place) {p : PyPath} (h : ".." ∉ p.parts) :
    PyPath.place cwd p = placeStart cwd p ++ p.parts :=
  walk_of_plain _ h

/-- The parents of a plain path lead to parents of its place. -/
theorem place_take_leads (cwd : Place) {p : PyPath} (h : ".." ∉ p.parts) (i : Nat) :
    PyPath.place cwd ⟨p.root, p.parts.take i⟩ <+: PyPath.place cwd p := by
  have htake : ".." ∉ (⟨p.root, p.parts.take i⟩ : PyPath).parts := fun hmem =>
    h (List.mem_of_mem_take hmem)
  rw [place_plain cwd htake, place_plain cwd h]
  exact (List.prefix_append_right_inj _).2 (List.take_prefix i p.parts)

section

variable {cwd : Place} {hash : String → List Nat → String} {w : World}
  (fw : FileWorld (PyPath.place cwd) hash w) {first : FileTree} {handler : Option Handler}
  {target source : PyPath}

/-- What a call leaves when it returns. -/
theorem ends_call {operation : Operation} {P : FileTree → Prop}
    {Q : operation.Answer → FileTree → Prop}
    (h : ∀ tree r tree' a, P tree → Performs (PyPath.place cwd) hash tree operation r tree' →
      r = .ok a → Q a tree') :
    Ends fw.state P (call w handler operation) Q :=
  leaves_call fw handler operation fun tree r tree' hP hperforms a ha =>
    h tree r tree' a hP hperforms ha

/-! ## Emptying the target -/

section

variable (htarget : ".." ∉ target.parts)
include htarget

theorem ends_mkdir_target :
    Ends fw.state (· = first) (call w handler (.mkdir target))
      fun _ tree => Made first tree (PyPath.place cwd target) := by
  refine ends_call fw fun tree r tree' _ heq h hr => ?_
  subst heq
  refine ⟨h.2 hr, fun q => ?_⟩
  rcases h.1 q with hsame | ⟨hnone, hmade, i, hleads⟩
  · exact .inl hsame
  · exact .inr ⟨hnone, hmade, hleads.trans (place_take_leads cwd htarget i)⟩

/-- The target is removed with all below it. -/
theorem ends_removeTree :
    Ends fw.state (fun tree => Made first tree (PyPath.place cwd target))
      (removeTree w handler target)
      fun _ tree => Cleared first tree (PyPath.place cwd target) := by
  have hthere : Ends fw.state (fun tree => Made first tree (PyPath.place cwd target))
      (call w handler (.pathExists target)) fun there tree =>
        Made first tree (PyPath.place cwd target) ∧ there = true := by
    refine Ends.of_keeps fun tree hmade => reads_call fw rfl fun r h there hr => ?_
    cases there with
    | true => rfl
    | false =>
        have hnone := h.2.2 hr htarget
        rw [hmade.there _ (List.prefix_refl _)] at hnone
        cases hnone
  refine hthere.bind fun there => Ends.ite (fun _ => ?_) fun hnot => ?_
  · refine ends_call fw fun tree r tree' _ hmade h hr => ?_
    refine ⟨hmade.1.noFile, h.2 hr, fun q hq => ?_⟩
    rcases h.1 q with hsame | ⟨-, hunder⟩
    · unfold MadeOnly
      rw [hsame]
      exact hmade.1.others q
    · exact absurd hunder hq
  · exact Ends.pure fun tree hmade => absurd hmade.2 hnot

theorem ends_emptied :
    Ends fw.state (fun tree => Cleared first tree (PyPath.place cwd target))
      (call w handler (.mkdir target))
      fun _ tree => Emptied first tree (PyPath.place cwd target) := by
  refine ends_call fw fun tree r tree' _ hcleared h hr => ?_
  refine ⟨h.2 hr, hcleared.noFile, fun q hq hne => ?_, fun q hq => ?_⟩
  · rcases h.1 q with hsame | ⟨-, -, i, hleads⟩
    · rw [hsame, hcleared.inside q hq]
    · have hback := hleads.trans (place_take_leads cwd htarget i)
      exact absurd (hback.eq_of_length_le hq.length_le) hne
  · rcases h.1 q with hsame | ⟨hnone, hmade, i, hleads⟩
    · unfold MadeOnly
      rw [hsame]
      exact hcleared.outside q hq
    · have hback := hleads.trans (place_take_leads cwd htarget i)
      rcases hcleared.outside q hq with heq | ⟨-, hdir, -⟩
      · exact .inr ⟨heq ▸ hnone, hmade, hback⟩
      · rw [hdir] at hnone
        cases hnone

end

/-! ## A directory -/

section

variable {start : FileTree} {names : List String} {name : String} (htarget : ".." ∉ target.parts)
  (hbase : ¬ PyPath.place cwd target <+: PyPath.place cwd source)
  (hclosed : ∀ name rel, isFileAt start (PyPath.place cwd source ++ [name]) = true → rel ≠ [] →
    start (PyPath.place cwd source ++ name :: rel) = none)
include htarget hbase hclosed

/-- One entry of a directory. -/
theorem ends_copyDirectoryEntry (hname : EntryName name) (hnew : name ∉ names) :
    Ends fw.state
      (fun tree => Copied start tree (PyPath.place cwd source) (PyPath.place cwd target) names)
      (copyDirectoryEntry w handler target (below source [name]))
      fun _ tree => Copied start tree (PyPath.place cwd source) (PyPath.place cwd target)
        (names ++ [name]) := by
  have hplain : ".." ∉ [name] := fun hmem => hname.2.2.1 (List.mem_singleton.1 hmem).symm
  have hentryName : (below source [name]).name = name := by
    rw [PyPath.name, below, List.getLastD_concat]
  have hentryPlace := place_below cwd source hplain
  have hdestination : target.child name = below target [name] := child_of_entryName target hname
  have hdestinationPlace := place_below cwd target hplain
  have hparts : ".." ∉ (below target [name]).parts := fun hmem =>
    (List.mem_append.1 hmem).elim htarget hplain
  unfold copyDirectoryEntry
  rw [hentryName, hdestination]
  have hasks : Ends fw.state
      (fun tree => Copied start tree (PyPath.place cwd source) (PyPath.place cwd target) names)
      (call w handler (.isDir (below source [name]))) fun _ tree =>
        Copied start tree (PyPath.place cwd source) (PyPath.place cwd target) names ∧ True :=
    Ends.of_keeps fun tree _ => reads_call fw rfl fun _ _ _ _ => trivial
  refine hasks.bind fun isDir => Ends.weaken (Ends.ite (fun _ => ?_) fun _ => ?_) fun s hs => hs.1
  · refine ends_call fw fun tree r tree' _ hcopied h hr => ?_
    rcases h.2 hr with ⟨-, hnot, -, hcopy⟩
    rw [hentryPlace, hdestinationPlace] at hnot
    rw [hdestinationPlace, hentryPlace] at hcopy
    have hentry : ¬ PyPath.place cwd source ++ [name] <+: PyPath.place cwd target :=
      fun hleads => hnot (hleads.trans (List.prefix_append _ _))
    refine hcopied.step hentry (fun rel => ?_) fun q hq => ?_
    · have hrel := hcopy rel
      rw [List.append_assoc, List.append_assoc] at hrel
      rw [← hcopied.outside _ (not_prefix_of_entry hbase hentry rel)]
      exact hrel
    · rcases h.1 q with hsame | hunder | ⟨hnone, -, i, hleads⟩
      · exact hsame
      · exact absurd (hdestinationPlace ▸ hunder) hq
      · have hway := hleads.trans (place_take_leads cwd hparts i)
        rw [hdestinationPlace] at hway
        rcases List.prefix_concat_iff.1 hway with rfl | hway
        · exact absurd (List.prefix_refl _) hq
        · rw [hcopied.there q hway] at hnone
          cases hnone
  · refine ends_call fw fun tree r tree' _ hcopied h hr => ?_
    rcases h.2 hr with ⟨⟨bytes, hbytes⟩, hcopy⟩
    rw [hentryPlace] at hbytes
    have hnone := hcopied.rest name hnew []
    rw [hdestinationPlace, hentryPlace] at hcopy
    have hwrite := hcopy (by rw [hnone]; simp)
    have hentry : ¬ PyPath.place cwd source ++ [name] <+: PyPath.place cwd target := by
      intro hleads
      rw [hcopied.there _ hleads] at hbytes
      cases hbytes
    have hstart := hcopied.outside _ (not_prefix_of_entry hbase hentry [])
    have hfile : isFileAt start (PyPath.place cwd source ++ [name]) = true :=
      isFileAt_iff.2 ⟨bytes, hstart ▸ hbytes⟩
    refine hcopied.step hentry (fun rel => ?_) fun q hq => ?_
    · cases rel with
      | nil => rw [hwrite, if_pos rfl, hstart]
      | cons part rel =>
          rw [hwrite, if_neg (by simp), hcopied.rest name hnew, hclosed name _ hfile (by simp)]
    · have hne : q ≠ PyPath.place cwd target ++ [name] := by
        rintro rfl
        exact hq (List.prefix_refl _)
      rw [hwrite, if_neg hne]

/-- All entries of a directory. -/
theorem ends_copyEntries (hnames : ∀ name ∈ names, EntryName name) (hnodup : names.Nodup) :
    Ends fw.state
      (fun tree => Copied start tree (PyPath.place cwd source) (PyPath.place cwd target) [])
      (forEach (copyDirectoryEntry w handler target)
        ((names.map fun name => below source [name]).mergeSort fun p q => p.name ≤ q.name))
      fun _ tree => Copied start tree (PyPath.place cwd source) (PyPath.place cwd target)
        (sortByName id names) := by
  have hname : ∀ name, (below source [name]).name = name := by
    intro name
    rw [PyPath.name, below, List.getLastD_concat]
  have hsorted : (names.map fun name => below source [name]).mergeSort
      (fun p q => p.name ≤ q.name) = (sortByName id names).map fun name => below source [name] :=
    sortByName_map _ fun _ _ _ _ => by rw [hname, hname]; rfl
  have hperm := sortByName_perm id names
  have hback : ((sortByName id names).map fun name => below source [name]).map PyPath.name =
      sortByName id names := by
    rw [List.map_map]
    exact (List.map_congr_left fun name _ => hname name).trans (List.map_id _)
  rw [hsorted]
  refine Ends.mono (Ends.forEach (I := fun entries tree => Copied start tree
    (PyPath.place cwd source) (PyPath.place cwd target) (entries.map PyPath.name))
      fun before entry after hsplit => ?_) fun _ tree h => hback ▸ h
  have hmem : entry ∈ (sortByName id names).map fun name => below source [name] := by
    rw [hsplit]
    simp
  rcases List.mem_map.1 hmem with ⟨name, hmemName, rfl⟩
  have hnew : name ∉ before.map PyPath.name := by
    have hunique := hperm.nodup_iff.2 hnodup
    rw [← hback, hsplit, List.map_append, List.map_cons, hname, List.nodup_append] at hunique
    exact fun hbefore => hunique.2.2 name hbefore name List.mem_cons_self rfl
  rw [List.map_append, List.map_singleton, hname]
  exact ends_copyDirectoryEntry fw htarget hbase hclosed
    (hnames name (hperm.mem_iff.1 hmemName)) hnew

end

section

variable (hsource : ".." ∉ source.parts) (htarget : ".." ∉ target.parts)
  (hdirectories : InDirectories first)
include hsource htarget

omit htarget in
theorem ends_isDir (P : FileTree → Prop) :
    Ends fw.state P (call w handler (.isDir source)) fun isDir tree =>
      P tree ∧ (isDir = true ↔ tree (PyPath.place cwd source) = some .directory) := by
  refine Ends.of_keeps fun tree _ => reads_call fw rfl fun r h isDir hr => ?_
  cases isDir with
  | true => exact iff_of_true rfl (h.2.1 hr)
  | false => exact iff_of_false (by simp) (h.2.2 hr hsource)

include hdirectories

/-- The fetch of a directory. -/
theorem ends_materialize_dir (hdir : first (PyPath.place cwd source) = some .directory) :
    Ends fw.state (fun tree => Made first tree (PyPath.place cwd target))
      (materialize w handler source target)
      fun _ tree => DirectoryMaterialized first tree (PyPath.place cwd source)
        (PyPath.place cwd target) := by
  unfold materialize
  refine (ends_removeTree fw htarget).bind fun _ => ?_
  refine (ends_emptied fw htarget).bind fun _ => ?_
  refine (ends_isDir fw hsource _).bind fun isDir => Ends.ite (fun htrue => ?_) fun hfalse => ?_
  · have hentries : Ends fw.state
        (fun tree => Emptied first tree (PyPath.place cwd target) ∧
          (isDir = true ↔ tree (PyPath.place cwd source) = some .directory))
        (call w handler (.iterdir source)) fun entries tree =>
          Emptied first tree (PyPath.place cwd target) ∧
            tree (PyPath.place cwd source) = some .directory ∧
              ∃ names : List String, names.Nodup ∧ (∀ name ∈ names, EntryName name) ∧
                entries = names.map (fun name => below source [name]) ∧
                  ∀ name, name ∈ names ↔ tree (PyPath.place cwd source ++ [name]) ≠ none := by
      refine ends_call fw fun tree r tree' entries hempty h hr => ?_
      rcases h with ⟨rfl, hlist⟩
      rcases hlist entries hr with ⟨hthere, names, hnodup, heq, hnamed, hmem⟩
      exact ⟨hempty.1, hthere, names, hnodup, hnamed, heq, hmem⟩
    refine hentries.bind fun entries => ?_
    intro log hlog
    rcases hlog with ⟨hempty, hthere, names, hnodup, hnamed, rfl, hmem⟩
    rcases hempty.source hdir with ⟨-, hsame | hbase⟩ | ⟨hnone, -⟩
    · have hnil : names = [] := by
        refine List.eq_nil_iff_forall_not_mem.2 fun name hname => (hmem name).1 hname ?_
        rw [hsame]
        exact hempty.inside _ (List.prefix_append _ _) (by simp)
      subst hnil
      rw [List.map_nil, List.mergeSort_nil]
      intro _ _
      refine ⟨hempty.there _ (List.prefix_refl _), hthere, fun rel hrel => ?_⟩
      rw [if_pos hsame]
      exact hempty.inside _ (List.prefix_append _ _) (by simpa using hrel)
    · have hclosed : ∀ name rel,
          isFileAt (fw.state log) (PyPath.place cwd source ++ [name]) = true → rel ≠ [] →
            fw.state log (PyPath.place cwd source ++ name :: rel) = none :=
        fun name rel => hempty.none_below_file hdirectories hbase
      have hstart : Copied (fw.state log) (fw.state log) (PyPath.place cwd source)
          (PyPath.place cwd target) [] := by
        refine ⟨hempty.there, fun _ _ => rfl, by simp, fun name _ rel => ?_, by simp⟩
        exact hempty.inside _ (List.prefix_append _ _) (by simp)
      have hcopies : Ends fw.state (fun tree => Copied (fw.state log) tree
          (PyPath.place cwd source) (PyPath.place cwd target) [])
          (forEach (copyDirectoryEntry w handler target)
            ((names.map fun name => below source [name]).mergeSort fun p q => p.name ≤ q.name))
          fun _ tree => Copied (fw.state log) tree (PyPath.place cwd source)
            (PyPath.place cwd target) (sortByName id names) :=
        ends_copyEntries fw htarget hbase hclosed hnamed hnodup
      intro a ha
      refine (hcopies log hstart a ha).materialized hempty hdirectories hdir hbase fun name => ?_
      rw [(sortByName_perm id names).mem_iff]
      exact hmem name
    · rw [hthere] at hnone
      cases hnone
  · refine Ends.bind (Q := fun _ _ => False) ?_ fun _ => Ends.assume False.elim fun _ h => h
    refine ends_call fw fun tree r tree' _ hempty h hr => ?_
    rcases h.2 hr with ⟨⟨bytes, hbytes⟩, -⟩
    rcases hempty.1.source hdir with hthere | hthere
    · rw [hthere.1] at hbytes
      cases hbytes
    · rw [hthere.1] at hbytes
      cases hbytes

end

/-! ## A single file -/

/-- The place of a file lies in a directory under the file's name. -/
theorem place_eq_concat (cwd : Place) {p : PyPath} (hplain : ".." ∉ p.parts) (hne : p.parts ≠ []) :
    PyPath.place cwd p = (PyPath.place cwd p).dropLast ++ [p.name] := by
  have hname : p.name = p.parts.getLast hne := by
    rw [PyPath.name, List.getLastD_eq_getLast?, List.getLast?_eq_some_getLast hne, Option.getD_some]
  rw [place_plain cwd hplain, List.dropLast_append_of_ne_nil hne, hname, List.append_assoc,
    List.dropLast_append_getLast hne]

/-- A file is copied under its name. -/
theorem ends_copySibling {file : PyPath} {dir : Place} {names : List String} {name : String}
    (hfile : PyPath.place cwd file = dir ++ [name])
    (hname : EntryName name) :
    Ends fw.state (fun tree => FileMaterialized first tree dir (PyPath.place cwd target) names)
      (call w handler (.copy2 file (target.child name)))
      fun _ tree => FileMaterialized first tree dir (PyPath.place cwd target) (names ++ [name]) := by
  have hplain : ".." ∉ [name] := fun hmem => hname.2.2.1 (List.mem_singleton.1 hmem).symm
  refine ends_call fw fun tree r tree' _ hmat h hr => ?_
  rcases h.2 hr with ⟨hbytes, hcopy⟩
  rw [child_of_entryName target hname, place_below cwd target hplain, hfile] at hcopy
  rw [hfile] at hbytes
  exact hmat.step (isFileAt_iff.2 hbytes) (hcopy (hmat.free name))

section

variable (hnames : ∀ name ∈ source.parts, EntryName name) (hne : source.parts ≠ [])
  (htarget : ".." ∉ target.parts)
include hnames hne

/-- A file that is copied first is outside the target, which is empty then. -/
theorem ends_copySource :
    Ends fw.state (fun tree => Emptied first tree (PyPath.place cwd target))
      (call w handler (.copy2 source (target.child source.name)))
      fun _ tree => FileMaterialized first tree (PyPath.place cwd source).dropLast
        (PyPath.place cwd target) [source.name] := by
  have hplain : ".." ∉ source.parts := fun hmem => (hnames ".." hmem).2.2.1 rfl
  have hplace := place_eq_concat cwd hplain hne
  intro log hlog
  by_cases hdir : PyPath.place cwd target <+: (PyPath.place cwd source).dropLast
  · have hnone : fw.state log (PyPath.place cwd source) = none := by
      refine hlog.inside _ (hdir.trans (List.dropLast_prefix _)) fun heq => ?_
      have hlength := hdir.length_le
      rw [← heq, List.length_dropLast] at hlength
      have hpositive : (PyPath.place cwd source).length ≠ 0 := by
        rw [hplace]
        simp
      omega
    have hfails : Ends fw.state (fun tree => tree (PyPath.place cwd source) = none)
        (call w handler (.copy2 source (target.child source.name))) fun _ _ => False := by
      refine ends_call fw fun tree r tree' _ hmissing h hr => ?_
      rcases h.2 hr with ⟨⟨bytes, hbytes⟩, -⟩
      rw [hmissing] at hbytes
      cases hbytes
    exact fun a ha => (hfails log hnone a ha).elim
  · exact ends_copySibling fw hplace (hnames _ (name_mem_parts hne)) log
      (hlog.fileMaterialized hdir)

include htarget

/-- The fetch of a single file. -/
theorem ends_materialize_file (hcwd : ".." ∉ cwd)
    (hfile : isFileAt first (PyPath.place cwd source) = true) :
    Ends fw.state (fun tree => Made first tree (PyPath.place cwd target))
      (materialize w handler source target)
      fun _ tree => FileMaterialized first tree (PyPath.place cwd source).dropLast
        (PyPath.place cwd target) (singleNames first (PyPath.place cwd source).dropLast source) := by
  have hplain : ".." ∉ source.parts := fun hmem => (hnames ".." hmem).2.2.1 rfl
  have hdiscover : Ends fw.state
      (fun tree => FileMaterialized first tree (PyPath.place cwd source).dropLast
        (PyPath.place cwd target) [source.name]) (discoverParamsYaml w handler source)
      fun params tree => FileMaterialized first tree (PyPath.place cwd source).dropLast
        (PyPath.place cwd target) [source.name] ∧
          params = (siblingName first (PyPath.place cwd source).dropLast source.stem).map
            fun name => ⟨resolvedRoot source, (PyPath.place cwd source).dropLast ++ [name]⟩ :=
    Ends.of_keeps fun tree hmat => hmat.siblingName source.stem ▸
      reads_discoverParamsYaml hcwd fw (textPath_of_entryNames hnames)
  have hnotDirectory : ∀ tree, Emptied first tree (PyPath.place cwd target) →
      tree (PyPath.place cwd source) ≠ some .directory := by
    intro tree h hdirectory
    by_cases hin : PyPath.place cwd target <+: PyPath.place cwd source
    · have heq : PyPath.place cwd source = PyPath.place cwd target := by
        by_contra hother
        rw [h.inside _ hin hother] at hdirectory
        cases hdirectory
      rw [heq, h.noFile] at hfile
      cases hfile
    · rw [← (h.outside _ hin).isFileAt, isFileAt, hdirectory] at hfile
      cases hfile
  unfold materialize
  refine (ends_removeTree fw htarget).bind fun _ => ?_
  refine (ends_emptied fw htarget).bind fun _ => ?_
  refine (ends_isDir fw hplain _).bind fun isDir => Ends.ite (fun htrue => ?_) fun hfalse => ?_
  · refine Ends.assume (p := False) False.elim fun tree h => ?_
    exact hnotDirectory tree h.1 (h.2.1 htrue)
  · refine ((ends_copySource fw hnames hne).weaken fun _ h => h.1).bind fun _ => ?_
    refine hdiscover.bind fun params => ?_
    refine Ends.assume (fun hparams => ?_) fun _ h => h.2
    subst hparams
    cases hsibling : siblingName first (PyPath.place cwd source).dropLast source.stem with
    | none =>
        refine Ends.pure fun tree h => ?_
        simpa [singleNames, hsibling] using h.1
    | some name =>
        have hmem : name ∈ singleNames first (PyPath.place cwd source).dropLast source := by
          simp [singleNames, hsibling]
        have hname := entryName_of_mem_singleNames hne hnames hmem
        have hchild : target.child
            (⟨resolvedRoot source, (PyPath.place cwd source).dropLast ++ [name]⟩ : PyPath).name =
              target.child name := by
          rw [PyPath.name, List.getLastD_concat]
        have hpath : PyPath.place cwd
            ⟨resolvedRoot source, (PyPath.place cwd source).dropLast ++ [name]⟩ =
              (PyPath.place cwd source).dropLast ++ [name] := by
          refine PyPath.place_of_plain cwd (resolvedRoot_ne_empty source) fun hmem => ?_
          rcases List.mem_append.1 hmem with hmem | hmem
          · exact PyPath.not_mem_place hcwd source (List.mem_of_mem_dropLast hmem)
          · exact hname.2.2.1 (List.mem_singleton.1 hmem).symm
        have hcopy : Ends fw.state
            (fun tree => FileMaterialized first tree (PyPath.place cwd source).dropLast
              (PyPath.place cwd target) [source.name])
            (call w handler (.copy2
              ⟨resolvedRoot source, (PyPath.place cwd source).dropLast ++ [name]⟩
              (target.child name))) fun _ tree =>
                FileMaterialized first tree (PyPath.place cwd source).dropLast
                  (PyPath.place cwd target) ([source.name] ++ [name]) :=
          ends_copySibling fw hpath hname
        rw [← hchild] at hcopy
        refine (hcopy.weaken fun _ h => h.1).mono fun _ tree h => ?_
        simpa [singleNames, hsibling] using h

end

/-! ## The fetch -/

section

variable {reference : String} (htarget : ".." ∉ target.parts)
  (hsource : ∀ calls p calls',
    resolveSourcePath w handler reference calls = (.ok p, calls') → p = source)
include htarget hsource

omit htarget hsource in
theorem reads_resolveSourcePath {tree : FileTree} (artifactReference : String) :
    Keeps fw.state (· = tree) (resolveSourcePath w handler artifactReference) fun _ => True := by
  have hasks : ∀ operation : Operation, operation.asks = true →
      Keeps fw.state (· = tree) (call w handler operation) fun _ => True :=
    fun _ h => reads_call fw h fun _ _ _ _ => trivial
  refine (hasks _ rfl).bind fun parsed _ => ?_
  refine Keeps.ite (fun _ => ?_) fun _ => Keeps.ite (fun _ => Keeps.raise _) fun _ => Keeps.pure trivial
  refine (hasks _ rfl).bind fun rawPath _ => ?_
  refine Keeps.ite (fun _ => Keeps.pure trivial) fun _ => ?_
  split <;> exact Keeps.pure trivial

/-- A fetch that returns has materialised the source that its reference leads to. -/
theorem ends_localFetch {Q : FileTree → Prop} {P : Option (List String) → Prop}
    (hmaterialize : Ends fw.state (fun tree => Made first tree (PyPath.place cwd target))
      (materialize w handler source target) fun _ tree => Q tree)
    (hpaths : ∀ tree, Q tree → Keeps fw.state (· = tree) (digestRelativePaths w handler source) P) :
    Ends fw.state (· = first) (localFetch w handler reference target) fun mat tree =>
      Q tree ∧ mat.materializedRoot = target ∧ P mat.digestRelativePaths := by
  have hresolve : Ends fw.state (· = first) (resolveSourcePath w handler reference)
      fun p tree => tree = first ∧ p = source := by
    intro calls hcalls p hp
    have hreads : Keeps fw.state (· = first) (resolveSourcePath w handler reference)
        fun _ => True := reads_resolveSourcePath fw reference
    exact ⟨(hreads calls hcalls).1, hsource calls p _ (Prod.ext hp rfl)⟩
  refine hresolve.bind fun p => Ends.assume (fun hp => ?_) fun _ h => h.2
  subst hp
  have hthere : Ends fw.state (fun tree => tree = first ∧ p = p) (call w handler (.pathExists p))
      fun _ tree => tree = first ∧ True :=
    (Ends.of_keeps fun tree _ => reads_call fw rfl fun _ _ _ _ => trivial).mono fun _ _ h =>
      ⟨h.1.1, trivial⟩
  refine hthere.bind fun there => Ends.ite (fun _ => Ends.raise _) fun _ => ?_
  refine ((ends_mkdir_target fw htarget).weaken fun _ h => h.1).bind fun _ => ?_
  refine hmaterialize.bind fun _ => ?_
  refine (Ends.of_keeps hpaths).bind fun paths => ?_
  exact Ends.pure fun tree h => ⟨h.1, rfl, h.2⟩

end

/-- The fetch of a directory. -/
theorem ends_localFetch_dir {reference : String} (htarget : ".." ∉ target.parts)
    (hplain : ".." ∉ source.parts) (hdirectories : InDirectories first)
    (hsource : ∀ calls p calls',
      resolveSourcePath w handler reference calls = (.ok p, calls') → p = source)
    (hdir : first (PyPath.place cwd source) = some .directory) :
    Ends fw.state (· = first) (localFetch w handler reference target) fun mat tree =>
      DirectoryMaterialized first tree (PyPath.place cwd source) (PyPath.place cwd target) ∧
        mat.materializedRoot = target ∧ mat.digestRelativePaths = none := by
  refine ends_localFetch fw htarget hsource (P := (· = none))
    (ends_materialize_dir fw hplain htarget hdirectories hdir) fun tree hmat => ?_
  have hnoFile : isFileAt tree (PyPath.place cwd source) = false := by
    rw [isFileAt, hmat.sourceThere]
  refine (reads_root_isFile fw hnoFile).bind fun isFile hanswer => ?_
  subst hanswer
  exact Keeps.pure rfl

/-- The fetch of a single file. -/
theorem ends_localFetch_file {reference : String} (hcwd : ".." ∉ cwd)
    (htarget : ".." ∉ target.parts) (hnames : ∀ name ∈ source.parts, EntryName name)
    (hne : source.parts ≠ [])
    (hsource : ∀ calls p calls',
      resolveSourcePath w handler reference calls = (.ok p, calls') → p = source)
    (hfile : isFileAt first (PyPath.place cwd source) = true) :
    Ends fw.state (· = first) (localFetch w handler reference target) fun mat tree =>
      FileMaterialized first tree (PyPath.place cwd source).dropLast (PyPath.place cwd target)
          (singleNames first (PyPath.place cwd source).dropLast source) ∧
        mat.materializedRoot = target ∧
          mat.digestRelativePaths =
            some (singleNames first (PyPath.place cwd source).dropLast source).dedup := by
  have hplain : ".." ∉ source.parts := fun hmem => (hnames ".." hmem).2.2.1 rfl
  refine ends_localFetch fw htarget hsource
    (P := (· = some (singleNames first (PyPath.place cwd source).dropLast source).dedup))
    (ends_materialize_file fw hnames hne htarget hcwd hfile) fun tree hmat => ?_
  have hthere : isFileAt tree (PyPath.place cwd source) = true := by
    rw [place_eq_concat cwd hplain hne, hmat.next, ← place_eq_concat cwd hplain hne, hfile]
  unfold digestRelativePaths
  refine (reads_isFile fw hplain).bind fun isFile hanswer => ?_
  rw [hthere] at hanswer
  subst hanswer
  rw [if_pos rfl]
  refine (reads_discoverParamsYaml hcwd fw (textPath_of_entryNames hnames)).bind
    fun params hparams => Keeps.pure ?_
  subst hparams
  rw [hmat.siblingName, singleNames]
  congr 2
  cases siblingName first (PyPath.place cwd source).dropLast source.stem with
  | none => rfl
  | some name => simp [PyPath.name]

end

end Bootstrap
end StrategyWorker
