import StrategyWorker.Bootstrap.Disk

/-!
# What the extraction of a zip writes

The names of the entries are anything.  An entry is extracted to a path below
the resolved destination, or fails one of the checks; making the parents of a
target makes nothing that is there already, and the destination is.

Main results:

- Theorem {lit}`leaves_entryTarget`: the paths that pass the checks.
- Theorem {lit}`extraction_contained`: what changes is below the destination,
  whatever the extraction ends in.
-/

namespace StrategyWorker
namespace Bootstrap

open Library
open PyText Logged

/-- No symbolic link on the way to a resolved path, nor below it. -/
structure Unlinked (place : PyPath → Place) (q : PyPath) : Prop where
  above : ∀ parts, parts <+: q.parts → place ⟨q.root, parts⟩ = parts
  inside : ∀ rel, ".." ∉ rel → place (below q rel) = q.parts ++ rel

variable {place : PyPath → Place} {hash : String → List Nat → String} {w : World}

/-! ## Single operations -/

/-- Making a directory, of which every parent is above or below one that is there. -/
theorem changesBelow_mkdir {base : Place} {tree tree' : FileTree} {p : PyPath}
    {r : Except Raised Unit} (hbase : DirectoryAt tree base)
    (hway : ∀ i, place ⟨p.root, p.parts.take i⟩ <+: base ∨
      base <+: place ⟨p.root, p.parts.take i⟩)
    (h : Performs place hash tree (.mkdir p) r tree') : ChangesBelow base tree tree' := by
  intro q
  rcases h.1 q with heq | ⟨hnone, -, i, hleads⟩
  · exact .inl heq
  · have hnot : ¬ q <+: base := by
      intro hq
      rw [hbase q hq] at hnone
      cases hnone
    rcases hway i with habove | hbelow
    · exact absurd (hleads.trans habove) hnot
    · rcases List.prefix_or_prefix_of_prefix hleads hbelow with hq | hq
      · exact absurd hq hnot
      · exact .inr ⟨hq, fun heq => hnot (heq ▸ List.prefix_refl _)⟩

/-- Writing to a place in a directory. -/
theorem changesBelow_write {base : Place} {tree tree' : FileTree} {target : Place}
    (hbase : DirectoryAt tree base) (htarget : base <+: target)
    (h : ∀ q, tree' q = tree q ∨ q = target ∧ tree q ≠ some .directory) :
    ChangesBelow base tree tree' := by
  intro q
  rcases h q with heq | ⟨rfl, hfile⟩
  · exact .inl heq
  · exact .inr ⟨htarget, fun heq => hfile (heq ▸ hbase base (List.prefix_refl base))⟩

/-! ## Names of entries -/

/-- A text that does not start with a slash is a relative path. -/
theorem rootOf_eq_empty {text : String} (h : text.toList.head? ≠ some '/') :
    PyPath.rootOf text = "" := by
  unfold PyPath.rootOf
  split
  · rename_i heq
    simp [heq] at h
  · rename_i heq
    simp [heq] at h
  · rename_i heq
    simp [heq] at h
  · rfl

/-- A relative path joined to another one is below it. -/
theorem join_of_relative (p : PyPath) {rel : PyPath} (h : rel.root = "") :
    p.join rel = below p rel.parts := by
  unfold PyPath.join PyPath.isAbsolute
  rw [h]
  rfl

section

variable (fw : FileWorld place hash w) {zipPath q : PyPath}

/-- What has changed so far is below the destination, which is there. -/
def ExtractedInto (base : Place) (first tree : FileTree) : Prop :=
  DirectoryAt tree base ∧ ChangesBelow base first tree

theorem ExtractedInto.step {base : Place} {first tree tree' : FileTree}
    (h : ExtractedInto base first tree) (hchanges : ChangesBelow base tree tree') :
    ExtractedInto base first tree' :=
  ⟨hchanges.directoryAt h.1, h.2.trans hchanges⟩

/-- The paths that pass the checks. -/
theorem leaves_entryTarget (hq : Unlinked place q) (hroot : resolvedRoot q = q.root) {I : FileTree → Prop} (name : String) :
    Leaves fw.state I (ArtifactFetcher.entryTarget w zipPath q name) fun r tree =>
      I tree ∧ ∀ target, r = .ok target → ∃ rel, ".." ∉ rel ∧ target = below q rel := by
  have hfail : ∀ (reasonCode message : String) (details : PyDict), Leaves fw.state I
      (ArtifactFetcher.fetchFailure (α := PyPath) reasonCode message false details) fun r tree =>
        I tree ∧ ∀ target, r = .ok target → ∃ rel, ".." ∉ rel ∧ target = below q rel :=
    fun _ _ _ => (leaves_fail fw).mono fun r tree h => ⟨h.1, fun target hr => absurd hr (h.2 target)⟩
  unfold ArtifactFetcher.entryTarget
  refine Leaves.ite (fun _ => hfail _ _ _) fun hname => Leaves.ite (fun _ => hfail _ _ _) fun hup => ?_
  rw [not_or] at hname
  rw [join_of_relative q (rootOf_eq_empty hname.2)]
  have hresolve : Leaves fw.state I
      (call w none (.resolve (below q (PyPath.ofText name).parts))) fun r tree =>
        I tree ∧ ∀ target, r = .ok target → target = below q (PyPath.ofText name).parts := by
    refine leaves_call fw none _ fun tree r tree' hI h => ?_
    rcases h with ⟨rfl, hanswer⟩
    refine ⟨hI, fun target hr => ?_⟩
    rw [hanswer target hr, hq.inside _ hup]
    exact congrArg (PyPath.mk · _) hroot
  refine Leaves.bind hresolve (fun target => ?_) (fun x tree h => ⟨h.1, fun _ hr => by cases hr⟩)
  split
  · exact (hfail _ _ _).weaken fun tree h => h.1
  · exact Leaves.pure fun tree h => ⟨h.1, fun _ hr =>
      ⟨_, hup, (Except.ok.inj hr).symm.trans (h.2 target rfl)⟩⟩

/-- One entry keeps what making its directories and writing its target keep. -/
theorem leaves_extractEntry (hq : Unlinked place q) (hroot : resolvedRoot q = q.root)
    {I : FileTree → Prop} (name : String)
    (hmkdir : ∀ rel, ".." ∉ rel → ∀ p ∈ [below q rel, (below q rel).parent],
      ∀ tree r tree', I tree → Performs place hash tree (.mkdir p) r tree' → I tree')
    (hwrite : ∀ rel, ".." ∉ rel → ∀ tree tree', I tree → (∀ p, tree' p = tree p ∨
      p = q.parts ++ rel ∧ tree p ≠ some .directory) → I tree') :
    Leaves fw.state I (ArtifactFetcher.extractEntry w zipPath q name) fun _ tree => I tree := by
  have hmade : ∀ {rel : List String}, ".." ∉ rel → ∀ p ∈ [below q rel, (below q rel).parent],
      Leaves fw.state I (call w none (.mkdir p)) fun _ tree => I tree := fun hrel p hp =>
    leaves_call_of_keeps fw none _ (hmkdir _ hrel p hp)
  have hwritten : ∀ {rel : List String} {operation : Operation}, ".." ∉ rel →
      (∀ tree r tree', Performs place hash tree operation r tree' → ∀ p, tree' p = tree p ∨
        p = place (below q rel) ∧ tree p ≠ some .directory) →
      Leaves fw.state I (call w none operation) fun _ tree => I tree := by
    intro rel operation hrel hwrites
    refine leaves_call_of_keeps fw none _ fun tree r tree' hI h => hwrite rel hrel tree tree' hI ?_
    rw [← hq.inside rel hrel]
    exact hwrites tree r tree' h
  unfold ArtifactFetcher.extractEntry
  refine Leaves.bind (leaves_entryTarget fw hq hroot name) (fun target => ?_)
    (fun x tree h => h.1)
  refine Leaves.weaken (Leaves.assume (p := ∃ rel, ".." ∉ rel ∧ target = below q rel) ?_)
    fun tree h => ⟨h.1, h.2 target rfl⟩
  rintro ⟨rel, hrel, rfl⟩
  refine Leaves.ite (fun _ => hmade hrel _ (by simp)) fun _ => ?_
  refine Leaves.bind (hmade hrel _ (by simp)) (fun _ => ?_) (fun _ _ h => h)
  refine Leaves.bind (leaves_ask fw none rfl) (fun _ => ?_) (fun _ _ h => h)
  refine Leaves.bind (hwritten hrel fun tree r tree' h => h) (fun _ => ?_) (fun _ _ h => h)
  exact hwritten hrel fun tree r tree' h => h

/-- The parents of a path below a resolved one are above or below it. -/
theorem Unlinked.way (hq : Unlinked place q) {rel : List String} (hrel : ".." ∉ rel) (i : Nat) :
    place ⟨q.root, (q.parts ++ rel).take i⟩ <+: q.parts ∨
      q.parts <+: place ⟨q.root, (q.parts ++ rel).take i⟩ := by
  rw [List.take_append]
  rcases Nat.le_total i q.parts.length with hle | hle
  · left
    have hnone : i - q.parts.length = 0 := by omega
    rw [hnone, List.take_zero, List.append_nil, hq.above _ (List.take_prefix i _)]
    exact List.take_prefix i _
  · right
    rw [List.take_of_length_le hle]
    have hplace := hq.inside (rel.take (i - q.parts.length))
      fun h => hrel (List.mem_of_mem_take h)
    unfold below at hplace
    rw [hplace]
    exact List.prefix_append _ _

/-- One entry changes what is below the destination. -/
theorem leaves_extractEntry_into (hq : Unlinked place q) (hroot : resolvedRoot q = q.root)
    (first : FileTree) (name : String) :
    Leaves fw.state (ExtractedInto q.parts first)
      (ArtifactFetcher.extractEntry w zipPath q name) fun _ tree =>
        ExtractedInto q.parts first tree := by
  refine leaves_extractEntry fw hq hroot name (fun rel hrel p hp tree r tree' hI h => hI.step ?_)
    (fun rel hrel tree tree' hI h =>
      hI.step (changesBelow_write hI.1 (List.prefix_append _ rel) h))
  refine changesBelow_mkdir hI.1 (fun i => ?_) h
  rcases List.mem_pair.1 hp with rfl | rfl
  · exact hq.way hrel i
  · have htake := hq.way hrel (min i ((q.parts ++ rel).length - 1))
    simpa [PyPath.parent, below, List.dropLast_eq_take, List.take_take] using htake

/-- What is resolved leads where its path led. -/
def resolvedPath (place : PyPath → Place) (p : PyPath) : PyPath :=
  ⟨resolvedRoot p, place p⟩

theorem resolvedRoot_resolvedPath (p : PyPath) :
    resolvedRoot (resolvedPath place p) = (resolvedPath place p).root :=
  rfl

/-- A directory that its path leads to, through directories. -/
def DirectoryPath (place : PyPath → Place) (tree : FileTree) (p : PyPath) : Prop :=
  ∀ i, DirectoryAt tree (place ⟨p.root, p.parts.take i⟩)

theorem DirectoryPath.directoryAt {tree : FileTree} {p : PyPath}
    (h : DirectoryPath place tree p) : DirectoryAt tree (place p) := by
  have hall := h p.parts.length
  rwa [List.take_length] at hall

/-- Making a directory that is there makes nothing. -/
theorem DirectoryPath.mkdir {tree tree' : FileTree} {p : PyPath} {r : Except Raised Unit}
    (h : DirectoryPath place tree p) (hperforms : Performs place hash tree (.mkdir p) r tree') :
    tree' = tree := by
  funext q
  rcases hperforms.1 q with heq | ⟨hnone, -, i, hleads⟩
  · exact heq
  · rw [h i q hleads] at hnone
    cases hnone

/-- Into a directory without symbolic links: whatever the names of the entries are and whatever the
extraction ends in, what it creates or overwrites is below the directory. -/
theorem extraction_contained {destination : PyPath} {calls : List BootstrapCall}
    (hdirectory : DirectoryPath place (fw.state calls) destination)
    (hunlinked : Unlinked place (resolvedPath place destination)) :
    ChangesBelow (place destination) (fw.state calls)
      (fw.state (ArtifactFetcher.extractZipToDirectory w zipPath destination calls).2) := by
  have hleaves : Leaves fw.state (· = fw.state calls)
      (ArtifactFetcher.extractZipToDirectory w zipPath destination) fun _ tree =>
        ExtractedInto (place destination) (fw.state calls) tree := by
    have hstart : ExtractedInto (place destination) (fw.state calls) (fw.state calls) :=
      ⟨hdirectory.directoryAt, .refl _ _⟩
    have hmkdir : Leaves fw.state (· = fw.state calls) (call w none (.mkdir destination))
        fun _ tree => ExtractedInto (place destination) (fw.state calls) tree := by
      refine leaves_call fw none _ fun tree r tree' hI h => ?_
      subst hI
      rw [hdirectory.mkdir h]
      exact hstart
    have hresolve : Leaves fw.state (ExtractedInto (place destination) (fw.state calls))
        (call w none (.resolve destination)) fun r tree =>
          ExtractedInto (place destination) (fw.state calls) tree ∧
            ∀ q, r = .ok q → q = resolvedPath place destination := by
      refine leaves_call fw none _ fun tree r tree' hI h => ?_
      rcases h with ⟨rfl, hanswer⟩
      exact ⟨hI, hanswer⟩
    unfold ArtifactFetcher.extractZipToDirectory
    refine Leaves.bind hmkdir (fun _ => ?_) (fun _ _ h => h)
    refine Leaves.bind hresolve (fun q => ?_) (fun _ _ h => h.1)
    refine Leaves.weaken (Leaves.assume (p := q = resolvedPath place destination) ?_)
      fun tree h => ⟨h.1, h.2 q rfl⟩
    rintro rfl
    refine Leaves.bind (leaves_ask fw none rfl) (fun names => ?_) (fun _ _ h => h)
    exact Leaves.forEach fun name _ =>
      leaves_extractEntry_into fw hunlinked (resolvedRoot_resolvedPath _) _ name
  exact (hleaves calls rfl).2

end

theorem resolvedRoot_ne_empty (p : PyPath) : resolvedRoot p ≠ "" := by
  simp [resolvedRoot]

/-- Without symbolic links every resolved path leads where it says. -/
theorem unlinked_place {cwd : Place} (hcwd : ".." ∉ cwd) (p : PyPath) :
    Unlinked (PyPath.place cwd) (resolvedPath (PyPath.place cwd) p) where
  above parts hparts :=
    PyPath.place_of_plain cwd (resolvedRoot_ne_empty p) fun h =>
      PyPath.not_mem_place hcwd p (hparts.subset h)
  inside rel hrel := by
    refine PyPath.place_of_plain cwd (resolvedRoot_ne_empty p) fun h => ?_
    rcases List.mem_append.1 h with h | h
    · exact PyPath.not_mem_place hcwd p h
    · exact hrel h

/-- A disk with a directory for an archive. -/
def outputDisk : Disk :=
  ⟨[([], .directory), (["srv"], .directory), (["srv", "out"], .directory),
    (["srv", "key"], .file [7])]⟩

/-- An archive with a file, and an entry that leads out of every directory. -/
def unsafeArchive : List (String × List Nat) :=
  [("lib/bot.py", [1, 2]), ("./", []), ("../key", [9])]

theorem unsafeArchive_contained :
    ChangesBelow ["srv", "out"] outputDisk.tree
      ((outputDisk.files [] (fun _ _ => "") unsafeArchive).state
        (ArtifactFetcher.extractZipToDirectory (outputDisk.world [] (fun _ _ => "") unsafeArchive)
          (PyPath.ofText "/srv/bundle.zip") (PyPath.ofText "/srv/out") []).2) := by
  have hparts : (PyPath.ofText "/srv/out") = ⟨"/", ["srv", "out"]⟩ := by
    decide +kernel
  have hdirectory : DirectoryPath (PyPath.place []) outputDisk.tree ⟨"/", ["srv", "out"]⟩ := by
    have hplain : ".." ∉ ["srv", "out"] := by
      decide
    have hthere : ∀ q ∈ ["srv", "out"].inits, outputDisk.tree q = some .directory := by
      decide +kernel
    intro i q hq
    rw [PyPath.place_of_plain [] (by decide) fun h => hplain (List.mem_of_mem_take h)] at hq
    exact hthere q ((List.mem_inits _ _).2 (hq.trans (List.take_prefix i _)))
  rw [hparts]
  exact extraction_contained (outputDisk.files [] (fun _ _ => "") unsafeArchive) hdirectory
    (unlinked_place (by simp) _)

end Bootstrap
end StrategyWorker
