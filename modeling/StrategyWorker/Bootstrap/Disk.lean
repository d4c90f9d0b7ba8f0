import StrategyWorker.Bootstrap.FileWorld

/-!
# A disk

A file tree as a list of nodes, on which the operations of the bootstrap run.
One archive can be opened; what the disk does not know raises.

Main results:

- Theorem {lit}`Disk.performs_perform`: the operations on a disk have the effects
  that are asked of them.
- Definition {lit}`Disk.files`: the world of a disk is one of files.
-/

namespace StrategyWorker
namespace Bootstrap

open Library
open PyText Logged

structure Disk where
  nodes : List (Place × FileNode)

namespace Disk

def tree (disk : Disk) : FileTree :=
  fun q => (disk.nodes.find? fun node => node.1 = q).map Prod.snd

/-- A file in the place of whatever was there. -/
def write (disk : Disk) (q : Place) (bytes : List Nat) : Disk :=
  ⟨(q, .file bytes) :: disk.nodes⟩

theorem tree_write (disk : Disk) (q : Place) (bytes : List Nat) (p : Place) :
    (disk.write q bytes).tree p = if p = q then some (.file bytes) else disk.tree p := by
  by_cases h : p = q
  · subst h
    simp [tree, write]
  · simp [tree, write, h, Ne.symm h]

/-- The missing directories on the way to a place. -/
def missing (disk : Disk) (q : Place) : List Place :=
  q.inits.filter fun p => disk.tree p = none

def makeDirectories (disk : Disk) (q : Place) : Disk :=
  ⟨disk.nodes ++ (disk.missing q).map fun p => (p, .directory)⟩

theorem tree_append (nodes nodes' : List (Place × FileNode)) (p : Place) :
    tree ⟨nodes ++ nodes'⟩ p = (tree ⟨nodes⟩ p).or (tree ⟨nodes'⟩ p) := by
  unfold tree
  rw [List.find?_append]
  cases nodes.find? fun node => node.1 = p <;> rfl

/-- Places with directories. -/
theorem tree_directories (places : List Place) (p : Place) :
    tree ⟨places.map fun q => (q, .directory)⟩ p =
      if p ∈ places then some .directory else none := by
  unfold tree
  induction places with
  | nil => rfl
  | cons q places ih =>
      by_cases h : q = p
      · simp [h]
      · simpa [h, Ne.symm h] using ih

theorem tree_makeDirectories (disk : Disk) (q p : Place) :
    (disk.makeDirectories q).tree p =
      if p <+: q ∧ disk.tree p = none then some .directory else disk.tree p := by
  unfold makeDirectories
  rw [tree_append, tree_directories]
  have hmem : p ∈ disk.missing q ↔ p <+: q ∧ disk.tree p = none := by
    simp [missing]
  by_cases hnone : disk.tree p = none
  · simp only [hmem, hnone, Option.none_or]
  · have hsome : ∃ node, tree ⟨disk.nodes⟩ p = some node := Option.ne_none_iff_exists'.1 hnone
    rcases hsome with ⟨node, hnode⟩
    simp [hnode]

/-- The disk without a directory. -/
def remove (disk : Disk) (q : Place) : Disk :=
  ⟨disk.nodes.filter fun node => ¬ q <+: node.1⟩

theorem tree_remove (disk : Disk) (q p : Place) :
    (disk.remove q).tree p = if q <+: p then none else disk.tree p := by
  unfold tree remove
  rw [List.find?_filter]
  by_cases h : q <+: p
  · rw [if_pos h]
    have hnone : (disk.nodes.find? fun node => decide (decide (¬ q <+: node.1) = true ∧
        decide (node.1 = p) = true)) = none := by
      rw [List.find?_eq_none]
      intro node _ hnode
      simp only [decide_eq_true_eq] at hnode
      exact hnode.1 (hnode.2 ▸ h)
    rw [hnone]
    rfl
  · rw [if_neg h]
    congr 2
    funext node
    by_cases hnode : node.1 = p
    · simp [hnode, h]
    · simp [hnode]

/-- A copy of a directory where nothing is. -/
def copy (disk : Disk) (source destination : Place) : Disk :=
  ⟨disk.nodes ++ disk.nodes.filterMap fun node =>
    if source <+: node.1 then some (destination ++ node.1.drop source.length, node.2) else none⟩

theorem tree_copy_self (nodes : List (Place × FileNode)) (source destination rel : Place) :
    tree ⟨nodes.filterMap fun node =>
      if source <+: node.1 then some (destination ++ node.1.drop source.length, node.2) else none⟩
        (destination ++ rel) = tree ⟨nodes⟩ (source ++ rel) := by
  unfold tree
  induction nodes with
  | nil => rfl
  | cons node nodes ih =>
      by_cases h : source <+: node.1
      · rcases h with ⟨rel', hrel⟩
        have hdrop : node.1.drop source.length = rel' := by rw [← hrel, List.drop_left]
        have hleads : source <+: node.1 := ⟨rel', hrel⟩
        rw [List.filterMap_cons_some (by rw [if_pos hleads, hdrop])]
        by_cases heq : rel' = rel
        · subst heq
          simp [← hrel]
        · simpa [← hrel, heq] using ih
      · have hne : node.1 ≠ source ++ rel := fun heq => h (heq ▸ List.prefix_append _ _)
        rw [List.filterMap_cons_none (by rw [if_neg h])]
        simpa [hne] using ih

theorem tree_copy_other (nodes : List (Place × FileNode)) {source destination p : Place}
    (h : ¬ destination <+: p) :
    tree ⟨nodes.filterMap fun node =>
      if source <+: node.1 then some (destination ++ node.1.drop source.length, node.2) else none⟩
        p = none := by
  unfold tree
  rw [Option.map_eq_none_iff, List.find?_eq_none]
  intro node hnode heq
  rcases List.mem_filterMap.1 hnode with ⟨first, -, hfirst⟩
  split_ifs at hfirst
  obtain rfl := Option.some.inj hfirst
  exact h (of_decide_eq_true heq ▸ List.prefix_append _ _)

/-- The names in a directory. -/
def entries (disk : Disk) (q : Place) : List String :=
  (disk.nodes.filterMap fun node =>
    if node.1.dropLast = q then node.1.getLast? else none).dedup

/-- The places below a directory, from there. -/
def descendants (disk : Disk) (q : Place) : List Place :=
  (disk.nodes.filterMap fun node =>
    if q <+: node.1 ∧ node.1 ≠ q then some (node.1.drop q.length) else none).dedup

theorem tree_ne_none {disk : Disk} {p : Place} :
    disk.tree p ≠ none ↔ ∃ node, (p, node) ∈ disk.nodes := by
  unfold tree
  rw [Ne, Option.map_eq_none_iff, List.find?_eq_none]
  push Not
  constructor
  · rintro ⟨⟨p', node⟩, hmem, heq⟩
    obtain rfl := of_decide_eq_true heq
    exact ⟨node, hmem⟩
  · rintro ⟨node, hmem⟩
    exact ⟨_, hmem, by simp⟩

theorem mem_entries {disk : Disk} {q : Place} {name : String} :
    name ∈ disk.entries q ↔ disk.tree (q ++ [name]) ≠ none := by
  rw [tree_ne_none, entries, List.mem_dedup, List.mem_filterMap]
  constructor
  · rintro ⟨⟨p, node⟩, hmem, h⟩
    split_ifs at h with hq
    refine ⟨node, ?_⟩
    rwa [← hq, List.dropLast_append_getLast? name h]
  · rintro ⟨node, hmem⟩
    exact ⟨_, hmem, by simp⟩

theorem mem_descendants {disk : Disk} {q rel : Place} :
    rel ∈ disk.descendants q ↔ rel ≠ [] ∧ disk.tree (q ++ rel) ≠ none := by
  rw [tree_ne_none, descendants, List.mem_dedup, List.mem_filterMap]
  constructor
  · rintro ⟨⟨p, node⟩, hmem, h⟩
    split_ifs at h with hq
    rcases hq with ⟨⟨rel', rfl⟩, hne⟩
    rw [List.drop_left] at h
    obtain rfl := Option.some.inj h
    exact ⟨fun hnil => hne (by rw [hnil, List.append_nil]), node, hmem⟩
  · rintro ⟨hrel, node, hmem⟩
    refine ⟨_, hmem, ?_⟩
    rw [if_pos ⟨List.prefix_append _ _, fun h => hrel (by simpa using h)⟩, List.drop_left]

/-! ## Operations -/

/-- Every name on the disk is one that a directory can hold. -/
def named (disk : Disk) : Bool :=
  disk.nodes.all fun node => node.1.all fun name => EntryName name

variable (cwd : Place) (hash : String → List Nat → String) (archive : List (String × List Nat))

/-- An operation that returns and leaves a disk. -/
def done {α : Type} (disk : Disk) (a : α) : Except Raised α × Disk :=
  (.ok a, disk)

/-- An operation that raises and leaves everything. -/
def refused {α : Type} (disk : Disk) : Except Raised α × Disk :=
  (.error (.other .osError), disk)

def isFileAt (disk : Disk) (q : Place) : Bool :=
  match disk.tree q with
  | some (.file _) => true
  | _ => false

/-- The operations on a disk whose current directory is {lit}`cwd`. -/
def perform (disk : Disk) : (operation : Operation) → Except Raised operation.Answer × Disk
  | .resolve p => done disk ⟨resolvedRoot p, p.place cwd⟩
  | .cwd => done disk ⟨"/", cwd⟩
  | .isFile p => done disk (disk.isFileAt (p.place cwd))
  | .pathExists p => done disk (disk.tree (p.place cwd) ≠ none)
  | .isDir p => done disk (disk.tree (p.place cwd) = some .directory)
  | .mkdir p =>
      let made := disk.makeDirectories (p.place cwd)
      if ∀ q ∈ (p.place cwd).inits, made.tree q = some .directory then done made ()
      else refused disk
  | .rmtree p => done (disk.remove (p.place cwd)) ()
  | .iterdir p =>
      if disk.tree (p.place cwd) = some .directory ∧ disk.named then
        done disk ((disk.entries (p.place cwd)).map fun name => below p [name])
      else refused disk
  | .rglob p =>
      if disk.named then done disk ((disk.descendants (p.place cwd)).map (below p))
      else refused disk
  | .copytree source destination =>
      if disk.tree (source.place cwd) = some .directory ∧
          ¬ source.place cwd <+: destination.place cwd ∧
          ∀ node ∈ disk.nodes, ¬ destination.place cwd <+: node.1 then
        done (disk.copy (source.place cwd) (destination.place cwd)) ()
      else refused disk
  | .copy2 source destination =>
      match disk.tree (source.place cwd) with
      | some (.file bytes) =>
          if disk.tree (destination.place cwd) = some .directory ∨
              source.parts.getLast? = some ".." then refused disk
          else done (disk.write (destination.place cwd) bytes) ()
      | _ => refused disk
  | .readBytes p =>
      match disk.tree (p.place cwd) with
      | some (.file bytes) => done disk bytes
      | _ => refused disk
  | .urlparse text => done disk ⟨"", "", text⟩
  | .hashlibNew _ => done disk ()
  | .encodeUtf8 text => done disk (Sha256.utf8 text)
  | .hexdigest algorithm bytes => done disk (hash algorithm bytes)
  | .openZip _ => done disk (archive.map Prod.fst)
  | .openEntry _ _ => done disk ()
  | .openTarget p =>
      if disk.tree (p.place cwd) = some .directory then refused disk
      else done (disk.write (p.place cwd) []) ()
  | .copyEntry _ name p =>
      match disk.tree (p.place cwd), archive.find? fun entry => entry.1 = name with
      | some (.file _), some entry => done (disk.write (p.place cwd) entry.2) ()
      | _, _ => refused disk
  | _ => refused disk

theorem performs_mkdir (disk : Disk) (p : PyPath) :
    Performs (PyPath.place cwd) hash disk.tree (.mkdir p) (perform cwd hash archive disk (.mkdir p)).1
      (perform cwd hash archive disk (.mkdir p)).2.tree := by
  unfold perform
  dsimp only
  split
  · rename_i hmade
    refine ⟨fun q => ?_, fun _ q hq => hmade q ((List.mem_inits q _).2 hq)⟩
    simp only [done, tree_makeDirectories]
    split
    · rename_i h
      exact .inr ⟨h.2, rfl, p.parts.length, by rw [List.take_length]; exact h.1⟩
    · exact .inl rfl
  · exact ⟨fun _ => .inl rfl, fun h => by cases h⟩

theorem performs_rmtree (disk : Disk) (p : PyPath) :
    Performs (PyPath.place cwd) hash disk.tree (.rmtree p)
      (perform cwd hash archive disk (.rmtree p)).1
        (perform cwd hash archive disk (.rmtree p)).2.tree := by
  refine ⟨fun q => ?_, fun _ q hq => ?_⟩
  · simp only [perform, done, tree_remove]
    split
    · rename_i h
      exact .inr ⟨rfl, h⟩
    · exact .inl rfl
  · simp only [perform, done, tree_remove]
    rw [if_pos hq]

theorem named_of_mem {disk : Disk} (h : disk.named = true) {q : Place} (hq : disk.tree q ≠ none)
    {name : String} (hname : name ∈ q) : EntryName name := by
  rcases tree_ne_none.1 hq with ⟨node, hmem⟩
  simp only [named, List.all_eq_true, decide_eq_true_eq] at h
  exact h _ hmem name hname

theorem performs_iterdir (disk : Disk) (p : PyPath) :
    Performs (PyPath.place cwd) hash disk.tree (.iterdir p)
      (perform cwd hash archive disk (.iterdir p)).1
        (perform cwd hash archive disk (.iterdir p)).2.tree := by
  unfold perform
  dsimp only
  split
  · rename_i h
    refine ⟨rfl, fun entries hentries => ⟨h.1, disk.entries (p.place cwd), List.nodup_dedup _,
      (Except.ok.inj hentries).symm, fun name hname => ?_, fun name => mem_entries⟩⟩
    exact named_of_mem h.2 (mem_entries.1 hname) (by simp)
  · exact ⟨rfl, fun _ hentries => by cases hentries⟩

theorem performs_rglob (disk : Disk) (p : PyPath) :
    Performs (PyPath.place cwd) hash disk.tree (.rglob p)
      (perform cwd hash archive disk (.rglob p)).1
        (perform cwd hash archive disk (.rglob p)).2.tree := by
  unfold perform
  dsimp only
  split
  · rename_i h
    refine ⟨rfl, fun items hitems => ⟨disk.descendants (p.place cwd), List.nodup_dedup _,
      (Except.ok.inj hitems).symm, fun rel hrel name hname => ?_, fun rel => mem_descendants⟩⟩
    exact named_of_mem h (mem_descendants.1 hrel).2 (List.mem_append_right _ hname)
  · exact ⟨rfl, fun _ hitems => by cases hitems⟩

theorem performs_copytree (disk : Disk) (source destination : PyPath) :
    Performs (PyPath.place cwd) hash disk.tree (.copytree source destination)
      (perform cwd hash archive disk (.copytree source destination)).1
        (perform cwd hash archive disk (.copytree source destination)).2.tree := by
  unfold perform
  dsimp only
  split
  · rename_i h
    rcases h with ⟨hsource, hnot, hfree⟩
    have hnone : ∀ q, destination.place cwd <+: q → disk.tree q = none := by
      intro q hq
      by_contra hsome
      rcases tree_ne_none.1 hsome with ⟨node, hmem⟩
      exact hfree _ hmem hq
    refine ⟨fun q => ?_, fun _ => ⟨hsource, hnot, hnone _ (List.prefix_refl _), fun rel => ?_⟩⟩
    · by_cases hq : destination.place cwd <+: q
      · exact .inr (.inl hq)
      · refine .inl ?_
        simp only [done, copy]
        rw [tree_append, tree_copy_other disk.nodes hq, Option.or_none]
    · simp only [done, copy]
      rw [tree_append, tree_copy_self]
      have hrel : tree ⟨disk.nodes⟩ (destination.place cwd ++ rel) = none :=
        hnone _ (List.prefix_append _ _)
      rw [hrel, Option.none_or]
  · exact ⟨fun _ => .inl rfl, fun h => by cases h⟩

theorem performs_copy2 (disk : Disk) (source destination : PyPath) :
    Performs (PyPath.place cwd) hash disk.tree (.copy2 source destination)
      (perform cwd hash archive disk (.copy2 source destination)).1
        (perform cwd hash archive disk (.copy2 source destination)).2.tree := by
  unfold perform
  dsimp only
  split
  · rename_i bytes hsource
    split_ifs with hrefused
    · exact ⟨fun _ => .inl rfl, fun h => by cases h⟩
    · rw [not_or] at hrefused
      refine ⟨fun q => ?_, fun _ => ⟨⟨bytes, hsource⟩, fun _ q => ?_⟩⟩
      · simp only [done, tree_write]
        split
        · rename_i hq
          exact .inr ⟨hq ▸ List.prefix_refl _, hrefused.2⟩
        · exact .inl rfl
      · simp only [done, tree_write, hsource]
  · exact ⟨fun _ => .inl rfl, fun h => by cases h⟩

theorem isFileAt_eq_true {disk : Disk} {q : Place} :
    disk.isFileAt q = true ↔ ∃ bytes, disk.tree q = some (.file bytes) := by
  unfold isFileAt
  split
  · rename_i bytes h
    simp [h]
  · rename_i h
    simpa using h

theorem performs_openTarget (disk : Disk) (p : PyPath) :
    Performs (PyPath.place cwd) hash disk.tree (.openTarget p)
      (perform cwd hash archive disk (.openTarget p)).1
        (perform cwd hash archive disk (.openTarget p)).2.tree := by
  unfold perform
  dsimp only
  split
  · exact fun _ => .inl rfl
  · rename_i hnot
    intro q
    simp only [done, tree_write]
    split
    · rename_i hq
      exact .inr ⟨hq, hq ▸ hnot⟩
    · exact .inl rfl

theorem performs_copyEntry (disk : Disk) (zip : PyPath) (name : String) (p : PyPath) :
    Performs (PyPath.place cwd) hash disk.tree (.copyEntry zip name p)
      (perform cwd hash archive disk (.copyEntry zip name p)).1
        (perform cwd hash archive disk (.copyEntry zip name p)).2.tree := by
  unfold perform
  dsimp only
  split
  · rename_i hfile _
    intro q
    simp only [done, tree_write]
    split
    · rename_i hq
      refine .inr ⟨hq, ?_⟩
      rw [hq, hfile]
      simp
    · exact .inl rfl
  · exact fun _ => .inl rfl

/-- The operations on a disk have the effects that are asked of them. -/
theorem performs_perform (disk : Disk) (operation : Operation) :
    Performs (PyPath.place cwd) hash disk.tree operation
      (perform cwd hash archive disk operation).1
        (perform cwd hash archive disk operation).2.tree := by
  cases operation with
  | resolve p => exact ⟨rfl, fun q hq => (Except.ok.inj hq).symm⟩
  | isFile p =>
      refine ⟨rfl, fun h => isFileAt_eq_true.1 (Except.ok.inj h), fun h _ bytes hbytes => ?_⟩
      have hfile := isFileAt_eq_true.2 ⟨bytes, hbytes⟩
      cases hfile.symm.trans (Except.ok.inj h)
  | pathExists p =>
      exact ⟨rfl, fun h => of_decide_eq_true (Except.ok.inj h),
        fun h _ => not_not.1 (of_decide_eq_false (Except.ok.inj h))⟩
  | isDir p =>
      exact ⟨rfl, fun h => of_decide_eq_true (Except.ok.inj h),
        fun h _ => of_decide_eq_false (Except.ok.inj h)⟩
  | mkdir p => exact performs_mkdir cwd hash archive disk p
  | rmtree p => exact performs_rmtree cwd hash archive disk p
  | iterdir p => exact performs_iterdir cwd hash archive disk p
  | rglob p => exact performs_rglob cwd hash archive disk p
  | copytree source destination => exact performs_copytree cwd hash archive disk source destination
  | copy2 source destination => exact performs_copy2 cwd hash archive disk source destination
  | readBytes p =>
      unfold perform
      dsimp only
      split
      · rename_i bytes hfile
        exact ⟨rfl, fun b hb => by rw [hfile, ← Except.ok.inj hb]⟩
      · exact ⟨rfl, fun b hb => by cases hb⟩
  | openTarget p => exact performs_openTarget cwd hash archive disk p
  | copyEntry zip name p => exact performs_copyEntry cwd hash archive disk zip name p
  | encodeUtf8 text => exact ⟨rfl, fun bytes hb => (Except.ok.inj hb).symm⟩
  | hexdigest algorithm bytes => exact ⟨rfl, fun digest hd => (Except.ok.inj hd).symm⟩
  | fetchFrom provider reference target => exact .refl _ _
  | importModule _ | instantiate _ | runMypy _ _ => trivial
  | _ => rfl

/-! ## The world of a disk -/

/-- The disk after the calls of a log. -/
def after (disk : Disk) (calls : List BootstrapCall) : Disk :=
  calls.foldl (fun disk c => (perform cwd hash archive disk c.operation).2) disk

def world (disk : Disk) : World :=
  fun calls operation => (perform cwd hash archive (disk.after cwd hash archive calls) operation).1

/-- The world of a disk is one of files. -/
def files (disk : Disk) : FileWorld (PyPath.place cwd) hash (disk.world cwd hash archive) where
  state calls := (disk.after cwd hash archive calls).tree
  performs calls operation handler := by
    have hafter : disk.after cwd hash archive
        (calls ++ [⟨operation, handler, raisedBy (disk.world cwd hash archive calls operation)⟩]) =
          (perform cwd hash archive (disk.after cwd hash archive calls) operation).2 := by
      rw [after, List.foldl_append]
      rfl
    rw [hafter]
    exact performs_perform cwd hash archive _ operation

end Disk

end Bootstrap
end StrategyWorker
