import StrategyWorker.Bootstrap.StillWorld

/-!
# Which trees a digest identifies

The stream that is hashed marks where a path ends and not where a content does.
A file that ends in the frame of a later path cannot be told from two files, and
two neighbours cannot be told from one file that holds both.

Main results:

- Theorem {lit}`digest_identifies_iff`: the trees that no other tree shares its
  digest with.
- Theorem {lit}`merged_tree_verifies`: two trees with one digest.
-/

namespace StrategyWorker
namespace Bootstrap

open Library
open PyText Logged

/-! ## Trees of files -/

/-- A path that files can have: names of entries, none of which has a null character. -/
def RelativePath (rel : Place) : Prop :=
  rel ≠ [] ∧ ∀ name ∈ rel, EntryName name ∧ Char.ofNat 0 ∉ name.toList

instance (rel : Place) : Decidable (RelativePath rel) :=
  inferInstanceAs (Decidable (_ ∧ _))

/-- A finite set of files that a directory can hold. -/
structure ArtifactTree where
  files : List (Place × List Nat)
  nodup : (files.map Prod.fst).Nodup
  valid : ∀ rel ∈ files.map Prod.fst, RelativePath rel
  -- a file is no directory
  apart : ∀ rel ∈ files.map Prod.fst, ∀ rel' ∈ files.map Prod.fst, rel <+: rel' → rel = rel'
  bytes : ∀ file ∈ files, ∀ b ∈ file.2, b < 256

/-- The text of a file's path, and its content. -/
def namedFile (file : Place × List Nat) : String × List Nat :=
  (posixText file.1, file.2)

namespace ArtifactTree

/-- The same files. -/
def SameFiles (tree tree' : ArtifactTree) : Prop :=
  ∀ file, file ∈ tree.files ↔ file ∈ tree'.files

def sortedFiles (tree : ArtifactTree) : List (Place × List Nat) :=
  sortByName (fun file => posixText file.1) tree.files

/-- What is hashed of a tree. -/
def digestInput (tree : ArtifactTree) : List Nat :=
  stream (tree.sortedFiles.map namedFile)

/-- The root is a directory that holds the files: these only for a digest of the whole tree, these
at least for one of a list of names. -/
def HeldAt (tree : ArtifactTree) (held : FileTree) (base : Place) :
    Option (List String) → Prop
  | none => isFileAt held base = false ∧
      ∀ rel bytes, rel ≠ [] →
        (held (base ++ rel) = some (.file bytes) ↔ (rel, bytes) ∈ tree.files)
  | some names => isFileAt held base = false ∧
      names.Perm (tree.files.map fun file => posixText file.1) ∧
        ∀ file ∈ tree.files, held (base ++ file.1) = some (.file file.2)

/-- No null character in a text of a path. -/
theorem not_mem_text {rel : Place} (h : RelativePath rel) : Char.ofNat 0 ∉ (posixText rel).toList :=
  not_mem_posixText (by decide) fun name hname => (h.2 name hname).2

theorem named_of_relativePath {paths : List Place} (h : ∀ rel ∈ paths, RelativePath rel) :
    NamedPaths paths :=
  fun rel hrel => ⟨(h rel hrel).1, fun name hname => ((h rel hrel).2 name hname).1⟩

theorem text_injective {rel rel' : Place} (h : RelativePath rel) (h' : RelativePath rel')
    (heq : posixText rel = posixText rel') : rel = rel' :=
  posixText_injective h.1 h'.1 (fun name hname => (h.2 name hname).1.2.2.2)
    (fun name hname => (h'.2 name hname).1.2.2.2) heq

section

variable (tree : ArtifactTree)

theorem sortedFiles_perm : tree.sortedFiles.Perm tree.files :=
  sortByName_perm _ _

/-- The paths in their order are those of a tree too. -/
theorem sortedPaths_perm : (tree.sortedFiles.map Prod.fst).Perm (tree.files.map Prod.fst) :=
  tree.sortedFiles_perm.map _

theorem sorted_valid {file : Place × List Nat} (h : file ∈ tree.sortedFiles) :
    RelativePath file.1 :=
  tree.valid file.1 (tree.sortedPaths_perm.mem_iff.1 (List.mem_map_of_mem h))

theorem sorted_le : tree.sortedFiles.Pairwise fun file file' =>
    posixText file.1 ≤ posixText file'.1 :=
  pairwise_sortByName _ _

theorem sorted_nodup : (tree.sortedFiles.map Prod.fst).Nodup :=
  tree.sortedPaths_perm.nodup_iff.2 tree.nodup

/-- The second file comes after the first, and lies next to it. -/
theorem neighbours {first second : Place × List Nat} {others : List (Place × List Nat)}
    (h : tree.sortedFiles = first :: second :: others) :
    posixText first.1 < posixText second.1 ∧ ¬ first.1 <+: second.1 := by
  have hfirst : first ∈ tree.sortedFiles := by simp [h]
  have hsecond : second ∈ tree.sortedFiles := by simp [h]
  have hmem : ∀ file ∈ tree.sortedFiles, file.1 ∈ tree.files.map Prod.fst := fun file hfile =>
    tree.sortedPaths_perm.mem_iff.1 (List.mem_map_of_mem hfile)
  have hne : first.1 ≠ second.1 := by
    have hnodup := tree.sorted_nodup
    rw [h, List.map_cons, List.map_cons, List.nodup_cons] at hnodup
    exact fun heq => hnodup.1 (heq ▸ List.mem_cons_self)
  have hle : posixText first.1 ≤ posixText second.1 := by
    have hpairwise := tree.sorted_le
    rw [h] at hpairwise
    exact List.rel_of_pairwise_cons hpairwise List.mem_cons_self
  refine ⟨lt_of_le_of_ne hle fun htexts => hne ?_, fun hleads => hne ?_⟩
  · exact text_injective (tree.sorted_valid hfirst) (tree.sorted_valid hsecond) htexts
  · exact tree.apart _ (hmem first hfirst) _ (hmem second hsecond) hleads

/-- The content of a path is that of its file. -/
theorem digestInput_eq_pathsStream {held : FileTree} {base : Place}
    (h : ∀ file ∈ tree.files, held (base ++ file.1) = some (.file file.2)) :
    tree.digestInput = pathsStream held base (tree.files.map Prod.fst) := by
  have hsorted : sortByName posixText (tree.files.map Prod.fst) =
      tree.sortedFiles.map Prod.fst := sortByName_map _ fun _ _ _ _ => Iff.rfl
  rw [digestInput, pathsStream, hsorted, List.map_map]
  congr 1
  refine List.map_congr_left fun file hfile => ?_
  have hheld := h file (tree.sortedFiles_perm.mem_iff.1 hfile)
  rw [Function.comp_apply, contentAt_of_file hheld]
  rfl

end

/-! ## The digest of a run -/

section

variable {cwd : Place} {hash : String → List Nat → String} {w : World}
  (fw : FileWorld (PyPath.place cwd) hash w)

theorem filesBelow_of_heldAt {tree : ArtifactTree} {held : FileTree} {base : Place}
    (h : tree.HeldAt held base none) : FilesBelow held base (tree.files.map Prod.fst) := by
  refine ⟨tree.nodup, fun rel => ⟨fun hrel => ?_, fun hrel => ?_⟩⟩
  · rcases List.mem_map.1 hrel with ⟨file, hfile, rfl⟩
    have hne := (tree.valid file.1 hrel).1
    exact ⟨hne, isFileAt_iff.2 ⟨file.2, (h.2 file.1 file.2 hne).2 hfile⟩⟩
  · rcases isFileAt_iff.1 hrel.2 with ⟨bytes, hbytes⟩
    exact List.mem_map.2 ⟨(rel, bytes), (h.2 rel bytes hrel.1).1 hbytes, rfl⟩

/-- Whatever run computes a digest of a tree, it is the hash of the tree's stream. -/
theorem computeDigest_eq {tree : ArtifactTree} {root : PyPath} (hplain : ".." ∉ root.parts)
    {algorithm : String} {relativePaths : Option (List String)} {calls calls' : List BootstrapCall}
    {hex : String} (h : tree.HeldAt (fw.state calls) (PyPath.place cwd root) relativePaths)
    (hrun : ArtifactVerifier.computeDigest w root algorithm relativePaths calls =
      (.ok hex, calls')) : hex = hash algorithm tree.digestInput := by
  have hreads : Keeps fw.state (· = fw.state calls)
      (ArtifactVerifier.hashedBytes w root relativePaths) fun hashed =>
        hashed = tree.digestInput := by
    cases relativePaths with
    | none =>
        have hfiles : ∀ file ∈ tree.files, fw.state calls (PyPath.place cwd root ++ file.1) =
            some (.file file.2) := fun file hfile =>
          (h.2 file.1 file.2 (tree.valid file.1 (List.mem_map_of_mem hfile)).1).2 hfile
        rw [tree.digestInput_eq_pathsStream hfiles]
        exact reads_hashedBytes_tree fw hplain h.1 (filesBelow_of_heldAt h)
    | some names =>
        rw [tree.digestInput_eq_pathsStream h.2.2]
        refine reads_hashedBytes_scoped fw h.1 (named_of_relativePath tree.valid) ?_
        rw [List.map_map]
        exact h.2.1
  have hcomputes : Keeps fw.state (· = fw.state calls)
      (ArtifactVerifier.computeDigest w root algorithm relativePaths) fun digest =>
        digest = hash algorithm tree.digestInput := reads_computeDigest fw hreads
  have hdigest := hcomputes calls rfl
  rw [hrun] at hdigest
  exact hdigest.2 hex rfl

end

/-! ## Streams that are shared -/

/-- A content that ends in the frame of a later file, which can lie next to it. -/
def EndsInFrame (rel : Place) (content : List Nat) : Prop :=
  ∃ rel' first rest, RelativePath rel' ∧ posixText rel < posixText rel' ∧ ¬ rel <+: rel' ∧
    content = first ++ frame (posixText rel', rest)

/-- At most one file, whose content does not end in a frame. -/
def Unambiguous (tree : ArtifactTree) : Prop :=
  ∀ file ∈ tree.files, tree.files = [file] ∧ ¬ EndsInFrame file.1 file.2

theorem files_eq_nil_of_digestInput {tree : ArtifactTree} (h : tree.digestInput = []) :
    tree.files = [] := by
  have hsorted := List.map_eq_nil_iff.1 (stream_eq_nil_iff.1 h)
  have hperm := tree.sortedFiles_perm
  rw [hsorted] at hperm
  exact List.perm_nil.1 hperm.symm

/-- An unambiguous tree shares its stream with no other. -/
theorem Unambiguous.sameFiles {tree tree' : ArtifactTree} (h : tree.Unambiguous)
    (heq : tree.digestInput = tree'.digestInput) : tree.SameFiles tree' := by
  cases hfiles : tree.files with
  | nil =>
      have hempty : tree.digestInput = [] := by
        simp [digestInput, sortedFiles, hfiles, sortByName, stream]
      have hfiles' := files_eq_nil_of_digestInput (heq.symm.trans hempty)
      intro file
      rw [hfiles, hfiles']
  | cons file rest =>
      rcases h file (hfiles ▸ List.mem_cons_self) with ⟨hsingle, hframe⟩
      have hvalid := tree.valid file.1 (by simp [hsingle])
      have hinput : tree.digestInput = frame (namedFile file) ++ [] := by
        simp [digestInput, sortedFiles, hsingle, sortByName, stream]
      cases hsorted : tree'.sortedFiles with
      | nil =>
          have hnone : tree'.digestInput = [] := by
            simp [digestInput, hsorted, stream]
          rw [← heq, hinput, List.append_nil] at hnone
          exact absurd hnone (frame_ne_nil _)
      | cons first others =>
          have hfirst : first ∈ tree'.sortedFiles := by simp [hsorted]
          have hframes : frame (namedFile file) ++ [] =
              frame (namedFile first) ++ stream (others.map namedFile) := by
            rw [← hinput, heq, digestInput, hsorted, List.map_cons, stream_cons]
          rcases frame_append_inj (not_mem_text hvalid) (not_mem_text (tree'.sorted_valid hfirst))
            hframes with ⟨htext, hcontent⟩
          have hpath := text_injective hvalid (tree'.sorted_valid hfirst) htext
          rw [List.append_nil] at hcontent
          cases others with
          | nil =>
              have hsame : first = file := by
                rw [List.map_nil] at hcontent
                exact Prod.ext hpath.symm (by simpa [stream] using hcontent.symm)
              have hperm := tree'.sortedFiles_perm
              rw [hsorted, hsame] at hperm
              intro file'
              rw [hsingle, hperm.mem_iff]
          | cons second others =>
              have hsecond : second ∈ tree'.sortedFiles := by simp [hsorted]
              rcases tree'.neighbours hsorted with ⟨hlt, hnext⟩
              refine absurd ⟨second.1, first.2, second.2 ++ stream (others.map namedFile),
                tree'.sorted_valid hsecond, hpath ▸ hlt, hpath ▸ hnext, ?_⟩ hframe
              rw [hcontent, List.map_cons, stream_cons]
              simp [namedFile, frame]

/-- The stream of files that are in order. -/
theorem digestInput_of_sorted {tree : ArtifactTree}
    (h : tree.files.Pairwise fun file file' => posixText file.1 ≤ posixText file'.1) :
    tree.digestInput = stream (tree.files.map namedFile) := by
  rw [digestInput, sortedFiles, sortByName_of_pairwise _ h]

/-- Two neighbours share their stream with one file. -/
theorem exists_merged {tree : ArtifactTree} {first second : Place × List Nat}
    {others : List (Place × List Nat)} (h : tree.sortedFiles = first :: second :: others) :
    ∃ merged : ArtifactTree, tree.digestInput = merged.digestInput ∧ ¬ tree.SameFiles merged := by
  have hpaths : (first.1 :: others.map Prod.fst).Sublist (tree.sortedFiles.map Prod.fst) := by
    rw [h, List.map_cons, List.map_cons]
    exact (List.sublist_cons_self _ _).cons_cons _
  have hmem : ∀ rel ∈ first.1 :: others.map Prod.fst, rel ∈ tree.files.map Prod.fst :=
    fun rel hrel => tree.sortedPaths_perm.mem_iff.1 (hpaths.subset hrel)
  have hbytes : ∀ file ∈ tree.sortedFiles, ∀ b ∈ file.2, b < 256 := fun file hfile =>
    tree.bytes file (tree.sortedFiles_perm.mem_iff.1 hfile)
  have hsecond : second ∈ tree.sortedFiles := by simp [h]
  let merged : ArtifactTree := {
    files := (first.1, first.2 ++ frame (namedFile second)) :: others
    nodup := tree.sorted_nodup.sublist hpaths
    valid := fun rel hrel => tree.valid rel (hmem rel hrel)
    apart := fun rel hrel rel' hrel' => tree.apart rel (hmem rel hrel) rel' (hmem rel' hrel')
    bytes := by
      intro file hfile b hb
      rcases List.mem_cons.1 hfile with rfl | hfile
      · rcases List.mem_append.1 hb with hb | hb
        · exact hbytes first (by simp [h]) b hb
        · exact lt_of_mem_frame (hbytes second hsecond) hb
      · exact hbytes file (by simp [h, hfile]) b hb }
  have hsorted : merged.files.Pairwise fun file file' => posixText file.1 ≤ posixText file'.1 := by
    have hpairwise := tree.sorted_le
    rw [h, List.pairwise_cons] at hpairwise
    exact List.pairwise_cons.2 ⟨fun file hfile => hpairwise.1 file (List.mem_cons_of_mem _ hfile),
      (List.pairwise_cons.1 hpairwise.2).2⟩
  refine ⟨merged, ?_, fun hsame => ?_⟩
  · rw [digestInput_of_sorted hsorted, digestInput, h]
    simp [merged, stream_cons, namedFile, frame_append_frame]
  · have hin : second ∈ merged.files :=
      (hsame second).1 (tree.sortedFiles_perm.mem_iff.1 hsecond)
    have hnodup := tree.sorted_nodup
    rw [h, List.map_cons, List.map_cons, List.nodup_cons, List.nodup_cons] at hnodup
    rcases List.mem_cons.1 hin with heq | hother
    · have hpath : second.1 = first.1 := by
        rw [heq]
      exact hnodup.1 (hpath ▸ List.mem_cons_self)
    · exact hnodup.2.1 (List.mem_map_of_mem hother)

theorem le_posixText_of_leads {rel rel' : Place} (hne : rel ≠ []) (h : rel <+: rel') :
    posixText rel ≤ posixText rel' := by
  rcases h with ⟨rest, rfl⟩
  cases rest with
  | nil => rw [List.append_nil]
  | cons name rest =>
      rw [posixText, posixText, String.intercalate_append_of_ne_nil hne (List.cons_ne_nil _ _),
        String.append_assoc]
      exact le_append_right _ _

/-- A file that ends in a frame shares its stream with two files. -/
theorem exists_split {tree : ArtifactTree} {file : Place × List Nat} (h : tree.files = [file])
    (hframe : EndsInFrame file.1 file.2) :
    ∃ split : ArtifactTree, tree.digestInput = split.digestInput ∧ ¬ tree.SameFiles split := by
  rcases hframe with ⟨rel', first, rest, hvalid, hlt, hnext, hcontent⟩
  have hne : file.1 ≠ rel' := fun heq => absurd hlt (heq ▸ lt_irrefl _)
  have hback : ¬ rel' <+: file.1 := fun hleads =>
    absurd (le_posixText_of_leads hvalid.1 hleads) (not_le.2 hlt)
  have hbytes := tree.bytes file (by simp [h])
  rw [hcontent] at hbytes
  let split : ArtifactTree := {
    files := [(file.1, first), (rel', rest)]
    nodup := by simpa using hne
    valid := by
      simp only [List.map_cons, List.map_nil, List.forall_mem_cons]
      exact ⟨tree.valid file.1 (by simp [h]), hvalid, by simp⟩
    apart := by
      simp only [List.map_cons, List.map_nil, List.forall_mem_cons]
      exact ⟨⟨fun _ => trivial, fun hleads => absurd hleads hnext, by simp⟩,
        ⟨fun hleads => absurd hleads hback, fun _ => trivial, by simp⟩, by simp⟩
    bytes := by
      simp only [List.forall_mem_cons]
      exact ⟨fun b hb => hbytes b (List.mem_append_left _ hb),
        fun b hb => hbytes b (List.mem_append_right _ (List.mem_append_right _ hb)), by simp⟩ }
  have hsorted : split.files.Pairwise fun f f' => posixText f.1 ≤ posixText f'.1 := by
    simpa [split] using le_of_lt hlt
  refine ⟨split, ?_, fun hsame => ?_⟩
  · rw [digestInput_of_sorted hsorted, digestInput_of_sorted (by simp [h]), h]
    simp [split, stream, namedFile, hcontent, frame]
  · have hin : (rel', rest) ∈ tree.files := (hsame (rel', rest)).2 (by simp [split])
    rw [h, List.mem_singleton] at hin
    exact hne (congrArg Prod.fst hin).symm

/-- The trees whose stream no other tree has. -/
theorem forall_sameFiles_iff (tree : ArtifactTree) :
    (∀ other : ArtifactTree, tree.digestInput = other.digestInput → tree.SameFiles other) ↔
      tree.Unambiguous := by
  refine ⟨fun h file hfile => ?_, fun h other heq => h.sameFiles heq⟩
  have hno : ¬ ∃ other : ArtifactTree, tree.digestInput = other.digestInput ∧
      ¬ tree.SameFiles other := fun ⟨other, heq, hdiffer⟩ => hdiffer (h other heq)
  cases hsorted : tree.sortedFiles with
  | nil =>
      have hmem := tree.sortedFiles_perm.mem_iff.2 hfile
      rw [hsorted] at hmem
      cases hmem
  | cons first others =>
      cases others with
      | cons second others => exact absurd (exists_merged hsorted) hno
      | nil =>
          have hperm := tree.sortedFiles_perm
          rw [hsorted] at hperm
          have hsingle := List.perm_singleton.1 hperm.symm
          have heq : file = first := by simpa [hsingle] using hfile
          subst heq
          exact ⟨hsingle, fun hframe => hno (exists_split hsingle hframe)⟩

/-! ## Trees at rest -/

/-- The tree as a file system, at its root. -/
def atRoot (tree : ArtifactTree) : FileTree := fun q =>
  if q = [] then some .directory
  else (tree.files.find? fun file => file.1 = q).map fun file => .file file.2

theorem atRoot_of_mem {tree : ArtifactTree} {file : Place × List Nat} (h : file ∈ tree.files) :
    tree.atRoot file.1 = some (.file file.2) := by
  have hne := (tree.valid file.1 (List.mem_map_of_mem h)).1
  rw [atRoot, if_neg hne]
  cases hfind : tree.files.find? fun other => other.1 = file.1 with
  | none => exact absurd (List.find?_eq_none.1 hfind file h) (by simp)
  | some other =>
      have hpath : other.1 = file.1 := by simpa using List.find?_some hfind
      have hsame : other = file :=
        List.inj_on_of_nodup_map tree.nodup (List.mem_of_find?_eq_some hfind) h hpath
      rw [hsame]
      rfl

theorem heldAt_atRoot (tree : ArtifactTree) :
    tree.HeldAt tree.atRoot [] (some (tree.files.map fun file => posixText file.1)) :=
  ⟨by rw [isFileAt, atRoot, if_pos rfl], .refl _, fun _ hfile => atRoot_of_mem hfile⟩

/-- A digest of the tree is computed in its world. -/
theorem returns_computeDigest (tree : ArtifactTree) (hash : String → List Nat → String)
    (algorithm : String) : Returns (ArtifactVerifier.computeDigest (stillWorld [] hash tree.atRoot)
      ⟨"/", []⟩ algorithm (some (tree.files.map fun file => posixText file.1)))
        (hash algorithm tree.digestInput) := by
  have hisFile : ∀ name ∈ tree.files.map fun file => posixText file.1,
      isFileAt tree.atRoot (PyPath.place [] (PyPath.child ⟨"/", []⟩ name)) = true := by
    intro name hname
    rcases List.mem_map.1 hname with ⟨file, hfile, rfl⟩
    have hvalid := tree.valid file.1 (List.mem_map_of_mem hfile)
    have hnamed := named_of_relativePath tree.valid
    have hchild : PyPath.child ⟨"/", []⟩ (posixText file.1) = ⟨"/", file.1⟩ := by
      rw [PyPath.child, ofText_posixText hvalid.1 fun name hname => (hvalid.2 name hname).1]
      rfl
    rw [hchild, PyPath.place_of_plain [] (by decide) (hnamed.plain (List.mem_map_of_mem hfile))]
    exact isFileAt_iff.2 ⟨file.2, atRoot_of_mem hfile⟩
  have hstill : ∃ digest, Returns (ArtifactVerifier.computeDigest
      (stillWorld [] hash tree.atRoot) ⟨"/", []⟩ algorithm
        (some (tree.files.map fun file => posixText file.1))) digest :=
    computeDigest_still algorithm rfl hisFile
  rcases hstill with ⟨digest, hdigest⟩
  rcases hdigest [] with ⟨r, new, hrun, rfl⟩
  have heq := computeDigest_eq (stillFiles [] hash tree.atRoot) (by simp) tree.heldAt_atRoot hrun
  rw [← heq]
  exact hdigest

end ArtifactTree

/-! ## The digest as an identity -/

/-- No run that computes the digest of another tree gives the digest of this one. -/
def DigestIdentifies (hash : String → List Nat → String) (algorithm : String)
    (tree : ArtifactTree) : Prop :=
  ∀ (other : ArtifactTree) (cwd cwd' : Place) (w w' : World)
    (fw : FileWorld (PyPath.place cwd) hash w) (fw' : FileWorld (PyPath.place cwd') hash w')
    (root root' : PyPath) (paths paths' : Option (List String))
    (calls calls' after after' : List BootstrapCall) (digest : String),
      ".." ∉ root.parts → ".." ∉ root'.parts →
      tree.HeldAt (fw.state calls) (PyPath.place cwd root) paths →
      other.HeldAt (fw'.state calls') (PyPath.place cwd' root') paths' →
      ArtifactVerifier.computeDigest w root algorithm paths calls = (.ok digest, after) →
      ArtifactVerifier.computeDigest w' root' algorithm paths' calls' = (.ok digest, after') →
      tree.SameFiles other

/-- A digest identifies the trees of at most one file, when the file does not end in the frame of a
later one. -/
theorem digest_identifies_iff (hash : String → List Nat → String) (algorithm : String)
    (hinjective : Function.Injective (hash algorithm)) (tree : ArtifactTree) :
    DigestIdentifies hash algorithm tree ↔ tree.Unambiguous := by
  rw [← ArtifactTree.forall_sameFiles_iff]
  constructor
  · intro h other heq
    rcases tree.returns_computeDigest hash algorithm [] with ⟨r, new, hrun, rfl⟩
    rcases other.returns_computeDigest hash algorithm [] with ⟨r', new', hrun', rfl⟩
    rw [← heq] at hrun'
    exact h other [] [] _ _ (stillFiles [] hash tree.atRoot) (stillFiles [] hash other.atRoot)
      ⟨"/", []⟩ ⟨"/", []⟩ _ _ [] [] _ _ _ List.not_mem_nil List.not_mem_nil tree.heldAt_atRoot
      other.heldAt_atRoot hrun hrun'
  · intro h other cwd cwd' w w' fw fw' root root' paths paths' calls calls' after after' digest
      hplain hplain' hheld hheld' hrun hrun'
    refine h other (hinjective ?_)
    rw [← ArtifactTree.computeDigest_eq fw hplain hheld hrun,
      ArtifactTree.computeDigest_eq fw' hplain' hheld' hrun']

/-! ## Two trees with one digest -/

/-- A hash without collisions: every byte in unary. -/
def unaryHash (_algorithm : String) (bytes : List Nat) : String :=
  String.ofList (bytes.flatMap fun b => List.replicate b '1' ++ ['0'])

theorem unaryHash_injective (algorithm : String) : Function.Injective (unaryHash algorithm) := by
  intro bytes bytes' h
  have hchars := String.ofList_injective h
  induction bytes generalizing bytes' with
  | nil =>
      cases bytes' with
      | nil => rfl
      | cons b' bytes' => simp at hchars
  | cons b bytes ih =>
      cases bytes' with
      | nil => simp at hchars
      | cons b' bytes' =>
          rw [List.flatMap_cons, List.flatMap_cons, List.append_assoc, List.append_assoc] at hchars
          have hdigit : ∀ n, '0' ∉ List.replicate n '1' := fun n hmem =>
            absurd (List.eq_of_mem_replicate hmem) (by decide)
          rcases append_cons_inj_of_not_mem (hdigit b) (hdigit b') hchars with ⟨hfirst, hrest⟩
          have hlength := congrArg List.length hfirst
          rw [List.length_replicate, List.length_replicate] at hlength
          rw [hlength, ih (congrArg String.ofList hrest) hrest]

/-- Two files of one byte. -/
def twoFiles : ArtifactTree where
  files := [(["a.py"], [120]), (["b.py"], [121])]
  nodup := by decide
  valid := by decide +kernel
  apart := by decide
  bytes := by decide

/-- One file that holds what the two do, with the path of the second in it. -/
def mergedFile : ArtifactTree where
  files := [(["a.py"], [120, 98, 46, 112, 121, 0, 121])]
  nodup := by decide
  valid := by decide +kernel
  apart := by decide
  bytes := by decide

/-- The digest of two files is that of one. -/
theorem merged_tree_verifies :
    twoFiles.digestInput = mergedFile.digestInput ∧
    ¬ ∀ (hash : String → List Nat → String) (algorithm : String),
      Function.Injective (hash algorithm) → ∀ tree, DigestIdentifies hash algorithm tree := by
  have hinput : twoFiles.digestInput = mergedFile.digestInput := by
    rw [ArtifactTree.digestInput_of_sorted (by decide +kernel : twoFiles.files.Pairwise _),
      ArtifactTree.digestInput_of_sorted (by decide +kernel : mergedFile.files.Pairwise _)]
    decide +kernel
  refine ⟨hinput, fun h => ?_⟩
  rcases twoFiles.returns_computeDigest unaryHash "sha256" [] with ⟨r, new, hrun, rfl⟩
  rcases mergedFile.returns_computeDigest unaryHash "sha256" [] with ⟨r', new', hrun', rfl⟩
  rw [← hinput] at hrun'
  have hsame := h unaryHash "sha256" (unaryHash_injective _) twoFiles mergedFile [] [] _ _
    (stillFiles [] unaryHash twoFiles.atRoot) (stillFiles [] unaryHash mergedFile.atRoot)
    ⟨"/", []⟩ ⟨"/", []⟩ _ _ [] [] _ _ _ List.not_mem_nil List.not_mem_nil twoFiles.heldAt_atRoot
    mergedFile.heldAt_atRoot hrun hrun'
  have hsecond : (["b.py"], [121]) ∈ mergedFile.files :=
    (hsame _).1 (by decide)
  exact absurd hsecond (by decide)

/-- One small file. -/
def smallFile : ArtifactTree where
  files := [(["a.py"], [120])]
  nodup := by decide
  valid := by decide +kernel
  apart := by decide
  bytes := by decide

theorem digest_identifies_smallFile : DigestIdentifies unaryHash "sha256" smallFile := by
  refine (digest_identifies_iff unaryHash "sha256" (unaryHash_injective _) smallFile).2 ?_
  intro file hfile
  obtain rfl := List.mem_singleton.1 hfile
  refine ⟨rfl, ?_⟩
  rintro ⟨rel', first, rest, -, -, -, hcontent⟩
  have hzero : (0 : Nat) ∈ [120] := by
    rw [show [120] = first ++ frame (posixText rel', rest) from hcontent]
    simp [frame]
  exact absurd hzero (by decide)

end Bootstrap
end StrategyWorker
