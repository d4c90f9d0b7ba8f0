import StrategyWorker.Bootstrap.Disk
import StrategyWorker.Bootstrap.LocalMaterialization
import StrategyWorker.Bootstrap.StillWorld

/-!
# The digest that the loader puts into a launch

The loader digests a source, and the verifier what a fetch has made of it.  The
bytes differ where the loader writes slashes for backslashes, where it cuts a
name short in the root directory, and where a file is its own parameter file.

Main results:

- Theorem {lit}`slashedStream_eq_iff`, theorem {lit}`singleStream_eq_iff`: the
  same bytes.
- Theorem {lit}`loader_digest_verifies_iff`: the sources whose digests agree.
- Theorem {lit}`rootFile_digest_differs`: a file in the root directory.
-/

namespace StrategyWorker
namespace Bootstrap

open Library
open PyText Logged

/-! ## Directories -/

theorem mem_posixText {rel : Place} {name : String} (hname : name ∈ rel) {c : Char}
    (hc : c ∈ name.toList) : c ∈ (posixText rel).toList := by
  induction rel with
  | nil => cases hname
  | cons first rel ih =>
      by_cases hrel : rel = []
      · rw [hrel, List.mem_singleton] at hname
        rwa [hrel, posixText, String.intercalate_singleton, ← hname]
      · rw [posixText, String.intercalate_cons_of_ne_nil hrel, String.toList_append,
          String.toList_append, List.mem_append, List.mem_append]
        rcases List.mem_cons.1 hname with rfl | hname
        · exact .inl (.inl hc)
        · exact .inr (ih hname)

theorem not_mem_posixText_iff {rel : Place} {c : Char} (hc : c ≠ '/') :
    c ∉ (posixText rel).toList ↔ ∀ name ∈ rel, c ∉ name.toList :=
  ⟨fun h _ hname hmem => h (mem_posixText hname hmem), not_mem_posixText hc⟩

/-- The files of a directory give the same bytes when their names have no backslash. -/
theorem slashedStream_eq_iff (tree : FileTree) (base : Place) (paths : List Place) :
    slashedStream tree base paths = pathsStream tree base paths ↔
      ∀ rel ∈ paths, ∀ name ∈ rel, '\\' ∉ name.toList := by
  rw [slashedStream, pathsStream,
    stream_map_eq_iff fun rel _ => length_utf8_forwardSlashes (posixText rel)]
  refine forall_congr' fun rel => ?_
  rw [(sortByName_perm posixText paths).mem_iff, forwardSlashes_eq_iff,
    not_mem_posixText_iff (by decide)]

/-! ## Single files -/

/-- The stream of files of a directory, each once. -/
def copiedStream (tree : FileTree) (dir : Place) (names : List String) : List Nat :=
  stream ((sortByName id names.dedup).map fun name => (name, contentAt tree (dir ++ [name])))

theorem length_frame (file : String × List Nat) :
    (frame file).length = (Sha256.utf8 file.1).length + 1 + file.2.length := by
  rw [frame, List.length_append, List.length_append, List.length_singleton]

/-- Shorter names give a shorter stream. -/
theorem length_stream_map_lt {α : Type} {name name' : α → String} {content : α → List Nat}
    {xs : List α} (hne : xs ≠ [])
    (h : ∀ x ∈ xs, (Sha256.utf8 (name x)).length < (Sha256.utf8 (name' x)).length) :
    (stream (xs.map fun x => (name x, content x))).length <
      (stream (xs.map fun x => (name' x, content x))).length := by
  rw [stream, stream, List.length_flatMap, List.length_flatMap, List.map_map, List.map_map]
  refine List.sum_lt_sum_of_ne_nil hne _ _ fun x hx => ?_
  have hlt := h x hx
  simp only [Function.comp_apply, length_frame]
  omega

theorem length_le_length_utf8 (text : String) :
    text.toList.length ≤ (Sha256.utf8 text).length := by
  rw [Sha256.utf8]
  induction text.toList with
  | nil => simp
  | cons c cs ih =>
      have hchar : 0 < (String.utf8EncodeChar c).length := by
        rw [String.length_utf8EncodeChar]
        exact c.utf8Size_pos
      rw [List.flatMap_cons, List.length_append, List.length_map, List.length_cons]
      omega

/-- The name without its first character. -/
theorem length_utf8_cut {name : String} (hne : name ≠ "") :
    ∃ k, 0 < k ∧ k ≤ 4 ∧
      (Sha256.utf8 (cutName [] name)).length + k = (Sha256.utf8 name).length := by
  cases hchars : name.toList with
  | nil => exact absurd (String.toList_eq_nil_iff.1 hchars) hne
  | cons c cs =>
      refine ⟨c.utf8Size, c.utf8Size_pos, c.utf8Size_le_four, ?_⟩
      rw [cutName, if_pos rfl, hchars, Sha256.utf8, Sha256.utf8, hchars, String.toList_ofList,
        List.flatMap_cons, List.length_append, List.length_map, String.length_utf8EncodeChar]
      simp [Nat.add_comm]

section

variable {tree : FileTree} {dir : Place} {file : PyPath}

theorem siblingName_eq_name (hself : file.name = file.stem ++ ".yaml")
    (hfile : isFileAt tree (dir ++ [file.name]) = true) :
    siblingName tree dir file.stem = some file.name := by
  rw [hself] at hfile
  rw [siblingName, if_pos hfile, hself]

/-- The parameter file has another name than the file, unless the file is one. -/
theorem siblingName_ne_name (hself : file.name ≠ file.stem ++ ".yaml") :
    siblingName tree dir file.stem ≠ some file.name := by
  intro hsibling
  unfold siblingName at hsibling
  split_ifs at hsibling
  · exact hself (Option.some.inj hsibling).symm
  · have hname := Option.some.inj hsibling
    refine hself ?_
    rw [PyPath.stem, PyPath.splitName, ← hname]
    decide +kernel

theorem nodup_singleNames (hself : file.name ≠ file.stem ++ ".yaml") :
    (singleNames tree dir file).Nodup := by
  have hne : siblingName tree dir file.stem ≠ some file.name := siblingName_ne_name hself
  unfold singleNames
  cases hsibling : siblingName tree dir file.stem with
  | none => simp
  | some name =>
      rw [hsibling] at hne
      simpa [eq_comm] using hne

/-- A file that is its own parameter file is hashed twice by the loader. -/
theorem singleStream_ne_of_self (hself : file.name = file.stem ++ ".yaml")
    (hfile : isFileAt tree (dir ++ [file.name]) = true) :
    singleStream tree dir (singleNames tree dir file) ≠
      copiedStream tree dir (singleNames tree dir file) := by
  have hnames : singleNames tree dir file = [file.name, file.name] := by
    rw [singleNames, siblingName_eq_name hself hfile]
    rfl
  have hsorted : sortByName id [file.name, file.name] = [file.name, file.name] :=
    sortByName_of_pairwise id (by simp)
  have hlong : 5 ≤ file.name.toList.length := by
    rw [hself]
    simp
  have hcut : (Sha256.utf8 file.name).length ≤
      2 * (Sha256.utf8 (cutName dir file.name)).length := by
    by_cases hdir : dir = []
    · subst hdir
      have hne : file.name ≠ "" := by
        intro hempty
        simp [hempty] at hlong
      have hshort : (cutName [] file.name).toList.length = file.name.toList.length - 1 := by
        simp [cutName]
      have hbytes := length_le_length_utf8 (cutName [] file.name)
      rcases length_utf8_cut hne with ⟨k, -, hk, hsum⟩
      omega
    · rw [cutName, if_neg hdir]
      omega
  intro heq
  have hlength := congrArg List.length heq
  have honce : [file.name, file.name].dedup = [file.name] := by
    simp
  have hsingle : sortByName id [file.name] = [file.name] := sortByName_of_pairwise id (by simp)
  rw [singleStream, copiedStream, hnames, hsorted, honce, hsingle] at hlength
  simp only [List.map_cons, List.map_nil, stream_cons, List.length_append, length_frame,
    length_utf8_forwardSlashes] at hlength
  omega

/-- A file in the root directory loses the first character of its name. -/
theorem singleStream_ne_of_root (hne : file.parts ≠ [])
    (hnames : ∀ name ∈ file.parts, EntryName name) (hself : file.name ≠ file.stem ++ ".yaml") :
    singleStream tree [] (singleNames tree [] file) ≠
      copiedStream tree [] (singleNames tree [] file) := by
  have hsome : sortByName id (singleNames tree [] file) ≠ [] := by
    intro hnil
    have hmem := (sortByName_perm id (singleNames tree [] file)).mem_iff.2 List.mem_cons_self
    rw [hnil] at hmem
    cases hmem
  have hshort : ∀ name ∈ sortByName id (singleNames tree [] file),
      (Sha256.utf8 (forwardSlashes (cutName [] name))).length < (Sha256.utf8 name).length := by
    intro name hname
    have hentry := entryName_of_mem_singleNames hne hnames
      ((sortByName_perm id _).mem_iff.1 hname)
    rcases length_utf8_cut hentry.1 with ⟨k, hk, -, hsum⟩
    rw [length_utf8_forwardSlashes]
    omega
  intro heq
  have hlt := @length_stream_map_lt _ _ _ (fun name => contentAt tree ([] ++ [name])) _ hsome
    hshort
  rw [singleStream, copiedStream, (nodup_singleNames hself).dedup] at heq
  rw [heq] at hlt
  exact lt_irrefl _ hlt

/-- A single file and its parameter file give the same bytes when nothing is cut, the file is not
its own parameter file, and its name has no backslash. -/
theorem singleStream_eq_iff (hne : file.parts ≠ [])
    (hnames : ∀ name ∈ file.parts, EntryName name)
    (hfile : isFileAt tree (dir ++ [file.name]) = true) :
    singleStream tree dir (singleNames tree dir file) =
        copiedStream tree dir (singleNames tree dir file) ↔
      dir ≠ [] ∧ file.name ≠ file.stem ++ ".yaml" ∧ '\\' ∉ file.name.toList := by
  by_cases hself : file.name = file.stem ++ ".yaml"
  · exact iff_of_false (singleStream_ne_of_self hself hfile) fun h => h.2.1 hself
  by_cases hdir : dir = []
  · subst hdir
    exact iff_of_false (singleStream_ne_of_root hne hnames hself) fun h => h.1 rfl
  have hcut : ∀ name, cutName dir name = name := fun name => if_neg hdir
  have hsibling : '\\' ∉ file.name.toList → ∀ name ∈ singleNames tree dir file,
      '\\' ∉ name.toList := by
    intro hplain name hname
    rcases List.mem_cons.1 hname with rfl | hmem
    · exact hplain
    · rw [Option.mem_toList] at hmem
      unfold siblingName at hmem
      split_ifs at hmem
      · rw [← Option.some.inj hmem, String.toList_append, List.mem_append, not_or]
        exact ⟨fun hstem => hplain (PyPath.stem_subset_name file hstem), by decide⟩
      · rw [← Option.some.inj hmem]
        decide
  have hstreams := @stream_map_eq_iff _ forwardSlashes (fun name => name)
    (fun name => contentAt tree (dir ++ [name])) (sortByName id (singleNames tree dir file))
    fun name _ => length_utf8_forwardSlashes name
  rw [singleStream, copiedStream, (nodup_singleNames hself).dedup]
  simp only [hcut]
  rw [hstreams]
  simp only [(sortByName_perm id _).mem_iff, forwardSlashes_eq_iff]
  constructor
  · exact fun h => ⟨hdir, hself, h file.name List.mem_cons_self⟩
  · exact fun h => hsibling h.2.2

end

/-! ## The two digests -/

/-- The digest of the loader, then the digest of what a fetch has made of the source. -/
def loadedAndVerified (w : World) (source target : PyPath) (reference : String) :
    Stage (String × String) := do
  let loaded ← treeDigest w source "sha256"
  let mat ← localFetch w (some .provider) reference target
  let verified ← ArtifactVerifier.computeDigest w mat.materializedRoot "sha256"
    mat.digestRelativePaths
  pure (loaded, verified)

/-- The directory of a process, in a file system. -/
structure WorkingTree (tree : FileTree) (cwd : Place) : Prop where
  directories : InDirectories tree
  there : DirectoryAt tree cwd
  names : ∀ name ∈ cwd, EntryName name

/-- What the digests of a directory agree on. -/
def DirectoryVerifies (tree : FileTree) (base target : Place) : Prop :=
  ∀ rel, rel ≠ [] → isFileAt tree (base ++ rel) = true →
    base ≠ target ∧ ∀ name ∈ rel, '\\' ∉ name.toList

/-- What the digests of a single file agree on. -/
def FileVerifies (dir : Place) (file : PyPath) : Prop :=
  dir ≠ [] ∧ file.name ≠ file.stem ++ ".yaml" ∧ '\\' ∉ file.name.toList

/-- Two digests, of the same bytes or not. -/
def DigestsOf (hash : String → List Nat → String) (same : Prop) (digests : String × String) : Prop :=
  ∃ bytes bytes', digests.1 = hash "sha256" bytes ∧ digests.2 = hash "sha256" bytes' ∧
    (bytes = bytes' ↔ same)

theorem DigestsOf.congr {hash : String → List Nat → String} {same same' : Prop}
    {digests : String × String} (h : DigestsOf hash same digests) (hsame : same ↔ same') :
    DigestsOf hash same' digests := by
  rcases h with ⟨bytes, bytes', hloaded, hverified, heq⟩
  exact ⟨bytes, bytes', hloaded, hverified, heq.trans hsame⟩

section

variable {cwd : Place} {hash : String → List Nat → String} {w : World}
  (fw : FileWorld (PyPath.place cwd) hash w) {first tree : FileTree} {source target : PyPath}

theorem reads_treeDigest {P : List Nat → Prop} {algorithm : String}
    (h : Keeps fw.state (· = tree) (treeDigestBytes w (resolvedPath (PyPath.place cwd) source)) P) :
    Keeps fw.state (· = tree) (treeDigest w source algorithm) fun hex =>
      ∃ bytes, P bytes ∧ hex = hash algorithm bytes := by
  refine (reads_resolve fw source).bind fun resolved hresolved => ?_
  subst hresolved
  refine Keeps.bind (P := fun _ => True) (reads_call fw rfl fun _ _ _ _ => trivial) fun _ _ => ?_
  refine h.bind fun bytes hbytes => ?_
  exact reads_call fw rfl fun r hperforms hex hhex => ⟨bytes, hbytes, hperforms.2 hex hhex⟩

/-- The verifier hashes what the directory held at first. -/
theorem reads_verified_dir (htarget : ".." ∉ target.parts) {base : Place}
    (hmat : DirectoryMaterialized first tree base (PyPath.place cwd target)) {paths : List Place}
    (hpaths : FilesBelow first base paths) :
    Keeps fw.state (· = tree) (ArtifactVerifier.hashedBytes w target none) fun bytes =>
      bytes = if base = PyPath.place cwd target then [] else pathsStream first base paths := by
  have hnoFile : isFileAt tree (PyPath.place cwd target) = false := by
    rw [isFileAt, hmat.targetThere]
  by_cases hsame : base = PyPath.place cwd target
  · have hnone : FilesBelow tree (PyPath.place cwd target) [] := by
      refine ⟨List.nodup_nil, fun rel => ?_⟩
      refine iff_of_false List.not_mem_nil fun h => ?_
      rw [isFileAt, hmat.files rel h.1, if_pos hsame] at h
      cases h.2
    have hempty : pathsStream tree (PyPath.place cwd target) [] = [] := by
      simp [pathsStream, sortByName, stream]
    rw [if_pos hsame, ← hempty]
    exact reads_hashedBytes_tree fw htarget hnoFile hnone
  · have hcopies : ∀ rel, rel ≠ [] →
        tree (PyPath.place cwd target ++ rel) = first (base ++ rel) := by
      intro rel hrel
      rw [hmat.files rel hrel, if_neg hsame]
    have hbelow : FilesBelow tree (PyPath.place cwd target) paths := by
      refine ⟨hpaths.1, fun rel => (hpaths.2 rel).trans (and_congr_right fun hrel => ?_)⟩
      rw [isFileAt, isFileAt, hcopies rel hrel]
    have hstream : pathsStream tree (PyPath.place cwd target) paths =
        pathsStream first base paths := by
      unfold pathsStream
      congr 1
      refine List.map_congr_left fun rel hrel => ?_
      have hmem := (sortByName_perm posixText paths).mem_iff.1 hrel
      rw [contentAt, contentAt, hcopies rel ((hpaths.2 rel).1 hmem).1]
    rw [if_neg hsame, ← hstream]
    exact reads_hashedBytes_tree fw htarget hnoFile hbelow

/-- The verifier hashes the copies of a file and its parameter file. -/
theorem reads_verified_file {dir : Place} {file : PyPath} (hne : file.parts ≠ [])
    (hnames : ∀ name ∈ file.parts, EntryName name)
    (hmat : FileMaterialized first tree dir (PyPath.place cwd target) (singleNames first dir file)) :
    Keeps fw.state (· = tree)
      (ArtifactVerifier.hashedBytes w target (some (singleNames first dir file).dedup)) fun bytes =>
        bytes = copiedStream first dir (singleNames first dir file) := by
  have hnoFile : isFileAt tree (PyPath.place cwd target) = false := by
    rw [isFileAt, hmat.there]
  have hnamed : NamedPaths ((singleNames first dir file).dedup.map fun name => [name]) := by
    intro rel hrel
    rcases List.mem_map.1 hrel with ⟨name, hname, rfl⟩
    refine ⟨List.cons_ne_nil _ _, fun name' hname' => ?_⟩
    rw [List.mem_singleton.1 hname']
    exact entryName_of_mem_singleNames hne hnames (List.mem_dedup.1 hname)
  have htexts : ((singleNames first dir file).dedup.map fun name => [name]).map posixText =
      (singleNames first dir file).dedup := by
    rw [List.map_map]
    exact (List.map_congr_left fun name _ => posixText_singleton name).trans (List.map_id _)
  have hstream : pathsStream tree (PyPath.place cwd target)
      ((singleNames first dir file).dedup.map fun name => [name]) =
        copiedStream first dir (singleNames first dir file) := by
    have hsorted : sortByName posixText
        ((singleNames first dir file).dedup.map fun name => [name]) =
          (sortByName id (singleNames first dir file).dedup).map fun name => [name] :=
      sortByName_map _ fun name _ name' _ => by
        rw [posixText_singleton, posixText_singleton]
        rfl
    rw [pathsStream, copiedStream, hsorted, List.map_map]
    congr 1
    refine List.map_congr_left fun name hname => ?_
    have hmem := List.mem_dedup.1 ((sortByName_perm id _).mem_iff.1 hname)
    rw [Function.comp_apply, posixText_singleton, contentAt, contentAt, hmat.copies name hmem]
  rw [← hstream]
  exact reads_hashedBytes_scoped fw hnoFile hnamed (by rw [htexts])

/-- The two digests are of the bytes that are hashed before and after the fetch. -/
theorem ends_loadedAndVerified {reference : String} {same : Prop} {L : List Nat → Prop}
    {Q : FileTree → Prop} {relativePaths : Option (List String)}
    (hloaded : Keeps fw.state (· = first)
      (treeDigestBytes w (resolvedPath (PyPath.place cwd) source)) L)
    (hfetched : Ends fw.state (· = first) (localFetch w (some .provider) reference target)
      fun mat tree => Q tree ∧ mat.materializedRoot = target ∧
        mat.digestRelativePaths = relativePaths)
    (hverified : ∀ bytes, L bytes → ∀ tree, Q tree →
      Keeps fw.state (· = tree) (ArtifactVerifier.hashedBytes w target relativePaths)
        fun bytes' => bytes = bytes' ↔ same) :
    Ends fw.state (· = first) (loadedAndVerified w source target reference) fun digests _ =>
      DigestsOf hash same digests := by
  have hdigest : Ends fw.state (· = first) (treeDigest w source "sha256") fun loaded tree =>
      tree = first ∧ ∃ bytes, L bytes ∧ loaded = hash "sha256" bytes :=
    Ends.of_keeps fun tree htree => htree ▸ reads_treeDigest fw hloaded
  refine hdigest.bind fun loaded => Ends.assume (fun hbytes => ?_) fun _ h => h.2
  rcases hbytes with ⟨bytes, hbytes, rfl⟩
  refine (hfetched.weaken fun _ h => h.1).bind fun mat => ?_
  have hcompute : ∀ tree, Q tree ∧ mat.materializedRoot = target ∧
      mat.digestRelativePaths = relativePaths → Keeps fw.state (· = tree)
        (ArtifactVerifier.computeDigest w mat.materializedRoot "sha256" mat.digestRelativePaths)
        fun verified => ∃ bytes', (bytes = bytes' ↔ same) ∧ verified = hash "sha256" bytes' := by
    rintro tree ⟨htree, hroot, hpaths⟩
    rw [hroot, hpaths]
    refine Keeps.bind (P := fun _ => True) (reads_call fw rfl fun _ _ _ _ => trivial) fun _ _ => ?_
    refine (hverified bytes hbytes tree htree).bind fun bytes' hsame => ?_
    exact reads_call fw rfl fun r hperforms hex hhex => ⟨bytes', hsame, hperforms.2 hex hhex⟩
  refine (Ends.of_keeps hcompute).bind fun verified => ?_
  refine Ends.pure fun tree h => ?_
  rcases h.2 with ⟨bytes', hsame, rfl⟩
  exact ⟨bytes, bytes', rfl, rfl, hsame⟩

section

variable {reference : String} (hcwd : ∀ name ∈ cwd, EntryName name)
  (hnames : ∀ name ∈ source.parts, EntryName name) (htarget : ".." ∉ target.parts)
  (hsource : ∀ calls p calls',
    resolveSourcePath w (some .provider) reference calls = (.ok p, calls') → p = source)
include hcwd

theorem place_resolved_source : PyPath.place cwd (resolvedPath (PyPath.place cwd) source) =
    PyPath.place cwd source :=
  place_resolvedPath (fun hmem => (hcwd ".." hmem).2.2.1 rfl) source

include hnames

/-- The names of the place that a source leads to. -/
theorem entryName_of_mem_resolved {name : String}
    (h : name ∈ (resolvedPath (PyPath.place cwd) source).parts) : EntryName name :=
  entryName_of_mem_place hcwd (textPath_of_entryNames hnames) h

include htarget hsource

/-- The digests of a directory. -/
theorem ends_loadedAndVerified_dir (hdirectories : InDirectories first)
    (hdir : first (PyPath.place cwd source) = some .directory) :
    Ends fw.state (· = first) (loadedAndVerified w source target reference) fun digests _ =>
      DigestsOf hash
        (DirectoryVerifies first (PyPath.place cwd source) (PyPath.place cwd target)) digests := by
  have hplain : ".." ∉ source.parts := fun hmem => (hnames ".." hmem).2.2.1 rfl
  have hresolved : PyPath.place cwd (resolvedPath (PyPath.place cwd) source) =
      PyPath.place cwd source := place_resolved_source hcwd
  have hloaded := reads_treeDigestBytes_dir fw rfl
    (fun name => entryName_of_mem_resolved hcwd hnames) (hresolved ▸ hdir)
  rw [hresolved] at hloaded
  refine ends_loadedAndVerified fw hloaded
    (ends_localFetch_dir fw htarget hplain hdirectories hsource hdir) fun bytes hbytes tree hmat => ?_
  rcases hbytes with ⟨paths, hpaths, -, rfl⟩
  refine (reads_verified_dir fw htarget hmat hpaths).mono fun bytes' hbytes' => ?_
  subst hbytes'
  unfold DirectoryVerifies
  split <;> rename_i hsame
  · have hnil : slashedStream first (PyPath.place cwd source) paths = [] ↔ paths = [] := by
      rw [slashedStream, stream_eq_nil_iff, List.map_eq_nil_iff]
      have hperm := sortByName_perm posixText paths
      exact ⟨fun h => List.nil_perm.1 (h ▸ hperm), fun h => List.perm_nil.1 (h ▸ hperm)⟩
    rw [hnil, List.eq_nil_iff_forall_not_mem]
    refine forall_congr' fun rel => ?_
    rw [hpaths.2, not_and]
    exact forall_congr' fun _ => ⟨fun h hfile => absurd hfile h, fun h hfile => (h hfile).1 hsame⟩
  · rw [slashedStream_eq_iff]
    refine forall_congr' fun rel => ?_
    rw [hpaths.2, and_imp]
    exact forall_congr' fun _ => forall_congr' fun _ => (and_iff_right hsame).symm

/-- The digests of a single file. -/
theorem ends_loadedAndVerified_file (hne : source.parts ≠ [])
    (hfile : isFileAt first (PyPath.place cwd source) = true) :
    Ends fw.state (· = first) (loadedAndVerified w source target reference) fun digests _ =>
      DigestsOf hash (FileVerifies (PyPath.place cwd source).dropLast source) digests := by
  have hup : ".." ∉ cwd := fun hmem => (hcwd ".." hmem).2.2.1 rfl
  have hplain : ".." ∉ source.parts := fun hmem => (hnames ".." hmem).2.2.1 rfl
  have hplace := place_eq_concat cwd hplain hne
  have hplaceNe : PyPath.place cwd source ≠ [] := by
    rw [hplace]
    simp
  have hname : (resolvedPath (PyPath.place cwd) source).name = source.name := by
    rw [PyPath.name, resolvedPath, hplace, List.getLastD_concat]
  have hsame : singleNames first (PyPath.place cwd source).dropLast
      (resolvedPath (PyPath.place cwd) source) =
        singleNames first (PyPath.place cwd source).dropLast source := by
    rw [singleNames, singleNames, PyPath.stem, PyPath.stem, PyPath.splitName, PyPath.splitName,
      hname]
  have hresolved : PyPath.place cwd (resolvedPath (PyPath.place cwd) source) =
      PyPath.place cwd source := place_resolved_source hcwd
  have hloaded := reads_treeDigestBytes_file hup fw rfl
    (fun name => entryName_of_mem_resolved hcwd hnames) hplaceNe (hresolved ▸ hfile)
  rw [resolvedPath] at hloaded hsame
  rw [hsame] at hloaded
  refine ends_loadedAndVerified fw hloaded
    (ends_localFetch_file fw hup htarget hnames hne hsource hfile) fun bytes hbytes tree hmat => ?_
  subst hbytes
  refine (reads_verified_file fw hne hnames hmat).mono fun bytes' hbytes' => ?_
  subst hbytes'
  exact singleStream_eq_iff hne hnames (hplace ▸ hfile)

end

/-- The sources whose two digests agree, before a fetch into a target. -/
structure LoaderVerifies (tree : FileTree) (cwd : Place) (source target : PyPath) : Prop where
  file : isFileAt tree (PyPath.place cwd source) = true →
    FileVerifies (PyPath.place cwd source).dropLast source
  directory : tree (PyPath.place cwd source) = some .directory →
    DirectoryVerifies tree (PyPath.place cwd source) (PyPath.place cwd target)

/-- In every run that returns both digests, they are of the same bytes for these sources only. -/
theorem loader_digest_verifies_iff {reference loaded verified : String}
    {calls calls' : List BootstrapCall} (hwork : WorkingTree (fw.state calls) cwd)
    (hnames : ∀ name ∈ source.parts, EntryName name) (htarget : ".." ∉ target.parts)
    (hthere : fw.state calls (PyPath.place cwd source) ≠ none)
    (hsource : ∀ calls p calls',
      resolveSourcePath w (some .provider) reference calls = (.ok p, calls') → p = source)
    (hrun : loadedAndVerified w source target reference calls = (.ok (loaded, verified), calls')) :
    (LoaderVerifies (fw.state calls) cwd source target → loaded = verified) ∧
      (Function.Injective (hash "sha256") → loaded = verified →
        LoaderVerifies (fw.state calls) cwd source target) := by
  have hdigests : DigestsOf hash (LoaderVerifies (fw.state calls) cwd source target)
      (loaded, verified) := by
    have hup : ".." ∉ source.parts := fun hmem => (hnames ".." hmem).2.2.1 rfl
    cases hnode : fw.state calls (PyPath.place cwd source) with
    | none => exact absurd hnode hthere
    | some node =>
        cases node with
        | directory =>
            have hsame : DirectoryVerifies (fw.state calls) (PyPath.place cwd source)
                (PyPath.place cwd target) ↔ LoaderVerifies (fw.state calls) cwd source target := by
              refine ⟨fun h => ⟨fun hfile => ?_, fun _ => h⟩, fun h => h.directory hnode⟩
              rw [isFileAt, hnode] at hfile
              cases hfile
            have hends := ends_loadedAndVerified_dir fw hwork.names hnames htarget hsource
              hwork.directories hnode calls rfl
            rw [hrun] at hends
            exact (hends _ rfl).congr hsame
        | file bytes =>
            have hfile : isFileAt (fw.state calls) (PyPath.place cwd source) = true :=
              isFileAt_iff.2 ⟨bytes, hnode⟩
            have hne : source.parts ≠ [] := by
              intro hnil
              have hdirectory : fw.state calls (PyPath.place cwd source) = some .directory := by
                rw [place_plain cwd hup, hnil, List.append_nil, placeStart]
                split
                · exact hwork.there [] List.nil_prefix
                · exact hwork.there cwd (List.prefix_refl _)
              rw [hnode] at hdirectory
              cases hdirectory
            have hsame : FileVerifies (PyPath.place cwd source).dropLast source ↔
                LoaderVerifies (fw.state calls) cwd source target := by
              refine ⟨fun h => ⟨fun _ => h, fun hdirectory => ?_⟩, fun h => h.file hfile⟩
              rw [hnode] at hdirectory
              cases hdirectory
            have hends := ends_loadedAndVerified_file fw hwork.names hnames htarget hsource hne
              hfile calls rfl
            rw [hrun] at hends
            exact (hends _ rfl).congr hsame
  rcases hdigests with ⟨bytes, bytes', hloaded, hverified, hsame⟩
  dsimp only at hloaded hverified
  subst hloaded hverified
  exact ⟨fun h => congrArg _ (hsame.2 h), fun hinjective heq => hsame.1 (hinjective heq)⟩

end

/-! ## Runs on a disk -/

/-- Every node of a disk is in directories when every listed one is. -/
theorem Disk.inDirectories {disk : Disk}
    (h : ∀ node ∈ disk.nodes, ∀ q ∈ node.1.inits, q ≠ node.1 → disk.tree q = some .directory) :
    InDirectories disk.tree := by
  intro q q' hleads hne hsome
  rcases Disk.tree_ne_none.1 hsome with ⟨node, hnode⟩
  exact h (q', node) hnode q ((List.mem_inits q q').2 hleads) hne

/-- A plain path is its own reference on a disk. -/
theorem resolveSourcePath_disk (disk : Disk) (cwd : Place) (hash : String → List Nat → String)
    (handler : Option Handler) (reference : String) (calls : List BootstrapCall) {p : PyPath}
    {calls' : List BootstrapCall}
    (h : resolveSourcePath (disk.world cwd hash []) handler reference calls = (.ok p, calls')) :
    p = PyPath.ofText reference := by
  have hreturns : Returns (resolveSourcePath (disk.world cwd hash []) handler reference)
      (PyPath.ofText reference) := by
    unfold resolveSourcePath
    have hparsed : Returns (call (disk.world cwd hash []) handler (.urlparse reference))
        (⟨"", "", reference⟩ : ParsedUrl) := returns_call fun _ => rfl
    exact hparsed.bind (Returns.pure _)
  rcases hreturns calls with ⟨r, new, hrun, rfl⟩
  rw [hrun] at h
  exact (Except.ok.inj (congrArg Prod.fst h)).symm

/-- {lit}`hashlib.new("sha256")`, in hexadecimal. -/
def sha256Hex (_algorithm : String) (bytes : List Nat) : String :=
  String.ofList ((Sha256.digest bytes).flatMap (hexText 8))

/-- A file in the root directory, and the same file in another one. -/
def bundleDisk : Disk :=
  ⟨[([], .directory), (["bot.py"], .file [1, 2]), (["srv"], .directory),
    (["srv", "bot.py"], .file [1, 2]), (["work"], .directory)]⟩

theorem workingTree_bundleDisk : WorkingTree bundleDisk.tree [] where
  directories := Disk.inDirectories (by decide +kernel)
  there := by
    intro q hq
    rw [List.prefix_nil.1 hq]
    decide +kernel
  names := by simp

/-- A file in a directory verifies. -/
theorem bundleFile_digests_agree : ∃ loaded verified calls',
    loadedAndVerified (bundleDisk.world [] sha256Hex []) ⟨"/", ["srv", "bot.py"]⟩
      ⟨"/", ["work", "rt-1", "artifact"]⟩ "/srv/bot.py" [] = (.ok (loaded, verified), calls') ∧
        loaded = verified := by
  have hrun : (loadedAndVerified (bundleDisk.world [] sha256Hex []) ⟨"/", ["srv", "bot.py"]⟩
      ⟨"/", ["work", "rt-1", "artifact"]⟩ "/srv/bot.py" []).1 = .ok
        ("2a9f46bdf89ecd5deb48b62361633d72061ca1c5dbc83ea0116a3b57e720b5c3",
          "2a9f46bdf89ecd5deb48b62361633d72061ca1c5dbc83ea0116a3b57e720b5c3") :=
    eq_ok_of_toOption (by decide +kernel)
  have hverifies : LoaderVerifies bundleDisk.tree [] ⟨"/", ["srv", "bot.py"]⟩
      ⟨"/", ["work", "rt-1", "artifact"]⟩ := by
    refine ⟨fun _ => ⟨by decide, by decide +kernel, by decide⟩, fun hdirectory => ?_⟩
    exact absurd hdirectory (by decide +kernel)
  have hsource : ∀ calls p calls', resolveSourcePath (bundleDisk.world [] sha256Hex [])
      (some .provider) "/srv/bot.py" calls = (.ok p, calls') → p = ⟨"/", ["srv", "bot.py"]⟩ :=
    fun calls p calls' h => (resolveSourcePath_disk _ _ _ _ _ _ h).trans (by decide +kernel)
  have hwork : WorkingTree ((bundleDisk.files [] sha256Hex []).state []) [] :=
    workingTree_bundleDisk
  have hall := loader_digest_verifies_iff (bundleDisk.files [] sha256Hex []) hwork (by decide)
    (by decide) (by decide +kernel) hsource (Prod.ext hrun rfl)
  exact ⟨_, _, _, Prod.ext hrun rfl, hall.1 hverifies⟩

/-- A file in the root directory does not: the loader hashes the name without its first
character. -/
theorem rootFile_digest_differs :
    ¬ ∀ (disk : Disk) (source target : PyPath) (reference loaded verified : String)
      (calls' : List BootstrapCall), WorkingTree disk.tree [] →
        isFileAt disk.tree (PyPath.place [] source) = true →
          PyPath.ofText reference = source →
            loadedAndVerified (disk.world [] sha256Hex []) source target reference [] =
              (.ok (loaded, verified), calls') → loaded = verified := by
  intro h
  have hrun : (loadedAndVerified (bundleDisk.world [] sha256Hex []) ⟨"/", ["bot.py"]⟩
      ⟨"/", ["work", "rt-1", "artifact"]⟩ "/bot.py" []).1 = .ok
        ("6f832625e1ac1f35bf921cde2e633b5d8032709de49dc092e39c5bb873ab4caf",
          "2a9f46bdf89ecd5deb48b62361633d72061ca1c5dbc83ea0116a3b57e720b5c3") :=
    eq_ok_of_toOption (by decide +kernel)
  have heq := h bundleDisk ⟨"/", ["bot.py"]⟩ ⟨"/", ["work", "rt-1", "artifact"]⟩ "/bot.py" _ _ _
    workingTree_bundleDisk (by decide +kernel) (by decide +kernel) (Prod.ext hrun rfl)
  exact absurd heq (by decide)

end Bootstrap
end StrategyWorker
