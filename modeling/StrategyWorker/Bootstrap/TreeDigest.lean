import StrategyWorker.Bootstrap.DigestStream

/-!
# The digest of the bundle's loader

{lit}`_tree_digest` hashes the files of a source before it is fetched.  It cuts
the text of the root from the text of each file, and writes slashes for
backslashes.

Main results:

- Theorem {lit}`reads_treeDigestBytes_dir`, theorem
  {lit}`reads_treeDigestBytes_file`: what is hashed.
- Theorem {lit}`stream_map_eq_iff`: two streams of frames of the same lengths.
-/

namespace StrategyWorker
namespace Bootstrap

open Library
open PyText Logged

/-! ## The loader -/

/-- {lit}`rel.replace("\\", "/")`. -/
def forwardSlashes (rel : String) : String :=
  String.ofList (rel.toList.map fun c => if c = '\\' then '/' else c)

/-- One file: its path after the root's prefix, then its bytes. -/
def hashAfterPrefix (w : World) (rootPrefix : String) (file : PyPath) : Stage (List Nat) :=
  ArtifactVerifier.hashNamed w
    (forwardSlashes (String.ofList (file.text.toList.drop rootPrefix.toList.length))) file

/-- A file and the parameter file next to it. -/
def singleFiles (w : World) (root : PyPath) : Stage (List PyPath) := do
  match ← discoverParamsYaml w none root with
  | none => pure [root]
  | some paramsYaml => do
      let resolved : PyPath ← call w none (.resolve paramsYaml)
      pure [root, resolved]

/-- {lit}`rs if rs.endswith(os.sep) else rs + os.sep`. -/
def directoryPrefix (root : PyPath) : String :=
  if root.text.toList.getLast? = some '/' then root.text else root.text ++ "/"

/-- What {lit}`_tree_digest` hashes. -/
def treeDigestBytes (w : World) (root : PyPath) : Stage (List Nat) := do
  let isFile : Bool ← call w none (.isFile root)
  if isFile then do
    let files ← singleFiles w root
    ArtifactVerifier.hashAll (hashAfterPrefix w (root.parent.text ++ "/"))
      (files.mergeSort fun p q => p.name ≤ q.name)
  else do
    let isDir : Bool ← call w none (.isDir root)
    if isDir then do
      let items : List PyPath ← call w none (.rglob root)
      let files ← ArtifactVerifier.filterFiles w items
      ArtifactVerifier.hashAll (hashAfterPrefix w (directoryPrefix root))
        (files.mergeSort fun p q => p.text ≤ q.text)
    else pure []

/-- {lit}`_tree_digest(root_path, algorithm)`. -/
def treeDigest (w : World) (rootPath : PyPath) (algorithm : String) : Stage String := do
  let root : PyPath ← call w none (.resolve rootPath)
  call w none (.hashlibNew algorithm)
  let bytes ← treeDigestBytes w root
  call w none (.hexdigest algorithm bytes)

/-! ## Slashes -/

theorem forwardSlashes_eq_iff (text : String) : forwardSlashes text = text ↔ '\\' ∉ text.toList := by
  rw [forwardSlashes, ← String.toList_inj, String.toList_ofList]
  induction text.toList with
  | nil => simp
  | cons c cs ih =>
      rw [List.map_cons, List.cons.injEq, ih, List.mem_cons, not_or]
      refine and_congr_left fun _ => ?_
      split <;> rename_i hc
      · simp [hc]
      · simp [Ne.symm hc]

/-- A slash and a backslash are one byte each. -/
theorem length_utf8_forwardSlashes (text : String) :
    (Sha256.utf8 (forwardSlashes text)).length = (Sha256.utf8 text).length := by
  have hchar : ∀ c : Char,
      (String.utf8EncodeChar (if c = '\\' then '/' else c)).length =
        (String.utf8EncodeChar c).length := by
    intro c
    split <;> rename_i hc
    · rw [hc]
      rfl
    · rfl
  rw [forwardSlashes, Sha256.utf8, Sha256.utf8, String.toList_ofList, List.flatMap_map]
  simp only [List.length_flatMap, List.length_map, hchar]

/-- Two streams whose names have the same lengths are equal when their names are. -/
theorem stream_map_eq_iff {α : Type} {name name' : α → String} {content : α → List Nat}
    {xs : List α}
    (h : ∀ x ∈ xs, (Sha256.utf8 (name x)).length = (Sha256.utf8 (name' x)).length) :
    stream (xs.map fun x => (name x, content x)) = stream (xs.map fun x => (name' x, content x)) ↔
      ∀ x ∈ xs, name x = name' x := by
  induction xs with
  | nil => simp [stream]
  | cons x xs ih =>
      have hfirst := h x List.mem_cons_self
      have hlength : (frame (name x, content x)).length = (frame (name' x, content x)).length := by
        simp [frame, hfirst]
      have hrest := ih fun y hy => h y (List.mem_cons_of_mem x hy)
      rw [List.map_cons, List.map_cons, stream_cons, stream_cons, List.forall_mem_cons, ← hrest]
      constructor
      · intro heq
        rcases List.append_inj heq hlength with ⟨hframe, hstream⟩
        refine ⟨?_, hstream⟩
        simp only [frame, List.append_assoc, List.singleton_append] at hframe
        exact utf8_injective (List.append_inj hframe hfirst).1
      · rintro ⟨hname, hstream⟩
        rw [hname, hstream]

/-! ## Texts after a prefix -/

theorem drop_textStart (p : PyPath) {rel : Place} (hne : rel ≠ []) :
    String.ofList ((below p rel).text.toList.drop (textStart p).toList.length) = posixText rel := by
  rw [text_below p hne, String.toList_append, List.drop_left, String.ofList_toList]

/-- A joined text ends in its last name. -/
theorem exists_intercalate_concat (parts : List String) (name : String) :
    ∃ start, String.intercalate "/" (parts ++ [name]) = start ++ name := by
  cases parts with
  | nil => exact ⟨"", by simp⟩
  | cons part parts =>
      refine ⟨String.intercalate "/" (part :: parts) ++ "/", ?_⟩
      rw [String.intercalate_append_of_ne_nil (List.cons_ne_nil _ _) (List.cons_ne_nil _ _),
        String.intercalate_singleton]

/-- The prefix of a directory ends where the names below it start. -/
theorem directoryPrefix_eq {root : PyPath} (hroot : root.root = "/")
    (hnames : ∀ name ∈ root.parts, EntryName name) : directoryPrefix root = textStart root := by
  have hrootText : root.root ≠ "" := by
    simp [hroot]
  have htext : root.text = root.root ++ String.intercalate "/" root.parts := by
    rw [PyPath.text, if_neg fun h => hrootText h.1]
  unfold directoryPrefix textStart
  by_cases hparts : root.parts = []
  · have hslash : root.text.toList.getLast? = some '/' := by
      simp [htext, hparts, hroot]
    rw [if_pos hparts, if_pos hslash, htext, hparts, String.intercalate_nil, String.append_empty]
  · have hlast : root.text.toList.getLast? ≠ some '/' := by
      intro hslash
      have hsplit := List.dropLast_append_getLast hparts
      have hname := hnames _ (List.getLast_mem hparts)
      rcases exists_intercalate_concat root.parts.dropLast (root.parts.getLast hparts) with
        ⟨start, hstart⟩
      rw [htext, ← hsplit, hstart, String.toList_append, String.toList_append, ← List.append_assoc,
        List.getLast?_append_of_ne_nil _ fun h => hname.1 (String.toList_eq_nil_iff.1 h)] at hslash
      exact hname.2.2.2 (List.mem_of_getLast? hslash)
    rw [if_neg hparts, if_neg hlast, htext, String.append_assoc]

/-! ## Names of places -/

theorem mem_walk {base : Place} {parts : List String} {name : String}
    (h : name ∈ walk base parts) : name ∈ base ∨ name ∈ parts := by
  induction parts generalizing base with
  | nil => exact .inl h
  | cons part parts ih =>
      rw [walk] at h
      split at h
      · exact (ih h).imp List.mem_of_mem_dropLast (List.mem_cons_of_mem part)
      · rcases ih h with hbase | hparts
        · rcases List.mem_append.1 hbase with hbase | hpart
          · exact .inl hbase
          · exact .inr (List.mem_singleton.1 hpart ▸ List.mem_cons_self)
        · exact .inr (List.mem_cons_of_mem part hparts)

/-- A place that a text leads to has names of entries. -/
theorem entryName_of_mem_place {cwd : Place} (hcwd : ∀ name ∈ cwd, EntryName name) {p : PyPath}
    (hp : TextPath p) {name : String} (h : name ∈ PyPath.place cwd p) : EntryName name := by
  have hup : ".." ∉ cwd := fun hmem => (hcwd ".." hmem).2.2.1 rfl
  have hne : name ≠ ".." := fun heq => PyPath.not_mem_place hup p (heq ▸ h)
  unfold PyPath.place at h
  rcases mem_walk h with hbase | hparts
  · split at hbase
    · cases hbase
    · exact hcwd name hbase
  · exact ⟨(hp name hparts).1, (hp name hparts).2.1, hne, (hp name hparts).2.2⟩

theorem textPath_of_entryNames {p : PyPath} (h : ∀ name ∈ p.parts, EntryName name) : TextPath p :=
  fun name hname => ⟨(h name hname).1, (h name hname).2.1, (h name hname).2.2.2⟩

/-! ## The parameter file -/

/-- The name of the parameter file next to a module with a stem, in a directory. -/
def siblingName (tree : FileTree) (dir : Place) (stem : String) : Option String :=
  if isFileAt tree (dir ++ [stem ++ ".yaml"]) then some (stem ++ ".yaml")
  else if isFileAt tree (dir ++ ["params.yaml"]) then some "params.yaml"
  else none

section

variable {cwd : Place} (hcwd : ".." ∉ cwd) {hash : String → List Nat → String} {w : World}
  (fw : FileWorld (PyPath.place cwd) hash w) {tree : FileTree} {handler : Option Handler}
include hcwd

omit hcwd in
theorem reads_resolve (p : PyPath) :
    Keeps fw.state (· = tree) (call w handler (.resolve p))
      fun resolved => resolved = resolvedPath (PyPath.place cwd) p :=
  reads_call fw rfl fun _ h => h.2

theorem place_resolvedPath (p : PyPath) :
    PyPath.place cwd (resolvedPath (PyPath.place cwd) p) = PyPath.place cwd p :=
  (unlinked_place hcwd p).above _ (List.prefix_refl _)

theorem reads_discoverParamsYaml {moduleFile : PyPath} (hfile : TextPath moduleFile) :
    Keeps fw.state (· = tree) (discoverParamsYaml w handler moduleFile) fun params =>
      params = (siblingName tree (PyPath.place cwd moduleFile).dropLast moduleFile.stem).map
        fun name => ⟨resolvedRoot moduleFile, (PyPath.place cwd moduleFile).dropLast ++ [name]⟩ := by
  have hplain : ∀ name, EntryName name →
      ".." ∉ (PyPath.place cwd moduleFile).dropLast ++ [name] := by
    intro name hname hmem
    rcases List.mem_append.1 hmem with hmem | hmem
    · exact PyPath.not_mem_place hcwd moduleFile (List.mem_of_mem_dropLast hmem)
    · exact hname.2.2.1 (List.mem_singleton.1 hmem).symm
  have hchild : ∀ name, EntryName name →
      (resolvedPath (PyPath.place cwd) moduleFile).parent.child name =
        ⟨resolvedRoot moduleFile, (PyPath.place cwd moduleFile).dropLast ++ [name]⟩ :=
    fun name hname => child_of_entryName _ hname
  have hisFile : ∀ name, EntryName name → Keeps fw.state (· = tree)
      (call w handler (.isFile ((resolvedPath (PyPath.place cwd) moduleFile).parent.child name)))
        fun answer =>
          answer = isFileAt tree ((PyPath.place cwd moduleFile).dropLast ++ [name]) := by
    intro name hname
    have hread : Keeps fw.state (· = tree) (call w handler (.isFile
        ⟨resolvedRoot moduleFile, (PyPath.place cwd moduleFile).dropLast ++ [name]⟩)) fun answer =>
          answer = isFileAt tree (PyPath.place cwd
            ⟨resolvedRoot moduleFile, (PyPath.place cwd moduleFile).dropLast ++ [name]⟩) :=
      reads_isFile fw (hplain name hname)
    rw [PyPath.place_of_plain cwd (resolvedRoot_ne_empty moduleFile) (hplain name hname)] at hread
    rwa [hchild name hname]
  have hyaml := entryName_paramsYaml hfile
  have hlegacy : EntryName "params.yaml" := by
    decide
  refine (reads_resolve fw moduleFile).bind fun resolved hresolved => ?_
  subst hresolved
  refine (hisFile _ hyaml).bind fun hasStem hhasStem => ?_
  refine Keeps.ite (fun hstem => Keeps.pure ?_) fun hstem => ?_
  · rw [hhasStem] at hstem
    have hsibling : siblingName tree (PyPath.place cwd moduleFile).dropLast moduleFile.stem =
        some (paramsYamlFilenameForModule moduleFile) := if_pos hstem
    rw [hchild _ hyaml, hsibling]
    rfl
  · rw [hhasStem] at hstem
    refine (hisFile _ hlegacy).bind fun hasLegacy hhasLegacy => Keeps.pure ?_
    have hsibling : siblingName tree (PyPath.place cwd moduleFile).dropLast moduleFile.stem =
        if isFileAt tree ((PyPath.place cwd moduleFile).dropLast ++ ["params.yaml"]) then
          some "params.yaml" else none := if_neg hstem
    rw [hsibling, ← hhasLegacy]
    split
    · rw [hchild _ hlegacy]
      rfl
    · rfl

/-! ## What the loader hashes -/

/-- The stream of the files of a directory, with slashes for backslashes. -/
def slashedStream (tree : FileTree) (base : Place) (paths : List Place) : List Nat :=
  stream ((sortByName posixText paths).map fun rel =>
    (forwardSlashes (posixText rel), contentAt tree (base ++ rel)))

omit hcwd in
theorem reads_treeDigestBytes_dir {root : PyPath} (hroot : root.root = "/")
    (hnames : ∀ name ∈ root.parts, EntryName name)
    (hdir : tree (PyPath.place cwd root) = some .directory) :
    Keeps fw.state (· = tree) (treeDigestBytes w root) fun bytes =>
      ∃ paths, FilesBelow tree (PyPath.place cwd root) paths ∧ NamedPaths paths ∧
        bytes = slashedStream tree (PyPath.place cwd root) paths := by
  have hplain : ".." ∉ root.parts := fun hmem => (hnames ".." hmem).2.2.1 rfl
  have hisDir : Keeps fw.state (· = tree) (call w none (.isDir root)) fun answer => answer = true := by
    refine reads_call fw rfl fun r h answer hanswer => ?_
    cases answer with
    | true => rfl
    | false => exact absurd hdir (h.2.2 hanswer hplain)
  have hisFile : isFileAt tree (PyPath.place cwd root) = false := by
    rw [isFileAt, hdir]
  unfold treeDigestBytes
  refine (reads_root_isFile fw hisFile).bind fun isFile hanswer => ?_
  subst hanswer
  rw [if_neg (by simp)]
  refine hisDir.bind fun isDir hanswer => ?_
  subst hanswer
  rw [if_pos rfl]
  refine (reads_rglob fw root).bind fun items hitems => ?_
  rcases hitems with ⟨rels, hlisted, rfl⟩
  refine (reads_filterListed fw hplain hlisted).bind fun files hfiles => ?_
  subst hfiles
  have hnamed := hlisted.named fun rel => isFileAt tree (PyPath.place cwd root ++ rel)
  have hsorted : ((rels.filter fun rel => isFileAt tree (PyPath.place cwd root ++ rel)).map
      (below root)).mergeSort (fun p q => p.text ≤ q.text) =
        (sortByName posixText (rels.filter fun rel =>
          isFileAt tree (PyPath.place cwd root ++ rel))).map (below root) :=
    sortByName_map _ fun rel hrel rel' hrel' =>
      below_text_le root (hnamed rel hrel).1 (hnamed rel' hrel').1
  rw [hsorted, directoryPrefix_eq hroot hnames]
  refine (reads_hashAll fw fun file _ => reads_hashNamed fw _ file).mono fun bytes hbytes => ?_
  refine ⟨_, ⟨hlisted.1.filter _, fun rel => ?_⟩, hnamed, ?_⟩
  · rw [List.mem_filter, hlisted.2.2]
    constructor
    · exact fun h => ⟨h.1.1, h.2⟩
    · intro h
      rcases isFileAt_iff.1 h.2 with ⟨content, hcontent⟩
      exact ⟨⟨h.1, by simp [hcontent]⟩, h.2⟩
  · rw [hbytes, slashedStream, stream, List.flatMap_map, List.flatMap_map]
    refine List.flatMap_congr fun rel hmem => ?_
    have hrel := (sortByName_perm posixText _).mem_iff.1 hmem
    rw [drop_textStart root (hnamed rel hrel).1, place_below cwd root (hnamed.plain hrel)]

/-- The names of a single file and of the parameter file next to it. -/
def singleNames (tree : FileTree) (dir : Place) (file : PyPath) : List String :=
  file.name :: (siblingName tree dir file.stem).toList

omit hcwd in
theorem name_mem_parts {p : PyPath} (hne : p.parts ≠ []) : p.name ∈ p.parts := by
  rw [PyPath.name, List.getLastD_eq_getLast?, List.getLast?_eq_some_getLast hne, Option.getD_some]
  exact List.getLast_mem hne

omit hcwd in
theorem entryName_of_mem_singleNames {dir : Place} {file : PyPath} (hne : file.parts ≠ [])
    (hnames : ∀ name ∈ file.parts, EntryName name) {name : String}
    (h : name ∈ singleNames tree dir file) : EntryName name := by
  rcases List.mem_cons.1 h with rfl | hsibling
  · exact hnames _ (name_mem_parts hne)
  · rw [Option.mem_toList] at hsibling
    unfold siblingName at hsibling
    split_ifs at hsibling
    · obtain rfl := Option.some.inj hsibling
      exact entryName_paramsYaml (textPath_of_entryNames hnames)
    · obtain rfl := Option.some.inj hsibling
      decide

/-- What is left of a name: the prefix of the root directory is one character too long. -/
def cutName (dir : Place) (name : String) : String :=
  if dir = [] then String.ofList (name.toList.drop 1) else name

/-- The stream of a single file and its parameter file. -/
def singleStream (tree : FileTree) (dir : Place) (names : List String) : List Nat :=
  stream ((sortByName id names).map fun name =>
    (forwardSlashes (cutName dir name), contentAt tree (dir ++ [name])))

omit hcwd in
theorem posixText_singleton (name : String) : posixText [name] = name :=
  String.intercalate_singleton

omit hcwd in
/-- What the prefix of a single file leaves of the text of a file next to it. -/
theorem drop_parentPrefix (parent : PyPath) (hroot : parent.root ≠ "") (name : String) :
    String.ofList ((below parent [name]).text.toList.drop (parent.text ++ "/").toList.length) =
      cutName parent.parts name := by
  have htext : parent.text = parent.root ++ String.intercalate "/" parent.parts := by
    rw [PyPath.text, if_neg fun h => hroot h.1]
  unfold cutName
  split
  · rename_i hparts
    have hlength : (parent.text ++ "/").toList.length = parent.root.toList.length + 1 := by
      rw [htext, hparts, String.intercalate_nil]
      simp
    rw [text_below parent (List.cons_ne_nil _ _), hlength, textStart, if_pos hparts,
      posixText_singleton, String.toList_append, List.drop_append]
    simp
  · rename_i hparts
    have hleads : parent.text ++ "/" = textStart parent := by
      rw [textStart, if_neg hparts, htext, String.append_assoc]
    rw [hleads, drop_textStart parent (List.cons_ne_nil _ _), posixText_singleton]

/-- The loader hashes a single file and its parameter file. -/
theorem reads_treeDigestBytes_file {root : PyPath} (hroot : root.root = "/")
    (hnames : ∀ name ∈ root.parts, EntryName name) (hne : root.parts ≠ [])
    (hfile : isFileAt tree (PyPath.place cwd root) = true) :
    Keeps fw.state (· = tree) (treeDigestBytes w root) fun bytes =>
      bytes = singleStream tree root.parts.dropLast
        (singleNames tree root.parts.dropLast root) := by
  have hrootText : root.root ≠ "" := by
    simp [hroot]
  have hresolved : resolvedRoot root = root.root :=
    hroot.symm
  have hplain : ".." ∉ root.parts := fun hmem => (hnames ".." hmem).2.2.1 rfl
  have hplace : PyPath.place cwd root = root.parts := PyPath.place_of_plain cwd hrootText hplain
  have hup : ∀ name ∈ singleNames tree root.parts.dropLast root,
      ".." ∉ root.parts.dropLast ++ [name] := by
    intro name hname hmem
    rcases List.mem_append.1 hmem with hmem | hmem
    · exact hplain (List.mem_of_mem_dropLast hmem)
    · exact (entryName_of_mem_singleNames hne hnames hname).2.2.1 (List.mem_singleton.1 hmem).symm
  have hself : below root.parent [root.name] = root := by
    have hname : root.name = root.parts.getLast hne := by
      rw [PyPath.name, List.getLastD_eq_getLast?, List.getLast?_eq_some_getLast hne,
        Option.getD_some]
    rw [below, PyPath.parent, hname, List.dropLast_append_getLast hne]
  have hfiles : Keeps fw.state (· = tree) (singleFiles w root) fun files =>
      files = (singleNames tree root.parts.dropLast root).map fun name =>
        below root.parent [name] := by
    refine (reads_discoverParamsYaml hcwd fw (textPath_of_entryNames hnames)).bind
      fun params hparams => ?_
    rw [hplace, hresolved] at hparams
    cases hsibling : siblingName tree root.parts.dropLast root.stem with
    | none =>
        rw [hsibling] at hparams
        subst hparams
        refine Keeps.pure ?_
        simp [singleNames, hsibling, hself]
    | some name =>
        rw [hsibling] at hparams
        subst hparams
        refine (reads_resolve fw _).bind fun resolved hpath => Keeps.pure ?_
        have hmem : name ∈ singleNames tree root.parts.dropLast root := by
          simp [singleNames, hsibling]
        have hparent : resolved = below root.parent [name] := by
          rw [hpath, resolvedPath, PyPath.place_of_plain cwd hrootText (hup name hmem)]
          exact congrArg (PyPath.mk · _) hresolved
        simp [singleNames, hsibling, hself, hparent]
  unfold treeDigestBytes
  refine (reads_isFile fw hplain).bind fun isFile hanswer => ?_
  rw [hfile] at hanswer
  subst hanswer
  rw [if_pos rfl]
  refine hfiles.bind fun files heq => ?_
  subst heq
  have hsorted : ((singleNames tree root.parts.dropLast root).map fun name =>
      below root.parent [name]).mergeSort (fun p q => p.name ≤ q.name) =
        (sortByName id (singleNames tree root.parts.dropLast root)).map fun name =>
          below root.parent [name] := by
    refine sortByName_map _ fun name _ name' _ => ?_
    simp [PyPath.name, below]
  rw [hsorted]
  refine (reads_hashAll fw fun file _ => reads_hashNamed fw _ file).mono fun bytes hbytes => ?_
  rw [hbytes, singleStream, stream, List.flatMap_map, List.flatMap_map]
  refine List.flatMap_congr fun name hmem => ?_
  have hname := (sortByName_perm id _).mem_iff.1 hmem
  have hplaceName : PyPath.place cwd (below root.parent [name]) = root.parts.dropLast ++ [name] :=
    PyPath.place_of_plain cwd hrootText (hup name hname)
  rw [drop_parentPrefix root.parent hrootText, hplaceName]
  rfl

end

end Bootstrap
end StrategyWorker
