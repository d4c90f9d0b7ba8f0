import StrategyWorker.Bootstrap.FetchFrame
import StrategyWorker.Library.Framing

/-!
# The bytes that a digest covers

{lit}`_compute_digest` hashes the files of a tree, or those of a list of names,
one after the other in the order of their texts: the relative path, a null byte
and the content.

Main results:

- Theorem {lit}`posixText_injective`: a relative path and its text.
- Theorem {lit}`reads_hashedBytes_tree`, theorem
  {lit}`reads_hashedBytes_scoped`: what is hashed.
- Theorem {lit}`reads_computeDigest`: the digest that is returned.
-/

namespace StrategyWorker
namespace Bootstrap

open Library
open PyText Logged

/-! ## Texts of relative paths -/

/-- {lit}`rel.as_posix()`. -/
def posixText (rel : Place) : String :=
  String.intercalate "/" rel

theorem toList_posixText (rel : Place) :
    (posixText rel).toList = ['/'].intercalate (rel.map String.toList) := by
  rw [posixText, String.toList_intercalate]
  rfl

/-- The text of a path is split where it was joined. -/
theorem splitText_posixText {rel : Place} (hne : rel ≠ [])
    (hnames : ∀ name ∈ rel, '/' ∉ name.toList) : PyPath.splitText '/' (posixText rel) = rel := by
  have hlists : ∀ l ∈ rel.map String.toList, '/' ∉ l := by
    intro l hl
    rcases List.mem_map.1 hl with ⟨name, hname, rfl⟩
    exact hnames name hname
  rw [PyPath.splitText, toList_posixText, List.splitOn_intercalate '/' hlists (by simpa using hne),
    List.map_map]
  simp

theorem posixText_injective {rel rel' : Place} (hne : rel ≠ []) (hne' : rel' ≠ [])
    (hnames : ∀ name ∈ rel, '/' ∉ name.toList) (hnames' : ∀ name ∈ rel', '/' ∉ name.toList)
    (h : posixText rel = posixText rel') : rel = rel' := by
  rw [← splitText_posixText hne hnames, h, splitText_posixText hne' hnames']

theorem mem_intercalate {α : Type} {a : α} {sep : List α} {ls : List (List α)}
    (h : a ∈ sep.intercalate ls) : a ∈ sep ∨ ∃ l ∈ ls, a ∈ l := by
  rw [List.intercalate, List.mem_flatten] at h
  rcases h with ⟨l, hl, ha⟩
  induction ls with
  | nil => cases hl
  | cons first ls ih =>
      cases ls with
      | nil => exact .inr ⟨l, hl, ha⟩
      | cons second ls =>
          rw [List.intersperse_cons_cons, List.mem_cons, List.mem_cons] at hl
          rcases hl with rfl | rfl | hl
          · exact .inr ⟨l, List.mem_cons_self, ha⟩
          · exact .inl ha
          · rcases ih hl with hsep | ⟨l', hl', ha'⟩
            · exact .inl hsep
            · exact .inr ⟨l', List.mem_cons_of_mem _ hl', ha'⟩

/-- What the names of a path do not have and is no slash its text does not have. -/
theorem not_mem_posixText {rel : Place} {c : Char} (hc : c ≠ '/')
    (h : ∀ name ∈ rel, c ∉ name.toList) : c ∉ (posixText rel).toList := by
  intro hmem
  rw [toList_posixText] at hmem
  rcases mem_intercalate hmem with hslash | ⟨l, hl, hcl⟩
  · exact hc (List.mem_singleton.1 hslash)
  · rcases List.mem_map.1 hl with ⟨name, hname, rfl⟩
    exact h name hname hcl

/-- The path that a relative text stands for. -/
theorem ofText_posixText {rel : Place} (hne : rel ≠ []) (hnames : ∀ name ∈ rel, EntryName name) :
    PyPath.ofText (posixText rel) = ⟨"", rel⟩ := by
  have hslash : ∀ name ∈ rel, '/' ∉ name.toList := fun name hname => (hnames name hname).2.2.2
  have hroot : PyPath.rootOf (posixText rel) = "" := by
    refine rootOf_eq_empty ?_
    rw [toList_posixText]
    cases rel with
    | nil => exact absurd rfl hne
    | cons name rel =>
        have hname := hnames name List.mem_cons_self
        rcases List.exists_cons_of_ne_nil fun h => hname.1 (String.toList_eq_nil_iff.1 h) with
          ⟨c, cs, hcs⟩
        have hc : c ≠ '/' := fun heq => hname.2.2.2 (by rw [hcs, heq]; exact List.mem_cons_self)
        cases rel <;> simp [List.intercalate, hcs, hc]
  have hfilter : rel.filter (fun part => part ≠ "" ∧ part ≠ ".") = rel := by
    refine List.filter_eq_self.2 fun name hname => ?_
    exact decide_eq_true ⟨(hnames name hname).1, (hnames name hname).2.1⟩
  rw [PyPath.ofText, hroot, splitText_posixText hne hslash, hfilter]

theorem text_relative {rel : Place} (hne : rel ≠ []) :
    (⟨"", rel⟩ : PyPath).text = posixText rel := by
  simp [PyPath.text, hne, posixText]

/-- The text of a directory, up to where the names below it start. -/
def textStart (p : PyPath) : String :=
  if p.parts = [] then p.root else p.root ++ (String.intercalate "/" p.parts ++ "/")

theorem text_below (p : PyPath) {rel : Place} (hne : rel ≠ []) :
    (below p rel).text = textStart p ++ posixText rel := by
  unfold textStart
  cases hparts : p.parts with
  | nil => simp [below, hparts, PyPath.text, hne, posixText]
  | cons part parts =>
      have hjoin : String.intercalate "/" (part :: parts ++ rel) =
          String.intercalate "/" (part :: parts) ++ "/" ++ String.intercalate "/" rel :=
        String.intercalate_append_of_ne_nil (List.cons_ne_nil _ _) hne
      rw [PyPath.text, below, hparts, if_neg (by simp), if_neg (by simp), posixText,
        String.append_assoc, hjoin]

/-! ## Files of a tree -/

def isFileAt (tree : FileTree) (q : Place) : Bool :=
  match tree q with
  | some (.file _) => true
  | _ => false

def contentAt (tree : FileTree) (q : Place) : List Nat :=
  match tree q with
  | some (.file bytes) => bytes
  | _ => []

theorem isFileAt_iff {tree : FileTree} {q : Place} :
    isFileAt tree q = true ↔ ∃ bytes, tree q = some (.file bytes) := by
  unfold isFileAt
  split <;> simp_all

theorem contentAt_of_file {tree : FileTree} {q : Place} {bytes : List Nat}
    (h : tree q = some (.file bytes)) : contentAt tree q = bytes := by
  rw [contentAt, h]

/-- The frames of files below a place, in the order of their texts. -/
def pathsStream (tree : FileTree) (base : Place) (paths : List Place) : List Nat :=
  stream ((sortByName posixText paths).map fun rel => (posixText rel, contentAt tree (base ++ rel)))

/-- The paths of files that can be listed. -/
def NamedPaths (paths : List Place) : Prop :=
  ∀ rel ∈ paths, rel ≠ [] ∧ ∀ name ∈ rel, EntryName name

theorem NamedPaths.plain {paths : List Place} (h : NamedPaths paths) {rel : Place}
    (hrel : rel ∈ paths) : ".." ∉ rel :=
  fun hup => ((h rel hrel).2 ".." hup).2.2.1 rfl

theorem NamedPaths.injective {paths : List Place} (h : NamedPaths paths) :
    ∀ rel ∈ paths, ∀ rel' ∈ paths, posixText rel = posixText rel' → rel = rel' :=
  fun rel hrel rel' hrel' =>
    posixText_injective (h rel hrel).1 (h rel' hrel').1
      (fun name hname => ((h rel hrel).2 name hname).2.2.2)
      (fun name hname => ((h rel' hrel').2 name hname).2.2.2)

/-- The order in which the paths are listed does not matter. -/
theorem pathsStream_eq_of_perm (tree : FileTree) (base : Place) {paths paths' : List Place}
    (h : paths.Perm paths') (hnamed : NamedPaths paths) :
    pathsStream tree base paths = pathsStream tree base paths' := by
  rw [pathsStream, sortByName_eq_of_perm posixText h hnamed.injective]
  rfl

/-! ## Reading -/

section

variable {cwd : Place} {hash : String → List Nat → String} {w : World}
  (fw : FileWorld (PyPath.place cwd) hash w) {tree : FileTree} {handler : Option Handler}

/-- An operation that only asks, with what it answers. -/
theorem reads_call {operation : Operation} {P : operation.Answer → Prop}
    (hasks : operation.asks = true)
    (h : ∀ r, Performs (PyPath.place cwd) hash tree operation r tree → ∀ a, r = .ok a → P a) :
    Keeps fw.state (· = tree) (call w handler operation) P := by
  refine keeps_call fw handler fun tree₀ r tree' heq hperforms => ?_
  subst heq
  have hsame := hperforms.eq_of_asks hasks
  subst hsame
  exact ⟨rfl, h r hperforms⟩

theorem reads_isFile {p : PyPath} (hplain : ".." ∉ p.parts) :
    Keeps fw.state (· = tree) (call w handler (.isFile p))
      fun answer => answer = isFileAt tree (PyPath.place cwd p) := by
  refine reads_call fw rfl fun r h answer hanswer => ?_
  cases answer with
  | true => exact (isFileAt_iff.2 (h.2.1 hanswer)).symm
  | false =>
      refine (Bool.eq_false_iff.2 fun hfile => ?_).symm
      rcases isFileAt_iff.1 hfile with ⟨bytes, hbytes⟩
      exact h.2.2 hanswer hplain bytes hbytes

theorem reads_filterFiles {paths : List PyPath} (hplain : ∀ p ∈ paths, ".." ∉ p.parts) :
    Keeps fw.state (· = tree) (ArtifactVerifier.filterFiles w paths)
      fun files => files = paths.filter fun p => isFileAt tree (PyPath.place cwd p) := by
  induction paths with
  | nil => exact Keeps.pure rfl
  | cons path paths ih =>
      refine (reads_isFile fw (hplain path List.mem_cons_self)).bind fun isFile hisFile => ?_
      refine (ih fun p hp => hplain p (List.mem_cons_of_mem _ hp)).bind fun rest hrest => ?_
      refine Keeps.pure ?_
      rw [List.filter_cons, ← hisFile, hrest]

theorem reads_hashNamed (name : String) (path : PyPath) :
    Keeps fw.state (· = tree) (ArtifactVerifier.hashNamed w name path)
      fun bytes => bytes = frame (name, contentAt tree (PyPath.place cwd path)) := by
  have hname : Keeps fw.state (· = tree) (call w none (.encodeUtf8 name))
      fun bytes => bytes = Sha256.utf8 name := reads_call fw rfl fun r h => h.2
  have hcontent : Keeps fw.state (· = tree) (call w none (.readBytes path))
      fun bytes => bytes = contentAt tree (PyPath.place cwd path) :=
    reads_call fw rfl fun r h bytes hbytes => (contentAt_of_file (h.2 bytes hbytes)).symm
  refine hname.bind fun nameBytes hnameBytes => hcontent.bind fun bytes hbytes => Keeps.pure ?_
  rw [hnameBytes, hbytes]
  rfl

theorem reads_hashAll {β : Type} {hashOne : β → Stage (List Nat)} {g : β → List Nat} {xs : List β}
    (h : ∀ x ∈ xs, Keeps fw.state (· = tree) (hashOne x) fun bytes => bytes = g x) :
    Keeps fw.state (· = tree) (ArtifactVerifier.hashAll hashOne xs)
      fun bytes => bytes = xs.flatMap g := by
  induction xs with
  | nil => exact Keeps.pure rfl
  | cons x xs ih =>
      refine (h x List.mem_cons_self).bind fun bytes hbytes => ?_
      refine (ih fun y hy => h y (List.mem_cons_of_mem x hy)).bind fun rest hrest => Keeps.pure ?_
      rw [hbytes, hrest, List.flatMap_cons]

/-! ## What is hashed -/

/-- A root that is no file, which is what is asked first. -/
theorem reads_root_isFile {root : PyPath} (hroot : isFileAt tree (PyPath.place cwd root) = false) :
    Keeps fw.state (· = tree) (call w handler (.isFile root)) fun answer => answer = false := by
  refine reads_call fw rfl fun r h answer hanswer => ?_
  cases answer with
  | true => exact absurd (isFileAt_iff.2 (h.2.1 hanswer)) (by simp [hroot])
  | false => rfl

/-- What a tree lists below a root. -/
def Listed (tree : FileTree) (base : Place) (rels : List Place) : Prop :=
  rels.Nodup ∧ (∀ rel ∈ rels, ∀ name ∈ rel, EntryName name) ∧
    ∀ rel, rel ∈ rels ↔ rel ≠ [] ∧ tree (base ++ rel) ≠ none

theorem reads_rglob (root : PyPath) :
    Keeps fw.state (· = tree) (call w handler (.rglob root)) fun items =>
      ∃ rels, Listed tree (PyPath.place cwd root) rels ∧ items = rels.map (below root) := by
  refine reads_call fw rfl fun r h items hitems => ?_
  rcases h.2 items hitems with ⟨rels, hnodup, hmap, hnames, hrels⟩
  exact ⟨rels, ⟨hnodup, hnames, hrels⟩, hmap⟩

/-- The paths of the files below a place. -/
def FilesBelow (tree : FileTree) (base : Place) (paths : List Place) : Prop :=
  paths.Nodup ∧ ∀ rel, rel ∈ paths ↔ rel ≠ [] ∧ isFileAt tree (base ++ rel) = true

theorem Listed.filter_perm {base : Place} {rels paths : List Place} (h : Listed tree base rels)
    (hpaths : FilesBelow tree base paths) :
    (rels.filter fun rel => isFileAt tree (base ++ rel)).Perm paths := by
  refine (List.perm_ext_iff_of_nodup (h.1.filter _) hpaths.1).2 fun rel => ?_
  rw [List.mem_filter, h.2.2, hpaths.2]
  constructor
  · exact fun hrel => ⟨hrel.1.1, hrel.2⟩
  · intro hrel
    rcases isFileAt_iff.1 hrel.2 with ⟨bytes, hbytes⟩
    exact ⟨⟨hrel.1, by simp [hbytes]⟩, hrel.2⟩

theorem Listed.named {base : Place} {rels : List Place} (h : Listed tree base rels)
    (kept : Place → Bool) : NamedPaths (rels.filter kept) := by
  intro rel hrel
  have hmem := (List.mem_filter.1 hrel).1
  exact ⟨((h.2.2 rel).1 hmem).1, h.2.1 rel hmem⟩

/-- The files among what a tree lists. -/
theorem reads_filterListed {root : PyPath} (hplain : ".." ∉ root.parts) {rels : List Place}
    (h : Listed tree (PyPath.place cwd root) rels) :
    Keeps fw.state (· = tree) (ArtifactVerifier.filterFiles w (rels.map (below root))) fun files =>
      files = (rels.filter fun rel => isFileAt tree (PyPath.place cwd root ++ rel)).map
        (below root) := by
  have hup : ∀ rel ∈ rels, ".." ∉ rel := fun rel hrel hmem => (h.2.1 rel hrel ".." hmem).2.2.1 rfl
  refine (reads_filterFiles fw fun p hp => ?_).mono fun files hfiles => ?_
  · rcases List.mem_map.1 hp with ⟨rel, hrel, rfl⟩
    exact fun hmem => (List.mem_append.1 hmem).elim hplain (hup rel hrel)
  · rw [hfiles, List.filter_map]
    congr 1
    refine List.filter_congr fun rel hrel => ?_
    rw [Function.comp_apply, place_below cwd root (hup rel hrel)]

theorem below_text_le (root : PyPath) {rel rel' : Place} (hne : rel ≠ []) (hne' : rel' ≠ []) :
    (below root rel).text ≤ (below root rel').text ↔ posixText rel ≤ posixText rel' := by
  rw [text_below root hne, text_below root hne', le_append_left_iff]

/-- Listed files are hashed in the order of the texts of their relative paths. -/
theorem reads_hashListed (root : PyPath) {paths : List Place} (hnamed : NamedPaths paths) :
    Keeps fw.state (· = tree)
      (ArtifactVerifier.hashAll (ArtifactVerifier.hashListed w root)
        ((paths.map (below root)).mergeSort fun p q => p.text ≤ q.text))
      fun bytes => bytes = pathsStream tree (PyPath.place cwd root) paths := by
  have hsorted : (paths.map (below root)).mergeSort (fun p q => p.text ≤ q.text) =
      (sortByName posixText paths).map (below root) :=
    sortByName_map _ fun rel hrel rel' hrel' =>
      below_text_le root (hnamed rel hrel).1 (hnamed rel' hrel').1
  have hone : ∀ p ∈ (sortByName posixText paths).map (below root),
      Keeps fw.state (· = tree) (ArtifactVerifier.hashListed w root p) fun bytes =>
        bytes = frame (posixText (p.parts.drop root.parts.length),
          contentAt tree (PyPath.place cwd p)) := by
    intro p hp
    rcases List.mem_map.1 hp with ⟨rel, hrel, rfl⟩
    have hne := (hnamed rel ((sortByName_perm posixText paths).mem_iff.1 hrel)).1
    have hrelative : (below root rel).relativeTo? root = some ⟨"", rel⟩ := by
      simp [PyPath.relativeTo?, below]
    have hdrop : (below root rel).parts.drop root.parts.length = rel := List.drop_left
    rw [hdrop]
    unfold ArtifactVerifier.hashListed
    rw [hrelative, Option.getD_some, text_relative hne]
    exact reads_hashNamed fw _ _
  rw [hsorted]
  refine (reads_hashAll fw hone).mono fun bytes hbytes => ?_
  rw [hbytes, pathsStream, stream, List.flatMap_map, List.flatMap_map]
  refine List.flatMap_congr fun rel hrel => ?_
  have hplain := hnamed.plain ((sortByName_perm posixText paths).mem_iff.1 hrel)
  have hdrop : (below root rel).parts.drop root.parts.length = rel := List.drop_left
  rw [hdrop, place_below cwd root hplain]

/-- The bytes of a tree. -/
theorem reads_hashedBytes_tree {root : PyPath} (hplain : ".." ∉ root.parts) {paths : List Place}
    (hroot : isFileAt tree (PyPath.place cwd root) = false)
    (hpaths : FilesBelow tree (PyPath.place cwd root) paths) :
    Keeps fw.state (· = tree) (ArtifactVerifier.hashedBytes w root none)
      fun bytes => bytes = pathsStream tree (PyPath.place cwd root) paths := by
  unfold ArtifactVerifier.hashedBytes
  refine (reads_root_isFile fw hroot).bind fun isFile hisFile => ?_
  subst hisFile
  rw [if_neg (by simp)]
  refine Keeps.bind (P := fun _ => True) (reads_call fw rfl fun _ _ _ _ => trivial) fun there _ => ?_
  refine Keeps.ite (fun _ => keeps_fail fw) fun _ => ?_
  refine (reads_rglob fw root).bind fun items hitems => ?_
  rcases hitems with ⟨rels, hlisted, rfl⟩
  refine (reads_filterListed fw hplain hlisted).bind fun files hfiles => ?_
  subst hfiles
  refine (reads_hashListed fw root (hlisted.named _)).mono fun bytes hbytes => ?_
  rw [hbytes, pathsStream_eq_of_perm tree _ (hlisted.filter_perm hpaths) (hlisted.named _)]

/-- The bytes of a list of names. -/
theorem reads_hashedBytes_scoped {root : PyPath} {names : List String} {paths : List Place}
    (hroot : isFileAt tree (PyPath.place cwd root) = false) (hnamed : NamedPaths paths)
    (hnames : names.Perm (paths.map posixText)) :
    Keeps fw.state (· = tree) (ArtifactVerifier.hashedBytes w root (some names))
      fun bytes => bytes = pathsStream tree (PyPath.place cwd root) paths := by
  have hsorted : names.mergeSort (fun a b => a ≤ b) = (sortByName posixText paths).map posixText := by
    calc
      names.mergeSort (fun a b => a ≤ b) = sortByName id names := rfl
      _ = sortByName id (paths.map posixText) :=
        sortByName_eq_of_perm id hnames fun _ _ _ _ heq => heq
      _ = (sortByName posixText paths).map posixText := sortByName_map _ fun _ _ _ _ => Iff.rfl
  have hchild : ∀ rel ∈ paths, root.child (posixText rel) = below root rel := by
    intro rel hrel
    rw [PyPath.child, ofText_posixText (hnamed rel hrel).1 (hnamed rel hrel).2]
    rfl
  have hone : ∀ name ∈ (sortByName posixText paths).map posixText,
      Keeps fw.state (· = tree) (ArtifactVerifier.hashScoped w root name) fun bytes =>
        bytes = frame (name, contentAt tree (PyPath.place cwd (root.child name))) := by
    intro name hname
    rcases List.mem_map.1 hname with ⟨rel, hmem, rfl⟩
    have hrel := (sortByName_perm posixText paths).mem_iff.1 hmem
    unfold ArtifactVerifier.hashScoped
    rw [ofText_posixText (hnamed rel hrel).1 (hnamed rel hrel).2, text_relative (hnamed rel hrel).1]
    refine Keeps.bind (P := fun _ => True) (reads_call fw rfl fun _ _ _ _ => trivial)
      fun isFile _ => ?_
    exact Keeps.ite (fun _ => keeps_fail fw) fun _ => reads_hashNamed fw _ _
  unfold ArtifactVerifier.hashedBytes
  refine (reads_root_isFile fw hroot).bind fun isFile hisFile => ?_
  subst hisFile
  rw [if_neg (by simp)]
  refine Keeps.bind (P := fun _ => True) (reads_call fw rfl fun _ _ _ _ => trivial) fun there _ => ?_
  refine Keeps.ite (fun _ => keeps_fail fw) fun _ => ?_
  have hall := reads_hashAll fw hone
  rw [← hsorted] at hall
  refine hall.mono fun bytes hbytes => ?_
  rw [hbytes, hsorted, pathsStream, stream, List.flatMap_map, List.flatMap_map]
  refine List.flatMap_congr fun rel hmem => ?_
  have hrel := (sortByName_perm posixText paths).mem_iff.1 hmem
  rw [hchild rel hrel, place_below cwd root (hnamed.plain hrel)]

/-- The digest of what is hashed. -/
theorem reads_computeDigest {root : PyPath} {algorithm : String}
    {relativePaths : Option (List String)} {bytes : List Nat}
    (h : Keeps fw.state (· = tree) (ArtifactVerifier.hashedBytes w root relativePaths)
      fun hashed => hashed = bytes) :
    Keeps fw.state (· = tree) (ArtifactVerifier.computeDigest w root algorithm relativePaths)
      fun hex => hex = hash algorithm bytes := by
  refine Keeps.bind (P := fun _ => True) (reads_call fw rfl fun _ _ _ _ => trivial) fun _ _ => ?_
  refine h.bind fun hashed hhashed => ?_
  subst hhashed
  exact reads_call fw rfl fun r hperforms => hperforms.2

end

end Bootstrap
end StrategyWorker
