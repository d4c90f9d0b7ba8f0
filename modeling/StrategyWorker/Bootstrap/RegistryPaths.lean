import StrategyWorker.Bootstrap.StillWorld
import StrategyWorker.Bootstrap.TreeDigest
import StrategyWorker.Library.Uri

/-!
# Paths of registry-local URIs

A registry-local URI is a path below the registry's directory.  The provider
makes a file URI of it for the local provider, which makes a path of it again
and drops the slash before what looks like a drive letter.

Main results:

- Theorem {lit}`returns_resolveRegistryLocal`: the path of an accepted URI.
- Theorem {lit}`returns_readBack`: the path that comes back from the file URI.
- Theorem {lit}`registry_local_confined_iff`: which URIs are rejected, or read
  under the base at the very path that they stand for.
-/

namespace StrategyWorker
namespace Bootstrap
namespace RegistryPaths

open Library
open PyText Logged

/-! ## A file system without symbolic links -/

/-- A path that the system calls refuse. -/
def HasNul (names : List String) : Prop :=
  ∃ name ∈ names, Char.ofNat 0 ∈ name.toList

instance (names : List String) : Decidable (HasNul names) :=
  inferInstanceAs (Decidable (∃ name ∈ names, _))

/-- A world without symbolic links; what it does with files is left to {lit}`files`. -/
def linkFree (cwd : Place) (netlocAllowed : String → Bool) (files : World) : World :=
  fun calls operation =>
    match operation with
    | .resolve p =>
        if HasNul p.parts then .error (.other .valueError)
        else .ok (resolvedPath (PyPath.place cwd) p)
    | .asUri p =>
        if p.isAbsolute then .ok (Uri.ofPath p.text) else .error (.other .valueError)
    | .urlparse text =>
        match Uri.urlparse netlocAllowed text with
        | some parts => .ok ⟨parts.scheme, parts.netloc, parts.path⟩
        | none => .error (.other .valueError)
    | .unquote text => .ok (Uri.unquote text)
    | operation => files calls operation

/-- The computation always raises. -/
def Raises {α : Type} (m : Stage α) (x : Raised) : Prop :=
  Yields m fun r _ => r = .error x

theorem Raises.bind {α β : Type} {m : Stage α} {f : α → Stage β} {x : Raised} (h : Raises m x) :
    Raises (m >>= f) x :=
  Yields.bind h (fun _ _ h => by cases h) (fun _ _ h => congrArg Except.error (Except.error.inj h))

theorem raises_call {w : World} {handler : Option Handler} {operation : Operation} {x : Raised}
    (h : ∀ calls, w calls operation = .error x) : Raises (call w handler operation) x := by
  intro calls
  refine ⟨.error x, [⟨operation, handler, some x⟩], ?_, rfl⟩
  simp [call, query, Bind.bind, ask, emit, raise, h calls]

/-- What raises does not return. -/
theorem Raises.not_returns {α : Type} {m : Stage α} {x : Raised} {a : α} (h : Raises m x) :
    ¬ Returns m a := by
  intro hreturns
  rcases Yields.and h hreturns [] with ⟨r, -, -, hr, hr'⟩
  rw [hr] at hr'
  cases hr'

theorem Raises.ne {α : Type} {m : Stage α} {x y : Raised} (hx : Raises m x) (hy : Raises m y)
    (hne : x ≠ y) : False := by
  rcases Yields.and hx hy [] with ⟨r, -, -, hr, hr'⟩
  rw [hr] at hr'
  exact hne (Except.error.inj hr')

/-! ## The parts of a URI -/

/-- What follows {lit}`registry-local:///` and any more slashes. -/
def registryRest (artifactUri : String) : String :=
  lstripSlash (String.ofList ((strip artifactUri).toList.drop registryLocalUriPrefix.length))

/-- The URI has the scheme, and a path. -/
def HasPath (artifactUri : String) : Prop :=
  registryLocalUriPrefix.toList <+: (strip artifactUri).toList ∧ registryRest artifactUri ≠ ""

instance (artifactUri : String) : Decidable (HasPath artifactUri) :=
  inferInstanceAs (Decidable (_ ∧ _))

/-- {lit}`rest.split("/")`. -/
def segments (artifactUri : String) : List String :=
  PyPath.splitText '/' (registryRest artifactUri)

/-- A segment is empty or leads upwards. -/
def HasBadSegment (artifactUri : String) : Prop :=
  ∃ seg ∈ segments artifactUri, seg = "" ∨ seg = ".."

instance (artifactUri : String) : Decidable (HasBadSegment artifactUri) :=
  inferInstanceAs (Decidable (∃ seg ∈ _, _))

/-- The names below the base: a segment {lit}`"."` adds none. -/
def names (artifactUri : String) : List String :=
  (segments artifactUri).filter fun seg => seg ≠ "."

/-- The path of a URI under a base without symbolic links. -/
def registryPath (base : PyPath) (artifactUri : String) : PyPath :=
  ⟨"/", PyPath.place [] base ++ names artifactUri⟩

/-- Segments are joined one by one. -/
theorem joinpath_segments (base : PyPath) {segs : List String}
    (h : ∀ seg ∈ segs, seg ≠ "" ∧ '/' ∉ seg.toList) :
    base.joinpath segs = ⟨base.root, base.parts ++ segs.filter fun seg => seg ≠ "."⟩ := by
  induction segs generalizing base with
  | nil => simp [PyPath.joinpath]
  | cons seg segs ih =>
      have hseg := h seg List.mem_cons_self
      have hrest := fun base' => ih base' fun s hs => h s (List.mem_cons_of_mem seg hs)
      rw [PyPath.joinpath, List.foldl_cons]
      change (base.child seg).joinpath segs = _
      by_cases hdot : seg = "."
      · subst hdot
        have hchild : base.child "." = base := by
          have hdotPath : PyPath.ofText "." = ⟨"", []⟩ := by
            decide +kernel
          simp [PyPath.child, hdotPath, PyPath.join, PyPath.isAbsolute]
        rw [hchild, hrest, List.filter_cons_of_neg (by simp)]
      · rw [PyPath.child_of_name base hseg.1 hdot hseg.2, hrest,
          List.filter_cons_of_pos (by simp [hdot]), List.append_assoc]
        rfl

/-! ## The path of a URI -/

section

variable {cwd : Place} {netlocAllowed : String → Bool} {files : World} {handler : Option Handler}
  {base : PyPath} {artifactUri : String}

/-- A segment has no slash. -/
theorem not_mem_segment {seg : String} (h : seg ∈ segments artifactUri) : '/' ∉ seg.toList := by
  rcases List.mem_map.1 h with ⟨chars, hchars, rfl⟩
  rw [String.toList_ofList]
  exact PyPath.not_mem_of_mem_splitOn hchars

/-- The names of a path that is not rejected. -/
theorem entryName_of_mem_registryPath (hbase : TextPath base) (hbad : ¬ HasBadSegment artifactUri)
    {name : String} (h : name ∈ (registryPath base artifactUri).parts) : EntryName name := by
  rcases List.mem_append.1 h with h | h
  · exact entryName_of_mem_place (by simp) hbase h
  · rcases List.mem_filter.1 h with ⟨hseg, hdot⟩
    have hgood : ¬ (name = "" ∨ name = "..") := fun hor => hbad ⟨name, hseg, hor⟩
    rw [not_or] at hgood
    exact ⟨hgood.1, of_decide_eq_true hdot, hgood.2, not_mem_segment hseg⟩

/-- A URI without a path is rejected. -/
theorem raises_of_not_hasPath (w : World) (h : ¬ HasPath artifactUri) :
    Raises (resolveRegistryLocalUriToPath w handler artifactUri base)
      (.other .artifactProviderFetchError) := by
  have hraise : Raises (α := PyPath) raiseFetchError (.other .artifactProviderFetchError) :=
    (Yields.raise _).mono fun _ _ h => h.1
  unfold resolveRegistryLocalUriToPath
  simp only [List.isPrefixOf_iff_prefix]
  split
  · exact hraise
  · rename_i hscheme
    rw [not_not] at hscheme
    have hrest : registryRest artifactUri = "" := not_not.1 fun hrest => h ⟨hscheme, hrest⟩
    unfold registryRest at hrest
    rw [if_pos hrest]
    exact hraise

/-- What is done with a URI that has a path. -/
theorem resolve_of_hasPath (w : World) (h : HasPath artifactUri) :
    resolveRegistryLocalUriToPath w handler artifactUri base = (do
      let base : PyPath ← call w handler (.resolve base)
      if ¬ base.isAbsolute then raiseFetchError
      else if (segments artifactUri).any fun seg => seg = "" ∨ seg = ".." then raiseFetchError
      else pure (base.joinpath (segments artifactUri))) := by
  have hrest := h.2
  unfold registryRest at hrest
  unfold resolveRegistryLocalUriToPath
  simp only [List.isPrefixOf_iff_prefix]
  rw [if_neg (not_not_intro h.1), if_neg hrest]
  rfl

theorem raises_of_hasNul (h : HasPath artifactUri) (hnul : HasNul base.parts) :
    Raises (resolveRegistryLocalUriToPath (linkFree cwd netlocAllowed files) handler artifactUri
      base) (.other .valueError) := by
  rw [resolve_of_hasPath _ h]
  exact Raises.bind (raises_call fun _ => if_pos hnul)

/-- The resolved base of an absolute base. -/
theorem returns_resolve (habs : base.isAbsolute = true) (hnul : ¬ HasNul base.parts) :
    Returns (call (linkFree cwd netlocAllowed files) handler (.resolve base))
      ⟨"/", PyPath.place [] base⟩ := by
  refine returns_call fun _ => (if_neg hnul).trans ?_
  simp [resolvedPath, resolvedRoot, PyPath.place, habs]

theorem raises_of_badSegment (habs : base.isAbsolute = true) (h : HasPath artifactUri)
    (hnul : ¬ HasNul base.parts) (hbad : HasBadSegment artifactUri) :
    Raises (resolveRegistryLocalUriToPath (linkFree cwd netlocAllowed files) handler artifactUri
      base) (.other .artifactProviderFetchError) := by
  rw [resolve_of_hasPath _ h]
  refine Yields.bind (returns_resolve habs hnul) (fun base' _ hbase' => ?_) (fun _ _ h => by cases h)
  obtain rfl := Except.ok.inj hbase'
  have hany : (segments artifactUri).any (fun seg => seg = "" ∨ seg = "..") = true := by
    simpa [HasBadSegment] using hbad
  rw [if_neg (by simp [PyPath.isAbsolute]), if_pos hany]
  exact (Yields.raise _).mono fun _ _ h => h.1

/-- The path of an accepted URI. -/
theorem returns_resolveRegistryLocal (habs : base.isAbsolute = true) (h : HasPath artifactUri)
    (hnul : ¬ HasNul base.parts) (hbad : ¬ HasBadSegment artifactUri) :
    Returns (resolveRegistryLocalUriToPath (linkFree cwd netlocAllowed files) handler artifactUri
      base) (registryPath base artifactUri) := by
  rw [resolve_of_hasPath _ h]
  refine (returns_resolve habs hnul).bind ?_
  have hany : ¬ (segments artifactUri).any (fun seg => seg = "" ∨ seg = "..") = true := by
    simpa [HasBadSegment] using hbad
  have hgood : ∀ seg ∈ segments artifactUri, seg ≠ "" ∧ '/' ∉ seg.toList := fun seg hseg =>
    ⟨fun heq => hbad ⟨seg, hseg, .inl heq⟩, not_mem_segment hseg⟩
  rw [if_neg (by simp [PyPath.isAbsolute]), if_neg hany, joinpath_segments _ hgood]
  exact Returns.pure _

/-! ## The way through the file URI -/

/-- The path that {lit}`RegistryLocalArtifactProvider.fetch` hands on as a file URI, as the local
provider reads it. -/
def readBack (w : World) (handler : Option Handler) (sourcePath : PyPath) : Stage PyPath := do
  let resolved : PyPath ← call w handler (.resolve sourcePath)
  let uri : String ← call w handler (.asUri resolved)
  resolveSourcePath w handler uri

/-- The second character of the first name is a colon. -/
def DriveLike (names : List String) : Prop :=
  ∃ name ∈ names.head?, name.toList[1]? = some ':'

instance (names : List String) : Decidable (DriveLike names) :=
  inferInstanceAs (Decidable (∃ name ∈ names.head?, _))

theorem toList_text (names : List String) :
    (⟨"/", names⟩ : PyPath).text.toList = '/' :: (posixText names).toList := by
  have hslash : "/".toList = ['/'] := rfl
  rw [PyPath.text, if_neg (by simp), String.toList_append, hslash]
  rfl

/-- The text of names starts with the first of them, which is not empty and has no slash. -/
theorem exists_head {names : List String} (hne : names ≠ [])
    (hnames : ∀ name ∈ names, EntryName name) :
    ∃ c cs, (posixText names).toList = c :: cs ∧ c ≠ '/' ∧
      (cs.head? = some ':' ↔ DriveLike names) := by
  cases names with
  | nil => exact absurd rfl hne
  | cons name rest =>
      have hname := hnames name List.mem_cons_self
      rcases List.exists_cons_of_ne_nil fun h => hname.1 (String.toList_eq_nil_iff.1 h) with
        ⟨c, cs, hcs⟩
      have hc : c ≠ '/' := fun heq => hname.2.2.2 (by rw [hcs, heq]; exact List.mem_cons_self)
      have hdrive : DriveLike (name :: rest) ↔ cs.head? = some ':' := by
        simp [DriveLike, hcs, List.head?_eq_getElem?]
      cases rest with
      | nil =>
          refine ⟨c, cs, ?_, hc, hdrive.symm⟩
          rw [toList_posixText, List.map_singleton, List.intercalate_singleton, hcs]
      | cons second rest =>
          refine ⟨c, cs ++ '/' :: (posixText (second :: rest)).toList, ?_, hc, ?_⟩
          · rw [toList_posixText, toList_posixText, List.map_cons, List.map_cons, hcs]
            simp [List.intercalate]
          · rw [hdrive]
            cases cs <;> simp

/-- The path of its own text. -/
theorem ofText_text {names : List String} (hnames : ∀ name ∈ names, EntryName name) :
    PyPath.ofText (⟨"/", names⟩ : PyPath).text = ⟨"/", names⟩ := by
  by_cases hne : names = []
  · subst hne
    decide +kernel
  · rcases exists_head hne hnames with ⟨c, cs, hcs, hc, -⟩
    have hroot : PyPath.rootOf (⟨"/", names⟩ : PyPath).text = "/" := by
      unfold PyPath.rootOf
      rw [toList_text, hcs]
      split <;> simp_all
    have hsplit : PyPath.splitText '/' (⟨"/", names⟩ : PyPath).text = "" :: names := by
      have hrel := splitText_posixText hne fun name hname => (hnames name hname).2.2.2
      rw [PyPath.splitText] at hrel
      rw [PyPath.splitText, toList_text, List.splitOn_cons_eq_if_modifyHead, if_pos (by simp),
        List.map_cons, hrel]
    have hfilter : names.filter (fun part => part ≠ "" ∧ part ≠ ".") = names :=
      List.filter_eq_self.2 fun name hname =>
        decide_eq_true ⟨(hnames name hname).1, (hnames name hname).2.1⟩
    rw [PyPath.ofText, hroot, hsplit, List.filter_cons_of_neg (by simp), hfilter]

/-- A path without its slash, when it looks like a drive. -/
def droppedSlash (rawPath : String) : PyPath :=
  match rawPath.toList with
  | '/' :: drive :: ':' :: rest => PyPath.ofText (String.ofList (drive :: ':' :: rest))
  | _ => PyPath.ofText rawPath

theorem droppedSlash_of_drive {rawPath : String} {drive : Char} {rest : List Char}
    (h : rawPath.toList = '/' :: drive :: ':' :: rest) :
    droppedSlash rawPath = PyPath.ofText (String.ofList (drive :: ':' :: rest)) := by
  simp only [droppedSlash, h]

theorem droppedSlash_of_plain {rawPath : String}
    (h : ∀ drive rest, rawPath.toList ≠ '/' :: drive :: ':' :: rest) :
    droppedSlash rawPath = PyPath.ofText rawPath := by
  unfold droppedSlash
  split
  · rename_i heq
    exact (h _ _ heq).elim
  · rfl

/-- What the local provider makes of a file URI without a network location. -/
theorem returns_resolveSourcePath {w : World} {uri path rawPath : String}
    (hparse : Returns (call w handler (.urlparse uri)) ⟨"file", "", path⟩)
    (hunquote : Returns (call w handler (.unquote path)) rawPath) :
    Returns (resolveSourcePath w handler uri) (droppedSlash rawPath) := by
  unfold resolveSourcePath
  refine Returns.bind hparse ?_
  rw [if_pos rfl]
  refine Returns.bind hunquote ?_
  rw [if_neg (not_not_intro rfl)]
  split
  · rename_i heq
    rw [droppedSlash_of_drive heq]
    exact Returns.pure _
  · rename_i hplain
    rw [droppedSlash_of_plain hplain]
    exact Returns.pure _

theorem droppedSlash_text {names : List String} (hnames : ∀ name ∈ names, EntryName name) :
    droppedSlash (⟨"/", names⟩ : PyPath).text =
      if DriveLike names then PyPath.ofText (posixText names) else ⟨"/", names⟩ := by
  unfold droppedSlash
  rw [ofText_text hnames, toList_text]
  by_cases hne : names = []
  · subst hne
    rfl
  · rcases exists_head hne hnames with ⟨c, cs, hcs, hc, hdrive⟩
    rw [hcs]
    cases cs with
    | nil => simp [← hdrive]
    | cons d cs =>
        by_cases hd : d = ':'
        · subst hd
          have htext : String.ofList (c :: ':' :: cs) = posixText names := by
            rw [← hcs, String.ofList_toList]
          rw [if_pos (hdrive.1 rfl)]
          exact congrArg PyPath.ofText htext
        · rw [if_neg fun h => hd (Option.some.inj (hdrive.2 h))]
          split
          · rename_i heq
            cases heq
            exact absurd rfl hd
          · rfl

/-- The path that comes back from the file URI: without its root when it looks like a drive. -/
theorem returns_readBack {names : List String} (hnames : ∀ name ∈ names, EntryName name)
    (hnul : ¬ HasNul names) :
    Returns (readBack (linkFree cwd netlocAllowed files) handler ⟨"/", names⟩)
      (if DriveLike names then PyPath.ofText (posixText names) else ⟨"/", names⟩) := by
  have hplain : ".." ∉ names := fun hmem => (hnames ".." hmem).2.2.1 rfl
  have hresolve : Returns (call (linkFree cwd netlocAllowed files) handler (.resolve ⟨"/", names⟩))
      ⟨"/", names⟩ := by
    refine returns_call fun _ => (if_neg hnul).trans ?_
    rw [resolvedPath, PyPath.place_of_plain cwd (by simp) hplain]
    rfl
  have huri : Returns (call (linkFree cwd netlocAllowed files) handler (.asUri ⟨"/", names⟩))
      (Uri.ofPath (⟨"/", names⟩ : PyPath).text) := by
    refine returns_call fun _ => ?_
    simp [linkFree, PyPath.isAbsolute]
  have hparse : Returns (call (linkFree cwd netlocAllowed files) handler
      (.urlparse (Uri.ofPath (⟨"/", names⟩ : PyPath).text)))
      ⟨"file", "", Uri.quote (⟨"/", names⟩ : PyPath).text⟩ := by
    refine returns_call fun _ => ?_
    have hparts := Uri.urlparse_ofPath netlocAllowed
      (show (⟨"/", names⟩ : PyPath).text.toList.head? = some '/' by
        rw [toList_text, List.head?_cons])
    simp only [linkFree, hparts]
  have hunquote : Returns (call (linkFree cwd netlocAllowed files) handler
      (.unquote (Uri.quote (⟨"/", names⟩ : PyPath).text))) (⟨"/", names⟩ : PyPath).text := by
    refine returns_call fun _ => ?_
    simp only [linkFree, Uri.unquote_quote]
  rw [← droppedSlash_text hnames]
  unfold readBack
  refine hresolve.bind ?_
  refine huri.bind ?_
  exact returns_resolveSourcePath hparse hunquote

/-- What looks like a drive does not come back as the path that it was. -/
theorem ofText_ne_of_driveLike {names : List String} (hnames : ∀ name ∈ names, EntryName name)
    (h : DriveLike names) : PyPath.ofText (posixText names) ≠ ⟨"/", names⟩ := by
  have hne : names ≠ [] := by
    rintro rfl
    rcases h with ⟨name, hname, -⟩
    cases hname
  rw [ofText_posixText hne hnames]
  simp

/-! ## Which URIs are read where they belong -/

/-- The URI is rejected, or stands for a path under the base that the provider reads. -/
def Confined (w : World) (handler : Option Handler) (base : PyPath) (artifactUri : String) : Prop :=
  Raises (resolveRegistryLocalUriToPath w handler artifactUri base)
      (.other .artifactProviderFetchError) ∨
    ∃ path, Returns (resolveRegistryLocalUriToPath w handler artifactUri base) path ∧
      path.relativeTo? ⟨"/", PyPath.place [] base⟩ ≠ none ∧ ".." ∉ path.parts ∧
      Returns (readBack w handler path) path

/-- The URI is rejected, or base and URI have no NUL and the first name of the path has no colon
as its second character. -/
def Readable (base : PyPath) (artifactUri : String) : Prop :=
  ¬ HasPath artifactUri ∨ ¬ HasNul base.parts ∧ (HasBadSegment artifactUri ∨
    ¬ HasNul (segments artifactUri) ∧
      ¬ DriveLike (PyPath.place [] base ++ names artifactUri))

theorem relativeTo_registryPath :
    (registryPath base artifactUri).relativeTo? ⟨"/", PyPath.place [] base⟩ ≠ none := by
  simp [registryPath, PyPath.relativeTo?]

/-- A NUL in the path comes from the base or from the URI. -/
theorem hasNul_registryPath_iff (hnul : ¬ HasNul base.parts) :
    HasNul (registryPath base artifactUri).parts ↔ HasNul (segments artifactUri) := by
  constructor
  · rintro ⟨name, hname, hmem⟩
    rcases List.mem_append.1 hname with hbase | hseg
    · have hpart : name ∈ base.parts := by
        rcases mem_walk hbase with h | h
        · simp at h
        · exact h
      exact absurd ⟨name, hpart, hmem⟩ hnul
    · exact ⟨name, (List.mem_filter.1 hseg).1, hmem⟩
  · rintro ⟨name, hname, hmem⟩
    have hdot : name ≠ "." := by
      rintro rfl
      revert hmem
      decide
    exact ⟨name, List.mem_append_right _ (List.mem_filter.2 ⟨hname, by simp [hdot]⟩), hmem⟩

theorem raises_readBack_of_hasNul {path : PyPath} (h : HasNul path.parts) :
    Raises (readBack (linkFree cwd netlocAllowed files) handler path) (.other .valueError) :=
  Raises.bind (raises_call fun _ => if_pos h)

/-- An accepted URI is read at its path exactly when the path has no NUL and does not look like a
drive. -/
theorem readBack_registryPath_iff (hbase : TextPath base) (hbad : ¬ HasBadSegment artifactUri) :
    Returns (readBack (linkFree cwd netlocAllowed files) handler (registryPath base artifactUri))
      (registryPath base artifactUri) ↔
    ¬ HasNul (registryPath base artifactUri).parts ∧
      ¬ DriveLike (registryPath base artifactUri).parts := by
  have hnames : ∀ name ∈ (registryPath base artifactUri).parts, EntryName name :=
    fun name hname => entryName_of_mem_registryPath hbase hbad hname
  by_cases hnul : HasNul (registryPath base artifactUri).parts
  · exact iff_of_false (raises_readBack_of_hasNul hnul).not_returns fun h => h.1 hnul
  · have hback : Returns (readBack (linkFree cwd netlocAllowed files) handler
        (registryPath base artifactUri)) (if DriveLike (registryPath base artifactUri).parts then
          PyPath.ofText (posixText (registryPath base artifactUri).parts)
        else registryPath base artifactUri) := returns_readBack hnames hnul
    by_cases hdrive : DriveLike (registryPath base artifactUri).parts
    · rw [if_pos hdrive] at hback
      refine iff_of_false (fun h => ?_) fun h => h.2 hdrive
      exact ofText_ne_of_driveLike hnames hdrive (Returns.unique hback h)
    · rw [if_neg hdrive] at hback
      exact iff_of_true hback ⟨hnul, hdrive⟩

theorem confined_iff (hbase : TextPath base) (habs : base.isAbsolute = true) :
    Confined (linkFree cwd netlocAllowed files) handler base artifactUri ↔
      Readable base artifactUri := by
  unfold Confined Readable
  by_cases hpath : HasPath artifactUri
  · by_cases hnul : HasNul base.parts
    · -- resolving the base raises another exception
      have hraises : Raises (resolveRegistryLocalUriToPath (linkFree cwd netlocAllowed files)
          handler artifactUri base) (.other .valueError) := raises_of_hasNul hpath hnul
      refine iff_of_false ?_ ?_
      · rintro (hfetch | ⟨path, hpath', -⟩)
        · exact hraises.ne hfetch (by simp)
        · exact hraises.not_returns hpath'
      · rintro (hnot | ⟨hnot, -⟩)
        · exact hnot hpath
        · exact hnot hnul
    · by_cases hbad : HasBadSegment artifactUri
      · exact iff_of_true (.inl (raises_of_badSegment habs hpath hnul hbad)) (.inr ⟨hnul, .inl hbad⟩)
      · have hreturns : Returns (resolveRegistryLocalUriToPath (linkFree cwd netlocAllowed files)
            handler artifactUri base) (registryPath base artifactUri) :=
          returns_resolveRegistryLocal habs hpath hnul hbad
        have hplain : ".." ∉ (registryPath base artifactUri).parts := fun hmem =>
          (entryName_of_mem_registryPath hbase hbad hmem).2.2.1 rfl
        have hread : Returns (readBack (linkFree cwd netlocAllowed files) handler
            (registryPath base artifactUri)) (registryPath base artifactUri) ↔ _ :=
          readBack_registryPath_iff hbase hbad
        rw [hasNul_registryPath_iff hnul] at hread
        constructor
        · rintro (hfetch | ⟨path, hreturn, -, -, hback⟩)
          · exact (hfetch.not_returns hreturns).elim
          · obtain rfl := Returns.unique hreturn hreturns
            exact .inr ⟨hnul, .inr (hread.1 hback)⟩
        · rintro (hnot | ⟨-, hbad' | hgood⟩)
          · exact absurd hpath hnot
          · exact absurd hbad' hbad
          · exact .inr ⟨_, hreturns, relativeTo_registryPath, hplain, hread.2 hgood⟩
  · exact iff_of_true (.inl (raises_of_not_hasPath _ hpath)) (.inl hpath)

/-- A URI is rejected, or read under the base at the very path that it stands for, exactly when it
is malformed or its path has no NUL and does not look like a drive. -/
theorem registry_local_confined_iff (cwd : Place) (netlocAllowed : String → Bool) (files : World)
    (handler : Option Handler) (baseText artifactUri : String)
    (habs : (PyPath.ofText baseText).isAbsolute = true) :
    Confined (linkFree cwd netlocAllowed files) handler (PyPath.ofText baseText) artifactUri ↔
      Readable (PyPath.ofText baseText) artifactUri :=
  confined_iff (textPath_ofText baseText) habs

end

/-- A world in which every operation on files fails. -/
def noFiles : World :=
  fun _ _ => .error (.other .osError)

/-- A module below an ordinary directory. -/
theorem ordinary_uri_confined :
    Confined (linkFree [] (fun _ => true) noFiles) none (PyPath.ofText "/data/../srv/artifacts")
      " registry-local:////a%2e/./b c.py" :=
  (registry_local_confined_iff [] (fun _ => true) noFiles none "/data/../srv/artifacts"
    " registry-local:////a%2e/./b c.py" (by decide +kernel)).2 (by unfold Readable; decide +kernel)

/-- Below the root directory a name like a drive is read from the current directory. -/
theorem drive_like_uri_not_confined :
    ¬ Confined (linkFree ["work"] (fun _ => true) noFiles) none (PyPath.ofText "/")
      "registry-local:///c:/m.py" := by
  rw [confined_iff (textPath_ofText "/") (by decide +kernel)]
  unfold Readable
  decide +kernel

end RegistryPaths
end Bootstrap
end StrategyWorker
