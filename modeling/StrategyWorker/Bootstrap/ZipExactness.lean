import StrategyWorker.Bootstrap.ZipContainment

/-!
# What a fetched zip leaves

A zip is extracted over whatever its directory holds: nothing is removed, as
the local provider does before it copies.  An archive is read entry by entry,
and an entry that is copied ends as a file with its bytes.  Where the paths of
two entries are the same, the last one stays.

Main results:

- Theorem {lit}`ends_extractZipToDirectory`: the files are those that were
  there, with the entries of the archive on top.
- Theorem {lit}`fetch_zip_exact_iff`: when the files below the root are the
  entries of the archive.
-/

namespace StrategyWorker
namespace Bootstrap

open Library
open PyText Logged

/-! ## Archives -/

/-- An entry of an archive: its name and its bytes. -/
abbrev ZipEntry := String × List Nat

/-- {lit}`info.is_dir()`. -/
def ZipEntry.isDir (info : ZipEntry) : Bool :=
  info.1.toList.getLast? = some '/'

/-- The entries that are files. -/
def fileEntries (entries : List ZipEntry) : List ZipEntry :=
  entries.filter fun info => ¬ info.isDir

/-- Where an entry is extracted to. -/
def entryPlace (place : PyPath → Place) (root : PyPath) (info : ZipEntry) : Place :=
  place (below (resolvedPath place root) (PyPath.ofText info.1).parts)

/-- The file entries of an archive, at their places. -/
def archiveFiles (place : PyPath → Place) (root : PyPath) (entries : List ZipEntry) :
    List (Place × List Nat) :=
  (fileEntries entries).map fun info => (entryPlace place root info, info.2)

/-- The archive that an operation opens. -/
def Operation.opened? : Operation → Option PyPath
  | openZip p => some p
  | _ => none

/-- The archives that were opened. -/
def openedZips (calls : List BootstrapCall) : List PyPath :=
  calls.filterMap fun c => c.operation.opened?

/-- The operations that read an archive. -/
def Operation.readsArchive : Operation → Bool
  | openZip _ | copyEntry _ _ _ => true
  | _ => false

variable {place : PyPath → Place} {hash : String → List Nat → String} {w : World}

/-- A world of files in which {lit}`unzip` gives the entries of an archive.  The open archive holds
the file entries that were not copied yet; copies are made in their order, and each of them leaves
the bytes of its entry. -/
structure ZipWorld (fw : FileWorld place hash w) (unzip : List Nat → List ZipEntry) where
  unread : List BootstrapCall → List ZipEntry
  openZip : ∀ calls p handler names bytes, w calls (.openZip p) = .ok names →
    fw.state calls (place p) = some (.file bytes) →
      names = (unzip bytes).map Prod.fst ∧
        unread (calls ++ [⟨.openZip p, handler, none⟩]) = fileEntries (unzip bytes)
  copyEntry : ∀ calls zipPath p handler info rest, unread calls = info :: rest →
    w calls (.copyEntry zipPath info.1 p) = .ok () →
      fw.state (calls ++ [⟨.copyEntry zipPath info.1 p, handler, none⟩]) (place p) =
          some (.file info.2) ∧
        unread (calls ++ [⟨.copyEntry zipPath info.1 p, handler, none⟩]) = rest
  others : ∀ calls c, c.operation.readsArchive = false → unread (calls ++ [c]) = unread calls

/-- What a fetch works on. -/
structure ZipState where
  tree : FileTree
  unread : List ZipEntry
  opened : List PyPath

/-- A resolved path leads where its path led. -/
def ResolvesOnce (place : PyPath → Place) : Prop :=
  ∀ p, place (resolvedPath place p) = place p

theorem archiveFiles_append (root : PyPath) (entries entries' : List ZipEntry) :
    archiveFiles place root (entries ++ entries') =
      archiveFiles place root entries ++ archiveFiles place root entries' := by
  rw [archiveFiles, fileEntries, List.filter_append, List.map_append]
  rfl

theorem archiveFiles_dir (root : PyPath) {info : ZipEntry} (h : info.isDir = true) :
    archiveFiles place root [info] = [] := by
  simp [archiveFiles, fileEntries, h]

theorem archiveFiles_file (root : PyPath) {info : ZipEntry} (h : info.isDir = false) :
    archiveFiles place root [info] = [(entryPlace place root info, info.2)] := by
  simp [archiveFiles, fileEntries, h]

/-! ## Calls -/

section

variable {fw : FileWorld place hash w} {unzip : List Nat → List ZipEntry} (zw : ZipWorld fw unzip)
  {handler : Option Handler}

def ZipWorld.state (zw : ZipWorld fw unzip) (calls : List BootstrapCall) : ZipState :=
  ⟨fw.state calls, zw.unread calls, openedZips calls⟩

theorem openedZips_concat (calls : List BootstrapCall) (c : BootstrapCall) :
    openedZips (calls ++ [c]) = openedZips calls ++ c.operation.opened?.toList := by
  unfold openedZips
  rw [List.filterMap_append, List.filterMap_cons, List.filterMap_nil]
  cases c.operation.opened? <;> rfl

theorem opened?_of_readsArchive {operation : Operation} (h : operation.readsArchive = false) :
    operation.opened? = none := by
  cases operation with
  | openZip _ => cases h
  | _ => rfl

/-- A call that reads no archive. -/
theorem leaves_other {operation : Operation} (hother : operation.readsArchive = false)
    {P : ZipState → Prop} {Q : Except Raised operation.Answer → ZipState → Prop}
    (h : ∀ s r tree', P s → Performs place hash s.tree operation r tree' →
      Q r { s with tree := tree' }) :
    Leaves zw.state P (call w handler operation) Q := by
  refine Leaves.query fun calls hcalls => ?_
  have hperforms := fw.performs calls operation handler
  have hnext := h (zw.state calls) _ _ hcalls hperforms
  have hopened : openedZips (calls ++ [⟨operation, handler, raisedBy (w calls operation)⟩]) =
      openedZips calls := by
    rw [openedZips_concat, opened?_of_readsArchive hother, Option.toList_none, List.append_nil]
  unfold ZipWorld.state at hnext ⊢
  rw [zw.others calls _ hother, hopened]
  exact hnext

theorem ends_other {operation : Operation} (hother : operation.readsArchive = false)
    {P : ZipState → Prop} {Q : operation.Answer → ZipState → Prop}
    (h : ∀ s a tree', P s → Performs place hash s.tree operation (.ok a) tree' →
      Q a { s with tree := tree' }) :
    Ends zw.state P (call w handler operation) Q := by
  refine leaves_other zw hother fun s r tree' hs hperforms a ha => ?_
  subst ha
  exact h s a tree' hs hperforms

/-- A question leaves everything. -/
theorem ends_ask {operation : Operation} (hasks : operation.asks = true)
    (hother : operation.readsArchive = false) {P : ZipState → Prop} :
    Ends zw.state P (call w handler operation) fun a s =>
      P s ∧ Performs place hash s.tree operation (.ok a) s.tree := by
  refine ends_other zw hother fun s a tree' hs h => ?_
  obtain rfl := h.eq_of_asks hasks
  exact ⟨hs, h⟩

theorem ends_openZip {p : PyPath} {P : ZipState → Prop} {bytes : List Nat}
    (hfile : ∀ s, P s → s.tree (place p) = some (.file bytes)) :
    Ends zw.state P (call w handler (.openZip p)) fun names s =>
      names = (unzip bytes).map Prod.fst ∧ s.unread = fileEntries (unzip bytes) ∧
        ∃ s', P s' ∧ s.tree = s'.tree ∧ s.opened = s'.opened ++ [p] := by
  refine Leaves.query fun calls hcalls names hnames => ?_
  have hperforms := (fw.performs calls (.openZip p) handler).eq_of_asks rfl
  have hopen := zw.openZip calls p handler names bytes hnames (hfile _ hcalls)
  rw [hnames] at hperforms ⊢
  exact ⟨hopen.1, hopen.2, zw.state calls, hcalls, hperforms, openedZips_concat _ _⟩

theorem ends_copyEntry {zipPath p : PyPath} {P : ZipState → Prop} {info : ZipEntry}
    {rest : List ZipEntry} (hunread : ∀ s, P s → s.unread = info :: rest) :
    Ends zw.state P (call w handler (.copyEntry zipPath info.1 p)) fun _ s =>
      s.tree (place p) = some (.file info.2) ∧ s.unread = rest ∧
        ∃ s', P s' ∧ s.opened = s'.opened ∧ ∀ q, q ≠ place p → s.tree q = s'.tree q := by
  refine Leaves.query fun calls hcalls a ha => ?_
  have hperforms := fw.performs calls (.copyEntry zipPath info.1 p) handler
  have hcopy := zw.copyEntry calls zipPath p handler info rest (hunread _ hcalls) ha
  rw [ha] at hperforms ⊢
  refine ⟨hcopy.1, hcopy.2, zw.state calls, hcalls, ?_, fun q hq => ?_⟩
  · exact (openedZips_concat _ _).trans (List.append_nil _)
  · rcases hperforms q with heq | ⟨rfl, -⟩
    · exact heq
    · exact absurd rfl hq

theorem ends_fetchFailure {α : Type} {reasonCode message : String} {retryable : Bool}
    {details : PyDict} {P : ZipState → Prop} {Q : α → ZipState → Prop} :
    Ends zw.state P
      (ArtifactFetcher.fetchFailure (α := α) reasonCode message retryable details) Q := by
  unfold ArtifactFetcher.fetchFailure fail
  split <;> exact Ends.raise _

end

/-! ## The extraction -/

/-- What the loop over the entries has extracted so far, and what it has still to read. -/
structure Extracting (place : PyPath → Place) (root : PyPath) (first : FileTree)
    (opened : List PyPath) (done rest : List ZipEntry) (s : ZipState) : Prop where
  files : Overwritten first s.tree (archiveFiles place root done)
  under : ∀ write ∈ archiveFiles place root done, place root <+: write.1
  unread : s.unread = fileEntries rest
  opened : s.opened = opened

/-- A target that was opened: nothing else is another file than before. -/
structure TargetOpened (target : Place) (first : FileTree) (opened : List PyPath)
    (writes : List (Place × List Nat)) (unread : List ZipEntry) (s : ZipState) : Prop where
  others : ∃ tree, Overwritten first tree writes ∧
    ∀ q, q ≠ target → fileBytes s.tree q = fileBytes tree q
  unread : s.unread = unread
  opened : s.opened = opened

section

variable {fw : FileWorld place hash w} {unzip : List Nat → List ZipEntry} (zw : ZipWorld fw unzip)
  {zipPath root : PyPath} {first : FileTree} {opened : List PyPath} {done rest : List ZipEntry}

/-- The target of an entry that passes the checks is below the root. -/
theorem ends_entryTarget (name : String) {P : ZipState → Prop} :
    Ends zw.state P (ArtifactFetcher.entryTarget w zipPath (resolvedPath place root) name)
      fun target s => P s ∧
        target = resolvedPath place
          (below (resolvedPath place root) (PyPath.ofText name).parts) ∧
        place root <+: place (below (resolvedPath place root) (PyPath.ofText name).parts) := by
  unfold ArtifactFetcher.entryTarget
  refine Ends.ite (fun _ => ends_fetchFailure zw) fun hname =>
    Ends.ite (fun _ => ends_fetchFailure zw) fun _ => ?_
  rw [not_or] at hname
  rw [join_of_relative _ (rootOf_eq_empty hname.2)]
  refine (ends_ask zw rfl rfl).bind fun target => ?_
  split
  · exact ends_fetchFailure zw
  · rename_i hrelative
    refine Ends.pure fun s hs => ⟨hs.1, hs.2.2 target rfl, ?_⟩
    have htarget := hs.2.2 target rfl
    subst htarget
    unfold PyPath.relativeTo? at hrelative
    split_ifs at hrelative with hunder
    exact List.isPrefixOf_iff_prefix.1 hunder.2

/-- Making directories extracts nothing. -/
theorem ends_extracting_mkdir (p : PyPath) :
    Ends zw.state (Extracting place root first opened done rest) (call w none (.mkdir p))
      fun _ s => Extracting place root first opened done rest s := by
  refine ends_other zw rfl fun s _ tree' hs h => { hs with files := hs.files.keep fun q => ?_ }
  exact fileBytes_eq_of_made ((h.1 q).imp_right fun hmade => ⟨hmade.1, hmade.2.1⟩)

/-- A file entry ends at its place with its bytes. -/
theorem ends_extractFile {info : ZipEntry} (hfile : info.isDir = false)
    (hunder : place root <+: entryPlace place root info) {target : PyPath}
    (htarget : place target = entryPlace place root info) :
    Ends zw.state (Extracting place root first opened done (info :: rest))
      (do
        call w none (.openTarget target)
        call w none (.copyEntry zipPath info.1 target))
      fun _ s => Extracting place root first opened (done ++ [info]) rest s := by
  have hopen : Ends zw.state (Extracting place root first opened done (info :: rest))
      (call w none (.openTarget target)) fun _ s =>
        TargetOpened (place target) first opened (archiveFiles place root done)
          (info :: fileEntries rest) s ∧
        ∀ write ∈ archiveFiles place root done, place root <+: write.1 := by
    refine ends_other zw rfl fun s _ tree' hs h =>
      ⟨⟨⟨s.tree, hs.files, fun q hq => ?_⟩, ?_, ?_⟩, ?_⟩
    · rcases h q with heq | ⟨rfl, -⟩
      · simp only [fileBytes, heq]
      · exact absurd rfl hq
    · rw [hs.unread, fileEntries, List.filter_cons_of_pos (by simpa using hfile)]
      rfl
    · exact hs.opened
    · exact hs.under
  refine hopen.bind fun _ => (ends_copyEntry zw fun s hs => hs.1.unread).mono fun _ s hs => ?_
  rcases hs with ⟨hwritten, hunread, s', ⟨⟨⟨tree, hfiles, hothers⟩, -, hopened⟩, hall⟩, heq, hrest⟩
  refine ⟨?_, ?_, hunread, heq.trans hopened⟩
  · rw [archiveFiles_append, archiveFiles_file root hfile, ← htarget]
    refine hfiles.write hwritten fun q hq => ?_
    rw [← hothers q hq]
    simp only [fileBytes, hrest q hq]
  · rw [archiveFiles_append, archiveFiles_file root hfile]
    intro write hwrite
    rcases List.mem_append.1 hwrite with hwrite | hwrite
    · exact hall write hwrite
    · exact List.mem_singleton.1 hwrite ▸ hunder

/-- One entry of the archive. -/
theorem ends_extractEntry (hplace : ResolvesOnce place) (info : ZipEntry) :
    Ends zw.state (Extracting place root first opened done (info :: rest))
      (ArtifactFetcher.extractEntry w zipPath (resolvedPath place root) info.1)
      fun _ s => Extracting place root first opened (done ++ [info]) rest s := by
  unfold ArtifactFetcher.extractEntry
  refine (ends_entryTarget zw info.1).bind fun target => ?_
  refine Ends.assume (fun htarget => ?_) fun _ hs => hs.2
  refine Ends.weaken ?_ fun _ hs => hs.1
  rcases htarget with ⟨htarget, hunder⟩
  have hleads : place target = entryPlace place root info := by
    rw [htarget, hplace]
    rfl
  refine Ends.ite (fun hslash => ?_) fun hslash => ?_
  · have hdir : info.isDir = true := decide_eq_true hslash
    refine (ends_extracting_mkdir zw target).mono fun _ s hs => ⟨?_, ?_, ?_, hs.opened⟩
    · rw [archiveFiles_append, archiveFiles_dir root hdir, List.append_nil]
      exact hs.files
    · rw [archiveFiles_append, archiveFiles_dir root hdir, List.append_nil]
      exact hs.under
    · rw [hs.unread, fileEntries, List.filter_cons_of_neg (by simpa using hdir)]
      rfl
  · have hfile : info.isDir = false := decide_eq_false hslash
    refine (ends_extracting_mkdir zw _).bind fun _ => ?_
    refine (ends_ask zw rfl rfl).bind fun _ => ?_
    exact (ends_extractFile zw hfile hunder hleads).weaken fun _ hs => hs.1

/-- The start of a fetch. -/
def Untouched (first : FileTree) (opened : List PyPath) (s : ZipState) : Prop :=
  s.tree = first ∧ s.opened = opened

/-- The extraction of a zip, which is a file. -/
theorem ends_extractZipToDirectory (hplace : ResolvesOnce place) {bytes : List Nat}
    (hzip : first (place zipPath) = some (.file bytes)) :
    Ends zw.state (Untouched first opened)
      (ArtifactFetcher.extractZipToDirectory w zipPath root)
      fun _ s => Extracting place root first (opened ++ [zipPath]) (unzip bytes) [] s := by
  have hmkdir : Ends zw.state (Untouched first opened) (call w none (.mkdir root)) fun _ s =>
      Overwritten first s.tree [] ∧ s.tree (place zipPath) = some (.file bytes) ∧
        s.opened = opened := by
    refine ends_other zw rfl fun s _ tree' hs h => ?_
    rcases hs with ⟨rfl, hopened⟩
    refine ⟨(Overwritten.refl s.tree).keep fun q => ?_, ?_, hopened⟩
    · exact fileBytes_eq_of_made ((h.1 q).imp_right fun hmade => ⟨hmade.1, hmade.2.1⟩)
    · rcases h.1 (place zipPath) with heq | ⟨hnone, -⟩
      · exact heq.trans hzip
      · rw [hzip] at hnone
        cases hnone
  unfold ArtifactFetcher.extractZipToDirectory
  refine hmkdir.bind fun _ => (ends_ask zw rfl rfl).bind fun resolved => ?_
  refine Ends.assume (p := resolved = resolvedPath place root) (fun hresolved => ?_)
    fun s hs => hs.2.2 resolved rfl
  subst hresolved
  refine (ends_openZip zw fun s hs => hs.1.2.1).bind fun names => ?_
  refine Ends.assume (fun hnames => ?_) fun s hs => hs.1
  subst hnames
  rw [forEach_map]
  have hloop : Ends zw.state (fun s => Extracting place root first (opened ++ [zipPath]) []
        ((unzip bytes).drop ([] : List ZipEntry).length) s)
      (Logged.forEach (fun info : ZipEntry => ArtifactFetcher.extractEntry w zipPath
        (resolvedPath place root) info.1) (unzip bytes)) fun _ s =>
        Extracting place root first (opened ++ [zipPath]) (unzip bytes)
          ((unzip bytes).drop (unzip bytes).length) s := by
    refine Ends.forEach (I := fun done s => Extracting place root first (opened ++ [zipPath]) done
      ((unzip bytes).drop done.length) s) fun before info after heq => ?_
    have hdrop : (unzip bytes).drop before.length = info :: after := by
      rw [heq, List.drop_left]
    have hnext : (unzip bytes).drop (before ++ [info]).length = after := by
      rw [List.length_append, ← List.drop_drop, hdrop]
      rfl
    rw [hdrop, hnext]
    exact ends_extractEntry zw hplace info
  rw [List.drop_length] at hloop
  refine hloop.weaken fun s hs => ?_
  rcases hs with ⟨-, hunread, s', ⟨⟨hfiles, -, hopened⟩, -⟩, htree, hnow⟩
  refine ⟨htree ▸ hfiles, fun write hwrite => absurd hwrite List.not_mem_nil, hunread, ?_⟩
  rw [hnow, hopened]

/-! ## The fetch -/

/-- What a fetch of a zip leaves: it opened one archive, whose file entries lie on top of the files
that were there. -/
def ZipFetched (place : PyPath → Place) (unzip : List Nat → List ZipEntry) (first : FileTree)
    (opened : List PyPath) (result : ArtifactFetchResult) (s : ZipState) : Prop :=
  ∃ zipPath bytes, s.opened = opened ++ [zipPath] ∧ first (place zipPath) = some (.file bytes) ∧
    Overwritten first s.tree (archiveFiles place result.materializedRoot (unzip bytes)) ∧
      ∀ write ∈ archiveFiles place result.materializedRoot (unzip bytes),
        place result.materializedRoot <+: write.1

theorem ends_verifiedZipExtract (hplace : ResolvesOnce place) (launchSpec : LaunchSpec)
    (messages : ArtifactFetcher.ZipMessages) {bytes : List Nat}
    (hzip : first (place zipPath) = some (.file bytes)) :
    Ends zw.state (Untouched first opened)
      (ArtifactFetcher.verifiedZipExtract w zipPath launchSpec root messages)
      fun result s => ZipFetched place unzip first opened result s := by
  have hextract : ∀ expectedDigest : Option String, Ends zw.state (Untouched first opened)
      (do
        ArtifactFetcher.extractZipToDirectory w zipPath root
        pure (⟨launchSpec.artifactUri, root, expectedDigest, none, true⟩ : ArtifactFetchResult))
      fun result s => ZipFetched place unzip first opened result s := fun expectedDigest =>
    (ends_extractZipToDirectory zw hplace hzip).bind fun _ => Ends.pure fun s hs =>
      ⟨zipPath, bytes, hs.opened, hzip, hs.files, hs.under⟩
  have hparse : ∀ digest : String, Ends zw.state (Untouched first opened)
      (ArtifactFetcher.parseSha256Digest digest) fun _ s => Untouched first opened s := by
    intro digest
    refine Ends.ite (fun _ => ends_fetchFailure zw) fun _ => ?_
    exact Ends.ite (fun _ => ends_fetchFailure zw) fun _ => Ends.pure fun _ hs => hs
  unfold ArtifactFetcher.verifiedZipExtract
  refine Ends.ite (fun _ => Ends.ite (fun _ => ends_fetchFailure zw) fun _ => hextract _) fun _ =>
    Ends.ite (fun _ => hextract _) fun _ => ?_
  refine (hparse _).bind fun parsed => ?_
  rcases parsed with ⟨algo, expectedHex⟩
  refine Ends.ite (fun _ => ends_fetchFailure zw) fun _ => ?_
  refine (ends_ask zw rfl rfl).bind fun content => ?_
  exact Ends.ite (fun _ => ends_fetchFailure zw) fun _ => (hextract _).weaken fun _ hs => hs.1

/-- A question on the way to the zip. -/
theorem keeps_ask {handler : Option Handler} {operation : Operation}
    (hasks : operation.asks = true) (hother : operation.readsArchive = false) :
    Keeps zw.state (Untouched first opened) (call w handler operation) fun a =>
      Performs place hash first operation (.ok a) first := by
  refine leaves_other zw hother fun s r tree' hs h => ?_
  rcases hs with ⟨rfl, hopened⟩
  obtain rfl := h.eq_of_asks hasks
  refine ⟨⟨rfl, hopened⟩, fun a ha => ?_⟩
  subst ha
  exact h

theorem keeps_fetchFailure {α : Type} {reasonCode message : String} {retryable : Bool}
    {details : PyDict} {I : ZipState → Prop} {P : α → Prop} :
    Keeps zw.state I
      (ArtifactFetcher.fetchFailure (α := α) reasonCode message retryable details) P := by
  unfold ArtifactFetcher.fetchFailure fail
  split <;> exact Keeps.raise _

theorem keeps_resolveLocalArtifactPath {handler : Option Handler} (artifactUri : String)
    (baseDir : PyPath) :
    Keeps zw.state (Untouched first opened)
      (ArtifactFetcher.resolveLocalArtifactPath w handler artifactUri baseDir) fun _ => True := by
  refine Keeps.ite (fun _ => Keeps.pure trivial) fun _ => Keeps.ite (fun _ => ?_) fun _ => ?_
  · refine (keeps_ask zw rfl rfl).bind fun parsed _ => (keeps_ask zw rfl rfl).bind fun path _ => ?_
    refine Keeps.ite (fun _ => ?_) fun _ => Keeps.pure trivial
    exact (keeps_ask zw rfl rfl).bind fun resolved _ => Keeps.pure trivial
  · exact (keeps_ask zw rfl rfl).bind fun resolved _ => Keeps.pure trivial

/-- What passes the test is a file. -/
theorem keeps_isZipFile (zipPath : Option PyPath) :
    Keeps zw.state (Untouched first opened) (ArtifactFetcher.isZipFile w zipPath) fun found =>
      ∀ p ∈ found, ∃ bytes, first (place p) = some (.file bytes) := by
  cases zipPath with
  | none => exact Keeps.pure fun _ h => by cases h
  | some path =>
      refine Keeps.ite (fun _ => Keeps.pure fun _ h => by cases h) fun _ => ?_
      refine (keeps_ask zw rfl rfl).bind fun isFile hasked => Keeps.pure fun p hp => ?_
      cases isFile with
      | false => cases hp
      | true =>
          obtain rfl := Option.some.inj hp
          exact hasked.2.1 rfl

theorem keeps_bundlePath (bundleRoot zipPath : PyPath) :
    Keeps zw.state (Untouched first opened) (ArtifactFetcher.bundlePath w bundleRoot zipPath)
      fun inside => ∀ p ∈ inside, p = resolvedPath place zipPath := by
  refine Keeps.catchWith ?_ fun x =>
    Keeps.ite (fun _ => Keeps.pure fun _ h => by cases h) fun _ => Keeps.raise x
  refine (keeps_ask zw rfl rfl).bind fun zipResolved hasked => Keeps.pure fun p hp => ?_
  rcases Option.map_eq_some_iff.1 hp with ⟨-, -, rfl⟩
  exact hasked.2 _ rfl

/-- A zip in the directory of the bundle. -/
theorem ends_maybeFetchStrategyBundleZip (hplace : ResolvesOnce place) (fetcher : ArtifactFetcher)
    (launchSpec : LaunchSpec) :
    Ends zw.state (Untouched first opened) (fetcher.maybeFetchStrategyBundleZip w launchSpec)
      fun bundled s => match bundled with
        | none => Untouched first opened s
        | some result => ZipFetched place unzip first opened result s := by
  unfold ArtifactFetcher.maybeFetchStrategyBundleZip
  cases fetcher.strategyBundleBase with
  | none => exact Ends.pure fun _ hs => hs
  | some base =>
      refine Ends.bind_keeps (keeps_ask zw rfl rfl) fun bundleRoot _ => ?_
      refine Ends.bind_keeps (keeps_resolveLocalArtifactPath zw _ _) fun candidate _ => ?_
      refine Ends.bind_keeps (keeps_isZipFile zw candidate) fun found hfound => ?_
      cases found with
      | none => exact Ends.pure fun _ hs => hs
      | some zipPath =>
          refine Ends.bind_keeps (keeps_bundlePath zw bundleRoot zipPath) fun inside hinside => ?_
          cases inside with
          | none => exact Ends.pure fun _ hs => hs
          | some zipResolved =>
              rcases hfound zipPath rfl with ⟨bytes, hbytes⟩
              have hzip : first (place zipResolved) = some (.file bytes) := by
                rw [hinside zipResolved rfl, hplace, hbytes]
              refine (ends_verifiedZipExtract zw hplace launchSpec _ hzip).bind fun result => ?_
              exact Ends.pure fun _ hs => hs

theorem keeps_resolveArtifactZipPath {handler : Option Handler} (fetcher : ArtifactFetcher)
    (launchSpec : LaunchSpec) :
    Keeps zw.state (Untouched first opened)
      (fetcher.resolveArtifactZipPath w handler launchSpec) fun _ => True := by
  have hregistry : ∀ (uri : String) (localBase : PyPath), Keeps zw.state (Untouched first opened)
      (resolveRegistryLocalUriToPath w handler uri localBase) fun _ => True := by
    intro uri localBase
    refine Keeps.ite (fun _ => Keeps.raise _) fun _ =>
      Keeps.ite (fun _ => Keeps.raise _) fun _ => ?_
    refine (keeps_ask zw rfl rfl).bind fun base _ => ?_
    refine Keeps.ite (fun _ => Keeps.raise _) fun _ => ?_
    exact Keeps.ite (fun _ => Keeps.raise _) fun _ => Keeps.pure trivial
  have hbase : Keeps zw.state (Untouched first opened)
      (fetcher.relativeArtifactBase w handler) fun _ => True := by
    unfold ArtifactFetcher.relativeArtifactBase
    split <;> exact (keeps_ask zw rfl rfl).mono fun _ _ => trivial
  refine Keeps.ite (fun _ => Keeps.pure trivial) fun _ => Keeps.ite (fun _ => ?_) fun _ => ?_
  · split
    · exact Keeps.pure trivial
    · exact (hregistry _ _).bind fun path _ => Keeps.pure trivial
  · exact hbase.bind fun base _ => keeps_resolveLocalArtifactPath zw _ _

/-- A zip anywhere. -/
theorem ends_maybeFetchGenericVerifiedZip (hplace : ResolvesOnce place) (fetcher : ArtifactFetcher)
    (launchSpec : LaunchSpec) :
    Ends zw.state (Untouched first opened) (fetcher.maybeFetchGenericVerifiedZip w launchSpec)
      fun zipped s => ∀ result ∈ zipped, ZipFetched place unzip first opened result s := by
  have hpath : Keeps zw.state (Untouched first opened)
      (catchWith (fetcher.resolveArtifactZipPath w (some .zipPath) launchSpec)
        (ArtifactFetcher.zipPathFailure w launchSpec)) fun _ => True := by
    refine (keeps_resolveArtifactZipPath zw _ _).catchWith fun x => ?_
    refine Keeps.ite (fun _ => ?_) fun _ => Keeps.raise x
    exact (keeps_ask zw rfl rfl).bind fun text _ => keeps_fetchFailure zw
  refine Ends.bind_keeps hpath fun candidate _ => ?_
  refine Ends.bind_keeps (keeps_isZipFile zw candidate) fun found hfound => ?_
  cases found with
  | none => exact Ends.pure fun _ _ _ h => by cases h
  | some zipPath =>
      refine Ends.bind_keeps (keeps_ask zw rfl rfl) fun zipResolved hresolved => ?_
      rcases hfound zipPath rfl with ⟨bytes, hbytes⟩
      have hzip : first (place zipResolved) = some (.file bytes) := by
        rw [hresolved.2 zipResolved rfl]
        exact (congrArg first (hplace zipPath)).trans hbytes
      refine (ends_verifiedZipExtract zw hplace launchSpec _ hzip).bind fun result => ?_
      exact Ends.pure fun _ hs _ hresult => Option.some.inj hresult ▸ hs

/-- A fetch whose result is that of a zip. -/
theorem ends_fetch (hplace : ResolvesOnce place) (fetcher : ArtifactFetcher)
    (launchSpec : LaunchSpec) :
    Ends zw.state (Untouched first opened) (fetcher.fetch w launchSpec) fun result s =>
      result.preverifiedDigest = true → ZipFetched place unzip first opened result s := by
  refine (ends_maybeFetchStrategyBundleZip zw hplace fetcher launchSpec).bind fun bundled => ?_
  cases bundled with
  | some result => exact Ends.pure fun _ hs _ => hs
  | none =>
      refine Ends.ite (fun _ => ends_fetchFailure zw) fun _ => ?_
      refine (ends_maybeFetchGenericVerifiedZip zw hplace fetcher launchSpec).bind fun zipped => ?_
      cases zipped with
      | some result => exact Ends.pure fun _ hs _ => hs result rfl
      | none =>
          have hanything : ∀ {α : Type} {P : ZipState → Prop} (m : Stage α),
              Ends zw.state P m fun _ _ => True := fun _ _ _ _ _ => trivial
          refine (hanything _).bind fun provider => (hanything _).bind fun materialization => ?_
          exact Ends.pure fun _ _ h => by cases h

/-- After the fetch of a zip the files below the root are the file entries of the archive, the last
of each path, exactly when every file that lay there before is at the place of an entry. -/
theorem fetch_zip_exact_iff (zw : ZipWorld fw unzip) (hplace : ResolvesOnce place)
    (fetcher : ArtifactFetcher) (launchSpec : LaunchSpec) {calls calls' : List BootstrapCall}
    {result : ArtifactFetchResult}
    (hfetch : fetcher.fetch w launchSpec calls = (.ok result, calls'))
    (hzip : result.preverifiedDigest = true) :
    ∃ zipPath bytes, openedZips calls' = openedZips calls ++ [zipPath] ∧
      fw.state calls (place zipPath) = some (.file bytes) ∧
        (HoldsExactly (fw.state calls') (place result.materializedRoot)
            (archiveFiles place result.materializedRoot (unzip bytes)) ↔
          ∀ q, place result.materializedRoot <+: q → fileBytes (fw.state calls) q ≠ none →
            ∃ info ∈ fileEntries (unzip bytes),
              entryPlace place result.materializedRoot info = q) := by
  have hstart : Untouched (fw.state calls) (openedZips calls) (zw.state calls) := ⟨rfl, rfl⟩
  have hends := ends_fetch zw hplace fetcher launchSpec calls hstart result (by rw [hfetch]) hzip
  rw [hfetch] at hends
  rcases hends with ⟨zipPath, bytes, hopened, hfile, hfiles, hunder⟩
  refine ⟨zipPath, bytes, hopened, hfile, (hfiles.holdsExactly_iff hunder).trans ?_⟩
  refine forall_congr' fun q => imp_congr_right fun _ => imp_congr_right fun _ => ?_
  simp only [archiveFiles, List.map_map, List.mem_map, Function.comp_apply]

end

/-! ## A zip on a disk -/

/-- Without links a path is resolved once. -/
theorem resolvesOnce_place {cwd : Place} (hcwd : ".." ∉ cwd) : ResolvesOnce (PyPath.place cwd) :=
  fun p => (unlinked_place hcwd p).above _ (List.prefix_refl _)

namespace Disk

/-- What is left of the archive after a call. -/
def unreadAfter (archive unread : List ZipEntry) (c : BootstrapCall) : List ZipEntry :=
  match c.operation with
  | .openZip _ => fileEntries archive
  | .copyEntry _ _ _ => unread.tail
  | _ => unread

variable (cwd : Place) (hash : String → List Nat → String) (archive : List ZipEntry)

theorem after_concat (disk : Disk) (calls : List BootstrapCall) (c : BootstrapCall) :
    disk.after cwd hash archive (calls ++ [c]) =
      (perform cwd hash archive (disk.after cwd hash archive calls) c.operation).2 := by
  rw [after, List.foldl_append]
  rfl

theorem subset_unread {unread : List ZipEntry} (h : unread ⊆ archive) (calls : List BootstrapCall) :
    calls.foldl (unreadAfter archive) unread ⊆ archive := by
  induction calls generalizing unread with
  | nil => exact h
  | cons c calls ih =>
      refine ih ?_
      unfold unreadAfter
      split
      · exact List.filter_subset_self _
      · exact fun info hinfo => h (List.tail_subset unread hinfo)
      · exact h

variable {archive} in
/-- An entry is found by its name. -/
theorem tree_copyEntry (hnames : (archive.map Prod.fst).Nodup) {disk : Disk} {zipPath p : PyPath}
    {info : ZipEntry} (hmem : info ∈ archive)
    (h : (perform cwd hash archive disk (.copyEntry zipPath info.1 p)).1 = .ok ()) :
    (perform cwd hash archive disk (.copyEntry zipPath info.1 p)).2.tree (p.place cwd) =
      some (.file info.2) := by
  unfold perform at h ⊢
  dsimp only at h ⊢
  split at h
  · rename_i content entry _ hfind
    have hname : entry.1 = info.1 := by simpa using List.find?_some hfind
    have heq : entry = info :=
      List.inj_on_of_nodup_map hnames (List.mem_of_find?_eq_some hfind) hmem hname
    rw [done, tree_write, if_pos rfl, heq]
  · cases h

/-- A disk with one archive, whose entries have different names. -/
def zips (disk : Disk) (hnames : (archive.map Prod.fst).Nodup) :
    ZipWorld (disk.files cwd hash archive) fun _ => archive where
  unread calls := calls.foldl (unreadAfter archive) []
  openZip calls p handler names bytes hopen _ := by
    refine ⟨(Except.ok.inj hopen).symm, ?_⟩
    rw [List.foldl_append]
    rfl
  copyEntry calls zipPath p handler info rest hunread hcopy := by
    have hmem : info ∈ archive := by
      refine subset_unread archive (List.nil_subset _) calls ?_
      rw [hunread]
      exact List.mem_cons_self
    refine ⟨?_, ?_⟩
    · have hwritten := tree_copyEntry cwd hash hnames hmem hcopy
      rw [← after_concat cwd hash archive disk calls ⟨_, handler, none⟩] at hwritten
      exact hwritten
    · rw [List.foldl_append, hunread]
      rfl
  others calls c hother := by
    rw [List.foldl_append]
    cases hoperation : c.operation with
    | openZip _ | copyEntry _ _ _ =>
        rw [hoperation] at hother
        cases hother
    | _ => simp [unreadAfter, hoperation]

end Disk

/-- The root of a fetched zip. -/
def zipRoot? : Except Raised ArtifactFetchResult → Option PyPath
  | .ok result => if result.preverifiedDigest then some result.materializedRoot else none
  | .error _ => none

/-- The second version of a bundle, next to a module that only its first version had. -/
def upgradedDisk : Disk :=
  ⟨[([], .directory), (["srv"], .directory), (["srv", "strategy_bundle"], .directory),
    (["srv", "strategy_bundle", "bot.zip"], .file [80, 75]),
    (["srv", "strategy_bundle", "old.py"], .file [1])]⟩

/-- A zip among the strategies, and no materialised launch. -/
def registryDisk : Disk :=
  ⟨[([], .directory), (["srv"], .directory), (["srv", "strategies"], .directory),
    (["srv", "strategies", "bot.zip"], .file [80, 75])]⟩

def botArchive : List ZipEntry :=
  [("lib/", []), ("lib/bot.py", [2]), ("bot.yaml", [3])]

def bundleFetcher : ArtifactFetcher :=
  ⟨⟨"/", ["work"]⟩, [], some ⟨"/", ["srv"]⟩, none⟩

def plainFetcher : ArtifactFetcher :=
  ⟨⟨"/", ["work"]⟩, [], none, none⟩

def launchOfZip (artifactUri : String) : LaunchSpec :=
  { paperSpec none with artifactUri }

theorem exists_of_zipRoot? {r : Except Raised ArtifactFetchResult} {root : PyPath}
    (h : zipRoot? r = some root) :
    ∃ result, r = .ok result ∧ result.preverifiedDigest = true ∧
      result.materializedRoot = root := by
  cases r with
  | error x => cases h
  | ok result =>
      unfold zipRoot? at h
      dsimp only at h
      split_ifs at h with hzip
      exact ⟨result, rfl, hzip, Option.some.inj h⟩

/-- The module of the first version is still there. -/
theorem stale_module_survives :
    ∃ result, (bundleFetcher.fetch (upgradedDisk.world [] (fun _ _ => "") botArchive)
        (launchOfZip "strategy_bundle/bot.zip") []).1 = .ok result ∧
      result.preverifiedDigest = true ∧
      ¬ HoldsExactly
        ((upgradedDisk.files [] (fun _ _ => "") botArchive).state
          (bundleFetcher.fetch (upgradedDisk.world [] (fun _ _ => "") botArchive)
            (launchOfZip "strategy_bundle/bot.zip") []).2)
        (PyPath.place [] result.materializedRoot)
        (archiveFiles (PyPath.place []) result.materializedRoot botArchive) := by
  have hroot : zipRoot? (bundleFetcher.fetch (upgradedDisk.world [] (fun _ _ => "") botArchive)
      (launchOfZip "strategy_bundle/bot.zip") []).1 = some ⟨"/", ["srv", "strategy_bundle"]⟩ := by
    decide +kernel
  have hstale : fileBytes ((upgradedDisk.files [] (fun _ _ => "") botArchive).state
      (bundleFetcher.fetch (upgradedDisk.world [] (fun _ _ => "") botArchive)
        (launchOfZip "strategy_bundle/bot.zip") []).2) ["srv", "strategy_bundle", "old.py"] =
          some [1] := by
    decide +kernel
  have hunder : PyPath.place [] ⟨"/", ["srv", "strategy_bundle"]⟩ <+:
      ["srv", "strategy_bundle", "old.py"] := by
    decide +kernel
  have hnone : lastWritten (archiveFiles (PyPath.place []) ⟨"/", ["srv", "strategy_bundle"]⟩
      botArchive) ["srv", "strategy_bundle", "old.py"] = none := by
    decide +kernel
  rcases exists_of_zipRoot? hroot with ⟨result, hresult, hzip, hplace⟩
  refine ⟨result, hresult, hzip, fun hexact => ?_⟩
  rw [hplace] at hexact
  have hwritten := (hexact _ _).1 ⟨hunder, hstale⟩
  rw [hnone] at hwritten
  cases hwritten

/-- Where nothing was, the archive is what there is. -/
theorem fresh_root_exact :
    ∃ result, (plainFetcher.fetch (registryDisk.world [] (fun _ _ => "") botArchive)
        (launchOfZip "/srv/strategies/bot.zip") []).1 = .ok result ∧
      HoldsExactly
        ((registryDisk.files [] (fun _ _ => "") botArchive).state
          (plainFetcher.fetch (registryDisk.world [] (fun _ _ => "") botArchive)
            (launchOfZip "/srv/strategies/bot.zip") []).2)
        (PyPath.place [] result.materializedRoot)
        (archiveFiles (PyPath.place []) result.materializedRoot botArchive) := by
  have hroot : zipRoot? (plainFetcher.fetch (registryDisk.world [] (fun _ _ => "") botArchive)
      (launchOfZip "/srv/strategies/bot.zip") []).1 = some ⟨"/", ["work", "rt-1-1", "artifact"]⟩ := by
    decide +kernel
  have hnames : (botArchive.map Prod.fst).Nodup := by
    decide
  have hfree : ∀ node ∈ registryDisk.nodes,
      ¬ PyPath.place [] ⟨"/", ["work", "rt-1-1", "artifact"]⟩ <+: node.1 := by
    decide +kernel
  rcases exists_of_zipRoot? hroot with ⟨result, hresult, hzip, hplace⟩
  rcases fetch_zip_exact_iff (registryDisk.zips [] (fun _ _ => "") botArchive hnames)
    (resolvesOnce_place List.not_mem_nil) plainFetcher (launchOfZip "/srv/strategies/bot.zip")
    (Prod.ext hresult rfl) hzip with ⟨-, -, -, -, hiff⟩
  refine ⟨result, hresult, hiff.2 fun q hq hfile => ?_⟩
  rw [hplace] at hq
  have hthere : registryDisk.tree q ≠ none := by
    intro hnone
    refine hfile ?_
    have hstart : ((registryDisk.files [] (fun _ _ => "") botArchive).state []) q =
        registryDisk.tree q := rfl
    rw [fileBytes, hstart, hnone]
  rcases Disk.tree_ne_none.1 hthere with ⟨node, hnode⟩
  exact absurd hq (hfree _ hnode)

end Bootstrap
end StrategyWorker
