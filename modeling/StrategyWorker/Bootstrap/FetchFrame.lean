import StrategyWorker.Bootstrap.ZipContainment

/-!
# What a fetch touches

The stages of a fetch are walked by one rule for each construct.  What is
removed, copied or extracted lies in the directory that a stage was given; what
is elsewhere stays, but for missing directories that are made.

Main results:

- Theorem {lit}`touches_localFetch`: the providers of the runtime.
- Theorem {lit}`touches_extractZipToDirectory`: the extraction of a zip.
- Theorem {lit}`touches_fetch`: a fetch, whatever it ends in.
-/

namespace StrategyWorker
namespace Bootstrap

open Library
open PyText Logged

section

variable {place : PyPath → Place} {hash : String → List Nat → String} {w : World} {α β : Type}

/-- Whatever a stage ends in, it touches only what is within; what it returns satisfies {lit}`P`. -/
def Touches (fw : FileWorld place hash w) (within : Place → Prop) (m : Stage α) (P : α → Prop) :
    Prop :=
  ∀ first, Keeps fw.state (OnlyTouches within first) m P

variable {fw : FileWorld place hash w} {within : Place → Prop} {m : Stage α} {P : α → Prop}
  {handler : Option Handler}

/-! ## Rules -/

theorem Touches.pure {a : α} (h : P a) : Touches fw within (Pure.pure a : Stage α) P :=
  fun _ => Keeps.pure h

theorem Touches.raise (x : Raised) : Touches fw within (Logged.raise x : Stage α) P :=
  fun _ => Keeps.raise x

theorem Touches.fail {stage : BootstrapStage} {reasonCode message : String} {retryable : Bool}
    {details : PyDict} :
    Touches fw within (Bootstrap.fail (α := α) stage reasonCode message retryable details) P :=
  fun _ => keeps_fail fw

theorem Touches.bind {f : α → Stage β} {R : β → Prop} (hm : Touches fw within m P)
    (hf : ∀ a, P a → Touches fw within (f a) R) : Touches fw within (m >>= f) R :=
  fun first => (hm first).bind fun a ha => hf a ha first

theorem Touches.ite {c : Prop} [Decidable c] {m' : Stage α} (hm : Touches fw within m P)
    (hm' : Touches fw within m' P) : Touches fw within (if c then m else m') P :=
  fun first => Keeps.ite (fun _ => hm first) fun _ => hm' first

theorem Touches.catchWith {clause : Raised → Stage α} (hm : Touches fw within m P)
    (hclause : ∀ x, Touches fw within (clause x) P) :
    Touches fw within (Logged.catchWith m clause) P :=
  fun first => (hm first).catchWith fun x => hclause x first

theorem Touches.forEach {body : β → Stage Unit} {xs : List β}
    (h : ∀ x ∈ xs, Touches fw within (body x) fun _ => True) :
    Touches fw within (Logged.forEach body xs) fun _ => True :=
  fun first => Keeps.forEach fun x hx => h x hx first

/-- A call touches what its operation does. -/
theorem Touches.call {operation : Operation} {P : operation.Answer → Prop}
    (h : ∀ tree r tree', Performs place hash tree operation r tree' →
      OnlyTouches within tree tree' ∧ ∀ a, r = .ok a → P a) :
    Touches fw within (Bootstrap.call w handler operation) P := by
  intro first
  refine leaves_call fw handler operation fun tree r tree' hfirst hperforms => ?_
  exact ⟨hfirst.trans (h tree r tree' hperforms).1, (h tree r tree' hperforms).2⟩

theorem Touches.ask {operation : Operation} (hasks : operation.asks = true) :
    Touches fw within (Bootstrap.call w handler operation) fun _ => True := by
  refine Touches.call fun tree r tree' h => ⟨?_, fun _ _ => trivial⟩
  rw [h.eq_of_asks hasks]
  exact .refl _ _

/-! ## Operations that change the tree -/

theorem onlyTouches_mkdir {tree tree' : FileTree} {p : PyPath} {r : Except Raised Unit}
    (h : Performs place hash tree (.mkdir p) r tree') : OnlyTouches within tree tree' := by
  intro q
  rcases h.1 q with heq | ⟨hnone, hmade, -⟩
  · exact .inr (.inl heq)
  · exact .inr (.inr ⟨hnone, hmade⟩)

theorem Touches.mkdir (p : PyPath) :
    Touches fw within (Bootstrap.call w handler (.mkdir p)) fun _ => True :=
  Touches.call fun _ _ _ h => ⟨onlyTouches_mkdir h, fun _ _ => trivial⟩

theorem Touches.rmtree {p : PyPath} (hp : ∀ q, place p <+: q → within q) :
    Touches fw within (Bootstrap.call w handler (.rmtree p)) fun _ => True := by
  refine Touches.call fun tree r tree' h => ⟨fun q => ?_, fun _ _ => trivial⟩
  rcases h.1 q with heq | ⟨-, hunder⟩
  · exact .inr (.inl heq)
  · exact .inl (hp q hunder)

theorem Touches.copytree {source destination : PyPath}
    (hdestination : ∀ q, place destination <+: q → within q) :
    Touches fw within (Bootstrap.call w handler (.copytree source destination)) fun _ => True := by
  refine Touches.call fun tree r tree' h => ⟨fun q => ?_, fun _ _ => trivial⟩
  rcases h.1 q with heq | hunder | ⟨hnone, hmade, -⟩
  · exact .inr (.inl heq)
  · exact .inl (hdestination q hunder)
  · exact .inr (.inr ⟨hnone, hmade⟩)

/-- A path that ends in {lit}`..` is never copied, so it needs no destination. -/
theorem Touches.copy2 {source destination : PyPath}
    (hdestination : source.parts.getLast? ≠ some ".." → ∀ q, place destination <+: q → within q) :
    Touches fw within (Bootstrap.call w handler (.copy2 source destination)) fun _ => True := by
  refine Touches.call fun tree r tree' h => ⟨fun q => ?_, fun _ _ => trivial⟩
  rcases h.1 q with heq | ⟨hunder, hlast⟩
  · exact .inr (.inl heq)
  · exact .inl (hdestination hlast q hunder)

/-- The entries of a directory have names. -/
theorem Touches.iterdir (p : PyPath) :
    Touches fw within (Bootstrap.call w handler (.iterdir p)) fun entries =>
      ∀ entry ∈ entries, EntryName entry.name := by
  refine Touches.call fun tree r tree' h => ⟨?_, fun entries hentries => ?_⟩
  · rw [h.1]
    exact .refl _ _
  rcases h.2 entries hentries with ⟨-, names, -, rfl, hnames, -⟩
  intro entry hentry
  rcases List.mem_map.1 hentry with ⟨name, hname, rfl⟩
  have hlast : (below p [name]).name = name := by
    rw [PyPath.name, below, List.getLastD_concat]
  rw [hlast]
  exact hnames name hname

end

/-! ## Destinations -/

/-- The parts of a path that comes from a text. -/
def TextPath (p : PyPath) : Prop :=
  ∀ part ∈ p.parts, part ≠ "" ∧ part ≠ "." ∧ '/' ∉ part.toList

theorem textPath_ofText (text : String) : TextPath (PyPath.ofText text) :=
  fun _ => PyPath.of_mem_parts_ofText

/-- The place below another one. -/
theorem place_below (cwd : Place) (p : PyPath) {rel : List String} (h : ".." ∉ rel) :
    PyPath.place cwd (below p rel) = PyPath.place cwd p ++ rel := by
  rw [PyPath.place, below, walk_append, walk_of_plain _ h]
  rfl

theorem child_of_entryName (p : PyPath) {name : String} (h : EntryName name) :
    p.child name = below p [name] :=
  PyPath.child_of_name p h.1 h.2.1 h.2.2.2

theorem under_child {cwd : Place} (p : PyPath) {name : String} (h : EntryName name) {q : Place}
    (hq : PyPath.place cwd (p.child name) <+: q) : PyPath.place cwd p <+: q := by
  have hplain : ".." ∉ [name] := fun hmem => h.2.2.1 (List.mem_singleton.1 hmem).symm
  rw [child_of_entryName p h, place_below cwd p hplain] at hq
  exact (List.prefix_append _ _).trans hq

/-- What is copied under the name of a path from a text lies below the directory. -/
theorem under_child_name {cwd : Place} (p : PyPath) {source : PyPath} (hsource : TextPath source)
    (hlast : source.parts.getLast? ≠ some "..") {q : Place}
    (hq : PyPath.place cwd (p.child source.name) <+: q) : PyPath.place cwd p <+: q := by
  cases hparts : source.parts.getLast? with
  | none =>
      have hself : p.child source.name = p := by
        rw [PyPath.name, List.getLastD_eq_getLast?, hparts]
        have hempty : PyPath.ofText "" = ⟨"", []⟩ := by
          decide +kernel
        simp [PyPath.child, hempty, PyPath.join, PyPath.isAbsolute]
      rwa [hself] at hq
  | some name =>
      have hname : source.name = name := by
        rw [PyPath.name, List.getLastD_eq_getLast?, hparts, Option.getD_some]
      have hmem := hsource name (List.mem_of_getLast? hparts)
      rw [hname] at hq
      refine under_child p ⟨hmem.1, hmem.2.1, fun heq => hlast ?_, hmem.2.2⟩ hq
      rw [hparts, heq]

/-- The name of a parameter file. -/
theorem entryName_paramsYaml {moduleFile : PyPath} (h : TextPath moduleFile) :
    EntryName (paramsYamlFilenameForModule moduleFile) := by
  have hlong : 5 ≤ (paramsYamlFilenameForModule moduleFile).toList.length := by
    simp [paramsYamlFilenameForModule]
  have hne : ∀ text : String, text.toList.length < 5 →
      paramsYamlFilenameForModule moduleFile ≠ text := by
    intro text htext heq
    rw [heq] at hlong
    omega
  refine ⟨hne _ (by decide), hne _ (by decide), hne _ (by decide), fun hslash => ?_⟩
  rw [paramsYamlFilenameForModule, String.toList_append, List.mem_append] at hslash
  rcases hslash with hslash | hslash
  · have hname : '/' ∈ moduleFile.name.toList := PyPath.stem_subset_name moduleFile hslash
    rw [PyPath.name, List.getLastD_eq_getLast?] at hname
    cases hparts : moduleFile.parts.getLast? with
    | none => simp [hparts] at hname
    | some name =>
        rw [hparts, Option.getD_some] at hname
        exact (h name (List.mem_of_getLast? hparts)).2.2 hname
  · exact absurd hslash (by decide)

/-! ## Providers -/

section

variable {cwd : Place} {hash : String → List Nat → String} {w : World}
  (fw : FileWorld (PyPath.place cwd) hash w) {within : Place → Prop} {handler : Option Handler}

theorem touches_discoverParamsYaml {moduleFile : PyPath} (h : TextPath moduleFile) :
    Touches fw within (discoverParamsYaml w handler moduleFile) fun params =>
      ∀ path ∈ params, EntryName path.name := by
  have hfound : ∀ {parent : PyPath} {name : String}, EntryName name →
      EntryName (parent.child name).name := by
    intro parent name hname
    rw [child_of_entryName parent hname, PyPath.name, below, List.getLastD_concat]
    exact hname
  refine (Touches.ask rfl).bind fun resolved _ => ?_
  refine (Touches.ask rfl).bind fun hasStem _ => ?_
  refine Touches.ite ?_ ?_
  · refine Touches.pure fun path hpath => ?_
    obtain rfl := Option.some.inj hpath
    exact hfound (entryName_paramsYaml h)
  · refine (Touches.ask rfl).bind fun hasLegacy _ => Touches.pure fun path hpath => ?_
    split at hpath
    · obtain rfl := Option.some.inj hpath
      exact hfound (by decide)
    · cases hpath

/-- A directory is emptied and filled. -/
theorem touches_materialize {source destinationRoot : PyPath} (hsource : TextPath source)
    (hwithin : ∀ q, PyPath.place cwd destinationRoot <+: q → within q) :
    Touches fw within (materialize w handler source destinationRoot) fun _ => True := by
  have hremove : Touches fw within (removeTree w handler destinationRoot) fun _ => True :=
    (Touches.ask rfl).bind fun there _ => Touches.ite (Touches.rmtree hwithin) (Touches.pure trivial)
  have hcopy : ∀ entry : PyPath, EntryName entry.name →
      Touches fw within (copyDirectoryEntry w handler destinationRoot entry) fun _ => True := by
    intro entry hentry
    have hunder : ∀ q, PyPath.place cwd (destinationRoot.child entry.name) <+: q → within q :=
      fun q hq => hwithin q (under_child destinationRoot hentry hq)
    exact (Touches.ask rfl).bind fun isDir _ =>
      Touches.ite (Touches.copytree hunder) (Touches.copy2 fun _ => hunder)
  refine hremove.bind fun _ _ => ?_
  refine (Touches.mkdir _).bind fun _ _ => ?_
  refine (Touches.ask rfl).bind fun isDir _ => Touches.ite ?_ ?_
  · refine (Touches.iterdir source).bind fun entries hentries => ?_
    exact Touches.forEach fun entry hentry => hcopy entry (hentries entry (by simpa using hentry))
  · refine (Touches.copy2 fun hlast q hq => ?_).bind fun _ _ => ?_
    · exact hwithin q (under_child_name destinationRoot hsource hlast hq)
    · refine (touches_discoverParamsYaml fw hsource).bind fun params hparams => ?_
      cases params with
      | none => exact Touches.pure trivial
      | some path =>
          exact Touches.copy2 fun _ q hq =>
            hwithin q (under_child destinationRoot (hparams path rfl) hq)

theorem touches_resolveSourcePath (artifactReference : String) :
    Touches fw within (resolveSourcePath w handler artifactReference) TextPath := by
  refine (Touches.ask rfl).bind fun parsed _ => ?_
  refine Touches.ite ?_ (Touches.ite (Touches.raise _) (Touches.pure (textPath_ofText _)))
  refine (Touches.ask rfl).bind fun rawPath _ => ?_
  refine Touches.ite (Touches.pure (textPath_ofText _)) ?_
  split <;> exact Touches.pure (textPath_ofText _)

theorem touches_localFetch (artifactReference : String) {targetDir : PyPath}
    (hwithin : ∀ q, PyPath.place cwd targetDir <+: q → within q) :
    Touches fw within (localFetch w handler artifactReference targetDir) fun _ => True := by
  refine (touches_resolveSourcePath fw _).bind fun source hsource => ?_
  refine (Touches.ask rfl).bind fun there _ => Touches.ite (Touches.raise _) ?_
  refine (Touches.mkdir _).bind fun _ _ => ?_
  refine (touches_materialize fw hsource hwithin).bind fun _ _ => ?_
  have hdigest : Touches fw within (digestRelativePaths w handler source) fun _ => True := by
    refine (Touches.ask rfl).bind fun isFile _ => Touches.ite ?_ (Touches.pure trivial)
    exact (touches_discoverParamsYaml fw hsource).bind fun _ _ => Touches.pure trivial
  exact hdigest.bind fun _ _ => Touches.pure trivial

theorem touches_resolveRegistryLocalUriToPath (artifactUri : String) (localBase : PyPath) :
    Touches fw within (resolveRegistryLocalUriToPath w handler artifactUri localBase)
      fun _ => True := by
  refine Touches.ite (Touches.raise _) (Touches.ite (Touches.raise _) ?_)
  refine (Touches.ask rfl).bind fun base _ => ?_
  exact Touches.ite (Touches.raise _) (Touches.ite (Touches.raise _) (Touches.pure trivial))

/-- Every provider touches its target only. -/
theorem touches_providerFetch (artifactReference : String) {targetDir : PyPath}
    (hwithin : ∀ q, PyPath.place cwd targetDir <+: q → within q) (provider : ArtifactProvider) :
    Touches fw within (provider.fetch w handler artifactReference targetDir) fun _ => True := by
  cases provider with
  | fileSystem => exact touches_localFetch fw _ hwithin
  | registryLocal localBase =>
      refine (touches_resolveRegistryLocalUriToPath fw _ _).bind fun source _ => ?_
      refine (Touches.ask rfl).bind fun resolved _ => ?_
      refine (Touches.ask rfl).bind fun uri _ => ?_
      exact (touches_localFetch fw _ hwithin).bind fun mat _ => Touches.pure trivial
  | custom name =>
      exact Touches.call fun tree r tree' h => ⟨h.mono hwithin, fun _ _ => trivial⟩

end

/-! ## Zips -/

section

variable {cwd : Place} (hcwd : ".." ∉ cwd) {hash : String → List Nat → String} {w : World}
  (fw : FileWorld (PyPath.place cwd) hash w) {within : Place → Prop} {handler : Option Handler}
include hcwd

theorem touches_extractZipToDirectory (zipPath : PyPath) {destination : PyPath}
    (hwithin : ∀ q, PyPath.place cwd destination <+: q → within q) :
    Touches fw within (ArtifactFetcher.extractZipToDirectory w zipPath destination)
      fun _ => True := by
  have hentry : ∀ name, Touches fw within (ArtifactFetcher.extractEntry w zipPath
      (resolvedPath (PyPath.place cwd) destination) name) fun _ => True := by
    intro name first
    refine (leaves_extractEntry fw (unlinked_place hcwd destination) (resolvedRoot_resolvedPath _)
      name (fun rel _ p _ tree r tree' h hmade => h.trans (onlyTouches_mkdir hmade))
      (fun rel _ tree tree' h hwritten => h.trans fun q => ?_)).mono
        fun r tree h => ⟨h, fun _ _ => trivial⟩
    rcases hwritten q with heq | ⟨rfl, -⟩
    · exact .inr (.inl heq)
    · exact .inl (hwithin _ (List.prefix_append _ rel))
  have hresolve : Touches fw within (call w none (.resolve destination)) fun resolved =>
      resolved = resolvedPath (PyPath.place cwd) destination := by
    refine Touches.call fun tree r tree' h => ⟨?_, h.2⟩
    rw [h.1]
    exact .refl _ _
  refine (Touches.mkdir _).bind fun _ _ => ?_
  refine hresolve.bind fun resolved heq => ?_
  subst heq
  exact (Touches.ask rfl).bind fun names _ => Touches.forEach fun name _ => hentry name

theorem touches_verifiedZipExtract (zipResolved : PyPath) (launchSpec : LaunchSpec)
    {extractRoot : PyPath} (messages : ArtifactFetcher.ZipMessages)
    (hwithin : ∀ q, PyPath.place cwd extractRoot <+: q → within q) :
    Touches fw within (ArtifactFetcher.verifiedZipExtract w zipResolved launchSpec extractRoot
      messages) fun _ => True := by
  have hextract := touches_extractZipToDirectory hcwd fw zipResolved hwithin
  have hparse : ∀ digest : String,
      Touches fw within (ArtifactFetcher.parseSha256Digest digest) fun _ => True := fun digest =>
    Touches.ite Touches.fail (Touches.ite Touches.fail (Touches.pure trivial))
  unfold ArtifactFetcher.verifiedZipExtract
  refine Touches.ite (Touches.ite Touches.fail ?_) (Touches.ite ?_ ?_)
  · exact hextract.bind fun _ _ => Touches.pure trivial
  · exact hextract.bind fun _ _ => Touches.pure trivial
  · refine (hparse _).bind fun parsed _ => ?_
    rcases parsed with ⟨algo, expectedHex⟩
    refine Touches.ite Touches.fail ((Touches.ask rfl).bind fun bytes _ => ?_)
    exact Touches.ite Touches.fail (hextract.bind fun _ _ => Touches.pure trivial)

omit hcwd in
theorem touches_resolveLocalArtifactPath (artifactUri : String) (baseDir : PyPath) :
    Touches fw within (ArtifactFetcher.resolveLocalArtifactPath w handler artifactUri baseDir)
      fun _ => True := by
  refine Touches.ite (Touches.pure trivial) (Touches.ite ?_ ?_)
  · refine (Touches.ask rfl).bind fun parsed _ => (Touches.ask rfl).bind fun path _ => ?_
    refine Touches.ite ?_ (Touches.pure trivial)
    exact (Touches.ask rfl).bind fun resolved _ => Touches.pure trivial
  · exact (Touches.ask rfl).bind fun resolved _ => Touches.pure trivial

omit hcwd in
theorem touches_isZipFile (zipPath : Option PyPath) :
    Touches fw within (ArtifactFetcher.isZipFile w zipPath) fun _ => True := by
  cases zipPath with
  | none => exact Touches.pure trivial
  | some path =>
      refine Touches.ite (Touches.pure trivial) ?_
      exact (Touches.ask rfl).bind fun isFile _ => Touches.pure trivial

/-! ## The fetch -/

/-- Where a fetch removes, copies and extracts: the directory of the launch, and the directory of the
bundle for the zips that lie in it. -/
def ArtifactFetcher.WorksIn (cwd : Place) (fetcher : ArtifactFetcher) (launchSpec : LaunchSpec)
    (q : Place) : Prop :=
  PyPath.place cwd (fetcher.materializationDir launchSpec) <+: q ∨
    ∃ base ∈ fetcher.strategyBundleBase, PyPath.place cwd (base.child "strategy_bundle") <+: q

variable (fetcher : ArtifactFetcher) (launchSpec : LaunchSpec)

/-- A zip of the bundle is extracted next to itself. -/
theorem touches_maybeFetchStrategyBundleZip :
    Touches fw (fetcher.WorksIn cwd launchSpec)
      (fetcher.maybeFetchStrategyBundleZip w launchSpec) fun _ => True := by
  unfold ArtifactFetcher.maybeFetchStrategyBundleZip
  cases hbase : fetcher.strategyBundleBase with
  | none => exact Touches.pure trivial
  | some base =>
      have hresolve : Touches fw (fetcher.WorksIn cwd launchSpec)
          (call w none (.resolve (base.child "strategy_bundle"))) fun root =>
            ∀ q, PyPath.place cwd root <+: q → fetcher.WorksIn cwd launchSpec q := by
        refine Touches.call fun tree r tree' h => ⟨?_, fun root hroot q hq => .inr ⟨base, hbase, ?_⟩⟩
        · rw [h.1]
          exact .refl _ _
        · have hplace : PyPath.place cwd (resolvedPath (PyPath.place cwd)
              (base.child "strategy_bundle")) = PyPath.place cwd (base.child "strategy_bundle") :=
            (unlinked_place hcwd (base.child "strategy_bundle")).above _ (List.prefix_refl _)
          rw [h.2 root hroot] at hq
          exact hplace ▸ hq
      have hinside : ∀ root path, Touches fw (fetcher.WorksIn cwd launchSpec)
          (ArtifactFetcher.bundlePath w root path) fun _ => True := fun root path =>
        Touches.catchWith ((Touches.ask rfl).bind fun _ _ => Touches.pure trivial) fun x =>
          Touches.ite (Touches.pure trivial) (Touches.raise x)
      refine hresolve.bind fun root hroot => ?_
      refine (touches_resolveLocalArtifactPath fw _ _).bind fun candidate _ => ?_
      refine (touches_isZipFile fw _).bind fun zipPath _ => ?_
      cases zipPath with
      | none => exact Touches.pure trivial
      | some zipPath =>
          refine (hinside root zipPath).bind fun zipResolved _ => ?_
          cases zipResolved with
          | none => exact Touches.pure trivial
          | some zipResolved =>
              refine (touches_verifiedZipExtract hcwd fw _ _ _ hroot).bind fun _ _ => ?_
              exact Touches.pure trivial

theorem touches_maybeFetchGenericVerifiedZip :
    Touches fw (fetcher.WorksIn cwd launchSpec)
      (fetcher.maybeFetchGenericVerifiedZip w launchSpec) fun _ => True := by
  have hbase : Touches fw (fetcher.WorksIn cwd launchSpec)
      (fetcher.relativeArtifactBase w (some .zipPath)) fun _ => True := by
    unfold ArtifactFetcher.relativeArtifactBase
    cases fetcher.strategyBundleBase with
    | none => exact Touches.ask rfl
    | some base => exact Touches.ask rfl
  have hpath : Touches fw (fetcher.WorksIn cwd launchSpec)
      (fetcher.resolveArtifactZipPath w (some .zipPath) launchSpec) fun _ => True := by
    refine Touches.ite (Touches.pure trivial) (Touches.ite ?_ ?_)
    · cases fetcher.artifactLocalBase with
      | none => exact Touches.pure trivial
      | some localBase =>
          exact (touches_resolveRegistryLocalUriToPath fw _ _).bind fun _ _ => Touches.pure trivial
    · exact hbase.bind fun base _ => touches_resolveLocalArtifactPath fw _ _
  have hclause : ∀ x, Touches fw (fetcher.WorksIn cwd launchSpec)
      (ArtifactFetcher.zipPathFailure w launchSpec x) fun _ => True := fun x =>
    Touches.ite ((Touches.ask rfl).bind fun _ _ => Touches.fail) (Touches.raise x)
  refine (hpath.catchWith hclause).bind fun candidate _ => ?_
  refine (touches_isZipFile fw _).bind fun zipPath _ => ?_
  cases zipPath with
  | none => exact Touches.pure trivial
  | some zipPath =>
      refine (Touches.ask rfl).bind fun zipResolved _ => ?_
      refine (touches_verifiedZipExtract hcwd fw _ _ _ fun q hq => .inl hq).bind fun _ _ => ?_
      exact Touches.pure trivial

omit hcwd in
theorem touches_fetchFromProvider :
    Touches fw (fetcher.WorksIn cwd launchSpec) (fetcher.fetchFromProvider w launchSpec)
      fun _ => True := by
  have hprovider : Touches fw (fetcher.WorksIn cwd launchSpec)
      (fetcher.resolveProvider w launchSpec.artifactUri) fun _ => True := by
    refine (Touches.ask rfl).bind fun parsed _ => ?_
    split
    · exact Touches.pure trivial
    · split
      · exact Touches.pure trivial
      · exact Touches.fail
  have hclause : ∀ x, Touches fw (fetcher.WorksIn cwd launchSpec)
      (ArtifactFetcher.providerFailure w launchSpec x) fun _ => True := by
    intro x
    unfold ArtifactFetcher.providerFailure
    split
    · exact (Touches.ask rfl).bind fun _ _ => Touches.fail
    · exact (Touches.ask rfl).bind fun _ _ => Touches.fail
    · exact (Touches.ask rfl).bind fun _ _ => Touches.fail
    · exact (Touches.ask rfl).bind fun _ _ => (Touches.ask rfl).bind fun _ _ => Touches.fail
    · exact Touches.raise _
  refine hprovider.bind fun provider _ => ?_
  have hfetch : Touches fw (fetcher.WorksIn cwd launchSpec) (provider.fetch w (some .provider)
      launchSpec.artifactUri (fetcher.materializationDir launchSpec)) fun _ => True :=
    touches_providerFetch fw _ (fun q hq => .inl hq) provider
  exact (hfetch.catchWith hclause).bind fun _ _ => Touches.pure trivial

/-- A fetch touches the directory of its launch, and that of the bundle. -/
theorem touches_fetch :
    Touches fw (fetcher.WorksIn cwd launchSpec) (fetcher.fetch w launchSpec) fun _ => True := by
  refine (touches_maybeFetchStrategyBundleZip hcwd fw fetcher launchSpec).bind fun bundled _ => ?_
  cases bundled with
  | some result => exact Touches.pure trivial
  | none =>
      refine Touches.ite Touches.fail ?_
      refine (touches_maybeFetchGenericVerifiedZip hcwd fw fetcher launchSpec).bind fun zipped _ => ?_
      cases zipped with
      | some result => exact Touches.pure trivial
      | none => exact touches_fetchFromProvider fw fetcher launchSpec

end

end Bootstrap
end StrategyWorker
