import StrategyWorker.Bootstrap.BootstrapCalls
import StrategyWorker.Bootstrap.LaunchSpec
import StrategyWorker.Library.PyDigits
import StrategyWorker.Library.Sha256

/-!
# Fetching the artifact

{lit}`ArtifactFetcher.fetch` looks for a zip in the bundle directory, then for
a zip anywhere, and asks a provider otherwise.  A zip is extracted entry by
entry after the names of the entries were checked.

Main results:

- Theorem {lit}`converts_fetch`: only the clauses around the bundle's path, the
  zip's path and the provider convert what is raised here.
-/

namespace StrategyWorker
namespace Bootstrap

open Library
open PyText Logged

/-! ## Parameter files -/

/-- {lit}`params_yaml_filename_for_module(module_file)`. -/
def paramsYamlFilenameForModule (moduleFile : PyPath) : String :=
  moduleFile.stem ++ ".yaml"

/-- {lit}`discover_params_yaml_adjacent_to_module_file(module_file)`. -/
def discoverParamsYaml (w : World) (handler : Option Handler) (moduleFile : PyPath) :
    Stage (Option PyPath) := do
  let resolved : PyPath ← call w handler (.resolve moduleFile)
  let stemYaml := resolved.parent.child (paramsYamlFilenameForModule moduleFile)
  let hasStem : Bool ← call w handler (.isFile stemYaml)
  if hasStem then
    pure (some stemYaml)
  else do
    let legacy := resolved.parent.child "params.yaml"
    let hasLegacy : Bool ← call w handler (.isFile legacy)
    pure (if hasLegacy then some legacy else none)

/-! ## Providers -/

def registryLocalUriPrefix : String :=
  "registry-local:///"

/-- {lit}`text.lstrip("/")`. -/
def lstripSlash (text : String) : String :=
  String.ofList (text.toList.dropWhile fun c => c = '/')

/-- {lit}`raise ArtifactProviderFetchError(...)`. -/
def raiseFetchError {α : Type} : Stage α :=
  raise (.other .artifactProviderFetchError)

/-- {lit}`resolve_registry_local_uri_to_path(artifact_uri, local_base=...)`. -/
def resolveRegistryLocalUriToPath (w : World) (handler : Option Handler) (artifactUri : String)
    (localBase : PyPath) : Stage PyPath :=
  let raw := strip artifactUri
  if ¬ registryLocalUriPrefix.toList.isPrefixOf raw.toList then raiseFetchError
  else
    let rest := lstripSlash (String.ofList (raw.toList.drop registryLocalUriPrefix.length))
    if rest = "" then raiseFetchError
    else do
      let base : PyPath ← call w handler (.resolve localBase)
      if ¬ base.isAbsolute then
        raiseFetchError
      else if (PyPath.splitText '/' rest).any fun seg => seg = "" ∨ seg = ".." then
        raiseFetchError
      else
        pure (base.joinpath (PyPath.splitText '/' rest))

/-- {lit}`_resolve_source_path(artifact_reference)` of the local provider. -/
def resolveSourcePath (w : World) (handler : Option Handler) (artifactReference : String) :
    Stage PyPath := do
  let parsed : ParsedUrl ← call w handler (.urlparse artifactReference)
  if parsed.scheme = "file" then do
    let rawPath : String ← call w handler (.unquote parsed.path)
    if parsed.netloc ≠ "" then
      pure (PyPath.ofText ("//" ++ parsed.netloc ++ rawPath))
    else
      match rawPath.toList with
      | '/' :: drive :: ':' :: rest => pure (PyPath.ofText (String.ofList (drive :: ':' :: rest)))
      | _ => pure (PyPath.ofText rawPath)
  else if parsed.scheme ≠ "" then
    raiseFetchError
  else
    pure (PyPath.ofText artifactReference)

/-- A copy of an entry of a directory. -/
def copyDirectoryEntry (w : World) (handler : Option Handler) (destinationRoot entry : PyPath) :
    Stage Unit := do
  let destination := destinationRoot.child entry.name
  let isDir : Bool ← call w handler (.isDir entry)
  if isDir then call w handler (.copytree entry destination)
  else call w handler (.copy2 entry destination)

/-- {lit}`if path.exists(): shutil.rmtree(path)`. -/
def removeTree (w : World) (handler : Option Handler) (path : PyPath) : Stage Unit := do
  let there : Bool ← call w handler (.pathExists path)
  if there then call w handler (.rmtree path) else pure ()

/-- {lit}`_materialize(source=..., destination_root=...)`. -/
def materialize (w : World) (handler : Option Handler) (source destinationRoot : PyPath) :
    Stage Unit := do
  removeTree w handler destinationRoot
  call w handler (.mkdir destinationRoot)
  let isDir : Bool ← call w handler (.isDir source)
  if isDir then do
    let entries : List PyPath ← call w handler (.iterdir source)
    forEach (copyDirectoryEntry w handler destinationRoot)
      (entries.mergeSort fun p q => p.name ≤ q.name)
  else do
    call w handler (.copy2 source (destinationRoot.child source.name))
    match ← discoverParamsYaml w handler source with
    | none => pure ()
    | some params => call w handler (.copy2 params (destinationRoot.child params.name))

/-- The names that the digest of a single file covers, each once. -/
def digestRelativePaths (w : World) (handler : Option Handler) (sourcePath : PyPath) :
    Stage (Option (List String)) := do
  let isFile : Bool ← call w handler (.isFile sourcePath)
  if isFile then do
    let sibling ← discoverParamsYaml w handler sourcePath
    pure (some (sourcePath.name :: sibling.toList.map PyPath.name).dedup)
  else
    pure none

/-- {lit}`LocalArtifactProvider.fetch(artifact_reference=..., target_dir=...)`. -/
def localFetch (w : World) (handler : Option Handler) (artifactReference : String)
    (targetDir : PyPath) : Stage ArtifactMaterialization := do
  let sourcePath ← resolveSourcePath w handler artifactReference
  let there : Bool ← call w handler (.pathExists sourcePath)
  if ¬ there then
    raise (.other .artifactProviderNotFoundError)
  else do
    call w handler (.mkdir targetDir)
    materialize w handler sourcePath targetDir
    let relativePaths ← digestRelativePaths w handler sourcePath
    pure {
      sourceReference := artifactReference
      materializedRoot := targetDir
      provenance := [("provider", "local"), ("source_path", sourcePath.text)]
      digestRelativePaths := relativePaths }

/-- {lit}`{**provenance, "provider": ..., ...}` of texts. -/
def withEntries (provenance entries : List (String × String)) : List (String × String) :=
  provenance.filter (fun f => f.1 ∉ entries.map Prod.fst) ++ entries

/-- {lit}`RegistryLocalArtifactProvider.fetch(artifact_reference=..., target_dir=...)`. -/
def registryLocalFetch (w : World) (handler : Option Handler) (localBase : PyPath)
    (artifactReference : String) (targetDir : PyPath) : Stage ArtifactMaterialization := do
  let sourcePath ← resolveRegistryLocalUriToPath w handler artifactReference localBase
  let resolved : PyPath ← call w handler (.resolve sourcePath)
  let uri : String ← call w handler (.asUri resolved)
  let mat ← localFetch w handler uri targetDir
  pure { mat with
    sourceReference := artifactReference
    provenance := withEntries mat.provenance
      [("provider", "registry-local"), ("registry_local_base", localBase.text),
        ("resolved_path", sourcePath.text)] }

/-- The providers of a fetcher. -/
inductive ArtifactProvider where
  /-- {lit}`LocalArtifactProvider`. -/
  | fileSystem
  | registryLocal (localBase : PyPath)
  /-- A provider that is not one of the runtime's own. -/
  | custom (name : String)

/-- {lit}`provider.fetch(artifact_reference=..., target_dir=...)`. -/
def ArtifactProvider.fetch (w : World) (handler : Option Handler) (artifactReference : String)
    (targetDir : PyPath) : ArtifactProvider → Stage ArtifactMaterialization
  | fileSystem => localFetch w handler artifactReference targetDir
  | registryLocal localBase => registryLocalFetch w handler localBase artifactReference targetDir
  | custom name => call w handler (.fetchFrom name artifactReference targetDir)

/-! ## The fetcher -/

/-- {lit}`ArtifactFetchResult`; its diagnostics are read by nothing. -/
structure ArtifactFetchResult where
  artifactReference : String
  materializedRoot : PyPath
  expectedDigest : Option String
  digestRelativePaths : Option (List String)
  preverifiedDigest : Bool

/-- The fetcher: the base that is given for the registry is resolved already. -/
structure ArtifactFetcher where
  workRoot : PyPath
  providers : List (String × ArtifactProvider)
  strategyBundleBase : Option PyPath
  artifactLocalBase : Option PyPath

namespace ArtifactFetcher

/-- {lit}`ArtifactFetchFailure(...)`, raised. -/
def fetchFailure {α : Type} (reasonCode message : String) (retryable : Bool) (details : PyDict) :
    Stage α :=
  fail .artifactFetch reasonCode message retryable details

/-- {lit}`_resolve_local_artifact_path(artifact_uri, base_dir)`. -/
def resolveLocalArtifactPath (w : World) (handler : Option Handler) (artifactUri : String)
    (baseDir : PyPath) : Stage (Option PyPath) :=
  let raw := strip artifactUri
  if raw = "" then pure none
  else if "file://".toList.isPrefixOf raw.toList then do
    let parsed : ParsedUrl ← call w handler (.urlparse raw)
    let path : String ← call w handler (.url2pathname parsed.path)
    let localPath := PyPath.ofText path
    if ¬ localPath.isAbsolute then do
      let resolved : PyPath ← call w handler (.resolve (baseDir.join localPath))
      pure (some resolved)
    else
      pure (some localPath)
  else do
    let p := PyPath.ofText raw
    let resolved : PyPath ← call w handler (.resolve (baseDir.join p))
    pure (some resolved)

/-- The checks of the name of an entry, and the path that it is extracted to. -/
def entryTarget (w : World) (zipPath destResolved : PyPath) (name : String) : Stage PyPath :=
  let details : PyDict := [("zip_path", .str zipPath.text), ("entry", .str name)]
  if name = "" ∨ name.toList.head? = some '/' then
    fetchFailure "artifact_unsafe_zip" "Zip entry has an unsafe path." false details
  else
    let rel := PyPath.ofText name
    if ".." ∈ rel.parts then
      fetchFailure "artifact_unsafe_zip" "Zip entry escapes target directory." false details
    else do
      let target : PyPath ← call w none (.resolve (destResolved.join rel))
      match target.relativeTo? destResolved with
      | none =>
          fetchFailure "artifact_unsafe_zip" "Zip entry resolves outside strategy_bundle." false
            details
      | some _ => pure target

/-- {lit}`for info in zf.infolist()`: one entry; a name with a slash at its end is a directory. -/
def extractEntry (w : World) (zipPath destResolved : PyPath) (name : String) : Stage Unit := do
  let target ← entryTarget w zipPath destResolved name
  if name.toList.getLast? = some '/' then
    call w none (.mkdir target)
  else do
    call w none (.mkdir target.parent)
    call w none (.openEntry zipPath name)
    call w none (.openTarget target)
    call w none (.copyEntry zipPath name target)

/-- {lit}`_extract_zip_to_directory(zip_path, dest_dir)`. -/
def extractZipToDirectory (w : World) (zipPath destDir : PyPath) : Stage Unit := do
  call w none (.mkdir destDir)
  let destResolved : PyPath ← call w none (.resolve destDir)
  let names : List String ← call w none (.openZip zipPath)
  forEach (extractEntry w zipPath destResolved) names

/-- {lit}`_parse_sha256_digest(digest)`. -/
def parseSha256Digest (digest : String) : Stage (String × String) :=
  if digest.toList.count ':' ≠ 1 then
    fetchFailure "digest_unsupported" "Digest must be algorithm:hex." false
      [("artifact_digest", .str digest)]
  else
    let algo := lower (strip (String.ofList (digest.toList.takeWhile fun c => c ≠ ':')))
    let hexPart := lower (strip (String.ofList ((digest.toList.dropWhile fun c => c ≠ ':').drop 1)))
    if algo ≠ "sha256" ∨ hexPart = "" ∨ hexPart.toList.any fun c => c ∉ hexDigits then
      fetchFailure "digest_unsupported"
        "Verified zip artifacts require a lowercase sha256:hex digest." false
        [("artifact_digest", .str digest)]
    else
      pure (algo, hexPart)

/-- The texts of the messages that differ between the two kinds of zips. -/
structure ZipMessages where
  digestRequired : String
  digestUnsupported : String
  digestMismatch : String

/-- {lit}`_verified_zip_extract(...)`. -/
def verifiedZipExtract (w : World) (zipResolved : PyPath) (launchSpec : LaunchSpec)
    (extractRoot : PyPath) (messages : ZipMessages) : Stage ArtifactFetchResult := do
  let expected := launchSpec.artifactDigest.getD ""
  let extracted (expectedDigest : Option String) : ArtifactFetchResult :=
    ⟨launchSpec.artifactUri, extractRoot, expectedDigest, none, true⟩
  if strip expected = "" then
    if ¬ skipArtifactDigestValidation then
      fetchFailure "expected_digest_missing" messages.digestRequired false
        [("artifact_uri", .str launchSpec.artifactUri), ("zip_path", .str zipResolved.text)]
    else do
      extractZipToDirectory w zipResolved extractRoot
      pure (extracted none)
  else if skipArtifactDigestValidation then do
    extractZipToDirectory w zipResolved extractRoot
    pure (extracted (some (strip expected)))
  else do
    let (algo, expectedHex) ← parseSha256Digest expected
    if algo ≠ "sha256" then
      fetchFailure "digest_unsupported" messages.digestUnsupported false
        [("artifact_digest", .str expected), ("algorithm", .str algo)]
    else do
      let bytes : List Nat ← call w none (.readBytes zipResolved)
      let actualHex := String.ofList ((Sha256.digest bytes).flatMap (hexText 8))
      if actualHex ≠ expectedHex then
        fetchFailure "digest_mismatch" messages.digestMismatch false
          [("artifact_uri", .str launchSpec.artifactUri), ("zip_path", .str zipResolved.text),
            ("expected_digest", .str expected), ("actual_digest", .str ("sha256:" ++ actualHex))]
      else do
        extractZipToDirectory w zipResolved extractRoot
        pure (extracted (some expected))

/-- {lit}`zip_path is None or zip_path.suffix.lower() != ".zip" or not zip_path.is_file()`. -/
def isZipFile (w : World) (zipPath : Option PyPath) : Stage (Option PyPath) :=
  match zipPath with
  | none => pure none
  | some path =>
      if lower path.suffix ≠ ".zip" then pure none
      else do
        let isFile : Bool ← call w none (.isFile path)
        pure (if isFile then some path else none)

/-- The resolved path of a zip, when it is inside the bundle's directory. -/
def bundlePath (w : World) (bundleRoot zipPath : PyPath) : Stage (Option PyPath) :=
  catchWith (do
      let zipResolved : PyPath ← call w (some .bundlePath) (.resolve zipPath)
      pure ((zipResolved.relativeTo? bundleRoot).map fun _ => zipResolved))
    fun x => if Handler.bundlePath.catches x then pure none else raise x

/-- {lit}`_maybe_fetch_strategy_bundle_zip(launch_spec)`. -/
def maybeFetchStrategyBundleZip (w : World) (fetcher : ArtifactFetcher) (launchSpec : LaunchSpec) :
    Stage (Option ArtifactFetchResult) :=
  match fetcher.strategyBundleBase with
  | none => pure none
  | some base => do
      let bundleRoot : PyPath ← call w none (.resolve (base.child "strategy_bundle"))
      let candidate ← resolveLocalArtifactPath w none launchSpec.artifactUri base
      match ← isZipFile w candidate with
      | none => pure none
      | some zipPath =>
          match ← bundlePath w bundleRoot zipPath with
          | none => pure none
          | some zipResolved => do
              let result ← verifiedZipExtract w zipResolved launchSpec bundleRoot {
                digestRequired := "artifact_digest is required to verify strategy_bundle zip."
                digestUnsupported := "strategy_bundle zip verification requires sha256:… digest."
                digestMismatch := "strategy_bundle zip SHA-256 does not match artifact_digest." }
              pure (some result)

/-- {lit}`_materialization_dir(launch_spec=...)`. -/
def materializationDir (fetcher : ArtifactFetcher) (launchSpec : LaunchSpec) : PyPath :=
  (fetcher.workRoot.child (launchSpec.runtimeId ++ "-" ++ toString launchSpec.launchAttempt)).child
    "artifact"

/-- {lit}`_relative_artifact_base()`. -/
def relativeArtifactBase (w : World) (handler : Option Handler) (fetcher : ArtifactFetcher) :
    Stage PyPath :=
  match fetcher.strategyBundleBase with
  | some base => call w handler (.resolve base)
  | none => call w handler .cwd

/-- {lit}`_resolve_artifact_zip_path(launch_spec)`. -/
def resolveArtifactZipPath (w : World) (handler : Option Handler) (fetcher : ArtifactFetcher)
    (launchSpec : LaunchSpec) : Stage (Option PyPath) :=
  let uri := strip launchSpec.artifactUri
  if uri = "" then pure none
  else if registryLocalUriPrefix.toList.isPrefixOf uri.toList then
    match fetcher.artifactLocalBase with
    | none => pure none
    | some localBase => do
        let path ← resolveRegistryLocalUriToPath w handler uri localBase
        pure (some path)
  else do
    let base ← fetcher.relativeArtifactBase w handler
    resolveLocalArtifactPath w handler uri base

/-- The clause around the path of a zip. -/
def zipPathFailure (w : World) (launchSpec : LaunchSpec) (x : Raised) : Stage (Option PyPath) :=
  if Handler.zipPath.catches x then do
    let text : String ← call w none .strOfException
    fetchFailure "artifact_fetch_failed" "Could not resolve artifact_uri to a local zip path." false
      [("artifact_uri", .str launchSpec.artifactUri), ("provider_error", .str text)]
  else raise x

/-- {lit}`_maybe_fetch_generic_verified_zip(launch_spec)`. -/
def maybeFetchGenericVerifiedZip (w : World) (fetcher : ArtifactFetcher) (launchSpec : LaunchSpec) :
    Stage (Option ArtifactFetchResult) := do
  let candidate ← catchWith (fetcher.resolveArtifactZipPath w (some .zipPath) launchSpec)
    (zipPathFailure w launchSpec)
  match ← isZipFile w candidate with
  | none => pure none
  | some zipPath => do
      let zipResolved : PyPath ← call w none (.resolve zipPath)
      let result ← verifiedZipExtract w zipResolved launchSpec
        (fetcher.materializationDir launchSpec) {
          digestRequired := "artifact_digest is required to verify artifact zip."
          digestUnsupported := "artifact zip verification requires sha256:… digest."
          digestMismatch := "artifact zip SHA-256 does not match artifact_digest." }
      pure (some result)

/-- The provider of a scheme. -/
def provider? (fetcher : ArtifactFetcher) (scheme : String) : Option ArtifactProvider :=
  (fetcher.providers.find? fun p => p.1 = scheme).map Prod.snd

/-- {lit}`_resolve_provider(artifact_reference)`. -/
def resolveProvider (w : World) (fetcher : ArtifactFetcher) (artifactReference : String) :
    Stage ArtifactProvider := do
  let parsed : ParsedUrl ← call w none (.urlparse artifactReference)
  match fetcher.provider? parsed.scheme, fetcher.provider? "" with
  | some provider, _ => pure provider
  | none, plain =>
      match plain, (':' ∈ artifactReference.toList : Bool) with
      | some provider, false => pure provider
      | _, _ =>
          fetchFailure "artifact_provider_unsupported"
            "No approved provider is registered for artifact reference." false
            [("artifact_reference", .str artifactReference), ("scheme", .str parsed.scheme)]

/-- The clauses around {lit}`provider.fetch`. -/
def providerFailure (w : World) (launchSpec : LaunchSpec) (x : Raised) :
    Stage ArtifactMaterialization :=
  match x with
  | .other .artifactProviderNotFoundError => do
      let text : String ← call w none .strOfException
      fetchFailure "artifact_not_found" "Artifact could not be located by approved provider." false
        [("artifact_uri", .str launchSpec.artifactUri),
          ("launch_attempt", .int launchSpec.launchAttempt), ("provider_error", .str text)]
  | .other .artifactProviderAccessDeniedError => do
      let text : String ← call w none .strOfException
      fetchFailure "artifact_access_denied" "Artifact access was denied by provider policy." false
        [("artifact_uri", .str launchSpec.artifactUri), ("provider_error", .str text)]
  | .other .artifactProviderFetchError => do
      let text : String ← call w none .strOfException
      fetchFailure "artifact_fetch_failed" "Artifact fetch failed before bootstrap execution." true
        [("artifact_uri", .str launchSpec.artifactUri), ("provider_error", .str text)]
  | .other .osError => do
      let text : String ← call w none .strOfException
      let name : String ← call w none .nameOfException
      fetchFailure "artifact_materialization_failed"
        "Artifact fetch failed during local materialization." true
        [("artifact_uri", .str launchSpec.artifactUri), ("os_error", .str text),
          ("exception_type", .str name)]
  | x => raise x

/-- The part of {lit}`fetch` that asks a provider. -/
def fetchFromProvider (w : World) (fetcher : ArtifactFetcher) (launchSpec : LaunchSpec) :
    Stage ArtifactFetchResult := do
  let provider ← fetcher.resolveProvider w launchSpec.artifactUri
  let materialization ← catchWith
    (provider.fetch w (some .provider) launchSpec.artifactUri
      (fetcher.materializationDir launchSpec))
    (providerFailure w launchSpec)
  pure ⟨materialization.sourceReference, materialization.materializedRoot,
    launchSpec.artifactDigest, materialization.digestRelativePaths, false⟩

/-- {lit}`fetch(launch_spec)`. -/
def fetch (w : World) (fetcher : ArtifactFetcher) (launchSpec : LaunchSpec) :
    Stage ArtifactFetchResult := do
  match ← fetcher.maybeFetchStrategyBundleZip w launchSpec with
  | some result => pure result
  | none =>
      if registryLocalUriPrefix.toList.isPrefixOf (strip launchSpec.artifactUri).toList ∧
          fetcher.artifactLocalBase = none then
        fetchFailure "artifact_fetch_failed"
          ("registry-local artifact_uri requires SWR_ARTIFACT_LOCAL_BASE_PATH " ++
            "or ARTIFACT_LOCAL_BASE_PATH (absolute directory matching strategy-registry).") false
          [("artifact_uri", .str launchSpec.artifactUri), ("scheme", .str "registry-local")]
      else do
        match ← fetcher.maybeFetchGenericVerifiedZip w launchSpec with
        | some result => pure result
        | none => fetcher.fetchFromProvider w launchSpec

end ArtifactFetcher

/-! ## What is converted -/

section Providers

variable {handler : Option Handler}

theorem converts_discoverParamsYaml (w : World) (moduleFile : PyPath) :
    ConvertsUnder handler (discoverParamsYaml w handler moduleFile) := by
  refine Converts.bind (converts_call w _) fun resolved => ?_
  refine Converts.bind (converts_call w _) fun hasStem => ?_
  refine Converts.ite (Converts.pure _) ?_
  exact Converts.bind (converts_call w _) fun hasLegacy => Converts.pure _

theorem converts_materialize (w : World) (source destinationRoot : PyPath) :
    ConvertsUnder handler (materialize w handler source destinationRoot) := by
  have hremove : ConvertsUnder handler (removeTree w handler destinationRoot) :=
    Converts.bind (converts_call w _) fun there =>
      Converts.ite (converts_call w _) (Converts.pure _)
  have hcopy : ∀ entry, ConvertsUnder handler
      (copyDirectoryEntry w handler destinationRoot entry) := fun entry =>
    Converts.bind (converts_call w _) fun isDir =>
      Converts.ite (converts_call w _) (converts_call w _)
  refine Converts.bind hremove fun _ => ?_
  refine Converts.bind (converts_call w _) fun _ => ?_
  refine Converts.bind (converts_call w _) fun isDir => ?_
  refine Converts.ite ?_ ?_
  · refine Converts.bind (converts_call w _) fun entries => ?_
    exact Converts.forEach fun entry _ => hcopy entry
  · refine Converts.bind (converts_call w _) fun _ => ?_
    refine Converts.bind (converts_discoverParamsYaml w _) fun params => ?_
    cases params with
    | none => exact Converts.pure _
    | some path => exact converts_call w _

variable (hfetch : Converted handler (.other .artifactProviderFetchError))
include hfetch

theorem converts_resolveRegistryLocalUriToPath (w : World) (artifactUri : String)
    (localBase : PyPath) :
    ConvertsUnder handler (resolveRegistryLocalUriToPath w handler artifactUri localBase) := by
  unfold resolveRegistryLocalUriToPath
  refine Converts.ite (Converts.raise hfetch) ?_
  refine Converts.ite (Converts.raise hfetch) ?_
  refine Converts.bind (converts_call w _) fun base => ?_
  refine Converts.ite (Converts.raise hfetch) ?_
  exact Converts.ite (Converts.raise hfetch) (Converts.pure _)

theorem converts_resolveSourcePath (w : World) (artifactReference : String) :
    ConvertsUnder handler (resolveSourcePath w handler artifactReference) := by
  refine Converts.bind (converts_call w _) fun parsed => ?_
  refine Converts.ite ?_ (Converts.ite (Converts.raise hfetch) (Converts.pure _))
  refine Converts.bind (converts_call w _) fun rawPath => ?_
  refine Converts.ite (Converts.pure _) ?_
  split <;> exact Converts.pure _

variable (hmissing : Converted handler (.other .artifactProviderNotFoundError))
include hmissing

theorem converts_localFetch (w : World) (artifactReference : String) (targetDir : PyPath) :
    ConvertsUnder handler (localFetch w handler artifactReference targetDir) := by
  refine Converts.bind (converts_resolveSourcePath hfetch w _) fun sourcePath => ?_
  refine Converts.bind (converts_call w _) fun there => ?_
  refine Converts.ite (Converts.raise hmissing) ?_
  refine Converts.bind (converts_call w _) fun _ => ?_
  refine Converts.bind (converts_materialize w _ _) fun _ => ?_
  refine Converts.bind ?_ fun relativePaths => Converts.pure _
  refine Converts.bind (converts_call w _) fun isFile => ?_
  refine Converts.ite ?_ (Converts.pure _)
  exact Converts.bind (converts_discoverParamsYaml w _) fun sibling => Converts.pure _

theorem converts_registryLocalFetch (w : World) (localBase : PyPath) (artifactReference : String)
    (targetDir : PyPath) :
    ConvertsUnder handler (registryLocalFetch w handler localBase artifactReference targetDir) := by
  refine Converts.bind (converts_resolveRegistryLocalUriToPath hfetch w _ _) fun sourcePath => ?_
  refine Converts.bind (converts_call w _) fun resolved => ?_
  refine Converts.bind (converts_call w _) fun uri => ?_
  exact Converts.bind (converts_localFetch hfetch hmissing w _ _) fun mat => Converts.pure _

/-- A provider raises nothing of its own but that the artifact is missing or cannot be fetched. -/
theorem converts_providerFetch (w : World) (artifactReference : String) (targetDir : PyPath)
    (provider : ArtifactProvider) :
    ConvertsUnder handler (provider.fetch w handler artifactReference targetDir) := by
  cases provider with
  | fileSystem => exact converts_localFetch hfetch hmissing w _ _
  | registryLocal localBase => exact converts_registryLocalFetch hfetch hmissing w _ _ _
  | custom name => exact converts_call w _

end Providers

namespace ArtifactFetcher

variable {handler : Option Handler}

theorem converts_resolveLocalArtifactPath (w : World) (artifactUri : String) (baseDir : PyPath) :
    ConvertsUnder handler (resolveLocalArtifactPath w handler artifactUri baseDir) := by
  unfold resolveLocalArtifactPath
  refine Converts.ite (Converts.pure _) (Converts.ite ?_ ?_)
  · refine Converts.bind (converts_call w _) fun parsed => ?_
    refine Converts.bind (converts_call w _) fun path => ?_
    refine Converts.ite ?_ (Converts.pure _)
    exact Converts.bind (converts_call w _) fun resolved => Converts.pure _
  · exact Converts.bind (converts_call w _) fun resolved => Converts.pure _

/-! ### Zips -/

theorem converts_entryTarget (w : World) (zipPath destResolved : PyPath) (name : String) :
    ConvertsUnder none (entryTarget w zipPath destResolved name) := by
  have hunsafe : "artifact_unsafe_zip" ∈ stageReasons := by simp [stageReasons]
  unfold entryTarget
  refine Converts.ite (converts_fail hunsafe rfl) ?_
  refine Converts.ite (converts_fail hunsafe rfl) ?_
  refine Converts.bind (converts_call w _) fun target => ?_
  split
  · exact converts_fail hunsafe rfl
  · exact Converts.pure _

theorem converts_extractEntry (w : World) (zipPath destResolved : PyPath) (name : String) :
    ConvertsUnder none (extractEntry w zipPath destResolved name) := by
  refine Converts.bind (converts_entryTarget w _ _ _) fun target => ?_
  refine Converts.ite (converts_call w _) ?_
  refine Converts.bind (converts_call w _) fun _ => ?_
  refine Converts.bind (converts_call w _) fun _ => ?_
  exact Converts.bind (converts_call w _) fun _ => converts_call w _

/-- No clause converts what the extraction of a zip raises beside unsafe names. -/
theorem converts_extractZipToDirectory (w : World) (zipPath destDir : PyPath) :
    ConvertsUnder none (extractZipToDirectory w zipPath destDir) := by
  refine Converts.bind (converts_call w _) fun _ => ?_
  refine Converts.bind (converts_call w _) fun destResolved => ?_
  refine Converts.bind (converts_call w _) fun names => ?_
  exact Converts.forEach fun name _ => converts_extractEntry w _ _ name

theorem converts_parseSha256Digest (digest : String) :
    ConvertsUnder handler (parseSha256Digest digest) := by
  have hunsupported : "digest_unsupported" ∈ stageReasons := by simp [stageReasons]
  unfold parseSha256Digest
  refine Converts.ite (converts_fail hunsupported rfl) ?_
  exact Converts.ite (converts_fail hunsupported rfl) (Converts.pure _)

theorem converts_verifiedZipExtract (w : World) (zipResolved : PyPath) (launchSpec : LaunchSpec)
    (extractRoot : PyPath) (messages : ZipMessages) :
    ConvertsUnder none (verifiedZipExtract w zipResolved launchSpec extractRoot messages) := by
  have hextract := converts_extractZipToDirectory w zipResolved extractRoot
  unfold verifiedZipExtract
  refine Converts.ite (Converts.ite ?_ ?_) (Converts.ite ?_ ?_)
  · exact converts_fail (by simp [stageReasons]) rfl
  · exact Converts.bind hextract fun _ => Converts.pure _
  · exact Converts.bind hextract fun _ => Converts.pure _
  · refine Converts.bind (converts_parseSha256Digest _) fun parsed => ?_
    rcases parsed with ⟨algo, expectedHex⟩
    refine Converts.ite (converts_fail (by simp [stageReasons]) rfl) ?_
    refine Converts.bind (converts_call w _) fun bytes => ?_
    refine Converts.ite (converts_fail (by simp [stageReasons]) rfl) ?_
    exact Converts.bind hextract fun _ => Converts.pure _

theorem converts_isZipFile (w : World) (zipPath : Option PyPath) :
    ConvertsUnder none (isZipFile w zipPath) := by
  unfold isZipFile
  split
  · exact Converts.pure _
  · refine Converts.ite (Converts.pure _) ?_
    exact Converts.bind (converts_call w _) fun isFile => Converts.pure _

theorem converts_bundlePath (w : World) (bundleRoot zipPath : PyPath) :
    ConvertsUnder none (bundlePath w bundleRoot zipPath) := by
  refine converts_try
    (Converts.bind (converts_call w _) fun zipResolved => Converts.pure _) (fun x hx => ?_)
    (fun x hx => ?_)
  · rw [if_pos hx]
    exact Converts.pure _
  · simp [hx]

theorem converts_maybeFetchStrategyBundleZip (w : World) (fetcher : ArtifactFetcher)
    (launchSpec : LaunchSpec) :
    ConvertsUnder none (fetcher.maybeFetchStrategyBundleZip w launchSpec) := by
  unfold maybeFetchStrategyBundleZip
  cases fetcher.strategyBundleBase with
  | none => exact Converts.pure _
  | some base =>
      refine Converts.bind (converts_call w _) fun bundleRoot => ?_
      refine Converts.bind (converts_resolveLocalArtifactPath w _ _) fun candidate => ?_
      refine Converts.bind (converts_isZipFile w _) fun zipPath => ?_
      cases zipPath with
      | none => exact Converts.pure _
      | some zipPath =>
          refine Converts.bind (converts_bundlePath w _ _) fun zipResolved => ?_
          cases zipResolved with
          | none => exact Converts.pure _
          | some zipResolved =>
              exact Converts.bind (converts_verifiedZipExtract w _ _ _ _) fun _ => Converts.pure _

theorem converts_resolveArtifactZipPath (w : World) (fetcher : ArtifactFetcher)
    (launchSpec : LaunchSpec) (hfetch : Converted handler (.other .artifactProviderFetchError)) :
    ConvertsUnder handler (fetcher.resolveArtifactZipPath w handler launchSpec) := by
  have hbase : ConvertsUnder handler (fetcher.relativeArtifactBase w handler) := by
    unfold relativeArtifactBase
    cases fetcher.strategyBundleBase with
    | none => exact converts_call w _
    | some base => exact converts_call w _
  unfold resolveArtifactZipPath
  refine Converts.ite (Converts.pure _) (Converts.ite ?_ ?_)
  · cases fetcher.artifactLocalBase with
    | none => exact Converts.pure _
    | some localBase =>
        exact Converts.bind (converts_resolveRegistryLocalUriToPath hfetch w _ _) fun path =>
          Converts.pure _
  · exact Converts.bind hbase fun base => converts_resolveLocalArtifactPath w _ _

theorem converts_maybeFetchGenericVerifiedZip (w : World) (fetcher : ArtifactFetcher)
    (launchSpec : LaunchSpec) :
    ConvertsUnder none (fetcher.maybeFetchGenericVerifiedZip w launchSpec) := by
  have hcandidate : ConvertsUnder none
      (catchWith (fetcher.resolveArtifactZipPath w (some .zipPath) launchSpec)
        (zipPathFailure w launchSpec)) := by
    refine converts_try (converts_resolveArtifactZipPath w _ _ (.inl rfl)) (fun x hx => ?_)
      (fun x hx => ?_)
    · rw [zipPathFailure, if_pos hx]
      refine Converts.bind (converts_call w _) fun text => ?_
      exact converts_fail (by simp [stageReasons]) rfl
    · simp [zipPathFailure, hx]
  refine Converts.bind hcandidate fun candidate => ?_
  refine Converts.bind (converts_isZipFile w _) fun zipPath => ?_
  cases zipPath with
  | none => exact Converts.pure _
  | some zipPath =>
      refine Converts.bind (converts_call w _) fun zipResolved => ?_
      exact Converts.bind (converts_verifiedZipExtract w _ _ _ _) fun _ => Converts.pure _

/-! ### Providers -/

theorem converts_resolveProvider (w : World) (fetcher : ArtifactFetcher)
    (artifactReference : String) :
    ConvertsUnder none (fetcher.resolveProvider w artifactReference) := by
  refine Converts.bind (converts_call w _) fun parsed => ?_
  split
  · exact Converts.pure _
  · split
    · exact Converts.pure _
    · exact converts_fail (by simp [stageReasons]) rfl

/-- Four classes of exceptions of a provider become failures. -/
theorem converts_providerFailure (w : World) (launchSpec : LaunchSpec) {x : Raised}
    (h : Handler.provider.catches x = true) :
    ConvertsUnder none (providerFailure w launchSpec x) := by
  cases x with
  | failure f => cases h
  | other c =>
      cases c with
      | artifactProviderNotFoundError =>
          exact Converts.bind (converts_call w _) fun _ => converts_fail (by simp [stageReasons]) rfl
      | artifactProviderAccessDeniedError =>
          exact Converts.bind (converts_call w _) fun _ => converts_fail (by simp [stageReasons]) rfl
      | artifactProviderFetchError =>
          exact Converts.bind (converts_call w _) fun _ => converts_fail (by simp [stageReasons]) rfl
      | osError =>
          refine Converts.bind (converts_call w _) fun _ => ?_
          exact Converts.bind (converts_call w _) fun _ => converts_fail (by simp [stageReasons]) rfl
      | valueError | exception | baseException => cases h

/-- The other exceptions of a provider go past its clauses. -/
theorem providerFailure_eq_raise (w : World) (launchSpec : LaunchSpec) {x : Raised}
    (h : Handler.provider.catches x = false) : providerFailure w launchSpec x = raise x := by
  cases x with
  | failure f => rfl
  | other c => cases c <;> first | rfl | cases h

theorem converts_fetchFromProvider (w : World) (fetcher : ArtifactFetcher)
    (launchSpec : LaunchSpec) : ConvertsUnder none (fetcher.fetchFromProvider w launchSpec) := by
  refine Converts.bind (converts_resolveProvider w _ _) fun provider => ?_
  refine Converts.bind ?_ fun materialization => Converts.pure _
  refine converts_try (converts_providerFetch (.inl rfl) (.inl rfl) w _ _ _) (fun x hx => ?_)
    (fun x hx => ?_)
  · exact converts_providerFailure w launchSpec hx
  · exact providerFailure_eq_raise w launchSpec hx

/-- What is raised while the artifact is fetched. -/
theorem converts_fetch (w : World) (fetcher : ArtifactFetcher) (launchSpec : LaunchSpec) :
    ConvertsUnder none (fetcher.fetch w launchSpec) := by
  refine Converts.bind (converts_maybeFetchStrategyBundleZip w _ _) fun bundled => ?_
  cases bundled with
  | some result => exact Converts.pure _
  | none =>
      refine Converts.ite (converts_fail (by simp [stageReasons]) rfl) ?_
      refine Converts.bind (converts_maybeFetchGenericVerifiedZip w _ _) fun zipped => ?_
      cases zipped with
      | some result => exact Converts.pure _
      | none => exact converts_fetchFromProvider w _ _

end ArtifactFetcher
end Bootstrap
end StrategyWorker
