import StrategyWorker.Bootstrap.ArtifactFetcher

/-!
# Verifying the artifact

{lit}`ArtifactVerifier.verify` compares the digest of the materialized artifact
with the expected one, unless the validation of digests is skipped.

Main results:

- Theorem {lit}`converts_verify`: only an unknown algorithm is converted here.
-/

namespace StrategyWorker
namespace Bootstrap

open Library
open PyText Logged

namespace ArtifactVerifier

/-- {lit}`ArtifactVerificationFailure(...)`, raised. -/
def verificationFailure {α : Type} (reasonCode message : String) (details : PyDict) : Stage α :=
  fail .artifactVerify reasonCode message false details

/-- {lit}`_unsupported_digest_failure(digest=..., reason=..., algorithm=...)`. -/
def unsupportedDigestFailure {α : Type} (digest reason : String) (algorithm : Option String) :
    Stage α :=
  verificationFailure "digest_unsupported" "Digest format or algorithm is not supported."
    [("expected_digest", .str digest), ("reason", .str reason),
      ("algorithm", algorithm.elim .none .str)]

/-- {lit}`hashlib.new(algorithm)` in a {lit}`try` statement. -/
def checkAlgorithm (w : World) (digest algorithm : String) : Stage Unit :=
  catchWith (call w (some .algorithm) (.hashlibNew algorithm)) fun x =>
    if Handler.algorithm.catches x then
      unsupportedDigestFailure digest "unsupported_hash_algorithm" (some algorithm)
    else raise x

/-- {lit}`_parse_digest(digest)`. -/
def parseDigest (w : World) (digest : String) : Stage (String × String) :=
  if digest.toList.count ':' ≠ 1 then
    unsupportedDigestFailure digest "expected_format_algorithm_colon_hex" none
  else
    let algorithm := lower (strip (String.ofList (digest.toList.takeWhile fun c => c ≠ ':')))
    let hex := lower (strip (String.ofList ((digest.toList.dropWhile fun c => c ≠ ':').drop 1)))
    if algorithm = "" ∨ hex = "" then
      unsupportedDigestFailure digest "algorithm_or_hex_missing" none
    else if hex.toList.any fun c => c ∉ hexDigits then
      unsupportedDigestFailure digest "digest_hex_not_lowercase_hexadecimal" none
    else do
      checkAlgorithm w digest algorithm
      pure (algorithm, hex)

/-- A path and a null byte, then the bytes of the file. -/
def hashNamed (w : World) (name : String) (path : PyPath) : Stage (List Nat) := do
  let nameBytes : List Nat ← call w none (.encodeUtf8 name)
  let bytes : List Nat ← call w none (.readBytes path)
  pure (nameBytes ++ [0] ++ bytes)

/-- One relative path of a digest's scope. -/
def hashScoped (w : World) (root : PyPath) (rel : String) : Stage (List Nat) := do
  let path := root.child rel
  let isFile : Bool ← call w none (.isFile path)
  if ¬ isFile then
    verificationFailure "artifact_materialization_missing"
      "Materialized artifact file missing for digest scope."
      [("materialized_root", .str root.text), ("relative_path", .str rel)]
  else
    hashNamed w (PyPath.ofText rel).text path

/-- The paths of a tree that are files. -/
def filterFiles (w : World) : List PyPath → Stage (List PyPath)
  | [] => pure []
  | path :: paths => do
      let isFile : Bool ← call w none (.isFile path)
      let rest ← filterFiles w paths
      pure (if isFile then path :: rest else rest)

/-- One file of a tree, by its path in the tree; the tree lists paths below its root only. -/
def hashListed (w : World) (root path : PyPath) : Stage (List Nat) :=
  hashNamed w ((path.relativeTo? root).getD path).text path

/-- The bytes that are hashed for a list, one after the other. -/
def hashAll {β : Type} (hash : β → Stage (List Nat)) : List β → Stage (List Nat)
  | [] => pure []
  | x :: xs => do
      let bytes ← hash x
      let rest ← hashAll hash xs
      pure (bytes ++ rest)

/-- The bytes that {lit}`_compute_digest` hashes. -/
def hashedBytes (w : World) (root : PyPath) (relativePaths : Option (List String)) :
    Stage (List Nat) := do
  let isFile : Bool ← call w none (.isFile root)
  if isFile then
    call w none (.readBytes root)
  else do
    let there : Bool ← call w none (.pathExists root)
    if ¬ there then
      verificationFailure "artifact_materialization_missing"
        "Materialized artifact path is missing." [("materialized_root", .str root.text)]
    else
      match relativePaths with
      | some names => hashAll (hashScoped w root) (names.mergeSort fun a b => a ≤ b)
      | none => do
          let items : List PyPath ← call w none (.rglob root)
          let files ← filterFiles w items
          hashAll (hashListed w root) (files.mergeSort fun p q => p.text ≤ q.text)

/-- {lit}`_compute_digest(root=..., algorithm=..., relative_paths=...)`. -/
def computeDigest (w : World) (root : PyPath) (algorithm : String)
    (relativePaths : Option (List String)) : Stage String := do
  call w none (.hashlibNew algorithm)
  let bytes ← hashedBytes w root relativePaths
  call w none (.hexdigest algorithm bytes)

/-- The part of {lit}`verify` that the skipped validation leaves out; what it returns is read by
nothing. -/
def verifyDigest (w : World) (fetchResult : ArtifactFetchResult) : Stage Unit :=
  match fetchResult.expectedDigest with
  | none =>
      verificationFailure "expected_digest_missing"
        "Expected artifact digest is required for verification."
        [("artifact_reference", .str fetchResult.artifactReference)]
  | some expectedDigest => do
      let (algorithm, expectedHex) ← parseDigest w expectedDigest
      if fetchResult.preverifiedDigest then pure ()
      else do
        let actualHex ← computeDigest w fetchResult.materializedRoot algorithm
          fetchResult.digestRelativePaths
        if expectedHex ≠ actualHex then
          verificationFailure "digest_mismatch" "Artifact digest verification failed."
            [("artifact_reference", .str fetchResult.artifactReference),
              ("expected_digest", .str expectedDigest),
              ("actual_digest", .str (algorithm ++ ":" ++ actualHex)), ("algorithm", .str algorithm)]
        else pure ()

/-- {lit}`verify(fetch_result)`. -/
def verify (w : World) (fetchResult : ArtifactFetchResult) : Stage Unit :=
  if skipArtifactDigestValidation then pure () else verifyDigest w fetchResult

/-! ## What is converted -/

variable {handler : Option Handler}

theorem converts_unsupportedDigestFailure {α : Type} (digest reason : String)
    (algorithm : Option String) :
    ConvertsUnder handler (unsupportedDigestFailure (α := α) digest reason algorithm) := by
  have hreason : "digest_unsupported" ∈ stageReasons := by simp [stageReasons]
  have hdetails : PyJson.foreign (.dict [("expected_digest", .str digest), ("reason", .str reason),
      ("algorithm", algorithm.elim .none .str)]) = [] := by
    cases algorithm <;> simp [PyJson.foreign, PyJson.foreignFields]
  unfold unsupportedDigestFailure verificationFailure
  exact converts_fail hreason hdetails

theorem converts_parseDigest (w : World) (digest : String) :
    ConvertsUnder none (parseDigest w digest) := by
  have halgorithm : ∀ algorithm, ConvertsUnder none (checkAlgorithm w digest algorithm) := by
    intro algorithm
    refine converts_try (converts_call w _) (fun x hx => ?_) (fun x hx => by simp [hx])
    rw [if_pos hx]
    exact converts_unsupportedDigestFailure _ _ _
  unfold parseDigest
  refine Converts.ite (converts_unsupportedDigestFailure _ _ _) ?_
  refine Converts.ite (converts_unsupportedDigestFailure _ _ _) ?_
  refine Converts.ite (converts_unsupportedDigestFailure _ _ _) ?_
  exact Converts.bind (halgorithm _) fun _ => Converts.pure _

theorem converts_hashNamed (w : World) (name : String) (path : PyPath) :
    ConvertsUnder none (hashNamed w name path) :=
  Converts.bind (converts_call w _) fun _ =>
    Converts.bind (converts_call w _) fun _ => Converts.pure _

theorem converts_hashAll {β : Type} {hash : β → Stage (List Nat)}
    (h : ∀ x, ConvertsUnder none (hash x)) (xs : List β) : ConvertsUnder none (hashAll hash xs) := by
  induction xs with
  | nil => exact Converts.pure _
  | cons x xs ih => exact Converts.bind (h x) fun _ => Converts.bind ih fun _ => Converts.pure _

theorem converts_filterFiles (w : World) (paths : List PyPath) :
    ConvertsUnder none (filterFiles w paths) := by
  induction paths with
  | nil => exact Converts.pure _
  | cons path paths ih =>
      exact Converts.bind (converts_call w _) fun _ => Converts.bind ih fun _ => Converts.pure _

theorem converts_hashScoped (w : World) (root : PyPath) (rel : String) :
    ConvertsUnder none (hashScoped w root rel) := by
  refine Converts.bind (converts_call w _) fun isFile => ?_
  refine Converts.ite (converts_fail (by simp [stageReasons]) rfl) ?_
  exact converts_hashNamed w _ _

theorem converts_computeDigest (w : World) (root : PyPath) (algorithm : String)
    (relativePaths : Option (List String)) :
    ConvertsUnder none (computeDigest w root algorithm relativePaths) := by
  refine Converts.bind (converts_call w _) fun _ => ?_
  refine Converts.bind ?_ fun bytes => converts_call w _
  refine Converts.bind (converts_call w _) fun isFile => ?_
  refine Converts.ite (converts_call w _) ?_
  refine Converts.bind (converts_call w _) fun there => ?_
  refine Converts.ite (converts_fail (by simp [stageReasons]) rfl) ?_
  cases relativePaths with
  | some names => exact converts_hashAll (converts_hashScoped w root) _
  | none =>
      refine Converts.bind (converts_call w _) fun items => ?_
      refine Converts.bind (converts_filterFiles w items) fun files => ?_
      exact converts_hashAll (fun path => converts_hashNamed w _ path) _

theorem converts_verifyDigest (w : World) (fetchResult : ArtifactFetchResult) :
    ConvertsUnder none (verifyDigest w fetchResult) := by
  unfold verifyDigest
  cases fetchResult.expectedDigest with
  | none => exact converts_fail (by simp [stageReasons]) rfl
  | some expectedDigest =>
      refine Converts.bind (converts_parseDigest w _) fun parsed => ?_
      rcases parsed with ⟨algorithm, expectedHex⟩
      refine Converts.ite (Converts.pure _) ?_
      refine Converts.bind (converts_computeDigest w _ _ _) fun actualHex => ?_
      exact Converts.ite (converts_fail (by simp [stageReasons]) rfl) (Converts.pure _)

/-- What is raised while the artifact is verified. -/
theorem converts_verify (w : World) (fetchResult : ArtifactFetchResult) :
    ConvertsUnder none (verify w fetchResult) := by
  unfold verify
  exact Converts.ite (Converts.pure _) (converts_verifyDigest w _)

end ArtifactVerifier
end Bootstrap
end StrategyWorker
