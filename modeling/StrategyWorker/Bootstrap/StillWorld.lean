import StrategyWorker.Bootstrap.DigestStream

/-!
# A file system at rest

A world that answers tests and reads of one tree, and refuses everything else.
What a digest of a list of names is can be seen in it: nothing there raises.

Main results:

- Definition {lit}`stillFiles`: the world is one of files.
- Theorem {lit}`computeDigest_still`: a digest is computed.
-/

namespace StrategyWorker
namespace Bootstrap

open Library
open PyText Logged

/-- The world of a tree that nobody changes. -/
def stillWorld (cwd : Place) (hash : String → List Nat → String) (tree : FileTree) : World :=
  fun _ operation =>
    match operation with
    | .isFile p => .ok (isFileAt tree (PyPath.place cwd p))
    | .pathExists p => .ok (tree (PyPath.place cwd p)).isSome
    | .readBytes p =>
        match tree (PyPath.place cwd p) with
        | some (.file bytes) => .ok bytes
        | _ => .error (.other .osError)
    | .hashlibNew _ => .ok ()
    | .encodeUtf8 text => .ok (Sha256.utf8 text)
    | .hexdigest algorithm bytes => .ok (hash algorithm bytes)
    | _ => .error (.other .osError)

variable {cwd : Place} {hash : String → List Nat → String} {tree : FileTree}

theorem performs_still (calls : List BootstrapCall) (operation : Operation) :
    Performs (PyPath.place cwd) hash tree operation (stillWorld cwd hash tree calls operation)
      tree := by
  cases operation with
  | isFile p =>
      refine ⟨rfl, fun h => isFileAt_iff.1 (Except.ok.inj h), fun h _ bytes hbytes => ?_⟩
      have hfile := isFileAt_iff.2 ⟨bytes, hbytes⟩
      rw [Except.ok.inj h] at hfile
      cases hfile
  | pathExists p =>
      refine ⟨rfl, fun h => Option.isSome_iff_ne_none.1 (Except.ok.inj h), fun h _ => ?_⟩
      exact Option.isSome_eq_false_iff.1 (Except.ok.inj h) |> Option.isNone_iff_eq_none.1
  | readBytes p =>
      refine ⟨rfl, fun bytes h => ?_⟩
      cases hnode : tree (PyPath.place cwd p) with
      | none => simp [stillWorld, hnode] at h
      | some node => cases node <;> simp_all [stillWorld]
  | encodeUtf8 text => exact ⟨rfl, fun bytes h => (Except.ok.inj h).symm⟩
  | hexdigest algorithm bytes => exact ⟨rfl, fun digest h => (Except.ok.inj h).symm⟩
  | importModule _ | instantiate _ | runMypy _ _ => trivial
  | fetchFrom _ _ _ => exact .refl _ _
  | openTarget _ | copyEntry _ _ _ => exact fun q => .inl rfl
  | mkdir _ | rmtree _ | copytree _ _ | copy2 _ _ => exact ⟨fun q => .inl rfl, fun h => by cases h⟩
  | isDir _ => exact ⟨rfl, (fun h => by cases h), fun h => by cases h⟩
  | resolve _ | iterdir _ | rglob _ => exact ⟨rfl, fun _ h => by cases h⟩
  | _ => rfl

/-- The world of a tree at rest is one of files. -/
def stillFiles (cwd : Place) (hash : String → List Nat → String) (tree : FileTree) :
    FileWorld (PyPath.place cwd) hash (stillWorld cwd hash tree) where
  state _ := tree
  performs calls operation _ := performs_still calls operation

/-! ## A digest -/

/-- A computation that always returns. -/
def Returns {α : Type} (m : Stage α) (a : α) : Prop :=
  Yields m fun r _ => r = .ok a

theorem Returns.pure {α : Type} (a : α) : Returns (Pure.pure a) a :=
  (Yields.pure a).mono fun _ _ h => h.1

theorem Returns.bind {α β : Type} {m : Stage α} {f : α → Stage β} {a : α} {b : β}
    (hm : Returns m a) (hf : Returns (f a) b) : Returns (m >>= f) b := by
  refine Yields.bind hm (fun a' _ h => ?_) (fun x _ h => by cases h)
  obtain rfl := Except.ok.inj h
  exact hf

/-- What a computation returns is one value. -/
theorem Returns.unique {α : Type} {m : Stage α} {a b : α} (ha : Returns m a) (hb : Returns m b) :
    a = b := by
  rcases Yields.and ha hb [] with ⟨r, -, -, hr, hr'⟩
  rw [hr] at hr'
  exact Except.ok.inj hr'

theorem returns_call {w : World} {handler : Option Handler} {operation : Operation}
    {a : operation.Answer} (h : ∀ calls, w calls operation = .ok a) :
    Returns (call w handler operation) a := by
  intro calls
  refine ⟨.ok a, [⟨operation, handler, none⟩], ?_, rfl⟩
  simp [call, query, Bind.bind, ask, emit, h calls, Pure.pure]

theorem returns_hashAll {β : Type} {hashOne : β → Stage (List Nat)} {g : β → List Nat}
    {xs : List β} (h : ∀ x ∈ xs, Returns (hashOne x) (g x)) :
    Returns (ArtifactVerifier.hashAll hashOne xs) (xs.flatMap g) := by
  induction xs with
  | nil => exact Returns.pure _
  | cons x xs ih =>
      rw [List.flatMap_cons]
      refine (h x List.mem_cons_self).bind ?_
      exact (ih fun y hy => h y (List.mem_cons_of_mem x hy)).bind (Returns.pure _)

/-- A digest of names that are files is computed. -/
theorem computeDigest_still {root : PyPath} {names : List String} (algorithm : String)
    (hroot : tree (PyPath.place cwd root) = some .directory)
    (hnames : ∀ name ∈ names, isFileAt tree (PyPath.place cwd (root.child name)) = true) :
    ∃ digest, Returns (ArtifactVerifier.computeDigest (stillWorld cwd hash tree) root algorithm
      (some names)) digest := by
  have hscoped : ∀ name ∈ names.mergeSort fun a b => a ≤ b,
      Returns (ArtifactVerifier.hashScoped (stillWorld cwd hash tree) root name)
        (frame ((PyPath.ofText name).text,
          contentAt tree (PyPath.place cwd (root.child name)))) := by
    intro name hname
    rcases isFileAt_iff.1 (hnames name (by simpa using hname)) with ⟨bytes, hbytes⟩
    have hisFile : Returns (call (stillWorld cwd hash tree) none (.isFile (root.child name))) true :=
      returns_call fun _ => congrArg Except.ok (isFileAt_iff.2 ⟨bytes, hbytes⟩)
    refine hisFile.bind ?_
    rw [if_neg (by simp)]
    refine (returns_call (a := Sha256.utf8 (PyPath.ofText name).text) fun _ => rfl).bind ?_
    refine (returns_call (a := bytes) fun _ => ?_).bind ?_
    · simp [stillWorld, hbytes]
    · rw [contentAt_of_file hbytes]
      exact Returns.pure _
  have hisFile : Returns (call (stillWorld cwd hash tree) none (.isFile root)) false := by
    refine returns_call fun _ => congrArg Except.ok ?_
    rw [isFileAt, hroot]
  have hthere : Returns (call (stillWorld cwd hash tree) none (.pathExists root)) true := by
    refine returns_call fun _ => congrArg Except.ok ?_
    rw [hroot]
    rfl
  have hbytes : Returns (ArtifactVerifier.hashedBytes (stillWorld cwd hash tree) root (some names))
      ((names.mergeSort fun a b => a ≤ b).flatMap fun name =>
        frame ((PyPath.ofText name).text, contentAt tree (PyPath.place cwd (root.child name)))) := by
    unfold ArtifactVerifier.hashedBytes
    refine hisFile.bind ?_
    rw [if_neg (by simp)]
    refine hthere.bind ?_
    rw [if_neg (by simp)]
    exact returns_hashAll hscoped
  exact ⟨_, (returns_call (a := ()) fun _ => rfl).bind (hbytes.bind (returns_call fun _ => rfl))⟩

end Bootstrap
end StrategyWorker
