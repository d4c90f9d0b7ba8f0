import StrategyWorker.Bootstrap.ArtifactVerifier
import StrategyWorker.Library.FileTree
import StrategyWorker.Library.LoggedState

/-!
# The file system around the bootstrap

What the operations of the bootstrap do to a file tree, and what they answer:
any of them may also raise.  A world is one of files when its calls, in the
order of the log, take the tree from one state to the next in this way.

Main results:

- Definition {lit}`Performs`: the effect of each operation.
- Theorem {lit}`leaves_call`: the rule for a call.
- Theorem {lit}`leaves_call_of_keeps`: what no operation breaks, whatever it
  ends in.
-/

namespace StrategyWorker
namespace Bootstrap

open Library
open PyText Logged

/-- The name of an entry of a directory. -/
def EntryName (name : String) : Prop :=
  name ≠ "" ∧ name ≠ "." ∧ name ≠ ".." ∧ '/' ∉ name.toList

instance (name : String) : Decidable (EntryName name) :=
  inferInstanceAs (Decidable (_ ∧ _ ∧ _ ∧ _))

/-- A path below another one. -/
def below (p : PyPath) (rel : List String) : PyPath :=
  ⟨p.root, p.parts ++ rel⟩

/-- The root of a resolved path: one slash. -/
def resolvedRoot (_ : PyPath) : String :=
  "/"

/-- What an operation answers at a tree, and the tree that it leaves.  A path with {lit}`..` in it
leads nowhere when a directory on its way is missing; a test of it then fails. -/
def Performs (place : PyPath → Place) (hash : String → List Nat → String) (tree : FileTree) :
    (operation : Operation) → Except Raised operation.Answer → FileTree → Prop
  | .resolve p, r, tree' => tree' = tree ∧ ∀ q, r = .ok q → q = ⟨resolvedRoot p, place p⟩
  | .isFile p, r, tree' => tree' = tree ∧
      (r = .ok true → ∃ bytes, tree (place p) = some (.file bytes)) ∧
        (r = .ok false → ".." ∉ p.parts → ∀ bytes, tree (place p) ≠ some (.file bytes))
  | .pathExists p, r, tree' => tree' = tree ∧ (r = .ok true → tree (place p) ≠ none) ∧
      (r = .ok false → ".." ∉ p.parts → tree (place p) = none)
  | .isDir p, r, tree' => tree' = tree ∧ (r = .ok true → tree (place p) = some .directory) ∧
      (r = .ok false → ".." ∉ p.parts → tree (place p) ≠ some .directory)
  -- parents first, and whatever is there already stays
  | .mkdir p, r, tree' =>
      (∀ q, tree' q = tree q ∨ tree q = none ∧ tree' q = some .directory ∧
        ∃ i, q <+: place ⟨p.root, p.parts.take i⟩) ∧
      (r = .ok () → DirectoryAt tree' (place p))
  | .rmtree p, r, tree' => (∀ q, tree' q = tree q ∨ tree' q = none ∧ place p <+: q) ∧
      (r = .ok () → ∀ q, place p <+: q → tree' q = none)
  | .iterdir p, r, tree' => tree' = tree ∧ ∀ entries, r = .ok entries →
      tree (place p) = some .directory ∧ ∃ names : List String, names.Nodup ∧
        entries = names.map (fun name => below p [name]) ∧ (∀ name ∈ names, EntryName name) ∧
          ∀ name, name ∈ names ↔ tree (place p ++ [name]) ≠ none
  | .rglob p, r, tree' => tree' = tree ∧ ∀ items, r = .ok items →
      ∃ rels : List (List String), rels.Nodup ∧ items = rels.map (below p) ∧
        (∀ rel ∈ rels, ∀ name ∈ rel, EntryName name) ∧
          ∀ rel, rel ∈ rels ↔ rel ≠ [] ∧ tree (place p ++ rel) ≠ none
  -- a copy of a directory into itself does not end
  | .copytree source destination, r, tree' =>
      (∀ q, tree' q = tree q ∨ place destination <+: q ∨
        tree q = none ∧ tree' q = some .directory ∧
          ∃ i, q <+: place ⟨destination.root, destination.parts.take i⟩) ∧
      (r = .ok () → tree (place source) = some .directory ∧
        ¬ place source <+: place destination ∧ tree (place destination) = none ∧
          ∀ rel, tree' (place destination ++ rel) = tree (place source ++ rel))
  -- a path that ends in `..` is no file
  | .copy2 source destination, r, tree' =>
      (∀ q, tree' q = tree q ∨ place destination <+: q ∧ source.parts.getLast? ≠ some "..") ∧
      (r = .ok () → (∃ bytes, tree (place source) = some (.file bytes)) ∧
        (tree (place destination) ≠ some .directory →
          ∀ q, tree' q = if q = place destination then tree (place source) else tree q))
  | .readBytes p, r, tree' => tree' = tree ∧
      ∀ bytes, r = .ok bytes → tree (place p) = some (.file bytes)
  | .openTarget p, _, tree' => ∀ q, tree' q = tree q ∨
      q = place p ∧ tree q ≠ some .directory
  | .copyEntry _ _ p, _, tree' => ∀ q, tree' q = tree q ∨
      q = place p ∧ tree q ≠ some .directory
  -- a provider materialises into its target
  | .fetchFrom _ _ target, _, tree' => OnlyTouches (place target <+: ·) tree tree'
  | .encodeUtf8 text, r, tree' => tree' = tree ∧ ∀ bytes, r = .ok bytes → bytes = Sha256.utf8 text
  | .hexdigest algorithm bytes, r, tree' => tree' = tree ∧
      ∀ digest, r = .ok digest → digest = hash algorithm bytes
  -- the code of a strategy may do anything
  | .importModule _, _, _ | .instantiate _, _, _ | .runMypy _ _, _, _ => True
  | _, _, tree' => tree' = tree

/-- A world whose operations work on a file tree. -/
structure FileWorld (place : PyPath → Place) (hash : String → List Nat → String) (w : World) where
  state : List BootstrapCall → FileTree
  performs : ∀ calls operation handler,
    Performs place hash (state calls) operation (w calls operation)
      (state (calls ++ [⟨operation, handler, raisedBy (w calls operation)⟩]))

variable {place : PyPath → Place} {hash : String → List Nat → String} {w : World}

/-- A call performs its operation. -/
theorem leaves_call (fw : FileWorld place hash w) (handler : Option Handler)
    (operation : Operation) {P : FileTree → Prop}
    {Q : Except Raised operation.Answer → FileTree → Prop}
    (h : ∀ tree r tree', P tree → Performs place hash tree operation r tree' → Q r tree') :
    Leaves fw.state P (call w handler operation) Q :=
  Leaves.query fun calls hcalls => h _ _ _ hcalls (fw.performs calls operation handler)

/-- What an operation keeps, whatever it ends in. -/
theorem leaves_call_of_keeps (fw : FileWorld place hash w) (handler : Option Handler)
    (operation : Operation) {I : FileTree → Prop}
    (h : ∀ tree r tree', I tree → Performs place hash tree operation r tree' → I tree') :
    Leaves fw.state I (call w handler operation) fun _ tree => I tree :=
  leaves_call fw handler operation h

/-- The operations that ask only. -/
def Operation.asks : Operation → Bool
  | resolve _ | cwd | isFile _ | pathExists _ | isDir _ | iterdir _ | rglob _ | readBytes _ => true
  | urlparse _ | unquote _ | url2pathname _ | asUri _ | openZip _ | openEntry _ _ => true
  | hashlibNew _ | encodeUtf8 _ | hexdigest _ _ | strOfException | nameOfException => true
  | _ => false

theorem Performs.eq_of_asks {tree tree' : FileTree} {operation : Operation}
    {r : Except Raised operation.Answer} (h : Performs place hash tree operation r tree')
    (hasks : operation.asks = true) : tree' = tree := by
  cases operation with
  | cwd | urlparse _ | unquote _ | url2pathname _ | asUri _ | openZip _ | openEntry _ _
  | hashlibNew _ | strOfException | nameOfException => exact h
  | resolve _ | isFile _ | pathExists _ | isDir _ | iterdir _ | rglob _ | readBytes _
  | encodeUtf8 _ | hexdigest _ _ => exact h.1
  | _ => cases hasks

/-- An operation that only asks keeps everything. -/
theorem leaves_ask (fw : FileWorld place hash w) (handler : Option Handler)
    {operation : Operation} (hasks : operation.asks = true) {I : FileTree → Prop} :
    Leaves fw.state I (call w handler operation) fun _ tree => I tree :=
  leaves_call_of_keeps fw handler operation fun _ _ _ hI hperforms =>
    (hperforms.eq_of_asks hasks).symm ▸ hI

/-- A call keeps what its operation keeps. -/
theorem keeps_call (fw : FileWorld place hash w) (handler : Option Handler)
    {operation : Operation} {I : FileTree → Prop} {P : operation.Answer → Prop}
    (h : ∀ tree r tree', I tree → Performs place hash tree operation r tree' →
      I tree' ∧ ∀ a, r = .ok a → P a) :
    Keeps fw.state I (call w handler operation) P :=
  leaves_call fw handler operation h

/-- A stage that fails keeps everything and returns nothing. -/
theorem leaves_fail (fw : FileWorld place hash w) {α : Type} {stage : BootstrapStage}
    {reasonCode message : String} {retryable : Bool} {details : PyDict} {I : FileTree → Prop} :
    Leaves fw.state I (fail (α := α) stage reasonCode message retryable details) fun r tree =>
      I tree ∧ ∀ a, r ≠ .ok a := by
  unfold fail
  split
  · exact Leaves.raise fun s hs => ⟨hs, fun a h => by cases h⟩
  · exact Leaves.raise fun s hs => ⟨hs, fun a h => by cases h⟩

theorem keeps_fail (fw : FileWorld place hash w) {α : Type} {stage : BootstrapStage}
    {reasonCode message : String} {retryable : Bool} {details : PyDict} {I : FileTree → Prop}
    {P : α → Prop} :
    Keeps fw.state I (fail (α := α) stage reasonCode message retryable details) P :=
  (leaves_fail fw).mono fun _ _ h => ⟨h.1, fun a hr => absurd hr (h.2 a)⟩

end Bootstrap
end StrategyWorker
