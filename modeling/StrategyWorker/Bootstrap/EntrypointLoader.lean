import StrategyWorker.Bootstrap.ArtifactFetcher

/-!
# Loading the entrypoint

{lit}`EntrypointLoader.load` imports the module of the entrypoint from the
materialized artifact and looks up its symbol.

Main results:

- Theorem {lit}`converts_load`: only the import itself is guarded.
-/

namespace StrategyWorker
namespace Bootstrap

open Library
open PyText Logged

/-- {lit}`EntrypointLoadResult`; of its details only the file of the module is read. -/
structure EntrypointLoadResult where
  entrypointSpec : String
  moduleName : String
  symbolName : String
  symbol : PyObject
  moduleFile : Option String

namespace EntrypointLoader

/-- {lit}`EntrypointLoadFailure(...)`, raised. -/
def loadFailure {α : Type} (reasonCode message : String) (details : PyDict) : Stage α :=
  fail .entrypointLoad reasonCode message false details

/-- {lit}`_malformed_entrypoint_failure(entrypoint=..., reason=...)`. -/
def malformedEntrypointFailure {α : Type} (entrypoint reason : String) : Stage α :=
  loadFailure "entrypoint_invalid" "Entrypoint specification is malformed."
    [("entrypoint", .str entrypoint), ("reason", .str reason)]

/-- {lit}`_parse_entrypoint_spec(entrypoint)`. -/
def parseEntrypointSpec (entrypoint : String) : Stage (String × String) :=
  match PyPath.splitText ':' entrypoint with
  | [first, second] =>
      let moduleName := strip first
      let symbolName := strip second
      if moduleName = "" ∨ symbolName = "" then
        malformedEntrypointFailure entrypoint "module_or_symbol_missing"
      else
        pure (moduleName, symbolName)
  | _ => malformedEntrypointFailure entrypoint "expected_format_module_colon_symbol"

/-- The import of the module, in its {lit}`try` statement. -/
def importEntrypoint (w : World) (entrypoint moduleName : String) : Stage PyObject :=
  catchWith (call w (some .entrypointImport) (.importModule moduleName)) fun x =>
    if Handler.entrypointImport.catches x then do
      let name : String ← call w none .nameOfException
      let text : String ← call w none .strOfException
      loadFailure "entrypoint_import_failed" "Entrypoint module import failed."
        [("entrypoint", .str entrypoint), ("module_name", .str moduleName),
          ("exception_type", .str name), ("exception_message", .str text)]
    else raise x

/-- {lit}`_is_valid_symbol(symbol)`. -/
def isValidSymbol (w : World) (symbol : PyObject) : Stage Bool := do
  let isClass : Bool ← call w none (.isClass symbol)
  if isClass then pure true else call w none (.isCallable symbol)

/-- The symbol of the entrypoint in its module. -/
def lookUpSymbol (w : World) (entrypoint moduleName symbolName : String) (module : PyObject) :
    Stage PyObject := do
  let there : Bool ← call w none (.hasattr module symbolName)
  if ¬ there then
    loadFailure "entrypoint_symbol_not_found" "Entrypoint symbol was not found in module."
      [("entrypoint", .str entrypoint), ("module_name", .str moduleName),
        ("symbol_name", .str symbolName)]
  else do
    let symbol : PyObject ← call w none (.getattr module symbolName)
    let isValid ← isValidSymbol w symbol
    if ¬ isValid then do
      let name : String ← call w none (.nameOfType symbol)
      loadFailure "entrypoint_symbol_invalid" "Entrypoint symbol is not valid for bootstrap."
        [("entrypoint", .str entrypoint), ("module_name", .str moduleName),
          ("symbol_name", .str symbolName), ("symbol_type", .str name)]
    else
      pure symbol

/-- {lit}`load(launch_spec=..., fetch_result=...)`: {lit}`sys.path` holds the resolved root until
the symbol is found. -/
def load (w : World) (launchSpec : LaunchSpec) (fetchResult : ArtifactFetchResult) :
    Stage EntrypointLoadResult := do
  let entrypoint := launchSpec.entrypoint
  let (moduleName, symbolName) ← parseEntrypointSpec entrypoint
  let _importPath : PyPath ← call w none (.resolve fetchResult.materializedRoot)
  let module ← importEntrypoint w entrypoint moduleName
  let symbol ← lookUpSymbol w entrypoint moduleName symbolName module
  let moduleFile : Option String ← call w none (.moduleFile module)
  pure ⟨entrypoint, moduleName, symbolName, symbol, moduleFile⟩

/-! ## What is converted -/

theorem converts_parseEntrypointSpec (entrypoint : String) :
    ConvertsUnder none (parseEntrypointSpec entrypoint) := by
  have hreason : "entrypoint_invalid" ∈ stageReasons := by simp [stageReasons]
  have hmalformed : ∀ reason, ConvertsUnder none
      (malformedEntrypointFailure (α := String × String) entrypoint reason) := fun reason => by
    unfold malformedEntrypointFailure loadFailure
    exact converts_fail hreason rfl
  unfold parseEntrypointSpec
  split
  · exact Converts.ite (hmalformed _) (Converts.pure _)
  · exact hmalformed _

theorem converts_importEntrypoint (w : World) (entrypoint moduleName : String) :
    ConvertsUnder none (importEntrypoint w entrypoint moduleName) := by
  refine converts_try (converts_call w _) (fun x hx => ?_) (fun x hx => by simp [hx])
  rw [if_pos hx]
  refine Converts.bind (converts_call w _) fun name => ?_
  exact Converts.bind (converts_call w _) fun text => converts_fail (by simp [stageReasons]) rfl

theorem converts_lookUpSymbol (w : World) (entrypoint moduleName symbolName : String)
    (module : PyObject) :
    ConvertsUnder none (lookUpSymbol w entrypoint moduleName symbolName module) := by
  refine Converts.bind (converts_call w _) fun there => ?_
  refine Converts.ite (converts_fail (by simp [stageReasons]) rfl) ?_
  refine Converts.bind (converts_call w _) fun symbol => ?_
  refine Converts.bind ?_ fun isValid => ?_
  · refine Converts.bind (converts_call w _) fun isClass => ?_
    exact Converts.ite (Converts.pure _) (converts_call w _)
  · refine Converts.ite ?_ (Converts.pure _)
    exact Converts.bind (converts_call w _) fun name => converts_fail (by simp [stageReasons]) rfl

/-- What is raised while the entrypoint is loaded. -/
theorem converts_load (w : World) (launchSpec : LaunchSpec) (fetchResult : ArtifactFetchResult) :
    ConvertsUnder none (load w launchSpec fetchResult) := by
  refine Converts.bind (converts_parseEntrypointSpec _) fun parsed => ?_
  rcases parsed with ⟨moduleName, symbolName⟩
  refine Converts.bind (converts_call w _) fun _ => ?_
  refine Converts.bind (converts_importEntrypoint w _ _) fun module => ?_
  refine Converts.bind (converts_lookUpSymbol w _ _ _ _) fun symbol => ?_
  exact Converts.bind (converts_call w _) fun moduleFile => Converts.pure _

end EntrypointLoader
end Bootstrap
end StrategyWorker
