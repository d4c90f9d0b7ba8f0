import StrategyWorker.Domain.WorkerIdentity
import StrategyWorker.Library.Decimal
import StrategyWorker.Library.PyDigits

/-!
# Order intents

{lit}`OrderIntent`, whose constructor strips its texts, reads its enumerations and
reads the quantity and the prices as decimal numbers.  A number at or below zero
is refused.  The comparison that does so raises for a NaN, and lets an infinity
pass.

Main results:

- Theorem {lit}`checks_readHead`, theorem {lit}`readNumbers_cases` and theorem
  {lit}`checks_finish`: what each part of the constructor comes to.
- Theorem {lit}`contract_iff`: an order intent is well formed or rejected as
  documented unless a NaN is compared or an infinity is let through.
- Theorem {lit}`special_quantities_break_contract`: both happen.
-/

namespace StrategyWorker
namespace Domain

open Library
open PyText Binary64

/-! ## Values -/

inductive OrderIntentSide where
  | buy
  | sell
  deriving DecidableEq, Repr

namespace OrderIntentSide

def value : OrderIntentSide → String
  | buy => "BUY"
  | sell => "SELL"

/-- {lit}`OrderIntentSide(text)`. -/
def ofValue? (text : String) : Option OrderIntentSide :=
  [buy, sell].find? fun side => side.value = text

end OrderIntentSide

inductive OrderIntentType where
  | market
  | limit
  | stop
  | stopLimit
  deriving DecidableEq, Repr

namespace OrderIntentType

def value : OrderIntentType → String
  | market => "MARKET"
  | limit => "LIMIT"
  | stop => "STOP"
  | stopLimit => "STOP_LIMIT"

/-- {lit}`OrderIntentType(text)`. -/
def ofValue? (text : String) : Option OrderIntentType :=
  [market, limit, stop, stopLimit].find? fun orderType => orderType.value = text

end OrderIntentType

/-- What the constructor raises. -/
inductive OrderIntentError where
  | orderIntentValidation (fieldName reason : String)
  | unsupportedMode (mode reason : String)
  /-- {lit}`decimal.InvalidOperation`. -/
  | invalidOperation
  /-- {lit}`str(oid)` of an integer with too many digits. -/
  | valueError
  deriving DecidableEq, Repr

/-- A number as an argument. -/
inductive NumberArg where
  | decimal (d : PyDecimal)
  | str (s : String)
  | int (n : Int)
  | float (f : PyFloat)

/-- {lit}`str(n)`: {lit}`none` where it raises. -/
def intText? (n : Int) : Option String :=
  if maxDigits < (toString n.natAbs).toList.length then none else some (toString n)

/-- The number that {lit}`_to_decimal(value, ...)` returns: {lit}`none` where it raises. -/
def NumberArg.decimal? : NumberArg → Option PyDecimal
  | decimal d => some d
  | str s => PyDecimal.ofText s
  | int n => (intText? n).bind PyDecimal.ofText
  | float f => PyDecimal.ofText (floatText f)

/-- The arguments of the constructor. -/
structure OrderIntentArgs where
  idempotencyKey : String
  runtimeId : String
  strategyVersionId : String
  mode : String
  instrumentId : String
  side : String
  orderType : String
  quantity : NumberArg
  limitPrice : Option NumberArg := none
  stopPrice : Option NumberArg := none
  timeInForce : Option String := none
  correlationId : Option String := none
  causationId : Option String := none
  createdAt : PyVal := .none
  requestedAt : PyVal := .none
  orderIntentId : PyVal := .none

/-! ## The checks -/

namespace OrderIntent

/-- {lit}`_require_non_empty(value, field_name)`. -/
def requireNonEmpty (value fieldName : String) :
    Except OrderIntentError { text : String // IsText text } :=
  if h : strip value = "" then .error (.orderIntentValidation fieldName "must_not_be_blank")
  else .ok ⟨strip value, isText_strip h⟩

/-- {lit}`_normalize_optional(value, field_name)`. -/
def normalizeOptional (value : Option String) (fieldName : String) :
    Except OrderIntentError OptionalText :=
  match value with
  | none => .ok ⟨none, optionalText_none⟩
  | some value =>
      if h : strip value = "" then
        .error (.orderIntentValidation fieldName "must_not_be_blank_if_provided")
      else .ok ⟨some (strip value), optionalText_strip h⟩

/-- {lit}`_to_decimal(value, field_name)`. -/
def toDecimal (value : NumberArg) (fieldName : String) : Except OrderIntentError PyDecimal :=
  match value.decimal? with
  | some d => .ok d
  | none => .error (.orderIntentValidation fieldName "invalid_decimal")

/-- A number that the comparison with zero does not refuse. -/
abbrev Compared :=
  { d : PyDecimal // d.leZero = some false }

/-- {lit}`d <= 0` is refused. -/
def refuseZero (d : PyDecimal) (fieldName reason : String) : Except OrderIntentError Compared :=
  match h : d.leZero with
  | none => .error .invalidOperation
  | some true => .error (.orderIntentValidation fieldName reason)
  | some false => .ok ⟨d, h⟩

/-- A number that has to be above zero. -/
def checkDecimal (value : NumberArg) (fieldName reason : String) :
    Except OrderIntentError Compared := do
  refuseZero (← toDecimal value fieldName) fieldName reason

/-- The fields before the numbers. -/
structure Head where
  idempotencyKey : { text : String // IsText text }
  runtimeId : { text : String // IsText text }
  strategyVersionId : { text : String // IsText text }
  instrumentId : { text : String // IsText text }
  timeInForce : OptionalText
  correlationId : OptionalText
  causationId : OptionalText
  mode : RuntimeMode
  side : OrderIntentSide
  orderType : OrderIntentType

/-- {lit}`RuntimeMode(mode)`. -/
def readMode (mode : String) : Except OrderIntentError RuntimeMode :=
  match RuntimeMode.ofValue? mode with
  | some mode => .ok mode
  | none => .error (.unsupportedMode mode "invalid_mode")

/-- {lit}`OrderIntentSide(side)`. -/
def readSide (side : String) : Except OrderIntentError OrderIntentSide :=
  match OrderIntentSide.ofValue? side with
  | some side => .ok side
  | none => .error (.orderIntentValidation "side" "invalid_side")

/-- {lit}`OrderIntentType(order_type)`. -/
def readOrderType (orderType : String) : Except OrderIntentError OrderIntentType :=
  match OrderIntentType.ofValue? orderType with
  | some orderType => .ok orderType
  | none => .error (.orderIntentValidation "order_type" "invalid_order_type")

/-- The checks of {lit}`__post_init__` before the numbers. -/
def readHead (args : OrderIntentArgs) : Except OrderIntentError Head := do
  let idempotencyKey ← requireNonEmpty args.idempotencyKey "idempotency_key"
  let runtimeId ← requireNonEmpty args.runtimeId "runtime_id"
  let strategyVersionId ← requireNonEmpty args.strategyVersionId "strategy_version_id"
  let instrumentId ← requireNonEmpty args.instrumentId "instrument_id"
  let timeInForce ← normalizeOptional args.timeInForce "time_in_force"
  let correlationId ← normalizeOptional args.correlationId "correlation_id"
  let causationId ← normalizeOptional args.causationId "causation_id"
  let mode ← readMode args.mode
  let side ← readSide args.side
  let orderType ← readOrderType args.orderType
  return {
    idempotencyKey, runtimeId, strategyVersionId, instrumentId, timeInForce, correlationId,
    causationId, mode, side, orderType }

/-- The numbers. -/
structure Numbers where
  quantity : Compared
  limitPrice : Option Compared
  stopPrice : Option Compared

/-- A price that may be missing. -/
def checkPrice (value : Option NumberArg) (fieldName : String) :
    Except OrderIntentError (Option Compared) :=
  match value with
  | none => .ok none
  | some value => do return some (← checkDecimal value fieldName "must_be_positive_when_provided")

/-- The checks of the numbers in {lit}`__post_init__`. -/
def readNumbers (args : OrderIntentArgs) : Except OrderIntentError Numbers := do
  let quantity ← checkDecimal args.quantity "quantity" "must_be_positive"
  let limitPrice ← checkPrice args.limitPrice "limit_price"
  let stopPrice ← checkPrice args.stopPrice "stop_price"
  return { quantity, limitPrice, stopPrice }

/-- The prices that an order of this type needs are present. -/
def PricesPresent (orderType : OrderIntentType) {α : Type} (limitPrice stopPrice : Option α) :
    Prop :=
  match orderType with
  | .market => True
  | .limit => limitPrice.isSome
  | .stop => stopPrice.isSome
  | .stopLimit => limitPrice.isSome ∧ stopPrice.isSome

instance {α : Type} (orderType : OrderIntentType) (limitPrice stopPrice : Option α) :
    Decidable (PricesPresent orderType limitPrice stopPrice) := by
  cases orderType <;> unfold PricesPresent <;> infer_instance

/-- The checks of the prices against the type of the order. -/
def checkPrices (orderType : OrderIntentType) (numbers : Numbers) :
    Except OrderIntentError
      (PLift (PricesPresent orderType numbers.limitPrice numbers.stopPrice)) :=
  if h : PricesPresent orderType numbers.limitPrice numbers.stopPrice then .ok ⟨h⟩
  else
    match orderType with
    | .limit => .error (.orderIntentValidation "limit_price" "required_for_limit_order")
    | .stop => .error (.orderIntentValidation "stop_price" "required_for_stop_order")
    | .market | .stopLimit =>
        .error (.orderIntentValidation "prices"
          "limit_and_stop_prices_required_for_stop_limit_order")

/-- A time is a datetime when there is one. -/
def checkTime (value : PyVal) (fieldName : String) : Except OrderIntentError (Option PyDateTime) :=
  match value with
  | .none => .ok none
  | .datetime d => .ok (some d)
  | _ => .error (.orderIntentValidation fieldName "must_be_datetime_or_none")

/-- The id of the intent: an integer becomes its text, a text is stripped. -/
def readOrderIntentId : PyVal → Except OrderIntentError (Option String)
  | .none => .ok none
  | .bool b => .ok (some (if b then "True" else "False"))
  | .int n =>
      match intText? n with
      | some text => .ok (some text)
      | none => .error .valueError
  | .str s =>
      if strip s = "" then
        .error (.orderIntentValidation "order_intent_id" "must_be_non_empty_string_when_provided")
      else .ok (some (strip s))
  | _ => .error (.orderIntentValidation "order_intent_id" "must_be_non_empty_string_when_provided")

end OrderIntent

/-- {lit}`OrderIntent`. -/
structure OrderIntent extends OrderIntent.Head, OrderIntent.Numbers where
  createdAt : Option PyDateTime
  requestedAt : Option PyDateTime
  orderIntentId : Option String
  prices_present : OrderIntent.PricesPresent orderType limitPrice stopPrice

namespace OrderIntent

/-- The checks of {lit}`__post_init__` after the numbers. -/
def finish (args : OrderIntentArgs) (head : Head) (numbers : Numbers) :
    Except OrderIntentError OrderIntent := do
  let prices ← checkPrices head.orderType numbers
  let createdAt ← checkTime args.createdAt "created_at"
  let requestedAt ← checkTime args.requestedAt "requested_at"
  let orderIntentId ← readOrderIntentId args.orderIntentId
  return { head, numbers with createdAt, requestedAt, orderIntentId, prices_present := prices.down }

/-- {lit}`OrderIntent(...)`. -/
def make (args : OrderIntentArgs) : Except OrderIntentError OrderIntent := do
  let head ← readHead args
  let numbers ← readNumbers args
  finish args head numbers

/-- A text that may be missing, as a value. -/
def optionalValue (text : Option String) : PyVal :=
  text.elim .none .str

/-- {lit}`to_dict()`. -/
def toDict (intent : OrderIntent) : PyDict :=
  [("idempotency_key", .str intent.idempotencyKey.1), ("runtime_id", .str intent.runtimeId.1),
    ("strategy_version_id", .str intent.strategyVersionId.1), ("mode", .str intent.mode.value),
    ("instrument_id", .str intent.instrumentId.1), ("side", .str intent.side.value),
    ("order_type", .str intent.orderType.value), ("quantity", .str intent.quantity.1.text),
    ("limit_price", optionalValue (intent.limitPrice.map fun p => p.1.text)),
    ("stop_price", optionalValue (intent.stopPrice.map fun p => p.1.text)),
    ("time_in_force", optionalValue intent.timeInForce.1),
    ("correlation_id", optionalValue intent.correlationId.1),
    ("causation_id", optionalValue intent.causationId.1)] ++
  (intent.createdAt.map fun d => ("created_at", PyVal.datetime d)).toList ++
  (intent.requestedAt.map fun d => ("requested_at", PyVal.datetime d)).toList ++
  (intent.orderIntentId.map fun oid => ("order_intent_id", PyVal.str oid)).toList

/-! ## Checks that raise documented errors -/

/-- {lit}`OrderIntentValidationError` and {lit}`UnsupportedModeError`. -/
def Documented : OrderIntentError → Prop
  | .orderIntentValidation _ _ | .unsupportedMode _ _ => True
  | .invalidOperation | .valueError => False

/-- A check passes where the condition holds, and raises a documented error elsewhere. -/
structure Checks {α : Type} (m : Except OrderIntentError α) (P : Prop) : Prop where
  passes : P → ∃ a, m = .ok a
  raises : ¬ P → ∃ e, m = .error e ∧ Documented e

namespace Checks

variable {α β : Type} {m : Except OrderIntentError α} {P Q : Prop}

theorem congr (h : Checks m P) (hiff : P ↔ Q) : Checks m Q where
  passes hq := h.passes (hiff.2 hq)
  raises hq := h.raises fun hp => hq (hiff.1 hp)

theorem pure (a : α) : Checks (Pure.pure a) True where
  passes _ := ⟨a, rfl⟩
  raises h := absurd trivial h

theorem bind {f : α → Except OrderIntentError β} (hm : Checks m P)
    (hf : ∀ a, m = .ok a → Checks (f a) Q) : Checks (m >>= f) (P ∧ Q) where
  passes h := by
    rcases hm.passes h.1 with ⟨a, ha⟩
    rcases (hf a ha).passes h.2 with ⟨b, hb⟩
    exact ⟨b, bind_eq_ok.2 ⟨a, ha, hb⟩⟩
  raises h := by
    by_cases hp : P
    · rcases hm.passes hp with ⟨a, ha⟩
      rcases (hf a ha).raises fun hq => h ⟨hp, hq⟩ with ⟨e, he, hdocumented⟩
      refine ⟨e, ?_, hdocumented⟩
      rw [ha]
      exact he
    · rcases hm.raises hp with ⟨e, he, hdocumented⟩
      refine ⟨e, ?_, hdocumented⟩
      rw [he]
      rfl

end Checks

theorem checks_requireNonEmpty (value fieldName : String) :
    Checks (requireNonEmpty value fieldName) (strip value ≠ "") where
  passes h := ⟨_, dif_neg h⟩
  raises h := ⟨_, dif_pos (not_not.1 h), trivial⟩

theorem checks_normalizeOptional (value : Option String) (fieldName : String) :
    Checks (normalizeOptional value fieldName) (∀ text ∈ value, strip text ≠ "") := by
  cases value with
  | none => exact ⟨fun _ => ⟨_, rfl⟩, fun h => absurd (by simp) h⟩
  | some value =>
      constructor
      · intro h
        exact ⟨_, dif_neg (h value rfl)⟩
      · intro h
        have hblank : strip value = "" := by simpa using h
        exact ⟨_, dif_pos hblank, trivial⟩

theorem checks_readMode (mode : String) :
    Checks (readMode mode) (RuntimeMode.ofValue? mode).isSome := by
  unfold readMode
  cases RuntimeMode.ofValue? mode with
  | none => exact ⟨fun h => (nomatch h), fun _ => ⟨_, rfl, trivial⟩⟩
  | some mode => exact ⟨fun _ => ⟨mode, rfl⟩, fun h => absurd rfl h⟩

theorem checks_readSide (side : String) :
    Checks (readSide side) (OrderIntentSide.ofValue? side).isSome := by
  unfold readSide
  cases OrderIntentSide.ofValue? side with
  | none => exact ⟨fun h => (nomatch h), fun _ => ⟨_, rfl, trivial⟩⟩
  | some side => exact ⟨fun _ => ⟨side, rfl⟩, fun h => absurd rfl h⟩

theorem checks_readOrderType (orderType : String) :
    Checks (readOrderType orderType) (OrderIntentType.ofValue? orderType).isSome := by
  unfold readOrderType
  cases OrderIntentType.ofValue? orderType with
  | none => exact ⟨fun h => (nomatch h), fun _ => ⟨_, rfl, trivial⟩⟩
  | some orderType => exact ⟨fun _ => ⟨orderType, rfl⟩, fun h => absurd rfl h⟩

/-- The fields before the numbers are valid. -/
structure Admitted (args : OrderIntentArgs) : Prop where
  texts : ∀ text ∈ [args.idempotencyKey, args.runtimeId, args.strategyVersionId, args.instrumentId],
    strip text ≠ ""
  optionals : ∀ value ∈ [args.timeInForce, args.correlationId, args.causationId],
    ∀ text ∈ value, strip text ≠ ""
  mode : (RuntimeMode.ofValue? args.mode).isSome
  side : (OrderIntentSide.ofValue? args.side).isSome
  orderType : (OrderIntentType.ofValue? args.orderType).isSome

theorem checks_readHead (args : OrderIntentArgs) : Checks (readHead args) (Admitted args) := by
  refine Checks.congr (P := strip args.idempotencyKey ≠ "" ∧ strip args.runtimeId ≠ "" ∧
    strip args.strategyVersionId ≠ "" ∧ strip args.instrumentId ≠ "" ∧
    (∀ text ∈ args.timeInForce, strip text ≠ "") ∧ (∀ text ∈ args.correlationId, strip text ≠ "") ∧
    (∀ text ∈ args.causationId, strip text ≠ "") ∧ (RuntimeMode.ofValue? args.mode).isSome ∧
    (OrderIntentSide.ofValue? args.side).isSome ∧
    (OrderIntentType.ofValue? args.orderType).isSome ∧ True) ?_ ?_
  · unfold readHead
    refine (checks_requireNonEmpty _ _).bind fun idempotencyKey _ => ?_
    refine (checks_requireNonEmpty _ _).bind fun runtimeId _ => ?_
    refine (checks_requireNonEmpty _ _).bind fun strategyVersionId _ => ?_
    refine (checks_requireNonEmpty _ _).bind fun instrumentId _ => ?_
    refine (checks_normalizeOptional _ _).bind fun timeInForce _ => ?_
    refine (checks_normalizeOptional _ _).bind fun correlationId _ => ?_
    refine (checks_normalizeOptional _ _).bind fun causationId _ => ?_
    refine (checks_readMode _).bind fun mode _ => ?_
    refine (checks_readSide _).bind fun side _ => ?_
    refine (checks_readOrderType _).bind fun orderType _ => ?_
    exact Checks.pure _
  · constructor
    · rintro ⟨h1, h2, h3, h4, h5, h6, h7, hmode, hside, htype, -⟩
      exact ⟨by simp [h1, h2, h3, h4], by simpa using ⟨h5, h6, h7⟩, hmode, hside, htype⟩
    · rintro ⟨htexts, hoptionals, hmode, hside, htype⟩
      simp only [List.forall_mem_cons] at htexts hoptionals
      exact ⟨htexts.1, htexts.2.1, htexts.2.2.1, htexts.2.2.2.1, hoptionals.1, hoptionals.2.1,
        hoptionals.2.2.1, hmode, hside, htype, trivial⟩

/-! ## The numbers -/

/-- A number that the comparison with zero does not refuse. -/
def AboveZero (v : NumberArg) : Prop :=
  ∃ d, v.decimal? = some d ∧ d.leZero = some false

/-- The first number that the comparison does not let pass is a NaN. -/
def NanFirst : List NumberArg → Prop
  | [] => False
  | v :: vs => v.decimal? = some .nan ∨ AboveZero v ∧ NanFirst vs

theorem nanFirst_append (vs ws : List NumberArg) :
    NanFirst (vs ++ ws) ↔ NanFirst vs ∨ (∀ v ∈ vs, AboveZero v) ∧ NanFirst ws := by
  induction vs with
  | nil => simp [NanFirst]
  | cons v vs ih =>
      rw [List.cons_append, NanFirst, NanFirst, ih, List.forall_mem_cons]
      tauto

/-- What the checks of some numbers come to. -/
inductive CheckedAs {α : Type} (m : Except OrderIntentError α) (vs : List NumberArg) : Prop where
  | passed (a : α) (eq : m = .ok a) (above : ∀ v ∈ vs, AboveZero v)
  | compared (nan : NanFirst vs) (eq : m = .error .invalidOperation)
  | refused (e : OrderIntentError) (nan : ¬ NanFirst vs) (below : ¬ ∀ v ∈ vs, AboveZero v)
      (eq : m = .error e) (documented : Documented e)

theorem not_nanFirst_of_above {vs : List NumberArg} (h : ∀ v ∈ vs, AboveZero v) :
    ¬ NanFirst vs := by
  induction vs with
  | nil => exact id
  | cons v vs ih =>
      rw [List.forall_mem_cons] at h
      rcases h.1 with ⟨d, hd, hle⟩
      rintro (hnan | ⟨-, hrest⟩)
      · cases hd.symm.trans hnan
        cases hle
      · exact ih h.2 hrest

theorem CheckedAs.bind {α β : Type} {m : Except OrderIntentError α}
    {f : α → Except OrderIntentError β} {vs ws : List NumberArg} (hm : CheckedAs m vs)
    (hf : ∀ a, m = .ok a → CheckedAs (f a) ws) : CheckedAs (m >>= f) (vs ++ ws) := by
  cases hm with
  | passed a ha habove =>
      have hbind : m >>= f = f a := by
        rw [ha]
        rfl
      rw [hbind]
      cases hf a ha with
      | passed b hb habove' => exact .passed b hb (List.forall_mem_append.2 ⟨habove, habove'⟩)
      | compared hnan hb => exact .compared ((nanFirst_append vs ws).2 (.inr ⟨habove, hnan⟩)) hb
      | refused e hnan hbelow hb hdocumented =>
          refine .refused e ?_ (fun hall => hbelow (List.forall_mem_append.1 hall).2) hb hdocumented
          rw [nanFirst_append]
          rintro (h | ⟨-, h⟩)
          · exact not_nanFirst_of_above habove h
          · exact hnan h
  | compared hnan hb =>
      refine .compared ((nanFirst_append vs ws).2 (.inl hnan)) ?_
      rw [hb]
      rfl
  | refused e hnan hbelow hb hdocumented =>
      refine .refused e ?_ (fun hall => hbelow (List.forall_mem_append.1 hall).1) ?_ hdocumented
      · rw [nanFirst_append]
        rintro (h | ⟨hall, -⟩)
        · exact hnan h
        · exact hbelow hall
      · rw [hb]
        rfl

theorem toDecimal_eq_ok {v : NumberArg} {fieldName : String} {d : PyDecimal} :
    toDecimal v fieldName = .ok d ↔ v.decimal? = some d := by
  unfold toDecimal
  cases v.decimal? <;> simp

theorem refuseZero_eq_ok {d : PyDecimal} {fieldName reason : String} {c : Compared}
    (h : refuseZero d fieldName reason = .ok c) : d = c.1 := by
  unfold refuseZero at h
  split at h
  · cases h
  · cases h
  · rw [← Except.ok.inj h]

/-- What a number is read as, when it passes. -/
theorem checkDecimal_eq_ok {v : NumberArg} {fieldName reason : String} {c : Compared}
    (h : checkDecimal v fieldName reason = .ok c) : v.decimal? = some c.1 := by
  rcases bind_eq_ok.1 h with ⟨d, hd, hc⟩
  rw [← refuseZero_eq_ok hc]
  exact toDecimal_eq_ok.1 hd

theorem checkDecimal_cases (v : NumberArg) (fieldName reason : String) :
    CheckedAs (checkDecimal v fieldName reason) [v] := by
  cases hread : v.decimal? with
  | none =>
      have hnot : ¬ AboveZero v := by
        rintro ⟨d, hd, -⟩
        rw [hread] at hd
        cases hd
      refine .refused (.orderIntentValidation fieldName "invalid_decimal") ?_ ?_ ?_ trivial
      · rintro (hnan | ⟨habove, -⟩)
        · rw [hread] at hnan
          cases hnan
        · exact hnot habove
      · exact fun hall => hnot (hall v List.mem_cons_self)
      · unfold checkDecimal toDecimal
        rw [hread]
        rfl
  | some d =>
      have hcheck : checkDecimal v fieldName reason = refuseZero d fieldName reason := by
        rw [checkDecimal, toDecimal_eq_ok.2 hread]
        rfl
      rw [hcheck]
      unfold refuseZero
      split
      · rename_i hnone
        refine .compared (.inl ?_) rfl
        rw [hread, (PyDecimal.leZero_eq_none_iff d).1 hnone]
      · rename_i hle
        have hnot : ¬ AboveZero v := by
          rintro ⟨d', hd', hle'⟩
          cases hread.symm.trans hd'
          cases hle.symm.trans hle'
        refine .refused (.orderIntentValidation fieldName reason) ?_ ?_ rfl trivial
        · rintro (hnan | ⟨habove, -⟩)
          · cases hread.symm.trans hnan
            cases hle
          · exact hnot habove
        · exact fun hall => hnot (hall v List.mem_cons_self)
      · rename_i hle
        exact .passed _ rfl (by simpa using ⟨d, hread, hle⟩)

theorem checkPrice_cases (value : Option NumberArg) (fieldName : String) :
    CheckedAs (checkPrice value fieldName) value.toList := by
  cases value with
  | none => exact .passed none rfl (by simp)
  | some v =>
      have hcheck : CheckedAs (checkPrice (some v) fieldName) ([v] ++ []) :=
        (checkDecimal_cases v _ _).bind fun c _ => .passed (some c) rfl (by simp)
      exact hcheck

/-- The numbers that are given, in the order of their checks. -/
def numbers (args : OrderIntentArgs) : List NumberArg :=
  args.quantity :: (args.limitPrice.toList ++ args.stopPrice.toList)

theorem readNumbers_cases (args : OrderIntentArgs) :
    CheckedAs (readNumbers args) (numbers args) := by
  have hlist : numbers args = [args.quantity] ++ (args.limitPrice.toList ++
      (args.stopPrice.toList ++ [])) := by
    rw [numbers, List.append_nil]
    rfl
  rw [hlist]
  refine (checkDecimal_cases args.quantity _ _).bind fun quantity _ => ?_
  refine (checkPrice_cases args.limitPrice _).bind fun limitPrice _ => ?_
  refine (checkPrice_cases args.stopPrice _).bind fun stopPrice _ => ?_
  exact .passed _ rfl (by simp)

/-- A price is read as the number that is checked. -/
theorem rel_of_checkPrice {value : Option NumberArg} {fieldName : String} {price : Option Compared}
    (h : checkPrice value fieldName = .ok price) :
    Option.Rel (fun v c => NumberArg.decimal? v = some c.1) value price := by
  cases value with
  | none =>
      obtain rfl := Except.ok.inj h
      exact .none
  | some v =>
      rcases bind_eq_ok.1 h with ⟨c, hc, h⟩
      obtain rfl := Except.ok.inj h
      exact .some (checkDecimal_eq_ok hc)

/-- The numbers of an order intent are those that its arguments are read as. -/
structure ReadAs (args : OrderIntentArgs) (numbers : Numbers) : Prop where
  quantity : args.quantity.decimal? = some numbers.quantity.1
  limitPrice : Option.Rel (fun v c => NumberArg.decimal? v = some c.1) args.limitPrice
    numbers.limitPrice
  stopPrice : Option.Rel (fun v c => NumberArg.decimal? v = some c.1) args.stopPrice
    numbers.stopPrice

theorem readAs_of_readNumbers {args : OrderIntentArgs} {numbers : Numbers}
    (h : readNumbers args = .ok numbers) : ReadAs args numbers := by
  rcases bind_eq_ok.1 h with ⟨quantity, hquantity, h⟩
  rcases bind_eq_ok.1 h with ⟨limitPrice, hlimitPrice, h⟩
  rcases bind_eq_ok.1 h with ⟨stopPrice, hstopPrice, h⟩
  obtain rfl := Except.ok.inj h
  exact ⟨checkDecimal_eq_ok hquantity, rel_of_checkPrice hlimitPrice, rel_of_checkPrice hstopPrice⟩

/-! ## The checks after the numbers -/

/-- A time is missing or a datetime. -/
def IsTime (value : PyVal) : Prop :=
  value = .none ∨ ∃ d, value = .datetime d

/-- The id is missing or a text. -/
def IsOptionalText (value : PyVal) : Prop :=
  value = .none ∨ ∃ s, value = .str s

/-- The fields after the numbers are valid. -/
structure Finished (args : OrderIntentArgs) : Prop where
  prices : ∀ orderType ∈ OrderIntentType.ofValue? args.orderType,
    PricesPresent orderType args.limitPrice args.stopPrice
  createdAt : IsTime args.createdAt
  requestedAt : IsTime args.requestedAt
  orderIntentId : ∀ s, args.orderIntentId = .str s → strip s ≠ ""

theorem checks_checkPrices (orderType : OrderIntentType) (numbers : Numbers) :
    Checks (checkPrices orderType numbers)
      (PricesPresent orderType numbers.limitPrice numbers.stopPrice) where
  passes h := ⟨⟨h⟩, dif_pos h⟩
  raises h := by
    unfold checkPrices
    rw [dif_neg h]
    cases orderType <;> exact ⟨_, rfl, trivial⟩

theorem checks_checkTime (value : PyVal) (fieldName : String) :
    Checks (checkTime value fieldName) (IsTime value) := by
  unfold checkTime
  split
  · exact ⟨fun _ => ⟨none, rfl⟩, fun h => absurd (.inl rfl) h⟩
  · rename_i d
    exact ⟨fun _ => ⟨some d, rfl⟩, fun h => absurd (.inr ⟨d, rfl⟩) h⟩
  · rename_i hnone hdatetime
    refine ⟨?_, fun _ => ⟨_, rfl, trivial⟩⟩
    rintro (h | ⟨d, h⟩)
    · exact absurd h hnone
    · exact absurd h (hdatetime d)

theorem checks_readOrderIntentId {value : PyVal} (h : IsOptionalText value) :
    Checks (readOrderIntentId value) (∀ s, value = .str s → strip s ≠ "") := by
  rcases h with rfl | ⟨s, rfl⟩
  · exact ⟨fun _ => ⟨none, rfl⟩, fun h => absurd (by simp) h⟩
  · unfold readOrderIntentId
    dsimp only
    by_cases hblank : strip s = ""
    · rw [if_pos hblank]
      exact ⟨fun h => absurd hblank (h s rfl), fun _ => ⟨_, rfl, trivial⟩⟩
    · rw [if_neg hblank]
      refine ⟨fun _ => ⟨_, rfl⟩, fun h => absurd ?_ h⟩
      intro t ht
      cases ht
      exact hblank

theorem isSome_of_rel {α β : Type} {r : α → β → Prop} {x : Option α} {y : Option β}
    (h : Option.Rel r x y) : x.isSome = y.isSome := by
  cases h <;> rfl

theorem pricesPresent_iff {args : OrderIntentArgs} {numbers : Numbers} (h : ReadAs args numbers)
    (orderType : OrderIntentType) :
    PricesPresent orderType numbers.limitPrice numbers.stopPrice ↔
      PricesPresent orderType args.limitPrice args.stopPrice := by
  have hlimit := isSome_of_rel h.limitPrice
  have hstop := isSome_of_rel h.stopPrice
  cases orderType <;> simp [PricesPresent, hlimit, hstop]

theorem orderType_of_readHead {args : OrderIntentArgs} {head : Head}
    (h : readHead args = .ok head) :
    OrderIntentType.ofValue? args.orderType = some head.orderType := by
  have hread : readOrderType args.orderType = .ok head.orderType := by
    simp only [readHead, bind_eq_ok] at h
    rcases h with ⟨_, -, _, -, _, -, _, -, _, -, _, -, _, -, _, -, _, -, orderType, htype, h⟩
    obtain rfl := Except.ok.inj h
    exact htype
  unfold readOrderType at hread
  split at hread
  · rename_i orderType htype
    rw [htype, Except.ok.inj hread]
  · cases hread

theorem checks_finish {args : OrderIntentArgs} {head : Head} {numbers : Numbers}
    (hid : IsOptionalText args.orderIntentId) (hhead : readHead args = .ok head)
    (hnumbers : readNumbers args = .ok numbers) :
    Checks (finish args head numbers) (Finished args) := by
  have htype := orderType_of_readHead hhead
  refine Checks.congr (P := PricesPresent head.orderType numbers.limitPrice numbers.stopPrice ∧
    IsTime args.createdAt ∧ IsTime args.requestedAt ∧
    (∀ s, args.orderIntentId = .str s → strip s ≠ "") ∧ True) ?_ ?_
  · unfold finish
    refine (checks_checkPrices _ _).bind fun prices _ => ?_
    refine (checks_checkTime _ _).bind fun createdAt _ => ?_
    refine (checks_checkTime _ _).bind fun requestedAt _ => ?_
    refine (checks_readOrderIntentId hid).bind fun orderIntentId _ => ?_
    exact Checks.pure _
  · rw [pricesPresent_iff (readAs_of_readNumbers hnumbers)]
    constructor
    · rintro ⟨hprices, hcreated, hrequested, hoid, -⟩
      refine ⟨?_, hcreated, hrequested, hoid⟩
      intro orderType hmem
      rw [htype] at hmem
      cases hmem
      exact hprices
    · rintro ⟨hprices, hcreated, hrequested, hoid⟩
      exact ⟨hprices _ htype, hcreated, hrequested, hoid, trivial⟩

/-! ## The contract -/

/-- The text of a number in the dictionary is read back as that number. -/
def TextReadsBack (intent : OrderIntent) (key : String) (d : PyDecimal) : Prop :=
  ∃ text, intent.toDict.get key = .str text ∧ PyDecimal.ofText text = some d

/-- The numbers are finite and above zero, the prices are those that the type of the order needs,
and the texts of the dictionary are read back. -/
structure WellFormed (intent : OrderIntent) : Prop where
  quantity : intent.quantity.1.IsPositive ∧ intent.TextReadsBack "quantity" intent.quantity.1
  limitPrice : ∀ p ∈ intent.limitPrice, p.1.IsPositive ∧ intent.TextReadsBack "limit_price" p.1
  stopPrice : ∀ p ∈ intent.stopPrice, p.1.IsPositive ∧ intent.TextReadsBack "stop_price" p.1
  prices : PricesPresent intent.orderType intent.limitPrice intent.stopPrice

/-- An order intent is well formed, or rejected with one of the two errors. -/
def Contract : Except OrderIntentError OrderIntent → Prop
  | .ok intent => intent.WellFormed
  | .error e => Documented e

/-- A NaN is compared with zero. -/
structure NanCompared (args : OrderIntentArgs) : Prop where
  admitted : Admitted args
  nan : NanFirst (numbers args)

/-- Every check passes, and one of the numbers is infinite. -/
structure InfinityPasses (args : OrderIntentArgs) : Prop where
  admitted : Admitted args
  above : ∀ v ∈ numbers args, AboveZero v
  finished : Finished args
  infinite : ∃ v ∈ numbers args, v.decimal? = some (.infinite false)

theorem get_toDict (intent : OrderIntent) :
    intent.toDict.get "quantity" = .str intent.quantity.1.text ∧
      intent.toDict.get "limit_price" = optionalValue (intent.limitPrice.map fun p => p.1.text) ∧
      intent.toDict.get "stop_price" = optionalValue (intent.stopPrice.map fun p => p.1.text) := by
  refine ⟨?_, ?_, ?_⟩ <;> simp [toDict, PyDict.get, PyDict.get?]

/-- A number that passed the comparison is an infinity or a finite number above zero. -/
theorem Compared.isPositive_iff (c : Compared) : c.1.IsPositive ↔ c.1 ≠ .infinite false := by
  constructor
  · rintro h heq
    rw [heq] at h
    exact PyDecimal.not_isPositive_infinite false h
  · intro h
    rcases (PyDecimal.leZero_eq_false_iff c.1).1 c.2 with hpos | hinf
    · exact hpos
    · exact absurd hinf h

theorem wellFormed_iff (intent : OrderIntent) :
    intent.WellFormed ↔ intent.quantity.1 ≠ .infinite false ∧
      (∀ p ∈ intent.limitPrice, p.1 ≠ .infinite false) ∧
      ∀ p ∈ intent.stopPrice, p.1 ≠ .infinite false := by
  rcases intent.get_toDict with ⟨hquantity, hlimit, hstop⟩
  constructor
  · intro h
    exact ⟨(Compared.isPositive_iff _).1 h.quantity.1,
      fun p hp => (Compared.isPositive_iff p).1 (h.limitPrice p hp).1,
      fun p hp => (Compared.isPositive_iff p).1 (h.stopPrice p hp).1⟩
  · rintro ⟨hq, hl, hs⟩
    refine ⟨?_, ?_, ?_, intent.prices_present⟩
    · have hpos := (Compared.isPositive_iff _).2 hq
      exact ⟨hpos, _, hquantity, hpos.ofText_text⟩
    · intro p hp
      have hpos := (Compared.isPositive_iff p).2 (hl p hp)
      rw [Option.mem_def] at hp
      refine ⟨hpos, p.1.text, ?_, hpos.ofText_text⟩
      rw [hlimit, hp]
      rfl
    · intro p hp
      have hpos := (Compared.isPositive_iff p).2 (hs p hp)
      rw [Option.mem_def] at hp
      refine ⟨hpos, p.1.text, ?_, hpos.ofText_text⟩
      rw [hstop, hp]
      rfl

/-- A price that is read is infinite exactly when its argument is. -/
theorem exists_infinite_iff {value : Option NumberArg} {price : Option Compared}
    (h : Option.Rel (fun v c => NumberArg.decimal? v = some c.1) value price) :
    (∃ v ∈ value.toList, v.decimal? = some (.infinite false)) ↔
      ¬ ∀ p ∈ price, p.1 ≠ .infinite false := by
  cases h with
  | none => simp
  | @some v c hread => simp [hread]

theorem numbers_infinite_iff {args : OrderIntentArgs} {read : Numbers} (h : ReadAs args read) :
    (∃ v ∈ numbers args, v.decimal? = some (.infinite false)) ↔
      ¬ (read.quantity.1 ≠ .infinite false ∧ (∀ p ∈ read.limitPrice, p.1 ≠ .infinite false) ∧
        ∀ p ∈ read.stopPrice, p.1 ≠ .infinite false) := by
  have hlimit := exists_infinite_iff h.limitPrice
  have hstop := exists_infinite_iff h.stopPrice
  rw [numbers, List.exists_mem_cons_iff, h.quantity, Option.some.injEq]
  simp only [List.mem_append, or_and_right, exists_or]
  rw [hlimit, hstop]
  tauto

/-- An order intent is well formed or rejected as documented, unless a NaN is compared or an infinity
is let through. -/
theorem contract_iff {args : OrderIntentArgs} (hid : IsOptionalText args.orderIntentId) :
    Contract (make args) ↔ ¬ NanCompared args ∧ ¬ InfinityPasses args := by
  by_cases hadmitted : Admitted args
  · rcases (checks_readHead args).passes hadmitted with ⟨head, hhead⟩
    have hmake : make args = (readNumbers args >>= fun numbers => finish args head numbers) := by
      rw [make, hhead]
      rfl
    cases readNumbers_cases args with
    | passed read hread habove =>
        have hnan : ¬ NanCompared args := fun h => not_nanFirst_of_above habove h.nan
        have hfinish := checks_finish hid hhead hread
        rw [hmake, hread]
        by_cases hfinished : Finished args
        · rcases hfinish.passes hfinished with ⟨intent, hintent⟩
          have hnumbers : intent.toNumbers = read := by
            simp only [finish, bind_eq_ok] at hintent
            rcases hintent with ⟨_, -, _, -, _, -, _, -, h⟩
            rw [← Except.ok.inj h]
          have hresult : (Except.ok read >>= fun numbers => finish args head numbers) =
              .ok intent := hintent
          rw [hresult, Contract, wellFormed_iff]
          have hinfinite := numbers_infinite_iff (readAs_of_readNumbers hread)
          rw [← hnumbers] at hinfinite
          constructor
          · intro hwell
            exact ⟨hnan, fun h => hinfinite.1 h.infinite hwell⟩
          · rintro ⟨-, hpasses⟩
            by_contra hwell
            exact hpasses ⟨hadmitted, habove, hfinished, hinfinite.2 hwell⟩
        · rcases hfinish.raises hfinished with ⟨e, he, hdocumented⟩
          have hresult : (Except.ok read >>= fun numbers => finish args head numbers) =
              .error e := he
          rw [hresult]
          exact iff_of_true hdocumented ⟨hnan, fun h => hfinished h.finished⟩
    | compared hnan hread =>
        rw [hmake, hread]
        refine iff_of_false ?_ fun h => h.1 ⟨hadmitted, hnan⟩
        exact id
    | refused e hnan hbelow hread hdocumented =>
        rw [hmake, hread]
        exact iff_of_true hdocumented ⟨fun h => hnan h.nan, fun h => hbelow h.above⟩
  · rcases (checks_readHead args).raises hadmitted with ⟨e, he, hdocumented⟩
    have hmake : make args = .error e := by
      rw [make, he]
      rfl
    rw [hmake]
    exact iff_of_true hdocumented ⟨fun h => hadmitted h.admitted, fun h => hadmitted h.admitted⟩

/-! ## Orders with special values -/

/-- A market order for a quantity. -/
def marketOrder (quantity : NumberArg) : OrderIntentArgs where
  idempotencyKey := "key-1"
  runtimeId := "rt-1"
  strategyVersionId := "v-1"
  mode := "PAPER"
  instrumentId := "ES"
  side := "BUY"
  orderType := "MARKET"
  quantity

/-- A quantity with a fraction is accepted, and its text is read back. -/
theorem fractional_quantity_wellFormed : Contract (make (marketOrder (.str "1.50"))) := by
  refine (contract_iff (.inl rfl)).2 ⟨?_, ?_⟩
  · rintro ⟨-, hnan | ⟨-, hnone⟩⟩
    · revert hnan
      decide +kernel
    · exact hnone
  · rintro ⟨-, -, -, v, hv, hinfinite⟩
    obtain rfl := List.mem_singleton.1 hv
    revert hinfinite
    decide +kernel

/-- A NaN raises another error than the documented ones; an infinite quantity is accepted. -/
theorem special_quantities_break_contract :
    ¬ Contract (make (marketOrder (.str "NaN"))) ∧
      ¬ Contract (make (marketOrder (.float (.infinite false)))) := by
  have hnan : (make (marketOrder (.str "NaN"))).map (fun intent => intent.quantity.1) =
      .error .invalidOperation := by decide +kernel
  have hinfinite : (make (marketOrder (.float (.infinite false)))).map
      (fun intent => intent.quantity.1) = .ok (.infinite false) := by decide +kernel
  constructor
  · cases hmake : make (marketOrder (.str "NaN")) with
    | ok intent =>
        rw [hmake] at hnan
        cases hnan
    | error e =>
        rw [hmake] at hnan
        obtain rfl := Except.error.inj hnan
        exact id
  · cases hmake : make (marketOrder (.float (.infinite false))) with
    | error e =>
        rw [hmake] at hinfinite
        cases hinfinite
    | ok intent =>
        rw [hmake] at hinfinite
        intro hcontract
        exact ((wellFormed_iff intent).1 hcontract).1 (Except.ok.inj hinfinite)

end OrderIntent
end Domain
end StrategyWorker
