import StrategyWorker.Bootstrap.LaunchSpec
import StrategyWorker.Library.FloatText
import StrategyWorker.Transport.OrderAudit

/-!
# From the strategy's order to the message

A strategy calls {lit}`buy` or {lit}`sell` of its context with an order intent
of the SDK or with an instrument and a quantity.  The order service copies the
intent, the submitter turns the copy into a payload, and the client of the
order management service builds the message.

The values of the SDK's enumerations and its order intents are parameters.
Each submission draws its identifiers, its time and the latest market time
from the worker.

Main results:

- Theorem {lit}`sent_limitPrice`: every message carries the limit price, and
  the reference price where there is none.
- Theorem {lit}`limit_price_right_iff`: for which orders that is right.
-/

namespace StrategyWorker
namespace Transport

open Library Integration
open PyText
open Bootstrap (LaunchSpec)
open Binary64 (PyFloat)

/-! ## Orders of the SDK -/

inductive OrderSide where
  | buy
  | sell
  deriving DecidableEq, Repr

/-- {lit}`OrderIntent` of the SDK; members of enumerations are given by their values. -/
structure SdkOrderIntent where
  instrumentId : PyVal
  side : OrderSide
  quantity : PyVal
  price : PyVal
  orderType : String
  limitPrice : PyVal
  stopPrice : PyVal
  timeInForce : Option String

/-- What the worker uses of the SDK. -/
structure Sdk where
  /-- {lit}`OrderSide.BUY.value` and {lit}`OrderSide.SELL.value`. -/
  sideValue : OrderSide → String
  /-- {lit}`OrderType.MARKET.value`. -/
  market : String
  /-- {lit}`OrderIntent(instrument_id=…, side=…, quantity=…, price=…, order_type=…)`, which may
  refuse its arguments. -/
  orderIntent : (instrumentId : String) → (side : OrderSide) → (quantity price : PyFloat) →
    (orderType : String) → Except PyException SdkOrderIntent

/-- The optional prices of a new intent are unset. -/
def Sdk.LeavesLimitUnset (sdk : Sdk) : Prop :=
  ∀ instrumentId side quantity price orderType intent,
    sdk.orderIntent instrumentId side quantity price orderType = .ok intent →
      intent.limitPrice = .none

/-! ## The order service -/

/-- {lit}`ReplayOrderIntent`. -/
structure ReplayOrderIntent where
  instrumentId : String
  side : OrderSide
  quantity : PyFloat
  price : PyFloat
  orderType : String
  limitPrice : Option PyFloat
  stopPrice : Option PyFloat
  timeInForce : Option String
  clientOrderId : Option String
  createdAt : PyDateTime

/-- {lit}`float(value)`. -/
def asFloat (value : PyVal) : Except PyException PyFloat :=
  value.toFloat.mapError PyError.raised

/-- {lit}`None if value is None else float(value)`. -/
def asOptionalFloat (value : PyVal) : Except PyException (Option PyFloat) :=
  if value.isNone then .ok none else (asFloat value).map some

/-- {lit}`_normalize_utc_dt(value)`. -/
def normalizeUtcDt (value : PyDateTime) : Except PyException PyDateTime :=
  (astimezoneUtc value.naiveAsUtc).mapError PyError.raised

/-- {lit}`_replay_intent_from_sdk(oi)` at the given time of submission. -/
def replayIntentFromSdk (submissionTime : PyDateTime) (oi : SdkOrderIntent) :
    Except PyException ReplayOrderIntent := do
  let createdAt ← normalizeUtcDt submissionTime
  let quantity ← asFloat oi.quantity
  let price ← asFloat oi.price
  let limitPrice ← asOptionalFloat oi.limitPrice
  let stopPrice ← asOptionalFloat oi.stopPrice
  return {
    instrumentId := oi.instrumentId.text
    side := oi.side
    quantity, price
    orderType := oi.orderType
    limitPrice, stopPrice
    timeInForce := oi.timeInForce
    clientOrderId := none
    createdAt }

/-! ## The submitter -/

/-- What a submission takes from the worker: new identifiers, the wall clock, and the answer of
{lit}`latest_market_event_at`, {lit}`none` when it raises. -/
structure Draws where
  correlationId : String
  idempotencyKey : String
  orderIntentId : String
  submissionTime : PyDateTime
  requestedAt : PyDateTime
  latestMarketEventAt : Option (Option PyDateTime)

/-- {lit}`_intent_idempotency_key(intent)`. -/
def intentIdempotencyKey (fresh : String) (intent : ReplayOrderIntent) : String :=
  match intent.clientOrderId with
  | some v => if strip v = "" then fresh else strip v
  | none => fresh

/-- {lit}`_intent_created_at_for_payload`: the latest market time, else the intent's own, which is
always there. -/
def intentCreatedAtForPayload (draws : Draws) (intent : ReplayOrderIntent) :
    Except PyException PyDateTime :=
  match draws.latestMarketEventAt with
  | some (some snap) => normalizeUtcDt snap
  | _ => normalizeUtcDt intent.createdAt

/-- {lit}`"" if value is None else str(value)`. -/
def optionalFloatText : Option PyFloat → String
  | none => ""
  | some f => floatText f

/-- {lit}`(value or "").strip()`. -/
def strippedText (value : Option String) : String :=
  strip (value.getD "")

/-- {lit}`a or b` of texts. -/
def textOr (a b : String) : String :=
  if a = "" then b else a

/-- {lit}`sdk_order_intent_to_oms_grpc_payload`. -/
def sdkOrderIntentToOmsGrpcPayload (sdk : Sdk) (launchSpec : LaunchSpec) (correlationId : String)
    (draws : Draws) (intent : ReplayOrderIntent) : PyDict :=
  let wireCorr :=
    textOr (strippedText launchSpec.correlationId) (textOr (strip correlationId) draws.correlationId)
  -- The reference price stands in for a missing limit price.
  let priceField := intent.limitPrice.or (some intent.price)
  [("correlation_id", .str wireCorr),
    ("account_id", .str (textOr (launchSpec.accountId.getD "") (launchSpec.traderId.getD ""))),
    ("mode", .str launchSpec.mode.value),
    ("instrument_id", .str intent.instrumentId),
    ("side", .str (sdk.sideValue intent.side)),
    ("order_type", .str intent.orderType),
    ("time_in_force", .str (intent.timeInForce.getD "")),
    ("quantity", .str (floatText intent.quantity)),
    ("limit_price", .str (optionalFloatText priceField)),
    ("stop_price", .str (optionalFloatText intent.stopPrice)),
    ("idempotency_key", .str (intentIdempotencyKey draws.idempotencyKey intent)),
    ("runtime_id", .str launchSpec.runtimeId),
    ("strategy_version_id", .str launchSpec.strategyVersionId),
    ("tenant_id", .str launchSpec.tenantId),
    ("job_id", .str (strippedText launchSpec.jobId)),
    ("symbol", .str (strippedText launchSpec.symbol))]

/-- The worker that orders are submitted in. -/
structure OrderWorker where
  sdk : Sdk
  host : Host
  launchSpec : LaunchSpec
  omsCorrelationId : String
  disableOrderIntentGrpc : Bool

/-- The payload with the fields that the submitter adds. -/
def OrderWorker.preparePayload (w : OrderWorker) (draws : Draws) (intent : ReplayOrderIntent) :
    Except PyException PyDict := do
  let payload :=
    sdkOrderIntentToOmsGrpcPayload w.sdk w.launchSpec w.omsCorrelationId draws intent
  let createdAt ← intentCreatedAtForPayload draws intent
  return payload ++ [("order_intent_id", .str draws.orderIntentId),
    ("created_at", .datetime createdAt), ("requested_at", .datetime draws.requestedAt)]

/-- {lit}`OmsGateway.submit_order_intent_payload(payload)`: the payload is shown on the console, and
then the client builds its request. -/
def submitOrderIntentPayload (host : Host) (payload : PyDict) : Except PyException OrderIntent := do
  let _ ← orderIntentWireDictForConsole payload
  orderIntentRequest host payload

/-- {lit}`_submit(intent)`: the message that is handed to the stub, if any. -/
def OrderWorker.submit (w : OrderWorker) (draws : Draws) (intent : ReplayOrderIntent) :
    Option OrderIntent :=
  if w.disableOrderIntentGrpc then none
  else (w.preparePayload draws intent >>= submitOrderIntentPayload w.host).toOption

/-! ## The context of the strategy -/

/-- The two forms of a call of {lit}`buy` or {lit}`sell`. -/
inductive StrategyOrder where
  | intent (oi : SdkOrderIntent)
  | instrument (first qty : PyVal) (kwargs : PyDict)

/-- {lit}`DefaultOrderService.buy(order_intent)` and {lit}`sell(order_intent)`. -/
def OrderWorker.deliver (w : OrderWorker) (draws : Draws) (side : OrderSide) (oi : SdkOrderIntent) :
    Except PyException (Option OrderIntent) := do
  if oi.side ≠ side then
    .error ⟨.valueError, some (match side with
      | .buy => "buy() requires OrderIntent with side=BUY"
      | .sell => "sell() requires OrderIntent with side=SELL")⟩
  else return w.submit draws (← replayIntentFromSdk draws.submissionTime oi)

/-- {lit}`float(kwargs.get("price") or kwargs.get("reference_price") or 1.0)`. -/
def referencePrice (kwargs : PyDict) : Except PyException PyFloat :=
  asFloat (((kwargs.get "price").orElse (kwargs.get "reference_price")).orElse
    (.float (.finite 1)))

/-- An order of the strategy on one side: the exception that it sees, or the message that leaves
the worker. -/
def OrderWorker.placeOrder (w : OrderWorker) (draws : Draws) (side : OrderSide) :
    StrategyOrder → Except PyException (Option OrderIntent)
  | .intent oi => w.deliver draws side oi
  | .instrument first qty kwargs =>
      if qty.isNone then
        .error ⟨.typeError, some (match side with
          | .buy => "buy(instrument_id, qty=...) requires qty= when not passing OrderIntent"
          | .sell => "sell(instrument_id, qty=...) requires qty= when not passing OrderIntent")⟩
      else do
        let price ← referencePrice kwargs
        let quantity ← asFloat qty
        let oi ← w.sdk.orderIntent first.text side quantity price w.sdk.market
        w.deliver draws side oi

/-- {lit}`RuntimeOrdersContext.buy`. -/
def OrderWorker.buy (w : OrderWorker) (draws : Draws) (order : StrategyOrder) :
    Except PyException (Option OrderIntent) :=
  w.placeOrder draws .buy order

/-- {lit}`RuntimeOrdersContext.sell`. -/
def OrderWorker.sell (w : OrderWorker) (draws : Draws) (order : StrategyOrder) :
    Except PyException (Option OrderIntent) :=
  w.placeOrder draws .sell order

/-! ## Which price the message carries -/

/-- The types of orders that have a limit price. -/
def limitTypes : List String :=
  ["LIMIT", "STOP_LIMIT"]

/-- The order type that the strategy asks for. -/
def StrategyOrder.orderType (sdk : Sdk) : StrategyOrder → String
  | .intent oi => oi.orderType
  | .instrument _ _ _ => sdk.market

/-- The limit price that the strategy gives; the form with an instrument has none. -/
def StrategyOrder.limitPrice : StrategyOrder → PyVal
  | .intent oi => oi.limitPrice
  | .instrument _ _ _ => .none

/-- A limit price in the message is the one of an order that has one. -/
def LimitPriceRight (sdk : Sdk) (order : StrategyOrder) (m : OrderIntent) : Prop :=
  m.limitPrice ≠ "" → order.orderType sdk ∈ limitTypes ∧
    ∃ price, asFloat order.limitPrice = .ok price ∧ m.limitPrice = floatText price

/-- The strategy gives a limit price with an order of such a type. -/
def StrategyOrder.IsPriced (sdk : Sdk) (order : StrategyOrder) : Prop :=
  order.orderType sdk ∈ limitTypes ∧ order.limitPrice.isNone = false

instance (sdk : Sdk) (order : StrategyOrder) : Decidable (order.IsPriced sdk) :=
  inferInstanceAs (Decidable (_ ∧ _))

section

variable {w : OrderWorker} {draws : Draws} {side : OrderSide} {order : StrategyOrder}
variable {m : OrderIntent}

/-- The client takes a limit price that is not blank from the payload. -/
theorem limitPrice_of_request {host : Host} {payload : PyDict} {text : String}
    (h : orderIntentRequest host payload = .ok m)
    (hget : payload.get? "limit_price" = some (.str text)) (hne : text ≠ "") :
    m.limitPrice = strip text := by
  have hresolved : (resolved payload).get "limit_price" = .str text := by
    have hraw : ((payload.pop "replay_session_id").pop "strategy_context").get? "limit_price" =
        some (.str text) := by
      rw [get?_pop_fields payload (by decide), hget]
    rw [resolved, PyDict.get, get?_withTimeInForce (by decide), get?_withMode (by decide)]
    unfold withLimitPrice
    have hblank : isBlank (PyDict.get ((payload.pop "replay_session_id").pop "strategy_context")
        "limit_price") = false := by
      rw [PyDict.get, hraw]
      simpa [isBlank] using hne
    rw [hblank, if_neg (by simp), hraw, Option.getD_some]
  have htext := (sent_of_request h).texts ("limit_price", m.limitPrice)
    (by simp [OrderIntent.ownTexts])
  have hcoerced : "limit_price" ∈ coercedFields := by decide
  rw [PyDict.get, get?_coerced_normalize hcoerced, hresolved] at htext
  exact (Except.ok.inj htext).symm

/-- The payload has the limit price of the intent, or else its reference price. -/
theorem get?_limitPrice_prepared {intent : ReplayOrderIntent} {payload : PyDict}
    (h : w.preparePayload draws intent = .ok payload) :
    payload.get? "limit_price" =
      some (.str (floatText (intent.limitPrice.getD intent.price))) := by
  rcases bind_eq_ok.1 h with ⟨createdAt, -, hpayload⟩
  rw [← Except.ok.inj hpayload, PyDict.get?_append]
  simp only [sdkOrderIntentToOmsGrpcPayload, PyDict.get?_cons]
  cases intent.limitPrice <;> rfl

theorem limitPrice_of_submit {intent : ReplayOrderIntent} (h : w.submit draws intent = some m) :
    m.limitPrice = floatText (intent.limitPrice.getD intent.price) := by
  unfold OrderWorker.submit at h
  split at h
  · cases h
  · have hsent := eq_ok_of_toOption h
    rcases bind_eq_ok.1 hsent with ⟨payload, hpayload, hrequest⟩
    rcases bind_eq_ok.1 hrequest with ⟨shown, -, hrequest⟩
    have hget := get?_limitPrice_prepared hpayload
    rw [limitPrice_of_request hrequest hget (floatText_ne_empty _), strip_floatText]

/-- The copy of an intent has its limit price as a float. -/
theorem limitPrice_of_replayIntent {t : PyDateTime} {oi : SdkOrderIntent}
    {intent : ReplayOrderIntent} (h : replayIntentFromSdk t oi = .ok intent) :
    asOptionalFloat oi.limitPrice = .ok intent.limitPrice := by
  unfold replayIntentFromSdk at h
  simp only [bind_eq_ok] at h
  rcases h with ⟨createdAt, -, quantity, -, price, -, limitPrice, hlimit, stopPrice, -, hintent⟩
  rw [← Except.ok.inj hintent]
  exact hlimit

theorem limitPrice_of_deliver {oi : SdkOrderIntent} (h : w.deliver draws side oi = .ok (some m)) :
    ∃ limit price, asOptionalFloat oi.limitPrice = .ok limit ∧
      m.limitPrice = floatText (limit.getD price) := by
  unfold OrderWorker.deliver at h
  split at h
  · cases h
  · rcases bind_eq_ok.1 h with ⟨intent, hintent, hsubmit⟩
    have hsent : w.submit draws intent = some m := Except.ok.inj hsubmit
    exact ⟨intent.limitPrice, intent.price, limitPrice_of_replayIntent hintent,
      limitPrice_of_submit hsent⟩

/-- Every message carries the limit price of the order, or else some reference price. -/
theorem sent_limitPrice (hsdk : w.sdk.LeavesLimitUnset)
    (h : w.placeOrder draws side order = .ok (some m)) :
    ∃ limit price, asOptionalFloat order.limitPrice = .ok limit ∧
      m.limitPrice = floatText (limit.getD price) := by
  cases order with
  | intent oi => exact limitPrice_of_deliver h
  | instrument first qty kwargs =>
      unfold OrderWorker.placeOrder at h
      dsimp only at h
      by_cases hqty : qty.isNone = true
      · rw [if_pos hqty] at h
        cases h
      · rw [if_neg hqty] at h
        simp only [bind_eq_ok] at h
        rcases h with ⟨price, -, quantity, -, oi, hoi, hdeliver⟩
        rcases limitPrice_of_deliver hdeliver with ⟨limit, reference, hlimit, htext⟩
        rw [hsdk _ _ _ _ _ _ hoi] at hlimit
        exact ⟨limit, reference, hlimit, htext⟩

/-- The price of a message is right when the order has a limit price to give, and only then. -/
theorem limitPriceRight_placeOrder_iff (hsdk : w.sdk.LeavesLimitUnset)
    (h : w.placeOrder draws side order = .ok (some m)) :
    LimitPriceRight w.sdk order m ↔ order.IsPriced w.sdk := by
  rcases sent_limitPrice hsdk h with ⟨limit, reference, hlimit, htext⟩
  constructor
  · intro hright
    have hne : m.limitPrice ≠ "" := by
      rw [htext]
      exact floatText_ne_empty _
    rcases hright hne with ⟨htype, price, hprice, -⟩
    refine ⟨htype, ?_⟩
    cases hgiven : order.limitPrice with
    | none =>
        rw [hgiven] at hprice
        cases hprice
    | _ => rfl
  · rintro ⟨htype, hgiven⟩ -
    unfold asOptionalFloat at hlimit
    rw [hgiven, if_neg (by simp)] at hlimit
    cases hprice : asFloat order.limitPrice with
    | error e =>
        rw [hprice] at hlimit
        cases hlimit
    | ok price =>
        rw [hprice] at hlimit
        have hsome : some price = limit := Except.ok.inj hlimit
        rw [← hsome] at htext
        exact ⟨htype, price, rfl, htext⟩

/-- A call of {lit}`buy` or {lit}`sell` has the right limit price in its message exactly when the
order is of a type with a limit price and the strategy gives one. -/
theorem limit_price_right_iff (hsdk : w.sdk.LeavesLimitUnset)
    (h : w.buy draws order = .ok (some m) ∨ w.sell draws order = .ok (some m)) :
    LimitPriceRight w.sdk order m ↔ order.IsPriced w.sdk := by
  rcases h with h | h
  · exact limitPriceRight_placeOrder_iff hsdk h
  · exact limitPriceRight_placeOrder_iff hsdk h

end

/-! ## Two orders -/

/-- An SDK whose intents hold the arguments that they are given. -/
def plainSdk : Sdk where
  sideValue
    | .buy => "BUY"
    | .sell => "SELL"
  market := "MARKET"
  orderIntent instrumentId side quantity price orderType :=
    .ok {
      instrumentId := .str instrumentId
      side
      quantity := .float quantity
      price := .float price
      orderType
      limitPrice := .none
      stopPrice := .none
      timeInForce := none }

theorem plainSdk_leavesLimitUnset : plainSdk.LeavesLimitUnset := by
  intro instrumentId side quantity price orderType intent h
  cases h
  rfl

/-- A worker for paper orders. -/
def paperWorker : OrderWorker where
  sdk := plainSdk
  host := epochHost
  launchSpec := {
    runtimeId := "rt-1"
    tenantId := "t1"
    strategyVersionId := "sv1"
    mode := .paper
    launchAttempt := 1
    artifactUri := "file:///x"
    entrypoint := "m:s"
    traderId := none
    accountId := some "acct-1"
    artifactDigest := none
    jobId := none
    tsStart := none
    tsEnd := none
    symbol := some "AAPL"
    correlationId := none }
  omsCorrelationId := ""
  disableOrderIntentGrpc := false

/-- Identifiers and times for one submission. -/
def epochDraws : Draws where
  correlationId := "c1"
  idempotencyKey := "k1"
  orderIntentId := "i1"
  submissionTime := epochUtc
  requestedAt := epochUtc
  latestMarketEventAt := some none

/-- A limit order at 50.5 with a reference price of 52. -/
def limitOrder : StrategyOrder :=
  .intent {
    instrumentId := .str "AAPL"
    side := .buy
    quantity := .int 10
    price := .int 52
    orderType := "LIMIT"
    limitPrice := .float (.finite (101 / 2))
    stopPrice := .none
    timeInForce := some "DAY" }

/-- A market order for ten shares, without any price. -/
def marketOrder : StrategyOrder :=
  .instrument (.str "AAPL") (.int 10) []

theorem exists_sent {order : StrategyOrder}
    (h : ((paperWorker.buy epochDraws order).toOption.bind id).isSome = true) :
    ∃ m, paperWorker.buy epochDraws order = .ok (some m) := by
  rcases Option.isSome_iff_exists.1 h with ⟨m, hm⟩
  rcases Option.bind_eq_some_iff.1 hm with ⟨sent, hsent, hid⟩
  cases hid
  exact ⟨m, eq_ok_of_toOption hsent⟩

theorem limitOrder_price_right :
    ∃ m, paperWorker.buy epochDraws limitOrder = .ok (some m) ∧
      LimitPriceRight paperWorker.sdk limitOrder m := by
  obtain ⟨m, hm⟩ : ∃ m, paperWorker.buy epochDraws limitOrder = .ok (some m) :=
    exists_sent (by decide +kernel)
  exact ⟨m, hm, (limit_price_right_iff plainSdk_leavesLimitUnset (.inl hm)).2 (by decide)⟩

/-- A market order is sent with the default reference price as its limit price. -/
theorem market_order_has_limit_price :
    ¬ ∀ (w : OrderWorker) (draws : Draws) (order : StrategyOrder) (m : OrderIntent),
      w.sdk.LeavesLimitUnset →
        w.buy draws order = .ok (some m) ∨ w.sell draws order = .ok (some m) →
          LimitPriceRight w.sdk order m := by
  intro h
  obtain ⟨m, hm⟩ : ∃ m, paperWorker.buy epochDraws marketOrder = .ok (some m) :=
    exists_sent (by decide +kernel)
  rcases sent_limitPrice plainSdk_leavesLimitUnset hm with ⟨limit, price, -, htext⟩
  have hne : m.limitPrice ≠ "" := by
    rw [htext]
    exact floatText_ne_empty _
  have htype := (h _ _ _ _ plainSdk_leavesLimitUnset (.inl hm) hne).1
  revert htype
  decide

end Transport
end StrategyWorker
