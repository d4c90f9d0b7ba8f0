import StrategyWorker.Integration.EpochTime

/-!
# Balance updates of the account

{lit}`RuntimeAccountContext.apply_pls_balance_update` reads the balance of a
portfolio-ledger message and hands it to {lit}`SnapshotPortfolioService`, which
replaces time and cash of its snapshot.  A field that is missing or blank is
read as zero; a field that is no numeral raises before anything is replaced.

Main results:

- Theorem {lit}`parseCashValue_returns_iff`: the values that are read without
  an exception.
- Theorem {lit}`applyPlsBalanceUpdate_eq_ok_iff`: the messages that are applied,
  and what the snapshot then holds.
- Theorem {lit}`parseCashValue_of_number`: a number is read as it is.
-/

namespace StrategyWorker
namespace Bootstrap

open Library
open Library.PyText
open Library.Binary64
open Integration

/-! ## The snapshot -/

structure CashBalance where
  currency : String
  free : PyFloat
  locked : PyFloat
  buyingPower : Option PyFloat
  equity : Option PyFloat
  deriving DecidableEq

/-- A portfolio snapshot; {lit}`Others` are its positions and what else is not touched. -/
structure PortfolioSnapshot (Others : Type) where
  accountId : String
  runId : String
  tsEvent : PyDateTime
  cashBalance : CashBalance
  others : Others

variable {Others : Type}

/-- {lit}`SnapshotPortfolioService.apply_pls_balance_update`. -/
def PortfolioSnapshot.applyBalance (snapshot : PortfolioSnapshot Others)
    (cashBalance buyingPower equity : PyFloat) (timestamp : PyDateTime) :
    PortfolioSnapshot Others :=
  let cur := snapshot.cashBalance
  { snapshot with
    tsEvent := timestamp
    cashBalance := ⟨cur.currency, cashBalance, cur.locked, some buyingPower, some equity⟩ }

/-! ## Reading a message -/

/-- {lit}`_parse_cash_value`; the text of a list or a dictionary is no numeral. -/
def parseCashValue : PyVal → Except PyError PyFloat
  | .none => .ok (.finite 0)
  | .bool b => (PyVal.bool b).toFloat
  | .int n => (PyVal.int n).toFloat
  | .float f => (PyVal.float f).toFloat
  | raw =>
      if strip raw.text = "" then .ok (.finite 0)
      else (floatOfText (strip raw.text)).elim (.error .valueError) .ok

/-- {lit}`_parse_pls_timestamp`. -/
def parsePlsTimestamp : PyVal → Option PyDateTime
  | .datetime raw => some raw.naiveAsUtc
  | .str raw => parseIsoText raw
  | _ => none

/-- {lit}`RuntimeAccountContext.apply_pls_balance_update` at a time of the wall clock: the snapshot
after it and the answer. -/
def applyPlsBalanceUpdate (snapshot : PortfolioSnapshot Others) (msg : PyDict)
    (now : PyDateTime) : Except PyError (PortfolioSnapshot Others × Bool) :=
  match msg.get "balance" with
  | .dict balance => do
      let ts := (parsePlsTimestamp (msg.get "timestamp")).getD now
      let cash ← parseCashValue (PyDict.get balance "cash_balance")
      let bp ← parseCashValue (PyDict.get balance "buying_power")
      let eq ← parseCashValue (PyDict.get balance "equity")
      return (snapshot.applyBalance cash bp eq ts, true)
  | _ => return (snapshot, false)

/-! ## What is read -/

/-- The values that are read without an exception: nothing, truth values, floats, integers in the
range of floats, and texts that are blank or numerals. -/
def Readable : PyVal → Prop
  | .none | .bool _ | .float _ => True
  | .int n => |fl n| < floatLimit
  | .str s => strip s = "" ∨ (floatOfText (strip s)).isSome
  | .scalar v => strip v.text = "" ∨ (floatOfText (strip v.text)).isSome
  | .datetime _ | .list _ | .dict _ => False

/-- The number that a value of a message is: an integer, a float, or a text that is a numeral. -/
def numberOfField : PyVal → Option PyFloat
  | .int n => (floatOfInt n).toOption
  | .float f => some f
  | .str s => if strip s = "" then none else floatOfText (strip s)
  | _ => none

theorem text_returns_iff (text : String) :
    (∃ f : PyFloat, (if strip text = "" then .ok (.finite 0)
        else (floatOfText (strip text)).elim (.error .valueError) .ok : Except PyError PyFloat) =
      .ok f) ↔ strip text = "" ∨ (floatOfText (strip text)).isSome := by
  by_cases hblank : strip text = ""
  · simp [hblank]
  · cases htext : floatOfText (strip text) <;> simp [hblank]

/-- The values that are read without an exception. -/
theorem parseCashValue_returns_iff (raw : PyVal) :
    (∃ f, parseCashValue raw = .ok f) ↔ Readable raw := by
  have hbracket : ¬ (strip "[...]" = "" ∨ (floatOfText (strip "[...]")).isSome) := by decide +kernel
  cases raw with
  | none => exact iff_of_true ⟨_, rfl⟩ trivial
  | bool b => exact iff_of_true ⟨_, rfl⟩ trivial
  | float f => exact iff_of_true ⟨_, rfl⟩ trivial
  | int n =>
      simp only [parseCashValue, PyVal.toFloat, floatOfInt, Readable]
      by_cases hlimit : |fl n| < floatLimit <;> simp [hlimit]
  | str s => exact text_returns_iff s
  | scalar v => exact text_returns_iff v.text
  | datetime d => exact (text_returns_iff _).trans (iff_of_false hbracket id)
  | list vs => exact (text_returns_iff _).trans (iff_of_false hbracket id)
  | dict fields => exact (text_returns_iff _).trans (iff_of_false hbracket id)

/-- A number is read as it is. -/
theorem parseCashValue_of_number {raw : PyVal} {f : PyFloat} (h : numberOfField raw = some f) :
    parseCashValue raw = .ok f := by
  cases raw with
  | int n =>
      simp only [numberOfField] at h
      simp only [parseCashValue, PyVal.toFloat]
      cases hn : floatOfInt n with
      | error e => simp [hn, Except.toOption] at h
      | ok g =>
          rw [hn] at h
          exact congrArg _ (Option.some.inj h)
  | float g => exact congrArg _ (Option.some.inj h)
  | str s =>
      simp only [numberOfField] at h
      split at h
      · cases h
      · rename_i hblank
        simp only [parseCashValue, PyVal.text, if_neg hblank, h, Option.elim_some]
  | none => cases h
  | bool b => cases h
  | datetime d => cases h
  | scalar v => cases h
  | list vs => cases h
  | dict fields => cases h

/-! ## What is applied -/

/-- The three amounts of a balance. -/
structure Amounts where
  cash : PyFloat
  buyingPower : PyFloat
  equity : PyFloat

/-- The amounts of a balance, each of which is read on its own. -/
def amountsOf (read : PyVal → Option PyFloat) (balance : PyDict) : Option Amounts := do
  let cash ← read (balance.get "cash_balance")
  let buyingPower ← read (balance.get "buying_power")
  let equity ← read (balance.get "equity")
  return ⟨cash, buyingPower, equity⟩

theorem amountsOf_eq_some_iff {read : PyVal → Option PyFloat} {balance : PyDict} {a : Amounts} :
    amountsOf read balance = some a ↔
      read (balance.get "cash_balance") = some a.cash ∧
        read (balance.get "buying_power") = some a.buyingPower ∧
          read (balance.get "equity") = some a.equity := by
  unfold amountsOf
  cases read (balance.get "cash_balance") with
  | none => simp
  | some cash =>
      cases read (balance.get "buying_power") with
      | none => simp
      | some buyingPower =>
          cases read (balance.get "equity") with
          | none => simp
          | some equity =>
              rcases a with ⟨cash', buyingPower', equity'⟩
              simp

/-- The snapshot with other amounts at another time. -/
def PortfolioSnapshot.withAmounts (snapshot : PortfolioSnapshot Others) (a : Amounts)
    (timestamp : PyDateTime) : PortfolioSnapshot Others :=
  snapshot.applyBalance a.cash a.buyingPower a.equity timestamp

theorem toOption_eq_some_iff {x : Except PyError PyFloat} {f : PyFloat} :
    x.toOption = some f ↔ x = .ok f := by
  cases x <;> simp [Except.toOption]

/-- A message with a balance is applied when its amounts are read. -/
theorem applyPlsBalanceUpdate_eq_ok_iff {snapshot : PortfolioSnapshot Others} {msg balance : PyDict}
    {now : PyDateTime} {r : PortfolioSnapshot Others × Bool}
    (hbalance : msg.get "balance" = .dict balance) :
    applyPlsBalanceUpdate snapshot msg now = .ok r ↔
      ∃ a, amountsOf (fun raw => (parseCashValue raw).toOption) balance = some a ∧
        r = (snapshot.withAmounts a ((parsePlsTimestamp (msg.get "timestamp")).getD now), true) := by
  simp only [applyPlsBalanceUpdate, hbalance, amountsOf_eq_some_iff, bind_eq_ok]
  constructor
  · rintro ⟨cash, hcash, bp, hbp, eq, heq, hr⟩
    cases hr
    exact ⟨⟨cash, bp, eq⟩, ⟨by rw [hcash]; rfl, by rw [hbp]; rfl, by rw [heq]; rfl⟩, rfl⟩
  · rintro ⟨⟨cash, bp, eq⟩, ⟨hcash, hbp, heq⟩, rfl⟩
    exact ⟨cash, toOption_eq_some_iff.1 hcash, bp, toOption_eq_some_iff.1 hbp, eq, toOption_eq_some_iff.1 heq, rfl⟩

/-- A message without a balance is not applied. -/
theorem applyPlsBalanceUpdate_of_no_balance {snapshot : PortfolioSnapshot Others} {msg : PyDict}
    {now : PyDateTime} (h : ∀ balance, msg.get "balance" ≠ .dict balance) :
    applyPlsBalanceUpdate snapshot msg now = .ok (snapshot, false) := by
  unfold applyPlsBalanceUpdate
  split
  · rename_i balance hbalance
    exact absurd hbalance (h balance)
  · rfl

/-- The amounts are read when each field can be read. -/
theorem exists_amounts_iff (balance : PyDict) :
    (∃ a, amountsOf (fun raw => (parseCashValue raw).toOption) balance = some a) ↔
      ∀ key ∈ ["cash_balance", "buying_power", "equity"], Readable (balance.get key) := by
  simp only [amountsOf_eq_some_iff, List.forall_mem_cons, List.not_mem_nil, false_imp_iff,
    implies_true, and_true, ← parseCashValue_returns_iff]
  constructor
  · rintro ⟨a, hcash, hbp, heq⟩
    exact ⟨⟨_, toOption_eq_some_iff.1 hcash⟩, ⟨_, toOption_eq_some_iff.1 hbp⟩, ⟨_, toOption_eq_some_iff.1 heq⟩⟩
  · rintro ⟨⟨cash, hcash⟩, ⟨bp, hbp⟩, ⟨eq, heq⟩⟩
    exact ⟨⟨cash, bp, eq⟩, by rw [hcash]; rfl, by rw [hbp]; rfl, by rw [heq]; rfl⟩

/-- Amounts that are numbers are read as they are. -/
theorem amountsOf_of_numbers {balance : PyDict} {a : Amounts}
    (h : amountsOf numberOfField balance = some a) :
    amountsOf (fun raw => (parseCashValue raw).toOption) balance = some a := by
  rcases amountsOf_eq_some_iff.1 h with ⟨hcash, hbp, heq⟩
  refine amountsOf_eq_some_iff.2 ⟨?_, ?_, ?_⟩
  · rw [parseCashValue_of_number hcash]
    rfl
  · rw [parseCashValue_of_number hbp]
    rfl
  · rw [parseCashValue_of_number heq]
    rfl

end Bootstrap
end StrategyWorker
