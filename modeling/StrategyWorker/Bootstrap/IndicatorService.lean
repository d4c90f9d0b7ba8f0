import StrategyWorker.Bootstrap.ReplaySdkBridge

/-!
# The indicators of a strategy

{lit}`IndicatorService` keeps a list of registrations.  A bar, a quote or a tick
goes to the indicators of its source in the order of the list; an indicator that
raises ends the round.

Main results:

- Theorem {lit}`calls_callAll`: how often a round that nothing ends calls an
  indicator.
- Theorem {lit}`updated_once_iff`: a round calls each indicator once when each is
  registered once, and none of them raises.
-/

namespace StrategyWorker
namespace Bootstrap

open Library
open Library.Binary64

/-! ## Indicators -/

/-- {lit}`DataSourceEnum`. -/
inductive DataSource where
  | bar
  | quote
  | tick
  deriving DecidableEq

def Item.source : Item → DataSource
  | .bar _ => .bar
  | .quote _ => .quote
  | .tick _ => .tick

/-- A call of {lit}`update`, and whether it and the reading of the value after it returned. -/
structure UpdateCall where
  item : Item
  returned : Bool

/-- The code of an indicator object, which sees the calls that it has had. -/
structure IndicatorCode where
  /-- The object has a callable {lit}`update`. -/
  hasUpdate : Bool
  /-- {lit}`update`, or {lit}`value` after it, raises. -/
  raises : List UpdateCall → Item → Bool
  value : List UpdateCall → Option PyFloat

/-- An indicator object that is registered under a name. -/
structure Registration where
  name : String
  indicator : Nat
  source : DataSource

/-- {lit}`IndicatorService`, with the calls that the objects have had. -/
structure IndicatorService where
  registrations : List Registration
  calls : Nat → List UpdateCall
  values : String → Option (Option PyFloat)

namespace IndicatorService

/-- {lit}`register_indicator(indicator_name, indicator, data_source)`. -/
def registerIndicator (svc : IndicatorService) (r : Registration) : IndicatorService :=
  { svc with
    registrations := svc.registrations ++ [r]
    values := Function.update svc.values r.name (some none) }

/-- {lit}`get_indicator_value(indicator_id)`. -/
def getIndicatorValue (svc : IndicatorService) (indicatorId : String) : Option PyFloat :=
  (svc.values indicatorId).getD none

/-- A call of {lit}`update` of an object. -/
def called (svc : IndicatorService) (indicator : Nat) (call : UpdateCall) : IndicatorService :=
  { svc with calls := Function.update svc.calls indicator (svc.calls indicator ++ [call]) }

variable (code : Nat → IndicatorCode)

/-- The value of an indicator is kept after it was updated. -/
def keepValue (svc : IndicatorService) (r : Registration) : IndicatorService :=
  { svc with
    values := Function.update svc.values r.name
      (some ((code r.indicator).value (svc.calls r.indicator))) }

/-- The loop over the registrations, and whether an indicator has ended it. -/
def advanceLoop (item : Item) : List Registration → IndicatorService → IndicatorService × Bool
  | [], svc => (svc, false)
  | r :: rs, svc =>
      if r.source ≠ item.source then advanceLoop item rs svc
      else if ¬ (code r.indicator).hasUpdate then advanceLoop item rs svc
      else if (code r.indicator).raises (svc.calls r.indicator) item then
        (svc.called r.indicator ⟨item, false⟩, true)
      else advanceLoop item rs ((svc.called r.indicator ⟨item, true⟩).keepValue code r)

/-- {lit}`advance_on_bar(bar)`. -/
def advanceOnBar (svc : IndicatorService) (bar : Bar) : IndicatorService × Bool :=
  advanceLoop code (.bar bar) svc.registrations svc

/-- {lit}`advance_on_quote(quote)`. -/
def advanceOnQuote (svc : IndicatorService) (quote : Quote) : IndicatorService × Bool :=
  advanceLoop code (.quote quote) svc.registrations svc

/-- {lit}`advance_on_tick(tick)`. -/
def advanceOnTick (svc : IndicatorService) (tick : Tick) : IndicatorService × Bool :=
  advanceLoop code (.tick tick) svc.registrations svc

/-! ## A round -/

/-- The indicators that are registered for a source, in order. -/
def listeners (svc : IndicatorService) (source : DataSource) : List Nat :=
  (svc.registrations.filter fun r => r.source = source).map Registration.indicator

/-- The calls of a round over indicators, and whether one of them has ended it. -/
def callAll (item : Item) : List Nat → (Nat → List UpdateCall) → (Nat → List UpdateCall) × Bool
  | [], calls => (calls, false)
  | i :: is, calls =>
      if ¬ (code i).hasUpdate then callAll item is calls
      else if (code i).raises (calls i) item then
        (Function.update calls i (calls i ++ [⟨item, false⟩]), true)
      else callAll item is (Function.update calls i (calls i ++ [⟨item, true⟩]))

attribute [local simp] callAll in
/-- The calls of the loop are those of a round over the listeners. -/
theorem calls_advanceLoop (item : Item) (rs : List Registration) (svc : IndicatorService) :
    ((advanceLoop code item rs svc).1.calls, (advanceLoop code item rs svc).2) =
      callAll code item ((rs.filter fun r => r.source = item.source).map Registration.indicator)
        svc.calls := by
  induction rs generalizing svc with
  | nil => rfl
  | cons r rs ih =>
      unfold advanceLoop
      by_cases hsource : r.source = item.source
      · rw [List.filter_cons_of_pos (by simpa using hsource), List.map_cons, callAll,
          if_neg (not_not.2 hsource)]
        split
        · exact ih svc
        split
        · rfl
        · exact ih _
      · rw [List.filter_cons_of_neg (by simpa using hsource), if_pos hsource]
        exact ih svc

theorem registrations_advanceLoop (item : Item) (rs : List Registration) (svc : IndicatorService) :
    (advanceLoop code item rs svc).1.registrations = svc.registrations := by
  induction rs generalizing svc with
  | nil => rfl
  | cons r rs ih =>
      unfold advanceLoop
      split
      · exact ih svc
      split
      · exact ih svc
      split
      · rfl
      · exact ih _

variable {code} {item : Item} {is : List Nat} {calls : Nat → List UpdateCall}

/-- A round that nothing ends calls an object as often as it is listed. -/
theorem calls_callAll (h : (callAll code item is calls).2 = false) (i : Nat) :
    (callAll code item is calls).1 i =
      calls i ++ List.replicate (if (code i).hasUpdate then is.count i else 0) ⟨item, true⟩ := by
  induction is generalizing calls with
  | nil => simp [callAll]
  | cons j js ih =>
      unfold callAll at h ⊢
      by_cases hupdate : (code j).hasUpdate = true
      · rw [if_neg (not_not.2 hupdate)] at h ⊢
        split at h
        · cases h
        · rename_i hraises
          rw [if_neg hraises, ih h]
          by_cases hij : i = j
          · subst hij
            rw [Function.update_self, List.count_cons_self, if_pos hupdate, if_pos hupdate,
              List.append_assoc, List.replicate_succ]
            rfl
          · rw [Function.update_of_ne hij, List.count_cons_of_ne (Ne.symm hij)]
      · rw [if_pos hupdate] at h ⊢
        rw [ih h]
        by_cases hij : i = j
        · subst hij
          rw [if_neg hupdate, if_neg hupdate]
        · rw [List.count_cons_of_ne (Ne.symm hij)]

/-- A round that is ended has called an object that raised. -/
theorem exists_raised (h : (callAll code item is calls).2 = true) :
    ∃ i ∈ is, ∃ before, (callAll code item is calls).1 i = before ++ [⟨item, false⟩] := by
  induction is generalizing calls with
  | nil => cases h
  | cons j js ih =>
      unfold callAll at h ⊢
      by_cases hupdate : (code j).hasUpdate = true
      · rw [if_neg (not_not.2 hupdate)] at h ⊢
        by_cases hraises : (code j).raises (calls j) item = true
        · rw [if_pos hraises]
          exact ⟨j, List.mem_cons_self, calls j, Function.update_self ..⟩
        · rw [if_neg hraises] at h ⊢
          rcases ih h with ⟨i, hi, hraised⟩
          exact ⟨i, List.mem_cons_of_mem j hi, hraised⟩
      · rw [if_pos hupdate] at h ⊢
        rcases ih h with ⟨i, hi, hraised⟩
        exact ⟨i, List.mem_cons_of_mem j hi, hraised⟩

/-- A round over objects that are listed once ends when one of them raises. -/
theorem ended_iff (hnodup : is.Nodup) : (callAll code item is calls).2 = false ↔
    ∀ i ∈ is, (code i).hasUpdate = true → (code i).raises (calls i) item = false := by
  induction is generalizing calls with
  | nil => simp [callAll]
  | cons j js ih =>
      rw [List.nodup_cons] at hnodup
      rw [List.forall_mem_cons]
      unfold callAll
      by_cases hupdate : (code j).hasUpdate = true
      · rw [if_neg (not_not.2 hupdate)]
        by_cases hraises : (code j).raises (calls j) item = true
        · rw [if_pos hraises]
          refine iff_of_false (by simp) fun h => ?_
          rw [h.1 hupdate] at hraises
          cases hraises
        · rw [if_neg hraises, ih hnodup.2]
          have hfirst : (code j).hasUpdate = true → (code j).raises (calls j) item = false :=
            fun _ => by simpa using hraises
          have hothers : ∀ i ∈ js,
              Function.update calls j (calls j ++ [⟨item, true⟩]) i = calls i := by
            intro i hi
            have hij : i ≠ j := fun heq => hnodup.1 (by rwa [heq] at hi)
            exact Function.update_of_ne hij _ _
          refine ⟨fun h => ⟨hfirst, fun i hi => ?_⟩, fun h i hi => ?_⟩
          · rw [← hothers i hi]
            exact h i hi
          · rw [hothers i hi]
            exact h.2 i hi
      · rw [if_pos hupdate, ih hnodup.2]
        exact ⟨fun h => ⟨fun hcallable => absurd hcallable hupdate, h⟩, fun h => h.2⟩

/-- A round calls each object once, and each call returns, when each object is listed once, can be
called and does not raise. -/
theorem updated_once_iff :
    (∀ i ∈ is, (callAll code item is calls).1 i = calls i ++ [⟨item, true⟩]) ↔
      is.Nodup ∧ ∀ i ∈ is,
        (code i).hasUpdate = true ∧ (code i).raises (calls i) item = false := by
  constructor
  · intro h
    have hround : (callAll code item is calls).2 = false := by
      by_contra hended
      rcases exists_raised (by simpa using hended) with ⟨i, hi, before, hraised⟩
      rw [h i hi] at hraised
      have hlast := List.append_inj_right' hraised rfl
      simp at hlast
    have hcount : ∀ i ∈ is, (code i).hasUpdate = true ∧ is.count i = 1 := by
      intro i hi
      have hcalls := h i hi
      rw [calls_callAll hround] at hcalls
      have hlength := congrArg List.length hcalls
      simp only [List.length_append, List.length_replicate, List.length_singleton] at hlength
      split at hlength
      · rename_i hupdate
        exact ⟨hupdate, by omega⟩
      · omega
    have hnodup : is.Nodup := List.nodup_iff_count_le_one.2 fun i => by
      by_cases hi : i ∈ is
      · exact (hcount i hi).2.le
      · rw [List.count_eq_zero_of_not_mem hi]
        omega
    exact ⟨hnodup, fun i hi =>
      ⟨(hcount i hi).1, (ended_iff hnodup).1 hround i hi (hcount i hi).1⟩⟩
  · rintro ⟨hnodup, hcalled⟩ i hi
    have hround := (ended_iff hnodup).2 fun i hi _ => (hcalled i hi).2
    rw [calls_callAll hround, if_pos (hcalled i hi).1, List.count_eq_one_of_mem hnodup hi]
    rfl

end IndicatorService

end Bootstrap
end StrategyWorker
