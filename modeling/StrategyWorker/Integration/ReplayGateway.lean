import StrategyWorker.Integration.EpochTime

/-!
# The replay gateway

{lit}`ReplayGateway.ingest_replay_tick` sets the simulated clock, reports the
first data to the lifecycle service once and hands the tick to the strategy
callback.  The lifecycle service marks the first data before it writes it to
the state journal, which may raise.

Main results:

- Theorem {lit}`ingestReplayTick_ok`: a tick that does not raise has reached the
  callback, and the first-data flag is set.
- Theorem {lit}`ingestReplayTick_raises`: what makes the gateway raise.
-/

namespace StrategyWorker
namespace Integration

open Library

/-- The first-data flag of the lifecycle service and the mark of the gateway that has set it. -/
structure FirstData where
  /-- {lit}`_first_data_received`. -/
  received : Bool
  /-- {lit}`_first_data_marked`. -/
  marked : Bool
  received_of_marked : marked = true → received = true

theorem FirstData.received_of_unmarked : false = true → false = true :=
  fun h => h

/-- {lit}`mark_first_data_received` called by the gateway, which keeps its mark when the journal
raises. -/
def FirstData.mark (f : FirstData) (journalRaises : Bool) : FirstData :=
  ⟨true, f.marked || !journalRaises, fun _ => rfl⟩

@[simp]
theorem FirstData.mark_received (f : FirstData) (journalRaises : Bool) :
    (f.mark journalRaises).received = true :=
  rfl

theorem FirstData.marked_mark {f : FirstData} (journalRaises : Bool) (h : f.marked = true) :
    (f.mark journalRaises).marked = true := by
  simp [mark, h]

/-- The gateway with the ticks that it has handed to the strategy callback. -/
structure ReplayGateway (T : Type) where
  simulatedClock : Option PyDateTime
  firstData : FirstData
  received : List T

variable {T : Type}

/-- {lit}`ReplayGateway.ingest_replay_tick`: the gateway it leaves, and whether it raises. -/
def ReplayGateway.ingestReplayTick (journalRaises : Bool) (gw : ReplayGateway T) (tick : T)
    (simulatedTime : Option PyDateTime) : ReplayGateway T × Bool :=
  match simulatedTime.mapM setTime with
  | .error _ => (gw, true)
  | .ok now =>
      let gw := { gw with simulatedClock := now <|> gw.simulatedClock }
      if gw.firstData.marked then ({ gw with received := gw.received ++ [tick] }, false)
      else
        let gw := { gw with firstData := gw.firstData.mark journalRaises }
        if journalRaises then (gw, true)
        else ({ gw with received := gw.received ++ [tick] }, false)

section

variable {journalRaises : Bool} {gw gw' : ReplayGateway T} {tick : T}
  {simulatedTime : Option PyDateTime}

/-- The first-data flags are left or marked. -/
theorem ingestReplayTick_firstData (journalRaises : Bool) (gw : ReplayGateway T) (tick : T)
    (simulatedTime : Option PyDateTime) :
    (gw.ingestReplayTick journalRaises tick simulatedTime).1.firstData = gw.firstData ∨
      (gw.ingestReplayTick journalRaises tick simulatedTime).1.firstData =
        gw.firstData.mark journalRaises := by
  unfold ReplayGateway.ingestReplayTick
  split
  · exact .inl rfl
  · simp only
    split
    · exact .inl rfl
    split <;> exact .inr rfl

/-- A tick that does not raise has reached the callback, and the first-data flag is set. -/
theorem ingestReplayTick_ok (h : gw.ingestReplayTick journalRaises tick simulatedTime = (gw', false)) :
    (simulatedTime.mapM setTime).isOk = true ∧ gw'.received = gw.received ++ [tick] ∧
      gw'.firstData.received = true := by
  unfold ReplayGateway.ingestReplayTick at h
  split at h
  · cases h
  · rename_i now hnow
    have hok : (simulatedTime.mapM setTime).isOk = true := by rw [hnow]; rfl
    by_cases hmarked : gw.firstData.marked = true
    · rw [if_pos hmarked] at h
      rcases Prod.mk.inj h with ⟨rfl, -⟩
      exact ⟨hok, rfl, gw.firstData.received_of_marked hmarked⟩
    · rw [if_neg hmarked] at h
      by_cases hraises : journalRaises = true
      · rw [if_pos hraises] at h
        cases h
      · rw [if_neg hraises] at h
        rcases Prod.mk.inj h with ⟨rfl, -⟩
        exact ⟨hok, rfl, rfl⟩

/-- The gateway raises when the clock does, or the journal at the first data. -/
theorem ingestReplayTick_raises
    (h : gw.ingestReplayTick journalRaises tick simulatedTime = (gw', true)) :
    ((simulatedTime.mapM setTime).isOk = false ∨
        (journalRaises = true ∧ gw.firstData.marked = false)) ∧ gw'.received = gw.received := by
  unfold ReplayGateway.ingestReplayTick at h
  split at h
  · rename_i e he
    rcases Prod.mk.inj h with ⟨rfl, -⟩
    exact ⟨.inl (by rw [he]; rfl), rfl⟩
  · by_cases hmarked : gw.firstData.marked = true
    · rw [if_pos hmarked] at h
      cases h
    · rw [if_neg hmarked] at h
      by_cases hraises : journalRaises = true
      · rw [if_pos hraises] at h
        rcases Prod.mk.inj h with ⟨rfl, -⟩
        exact ⟨.inr ⟨hraises, by simpa using hmarked⟩, rfl⟩
      · rw [if_neg hraises] at h
        cases h

/-- While the journal refuses the first-data record, no tick reaches the callback. -/
theorem ingestReplayTick_refused (hj : journalRaises = true) (hmark : gw.firstData.marked = false) :
    (gw.ingestReplayTick journalRaises tick simulatedTime).1.received = gw.received := by
  unfold ReplayGateway.ingestReplayTick
  split
  · rfl
  · simp [hmark, hj]

end

end Integration
end StrategyWorker
