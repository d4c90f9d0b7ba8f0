import StrategyWorker.Library.PyValue

/-!
# UTC instants and the texts that denote them

{lit}`utc_from_epoch_millis`, {lit}`utc_from_epoch_seconds` and
{lit}`utc_datetime_to_epoch_millis`, the simulated clock, and the reading of ISO
texts that the lifecycle service and the event mapper share: strip, read
{lit}`Z` as an offset, and take a naive value for UTC.

Main results:

- Theorem {lit}`utcDatetimeToEpochMillis_mono`: milliseconds are monotone in
  the instant, whatever the offsets.
- Theorem {lit}`instant_utcFromEpochMillis`: a millisecond count denotes its
  own instant.
-/

namespace StrategyWorker
namespace Integration

open Library
open Library.PyText
open Library.Binary64

/-- {lit}`value.astimezone(timezone.utc)` of an aware value. -/
def astimezoneUtc (value : PyDateTime) : Except PyError PyDateTime :=
  match value.astimezoneUtc with
  | some utc => .ok utc
  | none => .error .overflowError

/-- {lit}`UTC_EPOCH + timedelta(milliseconds=ts_ms)`. -/
def utcFromEpochMillis (tsMs : Int) : Except PyError PyDateTime :=
  match PyDateTime.ofWall? (epochWall + tsMs * 1000) (some 0) with
  | some utc => .ok utc
  | none => .error .overflowError

/-- {lit}`UTC_EPOCH + timedelta(seconds=sec)`: whole seconds and fraction are converted to
microseconds one after the other, and their sum is rounded. -/
def utcFromEpochSeconds (sec : PyFloat) : Except PyError PyDateTime :=
  match sec with
  | .finite q =>
      let micros := (trunc q * 1000000 : ℤ) + fl ((q - trunc q) * 1000000)
      match PyDateTime.ofWall? (epochWall + roundEven micros) (some 0) with
      | some utc => .ok utc
      | none => .error .overflowError
  | .infinite _ => .error .overflowError
  | .nan => .error .valueError

/-- Milliseconds since the epoch of an aware or naive value. -/
def utcDatetimeToEpochMillis (dt : PyDateTime) : Except PyError Int := do
  let utc ← astimezoneUtc dt.naiveAsUtc
  return epochMillis utc.instant

/-- {lit}`datetime.fromisoformat(text.strip().replace("Z", "+00:00"))`, a naive result read as
UTC; {lit}`none` for a blank text and for one that is not in the format. -/
def parseIsoText (text : String) : Option PyDateTime :=
  if strip text = "" then none
  else (PyDateTime.fromisoformat (replaceZulu (strip text))).map PyDateTime.naiveAsUtc

/-- {lit}`SimulatedClock.set_time` of an aware value: the time that the clock then shows. -/
def setTime (value : PyDateTime) : Except PyError PyDateTime :=
  astimezoneUtc value

theorem astimezoneUtc_eq_ok_iff {value utc : PyDateTime} :
    astimezoneUtc value = .ok utc ↔ value.astimezoneUtc = some utc := by
  unfold astimezoneUtc
  cases value.astimezoneUtc <;> simp

theorem astimezoneUtc_ok {value utc : PyDateTime} (h : astimezoneUtc value = .ok utc) :
    utc.instant = value.instant :=
  (PyDateTime.instant_astimezoneUtc (astimezoneUtc_eq_ok_iff.1 h)).1

/-- The milliseconds of a datetime are those of its instant. -/
theorem utcDatetimeToEpochMillis_ok {dt : PyDateTime} {ms : Int}
    (h : utcDatetimeToEpochMillis dt = .ok ms) : ms = epochMillis dt.instant := by
  unfold utcDatetimeToEpochMillis at h
  cases hutc : astimezoneUtc dt.naiveAsUtc with
  | error e => simp [hutc, bind, Except.bind] at h
  | ok utc =>
      have hms : epochMillis utc.instant = ms := by
        simpa [hutc, bind, Except.bind, pure, Except.pure] using h
      rw [← hms, astimezoneUtc_ok hutc, PyDateTime.instant_naiveAsUtc]

/-- Milliseconds are monotone in the instant, whatever the offsets. -/
theorem utcDatetimeToEpochMillis_mono {a b : PyDateTime} {ma mb : Int}
    (ha : utcDatetimeToEpochMillis a = .ok ma) (hb : utcDatetimeToEpochMillis b = .ok mb)
    (h : a.instant ≤ b.instant) : ma ≤ mb := by
  rw [utcDatetimeToEpochMillis_ok ha, utcDatetimeToEpochMillis_ok hb]
  exact epochMillis_mono h

/-- A millisecond count denotes its own instant. -/
theorem instant_utcFromEpochMillis {tsMs : Int} {utc : PyDateTime}
    (h : utcFromEpochMillis tsMs = .ok utc) : utc.instant = tsMs * 1000 := by
  unfold utcFromEpochMillis at h
  split at h
  · rename_i u hu
    have : u = utc := by simpa using h
    subst this
    rcases PyDateTime.ofWall?_eq_some hu with ⟨hwall, hoffset⟩
    simp [PyDateTime.instant, hwall, hoffset]
  · cases h

end Integration
end StrategyWorker
