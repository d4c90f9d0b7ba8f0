import StrategyWorker.Transport.OrderAudit

/-!
# Timestamps of the worker control service

{lit}`_proto_ts_from_datetime` writes a datetime into a message and
{lit}`_datetime_from_proto_ts` reads it back.  The message has no fields that
are set when it denotes the epoch, and the datetime that it gives is naive: the
conversion to UTC then takes it for local time.

Main results:

- Theorem {lit}`datetimeFromProtoTs_encoded`: what is read back, for every host.
- Theorem {lit}`timestamp_round_trip_iff`: which datetimes come back.
- Theorem {lit}`epoch_decodes_to_none`: the epoch does not.
-/

namespace StrategyWorker
namespace Transport

open Library Integration

/-- {lit}`google.protobuf.Timestamp`. -/
structure Timestamp where
  seconds : Int
  nanos : Int
  deriving DecidableEq

/-- {lit}`Timestamp()`. -/
def Timestamp.unset : Timestamp :=
  ⟨0, 0⟩

/-- The message for an instant in microseconds. -/
def Timestamp.ofInstant (instant : Int) : Timestamp :=
  ⟨instant / 1000000, instant % 1000000 * 1000⟩

/-- What is used of protobuf: a datetime in UTC is written with its microseconds, a message is read
as a naive datetime in UTC, and the fields of a message are those that are not zero. -/
structure TimestampApi where
  fromDatetime : PyDateTime → Timestamp
  toDatetime : Timestamp → PyDateTime
  listFields : Timestamp → List String
  fromDatetime_utc : ∀ d : PyDateTime, d.utcoffset = some 0 →
    fromDatetime d = Timestamp.ofInstant d.instant
  toDatetime_naive : ∀ d : PyDateTime, d.utcoffset = none →
    toDatetime (Timestamp.ofInstant d.instant) = d
  listFields_eq_nil : ∀ ts, listFields ts = [] ↔ ts = Timestamp.unset

namespace TimestampApi

variable (api : TimestampApi) (host : Host)

/-- {lit}`_proto_ts_from_datetime(value)`. -/
def protoTsFromDatetime : Option PyDateTime → Except PyException Timestamp
  | none => .ok .unset
  | some value => do
      let utc ← host.astimezone value
      return api.fromDatetime utc

/-- {lit}`_datetime_from_proto_ts(value)`. -/
def datetimeFromProtoTs : Option Timestamp → Except PyException (Option PyDateTime)
  | none => .ok none
  | some value =>
      if api.listFields value = [] then .ok none
      else (host.astimezone (api.toDatetime value)).map some

/-- The datetime comes back, and of its message and no message at all only the latter is read as
{lit}`None`. -/
structure RoundTrips (d : PyDateTime) : Prop where
  instant : ∃ ts decoded, api.protoTsFromDatetime host (some d) = .ok ts ∧
    api.datetimeFromProtoTs host (some ts) = .ok (some decoded) ∧ decoded.instant = d.instant
  present : ∀ ts, api.protoTsFromDatetime host (some d) = .ok ts →
    api.datetimeFromProtoTs host (some ts) ≠ .ok none
  absent : api.datetimeFromProtoTs host none = .ok none

end TimestampApi

/-! ## What is read back -/

section

variable {api : TimestampApi} {host : Host} {d utc : PyDateTime}

/-- The same reading without an offset. -/
def withoutOffset (d : PyDateTime) : PyDateTime :=
  { d with utcoffset := none, offset_range := PyDateTime.naive_offset_range }

/-- Only the message of the epoch has no fields. -/
theorem ofInstant_eq_unset {instant : Int} :
    Timestamp.ofInstant instant = Timestamp.unset ↔ instant = 0 := by
  unfold Timestamp.ofInstant Timestamp.unset
  rw [Timestamp.mk.injEq]
  omega

/-- An aware datetime is converted whatever the local zone is. -/
theorem astimezone_aware (haware : d.utcoffset.isSome) (h : host.astimezone d = .ok utc) :
    utc.utcoffset = some 0 ∧ utc.wall = epochWall + d.instant := by
  rcases astimezone_eq_ok h with ⟨hoffset, hwall⟩
  rcases Option.isSome_iff_exists.1 haware with ⟨offset, hd⟩
  refine ⟨hoffset, ?_⟩
  rw [hwall, PyDateTime.instant, hd, Option.getD_some, Option.getD_some]
  omega

/-- The message of an aware datetime. -/
theorem protoTsFromDatetime_aware (haware : d.utcoffset.isSome) (h : host.astimezone d = .ok utc) :
    api.protoTsFromDatetime host (some d) = .ok (Timestamp.ofInstant d.instant) := by
  rcases astimezone_aware haware h with ⟨hoffset, hwall⟩
  have hinstant : utc.instant = d.instant := by
    rw [PyDateTime.instant, hwall, hoffset, Option.getD_some]
    omega
  rw [TimestampApi.protoTsFromDatetime, h, ← hinstant, ← api.fromDatetime_utc utc hoffset]
  rfl

/-- What is read back: nothing at the epoch, and else the UTC reading taken for local time. -/
theorem datetimeFromProtoTs_encoded (haware : d.utcoffset.isSome)
    (h : host.astimezone d = .ok utc) :
    api.datetimeFromProtoTs host (some (Timestamp.ofInstant d.instant)) =
      if d.instant = 0 then .ok none
      else (host.astimezone (withoutOffset utc)).map some := by
  rcases astimezone_aware haware h with ⟨-, hwall⟩
  have hnaive : api.toDatetime (Timestamp.ofInstant d.instant) = withoutOffset utc := by
    have hinstant : (withoutOffset utc).instant = d.instant := by
      simp only [PyDateTime.instant, withoutOffset, Option.getD_none, hwall]
      omega
    rw [← hinstant]
    exact api.toDatetime_naive _ rfl
  unfold TimestampApi.datetimeFromProtoTs
  simp only [api.listFields_eq_nil, ofInstant_eq_unset, hnaive]

/--
For every host zone and every aware datetime whose UTC reading lies in the
years 1 to 9999: the datetime comes back from its message, and only an absent
message is read as {lit}`None`, exactly when the datetime is not the epoch and
the local clock of the host, when it shows what UTC shows at that instant, has
no offset.
-/
theorem timestamp_round_trip_iff (api : TimestampApi) (host : Host) (d : PyDateTime)
    (haware : d.utcoffset.isSome) (hrange : (host.astimezone d).isOk) :
    api.RoundTrips host d ↔ d.instant ≠ 0 ∧ host.zone (epochWall + d.instant) = 0 := by
  rcases hutc : host.astimezone d with e | utc
  · rw [hutc] at hrange
    cases hrange
  have hencoded : api.protoTsFromDatetime host (some d) = .ok (Timestamp.ofInstant d.instant) :=
    protoTsFromDatetime_aware haware hutc
  have hdecoded : api.datetimeFromProtoTs host (some (Timestamp.ofInstant d.instant)) =
      if d.instant = 0 then .ok none
      else (host.astimezone (withoutOffset utc)).map some :=
    datetimeFromProtoTs_encoded haware hutc
  rcases astimezone_aware haware hutc with ⟨hoffset, hwall⟩
  constructor
  · intro h
    rcases h.instant with ⟨ts, decoded, hts, hback, hinstant⟩
    rw [hencoded] at hts
    obtain rfl := Except.ok.inj hts
    rw [hdecoded] at hback
    split at hback
    · cases hback
    · rename_i hne
      refine ⟨hne, ?_⟩
      rcases hlocal : host.astimezone (withoutOffset utc) with e | shown
      · rw [hlocal] at hback
        cases hback
      · rw [hlocal] at hback
        obtain rfl : shown = decoded := Option.some.inj (Except.ok.inj hback)
        rcases astimezone_eq_ok hlocal with ⟨hlocalOffset, hlocalWall⟩
        have hread : shown.wall = utc.wall - host.zone utc.wall := hlocalWall
        rw [PyDateTime.instant, hlocalOffset, Option.getD_some, hread, hwall] at hinstant
        omega
  · rintro ⟨hne, hzone⟩
    have hread : host.astimezone (withoutOffset utc) = .ok utc := by
      unfold Host.astimezone
      have hsame : (withoutOffset utc).wall - (withoutOffset utc).utcoffset.getD
          (host.zone (withoutOffset utc).wall) = utc.wall := by
        simp only [withoutOffset, Option.getD_none, hwall, hzone]
        omega
      rw [hsame, ← hoffset, PyDateTime.ofWall?, dif_pos ⟨utc.wall_range, utc.offset_range⟩]
    have hback : api.datetimeFromProtoTs host (some (Timestamp.ofInstant d.instant)) =
        .ok (some utc) := by
      rw [hdecoded, if_neg hne, hread]
      rfl
    have hinstant : utc.instant = d.instant := by
      rw [PyDateTime.instant, hwall, hoffset, Option.getD_some]
      omega
    refine ⟨⟨_, utc, hencoded, hback, hinstant⟩, ?_, rfl⟩
    intro ts hts
    rw [hencoded] at hts
    obtain rfl := Except.ok.inj hts
    rw [hback]
    simp

end

/-! ## The epoch -/

/-- The naive datetime of a message, when it is in range. -/
def datetimeOfTimestamp (ts : Timestamp) : PyDateTime :=
  (PyDateTime.ofWall? (epochWall + ts.seconds * 1000000 + ts.nanos / 1000) none).getD
    (withoutOffset epochUtc)

theorem datetimeOfTimestamp_ofInstant (d : PyDateTime) (h : d.utcoffset = none) :
    datetimeOfTimestamp (Timestamp.ofInstant d.instant) = d := by
  have hwall : epochWall + (Timestamp.ofInstant d.instant).seconds * 1000000 +
      (Timestamp.ofInstant d.instant).nanos / 1000 = d.wall := by
    simp only [Timestamp.ofInstant, PyDateTime.instant, h, Option.getD_none]
    omega
  rw [datetimeOfTimestamp, hwall, ← h, PyDateTime.ofWall?,
    dif_pos ⟨d.wall_range, d.offset_range⟩]
  rfl

/-- Timestamps as protobuf documents them. -/
def protobufApi : TimestampApi where
  fromDatetime d := Timestamp.ofInstant d.instant
  toDatetime := datetimeOfTimestamp
  listFields ts :=
    (if ts.seconds = 0 then [] else ["seconds"]) ++ (if ts.nanos = 0 then [] else ["nanos"])
  fromDatetime_utc _ _ := rfl
  toDatetime_naive := datetimeOfTimestamp_ofInstant
  listFields_eq_nil ts := by
    rcases ts with ⟨seconds, nanos⟩
    rw [List.append_eq_nil_iff, Timestamp.unset, Timestamp.mk.injEq]
    apply and_congr <;> split <;> simp_all

/-- A minute after the epoch, on a host in UTC. -/
def minuteAfterEpoch : PyDateTime :=
  ⟨epochWall + 60000000, some 0, by decide, PyDateTime.utc_offset_range⟩

theorem minute_comes_back : protobufApi.RoundTrips epochHost minuteAfterEpoch :=
  (timestamp_round_trip_iff protobufApi epochHost minuteAfterEpoch (by decide) (by decide)).2
    ⟨by decide, rfl⟩

/-- The epoch is read as {lit}`None`. -/
theorem epoch_decodes_to_none :
    ¬ ∀ (api : TimestampApi) (host : Host) (d : PyDateTime),
      d.utcoffset.isSome → (host.astimezone d).isOk → api.RoundTrips host d := by
  intro h
  have hpresent := (h protobufApi epochHost epochUtc (by decide) (by decide)).present
    (Timestamp.ofInstant 0)
  exact hpresent (by decide) (by decide)

end Transport
end StrategyWorker
