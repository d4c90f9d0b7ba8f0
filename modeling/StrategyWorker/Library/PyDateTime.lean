import StrategyWorker.Library.Binary64

/-!
# Date and time values of the runtime's language

A datetime is a wall clock reading with microseconds and, when it is aware, an
offset from UTC.  Years run from 1 to 9999 and offsets stay below one day; a
result outside that range is an error.  The parser follows
{lit}`datetime.fromisoformat` of version 3.11: it locates the separator between
date and time from the first characters, reads the date as calendar or week
date, and the time and offset in basic or extended form.

Main results:

- Definition {lit}`PyDateTime.fromisoformat`: the parser.
- Theorem {lit}`epochMillis_mono`: milliseconds since the epoch are monotone in
  the instant.
- Theorem {lit}`epochMillis_of_seconds`: they are exact on whole seconds.
-/

namespace StrategyWorker
namespace Library

/-! ## Calendar -/

def isLeap (year : Nat) : Bool :=
  year % 4 = 0 && (year % 100 ≠ 0 || year % 400 = 0)

def daysInMonth (year month : Nat) : Nat :=
  match month with
  | 2 => if isLeap year then 29 else 28
  | 4 | 6 | 9 | 11 => 30
  | _ => 31

/-- Days of the year before the first of a month. -/
def daysBeforeMonth (year month : Nat) : Nat :=
  ((List.range (month - 1)).map fun m => daysInMonth year (m + 1)).sum

/-- Days before the first of January of a year, from year 1. -/
def daysBeforeYear (year : Nat) : Int :=
  let y : Int := year - 1
  365 * y + y / 4 - y / 100 + y / 400

/-- Ordinal of a calendar date; the first of January of year 1 is 1. -/
def ymdToOrdinal (year month day : Nat) : Int :=
  daysBeforeYear year + daysBeforeMonth year month + day

/-- The year and the days that have passed in it, of an ordinal. -/
def yearOfOrdinal (ordinal : Int) : Nat × Nat :=
  -- cycles of 400, 100, 4 and 1 years; the last day of a long cycle belongs to its last year
  let n := (ordinal - 1).toNat
  let (n400, n) := (n / 146097, n % 146097)
  let (n100, n) := (n / 36524, n % 36524)
  let (n4, n) := (n / 1461, n % 1461)
  let (n1, n) := (n / 365, n % 365)
  let year := n400 * 400 + n100 * 100 + n4 * 4 + n1 + 1
  if n1 = 4 ∨ n100 = 4 then (year - 1, 365) else (year, n)

/-- Month and day of the month, given the days that have passed from the first of a month on. -/
def monthDay (year : Nat) : (months month days : Nat) → Nat × Nat
  | 0, month, days => (month, days + 1)
  | months + 1, month, days =>
      if days < daysInMonth year month then (month, days + 1)
      else monthDay year months (month + 1) (days - daysInMonth year month)

/-- Year, month and day of an ordinal. -/
def ordinalToYmd (ordinal : Int) : Nat × Nat × Nat :=
  let (year, days) := yearOfOrdinal ordinal
  (year, monthDay year 11 1 days)

/-- Monday is 0. -/
def weekday (ordinal : Int) : Int :=
  (ordinal + 6) % 7

/-- Ordinal of the Monday of ISO week 1. -/
def isoWeek1Monday (year : Nat) : Int :=
  let firstDay := ymdToOrdinal year 1 1
  let firstWeekday := weekday firstDay
  let week1Monday := firstDay - firstWeekday
  if 3 < firstWeekday then week1Monday + 7 else week1Monday

/-- Ordinal of an ISO week date, when week and day are in range. -/
def isoToOrdinal (year week day : Nat) : Option Int :=
  let firstWeekday := weekday (ymdToOrdinal year 1 1)
  let weeks := if firstWeekday = 3 ∨ (firstWeekday = 2 ∧ isLeap year) then 53 else 52
  if 1 ≤ week ∧ week ≤ weeks ∧ 1 ≤ day ∧ day ≤ 7 then
    some (isoWeek1Monday year + (week - 1) * 7 + (day - 1))
  else
    none

/-! ## Datetimes -/

def microsPerDay : Int := 86400000000

/-- Ordinal of the last day of year 9999. -/
def maxOrdinal : Int := 3652059

/-- Wall clock microseconds of the epoch, counted from the start of year 1. -/
def epochWall : Int := 719162 * microsPerDay

/-- A datetime: wall clock microseconds from the start of year 1, and the offset from UTC. -/
structure PyDateTime where
  wall : Int
  utcoffset : Option Int
  wall_range : 0 ≤ wall ∧ wall < maxOrdinal * microsPerDay
  offset_range : ∀ o ∈ utcoffset, -microsPerDay < o ∧ o < microsPerDay
  deriving DecidableEq

namespace PyDateTime

theorem utc_offset_range : ∀ o ∈ some (0 : Int), -microsPerDay < o ∧ o < microsPerDay := by
  simp [microsPerDay]

theorem naive_offset_range : ∀ o ∈ (none : Option Int), -microsPerDay < o ∧ o < microsPerDay := by
  simp

theorem epochWall_range : 0 ≤ epochWall ∧ epochWall < maxOrdinal * microsPerDay := by
  decide

/-- Build a datetime when it is in range. -/
def ofWall? (wall : Int) (utcoffset : Option Int) : Option PyDateTime :=
  if h : (0 ≤ wall ∧ wall < maxOrdinal * microsPerDay) ∧
      ∀ o ∈ utcoffset, -microsPerDay < o ∧ o < microsPerDay then
    some ⟨wall, utcoffset, h.1, h.2⟩
  else
    none

/-- {lit}`replace(tzinfo=timezone.utc)` for a naive value. -/
def naiveAsUtc (d : PyDateTime) : PyDateTime :=
  match d.utcoffset with
  | some _ => d
  | none => { d with utcoffset := some 0, offset_range := utc_offset_range }

/-- Microseconds since the epoch, a naive value read as UTC. -/
def instant (d : PyDateTime) : Int :=
  d.wall - d.utcoffset.getD 0 - epochWall

/-- {lit}`astimezone(timezone.utc)` of an aware value; fails when UTC is out of range. -/
def astimezoneUtc (d : PyDateTime) : Option PyDateTime :=
  ofWall? (d.wall - d.utcoffset.getD 0) (some 0)

@[simp]
theorem instant_naiveAsUtc (d : PyDateTime) : d.naiveAsUtc.instant = d.instant := by
  unfold naiveAsUtc instant
  cases h : d.utcoffset <;> simp [h]

theorem ofWall?_eq_some {wall : Int} {utcoffset : Option Int} {d : PyDateTime}
    (h : ofWall? wall utcoffset = some d) : d.wall = wall ∧ d.utcoffset = utcoffset := by
  unfold ofWall? at h
  split at h
  · obtain rfl := Option.some.inj h
    exact ⟨rfl, rfl⟩
  · cases h

/-- Conversion to UTC keeps the instant. -/
theorem instant_astimezoneUtc {d u : PyDateTime} (h : d.astimezoneUtc = some u) :
    u.instant = d.instant ∧ u.utcoffset = some 0 := by
  rcases ofWall?_eq_some h with ⟨hwall, hoffset⟩
  simp [instant, hwall, hoffset]

/-- A naive value and the same one read as UTC are converted alike. -/
theorem astimezoneUtc_naiveAsUtc (d : PyDateTime) : d.naiveAsUtc.astimezoneUtc = d.astimezoneUtc := by
  unfold naiveAsUtc astimezoneUtc
  cases h : d.utcoffset <;> simp [h]

/-- A value in UTC stays as it is. -/
theorem astimezoneUtc_of_utc {d : PyDateTime} (h : d.utcoffset = some 0) :
    d.astimezoneUtc = some d := by
  have hwall : d.wall - d.utcoffset.getD 0 = d.wall := by simp [h]
  rw [astimezoneUtc, hwall, ← h, ofWall?, dif_pos ⟨d.wall_range, d.offset_range⟩]

/-- Two digits. -/
def twoDigits (n : Nat) : String :=
  if n < 10 then "0" ++ toString n else toString n

/-- {lit}`strftime("%Y-%m-%d %H:%M:%S")`. -/
def strftime (d : PyDateTime) : String :=
  let (year, month, day) := ordinalToYmd (d.wall / microsPerDay + 1)
  let seconds := (d.wall % microsPerDay / 1000000).toNat
  toString year ++ "-" ++ twoDigits month ++ "-" ++ twoDigits day ++ " " ++
    twoDigits (seconds / 3600) ++ ":" ++ twoDigits (seconds / 60 % 60) ++ ":" ++
    twoDigits (seconds % 60)

/-- A number with leading zeros up to a width. -/
def padded (width n : Nat) : String :=
  String.ofList (List.replicate (width - (toString n).length) '0') ++ toString n

/-- An offset from UTC; seconds and microseconds only when there are any. -/
def offsetText (offset : Int) : String :=
  let micros := offset.natAbs
  let seconds := micros / 1000000
  (if offset < 0 then "-" else "+") ++ twoDigits (seconds / 3600) ++ ":" ++
    twoDigits (seconds / 60 % 60) ++
    (if micros % 60000000 = 0 then "" else ":" ++ twoDigits (seconds % 60)) ++
    (if micros % 1000000 = 0 then "" else "." ++ padded 6 (micros % 1000000))

/-- {lit}`isoformat(sep)`. -/
def isoformat (sep : String) (d : PyDateTime) : String :=
  let (year, month, day) := ordinalToYmd (d.wall / microsPerDay + 1)
  let micros := (d.wall % microsPerDay).toNat
  let seconds := micros / 1000000
  padded 4 year ++ "-" ++ twoDigits month ++ "-" ++ twoDigits day ++ sep ++
    twoDigits (seconds / 3600) ++ ":" ++ twoDigits (seconds / 60 % 60) ++ ":" ++
    twoDigits (seconds % 60) ++
    (if micros % 1000000 = 0 then "" else "." ++ padded 6 (micros % 1000000)) ++
    (d.utcoffset.elim "" offsetText)

/-! ## Parsing -/

/-- The character at a position, NUL past the end. -/
def charAt (cs : List Char) (i : Nat) : Char :=
  cs.getD i '\x00'

/-- Read exactly {lit}`n` digits from position {lit}`p`. -/
def parseDigits (cs : List Char) (n p : Nat) (acc : Nat) : Option (Nat × Nat) :=
  match n with
  | 0 => some (acc, p)
  | n + 1 =>
      let c := charAt cs p
      if c.isDigit then parseDigits cs n (p + 1) (acc * 10 + (c.toNat - '0'.toNat)) else none

/-- Digits from a position on. -/
def digitsFrom (cs : List Char) (p : Nat) : Nat :=
  ((cs.drop p).takeWhile Char.isDigit).length

/-- Where the separator between date and time is. -/
def separatorLocation (cs : List Char) : Option Nat :=
  if cs.length = 7 then some 7
  else if charAt cs 4 = '-' then
    if charAt cs 5 = 'W' then
      if cs.length < 8 then none
      else if 8 < cs.length ∧ charAt cs 8 = '-' then
        if cs.length = 9 then none
        else if 10 < cs.length ∧ (charAt cs 10).isDigit then some 8
        else some 10
      else some 8
    else some 10
  else if charAt cs 4 = 'W' then
    let pos := 7 + digitsFrom cs 7
    if pos < 9 then some pos
    else if pos % 2 = 0 then some 7
    else some 8
  else some 8

/-- The ordinal of the date that ends at position {lit}`sep`. -/
def parseDate (cs : List Char) (sep : Nat) : Option Int := do
  let (year, p) ← parseDigits cs 4 0 0
  let usesSeparator := charAt cs p = '-'
  let p := if usesSeparator then p + 1 else p
  if charAt cs p = 'W' then
    let (week, p) ← parseDigits cs 2 (p + 1) 0
    if p < sep then
      if usesSeparator ∧ charAt cs p ≠ '-' then none
      else
        let (day, _) ← parseDigits cs 1 (if usesSeparator then p + 1 else p) 0
        isoToOrdinal year week day
    else isoToOrdinal year week 1
  else
    let (month, p) ← parseDigits cs 2 p 0
    if usesSeparator ∧ charAt cs p ≠ '-' then none
    else
      let (day, _) ← parseDigits cs 2 (if usesSeparator then p + 1 else p) 0
      if 1 ≤ year ∧ 1 ≤ month ∧ month ≤ 12 ∧ 1 ≤ day ∧ day ≤ daysInMonth year month then
        some (ymdToOrdinal year month day)
      else
        none

/-- Hours, minutes, seconds and microseconds read, and whether characters are left over. -/
structure TimeFields where
  values : List Nat
  micros : Nat
  leftover : Bool

/-- Read a fraction of a second: at most six digits count, further digits are skipped. -/
def parseFraction (cs : List Char) (pEnd p : Nat) (values : List Nat) : Option TimeFields := do
  let toParse := min 6 (pEnd - p)
  let (micros, p) ← parseDigits cs toParse p 0
  some ⟨values, micros * 10 ^ (6 - toParse), charAt cs (p + digitsFrom cs p) ≠ '\x00'⟩

/-- Read {lit}`HH[:?MM[:?SS[.ffffff]]]` up to {lit}`pEnd`; {lit}`n` fields are still to come. -/
def parseFields (cs : List Char) (pEnd : Nat) :
    (n p : Nat) → (hasSeparator : Bool) → List Nat → Option TimeFields
  | 0, p, _, values => parseFraction cs pEnd p values
  | n + 1, p, hasSeparator, values =>
      match parseDigits cs 2 p 0 with
      | none => none
      | some (value, p) =>
          let c := charAt cs p
          let hasSeparator := if n = 2 then c = ':' else hasSeparator
          let values := values ++ [value]
          if pEnd ≤ p + 1 then some ⟨values, 0, c ≠ '\x00'⟩
          else if hasSeparator ∧ c = ':' then parseFields cs pEnd n (p + 1) hasSeparator values
          else if c = '.' ∨ c = ',' then parseFraction cs pEnd (p + 1) values
          else if hasSeparator then none
          else parseFields cs pEnd n p hasSeparator values

/-- Microseconds of the fields of a time. -/
def TimeFields.total (f : TimeFields) : Int :=
  (f.values.getD 0 0 * 3600 + f.values.getD 1 0 * 60 + f.values.getD 2 0) * 1000000 + f.micros

/-- Whole seconds of the fields of an offset. -/
def TimeFields.seconds (f : TimeFields) : Int :=
  f.values.getD 0 0 * 3600 + f.values.getD 1 0 * 60 + f.values.getD 2 0

/-- The fields are those of a time of day. -/
def TimeFields.InRange (f : TimeFields) : Prop :=
  f.values.getD 0 0 ≤ 23 ∧ f.values.getD 1 0 ≤ 59 ∧ f.values.getD 2 0 ≤ 59

instance (f : TimeFields) : Decidable f.InRange :=
  inferInstanceAs (Decidable (_ ∧ _ ∧ _))

/-- Position of the first sign or {lit}`Z` from {lit}`p` on, the end when there is none. -/
def offsetPosition (cs : List Char) (p : Nat) : Nat :=
  p + ((cs.drop p).takeWhile fun c => c ≠ '+' ∧ c ≠ '-' ∧ c ≠ 'Z').length

/-- Microseconds of the time of day from position {lit}`p` on, and the offset if there is one. -/
def parseTime (cs : List Char) (p : Nat) : Option (Int × Option Int) := do
  let tz := offsetPosition cs p
  let time ← parseFields cs tz 3 p true []
  if ¬ time.InRange then none
  else if tz = cs.length then
    if time.leftover then none else some (time.total, none)
  else if charAt cs tz = 'Z' then
    if charAt cs (tz + 1) ≠ '\x00' then none else some (time.total, some 0)
  else
    let offset ← parseFields cs cs.length 3 (tz + 1) true []
    if offset.leftover then none
    else
      let sign : Int := if charAt cs tz = '-' then -1 else 1
      some (time.total, some (if offset.seconds = 0 then 0 else sign * offset.total))

/-- The text at the byte positions of its encoding: a character takes as many places as bytes. -/
def bytePositions (text : String) : List Char :=
  text.toList.flatMap fun c => List.replicate c.utf8Size c

/-- {lit}`datetime.fromisoformat`; {lit}`none` is a {lit}`ValueError`. -/
def fromisoformat (text : String) : Option PyDateTime := do
  let cs := bytePositions text
  if cs.length < 7 then none
  else
    let sep ← separatorLocation cs
    let ordinal ← parseDate cs sep
    let (time, offset) ←
      if cs.length ≤ sep then some (0, none)
      else parseTime cs (sep + (charAt cs sep).utf8Size)
    if 1 ≤ ordinal ∧ ordinal ≤ maxOrdinal then ofWall? ((ordinal - 1) * microsPerDay + time) offset
    else none

end PyDateTime

/-! ## Milliseconds since the epoch -/

open Binary64

/-- {lit}`int(delta.total_seconds() * 1000)` of a difference in microseconds. -/
def epochMillis (instant : Int) : Int :=
  trunc (fl (fl ((instant : ℚ) / 1000000) * 1000))

/-- Milliseconds since the epoch are monotone in the instant. -/
theorem epochMillis_mono {a b : Int} (h : a ≤ b) : epochMillis a ≤ epochMillis b := by
  have hq : (a : ℚ) / 1000000 ≤ (b : ℚ) / 1000000 := by
    have : (a : ℚ) ≤ b := by exact_mod_cast h
    linarith
  exact trunc_mono (fl_mono (by linarith [fl_mono hq]))

/-- Whole seconds have exact milliseconds. -/
theorem epochMillis_of_seconds {n : Int} (hn : (n * 1000).natAbs < 2 ^ 53) :
    epochMillis (n * 1000000) = n * 1000 := by
  have hdiv : ((n * 1000000 : ℤ) : ℚ) / 1000000 = n := by
    push_cast
    field_simp
  have hsmall : n.natAbs < 2 ^ 53 := by omega
  unfold epochMillis
  rw [hdiv, fl_intCast hsmall]
  have hmul : (n : ℚ) * 1000 = ((n * 1000 : ℤ) : ℚ) := by push_cast; ring
  rw [hmul, fl_intCast hn, trunc_intCast]

end Library
end StrategyWorker
