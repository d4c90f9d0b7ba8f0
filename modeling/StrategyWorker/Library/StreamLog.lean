import Mathlib.Data.List.Basic
import Mathlib.Data.List.Pairwise
import Mathlib.Order.BoundedOrder.Basic
import Mathlib.Order.Lattice

/-!
# Append-only logs with increasing ids

A log keeps entries in the order of their ids.  Ids are strictly increasing and
above the bottom id, and {lit}`append?` refuses an entry whose id is not above
the last one.  A reader holds a cursor id and reads the entries after it.

Main results:

- Theorem {lit}`after_append?`: an appended entry is the last one after every
  cursor below it.
- Theorem {lit}`after_of_cons`: a reader that moves its cursor to the first
  entry it reads has exactly the other entries left.
- Theorem {lit}`between_append_after`: entries up to a cursor and entries after
  it make up what lies above a lower cursor.
-/

namespace StrategyWorker
namespace Library

/-- One entry of a log. -/
structure Entry (ι F : Type*) where
  id : ι
  fields : F
  deriving DecidableEq, Repr

/-- A log whose ids increase strictly from the bottom id. -/
structure StreamLog (ι F : Type*) [LinearOrder ι] [OrderBot ι] where
  entries : List (Entry ι F)
  ordered : (⊥ :: entries.map Entry.id).Pairwise (· < ·)

namespace StreamLog

variable {ι F : Type*} [LinearOrder ι] [OrderBot ι]

/-- The log without entries. -/
def empty : StreamLog ι F where
  entries := []
  ordered := by simp

/-- Id of the last entry, the bottom id for an empty log. -/
def lastId (log : StreamLog ι F) : ι :=
  (⊥ :: log.entries.map Entry.id).getLast (by simp)

/-- The entries with an id after {lit}`p`. -/
def after (log : StreamLog ι F) (p : ι) : List (Entry ι F) :=
  log.entries.filter fun e => p < e.id

/-- The entries with an id after {lit}`p` and at most {lit}`q`. -/
def between (log : StreamLog ι F) (p q : ι) : List (Entry ι F) :=
  log.entries.filter fun e => p < e.id ∧ e.id ≤ q

/-! ## Ordered lists of entries -/

theorem le_lastId_of_mem (log : StreamLog ι F) {e : Entry ι F} (he : e ∈ log.entries) :
    e.id ≤ log.lastId := by
  have hmem : e.id ∈ ⊥ :: log.entries.map Entry.id := by
    exact List.mem_cons_of_mem _ (List.mem_map_of_mem he)
  have hsorted : (⊥ :: log.entries.map Entry.id).Pairwise (· ≤ ·) :=
    log.ordered.imp le_of_lt
  exact hsorted.rel_getLast hmem

theorem pairwise_entries (log : StreamLog ι F) :
    log.entries.Pairwise fun a b => a.id < b.id := by
  have htail : (log.entries.map Entry.id).Pairwise (· < ·) := (List.pairwise_cons.1 log.ordered).2
  exact List.pairwise_map.1 htail

/-- Append an entry whose id is above the last one; {lit}`none` for any other id. -/
def append? (log : StreamLog ι F) (e : Entry ι F) : Option (StreamLog ι F) :=
  if h : log.lastId < e.id then
    some
      { entries := log.entries ++ [e]
        ordered := by
          have hsorted : (⊥ :: log.entries.map Entry.id).Pairwise (· ≤ ·) :=
            log.ordered.imp le_of_lt
          rw [List.map_append, ← List.cons_append]
          refine List.pairwise_append.2 ⟨log.ordered, by simp, ?_⟩
          intro a ha b hb
          have hb : b = e.id := by simpa using hb
          exact hb ▸ lt_of_le_of_lt (hsorted.rel_getLast ha) h }
  else
    none

theorem append?_eq_some {log log' : StreamLog ι F} {e : Entry ι F} (h : log.append? e = some log') :
    log.lastId < e.id ∧ log'.entries = log.entries ++ [e] := by
  unfold append? at h
  split at h
  · rename_i hlt
    obtain rfl := Option.some.inj h
    exact ⟨hlt, rfl⟩
  · cases h

/-- A log extends another one when it starts with its entries. -/
def Extends (log' log : StreamLog ι F) : Prop :=
  log.entries <+: log'.entries

theorem extends_refl (log : StreamLog ι F) : log.Extends log :=
  List.prefix_rfl

theorem Extends.trans {log₁ log₂ log₃ : StreamLog ι F} (h₂ : log₃.Extends log₂)
    (h₁ : log₂.Extends log₁) : log₃.Extends log₁ :=
  List.IsPrefix.trans h₁ h₂

theorem extends_of_append? {log log' : StreamLog ι F} {e : Entry ι F}
    (h : log.append? e = some log') : log'.Extends log := by
  rcases append?_eq_some h with ⟨-, hentries⟩
  exact ⟨[e], hentries.symm⟩

/-- Last ids grow along extensions. -/
theorem Extends.lastId_le {log log' : StreamLog ι F} (h : log'.Extends log) :
    log.lastId ≤ log'.lastId := by
  have hmem : log.lastId ∈ ⊥ :: log'.entries.map Entry.id := by
    rcases List.mem_cons.1 (List.getLast_mem (l := ⊥ :: log.entries.map Entry.id) (by simp))
      with hbot | hmem
    · exact List.mem_cons.2 (.inl hbot)
    · exact List.mem_cons_of_mem _ ((h.map Entry.id).subset hmem)
  have hsorted : (⊥ :: log'.entries.map Entry.id).Pairwise (· ≤ ·) :=
    log'.ordered.imp le_of_lt
  exact hsorted.rel_getLast hmem

/-! ## Reading after a cursor -/

@[simp]
theorem mem_after {log : StreamLog ι F} {p : ι} {e : Entry ι F} :
    e ∈ log.after p ↔ e ∈ log.entries ∧ p < e.id := by
  simp [after]

@[simp]
theorem mem_between {log : StreamLog ι F} {p q : ι} {e : Entry ι F} :
    e ∈ log.between p q ↔ e ∈ log.entries ∧ p < e.id ∧ e.id ≤ q := by
  simp [between]

theorem Extends.after {log log' : StreamLog ι F} (h : log'.Extends log) (p : ι) :
    log.after p <+: log'.after p :=
  h.filter _

theorem after_lastId (log : StreamLog ι F) : log.after log.lastId = [] := by
  refine List.filter_eq_nil_iff.2 fun e he => ?_
  simpa using log.le_lastId_of_mem he

/-- A cursor with nothing after it is not below the last id. -/
theorem lastId_le_of_after_eq_nil {log : StreamLog ι F} {p : ι} (h : log.after p = []) :
    log.lastId ≤ p := by
  have hall : ∀ i ∈ ⊥ :: log.entries.map Entry.id, i ≤ p := by
    intro i hi
    rcases List.mem_cons.1 hi with rfl | hi
    · exact bot_le
    · rcases List.mem_map.1 hi with ⟨e, he, rfl⟩
      simpa using List.filter_eq_nil_iff.1 h e he
  exact hall _ (List.getLast_mem _)

theorem pairwise_after (log : StreamLog ι F) (p : ι) :
    (log.after p).Pairwise fun a b => a.id < b.id :=
  log.pairwise_entries.filter _

theorem lastId_append? {log log' : StreamLog ι F} {e : Entry ι F} (h : log.append? e = some log') :
    log'.lastId = e.id := by
  rcases append?_eq_some h with ⟨-, hentries⟩
  simp [lastId, hentries]

/-- An appended entry is the last one after every cursor below it. -/
theorem after_append? {log log' : StreamLog ι F} {e : Entry ι F} (h : log.append? e = some log')
    {p : ι} (hp : p < e.id) : log'.after p = log.after p ++ [e] := by
  rcases append?_eq_some h with ⟨-, hentries⟩
  simp [after, hentries, hp]

/-- A cursor that is not below the appended entry sees nothing new. -/
theorem after_append?_of_le {log log' : StreamLog ι F} {e : Entry ι F}
    (h : log.append? e = some log') {p : ι} (hp : e.id ≤ p) : log'.after p = log.after p := by
  rcases append?_eq_some h with ⟨-, hentries⟩
  simp [after, hentries, hp]

/-- Appending leaves what lies up to an earlier id alone. -/
theorem between_append? {log log' : StreamLog ι F} {e : Entry ι F}
    (h : log.append? e = some log') {p q : ι} (hq : q < e.id) :
    log'.between p q = log.between p q := by
  rcases append?_eq_some h with ⟨-, hentries⟩
  simp [between, hentries, hq]

@[simp]
theorem between_self (log : StreamLog ι F) (p : ι) : log.between p p = [] := by
  refine List.filter_eq_nil_iff.2 fun e _ => ?_
  simp

omit [OrderBot ι] in
/-- Filtering a list increasing along {lit}`f` by a bound splits it at that bound. -/
theorem filter_le_append_filter_lt {α : Type*} (f : α → ι) (q : ι) {l : List α}
    (hl : l.Pairwise fun a b => f a < f b) :
    (l.filter fun a => f a ≤ q) ++ (l.filter fun a => q < f a) = l := by
  induction l with
  | nil => rfl
  | cons a l ih =>
      rcases List.pairwise_cons.1 hl with ⟨ha, hl⟩
      by_cases haq : f a ≤ q
      · simp only [haq, decide_true, List.filter_cons_of_pos, not_lt.2 haq, decide_false,
          Bool.false_eq_true, not_false_eq_true, List.filter_cons_of_neg, List.cons_append]
        rw [ih hl]
      · have hqa : q < f a := lt_of_not_ge haq
        have hnone : (l.filter fun b => f b ≤ q) = [] := by
          refine List.filter_eq_nil_iff.2 fun b hb => ?_
          simpa using hqa.trans (ha b hb)
        have hall : (l.filter fun b => q < f b) = l := by
          refine List.filter_eq_self.2 fun b hb => ?_
          simpa using hqa.trans (ha b hb)
        simp [haq, hqa, hnone, hall]

/-- Entries up to a cursor and entries after it make up what lies above a lower cursor. -/
theorem between_append_after (log : StreamLog ι F) {p q : ι} (hpq : p ≤ q) :
    log.between p q ++ log.after q = log.after p := by
  have hsplit := filter_le_append_filter_lt Entry.id q (log.pairwise_after p)
  rw [← hsplit]
  congr 1
  · simp only [between, after, List.filter_filter]
    refine List.filter_congr fun e _ => ?_
    by_cases h : p < e.id <;> by_cases h' : e.id ≤ q <;> simp [h, h']
  · simp only [after, List.filter_filter]
    refine List.filter_congr fun e _ => ?_
    by_cases h : q < e.id
    · simp [h, lt_of_le_of_lt hpq h]
    · simp [h]

theorem between_append_between (log : StreamLog ι F) {p q r : ι} (hpq : p ≤ q) (hqr : q ≤ r) :
    log.between p q ++ log.between q r = log.between p r := by
  have h₁ := log.between_append_after hpq
  have h₂ := log.between_append_after hqr
  have h₃ := log.between_append_after (hpq.trans hqr)
  rw [← h₂, ← List.append_assoc, ← h₃] at h₁
  exact List.append_cancel_right h₁

theorem between_prefix_after (log : StreamLog ι F) (p q : ι) :
    log.between p q <+: log.after p := by
  rcases le_total p q with hpq | hqp
  · exact ⟨log.after q, log.between_append_after hpq⟩
  · have hnil : log.between p q = [] := by
      refine List.filter_eq_nil_iff.2 fun e _ => ?_
      simpa using fun hpe => hqp.trans_lt hpe
    exact hnil ▸ List.nil_prefix

/-- Moving the cursor to the first unread entry leaves exactly the others unread. -/
theorem after_of_cons {log : StreamLog ι F} {p : ι} {e : Entry ι F} {es : List (Entry ι F)}
    (h : log.after p = e :: es) : log.after e.id = es ∧ log.between p e.id = [e] := by
  have hmem : e ∈ log.after p := by simp [h]
  have hpe : p < e.id := (mem_after.1 hmem).2
  have hpair := log.pairwise_after p
  rw [h] at hpair
  have hes : ∀ b ∈ es, e.id < b.id := (List.pairwise_cons.1 hpair).1
  have hafter : log.after e.id = es := by
    have hfilter : (log.after p).filter (fun b => e.id < b.id) = log.after e.id := by
      simp only [after, List.filter_filter]
      refine List.filter_congr fun b _ => ?_
      by_cases hb : e.id < b.id
      · simp [hb, hpe.trans hb]
      · simp [hb]
    rw [← hfilter, h, List.filter_cons_of_neg (by simp)]
    exact List.filter_eq_self.2 fun b hb => by simpa using hes b hb
  refine ⟨hafter, ?_⟩
  have hsplit := log.between_append_after hpe.le
  rw [hafter, h] at hsplit
  exact List.append_cancel_right  (by simpa using hsplit)

/-- The read of a cursor starts with the entry that the cursor moves to next. -/
theorem prefix_of_cons_prefix {log : StreamLog ι F} {p : ι} {e : Entry ι F}
    {es : List (Entry ι F)} (h : e :: es <+: log.after p) :
    es <+: log.after e.id ∧ log.between p e.id = [e] := by
  rcases h with ⟨rest, hrest⟩
  rcases after_of_cons hrest.symm with ⟨hafter, hbetween⟩
  exact ⟨⟨rest, hafter.symm⟩, hbetween⟩

/-- Id of the last entry of a read, the cursor itself for an empty read. -/
def readTo (p : ι) (out : List (Entry ι F)) : ι :=
  (p :: out.map Entry.id).getLast (by simp)

/-- The entries between a cursor and the end of a read are the entries read. -/
theorem between_readTo {log : StreamLog ι F} {p : ι} {out : List (Entry ι F)}
    (h : out <+: log.after p) : p ≤ readTo p out ∧ log.between p (readTo p out) = out := by
  induction out generalizing p with
  | nil => exact ⟨le_rfl, log.between_self p⟩
  | cons e es ih =>
      have he : e ∈ log.after p := h.subset (by simp)
      have hpe : p < e.id := (mem_after.1 he).2
      rcases prefix_of_cons_prefix h with ⟨hes, hbetween⟩
      rcases ih hes with ⟨hle, hrest⟩
      have hread : readTo p (e :: es) = readTo e.id es := by simp [readTo]
      rw [hread]
      refine ⟨hpe.le.trans hle, ?_⟩
      rw [← log.between_append_between hpe.le hle, hbetween, hrest]
      rfl

/-- What is left after a read follows the entries read. -/
theorem append_after_readTo {log : StreamLog ι F} {p : ι} {out : List (Entry ι F)}
    (h : out <+: log.after p) : out ++ log.after (readTo p out) = log.after p := by
  rcases between_readTo h with ⟨hle, hbetween⟩
  rw [← log.between_append_after hle, hbetween]

end StreamLog
end Library
end StrategyWorker
