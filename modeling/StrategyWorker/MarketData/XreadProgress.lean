import Mathlib.Data.List.Perm.Subperm
import StrategyWorker.MarketData.XreadDelivery

/-!
# Progress of the plain XREAD loop

A reply that reaches the loop brings every stream that had something to read
when the call arrived at least one entry further.  The potential of a stream
counts its unhandled entries up to a fixed id and pays one unit for every reply.

Main results:

- Theorem {lit}`xreadStep_potential`: no admissible step raises the potential,
  and a reply lowers it while entries are unhandled.
- Theorem {lit}`handled_of_replies`: as many replies as there are unhandled
  entries, and two more, have all of them handled.
- Theorem {lit}`xread_delivery`: every entry appended to a subscribed stream
  after the first XREAD is handled exactly once and in stream order.
- Theorem {lit}`xread_skips_entry`: outside the side condition entries are
  skipped.
-/

namespace StrategyWorker
namespace MarketData

open Library

variable {σ ι : Type*} [DecidableEq σ] [LinearOrder ι] [OrderBot ι]

/-! ## Potential of a stream -/

/-- Unhandled entries of a stream with an id up to {lit}`x`. -/
def StreamView.unhandled (v : StreamView σ ι) (first x : ι) : Nat :=
  (v.log.after (v.cursor first)).countP fun e => e.id ≤ x

/-- Messages on the way with an id up to {lit}`x`. -/
def StreamView.onTheWay (v : StreamView σ ι) (x : ι) : Nat :=
  v.outstanding.countP fun e => e.id ≤ x

/--
Replies that can still reach the loop before the entries up to {lit}`x` are
handled, and one more.  A reply already under way may have been read from other
streams.
-/
def potential (mode : XreadMode σ ι) (v : StreamView σ ι) (first x : ι) : Nat :=
  if v.unhandled first x = 0 then 0
  else
    match mode with
    | .blocked _ => v.unhandled first x + 2
    | .answered _ =>
        if v.outstanding = [] then v.unhandled first x + 2 else v.unhandled first x + 1
    | .handling _ _ => v.unhandled first x - v.onTheWay x + 1
    | _ => v.unhandled first x + 1

/-- Modes in which nothing is on the way. -/
def Idle (mode : XreadMode σ ι) : Prop :=
  mode = .top ∨ mode = .backoff ∨ mode = .finished

omit [DecidableEq σ] in
theorem potential_of_idle {mode : XreadMode σ ι} (hmode : Idle mode) (v : StreamView σ ι)
    (first x : ι) :
    potential mode v first x = if v.unhandled first x = 0 then 0 else v.unhandled first x + 1 := by
  rcases hmode with rfl | rfl | rfl <;> rfl

omit [DecidableEq σ] in
theorem potential_le (mode : XreadMode σ ι) (v : StreamView σ ι) (first x : ι) :
    potential mode v first x ≤ v.unhandled first x + 2 := by
  unfold potential
  split
  · omega
  · cases mode with
    | answered r => simp only; split <;> omega
    | _ => simp only; omega

omit [DecidableEq σ] in
/-- The unhandled entries depend on the log and the position only. -/
theorem unhandled_congr (v v' : StreamView σ ι) (hlog : v'.log = v.log)
    (hpos : v'.position = v.position) (first x : ι) :
    v'.unhandled first x = v.unhandled first x := by
  simp [StreamView.unhandled, StreamView.cursor, hlog, hpos]

omit [DecidableEq σ] in
/-- While entries up to {lit}`x` are unhandled, the first message on the way is one of them. -/
theorem onTheWay_pos {cfg : XreadConfig σ ι} {s : σ} {first x : ι} {v : StreamView σ ι}
    (h : Tracked cfg s first v) (hout : v.outstanding ≠ []) (hpos : v.unhandled first x ≠ 0) :
    0 < v.onTheWay x := by
  cases hmessages : v.outstanding with
  | nil => exact absurd hmessages hout
  | cons m ms =>
      have hqueued := h.queued
      rw [hmessages] at hqueued
      rcases hqueued with ⟨rest, hafter⟩
      have hpair := v.log.pairwise_after (v.cursor first)
      rw [← hafter] at hpair
      have hpair := List.pairwise_cons.1 hpair
      have hunhandled : 0 < v.unhandled first x := Nat.pos_of_ne_zero hpos
      rcases List.countP_pos_iff.1 hunhandled with ⟨e, he, hex⟩
      rw [← hafter] at he
      have hex : e.id ≤ x := by simpa using hex
      have hmx : m.id ≤ x := by
        rcases List.mem_cons.1 he with rfl | he
        · exact hex
        · exact (hpair.1 e he).le.trans hex
      simp [StreamView.onTheWay, hmessages, hmx]

omit [DecidableEq σ] in
/-- An entry appended after {lit}`x` is none of the entries up to {lit}`x`. -/
theorem unhandled_append {v : StreamView σ ι} {log : StreamLog ι Fields} {e : Entry ι Fields}
    (happend : v.log.append? e = some log) {first x : ι} (hx : x < e.id) :
    StreamView.unhandled { v with log := log } first x = v.unhandled first x := by
  have hcursor : StreamView.cursor { v with log := log } first = v.cursor first := rfl
  unfold StreamView.unhandled
  rw [hcursor]
  by_cases hle : e.id ≤ v.cursor first
  · rw [StreamLog.after_append?_of_le happend hle]
  · rw [StreamLog.after_append? happend (not_le.1 hle), List.countP_append]
    simp [hx]

/-! ## Potential along the steps of the loop -/

/-- What the progress argument keeps: the invariant, the first read and the target id. -/
structure Aiming (cfg : XreadConfig σ ι) (s : σ) (first x : ι) (st : XreadState σ ι) : Prop where
  invariant : XreadInvariant cfg st
  firstRead : ∃ f, st.firstRead = some f ∧ f s = first
  target : x ≤ (st.log s).lastId

namespace Aiming

variable {cfg : XreadConfig σ ι} {s : σ} {first x : ι} {st : XreadState σ ι}

theorem tracked (h : Aiming cfg s first x st) (hs : s ∈ cfg.streamNames) :
    Tracked cfg s first (view st s) := by
  rcases h.firstRead with ⟨f, hf, rfl⟩
  exact h.invariant.tracked f hf s hs

end Aiming

/-- The first read stays once it is set, and logs are only extended. -/
theorem xreadStep_frame {cfg : XreadConfig σ ι} {st st' : XreadState σ ι} {l : XreadLabel σ ι}
    {f : σ → ι} (hf : st.firstRead = some f) (hstep : xreadStep cfg st l = some st') (s : σ) :
    st'.firstRead = some f ∧ (st'.log s).Extends (st.log s) := by
  cases l with
  | append s' e =>
      rcases Option.map_eq_some_iff.1 hstep with ⟨log, happend, rfl⟩
      refine ⟨hf, ?_⟩
      by_cases hss : s = s'
      · subst hss
        simpa using StreamLog.extends_of_append? happend
      · simpa [hss] using StreamLog.extends_refl (st.log s)
  | handle =>
      simp only [xreadStep, handleNext] at hstep
      split at hstep <;> cases hstep <;> exact ⟨hf, StreamLog.extends_refl _⟩
  | read =>
      simp only [xreadStep] at hstep
      split at hstep <;> cases hstep
      split
      · exact ⟨hf, StreamLog.extends_refl _⟩
      · exact ⟨by simp [sendXread, hf], StreamLog.extends_refl _⟩
  | serve ready =>
      simp only [xreadStep] at hstep
      split at hstep
      · split at hstep <;> cases hstep
        exact ⟨hf, StreamLog.extends_refl _⟩
      · cases hstep
  | timeout =>
      simp only [xreadStep] at hstep
      split at hstep
      · split at hstep <;> cases hstep
        exact ⟨hf, StreamLog.extends_refl _⟩
      · cases hstep
  | requestStop =>
      cases hstep
      exact ⟨hf, StreamLog.extends_refl _⟩
  | deliver | connectionError | reconnect | handleRaises =>
      simp only [xreadStep] at hstep
      split at hstep <;> cases hstep <;> exact ⟨hf, StreamLog.extends_refl _⟩

omit [DecidableEq σ] in
/-- A step that leaves log and position of a stream alone and ends idle raises no potential. -/
theorem potential_idle_le {mode mode' : XreadMode σ ι} {v v' : StreamView σ ι} {first x : ι}
    (hmode' : Idle mode') (hcongr : v'.unhandled first x = v.unhandled first x)
    (hmode : v.unhandled first x = 0 ∨ v.unhandled first x + 1 ≤ potential mode v first x) :
    potential mode' v' first x ≤ potential mode v first x := by
  rw [potential_of_idle hmode', hcongr]
  split
  · omega
  · rename_i hne
    exact hmode.resolve_left hne

theorem potential_append {cfg : XreadConfig σ ι} {st st' : XreadState σ ι} {s s' : σ}
    {e : Entry ι Fields} {first x : ι} (h : Aiming cfg s first x st)
    (hstep : xreadStep cfg st (.append s' e) = some st') :
    potential st'.mode (view st' s) first x ≤ potential st.mode (view st s) first x := by
  rcases Option.map_eq_some_iff.1 hstep with ⟨log, happend, rfl⟩
  rw [view_append]
  split
  · rename_i hss
    subst hss
    have hx : x < e.id := lt_of_le_of_lt h.target (StreamLog.append?_eq_some happend).1
    have hunhandled : StreamView.unhandled { view st s with log := log } first x =
        (view st s).unhandled first x :=
      unhandled_append (v := view st s) happend hx
    unfold potential
    rw [hunhandled]
    exact le_rfl
  · exact le_rfl

theorem potential_read {cfg : XreadConfig σ ι} {st st' : XreadState σ ι} {s : σ} {first x : ι}
    (h : Aiming cfg s first x st) (hs : s ∈ cfg.streamNames)
    (hstep : xreadStep cfg st .read = some st') :
    potential st'.mode (view st' s) first x ≤ potential st.mode (view st s) first x := by
  simp only [xreadStep] at hstep
  split at hstep
  · rename_i hmode
    obtain rfl := Option.some.inj hstep
    have hview := view_of_idle s (.inl hmode)
    split
    · apply potential_idle_le (.inr (.inr rfl))
      · rw [view_of_idle s (by simp), hview]
        rfl
      · rw [hmode, potential_of_idle (.inl rfl)]
        split
        · exact .inl ‹_›
        · exact .inr le_rfl
    · have htracked := h.tracked hs
      have hcursor : resolvePositions st s = (view st s).cursor first := by
        have hresolve := htracked.resolve_eq_cursor (by rw [hview]) (by rw [hview])
        rwa [show (view st s).position = st.positions s by rw [hview]] at hresolve
      rw [hmode, potential_of_idle (.inl rfl)]
      rcases view_sendXread hmode hs hcursor with ⟨hnew, hafter⟩ | ⟨hnew, reply, hanswered⟩
      · have hzero : (view (sendXread cfg st) s).unhandled first x = 0 := by
          rw [hnew]
          show ((st.log s).after ((view st s).cursor first)).countP _ = 0
          simp [hafter]
        simp [potential, hzero]
      · have hcongr : (view (sendXread cfg st) s).unhandled first x =
            (view st s).unhandled first x := by rw [hnew]; rfl
        split
        · rename_i hzero
          simp [potential, hcongr, hzero]
        · rename_i hne
          have hafter : (st.log s).after ((view st s).cursor first) ≠ [] := by
            intro hnil
            exact hne (by simp [StreamView.unhandled, show (view st s).log = st.log s from rfl, hnil])
          have hout : (view (sendXread cfg st) s).outstanding ≠ [] := by
            rw [hnew]
            intro hnil
            rcases List.take_eq_nil_iff.1 hnil with hcount | hnil
            · exact absurd hcount cfg.count_pos.ne'
            · exact hafter hnil
          simp [potential, hcongr, hne, hanswered, hout]
  · cases hstep

theorem potential_serve {cfg : XreadConfig σ ι} {st st' : XreadState σ ι} {ready : List σ}
    (hstep : xreadStep cfg st (.serve ready) = some st') (s : σ) (first x : ι) :
    potential st'.mode (view st' s) first x ≤ potential st.mode (view st s) first x := by
  simp only [xreadStep] at hstep
  split at hstep
  · rename_i resolved hmode
    split at hstep
    · rename_i hready
      obtain rfl := Option.some.inj hstep
      have hcongr := unhandled_congr (view st s)
        (view { st with mode := .answered (ready.map (readStream cfg st.log resolved)) } s)
        (by rw [view_serve cfg hmode hready.2.1]) (by rw [view_serve cfg hmode hready.2.1]) first x
      by_cases hzero : (view st s).unhandled first x = 0
      · simp [potential, hcongr, hzero]
      · calc
          potential _ _ first x ≤ (view st s).unhandled first x + 2 :=
            hcongr ▸ potential_le _ _ first x
          _ = potential st.mode (view st s) first x := by simp [potential, hmode, hzero]
    · cases hstep
  · cases hstep

/-- A call that ends without a reply is not worth more than the call. -/
theorem potential_release {st : XreadState σ ι} {mode : XreadMode σ ι}
    (hmode : (∃ r, st.mode = .blocked r) ∨ ∃ r, st.mode = .answered r)
    (hnew : mode = .top ∨ mode = .backoff) (s : σ) (first x : ι) :
    potential mode (view { st with mode := mode } s) first x ≤
      potential st.mode (view st s) first x := by
  have hidle : Idle mode := hnew.elim .inl fun h => .inr (.inl h)
  refine potential_idle_le hidle ?_ ?_
  · rw [view_release hmode hnew]
    rfl
  · by_cases hzero : (view st s).unhandled first x = 0
    · exact .inl hzero
    · right
      rcases hmode with ⟨r, hmode⟩ | ⟨r, hmode⟩
      · simp [potential, hzero, hmode]
      · simp only [potential, hzero, hmode, if_false]
        split <;> omega

/-- The mode after a reply, or the next stream of it, has been entered. -/
theorem potential_enterReply {positions : σ → Position ι} {reply : Reply σ ι} {v : StreamView σ ι}
    {s : σ} (hout : v.outstanding = reply.messages s) (first x : ι) :
    potential (enterReply positions reply) v first x =
      if v.unhandled first x = 0 then 0 else v.unhandled first x - v.onTheWay x + 1 := by
  cases reply with
  | nil =>
      have hnil : v.outstanding = [] := hout
      simp [enterReply, potential, StreamView.onTheWay, hnil]
  | cons p rest => rfl

theorem potential_deliver {cfg : XreadConfig σ ι} {st st' : XreadState σ ι} {s : σ} {first x : ι}
    (h : Aiming cfg s first x st) (hs : s ∈ cfg.streamNames)
    (hstep : xreadStep cfg st .deliver = some st') :
    potential st'.mode (view st' s) first x ≤ potential st.mode (view st s) first x - 1 := by
  simp only [xreadStep] at hstep
  split at hstep
  · rename_i reply hmode
    obtain rfl := Option.some.inj hstep
    have hout : (view st s).outstanding = reply.messages s := by
      simp [view, outstanding, hmode]
    rw [view_deliver hmode, potential_enterReply hout, hmode]
    unfold potential
    split
    · omega
    · rename_i hne
      simp only
      split
      · omega
      · rename_i hmessages
        have hpos := onTheWay_pos (h.tracked hs) hmessages hne
        omega
  · cases hstep

theorem potential_handle {cfg : XreadConfig σ ι} {st st' : XreadState σ ι} {s : σ} {first x : ι}
    (h : Aiming cfg s first x st) (hs : s ∈ cfg.streamNames)
    (hstep : xreadStep cfg st .handle = some st') :
    potential st'.mode (view st' s) first x ≤ potential st.mode (view st s) first x := by
  simp only [xreadStep, handleNext] at hstep
  split at hstep
  · rename_i last s' m ms rest hmode
    obtain rfl := Option.some.inj hstep
    have hshape := h.invariant.shape
    rw [hmode] at hshape
    have hrest : s' ∉ rest.map Prod.fst := (List.nodup_cons.1 hshape.1).1
    rw [view_handle hmode hrest, hmode]
    split
    · rename_i hss
      subst hss
      have hout : (view st s).outstanding = m :: ms := by
        simp [view, outstanding, hmode, messages_cons, messages_eq_nil_of_notMem hrest]
      have hqueued := (h.tracked hs).queued
      rw [hout] at hqueued
      rcases hqueued with ⟨tail, hafter⟩
      have hnext := (StreamLog.after_of_cons hafter.symm).1
      have hunhandled : (view st s).unhandled first x =
          ((view st s).log.after m.id).countP (fun e => e.id ≤ x) +
            if m.id ≤ x then 1 else 0 := by
        unfold StreamView.unhandled
        rw [← hafter, hnext, List.cons_append, List.countP_cons]
        simp
      have honTheWay : (view st s).onTheWay x =
          ms.countP (fun e => e.id ≤ x) + if m.id ≤ x then 1 else 0 := by
        simp [StreamView.onTheWay, hout, List.countP_cons]
      simp only [potential, hunhandled, honTheWay]
      simp only [StreamView.unhandled, StreamView.onTheWay, StreamView.cursor]
      by_cases hmx : m.id ≤ x
      · simp only [hmx, if_true]
        rw [if_neg (Nat.succ_ne_zero _), Nat.add_sub_add_right]
        exact (ite_le_sup _ _ _).trans (by simp)
      · simp [hmx]
    · exact le_rfl
  · rename_i last s' rest hmode
    obtain rfl := Option.some.inj hstep
    have hout : (view st s).outstanding = Reply.messages rest s := by
      simp [view, outstanding, hmode, messages_cons]
    rw [view_moveOn hmode, potential_enterReply hout, hmode]
    exact le_rfl
  · cases hstep

/-- No admissible step raises the potential, and a reply lowers it while it is positive. -/
theorem xreadStep_potential {cfg : XreadConfig σ ι} {st st' : XreadState σ ι}
    {l : XreadLabel σ ι} {s : σ} {first x : ι} (h : Aiming cfg s first x st)
    (hs : s ∈ cfg.streamNames) (hadm : XreadAdmissible cfg st l)
    (hstep : xreadStep cfg st l = some st') :
    potential st'.mode (view st' s) first x ≤ potential st.mode (view st s) first x := by
  cases l with
  | append s' e => exact potential_append h hstep
  | read => exact potential_read h hs hstep
  | serve ready => exact potential_serve hstep s first x
  | timeout =>
      simp only [xreadStep] at hstep
      split at hstep
      · rename_i resolved hmode
        split at hstep <;> cases hstep
        exact potential_release (.inl ⟨resolved, hmode⟩) (.inl rfl) s first x
      · cases hstep
  | deliver => exact (potential_deliver h hs hstep).trans (Nat.sub_le _ _)
  | connectionError =>
      simp only [xreadStep] at hstep
      split at hstep
      · rename_i resolved hmode
        cases hstep
        exact potential_release (.inl ⟨resolved, hmode⟩) (.inr rfl) s first x
      · rename_i reply hmode
        cases hstep
        exact potential_release (.inr ⟨reply, hmode⟩) (.inr rfl) s first x
      · cases hstep
  | reconnect =>
      simp only [xreadStep] at hstep
      split at hstep
      · rename_i hmode
        cases hstep
        have hview := view_of_idle s (.inr (.inl hmode))
        rw [hmode, potential_of_idle (.inr (.inl rfl))]
        have hidle : Idle (if st.shouldStop = true then .finished else .top : XreadMode σ ι) := by
          split
          · exact .inr (.inr rfl)
          · exact .inl rfl
        rw [potential_of_idle hidle, view_of_idle s (by split <;> simp), hview]
        exact le_rfl
      · cases hstep
  | handle => exact potential_handle h hs hstep
  | handleRaises k => exact hadm.elim
  | requestStop =>
      cases hstep
      exact le_rfl

/-! ## Delivery in runs -/

/-- A run keeps the first read and extends the logs. -/
theorem xreadRun_frame {cfg : XreadConfig σ ι} {log : σ → StreamLog ι Fields}
    {st st' : XreadState σ ι} {f : σ → ι} {ls : List (XreadLabel σ ι)}
    (hf : st.firstRead = some f) (hrun : (xreadLoop cfg log).run st ls = some st') (s : σ) :
    st'.firstRead = some f ∧ (st'.log s).Extends (st.log s) := by
  apply TransitionSystem.run_invariant'
    (fun t => t.firstRead = some f ∧ (t.log s).Extends (st.log s)) ?_
    ⟨hf, StreamLog.extends_refl _⟩ hrun
  intro t l t' ht hstep
  rcases xreadStep_frame ht.1 hstep s with ⟨hf', hext⟩
  exact ⟨hf', hext.trans ht.2⟩

/-- An admissible run keeps the delivery invariant. -/
theorem xreadRun_invariant {cfg : XreadConfig σ ι} {log : σ → StreamLog ι Fields}
    {st st' : XreadState σ ι} {ls : List (XreadLabel σ ι)} (h : XreadInvariant cfg st)
    (hadm : (xreadLoop cfg log).Meets (XreadAdmissible cfg) st ls)
    (hrun : (xreadLoop cfg log).run st ls = some st') : XreadInvariant cfg st' :=
  TransitionSystem.run_invariant (M := xreadLoop cfg log) (XreadInvariant cfg)
    (fun _ _ _ ht hC hstep => xreadStep_tracked ht hC hstep) h hadm hrun

/-- The calls made since the first XREAD are those of the first entries appended since. -/
theorem callsSince_eq {cfg : XreadConfig σ ι} {st : XreadState σ ι} (h : XreadInvariant cfg st)
    {s : σ} (hs : s ∈ cfg.streamNames) {first : σ → ι} (hfirst : st.firstRead = some first) :
    callsSince st s =
      ((st.log s).between (first s) ((view st s).cursor (first s))).flatMap (callsOf s) := by
  have htracked := h.tracked first hfirst s hs
  have hcalls : callsFor st s = (view st s).calls := rfl
  have hlog : (view st s).log = st.log s := rfl
  have hfilter : ∀ l : List (Entry ι Fields),
      (l.flatMap (callsOf s)).filter (fun c => first s < c.msgId) =
        (l.filter fun e => first s < e.id).flatMap (callsOf s) := by
    intro l
    induction l with
    | nil => rfl
    | cons e l ih =>
        rw [List.flatMap_cons, List.filter_append, ih, List.filter_cons]
        split
        · rename_i hlt
          have hall : (callsOf s e).filter (fun c => first s < c.msgId) = callsOf s e := by
            refine List.filter_eq_self.2 fun c hc => ?_
            simpa [(mem_callsOf hc).2] using hlt
          rw [hall, List.flatMap_cons]
        · rename_i hle
          have hnone : (callsOf s e).filter (fun c => first s < c.msgId) = [] := by
            refine List.filter_eq_nil_iff.2 fun c hc => ?_
            simpa [(mem_callsOf hc).2] using hle
          rw [hnone, List.nil_append]
  simp only [callsSince, hfirst]
  rw [hcalls, htracked.calls_eq, hfilter, hlog]
  congr 1
  simp only [StreamLog.between, List.filter_filter]
  refine List.filter_congr fun e he => ?_
  by_cases hlt : first s < e.id
  · have hbase := htracked.future e (hlog ▸ he) hlt
    simp [hlt, hbase]
  · simp [hlt]

/-- As many replies as entries are unhandled, and two more, have all of them handled. -/
theorem handled_of_replies {cfg : XreadConfig σ ι} {log : σ → StreamLog ι Fields}
    {st st' : XreadState σ ι} {ls : List (XreadLabel σ ι)} {s : σ} {first : σ → ι}
    (h : XreadInvariant cfg st) (hs : s ∈ cfg.streamNames) (hfirst : st.firstRead = some first)
    (hadm : (xreadLoop cfg log).Meets (XreadAdmissible cfg) st ls)
    (hrun : (xreadLoop cfg log).run st ls = some st')
    (hreplies : ((st.log s).after ((view st s).cursor (first s))).length + 2 ≤ repliesIn ls) :
    (view st' s).unhandled (first s) (st.log s).lastId = 0 := by
  have haim : Aiming cfg s (first s) (st.log s).lastId st := ⟨h, ⟨first, hfirst, rfl⟩, le_rfl⟩
  have hpot := TransitionSystem.run_potential (M := xreadLoop cfg log)
    (Aiming cfg s (first s) (st.log s).lastId) isReply (fun t => potential t.mode (view t s) (first s) (st.log s).lastId) ?_ haim hadm hrun
  · have hle := potential_le st.mode (view st s) (first s) (st.log s).lastId
    have hcount : (view st s).unhandled (first s) (st.log s).lastId ≤
        ((st.log s).after ((view st s).cursor (first s))).length := List.countP_le_length
    have hzero : potential st'.mode (view st' s) (first s) (st.log s).lastId = 0 := by
      unfold repliesIn at hreplies
      omega
    by_contra hne
    unfold potential at hzero
    rw [if_neg hne] at hzero
    cases hmode : st'.mode with
    | answered r =>
        simp only [hmode] at hzero
        split at hzero <;> omega
    | _ =>
        simp only [hmode] at hzero
        omega
  · intro t l t' ht hC hstep
    rcases ht.firstRead with ⟨f, hf, hfs⟩
    rcases xreadStep_frame hf hstep s with ⟨hf', hext⟩
    refine ⟨⟨xreadStep_tracked ht.invariant hC hstep, ⟨f, hf', hfs⟩, ?_⟩, ?_, ?_⟩
    · exact ht.target.trans hext.lastId_le
    · exact xreadStep_potential ht hs hC hstep
    · cases l with
      | deliver => exact fun _ => potential_deliver ht hs hstep
      | _ => simp [isReply]

/-- The calls made for the entries appended since the first XREAD are those of a first part of
these entries, in stream order and each once. -/
def HandledInOrder (st : XreadState σ ι) (s : σ) : Prop :=
  ∃ handled, handled <+: since st s ∧ callsSince st s = handled.flatMap (callsOf s)

/--
Every entry that the stream has received since the first XREAD is handled after
finitely many further replies: as many as its log has entries, and two more.
-/
def EventuallyHandled (cfg : XreadConfig σ ι) (log : σ → StreamLog ι Fields)
    (admissible : XreadState σ ι → XreadLabel σ ι → Prop) (st : XreadState σ ι) (s : σ) : Prop :=
  ∀ ls st', (xreadLoop cfg log).Meets admissible st ls →
    (xreadLoop cfg log).run st ls = some st' → (st.log s).entries.length + 2 ≤ repliesIn ls →
      (since st s).flatMap (callsOf s) <+: callsSince st' s

theorem HandledInOrder.prefix_calls {st : XreadState σ ι} {s : σ} (h : HandledInOrder st s) :
    callsSince st s <+: (since st s).flatMap (callsOf s) := by
  rcases h with ⟨handled, ⟨rest, hrest⟩, hcalls⟩
  exact ⟨rest.flatMap (callsOf s), by rw [hcalls, ← hrest, List.flatMap_append]⟩

theorem handledInOrder_of_invariant {cfg : XreadConfig σ ι} {st : XreadState σ ι}
    (h : XreadInvariant cfg st) {s : σ} (hs : s ∈ cfg.streamNames) : HandledInOrder st s := by
  cases hfirst : st.firstRead with
  | none => exact ⟨[], List.nil_prefix, by simp [callsSince, hfirst]⟩
  | some first =>
      refine ⟨_, ?_, callsSince_eq h hs hfirst⟩
      simpa [since, hfirst] using (st.log s).between_prefix_after (first s) _

theorem eventuallyHandled_of_invariant {cfg : XreadConfig σ ι} {log : σ → StreamLog ι Fields}
    {st : XreadState σ ι} (h : XreadInvariant cfg st) {s : σ} (hs : s ∈ cfg.streamNames) :
    EventuallyHandled cfg log (XreadAdmissible cfg) st s := by
  intro ls st' hadm hrun hreplies
  cases hfirst : st.firstRead with
  | none => simp [since, hfirst]
  | some first =>
      rcases xreadRun_frame hfirst hrun s with ⟨hfirst', hext⟩
      have h' := xreadRun_invariant h hadm hrun
      have hlength : ((st.log s).after ((view st s).cursor (first s))).length ≤
          (st.log s).entries.length := List.length_filter_le _ _
      have hzero := handled_of_replies h hs hfirst hadm hrun (by omega)
      rw [callsSince_eq h' hs hfirst']
      -- handled entries and the entries of the earlier state both start the log since the first read
      have hsince : since st s <+: (st'.log s).after (first s) := by
        simpa [since, hfirst] using hext.after (first s)
      have hhandled := (st'.log s).between_prefix_after (first s) ((view st' s).cursor (first s))
      rcases List.prefix_or_prefix_of_prefix hsince hhandled with hpre | hpre
      · rcases hpre with ⟨rest, hrest⟩
        exact ⟨rest.flatMap (callsOf s), by rw [← hrest, List.flatMap_append]⟩
      · -- otherwise some entry of the earlier state would still be unhandled
        have hall : ∀ e ∈ since st s,
            e ∈ (st'.log s).between (first s) ((view st' s).cursor (first s)) := by
          intro e he
          have hmem := StreamLog.mem_after.1 (hsince.subset he)
          have hold : e ∈ (st.log s).entries := by
            simp only [since, hfirst] at he
            exact (StreamLog.mem_after.1 he).1
          refine StreamLog.mem_between.2 ⟨hmem.1, hmem.2, ?_⟩
          by_contra hlt
          have hafter : e ∈ (st'.log s).after ((view st' s).cursor (first s)) :=
            StreamLog.mem_after.2 ⟨hmem.1, not_le.1 hlt⟩
          have hnone := List.countP_eq_zero.1 hzero e hafter
          exact hnone (by simpa using (st.log s).le_lastId_of_mem hold)
        have hnodup : (since st s).Nodup := by
          simp only [since, hfirst]
          exact ((st.log s).pairwise_after (first s)).imp fun hlt heq => hlt.ne (congrArg Entry.id heq)
        have hlen := (List.subperm_of_subset hnodup hall).length_le
        exact (hpre.eq_of_length_le hlen).symm ▸ List.prefix_rfl

/-! ## The delivery guarantee -/

/--
In every run whose steps meet {lit}`XreadAdmissible`, in every state reached,
for every subscribed stream: the entries appended since the first XREAD are
handled in stream order and each once, the loop has not died and has returned
only after a stop request, and every such entry is handled after finitely many
further replies.
-/
theorem xread_delivery (cfg : XreadConfig σ ι) (log : σ → StreamLog ι Fields)
    (ls : List (XreadLabel σ ι)) (st : XreadState σ ι)
    (hadm : (xreadLoop cfg log).Meets (XreadAdmissible cfg) (xreadInit cfg log) ls)
    (hrun : (xreadLoop cfg log).run (xreadInit cfg log) ls = some st) :
    (∀ s ∈ cfg.streamNames,
      HandledInOrder st s ∧ EventuallyHandled cfg log (XreadAdmissible cfg) st s) ∧
      st.mode ≠ .raised ∧ (st.mode = .finished → st.shouldStop = true) := by
  have h := xreadRun_invariant (xreadInvariant_init cfg log) hadm hrun
  refine ⟨fun s hs => ⟨?_, ?_⟩, h.alive, h.finished⟩
  · exact handledInOrder_of_invariant h hs
  · exact eventuallyHandled_of_invariant h hs

/-! ## Two streams -/

omit [DecidableEq σ] [LinearOrder ι] [OrderBot ι]

/-- Trades and bars of one partition, read from {lit}`$`. -/
def tradesAndBars : XreadConfig String RedisId where
  streamNames := ["md:stream:trades:0", "md:stream:am:0"]
  nodup := by decide
  startId := .dollar
  count := 100
  count_pos := by decide

/-- An entry with one field for the given symbol. -/
def symbolEntry (ms : ℕ) (symbol payload : String) : Entry RedisId Fields where
  id := toLex (ms, 0)
  fields := some [(symbol, payload)]

/--
A bar arrives while the loop handles a trade.  The bars still stand at
{lit}`$`, so the next call starts after that bar.
-/
def barDuringTrade : List (XreadLabel String RedisId) :=
  [.read, .append "md:stream:trades:0" (symbolEntry 1 "AAPL" "trade"),
    .serve ["md:stream:trades:0"], .deliver, .append "md:stream:am:0" (symbolEntry 2 "AAPL" "bar 1"),
    .handle, .handle, .read, .append "md:stream:am:0" (symbolEntry 3 "AAPL" "bar 2"),
    .serve ["md:stream:am:0"], .deliver, .handle]

/-- The first bar appended after the first XREAD is never handled, the second one is. -/
theorem xread_skips_entry :
    ∃ st, (xreadLoop tradesAndBars fun _ => .empty).run (xreadInit tradesAndBars fun _ => .empty)
        barDuringTrade = some st ∧
      (since st "md:stream:am:0").map Entry.id = [toLex (2, 0), toLex (3, 0)] ∧
      callsSince st "md:stream:am:0" =
        [⟨"md:stream:am:0", toLex (3, 0), "AAPL", "bar 2"⟩] ∧
      ¬ HandledInOrder st "md:stream:am:0" := by
  refine ⟨_, rfl, by decide, by decide, fun h => ?_⟩
  exact absurd h.prefix_calls (by decide)

/-- Bars that arrive while the call is blocked, or behind a bar already read. -/
def barsWhileBlocked : List (XreadLabel String RedisId) :=
  [.read, .append "md:stream:am:0" (symbolEntry 1 "AAPL" "bar 1"), .serve ["md:stream:am:0"],
    .append "md:stream:am:0" (symbolEntry 2 "AAPL" "bar 2"), .deliver, .handle, .handle, .read,
    .deliver, .handle, .handle, .read, .connectionError, .reconnect]

/-- Both bars have been handled when the loop is back at its test. -/
theorem xread_delivery_two_bars :
    ∃ st, (xreadLoop tradesAndBars fun _ => .empty).run (xreadInit tradesAndBars fun _ => .empty)
        barsWhileBlocked = some st ∧
      callsSince st "md:stream:am:0" =
        [⟨"md:stream:am:0", toLex (1, 0), "AAPL", "bar 1"⟩,
          ⟨"md:stream:am:0", toLex (2, 0), "AAPL", "bar 2"⟩] ∧
      HandledInOrder st "md:stream:am:0" :=
  ⟨_, rfl, by decide,
    ((xread_delivery tradesAndBars (fun _ => .empty) barsWhileBlocked _ (by decide) rfl).1
      "md:stream:am:0" (by decide)).1⟩

end MarketData
end StrategyWorker
