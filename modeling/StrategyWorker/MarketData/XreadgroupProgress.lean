import StrategyWorker.MarketData.XreadgroupDelivery

/-!
# Progress and loss of the XREADGROUP loop

A reply that reaches the loop brings every stream that had something to deliver
when the call arrived at least one entry further, so an entry of the group is
handed over after finitely many replies unless it is lost.  A lost entry stays
pending: nothing in the loop reads pending entries again.

Main results:

- Theorem {lit}`groupStep_potential`: no step raises the potential, and a reply
  lowers it while entries are open.
- Theorem {lit}`lost_forever`: a lost entry stays pending and is never handed
  over again.
- Theorem {lit}`xreadgroup_delivery`: the delivery guarantee of every run.
- Theorem {lit}`xreadgroup_reply_lost`: a reply lost to a connection error
  leaves its entry pending for ever.
-/

namespace StrategyWorker
namespace MarketData

open Library

variable {σ ι : Type*} [DecidableEq σ] [LinearOrder ι] [OrderBot ι]

/-! ## Lost entries -/

/-- The calls made for an entry. -/
def entryCalls (st : GroupState σ ι) (s : σ) (e : Entry ι Fields) : List (FieldCall σ ι) :=
  st.calls.filter fun c => c.streamName = s ∧ c.msgId = e.id

/-- An action for a message in hand makes no call for a lost entry. -/
theorem entryCalls_perform {st : GroupState σ ι} (h : GroupInvariant st) {s s' : σ}
    {e m : Entry ι Fields} {a : MessageAction σ ι} {actions : List (MessageAction σ ι)}
    {reply : Reply σ ι} (hmode : st.mode = .handling (some (s', m, a :: actions)) reply)
    (hlost : e ∈ st.lost s) (applied : Bool) :
    entryCalls (perform st s' m applied a) s e = entryCalls st s e := by
  cases a with
  | ack => cases applied <;> rfl
  | call c =>
      rcases h.sound s' m _ reply hmode with ⟨done, hactions, -⟩
      have hmem : MessageAction.call c ∈ messageActions s' m := by simp [hactions]
      have hc : c ∈ callsOf s' m := by
        rw [messageActions_eq] at hmem
        simpa using hmem
      rcases mem_callsOf hc with ⟨hstream, hid⟩
      have hnot : ¬ (c.streamName = s ∧ c.msgId = e.id) := by
        rintro ⟨hs, he⟩
        obtain rfl : s' = s := hstream.symm.trans hs
        have hin : m ∈ st.mode.inHand s' := by simp [hmode, GroupMode.inHand]
        cases hgroup : st.group s' with
        | none => simp [(h.ungrouped s' hgroup).1] at hlost
        | some g => exact (h.tracked s' g hgroup).disjoint e hlost m hin (he.symm.trans hid)
      simp [entryCalls, perform, hnot]

/-- A step keeps a lost entry lost and makes no call for it. -/
theorem groupStep_lost {cfg : GroupConfig σ} {st st' : GroupState σ ι} {l : GroupLabel σ ι}
    (h : GroupInvariant st) (hstep : groupStep cfg st l = some st') {s : σ} {e : Entry ι Fields}
    (hlost : e ∈ st.lost s) : e ∈ st'.lost s ∧ entryCalls st' s e = entryCalls st s e := by
  have hcreate : ∀ s', e ∈ (createGroup st s').lost s ∧
      entryCalls (createGroup st s') s e = entryCalls st s e := by
    intro s'
    unfold createGroup
    split <;> exact ⟨hlost, rfl⟩
  cases l with
  | append s' e' =>
      rcases Option.map_eq_some_iff.1 hstep with ⟨log, -, rfl⟩
      exact ⟨hlost, rfl⟩
  | createGroup =>
      simp only [groupStep] at hstep
      split at hstep <;> cases hstep
      · exact ⟨hlost, rfl⟩
      · exact hcreate _
  | createGroupRaises applied =>
      simp only [groupStep] at hstep
      split at hstep <;> cases hstep
      cases applied
      · exact ⟨hlost, rfl⟩
      · exact hcreate _
  | read =>
      simp only [groupStep] at hstep
      split at hstep <;> cases hstep
      split
      · exact ⟨hlost, rfl⟩
      · unfold sendXreadgroup
        split <;> exact ⟨hlost, rfl⟩
  | serve ready =>
      simp only [groupStep] at hstep
      split at hstep
      · split at hstep <;> cases hstep
        exact ⟨hlost, rfl⟩
      · cases hstep
  | serveDangling ready =>
      simp only [groupStep] at hstep
      split at hstep <;> cases hstep
      exact ⟨List.mem_append_left _ hlost, rfl⟩
  | timeout =>
      simp only [groupStep] at hstep
      split at hstep
      · split at hstep <;> cases hstep
        exact ⟨hlost, rfl⟩
      · cases hstep
  | connectionError =>
      simp only [groupStep] at hstep
      split at hstep <;> cases hstep
      · exact ⟨List.mem_append_left _ hlost, rfl⟩
      · exact ⟨List.mem_append_left _ hlost, rfl⟩
  | handle =>
      simp only [groupStep, handleNextMessage] at hstep
      split at hstep <;> cases hstep
      · exact ⟨hlost, rfl⟩
      · exact ⟨hlost, rfl⟩
      · exact ⟨hlost, rfl⟩
      · exact ⟨hlost, rfl⟩
      · rename_i s' m a actions reply hmode
        refine ⟨?_, entryCalls_perform h hmode hlost true⟩
        cases a <;> exact hlost
  | handleRaises applied =>
      simp only [groupStep] at hstep
      split at hstep <;> cases hstep
      rename_i s' m a actions reply hmode
      refine ⟨List.mem_append_left _ ?_, entryCalls_perform h hmode hlost applied⟩
      cases a <;> cases applied <;> exact hlost
  | requestStop =>
      cases hstep
      exact ⟨hlost, rfl⟩
  | restart =>
      cases hstep
      exact ⟨List.mem_append_left _ hlost, rfl⟩
  | deliver | reconnect =>
      simp only [groupStep] at hstep
      split at hstep <;> cases hstep
      exact ⟨hlost, rfl⟩

theorem isPending_of_lost {st : GroupState σ ι} (h : GroupInvariant st) {s : σ}
    {e : Entry ι Fields} (hlost : e ∈ st.lost s) : IsPending st s e := by
  cases hgroup : st.group s with
  | none => simp [(h.ungrouped s hgroup).1] at hlost
  | some g => exact ⟨g, hgroup, (h.tracked s g hgroup).lost_pending e hlost⟩

/-- A lost entry stays pending in every further run, and no call is made for it any more. -/
theorem lost_forever {cfg : GroupConfig σ} {log : σ → StreamLog ι Fields} {st st' : GroupState σ ι}
    {ls : List (GroupLabel σ ι)} (h : GroupInvariant st) {s : σ} {e : Entry ι Fields}
    (hlost : e ∈ st.lost s) (hrun : (xreadgroupLoop cfg log).run st ls = some st') :
    IsPending st' s e ∧ entryCalls st' s e = entryCalls st s e := by
  have hall := TransitionSystem.run_invariant' (M := xreadgroupLoop cfg log)
    (fun t => GroupInvariant t ∧ e ∈ t.lost s ∧ entryCalls t s e = entryCalls st s e)
    ?_ ⟨h, hlost, rfl⟩ hrun
  · exact ⟨isPending_of_lost hall.1 hall.2.1, hall.2.2⟩
  · rintro t l t' ⟨ht, htlost, htcalls⟩ hstep
    rcases groupStep_lost ht hstep htlost with ⟨hlost', hcalls'⟩
    exact ⟨groupStep_tracked ht hstep, hlost', hcalls'.trans htcalls⟩

/-- An entry lost in a run stays pending in every further run, and no call is made for it. -/
theorem lost_forever_of_run (cfg : GroupConfig σ) (log : σ → StreamLog ι Fields)
    (ls₀ : List (GroupLabel σ ι)) {st st' : GroupState σ ι} {ls : List (GroupLabel σ ι)}
    (hrun₀ : (xreadgroupLoop cfg log).run (groupInit cfg log) ls₀ = some st) {s : σ}
    {e : Entry ι Fields} (hlost : e ∈ st.lost s)
    (hrun : (xreadgroupLoop cfg log).run st ls = some st') :
    IsPending st' s e ∧ entryCalls st' s e = entryCalls st s e :=
  lost_forever (groupRun_invariant (groupInvariant_init cfg log) hrun₀) hlost hrun

/-- A step that loses nothing leaves the lost entries as they are. -/
theorem groupStep_lossFree {cfg : GroupConfig σ} {st st' : GroupState σ ι} {l : GroupLabel σ ι}
    (hfree : LossFree st l) (hstep : groupStep cfg st l = some st') : st'.lost = st.lost := by
  cases l with
  | append s' e' =>
      rcases Option.map_eq_some_iff.1 hstep with ⟨log, -, rfl⟩
      rfl
  | createGroup =>
      simp only [groupStep] at hstep
      split at hstep <;> cases hstep
      · rfl
      · unfold createGroup
        split <;> rfl
  | createGroupRaises applied =>
      simp only [groupStep] at hstep
      split at hstep <;> cases hstep
      cases applied
      · rfl
      · show (createGroup st _).lost = st.lost
        unfold createGroup
        split <;> rfl
  | read =>
      simp only [groupStep] at hstep
      split at hstep <;> cases hstep
      split
      · rfl
      · unfold sendXreadgroup
        split <;> rfl
  | serve ready | timeout =>
      simp only [groupStep] at hstep
      split at hstep
      · split at hstep <;> cases hstep
        rfl
      · cases hstep
  | serveDangling ready => exact hfree.elim
  | connectionError =>
      simp only [groupStep] at hstep
      have hnone : (fun s => st.lost s ++ st.mode.onTheWay s) = st.lost :=
        funext fun s => by simp [show st.mode.onTheWay s = [] from hfree s]
      split at hstep <;> cases hstep
      · exact hnone
      · exact hnone
  | handle =>
      simp only [groupStep, handleNextMessage] at hstep
      split at hstep <;> cases hstep
      · rfl
      · rfl
      · rfl
      · rfl
      · rename_i a actions reply hmode
        cases a <;> rfl
  | handleRaises applied =>
      simp only [groupStep] at hstep
      split at hstep <;> cases hstep
      rename_i s' m a actions reply hmode
      simp only [LossFree, hmode] at hfree
      funext s
      have hnil := hfree s
      cases a <;> cases applied <;> simp [abandon, perform, ackOnServer, hnil]
  | requestStop =>
      cases hstep
      rfl
  | restart =>
      cases hstep
      exact funext fun s => by simp [abandon, show st.mode.onTheWay s = [] from hfree s]
  | deliver | reconnect =>
      simp only [groupStep] at hstep
      split at hstep <;> cases hstep
      rfl

/-! ## Potential of a stream -/

/-- Undelivered entries of a stream with an id up to {lit}`x`. -/
def undeliveredUpTo (st : GroupState σ ι) (s : σ) (x : ι) : Nat :=
  (undelivered st s).countP fun e => e.id ≤ x

/-- Entries on their way with an id up to {lit}`x`. -/
def onTheWayUpTo (st : GroupState σ ι) (s : σ) (x : ι) : Nat :=
  (st.mode.onTheWay s).countP fun e => e.id ≤ x

/--
Replies that can still reach the loop before the entries up to {lit}`x` are
handed over or lost, and one more.
-/
def groupPotential (st : GroupState σ ι) (s : σ) (x : ι) : Nat :=
  if undeliveredUpTo st s x + onTheWayUpTo st s x = 0 then 0
  else
    match st.mode with
    | .blocked => undeliveredUpTo st s x + 2
    | .answered _ =>
        if st.mode.inHand s = [] then undeliveredUpTo st s x + 2
        else undeliveredUpTo st s x + onTheWayUpTo st s x + 1
    | _ => undeliveredUpTo st s x + 1

/-- The potential is never below what the undelivered entries need from an idle loop. -/
theorem le_groupPotential (st : GroupState σ ι) (s : σ) (x : ι) :
    (if undeliveredUpTo st s x = 0 then 0 else undeliveredUpTo st s x + 1) ≤
      groupPotential st s x := by
  unfold groupPotential
  split
  · omega
  · rw [if_neg (by omega)]
    cases st.mode with
    | answered reply =>
        simp only
        split <;> omega
    | _ => simp only; omega

theorem groupPotential_le (st : GroupState σ ι) (s : σ) (x : ι) :
    groupPotential st s x ≤ undeliveredUpTo st s x + onTheWayUpTo st s x + 2 := by
  unfold groupPotential
  split
  · omega
  · cases st.mode with
    | answered reply =>
        simp only
        split <;> omega
    | _ => simp only; omega

/-- No call is waiting and no reply is on its way or in hand. -/
def GroupIdle : GroupMode σ ι → Prop
  | .blocked | .answered _ | .handling _ _ => False
  | _ => True

/-- With an idle loop only undelivered entries count. -/
theorem groupPotential_of_idle {st : GroupState σ ι} (hmode : GroupIdle st.mode) (s : σ) (x : ι) :
    groupPotential st s x =
      if undeliveredUpTo st s x = 0 then 0 else undeliveredUpTo st s x + 1 := by
  unfold groupPotential onTheWayUpTo
  cases hm : st.mode with
  | blocked | answered | handling => simp [hm, GroupIdle] at hmode
  | _ => rfl

/-- Going idle without new undelivered entries raises no potential. -/
theorem groupPotential_idle_le {st st' : GroupState σ ι} (hmode : GroupIdle st'.mode) {s : σ} {x : ι}
    (hle : undeliveredUpTo st' s x ≤ undeliveredUpTo st s x) :
    groupPotential st' s x ≤ groupPotential st s x := by
  rw [groupPotential_of_idle hmode]
  refine le_trans ?_ (le_groupPotential st s x)
  split <;> split <;> omega

omit [DecidableEq σ] in
theorem undeliveredUpTo_congr {st st' : GroupState σ ι} {s : σ} (hlog : st'.log s = st.log s)
    (hgroup : st'.group s = st.group s) (x : ι) :
    undeliveredUpTo st' s x = undeliveredUpTo st s x := by
  simp [undeliveredUpTo, undelivered, hlog, hgroup]

/-- Deliveries move entries from the undelivered ones to the reply. -/
theorem undelivered_deliverOnServer (cfg : GroupConfig σ) (st st' : GroupState σ ι) (ready : List σ)
    (hlog : st'.log = st.log) (hgroup : st'.group = deliverOnServer cfg st ready) (s : σ) :
    (if s ∈ ready then deliveryOf cfg st s else []) ++ undelivered st' s = undelivered st s := by
  unfold undelivered
  rw [hlog, hgroup]
  unfold deliverOnServer
  split
  · cases hg : st.group s with
    | none => simp [deliveryOf, undelivered, hg]
    | some g =>
        have hout : deliveryOf cfg st s <+: (st.log s).after g.lastDelivered := by
          simpa [deliveryOf, undelivered, hg] using List.take_prefix _ _
        exact StreamLog.append_after_readTo hout
  · rfl

/-- A new group starts with nothing to deliver. -/
theorem undelivered_createGroup (st : GroupState σ ι) (s s' : σ) :
    undelivered (createGroup st s') s = undelivered st s := by
  unfold createGroup
  cases hgroup : st.group s' with
  | some g => rfl
  | none =>
      by_cases hss : s = s'
      · subst hss
        simp [undelivered, hgroup, StreamLog.after_lastId]
      · simp [undelivered, hss]

/-- An XACK delivers nothing. -/
theorem undelivered_perform (st : GroupState σ ι) (s s' : σ) (m : Entry ι Fields) (applied : Bool)
    (a : MessageAction σ ι) : undelivered (perform st s' m applied a) s = undelivered st s := by
  cases a with
  | call c => rfl
  | ack =>
      cases applied with
      | false => rfl
      | true =>
          by_cases hss : s = s'
          · subst hss
            cases hgroup : st.group s <;> simp [perform, ackOnServer, undelivered, hgroup, Group.ack]
          · simp [perform, ackOnServer, undelivered, hss]

/-- While entries up to {lit}`x` are open, the first message of a reply is one of them. -/
theorem onTheWayUpTo_pos {st : GroupState σ ι} (h : GroupInvariant st) {reply : Reply σ ι}
    (hmode : st.mode = .answered reply) {s : σ} {x : ι} (hin : st.mode.inHand s ≠ [])
    (hopen : undeliveredUpTo st s x + onTheWayUpTo st s x ≠ 0) : 0 < onTheWayUpTo st s x := by
  by_contra hzero
  have hundelivered : 0 < undeliveredUpTo st s x := by omega
  rcases List.countP_pos_iff.1 hundelivered with ⟨e, he, hex⟩
  have hex : e.id ≤ x := by simpa using hex
  cases hgroup : st.group s with
  | none => simp [undelivered, hgroup] at he
  | some g =>
      have he : e ∈ (st.log s).after g.lastDelivered := by simpa [undelivered, hgroup] using he
      rcases List.exists_mem_of_ne_nil _ hin with ⟨m, hm⟩
      have hmx : m.id ≤ x :=
        ((h.tracked s g hgroup).inHand_le m hm).trans
          ((StreamLog.mem_after.1 he).2.le.trans hex)
      have hway : m ∈ st.mode.onTheWay s := by
        rw [hmode] at hm ⊢
        exact hm
      exact hzero (List.countP_pos_iff.2 ⟨m, hway, by simpa using hmx⟩)

/-- What the progress argument keeps. -/
structure GroupAiming (s : σ) (x : ι) (st : GroupState σ ι) : Prop where
  invariant : GroupInvariant st
  target : x ≤ (st.log s).lastId

theorem groupPotential_append {cfg : GroupConfig σ} {st st' : GroupState σ ι} {s s' : σ}
    {e : Entry ι Fields} {x : ι} (h : GroupAiming s x st)
    (hstep : groupStep cfg st (.append s' e) = some st') :
    groupPotential st' s x = groupPotential st s x := by
  rcases Option.map_eq_some_iff.1 hstep with ⟨log, happend, rfl⟩
  have hundelivered : undeliveredUpTo { st with log := Function.update st.log s' log } s x =
      undeliveredUpTo st s x := by
    by_cases hss : s = s'
    · subst hss
      have hlt := (StreamLog.append?_eq_some happend).1
      cases hgroup : st.group s with
      | none => simp [undeliveredUpTo, undelivered, hgroup]
      | some g =>
          have hg : g.lastDelivered < e.id :=
            (h.invariant.tracked s g hgroup).delivered_le.trans_lt hlt
          have hx : x < e.id := h.target.trans_lt hlt
          simp [undeliveredUpTo, undelivered, hgroup, StreamLog.after_append? happend hg, hx]
    · simp [undeliveredUpTo, undelivered, hss]
  unfold groupPotential
  rw [hundelivered]
  rfl

/-- The answer to a call brings a stream that has something to deliver, if the server includes it. -/
theorem groupPotential_answerFrom {cfg : GroupConfig σ} {st : GroupState σ ι} {ready : List σ}
    (hnodup : ready.Nodup) (s : σ) (x : ι) :
    groupPotential (answerFrom cfg st ready) s x ≤
      if undeliveredUpTo st s x = 0 then 0
      else if s ∈ ready ∧ undelivered st s ≠ [] then undeliveredUpTo st s x + 1
      else undeliveredUpTo st s x + 2 := by
  have hin : (answerFrom cfg st ready).mode.inHand s =
      if s ∈ ready then deliveryOf cfg st s else [] :=
    messages_map_pair (deliveryOf cfg st) hnodup s
  have hway : (answerFrom cfg st ready).mode.onTheWay s =
      if s ∈ ready then deliveryOf cfg st s else [] := hin
  have hsplit := undelivered_deliverOnServer cfg st (answerFrom cfg st ready) ready rfl rfl s
  have hcount : onTheWayUpTo (answerFrom cfg st ready) s x +
      undeliveredUpTo (answerFrom cfg st ready) s x = undeliveredUpTo st s x := by
    unfold onTheWayUpTo undeliveredUpTo
    rw [hway, ← hsplit, List.countP_append]
  split
  · have hzero : undeliveredUpTo (answerFrom cfg st ready) s x +
        onTheWayUpTo (answerFrom cfg st ready) s x = 0 := by omega
    simp [groupPotential, hzero]
  · rename_i hopen
    split
    · rename_i hs
      have hne : deliveryOf cfg st s ≠ [] := by
        intro hnil
        rcases List.take_eq_nil_iff.1 hnil with hcount | hnil
        · exact absurd hcount cfg.count_pos.ne'
        · exact hs.2 hnil
      have hin' : (answerFrom cfg st ready).mode.inHand s ≠ [] := by simpa [hin, hs.1] using hne
      unfold groupPotential
      rw [if_neg (by omega)]
      show (if (answerFrom cfg st ready).mode.inHand s = [] then _ else _) ≤ _
      rw [if_neg hin']
      omega
    · have hle := groupPotential_le (answerFrom cfg st ready) s x
      omega

theorem groupPotential_read {cfg : GroupConfig σ} {st st' : GroupState σ ι} {s : σ} {x : ι}
    (hs : s ∈ cfg.streamNames) (hstep : groupStep cfg st .read = some st') :
    groupPotential st' s x ≤ groupPotential st s x := by
  simp only [groupStep] at hstep
  split at hstep
  · rename_i hmode
    cases hstep
    have hidle : GroupIdle st.mode := by
      rw [hmode]
      trivial
    split
    · have hfinished : GroupIdle { st with mode := .finished }.mode := trivial
      exact groupPotential_idle_le hfinished le_rfl
    · have hdeliverable : s ∈ deliverable cfg st ↔ undelivered st s ≠ [] := by
        simp [deliverable, hs]
      unfold sendXreadgroup
      split
      · rename_i hnone
        have hnil : undelivered st s = [] := by
          by_contra hne
          exact absurd (hdeliverable.2 hne) (by simp [hnone])
        have hzero : undeliveredUpTo { st with mode := .blocked } s x +
            onTheWayUpTo { st with mode := .blocked } s x = 0 := by
          have hnil' : undelivered { st with mode := .blocked } s = [] := hnil
          simp [undeliveredUpTo, onTheWayUpTo, hnil', GroupMode.onTheWay]
        simp [groupPotential, hzero]
      · rw [groupPotential_of_idle hidle]
        refine (groupPotential_answerFrom (cfg.nodup.filter _) s x).trans ?_
        split
        · exact le_rfl
        · rename_i hopen
          have hne : undelivered st s ≠ [] := by
            intro hnil
            exact hopen (by simp [undeliveredUpTo, hnil])
          rw [if_pos ⟨hdeliverable.2 hne, hne⟩]
  · cases hstep

/-- What a step inside the reply leaves on the way was on the way. -/
theorem handleNextMessage_subset {st st' : GroupState σ ι} (hstep : handleNextMessage st = some st')
    (s : σ) :
    undelivered st' s = undelivered st s ∧ st'.mode.onTheWay s ⊆ st.mode.onTheWay s ∧
      (∃ current reply, st.mode = .handling current reply) ∧
      (GroupIdle st'.mode ∨ ∃ current reply, st'.mode = .handling current reply) := by
  unfold handleNextMessage at hstep
  split at hstep
  · rename_i hmode
    cases hstep
    exact ⟨rfl, by simp [GroupMode.onTheWay], ⟨_, _, hmode⟩, .inl trivial⟩
  · rename_i s' rest hmode
    cases hstep
    refine ⟨rfl, ?_, ⟨_, _, hmode⟩, .inr ⟨_, _, rfl⟩⟩
    simp [hmode, GroupMode.onTheWay, messages_cons]
  · rename_i s' m ms rest hmode
    cases hstep
    refine ⟨rfl, ?_, ⟨_, _, hmode⟩, .inr ⟨_, _, rfl⟩⟩
    exact hmode ▸ onTheWay_take_subset s' m _ ms rest s
  · rename_i s' m reply hmode
    cases hstep
    refine ⟨rfl, ?_, ⟨_, _, hmode⟩, .inr ⟨_, _, rfl⟩⟩
    simp [hmode, GroupMode.onTheWay]
  · rename_i s' m a actions reply hmode
    cases hstep
    refine ⟨?_, ?_, ⟨_, _, hmode⟩, .inr ⟨_, _, rfl⟩⟩
    · exact undelivered_perform st s s' m true a
    · exact hmode ▸ onTheWay_cons_subset s' m a actions reply s
  · cases hstep

theorem groupPotential_handle {cfg : GroupConfig σ} {st st' : GroupState σ ι} {s : σ} {x : ι}
    (hstep : groupStep cfg st .handle = some st') :
    groupPotential st' s x ≤ groupPotential st s x := by
  rcases handleNextMessage_subset hstep s with ⟨hundelivered, hsub, ⟨current, reply, hmode⟩, hmode'⟩
  have hcount : undeliveredUpTo st' s x = undeliveredUpTo st s x := by
    simp [undeliveredUpTo, hundelivered]
  rcases hmode' with hidle | ⟨current', reply', hmode'⟩
  · exact groupPotential_idle_le hidle hcount.le
  · have hway : onTheWayUpTo st s x = 0 → onTheWayUpTo st' s x = 0 := by
      intro hzero
      refine List.countP_eq_zero.2 fun e he => ?_
      exact List.countP_eq_zero.1 hzero e (hsub he)
    unfold groupPotential
    rw [hcount, hmode, hmode']
    by_cases hzero : undeliveredUpTo st s x + onTheWayUpTo st s x = 0
    · have hzero' : undeliveredUpTo st s x + onTheWayUpTo st' s x = 0 := by
        have := hway (by omega)
        omega
      rw [if_pos hzero', if_pos hzero]
    · rw [if_neg hzero]
      split
      · exact Nat.zero_le _
      · exact le_rfl

theorem groupPotential_deliver (cfg : GroupConfig σ) {st st' : GroupState σ ι} {s : σ} {x : ι}
    (h : GroupInvariant st) (hstep : groupStep cfg st .deliver = some st') :
    groupPotential st' s x ≤ groupPotential st s x - 1 := by
  simp only [groupStep] at hstep
  split at hstep
  · rename_i reply hmode
    cases hstep
    have hundelivered : undeliveredUpTo { st with mode := .handling none reply } s x =
        undeliveredUpTo st s x := rfl
    have hway : onTheWayUpTo { st with mode := .handling none reply } s x =
        onTheWayUpTo st s x := by simp [onTheWayUpTo, hmode, GroupMode.onTheWay]
    have hpos := onTheWayUpTo_pos (s := s) (x := x) h hmode
    unfold groupPotential
    rw [hundelivered, hway]
    split
    · exact Nat.zero_le _
    · rename_i hopen
      simp only [hmode]
      rw [← hmode]
      split
      · omega
      · rename_i hin
        have := hpos hin hopen
        omega
  · cases hstep

/-- A delivery to a connection that is gone only takes entries away. -/
theorem groupPotential_answerNobody {cfg : GroupConfig σ} {st : GroupState σ ι} (ready : List σ)
    (s : σ) (x : ι) : groupPotential (answerNobody cfg st ready) s x ≤ groupPotential st s x := by
  have hsplit := undelivered_deliverOnServer cfg st (answerNobody cfg st ready) ready rfl rfl s
  have hle : undeliveredUpTo (answerNobody cfg st ready) s x ≤ undeliveredUpTo st s x := by
    unfold undeliveredUpTo
    rw [← hsplit, List.countP_append]
    exact Nat.le_add_left _ _
  have hway : onTheWayUpTo (answerNobody cfg st ready) s x = onTheWayUpTo st s x := rfl
  have hmode : (answerNobody cfg st ready).mode = st.mode := rfl
  unfold groupPotential
  rw [hway, hmode]
  split
  · exact Nat.zero_le _
  · rename_i hopen'
    have hopen : ¬ undeliveredUpTo st s x + onTheWayUpTo st s x = 0 := by omega
    rw [if_neg hopen]
    cases st.mode with
    | answered reply =>
        simp only
        split <;> omega
    | _ => simp only; omega

/-- No step raises the potential. -/
theorem groupStep_potential {cfg : GroupConfig σ} {st st' : GroupState σ ι} {l : GroupLabel σ ι}
    {s : σ} {x : ι} (h : GroupAiming s x st) (hs : s ∈ cfg.streamNames)
    (hstep : groupStep cfg st l = some st') : groupPotential st' s x ≤ groupPotential st s x := by
  have hidle : ∀ t : GroupState σ ι, GroupIdle t.mode → undelivered t s = undelivered st s →
      groupPotential t s x ≤ groupPotential st s x := by
    intro t ht hundelivered
    exact groupPotential_idle_le ht (by simp [undeliveredUpTo, hundelivered])
  cases l with
  | append s' e => exact (groupPotential_append h hstep).le
  | createGroup =>
      simp only [groupStep] at hstep
      split at hstep <;> cases hstep
      · exact hidle _ trivial rfl
      · exact hidle _ trivial (undelivered_createGroup st s _)
  | createGroupRaises applied =>
      simp only [groupStep] at hstep
      split at hstep <;> cases hstep
      cases applied
      · exact hidle _ trivial rfl
      · exact hidle _ trivial (undelivered_createGroup st s _)
  | read => exact groupPotential_read hs hstep
  | serve ready =>
      simp only [groupStep] at hstep
      split at hstep
      · rename_i hmode
        split at hstep
        · rename_i hready
          cases hstep
          refine (groupPotential_answerFrom hready.2.1 s x).trans ?_
          have hway : onTheWayUpTo st s x = 0 := by
            simp [onTheWayUpTo, hmode, GroupMode.onTheWay]
          simp only [groupPotential, hway, hmode, Nat.add_zero]
          split
          · exact le_rfl
          · split <;> omega
        · cases hstep
      · cases hstep
  | serveDangling ready =>
      simp only [groupStep] at hstep
      split at hstep <;> cases hstep
      exact groupPotential_answerNobody ready s x
  | timeout =>
      simp only [groupStep] at hstep
      split at hstep
      · split at hstep <;> cases hstep
        exact hidle _ trivial rfl
      · cases hstep
  | deliver => exact (groupPotential_deliver cfg h.invariant hstep).trans (Nat.sub_le _ _)
  | connectionError =>
      simp only [groupStep] at hstep
      split at hstep <;> cases hstep <;> exact hidle _ trivial rfl
  | reconnect =>
      simp only [groupStep] at hstep
      split at hstep <;> cases hstep
      refine hidle _ ?_ rfl
      show GroupIdle (if st.shouldStop = true then .finished else .ensuring cfg.streamNames)
      split <;> trivial
  | handle => exact groupPotential_handle hstep
  | handleRaises applied =>
      simp only [groupStep] at hstep
      split at hstep <;> cases hstep
      exact hidle _ trivial (undelivered_perform st s _ _ applied _)
  | requestStop =>
      cases hstep
      exact le_rfl
  | restart =>
      cases hstep
      exact hidle _ trivial rfl

/-! ## Delivery in runs -/

/-- A step keeps every group with the id it was created at, and extends the logs. -/
theorem groupStep_frame {cfg : GroupConfig σ} {st st' : GroupState σ ι} {l : GroupLabel σ ι}
    {s : σ} {g : Group ι} (hg : st.group s = some g) (hstep : groupStep cfg st l = some st') :
    (∃ g', st'.group s = some g' ∧ g'.created = g.created) ∧
      (st'.log s).Extends (st.log s) := by
  have hsame : (∃ g', st.group s = some g' ∧ g'.created = g.created) ∧
      (st.log s).Extends (st.log s) := ⟨⟨g, hg, rfl⟩, StreamLog.extends_refl _⟩
  have hcreate : ∀ s', (∃ g', (createGroup st s').group s = some g' ∧ g'.created = g.created) ∧
      ((createGroup st s').log s).Extends (st.log s) := by
    intro s'
    unfold createGroup
    cases hgroup : st.group s' with
    | some g' => exact hsame
    | none =>
        have hss : s ≠ s' := by
          rintro rfl
          simp [hgroup] at hg
        exact ⟨⟨g, by simpa [hss] using hg, rfl⟩, StreamLog.extends_refl _⟩
  have hdeliver : ∀ ready, ∃ g', deliverOnServer cfg st ready s = some g' ∧
      g'.created = g.created := by
    intro ready
    unfold deliverOnServer
    split
    · exact ⟨g.deliver (deliveryOf cfg st s), by rw [hg]; rfl, rfl⟩
    · exact ⟨g, hg, rfl⟩
  have hperform : ∀ s' m applied a, (∃ g', (perform st s' m applied a).group s = some g' ∧
      g'.created = g.created) ∧ ((perform st s' m applied a).log s).Extends (st.log s) := by
    intro s' m applied a
    cases a with
    | call c => exact hsame
    | ack =>
        cases applied with
        | false => exact hsame
        | true =>
            by_cases hss : s = s'
            · subst hss
              refine ⟨⟨g.ack m.id, ?_, rfl⟩, StreamLog.extends_refl _⟩
              simp [perform, ackOnServer, hg]
            · refine ⟨⟨g, ?_, rfl⟩, StreamLog.extends_refl _⟩
              simpa [perform, ackOnServer, hss] using hg
  cases l with
  | append s' e =>
      rcases Option.map_eq_some_iff.1 hstep with ⟨log, happend, rfl⟩
      refine ⟨⟨g, hg, rfl⟩, ?_⟩
      by_cases hss : s = s'
      · subst hss
        simpa using StreamLog.extends_of_append? happend
      · simpa [hss] using StreamLog.extends_refl (st.log s)
  | createGroup =>
      simp only [groupStep] at hstep
      split at hstep <;> cases hstep
      · exact hsame
      · exact hcreate _
  | createGroupRaises applied =>
      simp only [groupStep] at hstep
      split at hstep <;> cases hstep
      cases applied
      · exact hsame
      · exact hcreate _
  | read =>
      simp only [groupStep] at hstep
      split at hstep <;> cases hstep
      split
      · exact hsame
      · unfold sendXreadgroup
        split
        · exact hsame
        · exact ⟨hdeliver _, StreamLog.extends_refl _⟩
  | serve ready =>
      simp only [groupStep] at hstep
      split at hstep
      · split at hstep <;> cases hstep
        exact ⟨hdeliver _, StreamLog.extends_refl _⟩
      · cases hstep
  | serveDangling ready =>
      simp only [groupStep] at hstep
      split at hstep <;> cases hstep
      exact ⟨hdeliver _, StreamLog.extends_refl _⟩
  | timeout =>
      simp only [groupStep] at hstep
      split at hstep
      · split at hstep <;> cases hstep
        exact hsame
      · cases hstep
  | handle =>
      simp only [groupStep, handleNextMessage] at hstep
      split at hstep <;> cases hstep
      · exact hsame
      · exact hsame
      · exact hsame
      · exact hsame
      · exact hperform _ _ _ _
  | handleRaises applied =>
      simp only [groupStep] at hstep
      split at hstep <;> cases hstep
      exact hperform _ _ _ _
  | requestStop | restart =>
      cases hstep
      exact hsame
  | deliver | connectionError | reconnect =>
      simp only [groupStep] at hstep
      split at hstep <;> cases hstep <;> exact hsame

theorem groupRun_frame {cfg : GroupConfig σ} {log : σ → StreamLog ι Fields}
    {st st' : GroupState σ ι} {ls : List (GroupLabel σ ι)} {s : σ} {g : Group ι}
    (hg : st.group s = some g) (hrun : (xreadgroupLoop cfg log).run st ls = some st') :
    (∃ g', st'.group s = some g' ∧ g'.created = g.created) ∧
      (st'.log s).Extends (st.log s) := by
  refine TransitionSystem.run_invariant' (M := xreadgroupLoop cfg log)
    (fun t => (∃ g', t.group s = some g' ∧ g'.created = g.created) ∧
      (t.log s).Extends (st.log s)) ?_ ⟨⟨g, hg, rfl⟩, StreamLog.extends_refl _⟩ hrun
  rintro t l t' ⟨⟨g₁, hg₁, hcreated₁⟩, hext₁⟩ hstep
  rcases groupStep_frame hg₁ hstep with ⟨⟨g₂, hg₂, hcreated₂⟩, hext₂⟩
  exact ⟨⟨g₂, hg₂, hcreated₂.trans hcreated₁⟩, hext₂.trans hext₁⟩

/-- Entries of a stream that are still to be handed over. -/
def openEntries (st : GroupState σ ι) (s : σ) : Nat :=
  (undelivered st s).length + (st.mode.onTheWay s).length

/-- As many replies as entries are open, and two more, leave none of them open. -/
theorem closed_of_replies {cfg : GroupConfig σ} {log : σ → StreamLog ι Fields}
    {st st' : GroupState σ ι} {ls : List (GroupLabel σ ι)} {s : σ} (h : GroupInvariant st)
    (hs : s ∈ cfg.streamNames) {g : Group ι} (hg : st.group s = some g)
    (hrun : (xreadgroupLoop cfg log).run st ls = some st')
    (hreplies : openEntries st s + 2 ≤ groupRepliesIn ls) :
    undeliveredUpTo st' s (st.log s).lastId + onTheWayUpTo st' s (st.log s).lastId = 0 := by
  have hpot := TransitionSystem.run_potential (M := xreadgroupLoop cfg log) (C := fun _ _ => True)
    (fun t => GroupAiming s (st.log s).lastId t ∧ ∃ g', t.group s = some g') isGroupReply
    (fun t => groupPotential t s (st.log s).lastId) ?_ ⟨⟨h, le_rfl⟩, g, hg⟩
    (TransitionSystem.meets_of_mem (M := xreadgroupLoop cfg log) (fun _ _ _ => trivial) st) hrun
  · have hle : groupPotential st s (st.log s).lastId ≤ openEntries st s + 2 := by
      refine (groupPotential_le st s _).trans (Nat.add_le_add_right ?_ 2)
      exact Nat.add_le_add List.countP_le_length List.countP_le_length
    have hzero : groupPotential st' s (st.log s).lastId = 0 := by
      unfold groupRepliesIn at hreplies
      omega
    by_contra hopen
    unfold groupPotential at hzero
    rw [if_neg hopen] at hzero
    cases hmode : st'.mode with
    | answered reply =>
        simp only [hmode] at hzero
        split at hzero <;> omega
    | _ =>
        simp only [hmode] at hzero
        omega
  · rintro t l t' ⟨ht, g', hg'⟩ - hstep
    rcases groupStep_frame hg' hstep with ⟨⟨g'', hg'', -⟩, hext⟩
    refine ⟨⟨⟨groupStep_tracked ht.invariant hstep, ht.target.trans hext.lastId_le⟩, g'', hg''⟩,
      groupStep_potential ht hs hstep, ?_⟩
    cases l with
    | deliver => exact fun _ => groupPotential_deliver cfg ht.invariant hstep
    | _ => simp [isGroupReply]

/-! ## The delivery guarantee -/

/--
In every run, for every subscribed stream whose group exists: every entry
appended since the group was created is undelivered, on its way, handed over or
lost; after finitely many further replies each of them is handed over or lost; a
lost entry stays pending and is not handed over in any further run; and in a run
whose steps are all {lit}`LossFree` nothing is lost.
-/
theorem xreadgroup_delivery (cfg : GroupConfig σ) (log : σ → StreamLog ι Fields)
    (ls : List (GroupLabel σ ι)) (st : GroupState σ ι) (s : σ) (g : Group ι)
    (hrun : (xreadgroupLoop cfg log).run (groupInit cfg log) ls = some st)
    (hs : s ∈ cfg.streamNames) (hg : st.group s = some g) :
    (∀ e ∈ (st.log s).after g.created,
      e ∈ undelivered st s ∨ e ∈ st.mode.onTheWay s ∨ Handed st s e ∨ e ∈ st.lost s) ∧
    (∀ ls' st', (xreadgroupLoop cfg log).run st ls' = some st' →
      openEntries st s + 2 ≤ groupRepliesIn ls' →
        ∀ e ∈ (st.log s).after g.created, Handed st' s e ∨ e ∈ st'.lost s) ∧
    (∀ e ∈ st.lost s, ∀ ls' st', (xreadgroupLoop cfg log).run st ls' = some st' →
      IsPending st' s e ∧ entryCalls st' s e = entryCalls st s e) ∧
    ((xreadgroupLoop cfg log).Meets LossFree (groupInit cfg log) ls → st.lost s = []) := by
  have h := groupRun_invariant (groupInvariant_init cfg log) hrun
  have hplaced : ∀ (t : GroupState σ ι) (g' : Group ι), GroupInvariant t → t.group s = some g' →
      ∀ e ∈ (t.log s).after g'.created,
        e ∈ undelivered t s ∨ e ∈ t.mode.onTheWay s ∨ Handed t s e ∨ e ∈ t.lost s := by
    intro t g' ht hg' e he
    rcases StreamLog.mem_after.1 he with ⟨hmem, hcreated⟩
    rcases le_or_gt e.id g'.lastDelivered with hle | hlt
    · rcases (ht.tracked s g' hg').placed e hmem hcreated hle with hl | hw | hh
      · exact .inr (.inr (.inr hl))
      · exact .inr (.inl hw)
      · exact .inr (.inr (.inl hh))
    · exact .inl (by simp [undelivered, hg', hmem, hlt])
  refine ⟨hplaced st g h hg, ?_, fun e he ls' st' hrun' => lost_forever h he hrun', fun hfree => ?_⟩
  · intro ls' st' hrun' hreplies e he
    rcases groupRun_frame hg hrun' with ⟨⟨g', hg', hcreated⟩, hext⟩
    have hclosed := closed_of_replies h hs hg hrun' hreplies
    have hle : e.id ≤ (st.log s).lastId := (st.log s).le_lastId_of_mem (StreamLog.mem_after.1 he).1
    have he' : e ∈ (st'.log s).after g'.created := hcreated ▸ (hext.after g.created).subset he
    rcases hplaced st' g' (groupRun_invariant h hrun') hg' e he' with hu | hw | hh | hl
    · have hzero : undeliveredUpTo st' s (st.log s).lastId = 0 := by omega
      exact absurd hle (by simpa using List.countP_eq_zero.1 hzero e hu)
    · have hzero : onTheWayUpTo st' s (st.log s).lastId = 0 := by omega
      exact absurd hle (by simpa using List.countP_eq_zero.1 hzero e hw)
    · exact .inl hh
    · exact .inr hl
  · exact TransitionSystem.run_invariant (M := xreadgroupLoop cfg log) (fun t => t.lost s = [])
      (fun t l t' ht hC hstep => by rw [groupStep_lossFree hC hstep, ht]) rfl hfree hrun

/-! ## One stream -/

omit [DecidableEq σ] [LinearOrder ι] [OrderBot ι]

theorem hundred_pos : 0 < 100 := by
  decide

/-- Bars of one partition. -/
def barsOfGroup : GroupConfig String where
  streamNames := ["md:stream:am:0"]
  nodup := by decide
  count := 100
  count_pos := hundred_pos

/-- A bar with one field. -/
def barEntry (ms : ℕ) : Entry RedisId Fields where
  id := toLex (ms, 0)
  fields := some [("AAPL", "bar")]

/-- The server answers a read with the first bar, and the connection breaks. -/
def replyLost : List (GroupLabel String RedisId) :=
  [.createGroup, .createGroup, .read, .append "md:stream:am:0" (barEntry 1),
    .serve ["md:stream:am:0"], .connectionError]

/-- After the lost reply the bar is pending in every further run and is never handed over. -/
theorem xreadgroup_reply_lost :
    ∃ st, (xreadgroupLoop barsOfGroup fun _ => .empty).run
        (groupInit barsOfGroup fun _ => .empty) replyLost = some st ∧
      barEntry 1 ∈ (st.log "md:stream:am:0").after ⊥ ∧
      ∀ ls st', (xreadgroupLoop barsOfGroup fun _ => .empty).run st ls = some st' →
        IsPending st' "md:stream:am:0" (barEntry 1) ∧ ¬ Handed st' "md:stream:am:0" (barEntry 1) := by
  refine ⟨_, rfl, by decide, fun ls st' hrun => ?_⟩
  rcases lost_forever_of_run barsOfGroup (fun _ => .empty) replyLost rfl
    (s := "md:stream:am:0") (e := barEntry 1) (by decide) hrun with ⟨hpending, hcalls⟩
  refine ⟨hpending, fun hhanded => ?_⟩
  have hcall : ⟨"md:stream:am:0", toLex (1, 0), "AAPL", "bar"⟩ ∈
      entryCalls st' "md:stream:am:0" (barEntry 1) :=
    List.mem_filter.2 ⟨hhanded _ (by decide), by decide⟩
  rw [hcalls] at hcall
  exact absurd hcall (by decide)

/-- The first bar is handled and acknowledged, the second one arrives while it is. -/
def twoBarsHandled : List (GroupLabel String RedisId) :=
  [.createGroup, .createGroup, .read, .append "md:stream:am:0" (barEntry 1),
    .serve ["md:stream:am:0"], .deliver, .append "md:stream:am:0" (barEntry 2),
    .handle, .handle, .handle, .handle, .handle, .handle, .read, .deliver,
    .handle, .handle, .handle, .handle, .handle, .handle]

theorem twoBarsHandled_not_mayLose : ∀ l ∈ twoBarsHandled, l.mayLose = false := by
  decide

/-- No step of this run loses an entry, and both bars have been handed over. -/
theorem xreadgroup_delivery_two_bars :
    ∃ st, (xreadgroupLoop barsOfGroup fun _ => .empty).run
        (groupInit barsOfGroup fun _ => .empty) twoBarsHandled = some st ∧
      st.calls.map FieldCall.msgId = [toLex (1, 0), toLex (2, 0)] ∧
      st.lost "md:stream:am:0" = [] :=
  ⟨_, rfl, by decide,
    (xreadgroup_delivery barsOfGroup (fun _ => .empty) twoBarsHandled _ "md:stream:am:0" _ rfl
      (by decide) rfl).2.2.2
      (TransitionSystem.meets_of_mem
        (fun l hl st => lossFree_of_not_mayLose st (twoBarsHandled_not_mayLose l hl)) _)⟩

end MarketData
end StrategyWorker
