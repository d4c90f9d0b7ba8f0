import StrategyWorker.MarketData.XreadgroupLoop

/-!
# Delivery by the XREADGROUP loop

Every entry above the id at which the group was created is in one of four
places: not delivered yet, on its way to the processing function, handed to it,
or lost.  Only a step that leaves a reply behind, or a delivery to a connection
that is gone, adds to the lost entries, and no step takes one back: the loop
reads new entries only and acknowledges only the message in hand.

Main results:

- Theorem {lit}`messageActions_eq`: a message is acknowledged once, after its
  last field.
- Theorem {lit}`groupStep_tracked`: every step keeps the invariant.
- Theorem {lit}`groupRun_invariant`: so does every run.
-/

namespace StrategyWorker
namespace MarketData

open Library

variable {σ ι : Type*} [DecidableEq σ] [LinearOrder ι] [OrderBot ι]

/-! ## Acknowledgement of one message -/

omit [DecidableEq σ] [LinearOrder ι] [OrderBot ι] in
/-- As long as {lit}`pending` holds the names of the remaining fields, only the last field
acknowledges. -/
theorem fieldActions_eq (s : σ) (msgId : ι) (fields : List (String × String)) :
    fieldActions s msgId (fields.map Prod.fst) fields =
      (fields.map fun f => .call ⟨s, msgId, f.1, f.2⟩) ++ if fields = [] then [] else [.ack] := by
  induction fields with
  | nil => rfl
  | cons f fields ih =>
      rcases f with ⟨fieldSym, payload⟩
      cases fields with
      | nil => simp [fieldActions]
      | cons f' fields =>
          simp only [List.map_cons, fieldActions, List.mem_cons, true_or, if_true,
            List.erase_cons_head] at ih ⊢
          rw [ih]
          simp

omit [DecidableEq σ] [LinearOrder ι] [OrderBot ι] in
/-- A message is processed field by field and acknowledged once, at the end. -/
theorem messageActions_eq (s : σ) (m : Entry ι Fields) :
    messageActions s m = (callsOf s m).map .call ++ [.ack] := by
  unfold messageActions callsOf
  split
  · simp [*]
  · simp [*]
  · rename_i fields hne hfields
    rw [fieldActions_eq]
    have hfields' : fields ≠ [] := fun h => hne (h ▸ rfl)
    simp [hfields, hfields']

/-! ## The invariant -/

/-- The delivery invariant of a stream that has a group. -/
structure GroupTracked (st : GroupState σ ι) (s : σ) (g : Group ι) : Prop where
  created_le : g.created ≤ g.lastDelivered
  delivered_le : g.lastDelivered ≤ (st.log s).lastId
  placed : ∀ e ∈ (st.log s).entries, g.created < e.id → e.id ≤ g.lastDelivered →
    e ∈ st.lost s ∨ e ∈ st.mode.onTheWay s ∨ Handed st s e
  inHand_sorted : (st.mode.inHand s).Pairwise fun a b => a.id < b.id
  inHand_le : ∀ e ∈ st.mode.inHand s, e.id ≤ g.lastDelivered
  lost_le : ∀ e ∈ st.lost s, e.id ≤ g.lastDelivered
  disjoint : ∀ e ∈ st.lost s, ∀ e' ∈ st.mode.inHand s, e.id ≠ e'.id
  lost_pending : ∀ e ∈ st.lost s, e ∈ g.pending
  onTheWay_pending : ∀ e ∈ st.mode.onTheWay s, e ∈ g.pending

/-- The actions left for the message in hand end its list of actions, and the calls before them
have been made. -/
def CurrentSound (st : GroupState σ ι) : Prop :=
  ∀ s m actions reply, st.mode = .handling (some (s, m, actions)) reply →
    ∃ done, messageActions s m = done ++ actions ∧ ∀ c, .call c ∈ done → c ∈ st.calls

/-- What holds between any two steps of a run. -/
structure GroupInvariant (st : GroupState σ ι) : Prop where
  sound : CurrentSound st
  ungrouped : ∀ s, st.group s = none → st.lost s = [] ∧ st.mode.inHand s = []
  tracked : ∀ s g, st.group s = some g → GroupTracked st s g

omit [LinearOrder ι] [OrderBot ι] in
theorem onTheWay_subset_inHand (mode : GroupMode σ ι) (s : σ) :
    mode.onTheWay s ⊆ mode.inHand s := by
  cases mode with
  | handling current reply =>
      rcases current with _ | ⟨s', m, actions⟩
      · exact List.Subset.refl _
      · intro e he
        simp only [GroupMode.onTheWay, GroupMode.inHand, List.mem_append] at he ⊢
        refine he.imp_left fun hm => ?_
        split at hm
        · rename_i h
          simpa [h.1] using hm
        · cases hm
  | _ => exact List.Subset.refl _

omit [LinearOrder ι] [OrderBot ι] in
/-- An action taken brings nothing new on its way. -/
theorem onTheWay_cons_subset (s' : σ) (m : Entry ι Fields) (a : MessageAction σ ι)
    (actions : List (MessageAction σ ι)) (reply : Reply σ ι) (s : σ) :
    (GroupMode.handling (some (s', m, actions)) reply).onTheWay s ⊆
      (GroupMode.handling (some (s', m, a :: actions)) reply).onTheWay s := by
  intro e he
  simp only [GroupMode.onTheWay, List.mem_append] at he ⊢
  refine he.imp_left fun he => ?_
  split at he
  · rename_i hs
    rw [if_pos ⟨hs.1, by simp [hs.2]⟩]
    exact he
  · cases he

omit [LinearOrder ι] [OrderBot ι] in
/-- A message taken in hand was on its way. -/
theorem onTheWay_take_subset (s' : σ) (m : Entry ι Fields) (actions : List (MessageAction σ ι))
    (ms : List (Entry ι Fields)) (rest : Reply σ ι) (s : σ) :
    (GroupMode.handling (some (s', m, actions)) ((s', ms) :: rest)).onTheWay s ⊆
      (GroupMode.handling none ((s', m :: ms) :: rest)).onTheWay s := by
  intro e he
  by_cases hs : s' = s
  · subst hs
    simp only [GroupMode.onTheWay, messages_cons, if_true, true_and] at he ⊢
    rcases List.mem_append.1 he with he | he
    · split at he
      · exact List.mem_append_left _ (by simpa using Or.inl he)
      · cases he
    · rcases List.mem_append.1 he with he | he
      · exact List.mem_append_left _ (List.mem_cons_of_mem _ he)
      · exact List.mem_append_right _ he
  · simpa [GroupMode.onTheWay, messages_cons, hs] using he

/-- Modes with no reply on its way or in hand. -/
def NothingInHand (mode : GroupMode σ ι) : Prop :=
  ∀ s, mode.inHand s = []

omit [LinearOrder ι] [OrderBot ι] in
theorem NothingInHand.onTheWay {mode : GroupMode σ ι} (h : NothingInHand mode) (s : σ) :
    mode.onTheWay s = [] :=
  List.subset_nil.1 (h s ▸ onTheWay_subset_inHand mode s)

theorem groupInvariant_init (cfg : GroupConfig σ) (log : σ → StreamLog ι Fields) :
    GroupInvariant (groupInit cfg log) where
  sound := by intro s m actions reply h; cases h
  ungrouped := fun _ _ => ⟨rfl, rfl⟩
  tracked := by intro s g h; cases h

/-! ## Steps that only move the loop -/

/--
A step that leaves logs, groups and lost entries alone keeps the invariant when
entries leave the hand of the loop only after they have been handed over.
-/
theorem GroupInvariant.advance {st : GroupState σ ι} (h : GroupInvariant st) (st' : GroupState σ ι)
    (hlog : st'.log = st.log) (hgroup : st'.group = st.group) (hlost : st'.lost = st.lost)
    (hcalls : st.calls ⊆ st'.calls)
    (hin : ∀ s, (st'.mode.inHand s).Sublist (st.mode.inHand s))
    (hway : ∀ s, st'.mode.onTheWay s ⊆ st.mode.onTheWay s)
    (hdone : ∀ s, ∀ e ∈ st.mode.onTheWay s, e ∈ st'.mode.onTheWay s ∨ Handed st' s e)
    (hsound : CurrentSound st') : GroupInvariant st' where
  sound := hsound
  ungrouped := by
    intro s hs
    rcases h.ungrouped s (hgroup ▸ hs) with ⟨hl, hi⟩
    refine ⟨hlost ▸ hl, List.sublist_nil.1 (hi ▸ hin s)⟩
  tracked := by
    intro s g hg
    have htracked := h.tracked s g (hgroup ▸ hg)
    constructor
    · exact htracked.created_le
    · exact hlog ▸ htracked.delivered_le
    · rw [hlog, hlost]
      intro e he hcreated hle
      rcases htracked.placed e he hcreated hle with hl | hw | hhanded
      · exact .inl hl
      · exact .inr (hdone s e hw)
      · exact .inr (.inr fun c hc => hcalls (hhanded c hc))
    · exact htracked.inHand_sorted.sublist (hin s)
    · exact fun e he => htracked.inHand_le e ((hin s).subset he)
    · exact hlost ▸ htracked.lost_le
    · rw [hlost]
      exact fun e he e' he' => htracked.disjoint e he e' ((hin s).subset he')
    · exact hlost ▸ htracked.lost_pending
    · exact fun e he => htracked.onTheWay_pending e (hway s he)

/-- Moving between modes with nothing in hand keeps the invariant. -/
theorem GroupInvariant.move {st : GroupState σ ι} (h : GroupInvariant st) {mode : GroupMode σ ι}
    (hold : NothingInHand st.mode) (hnew : NothingInHand mode)
    (hcurrent : ∀ current reply, mode ≠ .handling (some current) reply) :
    GroupInvariant { st with mode := mode } := by
  refine h.advance _ rfl rfl rfl (List.Subset.refl _) ?_ ?_ ?_ ?_
  · intro s
    simp [show mode.inHand s = [] from hnew s]
  · intro s
    simp [hnew.onTheWay s]
  · intro s e he
    simp [hold.onTheWay s] at he
  · intro s m actions reply hmode
    exact absurd hmode (hcurrent _ _)

/-! ## Steps of producers and server -/

theorem groupStep_append {cfg : GroupConfig σ} {st st' : GroupState σ ι} {s' : σ}
    {e : Entry ι Fields} (h : GroupInvariant st)
    (hstep : groupStep cfg st (.append s' e) = some st') : GroupInvariant st' := by
  rcases Option.map_eq_some_iff.1 hstep with ⟨log, happend, rfl⟩
  refine ⟨h.sound, h.ungrouped, ?_⟩
  intro s g hg
  have htracked := h.tracked s g hg
  by_cases hss : s = s'
  · subst hss
    rcases StreamLog.append?_eq_some happend with ⟨hlt, hentries⟩
    have hlog : Function.update st.log s log s = log := Function.update_self _ _ _
    refine ⟨htracked.created_le, ?_, ?_, htracked.inHand_sorted, htracked.inHand_le,
      htracked.lost_le, htracked.disjoint, htracked.lost_pending, htracked.onTheWay_pending⟩
    · exact htracked.delivered_le.trans
        (by simpa [hlog] using (StreamLog.extends_of_append? happend).lastId_le)
    · intro a ha hcreated hle
      have ha : a ∈ (st.log s).entries ++ [e] := by simpa [hlog, hentries] using ha
      rcases List.mem_append.1 ha with ha | ha
      · exact htracked.placed a ha hcreated hle
      · obtain rfl : a = e := by simpa using ha
        exact absurd (hle.trans htracked.delivered_le) (not_le.2 hlt)
  · have hlog : Function.update st.log s' log s = st.log s := Function.update_of_ne hss _ _
    refine ⟨htracked.created_le, ?_, ?_, htracked.inHand_sorted, htracked.inHand_le,
      htracked.lost_le, htracked.disjoint, htracked.lost_pending, htracked.onTheWay_pending⟩
    · simpa [hlog] using htracked.delivered_le
    · intro a ha
      exact htracked.placed a (hlog ▸ ha)

/-- Creating the group of a stream, or finding it there, keeps the invariant. -/
theorem GroupInvariant.createGroup {st : GroupState σ ι} (h : GroupInvariant st) (s' : σ) :
    GroupInvariant (createGroup st s') := by
  unfold MarketData.createGroup
  cases hgroup : st.group s' with
  | some g => exact h
  | none =>
      refine ⟨h.sound, fun s hs => h.ungrouped s ?_, fun s g hg => ?_⟩
      · by_cases hss : s = s'
        · exact hss ▸ hgroup
        · simpa [hss] using hs
      · by_cases hss : s = s'
        · subst hss
          rcases h.ungrouped s hgroup with ⟨hlost, hin⟩
          have hway : st.mode.onTheWay s = [] :=
            List.subset_nil.1 (hin ▸ onTheWay_subset_inHand st.mode s)
          obtain rfl : g = ⟨(st.log s).lastId, (st.log s).lastId, []⟩ := by simpa using hg.symm
          refine ⟨le_rfl, le_rfl, ?_, ?_, ?_, ?_, ?_, ?_, ?_⟩
          · intro e _ hcreated hle
            exact absurd hle (not_le.2 hcreated)
          · simp [hin]
          · simp [hin]
          · simp [hlost]
          · simp [hlost]
          · simp [hlost]
          · simp [hway]
        · have hg : st.group s = some g := by simpa [hss] using hg
          have htracked := h.tracked s g hg
          exact ⟨htracked.created_le, htracked.delivered_le, htracked.placed,
            htracked.inHand_sorted, htracked.inHand_le, htracked.lost_le, htracked.disjoint,
            htracked.lost_pending, htracked.onTheWay_pending⟩

/-- What a delivery from the streams {lit}`ready` adds for one stream. -/
theorem deliverOnServer_cases {cfg : GroupConfig σ} {st : GroupState σ ι} {ready : List σ}
    {s : σ} {g' : Group ι} (hg' : deliverOnServer cfg st ready s = some g') :
    ∃ g, st.group s = some g ∧
      ((s ∉ ready ∧ g' = g) ∨
        (s ∈ ready ∧ g' = g.deliver (deliveryOf cfg st s) ∧
          deliveryOf cfg st s <+: (st.log s).after g.lastDelivered)) := by
  unfold deliverOnServer at hg'
  split at hg'
  · rename_i hs
    rcases Option.map_eq_some_iff.1 hg' with ⟨g, hg, rfl⟩
    refine ⟨g, hg, .inr ⟨hs, rfl, ?_⟩⟩
    simpa [deliveryOf, undelivered, hg] using List.take_prefix _ _
  · rename_i hs
    exact ⟨g', hg', .inl ⟨hs, rfl⟩⟩

/-- What was placed below the last delivered id stays placed, and a delivery places the rest. -/
theorem placed_deliver {log : StreamLog ι Fields} {g : Group ι} {out : List (Entry ι Fields)}
    {P Q : Entry ι Fields → Prop} (hout : out <+: log.after g.lastDelivered)
    (hold : ∀ e ∈ log.entries, g.created < e.id → e.id ≤ g.lastDelivered → P e)
    (hPQ : ∀ e, P e → Q e) (hnew : ∀ e ∈ out, Q e) :
    ∀ e ∈ log.entries, (g.deliver out).created < e.id → e.id ≤ (g.deliver out).lastDelivered →
      Q e := by
  intro e he hcreated hle
  rcases le_or_gt e.id g.lastDelivered with hold' | hnew'
  · exact hPQ e (hold e he hcreated hold')
  · apply hnew
    rw [← (StreamLog.between_readTo hout).2]
    exact StreamLog.mem_between.2 ⟨he, hnew', hle⟩

theorem mem_delivery_le {log : StreamLog ι Fields} {p : ι} {out : List (Entry ι Fields)}
    (hout : out <+: log.after p) {e : Entry ι Fields} (he : e ∈ out) :
    p < e.id ∧ e.id ≤ StreamLog.readTo p out ∧ e ∈ log.entries := by
  rw [← (StreamLog.between_readTo hout).2] at he
  rcases StreamLog.mem_between.1 he with ⟨hmem, hlt, hle⟩
  exact ⟨hlt, hle, hmem⟩

theorem readTo_le_lastId {log : StreamLog ι Fields} {p : ι} {out : List (Entry ι Fields)}
    (hout : out <+: log.after p) (hp : p ≤ log.lastId) : StreamLog.readTo p out ≤ log.lastId := by
  have hread : StreamLog.readTo p out ∈ p :: out.map Entry.id := List.getLast_mem _
  rcases List.mem_cons.1 hread with heq | hmem
  · exact heq.le.trans hp
  · rcases List.mem_map.1 hmem with ⟨e, he, heq⟩
    rw [← heq]
    exact log.le_lastId_of_mem (mem_delivery_le hout he).2.2

theorem pairwise_of_prefix_after {log : StreamLog ι Fields} {p : ι} {out : List (Entry ι Fields)}
    (hout : out <+: log.after p) : out.Pairwise fun a b => a.id < b.id := by
  have hpair := log.pairwise_after p
  exact hpair.sublist hout.sublist

theorem deliverOnServer_eq_none {cfg : GroupConfig σ} {st : GroupState σ ι} {ready : List σ} {s : σ}
    (h : deliverOnServer cfg st ready s = none) : st.group s = none := by
  unfold deliverOnServer at h
  split at h
  · exact Option.map_eq_none_iff.1 h
  · exact h

omit [DecidableEq σ] in
theorem deliveryOf_of_ungrouped {cfg : GroupConfig σ} {st : GroupState σ ι} {s : σ}
    (h : st.group s = none) : deliveryOf cfg st s = [] := by
  simp [deliveryOf, undelivered, h]

/-- The server answers a loop that has nothing in hand. -/
theorem GroupInvariant.answerFrom {cfg : GroupConfig σ} {st : GroupState σ ι}
    (h : GroupInvariant st) (hmode : NothingInHand st.mode) {ready : List σ}
    (hnodup : ready.Nodup) : GroupInvariant (answerFrom cfg st ready) := by
  have hin : ∀ s, (MarketData.answerFrom cfg st ready).mode.inHand s =
      if s ∈ ready then deliveryOf cfg st s else [] :=
    fun s => messages_map_pair (deliveryOf cfg st) hnodup s
  refine ⟨by rintro s m actions reply ⟨⟩, fun s hs => ?_, fun s g' hg' => ?_⟩
  · have hnone := deliverOnServer_eq_none hs
    refine ⟨(h.ungrouped s hnone).1, ?_⟩
    rw [hin, deliveryOf_of_ungrouped hnone]
    exact ite_self _
  · rcases deliverOnServer_cases hg' with ⟨g, hg, ⟨hs, rfl⟩ | ⟨hs, rfl, hout⟩⟩
    · have htracked := h.tracked s g' hg
      have hin : (MarketData.answerFrom cfg st ready).mode.inHand s = [] := by simp [hin, hs]
      have hway : (MarketData.answerFrom cfg st ready).mode.onTheWay s = [] := hin
      refine ⟨htracked.created_le, htracked.delivered_le, ?_, ?_, ?_, htracked.lost_le, ?_,
        htracked.lost_pending, ?_⟩
      · intro e he hcreated hle
        rcases htracked.placed e he hcreated hle with hlost | hw | hhanded
        · exact .inl hlost
        · simp [hmode.onTheWay s] at hw
        · exact .inr (.inr hhanded)
      · simp [hin]
      · simp [hin]
      · simp [hin]
      · simp [hway]
    · have htracked := h.tracked s g hg
      have hin : (MarketData.answerFrom cfg st ready).mode.inHand s = deliveryOf cfg st s := by
        simp [hin, hs]
      have hway : (MarketData.answerFrom cfg st ready).mode.onTheWay s = deliveryOf cfg st s := hin
      refine ⟨?_, readTo_le_lastId hout htracked.delivered_le, ?_, ?_, ?_, ?_, ?_, ?_, ?_⟩
      · exact htracked.created_le.trans (StreamLog.between_readTo hout).1
      · refine placed_deliver hout htracked.placed ?_ ?_
        · rintro e (hlost | hw | hhanded)
          · exact .inl hlost
          · simp [hmode.onTheWay s] at hw
          · exact .inr (.inr hhanded)
        · intro e he
          exact .inr (.inl (hway ▸ he))
      · exact hin ▸ pairwise_of_prefix_after hout
      · intro e he
        exact (mem_delivery_le hout (hin ▸ he)).2.1
      · intro e he
        exact (htracked.lost_le e he).trans (StreamLog.between_readTo hout).1
      · intro e he e' he'
        exact ((htracked.lost_le e he).trans_lt (mem_delivery_le hout (hin ▸ he')).1).ne
      · intro e he
        exact List.mem_append_left _ (htracked.lost_pending e he)
      · intro e he
        exact List.mem_append_right _ (hway ▸ he)

/-- A delivery to a connection that is gone is lost. -/
theorem GroupInvariant.answerNobody {cfg : GroupConfig σ} {st : GroupState σ ι}
    (h : GroupInvariant st) (ready : List σ) : GroupInvariant (answerNobody cfg st ready) := by
  refine ⟨h.sound, fun s hs => ?_, fun s g' hg' => ?_⟩
  · have hnone := deliverOnServer_eq_none hs
    rcases h.ungrouped s hnone with ⟨hlost, hin⟩
    refine ⟨?_, hin⟩
    show st.lost s ++ _ = []
    rw [hlost, deliveryOf_of_ungrouped hnone]
    simp
  · rcases deliverOnServer_cases hg' with ⟨g, hg, ⟨hs, rfl⟩ | ⟨hs, rfl, hout⟩⟩
    · have htracked := h.tracked s g' hg
      have hlost : (MarketData.answerNobody cfg st ready).lost s = st.lost s := by
        simp [MarketData.answerNobody, hs]
      refine ⟨htracked.created_le, htracked.delivered_le, ?_, htracked.inHand_sorted,
        htracked.inHand_le, ?_, ?_, ?_, htracked.onTheWay_pending⟩
      · rw [hlost]
        exact htracked.placed
      · exact hlost ▸ htracked.lost_le
      · exact hlost ▸ htracked.disjoint
      · exact hlost ▸ htracked.lost_pending
    · have htracked := h.tracked s g hg
      have hlost : ∀ e, e ∈ (MarketData.answerNobody cfg st ready).lost s ↔
          e ∈ st.lost s ∨ e ∈ deliveryOf cfg st s := by
        simp [MarketData.answerNobody, hs]
      have hle := (StreamLog.between_readTo hout).1
      refine ⟨htracked.created_le.trans hle, readTo_le_lastId hout htracked.delivered_le, ?_,
        htracked.inHand_sorted, fun e he => (htracked.inHand_le e he).trans hle, ?_, ?_, ?_,
        fun e he => List.mem_append_left _ (htracked.onTheWay_pending e he)⟩
      · refine placed_deliver hout htracked.placed ?_ ?_
        · rintro e (hl | hrest)
          · exact .inl ((hlost e).2 (.inl hl))
          · exact .inr hrest
        · intro e he
          exact .inl ((hlost e).2 (.inr he))
      · intro e he
        rcases (hlost e).1 he with hl | hd
        · exact (htracked.lost_le e hl).trans hle
        · exact (mem_delivery_le hout hd).2.1
      · intro e he e' he'
        rcases (hlost e).1 he with hl | hd
        · exact htracked.disjoint e hl e' he'
        · exact ((htracked.inHand_le e' he').trans_lt (mem_delivery_le hout hd).1).ne'
      · intro e he
        rcases (hlost e).1 he with hl | hd
        · exact List.mem_append_left _ (htracked.lost_pending e hl)
        · exact List.mem_append_right _ hd

/-! ## Leaving a reply -/

/-- Whatever is on the way when the loop leaves a reply is lost, and nothing else is. -/
theorem GroupInvariant.abandon {st : GroupState σ ι} (h : GroupInvariant st) {mode : GroupMode σ ι}
    (hnew : NothingInHand mode) (hcurrent : ∀ current reply, mode ≠ .handling (some current) reply) :
    GroupInvariant (abandon st mode) := by
  refine ⟨fun s m actions reply hmode => absurd hmode (hcurrent _ _), fun s hs => ?_,
    fun s g hg => ?_⟩
  · rcases h.ungrouped s hs with ⟨hlost, hin⟩
    have hway : st.mode.onTheWay s = [] :=
      List.subset_nil.1 (hin ▸ onTheWay_subset_inHand st.mode s)
    exact ⟨by simp [MarketData.abandon, hlost, hway], hnew s⟩
  · have htracked := h.tracked s g hg
    have hlost : ∀ e, e ∈ (MarketData.abandon st mode).lost s ↔
        e ∈ st.lost s ∨ e ∈ st.mode.onTheWay s := by
      simp [MarketData.abandon]
    have hin : (MarketData.abandon st mode).mode.inHand s = [] := hnew s
    have hway : (MarketData.abandon st mode).mode.onTheWay s = [] := hnew.onTheWay s
    refine ⟨htracked.created_le, htracked.delivered_le, ?_, ?_, ?_, ?_, ?_, ?_, ?_⟩
    · intro e he hcreated hle
      rcases htracked.placed e he hcreated hle with hl | hw | hhanded
      · exact .inl ((hlost e).2 (.inl hl))
      · exact .inl ((hlost e).2 (.inr hw))
      · exact .inr (.inr hhanded)
    · simp [hin]
    · simp [hin]
    · intro e he
      rcases (hlost e).1 he with hl | hw
      · exact htracked.lost_le e hl
      · exact htracked.inHand_le e (onTheWay_subset_inHand _ _ hw)
    · simp [hin]
    · intro e he
      rcases (hlost e).1 he with hl | hw
      · exact htracked.lost_pending e hl
      · exact htracked.onTheWay_pending e hw
    · simp [hway]

/-! ## Handling a reply -/

omit [DecidableEq σ] [LinearOrder ι] [OrderBot ι] in
/-- XACK is the last action for a message. -/
theorem actions_after_ack {s : σ} {m : Entry ι Fields} {done actions : List (MessageAction σ ι)}
    (h : messageActions s m = done ++ .ack :: actions) : actions = [] := by
  rw [messageActions_eq] at h
  rcases List.append_eq_append_iff.1 h with ⟨rest, -, hrest⟩ | ⟨rest, hdone, hrest⟩
  · cases rest with
    | nil => simpa using hrest.symm
    | cons a rest => simp at hrest
  · cases rest with
    | nil => simpa using hrest.symm
    | cons a rest =>
        have hmem : a ∈ (callsOf s m).map MessageAction.call := hdone ▸ by simp
        have ha : a = .ack := by simpa using (List.cons.inj hrest).1.symm
        simp [ha] at hmem

omit [DecidableEq σ] in
/-- When no call is left for the message in hand, all its calls have been made. -/
theorem handed_of_no_call {st : GroupState σ ι} {s : σ} {m : Entry ι Fields}
    {done actions : List (MessageAction σ ι)} (h : messageActions s m = done ++ actions)
    (hdone : ∀ c, .call c ∈ done → c ∈ st.calls) (hnone : actions.any MessageAction.isCall = false) :
    Handed st s m := by
  intro c hc
  have hmem : .call c ∈ done ++ actions := by
    rw [← h, messageActions_eq]
    exact List.mem_append_left _ (List.mem_map_of_mem hc)
  rcases List.mem_append.1 hmem with hmem | hmem
  · exact hdone c hmem
  · have := List.any_eq_false.1 hnone _ hmem
    simp [MessageAction.isCall] at this

/-- An XACK for the message in hand takes no entry that is lost or on its way out of pending. -/
theorem GroupInvariant.ackOnServer {st : GroupState σ ι} (h : GroupInvariant st) {s' : σ}
    {m : Entry ι Fields} {reply : Reply σ ι}
    (hmode : st.mode = .handling (some (s', m, [.ack])) reply) :
    GroupInvariant (ackOnServer st s' m.id) := by
  refine ⟨h.sound, fun s hs => h.ungrouped s ?_, fun s g' hg' => ?_⟩
  · by_cases hss : s = s'
    · subst hss
      simpa [MarketData.ackOnServer] using hs
    · simpa [MarketData.ackOnServer, hss] using hs
  · by_cases hss : s = s'
    · subst hss
      have hg' : (st.group s).map (fun g => g.ack m.id) = some g' := by
        simpa [MarketData.ackOnServer] using hg'
      rcases Option.map_eq_some_iff.1 hg' with ⟨g, hg, rfl⟩
      have htracked := h.tracked s g hg
      have hin : st.mode.inHand s = m :: reply.messages s := by simp [hmode, GroupMode.inHand]
      have hway : st.mode.onTheWay s = reply.messages s := by
        simp [hmode, GroupMode.onTheWay, MessageAction.isCall]
      have hsorted := List.pairwise_cons.1 (hin ▸ htracked.inHand_sorted)
      refine ⟨htracked.created_le, htracked.delivered_le, htracked.placed, htracked.inHand_sorted,
        htracked.inHand_le, htracked.lost_le, htracked.disjoint, ?_, ?_⟩
      · intro e he
        have hne := htracked.disjoint e he m (hin ▸ List.mem_cons_self)
        exact List.mem_filter.2 ⟨htracked.lost_pending e he, by simpa using hne⟩
      · intro e he
        have hne := hsorted.1 e (hway ▸ he)
        exact List.mem_filter.2 ⟨htracked.onTheWay_pending e he, by simpa using hne.ne'⟩
    · have hg : st.group s = some g' := by simpa [MarketData.ackOnServer, hss] using hg'
      have htracked := h.tracked s g' hg
      exact ⟨htracked.created_le, htracked.delivered_le, htracked.placed, htracked.inHand_sorted,
        htracked.inHand_le, htracked.lost_le, htracked.disjoint, htracked.lost_pending,
        htracked.onTheWay_pending⟩

/-- Performing the next action for the message in hand keeps the invariant. -/
theorem GroupInvariant.perform {st : GroupState σ ι} (h : GroupInvariant st) {s' : σ}
    {m : Entry ι Fields} {a : MessageAction σ ι} {actions : List (MessageAction σ ι)}
    {reply : Reply σ ι} (hmode : st.mode = .handling (some (s', m, a :: actions)) reply)
    (applied : Bool) :
    GroupInvariant
      { perform st s' m applied a with mode := .handling (some (s', m, actions)) reply } := by
  rcases h.sound s' m (a :: actions) reply hmode with ⟨done, hactions, hdone⟩
  have hactions' : messageActions s' m = (done ++ [a]) ++ actions := by simp [hactions]
  have hin : ∀ s, (GroupMode.handling (some (s', m, actions)) reply).inHand s = st.mode.inHand s := by
    intro s
    rw [hmode]
    rfl
  cases a with
  | call c =>
      have hmade : ∀ c', .call c' ∈ done ++ [MessageAction.call c] → c' ∈ st.calls ++ [c] := by
        intro c' hc'
        rcases List.mem_append.1 hc' with hc' | hc'
        · exact List.mem_append_left _ (hdone c' hc')
        · exact List.mem_append_right _ (by simpa using hc')
      refine h.advance _ rfl rfl rfl (List.subset_append_left _ _) ?_ ?_ ?_ ?_
      · exact fun s => (hin s) ▸ List.Sublist.refl _
      · exact fun s => hmode ▸ onTheWay_cons_subset s' m _ actions reply s
      · intro s e he
        simp only [hmode, GroupMode.onTheWay, List.any_cons, MessageAction.isCall, Bool.true_or,
          and_true, List.mem_append] at he ⊢
        rcases he with he | he
        · split at he
          · rename_i hs
            subst hs
            obtain rfl : e = m := by simpa using he
            by_cases hcall : actions.any MessageAction.isCall = true
            · exact .inl (.inl (by simp [hcall]))
            · right
              have hnone : actions.any MessageAction.isCall = false := by simpa using hcall
              exact handed_of_no_call hactions' hmade hnone
          · cases he
        · exact .inl (.inr he)
      · rintro s₁ m₁ actions₁ reply₁ ⟨⟩
        exact ⟨_, hactions', hmade⟩
  | ack =>
      obtain rfl := actions_after_ack hactions
      have hsame : ∀ s, (GroupMode.handling (some (s', m, [])) reply).onTheWay s =
          st.mode.onTheWay s := by
        intro s
        simp [hmode, GroupMode.onTheWay, MessageAction.isCall]
      have hacked : ∀ st₁ : GroupState σ ι, GroupInvariant st₁ → st₁.mode = st.mode →
          st₁.calls = st.calls →
          GroupInvariant { st₁ with mode := .handling (some (s', m, [])) reply } := by
        intro st₁ h₁ hmode₁ hcalls₁
        refine h₁.advance _ rfl rfl rfl (List.Subset.refl _) ?_ ?_ ?_ ?_
        · exact fun s => (hmode₁ ▸ hin s) ▸ List.Sublist.refl _
        · exact fun s => by rw [hmode₁, ← hsame s]; exact List.Subset.refl _
        · intro s e he
          exact .inl (by rw [hmode₁, ← hsame s] at he; exact he)
        · rintro s₁ m₁ actions₁ reply₁ ⟨⟩
          refine ⟨_, hactions', fun c hc => ?_⟩
          rw [show st₁.calls = st.calls from hcalls₁]
          exact hdone c (by simpa using hc)
      cases applied with
      | true => exact hacked _ (h.ackOnServer hmode) rfl rfl
      | false => exact hacked st h rfl rfl

/-- The next step inside the reply keeps the invariant. -/
theorem GroupInvariant.handleNextMessage {st st' : GroupState σ ι} (h : GroupInvariant st)
    (hstep : handleNextMessage st = some st') : GroupInvariant st' := by
  unfold MarketData.handleNextMessage at hstep
  split at hstep
  · -- the reply is done
    rename_i hmode
    cases hstep
    refine h.move ?_ (fun _ => rfl) (by simp)
    intro s
    simp [hmode, GroupMode.inHand]
  · -- the messages of a stream are done
    rename_i s' rest hmode
    cases hstep
    have hmessages : ∀ s, Reply.messages ((s', []) :: rest) s = Reply.messages rest s := by
      intro s
      simp [messages_cons]
    refine h.advance _ rfl rfl rfl (List.Subset.refl _) ?_ ?_ ?_ (by rintro _ _ _ _ ⟨⟩)
    · intro s
      simp [hmode, GroupMode.inHand, hmessages]
    · intro s
      simp [hmode, GroupMode.onTheWay, hmessages]
    · intro s e he
      left
      simpa [hmode, GroupMode.onTheWay, hmessages] using he
  · -- the next message is taken in hand
    rename_i s' m ms rest hmode
    cases hstep
    refine h.advance _ rfl rfl rfl (List.Subset.refl _) ?_ ?_ ?_ ?_
    · intro s
      by_cases hs : s' = s <;> simp [hmode, GroupMode.inHand, messages_cons, hs]
    · exact fun s => hmode ▸ onTheWay_take_subset s' m _ ms rest s
    · intro s e he
      by_cases hs : s' = s
      · subst hs
        have he : e ∈ m :: ms ++ Reply.messages rest s' := by
          simpa [hmode, GroupMode.onTheWay, messages_cons] using he
        simp only [GroupMode.onTheWay, messages_cons, if_true, true_and]
        rcases List.mem_append.1 he with he | he
        · rcases List.mem_cons.1 he with rfl | he
          · by_cases hcall : (messageActions s' e).any MessageAction.isCall = true
            · exact .inl (by simp [hcall])
            · right
              have hnone : (messageActions s' e).any MessageAction.isCall = false := by
                simpa using hcall
              exact handed_of_no_call (List.nil_append _).symm (by simp) hnone
          · exact .inl (by simp [he])
        · exact .inl (by simp [he])
      · left
        simpa [hmode, GroupMode.onTheWay, messages_cons, hs] using he
    · rintro _ _ _ _ ⟨⟩
      exact ⟨[], rfl, by simp⟩
  · -- the message in hand is done
    rename_i s' m reply hmode
    cases hstep
    refine h.advance _ rfl rfl rfl (List.Subset.refl _) ?_ ?_ ?_ (by rintro _ _ _ _ ⟨⟩)
    · intro s
      simp [hmode, GroupMode.inHand]
    · intro s
      simp [hmode, GroupMode.onTheWay]
    · intro s e he
      left
      simpa [hmode, GroupMode.onTheWay] using he
  · rename_i hmode
    cases hstep
    exact h.perform hmode true
  · cases hstep

/-! ## The invariant over runs -/

theorem GroupInvariant.sendXreadgroup {cfg : GroupConfig σ} {st : GroupState σ ι}
    (h : GroupInvariant st) (hmode : st.mode = .top) : GroupInvariant (sendXreadgroup cfg st) := by
  have hnothing : NothingInHand st.mode := fun s => by rw [hmode]; rfl
  unfold MarketData.sendXreadgroup
  split
  · exact h.move hnothing (fun _ => rfl) (by simp)
  · exact h.answerFrom hnothing (cfg.nodup.filter _)

/-- Every step keeps the delivery invariant. -/
theorem groupStep_tracked {cfg : GroupConfig σ} {st st' : GroupState σ ι} {l : GroupLabel σ ι}
    (h : GroupInvariant st) (hstep : groupStep cfg st l = some st') : GroupInvariant st' := by
  cases l with
  | append s e => exact groupStep_append h hstep
  | createGroup =>
      simp only [groupStep] at hstep
      split at hstep
      · rename_i hmode
        cases hstep
        exact h.move (fun s => by rw [hmode]; rfl) (fun _ => rfl) (by simp)
      · rename_i s rest hmode
        cases hstep
        have hcreated := h.createGroup s
        have hmode' : (createGroup st s).mode = .ensuring (s :: rest) := by
          unfold createGroup
          split <;> exact hmode
        exact hcreated.move (fun s => by rw [hmode']; rfl) (fun _ => rfl) (by simp)
      · cases hstep
  | createGroupRaises applied =>
      simp only [groupStep] at hstep
      split at hstep
      · rename_i s rest hmode
        cases hstep
        have hcreated : GroupInvariant (if applied = true then createGroup st s else st) := by
          split
          · exact h.createGroup s
          · exact h
        have hmode' : (if applied = true then createGroup st s else st).mode =
            .ensuring (s :: rest) := by
          split
          · unfold createGroup
            split <;> exact hmode
          · exact hmode
        exact hcreated.move (fun s => by rw [hmode']; rfl) (fun _ => rfl) (by simp)
      · cases hstep
  | read =>
      simp only [groupStep] at hstep
      split at hstep
      · rename_i hmode
        cases hstep
        split
        · exact h.move (fun s => by rw [hmode]; rfl) (fun _ => rfl) (by simp)
        · exact h.sendXreadgroup hmode
      · cases hstep
  | serve ready =>
      simp only [groupStep] at hstep
      split at hstep
      · rename_i hmode
        split at hstep
        · rename_i hready
          cases hstep
          exact h.answerFrom (fun s => by rw [hmode]; rfl) hready.2.1
        · cases hstep
      · cases hstep
  | serveDangling ready =>
      simp only [groupStep] at hstep
      split at hstep
      · cases hstep
        exact h.answerNobody ready
      · cases hstep
  | timeout =>
      simp only [groupStep] at hstep
      split at hstep
      · rename_i hmode
        split at hstep
        · cases hstep
          exact h.move (fun s => by rw [hmode]; rfl) (fun _ => rfl) (by simp)
        · cases hstep
      · cases hstep
  | deliver =>
      simp only [groupStep] at hstep
      split at hstep
      · rename_i reply hmode
        cases hstep
        refine h.advance _ rfl rfl rfl (List.Subset.refl _) ?_ ?_ ?_ (by rintro _ _ _ _ ⟨⟩)
        · exact fun s => by rw [hmode]; exact List.Sublist.refl _
        · exact fun s => by rw [hmode]; exact List.Subset.refl _
        · exact fun s e he => .inl (by rw [hmode] at he; exact he)
      · cases hstep
  | connectionError =>
      simp only [groupStep] at hstep
      split at hstep
      · cases hstep
        exact h.abandon (fun _ => rfl) (by simp)
      · cases hstep
        exact h.abandon (fun _ => rfl) (by simp)
      · cases hstep
  | reconnect =>
      simp only [groupStep] at hstep
      split at hstep
      · rename_i hmode
        cases hstep
        refine h.move (fun s => by rw [hmode]; rfl) (fun s => ?_) (fun current reply => ?_) <;>
          split <;> simp [GroupMode.inHand]
      · cases hstep
  | handle => exact h.handleNextMessage hstep
  | handleRaises applied =>
      simp only [groupStep] at hstep
      split at hstep
      · rename_i s m a actions reply hmode
        cases hstep
        exact (h.perform hmode applied).abandon (fun _ => rfl) (by simp)
      · cases hstep
  | requestStop =>
      cases hstep
      exact h.advance _ rfl rfl rfl (List.Subset.refl _) (fun _ => List.Sublist.refl _)
        (fun _ => List.Subset.refl _) (fun _ _ he => .inl he) h.sound
  | restart =>
      cases hstep
      have habandon : GroupInvariant (abandon st (.ensuring cfg.streamNames)) :=
        h.abandon (fun _ => rfl) (by simp)
      exact habandon.advance _ rfl rfl rfl (List.Subset.refl _) (fun _ => List.Sublist.refl _)
        (fun _ => List.Subset.refl _) (fun _ _ he => .inl he) (by rintro _ _ _ _ ⟨⟩)

/-- Every run keeps the delivery invariant. -/
theorem groupRun_invariant {cfg : GroupConfig σ} {log : σ → StreamLog ι Fields}
    {st st' : GroupState σ ι} {ls : List (GroupLabel σ ι)} (h : GroupInvariant st)
    (hrun : (xreadgroupLoop cfg log).run st ls = some st') : GroupInvariant st' :=
  TransitionSystem.run_invariant' (M := xreadgroupLoop cfg log) GroupInvariant
    (fun _ _ _ ht hstep => groupStep_tracked ht hstep) h hrun

end MarketData
end StrategyWorker
