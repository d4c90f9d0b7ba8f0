import Mathlib.Data.Finset.Insert
import Mathlib.Logic.Function.Basic
import StrategyWorker.Events.EventEnvelope
import StrategyWorker.Library.Admission

/-!
# Deduplication of lifecycle events

The decider keeps the latest launch attempt of each runtime and the keys of the
events that it accepted.  It decides as the gate of {lit}`Library.Admission`
does on the list of accepted events, with the runtime as owner, the launch
attempt as rank and the identity as key.

Main results:

- Theorem {lit}`decide_represents`: a decision is the verdict on the accepted
  events, and the state goes on representing them.
- Theorem {lit}`decide_safe`: at most once, in order of attempts, and runtime by
  runtime.
- Theorem {lit}`accepted_in_two_families`: the family of an event is part of its
  identity.
-/

namespace StrategyWorker
namespace Events

open Library

inductive DedupeDecision where
  | accept
  | dropDuplicate
  | dropStaleAttempt
  deriving DecidableEq, Repr

def DedupeDecision.value : DedupeDecision → String
  | .accept => "ACCEPT"
  | .dropDuplicate => "DROP_DUPLICATE"
  | .dropStaleAttempt => "DROP_STALE_ATTEMPT"

/-- Runtime, launch attempt, family, name and identity key of an event. -/
abbrev IdentityKey := String × Int × String × String × String

structure LifecycleSignalDedupe where
  latestAttemptByRuntime : String → Option Int
  seenIdentityKeys : Finset IdentityKey

namespace LifecycleSignalDedupe

/-- A new decider. -/
def empty : LifecycleSignalDedupe where
  latestAttemptByRuntime := fun _ => none
  seenIdentityKeys := ∅

def identityKeyOf (envelope : LifecycleEventEnvelope) : IdentityKey :=
  (envelope.runtimeId.val, envelope.launchAttempt.val, envelope.eventFamily.val,
    envelope.eventName.val, envelope.identityKey.val)

/-- {lit}`decide(envelope=..., current_launch_attempt=...)`, with the state after it. -/
def decide (s : LifecycleSignalDedupe) (envelope : LifecycleEventEnvelope)
    (currentLaunchAttempt : Int) : DedupeDecision × LifecycleSignalDedupe :=
  let runtimeId := envelope.runtimeId.val
  let latestSeen := (s.latestAttemptByRuntime runtimeId).getD currentLaunchAttempt
  let effectiveCurrent := max currentLaunchAttempt latestSeen
  if envelope.launchAttempt.val < effectiveCurrent then (.dropStaleAttempt, s)
  else if identityKeyOf envelope ∈ s.seenIdentityKeys then (.dropDuplicate, s)
  else
    (.accept,
      { latestAttemptByRuntime := Function.update s.latestAttemptByRuntime runtimeId
          (some (max envelope.launchAttempt.val latestSeen))
        seenIdentityKeys := insert (identityKeyOf envelope) s.seenIdentityKeys })

theorem decide_eq_accept {s : LifecycleSignalDedupe} {e : LifecycleEventEnvelope} {n : Int} :
    (s.decide e n).1 = .accept ↔
      ¬ e.launchAttempt.val < max n ((s.latestAttemptByRuntime e.runtimeId.val).getD n) ∧
        identityKeyOf e ∉ s.seenIdentityKeys := by
  unfold decide
  dsimp only
  split
  · rename_i h
    simp [h]
  · rename_i h
    split
    · rename_i hseen
      simp [hseen]
    · rename_i hseen
      simp [h, hseen]

/-- The decision depends on the identity of the event only. -/
theorem decide_congr {s : LifecycleSignalDedupe} {e e' : LifecycleEventEnvelope}
    (h : identityKeyOf e' = identityKeyOf e) (n : Int) : s.decide e' n = s.decide e n := by
  have hruntime : e'.runtimeId.val = e.runtimeId.val := congrArg Prod.fst h
  have hattempt : e'.launchAttempt.val = e.launchAttempt.val :=
    congrArg (fun k : IdentityKey => k.2.1) h
  simp only [decide, hruntime, hattempt, h]

/-- An event that was accepted is refused when it is presented again. -/
theorem decide_again {s : LifecycleSignalDedupe} {e : LifecycleEventEnvelope} {n : Int}
    (h : (s.decide e n).1 = .accept) : ((s.decide e n).2.decide e n).1 ≠ .accept := by
  have hseen : identityKeyOf e ∈ (s.decide e n).2.seenIdentityKeys := by
    rcases decide_eq_accept.1 h with ⟨hfresh, hnew⟩
    simp only [decide, if_neg hfresh, if_neg hnew, Finset.mem_insert_self]
  intro haccept
  exact (decide_eq_accept.1 haccept).2 hseen

/-! ## Sequences of calls -/

/-- The arguments of a call: the event and the current launch attempt. -/
abbrev Call := LifecycleEventEnvelope × Int

/-- The calls of a sequence with their decisions. -/
def decisions (s : LifecycleSignalDedupe) : List Call → List (Call × DedupeDecision)
  | [] => []
  | c :: cs => (c, (s.decide c.1 c.2).1) :: decisions (s.decide c.1 c.2).2 cs

/-- The state after a sequence of calls. -/
def after (s : LifecycleSignalDedupe) (calls : List Call) : LifecycleSignalDedupe :=
  calls.foldl (fun s c => (s.decide c.1 c.2).2) s

/-- The events of a sequence of calls that are accepted, in order. -/
def accepted (s : LifecycleSignalDedupe) (calls : List Call) : List LifecycleEventEnvelope :=
  ((s.decisions calls).filter fun d => d.2 = .accept).map fun d => d.1.1

/-! ## The gate -/

/-- Lifecycle events at the gate. -/
def admission : Admission LifecycleEventEnvelope String Int IdentityKey where
  owner := fun e => e.runtimeId.val
  rank := fun e => e.launchAttempt.val
  key := identityKeyOf

def decisionOf : Verdict → DedupeDecision
  | .accept => .accept
  | .duplicate => .dropDuplicate
  | .stale => .dropStaleAttempt

/-- The state holds the keys of the accepted events and the largest accepted launch attempt of
each runtime. -/
structure Represents (s : LifecycleSignalDedupe) (events : List LifecycleEventEnvelope) : Prop where
  seen : ∀ key, key ∈ s.seenIdentityKeys ↔ key ∈ events.map identityKeyOf
  latest_mem : ∀ r a, s.latestAttemptByRuntime r = some a →
    ∃ e ∈ events, e.runtimeId.val = r ∧ e.launchAttempt.val = a
  le_latest : ∀ e ∈ events,
    ∃ a ∈ s.latestAttemptByRuntime e.runtimeId.val, e.launchAttempt.val ≤ a

theorem represents_empty : Represents empty [] where
  seen := by simp [empty]
  latest_mem := by simp [empty]
  le_latest := by simp

/-- The stale branch is taken when the floor or an accepted event of the runtime lies above. -/
theorem Represents.stale_iff {s : LifecycleSignalDedupe} {events : List LifecycleEventEnvelope}
    (h : Represents s events) (c : Call) :
    c.1.launchAttempt.val < max c.2 ((s.latestAttemptByRuntime c.1.runtimeId.val).getD c.2) ↔
      c.1.launchAttempt.val < c.2 ∨ ∃ e ∈ events,
        e.runtimeId.val = c.1.runtimeId.val ∧ c.1.launchAttempt.val < e.launchAttempt.val := by
  rw [lt_max_iff]
  cases hlatest : s.latestAttemptByRuntime c.1.runtimeId.val with
  | none =>
      have hnone : ¬ ∃ e ∈ events,
          e.runtimeId.val = c.1.runtimeId.val ∧ c.1.launchAttempt.val < e.launchAttempt.val := by
        rintro ⟨e, he, howner, -⟩
        rcases h.le_latest e he with ⟨a, ha, -⟩
        rw [howner, hlatest] at ha
        cases ha
      simp only [Option.getD_none, or_self, hnone, or_false]
  | some a =>
      rw [Option.getD_some]
      refine or_congr_right ⟨fun hlt => ?_, ?_⟩
      · rcases h.latest_mem _ a hlatest with ⟨e, he, howner, hrank⟩
        exact ⟨e, he, howner, hrank ▸ hlt⟩
      · rintro ⟨e, he, howner, hlt⟩
        rcases h.le_latest e he with ⟨b, hb, hle⟩
        rw [howner, hlatest] at hb
        obtain rfl := Option.some.inj hb
        omega

/-- Accepting an event keeps the representation. -/
theorem Represents.insert {s : LifecycleSignalDedupe} {events : List LifecycleEventEnvelope}
    (h : Represents s events) {c : Call}
    (hfresh : ¬ c.1.launchAttempt.val <
      max c.2 ((s.latestAttemptByRuntime c.1.runtimeId.val).getD c.2)) :
    Represents
      { latestAttemptByRuntime := Function.update s.latestAttemptByRuntime c.1.runtimeId.val
          (some (max c.1.launchAttempt.val
            ((s.latestAttemptByRuntime c.1.runtimeId.val).getD c.2)))
        seenIdentityKeys := Insert.insert (identityKeyOf c.1) s.seenIdentityKeys }
      (events ++ [c.1]) := by
  have hmax : max c.1.launchAttempt.val
      ((s.latestAttemptByRuntime c.1.runtimeId.val).getD c.2) = c.1.launchAttempt.val := by
    omega
  rw [hmax]
  constructor
  · intro key
    simp [h.seen, or_comm]
  · intro r a ha
    dsimp only at ha
    by_cases hr : r = c.1.runtimeId.val
    · subst hr
      rw [Function.update_self] at ha
      exact ⟨c.1, by simp, rfl, Option.some.inj ha⟩
    · rw [Function.update_of_ne hr] at ha
      rcases h.latest_mem r a ha with ⟨e, he, heq⟩
      exact ⟨e, List.mem_append_left _ he, heq⟩
  · intro e he
    dsimp only
    rcases List.mem_append.1 he with he | he
    · rcases h.le_latest e he with ⟨a, ha, hle⟩
      by_cases hr : e.runtimeId.val = c.1.runtimeId.val
      · rw [hr] at ha ⊢
        refine ⟨c.1.launchAttempt.val, by simp, hle.trans ?_⟩
        -- the latest attempt of the runtime does not lie above the event
        have hlatest : (s.latestAttemptByRuntime c.1.runtimeId.val).getD c.2 = a := by
          rw [Option.mem_def.1 ha, Option.getD_some]
        omega
      · exact ⟨a, by rwa [Function.update_of_ne hr], hle⟩
    · rw [List.mem_singleton.1 he]
      exact ⟨c.1.launchAttempt.val, by simp, le_rfl⟩

/-- A decision is the verdict on the accepted events, and the state goes on representing them. -/
theorem decide_represents {s : LifecycleSignalDedupe} {events : List LifecycleEventEnvelope}
    (h : Represents s events) (c : Call) :
    (s.decide c.1 c.2).1 = decisionOf (admission.verdict events c) ∧
      Represents (s.decide c.1 c.2).2 (admission.admitOne events c) := by
  have hstale : c.1.launchAttempt.val <
      max c.2 ((s.latestAttemptByRuntime c.1.runtimeId.val).getD c.2) ↔
        admission.Stale events c := h.stale_iff c
  have hseen : identityKeyOf c.1 ∈ s.seenIdentityKeys ↔
      admission.key c.1 ∈ events.map admission.key := h.seen (identityKeyOf c.1)
  unfold decide Admission.admitOne
  by_cases hs : admission.Stale events c
  · simp only [if_pos (hstale.2 hs), Admission.verdict_of_stale hs, decisionOf, reduceCtorEq,
      if_false, true_and]
    exact h
  · simp only [if_neg (mt hstale.1 hs)]
    by_cases hk : admission.key c.1 ∈ events.map admission.key
    · simp only [if_pos (hseen.2 hk), Admission.verdict_of_mem hs hk, decisionOf, reduceCtorEq,
        if_false, true_and]
      exact h
    · simp only [if_neg (mt hseen.1 hk), Admission.verdict_of_not_mem hs hk, decisionOf, if_true,
        true_and]
      exact h.insert (mt hstale.1 hs)

/-- The decisions on a sequence are the verdicts of the gate. -/
theorem decisions_eq_outcomes {s : LifecycleSignalDedupe} {events : List LifecycleEventEnvelope}
    (h : Represents s events) (calls : List Call) :
    s.decisions calls =
      (admission.outcomes events calls).map fun o => (o.1, decisionOf o.2) := by
  induction calls generalizing s events with
  | nil => simp [decisions, Admission.outcomes]
  | cons c cs ih =>
      rcases decide_represents h c with ⟨hdecision, hrepresents⟩
      simp only [decisions, Admission.outcomes, List.map_cons, hdecision, ih hrepresents]

theorem after_represents {s : LifecycleSignalDedupe} {events : List LifecycleEventEnvelope}
    (h : Represents s events) (calls : List Call) :
    Represents (s.after calls) (admission.admitAll events calls) := by
  induction calls generalizing s events with
  | nil => exact h
  | cons c cs ih => exact ih (decide_represents h c).2

/-- The accepted events are those that the gate admits. -/
theorem accepted_eq_admitAll (calls : List Call) :
    empty.accepted calls = admission.admitAll [] calls := by
  have haccept : ∀ v : Verdict, decisionOf v = .accept ↔ v = .accept := by
    intro v
    cases v <;> simp [decisionOf]
  rw [accepted, decisions_eq_outcomes represents_empty, Admission.admitAll_eq, List.nil_append,
    List.filter_map, List.map_map]
  simp only [Function.comp_def, haccept]

/-! ## Safety -/

/-- Runtime, launch attempt, name and identity key of an event. -/
def signature (e : LifecycleEventEnvelope) : String × Int × String × String :=
  (e.runtimeId.val, e.launchAttempt.val, e.eventName.val, e.identityKey.val)

/-- Events of one name are of one family, as those of the event factory are. -/
def FamilyFollowsName (calls : List Call) : Prop :=
  ∀ c ∈ calls, ∀ c' ∈ calls, c.1.eventName = c'.1.eventName → c.1.eventFamily = c'.1.eventFamily

theorem mem_of_mem_accepted {s : LifecycleSignalDedupe} {calls : List Call}
    {e : LifecycleEventEnvelope} (h : e ∈ s.accepted calls) : ∃ c ∈ calls, c.1 = e := by
  induction calls generalizing s with
  | nil => simp [accepted, decisions] at h
  | cons c cs ih =>
      rcases List.mem_map.1 h with ⟨d, hd, rfl⟩
      rcases List.mem_filter.1 hd with ⟨hd, haccept⟩
      rcases List.mem_cons.1 hd with rfl | hd
      · exact ⟨c, List.mem_cons_self, rfl⟩
      · rcases ih (List.mem_map.2 ⟨d, List.mem_filter.2 ⟨hd, haccept⟩, rfl⟩) with ⟨c', hc', heq⟩
        exact ⟨c', List.mem_cons_of_mem _ hc', heq⟩

theorem nodup_identityKeyOf_accepted (calls : List Call) :
    ((empty.accepted calls).map identityKeyOf).Nodup := by
  rw [accepted_eq_admitAll]
  exact Admission.nodup_admitAll (A := admission) (by simp) calls

theorem nodup_signature_accepted {calls : List Call} (h : FamilyFollowsName calls) :
    ((empty.accepted calls).map signature).Nodup := by
  have hkeys := nodup_identityKeyOf_accepted calls
  refine List.Nodup.map_on ?_ (List.Nodup.of_map _ hkeys)
  intro e he e' he' heq
  rcases mem_of_mem_accepted he with ⟨c, hc, rfl⟩
  rcases mem_of_mem_accepted he' with ⟨c', hc', rfl⟩
  simp only [signature, Prod.mk.injEq] at heq
  rcases heq with ⟨hruntime, hattempt, hname, hidentity⟩
  have hfamily := h c hc c' hc' (Subtype.ext hname)
  exact List.inj_on_of_nodup_map hkeys he he' (by
    simp only [identityKeyOf, Prod.mk.injEq]
    exact ⟨hruntime, hattempt, congrArg Subtype.val hfamily, hname, hidentity⟩)

theorem ordered_accepted (calls : List Call) (r : String) :
    ((empty.accepted calls).filter fun e => e.runtimeId.val = r).Pairwise
      fun e e' => e.launchAttempt.val ≤ e'.launchAttempt.val := by
  have hordered : admission.Ordered (empty.accepted calls) := by
    rw [accepted_eq_admitAll]
    exact Admission.ordered_admitAll (A := admission) List.Pairwise.nil calls
  refine (hordered.filter _).imp_of_mem ?_
  intro e e' he he' hle
  refine hle ?_
  simp only [List.mem_filter, decide_eq_true_eq] at he he'
  exact he.2.trans he'.2.symm

theorem decide_stale {calls : List Call} {c : Call} {e : LifecycleEventEnvelope}
    (he : e ∈ empty.accepted calls) (hruntime : e.runtimeId = c.1.runtimeId)
    (hlt : c.1.launchAttempt.val < e.launchAttempt.val) :
    ((empty.after calls).decide c.1 c.2).1 = .dropStaleAttempt := by
  rw [accepted_eq_admitAll] at he
  have hruntime' : admission.owner e = admission.owner c.1 := congrArg Subtype.val hruntime
  rw [(decide_represents (after_represents represents_empty calls) c).1,
    Admission.verdict_of_lt he hruntime' hlt]
  rfl

theorem decisions_filter (calls : List Call) (r : String) :
    (empty.decisions calls).filter (fun d => d.1.1.runtimeId.val = r) =
      empty.decisions (calls.filter fun c => c.1.runtimeId.val = r) := by
  have hkey : ∀ e e', admission.key e = admission.key e' → admission.owner e = admission.owner e' :=
    fun e e' h => congrArg Prod.fst h
  have houtcomes := Admission.outcomes_filter hkey r [] calls
  rw [List.filter_nil] at houtcomes
  rw [decisions_eq_outcomes represents_empty, decisions_eq_outcomes represents_empty,
    List.filter_map]
  exact congrArg (List.map fun o => (o.1, decisionOf o.2)) houtcomes

/-- Over every sequence of calls an identity is accepted at most once, where the family belongs to
the identity unless it follows from the name, the accepted launch attempts of a runtime never
decrease, a smaller attempt than an accepted one is refused, and the decisions on one runtime do not
depend on the events of the others. -/
theorem decide_safe (calls : List Call) :
    ((empty.accepted calls).map identityKeyOf).Nodup ∧
    (FamilyFollowsName calls → ((empty.accepted calls).map signature).Nodup) ∧
    (∀ r, ((empty.accepted calls).filter fun e => e.runtimeId.val = r).Pairwise
      fun e e' => e.launchAttempt.val ≤ e'.launchAttempt.val) ∧
    (∀ c : Call, ∀ e ∈ empty.accepted calls, e.runtimeId = c.1.runtimeId →
      c.1.launchAttempt.val < e.launchAttempt.val →
        ((empty.after calls).decide c.1 c.2).1 ≠ .accept) ∧
    (∀ r, (empty.decisions calls).filter (fun d => d.1.1.runtimeId.val = r) =
      empty.decisions (calls.filter fun c => c.1.runtimeId.val = r)) := by
  refine ⟨nodup_identityKeyOf_accepted calls, nodup_signature_accepted, ordered_accepted calls, ?_,
    decisions_filter calls⟩
  intro c e he hruntime hlt
  rw [decide_stale he hruntime hlt]
  decide

/-- A stop of {lit}`rt-1`, filed under a family. -/
def stopOf (eventFamily : NonBlank) : LifecycleEventEnvelope where
  eventId := ⟨"e-1", by decide +kernel⟩
  eventType := ⟨"worker.lifecycle.terminated", by decide +kernel⟩
  eventName := ⟨"runtime.terminated", by decide +kernel⟩
  eventFamily := eventFamily
  eventVersion := ⟨1, by decide⟩
  occurredAt := ⟨march30.val, rfl⟩
  correlationId := ⟨"rt-1", by decide +kernel⟩
  producer := ⟨"worker", by decide +kernel⟩
  payload := []
  runtimeId := ⟨"rt-1", by decide +kernel⟩
  launchAttempt := ⟨1, by decide⟩
  workerIdentity := ⟨"worker", by decide +kernel⟩
  identityKey := ⟨"terminated", by decide +kernel⟩
  causationId := none

/-- Two events with the runtime, the launch attempt, the name and the identity key in common are
both accepted when their families differ. -/
theorem accepted_in_two_families :
    ¬ ∀ calls : List Call, ((empty.accepted calls).map signature).Nodup := by
  intro hnodup
  have htwice := hnodup [(stopOf ⟨"lifecycle", by decide +kernel⟩, 1),
    (stopOf ⟨"runtime", by decide +kernel⟩, 1)]
  revert htwice
  decide +kernel

end LifecycleSignalDedupe
end Events
end StrategyWorker
