import StrategyWorker.Historical.DriverDelivery

/-!
# When the driver gets to the end of the dataset

A page is asked for again as long as the first-data flag is not set, so the
measure is the work that the remaining pages hold, and it only goes down once
the flag is set or the page in hand has a bar that will set it.

Main results:

- Theorem {lit}`historical_replay_completes_iff`: the driver completes every
  finite dataset after finitely many queries exactly when the first page brings
  an accepted bar, or the flag is set before, and nothing raises on the way.
- Theorem {lit}`empty_first_page_repeats`: an empty first page is asked for for
  ever although the next page has a bar.
-/

namespace StrategyWorker
namespace Historical

open Library
open Library.PyText
open Library.TransitionSystem
open Domain
open Integration

/-! ## Progress and its condition -/

/--
However the other threads interleave with a driver that is not being stopped:
its moves are bounded, up to two for every failed query, and until the replay
is complete it can move.  Once queries succeed, the replay is therefore complete
after finitely many of them.
-/
def Completes (cfg : DriverConfig) (serve : Option String → QueryHistoricalDataResponse)
    (firstData : FirstData) : Prop :=
  ∃ n, ∀ ls st, (∀ l ∈ ls, l.keepsRunning = true) →
    (driver cfg serve firstData).run (driverInit firstData) ls = some st →
      count DriverLabel.isMove ls ≤ n + 2 * count DriverLabel.isFail ls ∧
        (st.backtestReplayComplete = true ∨
          ∃ l, l.isMove = true ∧ (driverStep cfg serve st l).isSome = true)

/-- What the dataset has to be like for the driver to complete it. -/
structure Completable (cfg : DriverConfig) (serve : Option String → QueryHistoricalDataResponse)
    (firstData : FirstData) (pages : List QueryHistoricalDataResponse) : Prop where
  /-- The launch window and the counts fit a request. -/
  request : ∃ request, requestFor cfg none cfg.warmupTotal = .ok request
  /-- The first-data flag is set before, or the first page sets it. -/
  data : firstData.received = true ∨ acceptedTicks cfg (serve none) ≠ []
  /-- No time of a bar is out of range. -/
  quiet : ∀ page ∈ pages, Quiet cfg page
  /-- The journal takes the first-data record, if there is one to take. -/
  journal : cfg.journalRaises = true →
    firstData.marked = true ∨ ∀ page ∈ pages, acceptedTicks cfg page = []

section

variable {serve : Option String → QueryHistoricalDataResponse} {cfg : DriverConfig}
  {pages : List QueryHistoricalDataResponse}

/-! ## The work that is left -/

/-- Moves that a page can take. -/
def pageWork (page : QueryHistoricalDataResponse) : Nat :=
  2 * page.bars.length + 4

def work (rest : List QueryHistoricalDataResponse) : Nat :=
  (rest.map pageWork).sum

/-- Moves left, given the pages from the cursor on. -/
def workAt (rest : List QueryHistoricalDataResponse) : DriverPc → Nat
  | .outer | .retry => work rest + 1
  | .inner => work rest
  | .querying _ => work rest - 1
  | .page _ bars => 2 * bars.length + 1 + work rest.tail
  | .interval _ bars => 2 * bars.length + 2 + work rest.tail
  | .tail => 1
  | .complete | .returned | .raised => 0

/-- The first-data flag and the cursor: as long as the flag is not set the driver is at the first
page, and the first page is the one that is asked for with warmup. -/
structure FirstPage (st : DriverState) : Prop where
  pending : st.gateway.firstData.received = false →
    st.cursor = none ∧ st.pc ≠ .tail ∧ st.pc ≠ .complete
  warmup : st.cursor = none → st.pc ≠ .complete → st.veryFirstPage = true
  outer : st.pc = .outer → st.veryFirstPage = true

theorem firstPage_init (firstData : FirstData) : FirstPage (driverInit firstData) :=
  ⟨fun _ => ⟨rfl, by simp [driverInit], by simp [driverInit]⟩, fun _ _ => rfl, fun _ => rfl⟩

/-- A move between places before the end of the last page. -/
theorem FirstPage.move {st : DriverState} (h : FirstPage st) (hat : st.pc ≠ .complete)
    (pc : DriverPc) (hpc : pc ≠ .tail ∧ pc ≠ .complete ∧ pc ≠ .outer) : FirstPage { st with pc } :=
  ⟨fun hf => ⟨(h.pending hf).1, hpc.1, hpc.2.1⟩, fun hc _ => h.warmup hc hat,
    fun ho => absurd ho hpc.2.2⟩

/-- Following a cursor once the flag is set. -/
theorem FirstPage.followCursor {st last : DriverState} {response : QueryHistoricalDataResponse}
    (hset : st.gateway.firstData.received = true) (hlast : FirstPage last) :
    FirstPage (followCursor st response last) := by
  unfold Historical.followCursor
  split
  · exact ⟨fun hf => by simp [hset] at hf, fun hc => (nomatch hc), fun ho => (nomatch ho)⟩
  · exact hlast

theorem driverMove_firstPage {st st' : DriverState} (h : FirstPage st)
    (hmove : DriverMove cfg serve st st') : FirstPage st' := by
  cases hmove with
  | enter hat =>
      exact ⟨fun hf => ⟨rfl, by simp, by simp⟩, fun _ _ => h.outer hat, fun ho => by cases ho⟩
  | ask hat hrequest => exact h.move (by simp [hat]) _ (by simp)
  | unbuildable hat hrequest => exact h.move (by simp [hat]) _ (by simp)
  | retry hat => exact h.move (by simp [hat]) _ (by simp)
  | resume hat => exact h.move (by simp [hat]) _ (by simp)
  | answer hat =>
      unfold enterPage
      split
      · split
        · exact h.move (by simp [hat]) _ (by simp)
        · rename_i hset
          have hset : st.gateway.firstData.received = true := by simpa using hset
          apply FirstPage.followCursor hset
          exact ⟨fun hf => by simp [hset] at hf, fun hc _ => h.warmup hc (by simp [hat]),
            fun ho => by cases ho⟩
      · exact h.move (by simp [hat]) _ (by simp)
  | leave hat =>
      unfold leavePage
      split
      · exact h.move (by simp [hat]) _ (by simp)
      · rename_i hset
        have hset : st.gateway.firstData.received = true := by simpa using hset
        have hst : { st with veryFirstPage := false }.gateway.firstData.received = true := hset
        apply FirstPage.followCursor hst
        exact ⟨fun hf => by simp [finish, hset] at hf, fun _ hc => absurd rfl hc,
          fun ho => by cases ho⟩
  | @bar response bar rest hat =>
      rcases replayBar_frame cfg st response bar rest with ⟨pc, gateway, heq, hfirst, hpc⟩
      have hne : pc ≠ .tail ∧ pc ≠ .complete ∧ pc ≠ .outer := by
        rcases hpc with rfl | rfl | rfl <;> simp
      rw [heq]
      have hold : gateway.firstData.received = false → st.gateway.firstData.received = false := by
        rcases hfirst with heq | heq <;> rw [heq]
        · exact id
        · intro hf
          cases hf
      exact ⟨fun hf => ⟨(h.pending (hold hf)).1, hne.1, hne.2.1⟩,
        fun hc _ => h.warmup hc (by simp [hat]), fun ho => absurd ho hne.2.2⟩
  | finish hat =>
      refine ⟨fun hf => ?_, fun _ hc => absurd rfl hc, fun ho => by cases ho⟩
      exact absurd hat (h.pending hf).2.1

theorem driverStep_firstPage {st st' : DriverState} {l : DriverLabel} (hrun : Running st)
    (h : FirstPage st) (hl : NotStopped st l) (hstep : driverStep cfg serve st l = some st') :
    FirstPage st' := by
  rcases driverStep_cases hrun hl hstep with
    ⟨hmove, -⟩ | ⟨⟨request, hat⟩, rfl, -⟩ | ⟨phase, -, rfl, -⟩ | ⟨rfl, -⟩
  · exact driverMove_firstPage h hmove
  · exact h.move (by simp [hat]) _ (by simp)
  · exact ⟨h.pending, h.warmup, h.outer⟩
  · exact ⟨fun hf => (by cases hf), h.warmup, h.outer⟩

/-- Only a bar brings the strategy something or touches the first-data flags. -/
theorem driverMove_quiet_or_bar {st st' : DriverState} (hmove : DriverMove cfg serve st st') :
    (st'.gateway.firstData = st.gateway.firstData ∧ st'.gateway.received = st.gateway.received) ∨
      ∃ response bar rest, st.pc = .page response (bar :: rest) ∧
        st' = replayBar cfg st response bar rest := by
  have hfollow : ∀ (s last : DriverState) response,
      (s.gateway.firstData = st.gateway.firstData ∧ s.gateway.received = st.gateway.received) →
      (last.gateway.firstData = st.gateway.firstData ∧ last.gateway.received = st.gateway.received) →
      (followCursor s response last).gateway.firstData = st.gateway.firstData ∧
        (followCursor s response last).gateway.received = st.gateway.received := by
    intro s last response hs hlast
    unfold followCursor
    split
    · exact hs
    · exact hlast
  cases hmove with
  | enter | ask | unbuildable | retry | resume | finish => exact .inl ⟨rfl, rfl⟩
  | answer hat =>
      left
      unfold enterPage
      split
      · split
        · exact ⟨rfl, rfl⟩
        · exact hfollow _ _ _ ⟨rfl, rfl⟩ ⟨rfl, rfl⟩
      · exact ⟨rfl, rfl⟩
  | leave hat =>
      left
      unfold leavePage
      split
      · exact ⟨rfl, rfl⟩
      · exact hfollow _ _ _ ⟨rfl, rfl⟩ ⟨rfl, rfl⟩
  | bar hat => exact .inr ⟨_, _, _, hat, rfl⟩

/-- The first-data flags are only ever set. -/
theorem driverMove_firstData {st st' : DriverState} (hmove : DriverMove cfg serve st st') :
    st'.gateway.firstData = st.gateway.firstData ∨ st'.gateway.firstData = st.gateway.firstData.mark cfg.journalRaises := by
  rcases driverMove_quiet_or_bar hmove with ⟨hsame, -⟩ | ⟨response, bar, rest, -, rfl⟩
  · exact .inl hsame
  · rcases replayBar_frame cfg st response bar rest with ⟨pc, gateway, heq, hfirst, -⟩
    rw [heq]
    exact hfirst

/-! ## The condition is enough -/

/-- A driver on its way to the end of the dataset, with the moves that this takes at most. -/
structure Budget (cfg : DriverConfig) (serve : Option String → QueryHistoricalDataResponse)
    (pages : List QueryHistoricalDataResponse) (st : DriverState) (n : Nat) : Prop where
  inv : DriverInvariant cfg serve st
  first : FirstPage st
  data : st.gateway.firstData.received = true ∨ acceptedTicks cfg (serve none) ≠ []
  journal : cfg.journalRaises = true →
    st.gateway.firstData.marked = true ∨ ∀ page ∈ pages, acceptedTicks cfg page = []
  alive : st.pc ≠ .returned ∧ st.pc ≠ .raised
  left : ∃ rest, PagesFrom serve st.cursor rest ∧ (∀ page ∈ rest, page ∈ pages) ∧
    workAt rest st.pc ≤ n

/-- The driver is alive and has at most {lit}`b` moves to make. -/
def Left (serve : Option String → QueryHistoricalDataResponse)
    (pages : List QueryHistoricalDataResponse) (st : DriverState) (b : Nat) : Prop :=
  (st.pc ≠ .returned ∧ st.pc ≠ .raised) ∧
    ∃ rest, PagesFrom serve st.cursor rest ∧ (∀ page ∈ rest, page ∈ pages) ∧ workAt rest st.pc ≤ b

/-- Following the cursor of a page leaves the pages after it. -/
theorem left_followCursor (hserve : KeysetPaged serve) {st last : DriverState} {b : Nat}
    {rest : List QueryHistoricalDataResponse} (hrest : PagesFrom serve st.cursor rest)
    (hmem : ∀ page ∈ rest, page ∈ pages) (hb : work rest.tail ≤ b) (hlast : Left serve pages last b) :
    Left serve pages (followCursor st (serve st.cursor) last) b := by
  rcases hrest.head with ⟨tail, rfl, htail⟩
  unfold followCursor
  by_cases hmore : (serve st.cursor).hasMore = true
  · rcases hserve st.cursor hmore with ⟨hne, htrim⟩
    rw [nextCursor_eq_sentCursor htrim, if_pos ⟨hmore, hne⟩]
    exact ⟨by simp, tail, htail hmore, fun page hp => hmem page (List.mem_cons_of_mem _ hp), hb⟩
  · rw [if_neg fun h => hmore h.1]
    exact hlast

attribute [local simp] workAt in
/-- As long as no bar raises and the flag will be set, a move lowers the budget. -/
theorem driverMove_left (hserve : KeysetPaged serve)
    (hrequest : ∃ request, requestFor cfg none cfg.warmupTotal = .ok request)
    (hquiet : ∀ page ∈ pages, Quiet cfg page) {st st' : DriverState} {n : Nat}
    (h : Budget cfg serve pages st n) (hmove : DriverMove cfg serve st st') :
    ∃ m, Left serve pages st' m ∧ m + 1 ≤ n := by
  rcases h.left with ⟨rest, hrest, hmem, hwork⟩
  rcases hrest.head with ⟨tail, hhead, -⟩
  have hwork_cons : work rest = pageWork (serve st.cursor) + work rest.tail := by
    simp [hhead, work]
  have hpage : serve st.cursor ∈ pages := hmem _ (by simp [hhead])
  rcases h.inv.progress with ⟨done, hdone, -, hpc⟩
  cases hmove with
  | enter hat =>
      rw [hat] at hpc hwork
      refine ⟨work rest, ⟨by simp, rest, ?_, hmem, le_rfl⟩, hwork⟩
      rw [← hpc.1]
      exact hrest
  | ask hat hreq =>
      rw [hat] at hwork
      refine ⟨work rest - 1, ⟨by simp, rest, hrest, hmem, le_rfl⟩, ?_⟩
      simp only [workAt, pageWork] at hwork hwork_cons
      omega
  | @unbuildable e hat hreq =>
      -- a request that could be built once can be built for every cursor
      exfalso
      rcases hrequest with ⟨request, hrequest⟩
      by_cases hcursor : st.cursor = none
      · have hwarmup : warmupFor cfg st = cfg.warmupTotal := by
          rw [warmupFor, if_pos ⟨h.first.warmup hcursor (by simp [hat]), hcursor⟩]
        rw [hcursor, hwarmup, hrequest] at hreq
        cases hreq
      · have hwarmup : warmupFor cfg st = 0 := by
          rw [warmupFor, if_neg fun hc => hcursor hc.2]
        rcases buildQueryHistoricalRequest_followUp hrequest st.cursor with ⟨request', hrequest'⟩
        rw [hwarmup, requestFor, hrequest'] at hreq
        cases hreq
  | retry hat =>
      rw [hat] at hwork
      exact ⟨work rest, ⟨by simp, rest, hrest, hmem, le_rfl⟩, hwork⟩
  | @resume response bars hat =>
      rw [hat] at hwork
      refine ⟨2 * bars.length + 1 + work rest.tail, ⟨by simp, rest, hrest, hmem, le_rfl⟩, ?_⟩
      simp only [workAt] at hwork
      omega
  | finish hat =>
      rw [hat] at hwork
      exact ⟨0, ⟨by simp [finish], rest, hrest, hmem, le_rfl⟩, hwork⟩
  | answer hat =>
      rw [hat] at hpc hwork
      rw [hpc.1]
      simp only [workAt, pageWork] at hwork hwork_cons
      refine ⟨2 * (serve st.cursor).bars.length + 1 + work rest.tail, ?_, by omega⟩
      unfold enterPage
      split
      · rename_i hempty
        split
        · -- the flag is not set: this is the first page, and it has a bar
          rename_i hnot
          have hcursor := (h.first.pending hnot).1
          rcases h.data with hset | hticks
          · simp [hset] at hnot
          · rw [hcursor] at hempty
            exact absurd (by simp [acceptedTicks, hempty]) hticks
        · apply left_followCursor hserve hrest hmem (by omega)
          exact ⟨by simp, rest, hrest, hmem, by simp only [workAt]; omega⟩
      · exact ⟨by simp, rest, hrest, hmem, by simp [workAt]⟩
  | leave hat =>
      rw [hat] at hpc hwork
      rcases hpc with ⟨passed, hin⟩
      refine ⟨work rest.tail, ?_, by simpa [workAt, Nat.add_comm] using hwork⟩
      unfold leavePage
      split
      · rename_i hnot
        have hcursor := (h.first.pending hnot).1
        rcases h.data with hset | hticks
        · simp [hset] at hnot
        · have hnone := hin.firstData hnot
          have hall := hin.bars_eq
          rw [hin.response_eq, hcursor, List.append_nil] at hall
          exact absurd (by rw [acceptedTicks, hall, hnone]) hticks
      · rw [hin.response_eq]
        have hst : PagesFrom serve { st with veryFirstPage := false }.cursor rest := hrest
        apply left_followCursor hserve hst hmem le_rfl
        exact ⟨by simp [finish], rest, hrest, hmem, by simp [workAt, finish]⟩
  | @bar response bar bars hat =>
      rw [hat] at hpc hwork
      rcases hpc with ⟨passed, hin⟩
      have hbar : bar ∈ (serve st.cursor).bars.zipIdx := by
        rw [← hin.response_eq, hin.bars_eq]
        simp
      refine ⟨2 * bars.length + 2 + work rest.tail, ?_, ?_⟩
      · rcases replayBar_cases cfg st response bar bars with
          ⟨-, -, heq⟩ | ⟨hraises, -⟩ | ⟨tick, gateway, -, -, -, -, heq⟩
        · rw [heq]
          exact ⟨by simp, rest, hrest, hmem, by simp only [workAt]; omega⟩
        · exfalso
          rcases hraises with hraises | ⟨hsome, hjournal, hmark⟩
          · simp [hquiet _ hpage bar hbar] at hraises
          · rcases h.journal hjournal with hmarked | hnone
            · simp [hmarked] at hmark
            · have htick := List.filterMap_eq_nil_iff.1 (hnone _ hpage) bar hbar
              simp [htick] at hsome
        · rw [heq]
          refine ⟨?_, rest, hrest, hmem, ?_⟩
          · simp only [afterBar]
            split <;> simp
          · simp only [afterBar]
            split <;> simp only [workAt] <;> omega
      · simp only [workAt, List.length_cons] at hwork
        omega

/-- Every step of a worker that is not being stopped respects the budget. -/
theorem driverStep_budget (hserve : KeysetPaged serve)
    (hrequest : ∃ request, requestFor cfg none cfg.warmupTotal = .ok request)
    (hquiet : ∀ page ∈ pages, Quiet cfg page) {st st' : DriverState} {l : DriverLabel} {n : Nat}
    (h : Budget cfg serve pages st n) (hl : NotStopped st l)
    (hstep : driverStep cfg serve st l = some st') :
    ∃ m, Budget cfg serve pages st' m ∧
      m + count DriverLabel.isMove [l] ≤ n + 2 * count DriverLabel.isFail [l] := by
  have hinv := driverStep_invariant hserve h.inv hl hstep
  have hfirst := driverStep_firstPage h.inv.running h.first hl hstep
  rcases driverStep_cases h.inv.running hl hstep with
    ⟨hmove, hmv⟩ | ⟨⟨request, hat⟩, rfl, rfl⟩ | ⟨phase, -, rfl, rfl⟩ | ⟨rfl, rfl⟩
  · rcases driverMove_left hserve hrequest hquiet h hmove with ⟨m, ⟨halive, hleft⟩, hm⟩
    have hfd := driverMove_firstData hmove
    refine ⟨m, ⟨hinv, hfirst, ?_, fun hj => ?_, halive, hleft⟩, ?_⟩
    · rcases hfd with heq | heq
      · rw [heq]
        exact h.data
      · exact .inl (by rw [heq]; rfl)
    · rcases h.journal hj with hmarked | hnone
      · left
        rcases hfd with heq | heq
        · rw [heq]
          exact hmarked
        · rw [heq]
          exact FirstData.marked_mark _ hmarked
      · exact .inr hnone
    · have hcount : count DriverLabel.isMove [l] = 1 := by simp [count, hmv]
      omega
  · rcases h.left with ⟨rest, hrest, hmem, hwork⟩
    rcases hrest.head with ⟨tail, rfl, -⟩
    refine ⟨n + 2, ⟨hinv, hfirst, h.data, h.journal, by simp, _, hrest, hmem, ?_⟩,
      by simp [count, DriverLabel.isMove, DriverLabel.isFail]⟩
    rw [hat] at hwork
    simp only [workAt] at hwork ⊢
    omega
  · exact ⟨n, ⟨hinv, hfirst, h.data, h.journal, h.alive, h.left⟩, by simp [count, DriverLabel.isMove]⟩
  · refine ⟨n, ⟨hinv, hfirst, .inl rfl, fun hj => ?_, h.alive, h.left⟩,
      by simp [count, DriverLabel.isMove]⟩
    rcases h.journal hj with hmarked | hnone
    · exact .inl (FirstData.marked_mark _ hmarked)
    · exact .inr hnone

/-- A driver that is alive has moved to the end or can move. -/
theorem can_move {st : DriverState} (halive : st.pc ≠ .returned ∧ st.pc ≠ .raised)
    (hcomplete : st.pc ≠ .complete) :
    ∃ l, l.isMove = true ∧ (driverStep cfg serve st l).isSome = true := by
  cases hpc : st.pc with
  | querying request => exact ⟨.reply, rfl, by simp [driverStep, hpc]⟩
  | returned => exact absurd hpc halive.1
  | raised => exact absurd hpc halive.2
  | complete => exact absurd hpc hcomplete
  | page response bars =>
      refine ⟨.advance, rfl, ?_⟩
      cases bars with
      | nil => simp [driverStep, advance, hpc]
      | cons bar bars =>
          simp only [driverStep, advance, hpc]
          split <;> rfl
  | outer | tail | retry | interval =>
      refine ⟨.advance, rfl, ?_⟩
      simp only [driverStep, advance, hpc]
      try split <;> rfl
  | inner =>
      refine ⟨.advance, rfl, ?_⟩
      simp only [driverStep, advance, hpc]
      split
      · rfl
      split
      · rfl
      split <;> rfl

theorem completes_of_completable (hserve : KeysetPaged serve) {firstData : FirstData}
    (hpages : PagesFrom serve none pages) (h : Completable cfg serve firstData pages) :
    Completes cfg serve firstData := by
  have hinit : Budget cfg serve pages (driverInit firstData) (work pages + 1) := by
    refine ⟨driverInvariant_init firstData, firstPage_init firstData, h.data, h.journal,
      by simp [driverInit], pages, hpages, fun _ hp => hp, ?_⟩
    simp [workAt, driverInit]
  refine ⟨work pages + 1, fun ls st hlive hrun => ?_⟩
  rcases run_budget (Budget cfg serve pages) DriverLabel.isMove DriverLabel.isFail 2
      (fun _ _ _ _ hb hl hstep => driverStep_budget hserve h.request h.quiet hb hl hstep)
      hinit (meets_of_mem (fun l hl _ => hlive l hl) _) hrun with ⟨m, hm, hle⟩
  refine ⟨by omega, ?_⟩
  by_cases hcomplete : st.pc = .complete
  · left
    rcases hm.inv.progress with ⟨done, -, -, hpc⟩
    rw [hcomplete] at hpc
    exact hpc.2.2.2
  · exact .inr (can_move hm.alive hcomplete)


/-! ## The condition is needed -/

theorem PagesFrom.unique {cursor : Option String} {pages pages' : List QueryHistoricalDataResponse}
    (h : PagesFrom serve cursor pages) (h' : PagesFrom serve cursor pages') : pages = pages' := by
  induction h generalizing pages' with
  | last hmore =>
      cases h' with
      | last => rfl
      | more hmore' => simp [hmore] at hmore'
  | more hmore hrest ih =>
      cases h' with
      | last hmore' => simp [hmore'] at hmore
      | more hmore' hrest' => rw [ih hrest']

/-- Where the first-data flags of a driver come from that is alone with its service. -/
structure Origin (cfg : DriverConfig) (serve : Option String → QueryHistoricalDataResponse)
    (firstData : FirstData) (st : DriverState) : Prop where
  data : st.gateway.firstData.received = true →
    firstData.received = true ∨ acceptedTicks cfg (serve none) ≠ []
  journal : cfg.journalRaises = true →
    st.gateway.firstData.marked = firstData.marked ∧ (firstData.marked = false → st.gateway.received = [])

theorem acceptedTicks_ne_nil {page : QueryHistoricalDataResponse} (bar : HistoricalBar × Nat)
    (hbar : bar ∈ page.bars.zipIdx) (h : (acceptedTick cfg bar).isSome = true) :
    acceptedTicks cfg page ≠ [] := by
  intro hnone
  have := List.filterMap_eq_nil_iff.1 hnone bar hbar
  simp [this] at h

/-- A bar that is not accepted leaves the first-data flags. -/
theorem replayBar_firstData (st : DriverState) (response : QueryHistoricalDataResponse)
    (bar : HistoricalBar × Nat) (rest : List (HistoricalBar × Nat)) :
    (replayBar cfg st response bar rest).gateway.firstData = st.gateway.firstData ∨
      (acceptedTick cfg bar).isSome = true := by
  cases htick : barTick cfg bar with
  | error e => left; cases e <;> simp only [replayBar, htick]
  | ok tick => exact .inr (by simp [acceptedTick, htick, Except.toOption])

/-- While the journal refuses the first-data record, a bar brings the strategy nothing. -/
theorem replayBar_refused (hj : cfg.journalRaises = true) {st : DriverState}
    (hmark : st.gateway.firstData.marked = false) (response : QueryHistoricalDataResponse)
    (bar : HistoricalBar × Nat) (rest : List (HistoricalBar × Nat)) :
    (replayBar cfg st response bar rest).gateway.received = st.gateway.received := by
  cases htick : barTick cfg bar with
  | error e => cases e <;> simp only [replayBar, htick]
  | ok tick =>
      simp only [replayBar, htick]
      exact ingestReplayTick_refused hj hmark

theorem driverMove_origin {firstData : FirstData} {st st' : DriverState}
    (hinv : DriverInvariant cfg serve st) (hfirst : FirstPage st)
    (h : Origin cfg serve firstData st) (hmove : DriverMove cfg serve st st') :
    Origin cfg serve firstData st' := by
  rcases driverMove_quiet_or_bar hmove with ⟨hfd, hreceived⟩ | ⟨response, bar, rest, hat, rfl⟩
  · exact ⟨by rw [hfd]; exact h.data, by rw [hfd, hreceived]; exact h.journal⟩
  · rcases hinv.progress with ⟨done, hdone, -, hpc⟩
    rw [hat] at hpc
    rcases hpc with ⟨passed, hin⟩
    constructor
    · intro hset
      by_cases hold : st.gateway.firstData.received = true
      · exact h.data hold
      · right
        have hcursor := (hfirst.pending (by simpa using hold)).1
        rcases replayBar_firstData st response bar rest with hsame | haccepted
        · rw [hsame] at hset
          exact absurd hset hold
        · refine acceptedTicks_ne_nil bar ?_ haccepted
          rw [← hcursor, ← hin.response_eq, hin.bars_eq]
          simp
    · intro hj
      rcases h.journal hj with ⟨hmarked, hnone⟩
      rcases replayBar_frame cfg st response bar rest with ⟨pc, gateway, heq, hf, -⟩
      constructor
      · rw [heq, ← hmarked]
        rcases hf with hsame | hmark
        · simp only [hsame]
        · simp [hmark, FirstData.mark, hj]
      · intro hnot
        rw [replayBar_refused hj (hmarked.trans hnot) response bar rest]
        exact hnone hnot

/-- The schedules in which only the driver moves and its queries succeed. -/
def OnlyMoves (_ : DriverState) (l : DriverLabel) : Prop :=
  l.isMove = true

theorem keepsRunning_of_isMove {l : DriverLabel} (h : l.isMove = true) : l.keepsRunning = true := by
  cases l <;> simp_all [DriverLabel.isMove, DriverLabel.keepsRunning]

theorem onlyMoves_invariant (hserve : KeysetPaged serve) {firstData : FirstData}
    {ls : List DriverLabel} {st : DriverState} (hls : ∀ l ∈ ls, l.isMove = true)
    (hrun : (driver cfg serve firstData).run (driverInit firstData) ls = some st) :
    DriverInvariant cfg serve st ∧ FirstPage st ∧ Origin cfg serve firstData st := by
  have hinit : DriverInvariant cfg serve (driverInit firstData) ∧ FirstPage (driverInit firstData) ∧
      Origin cfg serve firstData (driverInit firstData) :=
    ⟨driverInvariant_init firstData, firstPage_init firstData, .inl, fun _ => ⟨rfl, fun _ => rfl⟩⟩
  refine run_invariant
    (fun s => DriverInvariant cfg serve s ∧ FirstPage s ∧ Origin cfg serve firstData s) ?_
    hinit (meets_of_mem (C := OnlyMoves) (fun l hl _ => hls l hl) _) hrun
  intro s l t hs hl hstep
  rcases hs with ⟨hinv, hfirst, horigin⟩
  have hlive : NotStopped s l := keepsRunning_of_isMove hl
  refine ⟨driverStep_invariant hserve hinv hlive hstep,
    driverStep_firstPage hinv.running hfirst hlive hstep, ?_⟩
  rcases driverStep_cases hinv.running hlive hstep with
    ⟨hmove, -⟩ | ⟨-, -, rfl⟩ | ⟨phase, -, -, rfl⟩ | ⟨-, rfl⟩
  · exact driverMove_origin hinv hfirst horigin hmove
  all_goals cases hl

/-- A driver that completes does so in a schedule of its own moves. -/
theorem exists_complete_run {firstData : FirstData} (h : Completes cfg serve firstData) :
    ∃ ls st, (∀ l ∈ ls, l.isMove = true) ∧
      (driver cfg serve firstData).run (driverInit firstData) ls = some st ∧
      st.backtestReplayComplete = true := by
  rcases h with ⟨n, h⟩
  -- otherwise the driver could make any number of moves
  by_contra hnever
  have hlong : ∀ k, ∃ ls st, (∀ l ∈ ls, l.isMove = true) ∧ ls.length = k ∧
      (driver cfg serve firstData).run (driverInit firstData) ls = some st := by
    intro k
    induction k with
    | zero => exact ⟨[], driverInit firstData, by simp, rfl, rfl⟩
    | succ k ih =>
        rcases ih with ⟨ls, st, hls, hlen, hrun⟩
        rcases (h ls st (fun l hl => keepsRunning_of_isMove (hls l hl)) hrun).2 with
          hcomplete | ⟨l, hl, hsome⟩
        · exact absurd ⟨ls, st, hls, hrun, hcomplete⟩ hnever
        · rcases Option.isSome_iff_exists.1 hsome with ⟨t, ht⟩
          refine ⟨ls ++ [l], t, ?_, by simp [hlen], ?_⟩
          · intro l' hl'
            rcases List.mem_append.1 hl' with hmem | hmem
            · exact hls l' hmem
            · rw [List.mem_singleton.1 hmem]
              exact hl
          · have ht : (driver cfg serve firstData).step st l = some t := ht
            rw [run_append, hrun]
            simp [ht]
  rcases hlong (n + 1) with ⟨ls, st, hls, hlen, hrun⟩
  have hle := (h ls st (fun l hl => keepsRunning_of_isMove (hls l hl)) hrun).1
  have hmoves : count DriverLabel.isMove ls = n + 1 := by
    rw [count, List.countP_eq_length.2 hls, hlen]
  have hfails : count DriverLabel.isFail ls = 0 := by
    refine List.countP_eq_zero.2 fun l hl => ?_
    have := hls l hl
    cases l <;> simp_all [DriverLabel.isMove, DriverLabel.isFail]
  omega

/-- A driver whose first request cannot be built dies before its first query. -/
theorem request_of_completes {firstData : FirstData} (h : Completes cfg serve firstData) :
    ∃ request, requestFor cfg none cfg.warmupTotal = .ok request := by
  rcases h with ⟨n, h⟩
  cases hreq : requestFor cfg none cfg.warmupTotal with
  | ok request => exact ⟨request, rfl⟩
  | error e =>
      exfalso
      have hrun : (driver cfg serve firstData).run (driverInit firstData) [.advance, .advance] =
          some { driverInit firstData with pc := .raised } := by
        simp [driver, driverStep, advance, driverInit, runningPhase, warmupFor, hreq]
      rcases (h _ _ (by simp [DriverLabel.keepsRunning]) hrun).2 with hcomplete | ⟨l, hl, hsome⟩
      · simp [driverInit] at hcomplete
      · cases l <;> simp [DriverLabel.isMove, driverStep, advance] at hl hsome

theorem completable_of_completes (hserve : KeysetPaged serve) {firstData : FirstData}
    (hpages : PagesFrom serve none pages) (h : Completes cfg serve firstData) :
    Completable cfg serve firstData pages := by
  rcases exists_complete_run h with ⟨ls, st, hls, hrun, hcomplete⟩
  rcases onlyMoves_invariant hserve hls hrun with ⟨hinv, hfirst, horigin⟩
  have hat := hinv.complete hcomplete
  rcases hinv.progress with ⟨done, hdone, hquiet, hpc⟩
  rw [hat] at hpc
  rcases hpc with ⟨hlast, hpage, hreceived, -⟩
  have heq : pages = done ++ [serve st.cursor] := hpages.unique (hdone.last hlast)
  constructor
  · exact request_of_completes h
  · apply horigin.data
    by_contra hnot
    exact (hfirst.pending (by simpa using hnot)).2.2 hat
  · intro page hmem
    rw [heq] at hmem
    rcases List.mem_append.1 hmem with hmem | hmem
    · exact hquiet page hmem
    · rw [List.mem_singleton.1 hmem]
      exact hpage
  · intro hj
    by_cases hmarked : firstData.marked = true
    · exact .inl hmarked
    · right
      have hnone := (horigin.journal hj).2 (by simpa using hmarked)
      rw [hreceived, ← heq] at hnone
      intro page hmem
      have hflat : pages.flatMap (acceptedTicks cfg) = [] := by simpa [ticksOf] using hnone
      exact List.flatMap_eq_nil_iff.1 hflat page hmem

/--
For every finite dataset, whatever its pages hold, and for every interleaving of
the other threads with a worker that is not being stopped: the driver gets to
the end of the dataset after finitely many queries, once they succeed, exactly
when the condition holds.
-/
theorem historical_replay_completes_iff (cfg : DriverConfig)
    (serve : Option String → QueryHistoricalDataResponse) (firstData : FirstData)
    (hserve : KeysetPaged serve) (pages : List QueryHistoricalDataResponse)
    (hpages : PagesFrom serve none pages) :
    Completes cfg serve firstData ↔ Completable cfg serve firstData pages :=
  ⟨completable_of_completes hserve hpages, completes_of_completable hserve hpages⟩

end

/-! ## An empty first page -/

/-- A page without bars, as for a gap at the start of the window, and a page with a bar. -/
def gapFirst : Option String → QueryHistoricalDataResponse
  | none => ⟨[], some ⟨true, "2026-03-13 11:00:00+00"⟩⟩
  | some _ => ⟨[minuteBar "2026-03-13 11:01:00+00"], some ⟨false, ""⟩⟩

/-- The dataset is finite and has a bar, but the driver does not get to its end. -/
theorem empty_first_page_repeats :
    KeysetPaged gapFirst ∧ PagesFrom gapFirst none [gapFirst none, gapFirst (some "")] ∧
      ¬ Completes hourBacktest gapFirst noFirstData := by
  have hserve : KeysetPaged gapFirst := by
    intro cursor
    cases cursor with
    | none => decide
    | some c => exact fun h => nomatch h
  have hpages : PagesFrom gapFirst none [gapFirst none, gapFirst (some "")] :=
    .more rfl (.last rfl)
  refine ⟨hserve, hpages, fun h => ?_⟩
  rcases (completable_of_completes hserve hpages h).data with hset | hticks
  · cases hset
  · exact hticks rfl

/-- A dataset whose first page has a bar is completed. -/
theorem two_pages_completed : Completes hourBacktest twoPages noFirstData := by
  refine (historical_replay_completes_iff hourBacktest twoPages noFirstData twoPages_keysetPaged
    [twoPages none, twoPages (some "")] (.more rfl (.last rfl))).2 ⟨?_, .inr ?_, ?_, ?_⟩
  · have hok : (requestFor hourBacktest none hourBacktest.warmupTotal).isOk = true := by
      decide +kernel
    cases h : requestFor hourBacktest none hourBacktest.warmupTotal with
    | ok request => exact ⟨request, rfl⟩
    | error e => simp [h, Except.isOk, Except.toBool] at hok
  · decide +kernel
  · decide +kernel
  · exact fun h => by cases h

end Historical
end StrategyWorker
