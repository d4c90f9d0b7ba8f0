import StrategyWorker.Historical.Driver

/-!
# The driver delivers every bar once and in order

The dataset is the list of pages that the service serves from no cursor on, each
page for the cursor that the page before it announced.  The invariant relates
what the strategy has received to the pages that the driver has left behind and
to the bars that it has passed in the current page; a page is asked for again
only while none of its bars has been accepted.

Main results:

- Theorem {lit}`driverStep_invariant`: every step of a worker that is not being
  stopped keeps the invariant.
- Theorem {lit}`historical_replay_exactly_once`: when the driver marks the
  replay complete, the strategy has received the accepted bars of the dataset.
-/

namespace StrategyWorker
namespace Historical

open Library
open Library.PyText
open Library.TransitionSystem
open Domain
open Integration

/-! ## Datasets -/

/-- The cursor as the service sent it; an unset cursor is empty. -/
def QueryHistoricalDataResponse.sentCursor (response : QueryHistoricalDataResponse) : String :=
  (response.metadata.map ResultMetadata.nextCursor).getD ""

/-- A page that announces more carries a cursor: the text of a bar time, which is not empty and
has no spaces around it. -/
def KeysetPaged (serve : Option String → QueryHistoricalDataResponse) : Prop :=
  ∀ cursor, (serve cursor).hasMore = true →
    (serve cursor).sentCursor ≠ "" ∧ Trimmed (serve cursor).sentCursor

section

variable (serve : Option String → QueryHistoricalDataResponse)

/-- The pages served from a cursor on, up to the one that has no more. -/
inductive PagesFrom : Option String → List QueryHistoricalDataResponse → Prop where
  | last {cursor} (h : (serve cursor).hasMore = false) : PagesFrom cursor [serve cursor]
  | more {cursor pages} (h : (serve cursor).hasMore = true)
      (rest : PagesFrom (some (serve cursor).sentCursor) pages) :
      PagesFrom cursor (serve cursor :: pages)

/-- The pages that lead from no cursor to a cursor. -/
inductive Followed : List QueryHistoricalDataResponse → Option String → Prop where
  | start : Followed [] none
  | next {done cursor} (h : Followed done cursor) (hmore : (serve cursor).hasMore = true) :
      Followed (done ++ [serve cursor]) (some (serve cursor).sentCursor)

end

/-- The tick of a bar that is not rejected. -/
def acceptedTick (cfg : DriverConfig) (bar : HistoricalBar × Nat) : Option HistoricalTick :=
  (barTick cfg bar).toOption

/-- The accepted bars of a page, in order. -/
def acceptedTicks (cfg : DriverConfig) (page : QueryHistoricalDataResponse) :
    List HistoricalTick :=
  page.bars.zipIdx.filterMap (acceptedTick cfg)

/-- Building the tick of a bar, or setting the clock to its time, raises something else than the
{lit}`ValueError` that rejects the bar. -/
def barRaises (cfg : DriverConfig) (bar : HistoricalBar × Nat) : Bool :=
  match barTick cfg bar with
  | .error .valueError => false
  | .error _ => true
  | .ok tick => !((parseIsoText tick.eventTime).mapM setTime).isOk

/-- No bar of a page raises. -/
def Quiet (cfg : DriverConfig) (page : QueryHistoricalDataResponse) : Prop :=
  ∀ bar ∈ page.bars.zipIdx, barRaises cfg bar = false

instance (cfg : DriverConfig) (page : QueryHistoricalDataResponse) : Decidable (Quiet cfg page) :=
  inferInstanceAs (Decidable (∀ _ ∈ _, _))

section

variable {serve : Option String → QueryHistoricalDataResponse} {cfg : DriverConfig}

theorem nextCursor_eq_sentCursor {page : QueryHistoricalDataResponse}
    (h : Trimmed page.sentCursor) : page.nextCursor = page.sentCursor := by
  unfold QueryHistoricalDataResponse.nextCursor QueryHistoricalDataResponse.sentCursor at *
  cases hmeta : page.metadata with
  | none => simp
  | some m =>
      rw [hmeta] at h
      simpa using strip_eq_self h

theorem Followed.cursor_ne_empty (hserve : KeysetPaged serve)
    {done : List QueryHistoricalDataResponse} {cursor : Option String}
    (h : Followed serve done cursor) : cursor ≠ some "" := by
  cases h with
  | start => simp
  | next h hmore => simpa using (hserve _ hmore).1

/-- The first page from a cursor on, and the pages from its own cursor on. -/
theorem PagesFrom.head {cursor : Option String} {rest : List QueryHistoricalDataResponse}
    (h : PagesFrom serve cursor rest) :
    ∃ tail, rest = serve cursor :: tail ∧ ((serve cursor).hasMore = true →
      PagesFrom serve (some (serve cursor).sentCursor) tail) := by
  cases h with
  | last hmore => exact ⟨[], rfl, fun h => by simp [hmore] at h⟩
  | more hmore hrest => exact ⟨_, rfl, fun _ => hrest⟩

/-- The pages behind a cursor and the pages from it on make up the dataset. -/
theorem Followed.append {done : List QueryHistoricalDataResponse} {cursor : Option String}
    (h : Followed serve done cursor) {rest : List QueryHistoricalDataResponse}
    (hrest : PagesFrom serve cursor rest) : PagesFrom serve none (done ++ rest) := by
  induction h generalizing rest with
  | start => simpa using hrest
  | next h hmore ih =>
      rw [List.append_assoc]
      exact ih (.more hmore hrest)

theorem Followed.last {done : List QueryHistoricalDataResponse} {cursor : Option String}
    (h : Followed serve done cursor) (hlast : (serve cursor).hasMore = false) :
    PagesFrom serve none (done ++ [serve cursor]) :=
  h.append (.last hlast)

/-- The request carries the cursor it is made for. -/
theorem requestFor_cursor {cursor : Option String} {warmupBars : Nat}
    {request : QueryHistoricalDataRequest} (h : requestFor cfg cursor warmupBars = .ok request)
    (hne : cursor ≠ some "") : request.cursor = cursor := by
  rcases buildQueryHistoricalRequest_ok h with ⟨-, -, -, hcursor⟩
  rw [hcursor]
  cases cursor with
  | none => rfl
  | some c =>
      have hc : c ≠ "" := by simpa using hne
      simp [hc]

/-! ## The invariant -/

/-- What the pages and passed bars have brought the strategy. -/
def ticksOf (cfg : DriverConfig) (done : List QueryHistoricalDataResponse)
    (passed : List (HistoricalBar × Nat)) : List HistoricalTick :=
  done.flatMap (acceptedTicks cfg) ++ passed.filterMap (acceptedTick cfg)

/-- The driver is in the page of its cursor and has passed some of its bars. -/
structure InPage (cfg : DriverConfig) (serve : Option String → QueryHistoricalDataResponse)
    (st : DriverState) (done : List QueryHistoricalDataResponse)
    (response : QueryHistoricalDataResponse) (rest : List (HistoricalBar × Nat))
    (passed : List (HistoricalBar × Nat)) : Prop where
  response_eq : response = serve st.cursor
  bars_eq : response.bars.zipIdx = passed ++ rest
  received_eq : st.gateway.received = ticksOf cfg done passed
  quiet : ∀ bar ∈ passed, barRaises cfg bar = false
  /-- The page is only asked for again while none of its bars has been accepted. -/
  firstData : st.gateway.firstData.received = false → passed.filterMap (acceptedTick cfg) = []

/-- What holds at each point of the loop. -/
def AtPc (cfg : DriverConfig) (serve : Option String → QueryHistoricalDataResponse)
    (st : DriverState) (done : List QueryHistoricalDataResponse) : DriverPc → Prop
  | .outer => st.cursor = none ∧ st.gateway.received = []
  | .inner | .retry => st.gateway.received = ticksOf cfg done []
  | .querying request => request.cursor = st.cursor ∧ st.gateway.received = ticksOf cfg done []
  | .page response rest | .interval response rest =>
      ∃ passed, InPage cfg serve st done response rest passed
  | .tail =>
      (serve st.cursor).hasMore = false ∧ Quiet cfg (serve st.cursor) ∧
        st.gateway.received = ticksOf cfg (done ++ [serve st.cursor]) []
  | .complete =>
      (serve st.cursor).hasMore = false ∧ Quiet cfg (serve st.cursor) ∧
        st.gateway.received = ticksOf cfg (done ++ [serve st.cursor]) [] ∧ st.backtestReplayComplete = true
  | .returned | .raised => True

/-- What holds at a point of the loop only depends on the cursor, on what has been received, and
on the first-data flag as long as it is not set. -/
theorem AtPc.congr {st st' : DriverState} {done : List QueryHistoricalDataResponse} {pc : DriverPc}
    (h : AtPc cfg serve st done pc) (hcursor : st'.cursor = st.cursor)
    (hreceived : st'.gateway.received = st.gateway.received)
    (hcomplete : st'.backtestReplayComplete = st.backtestReplayComplete)
    (hfirst : st'.gateway.firstData.received = false → st.gateway.firstData.received = false) :
    AtPc cfg serve st' done pc := by
  have hpage : ∀ response rest passed, InPage cfg serve st done response rest passed →
      InPage cfg serve st' done response rest passed := by
    intro response rest passed hp
    exact ⟨hcursor ▸ hp.response_eq, hp.bars_eq, hreceived ▸ hp.received_eq, hp.quiet,
      fun hf => hp.firstData (hfirst hf)⟩
  cases pc with
  | page response rest | interval response rest =>
      rcases h with ⟨passed, hp⟩
      exact ⟨passed, hpage response rest passed hp⟩
  | outer | inner | retry | querying | tail | complete =>
      simpa only [AtPc, hcursor, hreceived, hcomplete] using h
  | returned | raised => trivial

/-- The flags of the other threads say that the worker is not being stopped. -/
def Running (st : DriverState) : Prop :=
  st.hdsFeedStop = false ∧ st.shutdownInProgress = false ∧ runningPhase st.phase = true

/-- The pages that the driver has left behind lead to its cursor and raise nothing. -/
def Progress (cfg : DriverConfig) (serve : Option String → QueryHistoricalDataResponse)
    (st : DriverState) : Prop :=
  ∃ done, Followed serve done st.cursor ∧ (∀ page ∈ done, Quiet cfg page) ∧
    AtPc cfg serve st done st.pc

/-- The invariant of a driver that is not being stopped. -/
structure DriverInvariant (cfg : DriverConfig)
    (serve : Option String → QueryHistoricalDataResponse) (st : DriverState) : Prop where
  running : Running st
  complete : st.backtestReplayComplete = true → st.pc = .complete
  progress : Progress cfg serve st

theorem driverInvariant_init (firstData : FirstData) :
    DriverInvariant cfg serve (driverInit firstData) where
  running := ⟨rfl, rfl, rfl⟩
  complete := fun h => nomatch h
  progress := ⟨[], .start, by simp, rfl, rfl⟩

@[simp]
theorem ticksOf_snoc (done : List QueryHistoricalDataResponse) (page : QueryHistoricalDataResponse) :
    ticksOf cfg (done ++ [page]) [] = ticksOf cfg done page.bars.zipIdx := by
  simp [ticksOf, acceptedTicks]

/-! ## Steps -/

/-- A move keeps the flags of the other threads and completes the replay only at the end. -/
structure Frame (st st' : DriverState) : Prop where
  running : Running st → Running st'
  complete : st'.backtestReplayComplete = true →
    st.backtestReplayComplete = true ∨ st'.pc = .complete

theorem frame_refl (st : DriverState) : Frame st st :=
  ⟨id, .inl⟩

theorem frame_pc (st : DriverState) (pc : DriverPc) : Frame st { st with pc } :=
  ⟨id, .inl⟩

theorem frame_finish (cfg : DriverConfig) (st : DriverState) : Frame st (finish cfg st) :=
  ⟨id, fun _ => .inr rfl⟩

theorem frame_followCursor {st last : DriverState} (response : QueryHistoricalDataResponse)
    (hlast : Frame st last) : Frame st (followCursor st response last) := by
  unfold followCursor
  split
  · exact ⟨id, .inl⟩
  · exact hlast

theorem frame_enterPage (st : DriverState) (response : QueryHistoricalDataResponse) :
    Frame st (enterPage st response) := by
  unfold enterPage
  split
  · split
    · exact frame_pc st _
    · exact frame_followCursor response (frame_pc st _)
  · exact frame_pc st _

theorem frame_leavePage (st : DriverState) (response : QueryHistoricalDataResponse) :
    Frame st (leavePage cfg st response) := by
  unfold leavePage
  split
  · exact frame_pc st _
  · have hlast := frame_finish cfg { st with veryFirstPage := false }
    have h := frame_followCursor response hlast
    exact ⟨h.running, h.complete⟩

/-- A bar changes the gateway, whose first-data flags are left or marked, and leads to the next
bar, to a wait or to the end of the thread. -/
theorem replayBar_frame (cfg : DriverConfig) (st : DriverState)
    (response : QueryHistoricalDataResponse) (bar : HistoricalBar × Nat)
    (rest : List (HistoricalBar × Nat)) :
    ∃ pc gateway, replayBar cfg st response bar rest = { st with pc, gateway } ∧
      (gateway.firstData = st.gateway.firstData ∨
        gateway.firstData = st.gateway.firstData.mark cfg.journalRaises) ∧
      (pc = .raised ∨ pc = .page response rest ∨ pc = .interval response rest) := by
  cases htick : barTick cfg bar with
  | error e =>
      cases e with
      | valueError => exact ⟨_, _, by simp only [replayBar, htick], .inl rfl, .inr (.inl rfl)⟩
      | typeError | overflowError => exact ⟨_, _, by simp only [replayBar, htick], .inl rfl, .inl rfl⟩
  | ok tick =>
      have hfirst := ingestReplayTick_firstData cfg.journalRaises st.gateway tick
        (parseIsoText tick.eventTime)
      rcases hingest : st.gateway.ingestReplayTick cfg.journalRaises tick
        (parseIsoText tick.eventTime) with ⟨gateway, raises⟩
      rw [hingest] at hfirst
      have heq : replayBar cfg st response bar rest =
          { st with gateway, pc := if raises then .raised else afterBar cfg response rest } := by
        simp only [replayBar, htick, hingest]
      refine ⟨_, gateway, heq, hfirst, ?_⟩
      unfold afterBar
      split
      · exact .inl rfl
      split
      · exact .inr (.inr rfl)
      · exact .inr (.inl rfl)

theorem frame_replayBar (st : DriverState) (response : QueryHistoricalDataResponse)
    (bar : HistoricalBar × Nat) (rest : List (HistoricalBar × Nat)) :
    Frame st (replayBar cfg st response bar rest) := by
  rcases replayBar_frame cfg st response bar rest with ⟨pc, gateway, heq, -, -⟩
  rw [heq]
  exact ⟨id, .inl⟩

/-- Following the cursor of a page that has been passed, or leaving the loop. -/
theorem progress_followCursor (hserve : KeysetPaged serve) {st last : DriverState}
    {done : List QueryHistoricalDataResponse} (hdone : Followed serve done st.cursor)
    (hquiet : ∀ page ∈ done, Quiet cfg page) (hpage : Quiet cfg (serve st.cursor))
    (hreceived : st.gateway.received = ticksOf cfg done (serve st.cursor).bars.zipIdx)
    (hlast : (serve st.cursor).hasMore = false → Progress cfg serve last) :
    Progress cfg serve (followCursor st (serve st.cursor) last) := by
  unfold followCursor
  by_cases hmore : (serve st.cursor).hasMore = true
  · rcases hserve st.cursor hmore with ⟨hne, htrim⟩
    rw [nextCursor_eq_sentCursor htrim, if_pos ⟨hmore, hne⟩]
    refine ⟨done ++ [serve st.cursor], hdone.next hmore, ?_, by simpa [AtPc] using hreceived⟩
    intro page hmem
    rcases List.mem_append.1 hmem with hmem | hmem
    · exact hquiet page hmem
    · rw [List.mem_singleton.1 hmem]
      exact hpage
  · rw [if_neg fun h => hmore h.1]
    exact hlast (by simpa using hmore)

theorem progress_enterPage (hserve : KeysetPaged serve) {st : DriverState}
    {done : List QueryHistoricalDataResponse} (hdone : Followed serve done st.cursor)
    (hquiet : ∀ page ∈ done, Quiet cfg page) (hreceived : st.gateway.received = ticksOf cfg done []) :
    Progress cfg serve (enterPage st (serve st.cursor)) := by
  unfold enterPage
  by_cases hbars : (serve st.cursor).bars = []
  · rw [if_pos hbars]
    split
    · exact ⟨done, hdone, hquiet, hreceived⟩
    · have hall : st.gateway.received = ticksOf cfg done (serve st.cursor).bars.zipIdx := by
        rw [hbars]
        exact hreceived
      have hpage : Quiet cfg (serve st.cursor) := by simp [Quiet, hbars]
      apply progress_followCursor hserve hdone hquiet hpage hall
      intro hlast
      exact ⟨done, hdone, hquiet, hlast, hpage, by simpa using hall⟩
  · rw [if_neg hbars]
    exact ⟨done, hdone, hquiet, [], rfl, rfl, hreceived, by simp, fun _ => rfl⟩

theorem progress_leavePage (hserve : KeysetPaged serve) {st : DriverState}
    {done : List QueryHistoricalDataResponse} (hdone : Followed serve done st.cursor)
    (hquiet : ∀ page ∈ done, Quiet cfg page) {response : QueryHistoricalDataResponse}
    {passed : List (HistoricalBar × Nat)} (h : InPage cfg serve st done response [] passed) :
    Progress cfg serve (leavePage cfg st response) := by
  have hpassed : passed = (serve st.cursor).bars.zipIdx := by
    rw [← h.response_eq, h.bars_eq, List.append_nil]
  have hall := h.received_eq
  have hpage := h.quiet
  rw [hpassed] at hall hpage
  unfold leavePage
  split
  · rename_i hfirst
    have hnone := h.firstData hfirst
    exact ⟨done, hdone, hquiet, by simpa [AtPc, ticksOf, hnone] using h.received_eq⟩
  · rw [h.response_eq]
    have hst : Followed serve done { st with veryFirstPage := false }.cursor := hdone
    apply progress_followCursor hserve hst hquiet hpage hall
    intro hlast
    exact ⟨done, hdone, hquiet, hlast, hpage, by simpa [finish] using hall,
      by simp [finish, cfg.mode_backtest]⟩

theorem ticksOf_pass (done : List QueryHistoricalDataResponse)
    (passed : List (HistoricalBar × Nat)) (bar : HistoricalBar × Nat) :
    ticksOf cfg done (passed ++ [bar]) =
      ticksOf cfg done passed ++ (acceptedTick cfg bar).toList := by
  cases h : acceptedTick cfg bar <;> simp [ticksOf, h]

/-- A bar is rejected, raises, or reaches the strategy. -/
theorem replayBar_cases (cfg : DriverConfig) (st : DriverState)
    (response : QueryHistoricalDataResponse) (bar : HistoricalBar × Nat)
    (rest : List (HistoricalBar × Nat)) :
    (acceptedTick cfg bar = none ∧ barRaises cfg bar = false ∧
        replayBar cfg st response bar rest = { st with pc := .page response rest }) ∨
      ((barRaises cfg bar = true ∨ ((acceptedTick cfg bar).isSome = true ∧
          cfg.journalRaises = true ∧ st.gateway.firstData.marked = false)) ∧
        (replayBar cfg st response bar rest).pc = .raised) ∨
      ∃ tick gateway, acceptedTick cfg bar = some tick ∧ barRaises cfg bar = false ∧
        gateway.received = st.gateway.received ++ [tick] ∧ gateway.firstData.received = true ∧
        replayBar cfg st response bar rest =
          { st with gateway, pc := afterBar cfg response rest } := by
  cases htick : barTick cfg bar with
  | error e =>
      cases e with
      | valueError =>
          exact .inl ⟨by simp [acceptedTick, htick, Except.toOption], by simp [barRaises, htick],
            by simp only [replayBar, htick]⟩
      | typeError | overflowError =>
          exact .inr (.inl ⟨.inl (by simp [barRaises, htick]), by simp only [replayBar, htick]⟩)
  | ok tick =>
      have haccepted : acceptedTick cfg bar = some tick := by
        simp [acceptedTick, htick, Except.toOption]
      rcases hingest : st.gateway.ingestReplayTick cfg.journalRaises tick
        (parseIsoText tick.eventTime) with ⟨gateway, raises⟩
      have heq : replayBar cfg st response bar rest =
          { st with gateway, pc := if raises then .raised else afterBar cfg response rest } := by
        simp only [replayBar, htick, hingest]
      rw [heq]
      cases raises with
      | true =>
          refine .inr (.inl ⟨?_, rfl⟩)
          rcases (ingestReplayTick_raises hingest).1 with hclock | hjournal
          · exact .inl (by simp [barRaises, htick, hclock])
          · exact .inr ⟨by simp [haccepted], hjournal⟩
      | false =>
          rcases ingestReplayTick_ok hingest with ⟨hok, hreceived, hfirst⟩
          exact .inr (.inr ⟨tick, gateway, haccepted, by simp [barRaises, htick, hok], hreceived,
            hfirst, rfl⟩)

theorem atPc_afterBar {st : DriverState} {done : List QueryHistoricalDataResponse}
    {response : QueryHistoricalDataResponse} {rest : List (HistoricalBar × Nat)} :
    AtPc cfg serve st done (afterBar cfg response rest) ↔
      ∃ passed, InPage cfg serve st done response rest passed := by
  unfold afterBar
  split <;> exact Iff.rfl

theorem progress_replayBar {st : DriverState} {done : List QueryHistoricalDataResponse}
    (hdone : Followed serve done st.cursor) (hquiet : ∀ page ∈ done, Quiet cfg page)
    {response : QueryHistoricalDataResponse} {bar : HistoricalBar × Nat}
    {rest passed : List (HistoricalBar × Nat)}
    (h : InPage cfg serve st done response (bar :: rest) passed) :
    Progress cfg serve (replayBar cfg st response bar rest) := by
  have hbars : response.bars.zipIdx = (passed ++ [bar]) ++ rest := by simpa using h.bars_eq
  have hpassed : barRaises cfg bar = false →
      ∀ b ∈ passed ++ [bar], barRaises cfg b = false := by
    intro hbar b hb
    rcases List.mem_append.1 hb with hb | hb
    · exact h.quiet b hb
    · rw [List.mem_singleton.1 hb]
      exact hbar
  rcases replayBar_cases cfg st response bar rest with
    ⟨hrejected, hbar, heq⟩ | ⟨-, hraised⟩ |
      ⟨tick, gateway, haccepted, hbar, hreceived, hfirst, heq⟩
  · rw [heq]
    refine ⟨done, hdone, hquiet, passed ++ [bar], h.response_eq, hbars, ?_, hpassed hbar, ?_⟩
    · simpa [ticksOf_pass, hrejected] using h.received_eq
    · simpa [hrejected] using h.firstData
  · rcases replayBar_frame cfg st response bar rest with ⟨pc, gateway, heq, -, -⟩
    refine ⟨done, by rw [heq]; exact hdone, hquiet, ?_⟩
    rw [hraised]
    trivial
  · rw [heq]
    refine ⟨done, hdone, hquiet, atPc_afterBar.2 ⟨passed ++ [bar], h.response_eq, hbars, ?_,
      hpassed hbar, ?_⟩⟩
    · simp [ticksOf_pass, haccepted, hreceived, h.received_eq]
    · simp [hfirst]

/-- A move that keeps the flags and arrives where it should keeps the invariant. -/
theorem DriverInvariant.move {st st' : DriverState} (h : DriverInvariant cfg serve st)
    (hpc : st.pc ≠ .complete) (hframe : Frame st st')
    (hprogress : Progress cfg serve st') :
    DriverInvariant cfg serve st' where
  running := hframe.running h.running
  complete hcomplete := by
    rcases hframe.complete hcomplete with hold | hnew
    · exact absurd (h.complete hold) hpc
    · exact hnew
  progress := hprogress

/-- The moves of a driver that is not being stopped. -/
inductive DriverMove (cfg : DriverConfig) (serve : Option String → QueryHistoricalDataResponse)
    (st : DriverState) : DriverState → Prop where
  | enter (hat : st.pc = .outer) : DriverMove cfg serve st { st with pc := .inner, cursor := none }
  | ask {request} (hat : st.pc = .inner)
      (h : requestFor cfg st.cursor (warmupFor cfg st) = .ok request) :
      DriverMove cfg serve st { st with pc := .querying request }
  | unbuildable {e} (hat : st.pc = .inner)
      (h : requestFor cfg st.cursor (warmupFor cfg st) = .error e) :
      DriverMove cfg serve st { st with pc := .raised }
  | retry (hat : st.pc = .retry) : DriverMove cfg serve st { st with pc := .inner }
  | answer {request} (hat : st.pc = .querying request) :
      DriverMove cfg serve st (enterPage st (serve request.cursor))
  | leave {response} (hat : st.pc = .page response []) :
      DriverMove cfg serve st (leavePage cfg st response)
  | bar {response bar rest} (hat : st.pc = .page response (bar :: rest)) :
      DriverMove cfg serve st (replayBar cfg st response bar rest)
  | resume {response rest} (hat : st.pc = .interval response rest) :
      DriverMove cfg serve st { st with pc := .page response rest }
  | finish (hat : st.pc = .tail) : DriverMove cfg serve st (finish cfg st)

theorem driverMove_of_advance {st st' : DriverState} (hrun : Running st)
    (hstep : advance cfg st = some st') : DriverMove cfg serve st st' := by
  have hfeed : ¬ st.hdsFeedStop = true := by simp [hrun.1]
  have hshut : ¬ st.shutdownInProgress = true := by simp [hrun.2.1]
  have hphase : ¬ runningPhase st.phase = false := by simp [hrun.2.2]
  unfold advance at hstep
  split at hstep <;> rename_i hat
  · rw [if_neg (not_or.2 ⟨hfeed, not_or.2 ⟨hshut, hphase⟩⟩)] at hstep
    rw [← Option.some.inj hstep]
    exact .enter hat
  · rw [if_neg hfeed, if_neg (not_or.2 ⟨hshut, hphase⟩)] at hstep
    split at hstep <;> rename_i hrequest <;> rw [← Option.some.inj hstep]
    · exact .unbuildable hat hrequest
    · exact .ask hat hrequest
  · rw [if_neg hfeed] at hstep
    rw [← Option.some.inj hstep]
    exact .retry hat
  · rw [← Option.some.inj hstep]
    exact .leave hat
  · rw [if_neg (not_or.2 ⟨hfeed, hshut⟩)] at hstep
    rw [← Option.some.inj hstep]
    exact .bar hat
  · rw [if_neg hfeed] at hstep
    rw [← Option.some.inj hstep]
    exact .resume hat
  · rw [if_neg hfeed] at hstep
    rw [← Option.some.inj hstep]
    exact .finish hat
  all_goals cases hstep

/-- What a label does to a driver that is not being stopped. -/
theorem driverStep_cases {st st' : DriverState} {l : DriverLabel} (hrun : Running st)
    (hl : NotStopped st l) (hstep : driverStep cfg serve st l = some st') :
    DriverMove cfg serve st st' ∧ l.isMove = true ∨
      (∃ request, st.pc = .querying request) ∧ st' = { st with pc := .retry } ∧ l = .fail ∨
      (∃ phase, runningPhase phase = true ∧ st' = { st with phase } ∧ l = .setPhase phase) ∨
      st' = { st with gateway := { st.gateway with
          firstData := st.gateway.firstData.mark cfg.journalRaises } } ∧ l = .otherFirstData := by
  cases l with
  | feedStop => cases hl
  | shutdown => cases hl
  | advance => exact .inl ⟨driverMove_of_advance hrun hstep, rfl⟩
  | reply =>
      simp only [driverStep] at hstep
      split at hstep <;> rename_i hat
      · rw [← Option.some.inj hstep]
        exact .inl ⟨.answer hat, rfl⟩
      · cases hstep
  | fail =>
      simp only [driverStep] at hstep
      split at hstep <;> rename_i hat
      · exact .inr (.inl ⟨⟨_, hat⟩, (Option.some.inj hstep).symm, rfl⟩)
      · cases hstep
  | setPhase phase =>
      exact .inr (.inr (.inl ⟨phase, hl, (Option.some.inj hstep).symm, rfl⟩))
  | otherFirstData => exact .inr (.inr (.inr ⟨(Option.some.inj hstep).symm, rfl⟩))

/-- A move of the driver keeps the invariant. -/
theorem driverMove_invariant (hserve : KeysetPaged serve) {st st' : DriverState}
    (h : DriverInvariant cfg serve st) (hmove : DriverMove cfg serve st st') :
    DriverInvariant cfg serve st' := by
  rcases h.progress with ⟨done, hdone, hquiet, hpc⟩
  cases hmove with
  | enter hat =>
      rw [hat] at hpc
      have hframe : Frame st { st with pc := .inner, cursor := none } := ⟨id, .inl⟩
      exact h.move (by simp [hat]) hframe
        ⟨[], .start, by simp, by simpa [AtPc, ticksOf] using hpc.2⟩
  | ask hat hrequest =>
      rw [hat] at hpc
      have hcursor := requestFor_cursor hrequest (hdone.cursor_ne_empty hserve)
      exact h.move (by simp [hat]) (frame_pc st _) ⟨done, hdone, hquiet, hcursor, hpc⟩
  | unbuildable hat hrequest =>
      exact h.move (by simp [hat]) (frame_pc st _) ⟨done, hdone, hquiet, trivial⟩
  | retry hat =>
      rw [hat] at hpc
      exact h.move (by simp [hat]) (frame_pc st _) ⟨done, hdone, hquiet, hpc⟩
  | answer hat =>
      rw [hat] at hpc
      rw [hpc.1]
      exact h.move (by simp [hat]) (frame_enterPage st _)
        (progress_enterPage hserve hdone hquiet hpc.2)
  | leave hat =>
      rw [hat] at hpc
      rcases hpc with ⟨passed, hpage⟩
      exact h.move (by simp [hat]) (frame_leavePage st _)
        (progress_leavePage hserve hdone hquiet hpage)
  | bar hat =>
      rw [hat] at hpc
      rcases hpc with ⟨passed, hpage⟩
      exact h.move (by simp [hat]) (frame_replayBar st _ _ _)
        (progress_replayBar hdone hquiet hpage)
  | resume hat =>
      rw [hat] at hpc
      rcases hpc with ⟨passed, hpage⟩
      apply h.move (by simp [hat]) (frame_pc st _)
      exact ⟨done, hdone, hquiet, passed, hpage.1, hpage.2, hpage.3, hpage.4, hpage.5⟩
  | finish hat =>
      rw [hat] at hpc
      have hcomplete : (finish cfg st).backtestReplayComplete = true := by
        simp [finish, cfg.mode_backtest]
      exact h.move (by simp [hat]) (frame_finish cfg st)
        ⟨done, hdone, hquiet, hpc.1, hpc.2.1, hpc.2.2, hcomplete⟩

/-- Every step of a worker that is not being stopped keeps the invariant. -/
theorem driverStep_invariant (hserve : KeysetPaged serve) {st st' : DriverState} {l : DriverLabel}
    (h : DriverInvariant cfg serve st) (hl : NotStopped st l)
    (hstep : driverStep cfg serve st l = some st') : DriverInvariant cfg serve st' := by
  rcases h.progress with ⟨done, hdone, hquiet, hpc⟩
  rcases driverStep_cases h.running hl hstep with
    ⟨hmove, -⟩ | ⟨⟨request, hat⟩, rfl, -⟩ | ⟨phase, hphase, rfl, -⟩ | ⟨rfl, -⟩
  · exact driverMove_invariant hserve h hmove
  · rw [hat] at hpc
    exact h.move (by simp [hat]) (frame_pc st _) ⟨done, hdone, hquiet, hpc.2⟩
  · exact ⟨⟨h.running.1, h.running.2.1, hphase⟩, h.complete, done, hdone, hquiet,
      hpc.congr rfl rfl rfl id⟩
  · exact ⟨h.running, h.complete, done, hdone, hquiet,
      hpc.congr rfl rfl rfl (fun hf => nomatch hf)⟩

/-! ## Exactly once, in order -/

/--
Whatever queries fail, whatever the pages hold and whatever else sets the
first-data flag: when the driver of a worker that is not being stopped has
marked the replay complete, the strategy has received exactly the accepted bars
of the dataset, in page order.
-/
theorem historical_replay_exactly_once (cfg : DriverConfig)
    (serve : Option String → QueryHistoricalDataResponse) (firstData : FirstData)
    (hserve : KeysetPaged serve) (ls : List DriverLabel) (st : DriverState)
    (hlive : ∀ l ∈ ls, l.keepsRunning = true)
    (hrun : (driver cfg serve firstData).run (driver cfg serve firstData).init ls = some st)
    (hcomplete : st.backtestReplayComplete = true) :
    ∃ pages, PagesFrom serve none pages ∧
      st.gateway.received = pages.flatMap (acceptedTicks cfg) := by
  have h : DriverInvariant cfg serve st :=
    run_invariant (DriverInvariant cfg serve)
      (fun _ _ _ hinv hl hstep => driverStep_invariant hserve hinv hl hstep)
      (driverInvariant_init firstData) (meets_of_mem (fun l hl _ => hlive l hl) _) hrun
  rcases h.progress with ⟨done, hdone, -, hpc⟩
  rw [h.complete hcomplete] at hpc
  rcases hpc with ⟨hlast, -, hreceived, -⟩
  refine ⟨done ++ [serve st.cursor], hdone.last hlast, ?_⟩
  simpa [ticksOf] using hreceived

end

/-! ## Two pages -/

/-- A backtest of one symbol over one hour. -/
def hourBacktest : DriverConfig where
  symbol := "AAPL"
  symbol_ne := by decide
  tsStart := "2026-03-13T11:00:00Z"
  tsStart_ne := by decide
  tsEnd := "2026-03-13T12:00:00Z"
  tsEnd_ne := by decide
  mode := .backtest
  mode_backtest := rfl
  timeframe := "1m"
  pageLimit := 1000
  warmupTotal := 0
  barReplayIntervalMs := 0
  journalRaises := false

/-- A bar that opens at the given time. -/
def minuteBar (timeUtc : String) : HistoricalBar :=
  ⟨7, timeUtc, .finite 1, .finite 2, .finite 1, .finite 2, 100⟩

/-- No data has been received yet. -/
def noFirstData : FirstData :=
  ⟨false, false, FirstData.received_of_unmarked⟩

/-- A bar without a time and one with, and a page with the next minute. -/
def twoPages : Option String → QueryHistoricalDataResponse
  | none =>
      ⟨[minuteBar "", minuteBar "2026-03-13 11:00:00+00"], some ⟨true, "2026-03-13 11:00:00+00"⟩⟩
  | some _ => ⟨[minuteBar "2026-03-13 11:01:00+00"], some ⟨false, ""⟩⟩

theorem twoPages_keysetPaged : KeysetPaged twoPages := by
  intro cursor
  cases cursor with
  | none => decide
  | some c => exact fun h => nomatch h

/-- A failed query, both pages, and the end of the dataset. -/
def twoPagesRun : List DriverLabel :=
  [.advance, .advance, .fail, .advance, .advance, .reply, .advance, .advance, .advance, .advance,
    .reply, .advance, .advance]

theorem twoPagesRun_isSome :
    ((driver hourBacktest twoPages noFirstData).run
      (driver hourBacktest twoPages noFirstData).init twoPagesRun).isSome = true := by
  decide +kernel

/-- Both bars that have a time have been replayed once. -/
theorem two_pages_replayed_once :
    ∃ st, (driver hourBacktest twoPages noFirstData).run
        (driver hourBacktest twoPages noFirstData).init twoPagesRun = some st ∧
      st.gateway.received.map HistoricalTick.tsMs = [1773399600000, 1773399660000] ∧
      ∃ pages, PagesFrom twoPages none pages ∧
        st.gateway.received = pages.flatMap (acceptedTicks hourBacktest) := by
  refine ⟨_, (Option.some_get twoPagesRun_isSome).symm, by decide +kernel, ?_⟩
  exact historical_replay_exactly_once hourBacktest twoPages noFirstData twoPages_keysetPaged
    twoPagesRun _ (by decide) (Option.some_get twoPagesRun_isSome).symm (by decide +kernel)

end Historical
end StrategyWorker
