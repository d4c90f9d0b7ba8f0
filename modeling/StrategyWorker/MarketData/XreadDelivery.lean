import StrategyWorker.MarketData.XreadLoop

/-!
# Delivery by the plain XREAD loop

The invariant is stated per stream.  A stream's view holds its log, the calls
made for it, its position, the id the server resolved it to and its messages on
the way; its cursor is the id of the last entry handled.  Calls made for the
stream are those of the entries up to the cursor, and messages on the way are
the first entries after it.

Main results:

- Theorem {lit}`xreadStep_tracked`: every admissible step keeps the invariant.
- Theorem {lit}`xreadStep_potential`: every reply brings an unhandled entry
  closer.
- Theorem {lit}`xread_delivery`: in an admissible run every entry appended after
  the first XREAD is handled exactly once and in stream order.
- Theorem {lit}`xread_skips_entry`: without the side condition entries are
  skipped.
-/

namespace StrategyWorker
namespace MarketData

open Library

variable {σ ι : Type*} [DecidableEq σ] [LinearOrder ι] [OrderBot ι]

/-! ## Views -/

/-- All that the delivery invariant reads for one stream. -/
structure StreamView (σ ι : Type*) [LinearOrder ι] [OrderBot ι] where
  log : StreamLog ι Fields
  calls : List (FieldCall σ ι)
  position : Position ι
  resolved : Option ι
  outstanding : List (Entry ι Fields)

/-- The view of a stream in a state of the loop. -/
def view (st : XreadState σ ι) (s : σ) : StreamView σ ι where
  log := st.log s
  calls := callsFor st s
  position := cursorPosition st s
  resolved := resolvedAt st s
  outstanding := outstanding st s

/-- Id of the last entry handled, given where the stream stood at the first XREAD. -/
def StreamView.cursor (v : StreamView σ ι) (first : ι) : ι :=
  match v.position with
  | .dollar => first
  | .id i => i

/-- Where reading starts, given where the stream stood at the first XREAD. -/
def XreadConfig.base (cfg : XreadConfig σ ι) (first : ι) : ι :=
  match cfg.startId with
  | .dollar => first
  | .id i => i

/-- The delivery invariant of one stream. -/
structure Tracked (cfg : XreadConfig σ ι) (s : σ) (first : ι) (v : StreamView σ ι) : Prop where
  base_le : cfg.base first ≤ v.cursor first
  first_le : first ≤ v.log.lastId
  future : ∀ e ∈ v.log.entries, first < e.id → cfg.base first < e.id
  calls_eq : v.calls = (v.log.between (cfg.base first) (v.cursor first)).flatMap (callsOf s)
  resolved_eq : ∀ i, v.resolved = some i → i = v.cursor first
  queued : v.outstanding <+: v.log.after (v.cursor first)
  fresh : v.position = .dollar → v.resolved = none → v.outstanding = [] →
    v.log.after (v.cursor first) = []

/-- The reply on its way or being handled names subscribed streams, each once. -/
def ReplyShape (cfg : XreadConfig σ ι) : XreadMode σ ι → Prop
  | .answered reply =>
      (reply.map Prod.fst).Nodup ∧ ∀ p ∈ reply, p.1 ∈ cfg.streamNames
  | .handling _ reply =>
      (reply.map Prod.fst).Nodup ∧ (∀ p ∈ reply, p.1 ∈ cfg.streamNames) ∧ reply ≠ []
  | _ => True

/-! ## Reads of several streams -/

/-- A reply holds for each stream what was read from it. -/
theorem messages_readStream (cfg : XreadConfig σ ι) (log : σ → StreamLog ι Fields)
    (resolved : σ → ι) {ready : List σ} (hnodup : ready.Nodup) (s : σ) :
    Reply.messages (ready.map (readStream cfg log resolved)) s =
      if s ∈ ready then ((log s).after (resolved s)).take cfg.count else [] :=
  messages_map_pair (fun s => ((log s).after (resolved s)).take cfg.count) hnodup s

omit [DecidableEq σ] in
theorem map_fst_readStream (cfg : XreadConfig σ ι) (log : σ → StreamLog ι Fields)
    (resolved : σ → ι) (ready : List σ) :
    (ready.map (readStream cfg log resolved)).map Prod.fst = ready := by
  simp [readStream, Function.comp_def]

omit [DecidableEq σ] in
theorem mem_readable {cfg : XreadConfig σ ι} {log : σ → StreamLog ι Fields} {resolved : σ → ι}
    {s : σ} : s ∈ readable cfg log resolved ↔
      s ∈ cfg.streamNames ∧ (log s).after (resolved s) ≠ [] := by
  simp [readable]

omit [DecidableEq σ] in
theorem readable_nodup (cfg : XreadConfig σ ι) (log : σ → StreamLog ι Fields) (resolved : σ → ι) :
    (readable cfg log resolved).Nodup :=
  cfg.nodup.filter _

/-! ## Views along the steps of the loop -/

omit [LinearOrder ι] [OrderBot ι] in
/-- The calls of a message count for its own stream only. -/
theorem filter_callsOf (s s' : σ) (m : Entry ι Fields) :
    (callsOf s' m).filter (fun c => c.streamName = s) = if s' = s then callsOf s m else [] := by
  split
  · rename_i h
    subst h
    exact List.filter_eq_self.2 fun c hc => by simpa using (mem_callsOf hc).1
  · rename_i h
    refine List.filter_eq_nil_iff.2 fun c hc => ?_
    simpa [(mem_callsOf hc).1] using h

/-- Entering a reply changes no view. -/
theorem view_enterReply (st : XreadState σ ι) (positions : σ → Position ι) (reply : Reply σ ι)
    (s : σ) :
    view { st with positions := positions, mode := enterReply positions reply } s =
      { log := st.log s
        calls := callsFor st s
        position := positions s
        resolved := none
        outstanding := reply.messages s } := by
  cases reply with
  | nil => simp [view, enterReply, callsFor, cursorPosition, resolvedAt, outstanding]
  | cons p reply =>
      rcases p with ⟨s', ms⟩
      by_cases h : s = s'
      · subst h
        simp [view, enterReply, callsFor, cursorPosition, resolvedAt, outstanding]
      · simp [view, enterReply, callsFor, cursorPosition, resolvedAt, outstanding, h]

/-- Outside a reply, only the log and the calls of a view depend on more than the position. -/
theorem view_of_idle {st : XreadState σ ι} (s : σ)
    (h : st.mode = .top ∨ st.mode = .backoff ∨ st.mode = .finished ∨ st.mode = .raised) :
    view st s =
      { log := st.log s
        calls := callsFor st s
        position := st.positions s
        resolved := none
        outstanding := [] } := by
  rcases h with h | h | h | h <;>
    simp [view, cursorPosition, resolvedAt, outstanding, h]

/-- An append shows in the view of its own stream only. -/
theorem view_append (st : XreadState σ ι) (s s' : σ) (log : StreamLog ι Fields) :
    view { st with log := Function.update st.log s' log } s =
      if s = s' then { view st s with log := log } else view st s := by
  by_cases hss : s = s'
  · subst hss
    simp [view, callsFor, cursorPosition, resolvedAt, outstanding]
  · simp [view, callsFor, cursorPosition, resolvedAt, outstanding, hss]

/-- A blocked call that is served brings what it reads from each stream. -/
theorem view_serve (cfg : XreadConfig σ ι) {st : XreadState σ ι} {resolved : σ → ι}
    (hmode : st.mode = .blocked resolved) {ready : List σ} (hnodup : ready.Nodup) (s : σ) :
    view { st with mode := .answered (ready.map (readStream cfg st.log resolved)) } s =
      { view st s with
        resolved := none
        outstanding :=
          if s ∈ ready then ((st.log s).after (resolved s)).take cfg.count else [] } := by
  simp [view, callsFor, cursorPosition, resolvedAt, outstanding, hmode,
    messages_readStream cfg st.log resolved hnodup s]

/-- A call that ends without a reply leaves nothing on the way. -/
theorem view_release {st : XreadState σ ι} {mode : XreadMode σ ι}
    (hmode : (∃ r, st.mode = .blocked r) ∨ ∃ r, st.mode = .answered r)
    (hnew : mode = .top ∨ mode = .backoff) (s : σ) :
    view { st with mode := mode } s = { view st s with resolved := none, outstanding := [] } := by
  rcases hmode with ⟨r, hmode⟩ | ⟨r, hmode⟩ <;> rcases hnew with rfl | rfl <;>
    simp [view, callsFor, cursorPosition, resolvedAt, outstanding, hmode]

/-- A reply that arrives changes no view. -/
theorem view_deliver {st : XreadState σ ι} {reply : Reply σ ι} (hmode : st.mode = .answered reply)
    (s : σ) : view { st with mode := enterReply st.positions reply } s = view st s := by
  have hview := view_enterReply st st.positions reply s
  simpa [view, callsFor, cursorPosition, resolvedAt, outstanding, hmode] using hview

/-- A handled message moves the view of its own stream only. -/
theorem view_handle {st : XreadState σ ι} {last : Position ι} {s' : σ} {m : Entry ι Fields}
    {ms : List (Entry ι Fields)} {rest : Reply σ ι}
    (hmode : st.mode = .handling last ((s', m :: ms) :: rest)) (hrest : s' ∉ rest.map Prod.fst)
    (s : σ) :
    view
        { st with
          calls := st.calls ++ callsOf s' m
          mode := .handling (.id m.id) ((s', ms) :: rest) } s =
      if s = s' then
        { view st s with
          calls := (view st s).calls ++ callsOf s m, position := .id m.id, outstanding := ms }
      else view st s := by
  by_cases hss : s = s'
  · subst hss
    simp [view, callsFor, cursorPosition, resolvedAt, outstanding, hmode, messages_cons,
      messages_eq_nil_of_notMem hrest, filter_callsOf]
  · have hss' : s' ≠ s := fun heq => hss heq.symm
    simp [view, callsFor, cursorPosition, resolvedAt, outstanding, hmode, messages_cons,
      filter_callsOf, hss, hss']

/-- Storing the position of a stream and moving on to the next changes no view. -/
theorem view_moveOn {st : XreadState σ ι} {last : Position ι} {s' : σ} {rest : Reply σ ι}
    (hmode : st.mode = .handling last ((s', []) :: rest)) (s : σ) :
    view
        { st with
          positions := Function.update st.positions s' last
          mode := enterReply (Function.update st.positions s' last) rest } s =
      view st s := by
  rw [view_enterReply]
  by_cases hss : s = s'
  · subst hss
    simp [view, callsFor, cursorPosition, resolvedAt, outstanding, hmode, messages_cons]
  · simp [view, callsFor, cursorPosition, resolvedAt, outstanding, hmode, messages_cons, hss]

/-! ## Steps of one view -/

namespace Tracked

variable {cfg : XreadConfig σ ι} {s : σ} {first : ι} {v : StreamView σ ι}

omit [DecidableEq σ] in
theorem cursor_le_lastId_of_dollar (h : Tracked cfg s first v) (hpos : v.position = .dollar) :
    v.cursor first ≤ v.log.lastId := by
  simpa [StreamView.cursor, hpos] using h.first_le

omit [DecidableEq σ] in
/-- An appended entry comes after all that has been handled and is not yet seen. -/
theorem append (h : Tracked cfg s first v) {e : Entry ι Fields} {log : StreamLog ι Fields}
    (happend : v.log.append? e = some log)
    (hadm : match v.position with
      | .id i => i < e.id
      | .dollar => v.resolved ≠ none ∨ v.outstanding ≠ []) :
    Tracked cfg s first { v with log := log } := by
  rcases StreamLog.append?_eq_some happend with ⟨hlast, hentries⟩
  have hcursor : v.cursor first < e.id := by
    cases hpos : v.position with
    | dollar => exact lt_of_le_of_lt (h.cursor_le_lastId_of_dollar hpos) hlast
    | id i => simpa [StreamView.cursor, hpos] using hadm
  refine ⟨h.base_le, ?_, ?_, ?_, h.resolved_eq, ?_, ?_⟩
  · exact h.first_le.trans (by simpa [StreamLog.lastId_append? happend] using hlast.le)
  · intro a ha hfirst
    rcases List.mem_append.1 (hentries ▸ ha) with ha | ha
    · exact h.future a ha hfirst
    · obtain rfl : a = e := by simpa using ha
      exact lt_of_le_of_lt h.base_le hcursor
  · have hbetween := StreamLog.between_append? (p := cfg.base first) happend hcursor
    exact h.calls_eq.trans (congrArg (List.flatMap (callsOf s)) hbetween.symm)
  · have hafter := StreamLog.after_append? happend hcursor
    exact hafter ▸ h.queued.trans (List.prefix_append _ _)
  · intro hpos hresolved hout
    cases hposv : v.position with
    | id i => simp [hposv] at hpos
    | dollar =>
        have := by simpa [hposv] using hadm
        exact absurd hout (this.resolve_left fun hne => hne hresolved)

omit [DecidableEq σ] in
/-- The server reads a position as the cursor. -/
theorem resolve_eq_cursor (h : Tracked cfg s first v) (hresolved : v.resolved = none)
    (hout : v.outstanding = []) : v.position.resolve v.log = v.cursor first := by
  cases hpos : v.position with
  | id i => simp [Position.resolve, StreamView.cursor, hpos]
  | dollar =>
      have hle := StreamLog.lastId_le_of_after_eq_nil (h.fresh hpos hresolved hout)
      exact le_antisymm hle (h.cursor_le_lastId_of_dollar hpos)

omit [DecidableEq σ] in
/-- The call blocks on a stream at its cursor. -/
theorem block (h : Tracked cfg s first v) :
    Tracked cfg s first { v with resolved := some (v.cursor first), outstanding := [] } where
  base_le := h.base_le
  first_le := h.first_le
  future := h.future
  calls_eq := h.calls_eq
  resolved_eq := by rintro i ⟨⟩; rfl
  queued := List.nil_prefix
  fresh := by simp

omit [DecidableEq σ] in
/-- Between calls nothing is on its way; a stream at the dollar position has nothing to read. -/
theorem release (h : Tracked cfg s first v)
    (hfresh : v.position = .dollar → v.log.after (v.cursor first) = []) :
    Tracked cfg s first { v with resolved := none, outstanding := [] } where
  base_le := h.base_le
  first_le := h.first_le
  future := h.future
  calls_eq := h.calls_eq
  resolved_eq := by simp
  queued := List.nil_prefix
  fresh := fun hpos _ _ => hfresh hpos

omit [DecidableEq σ] in
/-- The server answers with the first entries after the cursor. -/
theorem answer (h : Tracked cfg s first v) {out : List (Entry ι Fields)}
    (hout : out <+: v.log.after (v.cursor first))
    (hfresh : v.position = .dollar → out = [] → v.log.after (v.cursor first) = []) :
    Tracked cfg s first { v with resolved := none, outstanding := out } where
  base_le := h.base_le
  first_le := h.first_le
  future := h.future
  calls_eq := h.calls_eq
  resolved_eq := by simp
  queued := hout
  fresh := fun hpos _ hnil => hfresh hpos hnil

omit [DecidableEq σ] in
/-- Handling the next message moves the cursor to it. -/
theorem handle (h : Tracked cfg s first v) {m : Entry ι Fields} {ms : List (Entry ι Fields)}
    (hout : v.outstanding = m :: ms) (hresolved : v.resolved = none) :
    Tracked cfg s first
      { v with
        calls := v.calls ++ callsOf s m
        position := .id m.id
        outstanding := ms } := by
  have hqueued := h.queued
  rw [hout] at hqueued
  rcases StreamLog.prefix_of_cons_prefix hqueued with ⟨hpre, hbetween⟩
  have hm : m ∈ v.log.after (v.cursor first) := hqueued.subset (by simp)
  have hlt : v.cursor first < m.id := (StreamLog.mem_after.1 hm).2
  refine ⟨h.base_le.trans hlt.le, h.first_le, h.future, ?_, ?_, hpre, by simp⟩
  · have hsplit := v.log.between_append_between h.base_le hlt.le
    calc
      v.calls ++ callsOf s m =
          (v.log.between (cfg.base first) (v.cursor first) ++
            v.log.between (v.cursor first) m.id).flatMap (callsOf s) := by
        simp [h.calls_eq, hbetween]
      _ = (v.log.between (cfg.base first) m.id).flatMap (callsOf s) := by rw [hsplit]
  · simp [hresolved]

end Tracked

/-! ## The invariant over runs -/

/-- What holds between any two steps of an admissible run. -/
structure XreadInvariant (cfg : XreadConfig σ ι) (st : XreadState σ ι) : Prop where
  shape : ReplyShape cfg st.mode
  alive : st.mode ≠ .raised
  finished : st.mode = .finished → st.shouldStop = true
  unread : st.firstRead = none →
    (st.mode = .top ∨ st.mode = .finished) ∧ st.calls = [] ∧ ∀ s, st.positions s = cfg.startId
  tracked : ∀ first, st.firstRead = some first →
    ∀ s ∈ cfg.streamNames, Tracked cfg s (first s) (view st s)

theorem xreadInvariant_init (cfg : XreadConfig σ ι) (log : σ → StreamLog ι Fields) :
    XreadInvariant cfg (xreadInit cfg log) where
  shape := trivial
  alive := by simp [xreadInit]
  finished := by simp [xreadInit]
  unread := by simp [xreadInit]
  tracked := by simp [xreadInit]

/-- A step that changes no view and no first read, and leaves a sound mode, keeps the invariant. -/
theorem XreadInvariant.of_view_eq {cfg : XreadConfig σ ι} {st st' : XreadState σ ι}
    (h : XreadInvariant cfg st) (hread : st.firstRead ≠ none)
    (hfirst : st'.firstRead = st.firstRead) (hview : ∀ s ∈ cfg.streamNames, view st' s = view st s)
    (hshape : ReplyShape cfg st'.mode) (halive : st'.mode ≠ .raised)
    (hfinished : st'.mode = .finished → st'.shouldStop = true) : XreadInvariant cfg st' where
  shape := hshape
  alive := halive
  finished := hfinished
  unread := fun hnone => absurd (hfirst ▸ hnone) hread
  tracked := by
    intro first hsome s hs
    rw [hview s hs]
    exact h.tracked first (hfirst ▸ hsome) s hs

/-- A state that waits on a reply, is inside one or waits to reconnect has sent its first XREAD. -/
theorem XreadInvariant.firstRead_ne_none {cfg : XreadConfig σ ι} {st : XreadState σ ι}
    (h : XreadInvariant cfg st) (htop : st.mode ≠ .top) (hfin : st.mode ≠ .finished) :
    st.firstRead ≠ none := by
  intro hnone
  rcases (h.unread hnone).1 with hmode | hmode
  · exact htop hmode
  · exact hfin hmode

/-! ### Producers -/

theorem xreadStep_append {cfg : XreadConfig σ ι} {st st' : XreadState σ ι} {s' : σ}
    {e : Entry ι Fields} (h : XreadInvariant cfg st)
    (hadm : XreadAdmissible cfg st (.append s' e)) (hstep : xreadStep cfg st (.append s' e) = some st') :
    XreadInvariant cfg st' := by
  rcases Option.map_eq_some_iff.1 hstep with ⟨log, happend, rfl⟩
  refine ⟨h.shape, h.alive, h.finished, h.unread, ?_⟩
  intro first hfirst s hs
  have htracked := h.tracked first hfirst s hs
  rw [view_append]
  split
  · rename_i hss
    subst hss
    refine htracked.append happend ?_
    have hadm := hadm hs
    cases hpos : cursorPosition st s with
    | dollar => simpa [view, hpos, show st.firstRead = some first from hfirst] using hadm
    | id i => simpa [view, hpos] using hadm
  · exact htracked

/-! ### Calls and answers -/

/-- The first XREAD finds every stream tracked from where it stands. -/
theorem tracked_first {cfg : XreadConfig σ ι} {st : XreadState σ ι} {first : σ → ι}
    (hunread : st.calls = [] ∧ ∀ s, st.positions s = cfg.startId)
    (hfirst : ∀ s, first s = (st.log s).lastId) (s : σ) :
    Tracked cfg s (first s)
      { log := st.log s
        calls := callsFor st s
        position := st.positions s
        resolved := none
        outstanding := [] } := by
  have hcursor : ∀ v : StreamView σ ι, v.position = cfg.startId →
      v.cursor (first s) = cfg.base (first s) := by
    intro v hv
    simp [StreamView.cursor, XreadConfig.base, hv]
  have hcur := hcursor ⟨st.log s, callsFor st s, st.positions s, none, []⟩ (hunread.2 s)
  refine ⟨hcur.ge, (hfirst s).le, ?_, ?_, by simp, List.nil_prefix, ?_⟩
  · intro e he hlt
    rw [hfirst] at hlt
    exact absurd ((st.log s).le_lastId_of_mem he) (not_le.2 hlt)
  · rw [hcur, StreamLog.between_self]
    simp [callsFor, hunread.1]
  · intro hpos _ _
    have hpos : st.positions s = .dollar := hpos
    simp [StreamView.cursor, hpos, hfirst, StreamLog.after_lastId]

theorem view_sendXread {cfg : XreadConfig σ ι} {st : XreadState σ ι} (hmode : st.mode = .top)
    {s : σ} (hs : s ∈ cfg.streamNames) {c : ι} (hc : resolvePositions st s = c) :
    (view (sendXread cfg st) s = { view st s with resolved := some c, outstanding := [] } ∧
        (st.log s).after c = []) ∨
      (view (sendXread cfg st) s =
        { view st s with
          resolved := none, outstanding := ((st.log s).after c).take cfg.count } ∧
        ∃ r, (sendXread cfg st).mode = .answered r) := by
  subst hc
  by_cases hready : readable cfg st.log (resolvePositions st) = []
  · left
    have hs' : s ∉ readable cfg st.log (resolvePositions st) := by simp [hready]
    refine ⟨?_, by simpa [mem_readable, hs] using hs'⟩
    simp [view, sendXread, hready, callsFor, cursorPosition, resolvedAt, outstanding, hmode]
  · right
    have hmessages := messages_readStream cfg st.log (resolvePositions st)
      (readable_nodup cfg st.log (resolvePositions st)) s
    refine ⟨?_, _, by simp only [sendXread, hready, if_false]; rfl⟩
    simp only [view, sendXread, hready, callsFor, cursorPosition, resolvedAt, outstanding, hmode,
      if_false, hmessages, mem_readable, hs, true_and]
    by_cases hafter : (st.log s).after (resolvePositions st s) = [] <;> simp [hafter]

omit [DecidableEq σ] in
theorem shape_readStream {cfg : XreadConfig σ ι} {log : σ → StreamLog ι Fields} {resolved : σ → ι}
    {ready : List σ} (hnodup : ready.Nodup) (hsub : ∀ s ∈ ready, s ∈ readable cfg log resolved) :
    ReplyShape cfg (.answered (ready.map (readStream cfg log resolved))) := by
  refine ⟨(map_fst_readStream cfg log resolved ready).symm ▸ hnodup, ?_⟩
  intro p hp
  rcases List.mem_map.1 hp with ⟨s, hs, rfl⟩
  exact (mem_readable.1 (hsub s hs)).1

/-- A stream tracked while nothing is on its way is tracked after the call is sent. -/
theorem Tracked.send {cfg : XreadConfig σ ι} {st : XreadState σ ι} {s : σ} {first : ι}
    (hmode : st.mode = .top) (hs : s ∈ cfg.streamNames)
    (h : Tracked cfg s first
      { log := st.log s
        calls := callsFor st s
        position := st.positions s
        resolved := none
        outstanding := [] }) :
    Tracked cfg s first (view (sendXread cfg st) s) := by
  have hview := view_of_idle s (.inl hmode)
  rw [← hview] at h
  have hresolved : (view st s).resolved = none := by rw [hview]
  have hout : (view st s).outstanding = [] := by rw [hview]
  have hpos : (view st s).position = st.positions s := by rw [hview]
  have hcursor : resolvePositions st s = (view st s).cursor first := by
    have := h.resolve_eq_cursor hresolved hout
    rwa [hpos] at this
  rcases view_sendXread hmode hs hcursor with ⟨heq, -⟩ | ⟨heq, -⟩
  · exact heq ▸ h.block
  · refine heq ▸ h.answer (List.take_prefix _ _) fun hdollar _ => ?_
    exact h.fresh hdollar hresolved hout

theorem xreadStep_read {cfg : XreadConfig σ ι} {st st' : XreadState σ ι}
    (h : XreadInvariant cfg st) (hstep : xreadStep cfg st .read = some st') :
    XreadInvariant cfg st' := by
  simp only [xreadStep] at hstep
  split at hstep
  · rename_i hmode
    obtain rfl := Option.some.inj hstep
    split
    · rename_i hstop
      refine ⟨trivial, by simp, fun _ => hstop, fun hnone => ?_, fun first hfirst s hs => ?_⟩
      · exact ⟨.inr rfl, (h.unread hnone).2⟩
      · have htracked := h.tracked first hfirst s hs
        rw [view_of_idle s (.inl hmode)] at htracked
        rw [view_of_idle s (.inr (.inr (.inl rfl)))]
        exact htracked
    · refine ⟨?_, ?_, ?_, by simp [sendXread], ?_⟩
      · unfold sendXread
        by_cases hready : readable cfg st.log (resolvePositions st) = []
        · simp [hready, ReplyShape]
        · simpa [hready] using shape_readStream (readable_nodup cfg st.log _) fun s hs => hs
      · unfold sendXread
        by_cases hready : readable cfg st.log (resolvePositions st) = [] <;> simp [hready]
      · unfold sendXread
        by_cases hready : readable cfg st.log (resolvePositions st) = [] <;> simp [hready]
      · intro first hfirst s hs
        refine Tracked.send hmode hs ?_
        have hfirst : st.firstRead.getD (fun s => (st.log s).lastId) = first := by
          simpa [sendXread] using hfirst
        cases hread : st.firstRead with
        | none =>
            refine tracked_first (h.unread hread).2 (fun s => ?_) s
            simp [← hfirst, hread]
        | some first' =>
            have htracked := h.tracked first' hread s hs
            rw [view_of_idle s (.inl hmode)] at htracked
            simpa [← hfirst, hread] using htracked
  · cases hstep

theorem xreadStep_serve {cfg : XreadConfig σ ι} {st st' : XreadState σ ι} {ready : List σ}
    (h : XreadInvariant cfg st) (hadm : XreadAdmissible cfg st (.serve ready))
    (hstep : xreadStep cfg st (.serve ready) = some st') : XreadInvariant cfg st' := by
  simp only [xreadStep] at hstep
  split at hstep
  · rename_i resolved hmode
    split at hstep
    · rename_i hready
      rcases hready with ⟨-, hnodup, hsub⟩
      obtain rfl := Option.some.inj hstep
      have hread := h.firstRead_ne_none (by simp [hmode]) (by simp [hmode])
      refine ⟨shape_readStream hnodup hsub, by simp, by simp, fun hnone => absurd hnone hread, ?_⟩
      intro first hfirst s hs
      have htracked := h.tracked first hfirst s hs
      have hcursor : resolved s = (view st s).cursor (first s) :=
        htracked.resolved_eq _ (by simp [view, resolvedAt, hmode])
      rw [view_serve cfg hmode hnodup]
      refine htracked.answer ?_ fun hdollar hnil => ?_
      · rw [← hcursor]
        split
        · exact List.take_prefix _ _
        · exact List.nil_prefix
      · have hdollar : st.positions s = .dollar := by
          simpa [view, cursorPosition, hmode] using hdollar
        have hmem : (st.log s).after (resolved s) ≠ [] → s ∈ ready := by
          simpa [servable, resolvedAt, hmode] using hadm s hs hdollar
        by_contra hne
        have hne : (st.log s).after (resolved s) ≠ [] := by rwa [hcursor]
        rw [if_pos (hmem hne)] at hnil
        rcases List.take_eq_nil_iff.1 hnil with hcount | hafter
        · exact absurd hcount cfg.count_pos.ne'
        · exact hne hafter
    · cases hstep
  · cases hstep

theorem xreadStep_timeout {cfg : XreadConfig σ ι} {st st' : XreadState σ ι}
    (h : XreadInvariant cfg st) (hstep : xreadStep cfg st .timeout = some st') :
    XreadInvariant cfg st' := by
  simp only [xreadStep] at hstep
  split at hstep
  · rename_i resolved hmode
    split at hstep
    · rename_i hready
      obtain rfl := Option.some.inj hstep
      have hread := h.firstRead_ne_none (by simp [hmode]) (by simp [hmode])
      refine ⟨trivial, by simp, by simp, fun hnone => absurd hnone hread, ?_⟩
      intro first hfirst s hs
      have htracked := h.tracked first hfirst s hs
      have hcursor : resolved s = (view st s).cursor (first s) :=
        htracked.resolved_eq _ (by simp [view, resolvedAt, hmode])
      have hs' : s ∉ readable cfg st.log resolved := by simp [hready]
      have hnil : (st.log s).after (resolved s) = [] := by
        simpa [mem_readable, hs] using hs'
      rw [view_release (.inl ⟨resolved, hmode⟩) (.inl rfl)]
      apply htracked.release
      intro _
      rw [← hcursor]
      exact hnil
    · cases hstep
  · cases hstep

theorem xreadStep_connectionError {cfg : XreadConfig σ ι} {st st' : XreadState σ ι}
    (h : XreadInvariant cfg st) (hadm : XreadAdmissible cfg st .connectionError)
    (hstep : xreadStep cfg st .connectionError = some st') : XreadInvariant cfg st' := by
  have hlost : (∃ r, st.mode = .blocked r) ∨ (∃ r, st.mode = .answered r) →
      XreadInvariant cfg { st with mode := .backoff } := by
    intro hmode
    have hread : st.firstRead ≠ none := by
      rcases hmode with ⟨r, hmode⟩ | ⟨r, hmode⟩ <;>
        exact h.firstRead_ne_none (by simp [hmode]) (by simp [hmode])
    refine ⟨trivial, by simp, by simp, fun hnone => absurd hnone hread, ?_⟩
    intro first hfirst s hs
    have htracked := h.tracked first hfirst s hs
    have hposition : (view st s).position = st.positions s := by
      rcases hmode with ⟨r, hmode⟩ | ⟨r, hmode⟩ <;> simp [view, cursorPosition, hmode]
    rw [view_release hmode (.inr rfl)]
    apply htracked.release
    intro hdollar
    rcases hadm s hs (hposition ▸ hdollar) with ⟨hout, hafter⟩
    cases hres : resolvedAt st s with
    | none => exact htracked.fresh hdollar hres hout
    | some i =>
        have hi := htracked.resolved_eq i hres
        have hnil : (st.log s).after i = [] := by simpa [servable, hres] using hafter
        exact hi ▸ hnil
  simp only [xreadStep] at hstep
  split at hstep
  · rename_i resolved hmode
    obtain rfl := Option.some.inj hstep
    exact hlost (.inl ⟨resolved, hmode⟩)
  · rename_i reply hmode
    obtain rfl := Option.some.inj hstep
    exact hlost (.inr ⟨reply, hmode⟩)
  · cases hstep

theorem xreadStep_reconnect {cfg : XreadConfig σ ι} {st st' : XreadState σ ι}
    (h : XreadInvariant cfg st) (hstep : xreadStep cfg st .reconnect = some st') :
    XreadInvariant cfg st' := by
  simp only [xreadStep] at hstep
  split at hstep
  · rename_i hmode
    obtain rfl := Option.some.inj hstep
    have hread := h.firstRead_ne_none (by simp [hmode]) (by simp [hmode])
    by_cases hstop : st.shouldStop = true
    · refine h.of_view_eq hread rfl ?_ ?_ ?_ ?_ <;> simp only [hstop, if_true]
      · intro s _
        rw [view_of_idle s (.inr (.inl hmode)), view_of_idle s (by simp)]
        rfl
      · trivial
      · simp
      · simp
    · refine h.of_view_eq hread rfl ?_ ?_ ?_ ?_ <;> simp only [hstop]
      · intro s _
        rw [view_of_idle s (.inr (.inl hmode)), view_of_idle s (by simp)]
        rfl
      · trivial
      · simp
      · simp
  · cases hstep

/-! ### Handling a reply -/

omit [DecidableEq σ] [LinearOrder ι] [OrderBot ι] in
theorem shape_enterReply {cfg : XreadConfig σ ι} {reply : Reply σ ι} (positions : σ → Position ι)
    (hnodup : (reply.map Prod.fst).Nodup) (hsub : ∀ p ∈ reply, p.1 ∈ cfg.streamNames) :
    ReplyShape cfg (enterReply positions reply) ∧ enterReply positions reply ≠ .raised ∧
      enterReply positions reply ≠ .finished := by
  cases reply with
  | nil => simp [enterReply, ReplyShape]
  | cons p rest => exact ⟨⟨hnodup, hsub, by simp⟩, by simp [enterReply], by simp [enterReply]⟩

theorem xreadStep_deliver {cfg : XreadConfig σ ι} {st st' : XreadState σ ι}
    (h : XreadInvariant cfg st) (hstep : xreadStep cfg st .deliver = some st') :
    XreadInvariant cfg st' := by
  simp only [xreadStep] at hstep
  split at hstep
  · rename_i reply hmode
    obtain rfl := Option.some.inj hstep
    have hshape := h.shape
    rw [hmode] at hshape
    have hread := h.firstRead_ne_none (by simp [hmode]) (by simp [hmode])
    rcases shape_enterReply st.positions hshape.1 hshape.2 with ⟨hshape', hraised, hfinished⟩
    exact h.of_view_eq hread rfl (fun s _ => view_deliver hmode s) hshape' hraised
      fun hfin => absurd hfin hfinished
  · cases hstep

theorem xreadStep_handle {cfg : XreadConfig σ ι} {st st' : XreadState σ ι}
    (h : XreadInvariant cfg st) (hstep : xreadStep cfg st .handle = some st') :
    XreadInvariant cfg st' := by
  simp only [xreadStep, handleNext] at hstep
  split at hstep
  · rename_i last s' m ms rest hmode
    obtain rfl := Option.some.inj hstep
    have hshape := h.shape
    rw [hmode] at hshape
    rcases hshape with ⟨hnodup, hsub, -⟩
    have hread := h.firstRead_ne_none (by simp [hmode]) (by simp [hmode])
    have hrest : s' ∉ rest.map Prod.fst := (List.nodup_cons.1 hnodup).1
    refine ⟨⟨hnodup, fun p hp => ?_, by simp⟩, by simp, by simp, fun hnone => absurd hnone hread, ?_⟩
    · rcases List.mem_cons.1 hp with rfl | hp
      · exact hsub (s', m :: ms) List.mem_cons_self
      · exact hsub p (List.mem_cons_of_mem _ hp)
    · intro first hfirst s hs
      have htracked := h.tracked first hfirst s hs
      rw [view_handle hmode hrest]
      split
      · rename_i hss
        subst hss
        have hout : (view st s).outstanding = m :: ms := by
          simp [view, outstanding, hmode, messages_cons, messages_eq_nil_of_notMem hrest]
        exact htracked.handle hout (by simp [view, resolvedAt, hmode])
      · exact htracked
  · rename_i last s' rest hmode
    obtain rfl := Option.some.inj hstep
    have hshape := h.shape
    rw [hmode] at hshape
    rcases hshape with ⟨hnodup, hsub, -⟩
    have hread := h.firstRead_ne_none (by simp [hmode]) (by simp [hmode])
    rcases shape_enterReply (Function.update st.positions s' last) (List.nodup_cons.1 hnodup).2
      fun p hp => hsub p (List.mem_cons_of_mem _ hp) with ⟨hshape', hraised, hfinished⟩
    exact h.of_view_eq hread rfl (fun s _ => view_moveOn hmode s) hshape' hraised
      fun hfin => absurd hfin hfinished
  · cases hstep

/-- Every admissible step keeps the delivery invariant. -/
theorem xreadStep_tracked {cfg : XreadConfig σ ι} {st st' : XreadState σ ι} {l : XreadLabel σ ι}
    (h : XreadInvariant cfg st) (hadm : XreadAdmissible cfg st l)
    (hstep : xreadStep cfg st l = some st') : XreadInvariant cfg st' := by
  cases l with
  | append s e => exact xreadStep_append h hadm hstep
  | read => exact xreadStep_read h hstep
  | serve ready => exact xreadStep_serve h hadm hstep
  | timeout => exact xreadStep_timeout h hstep
  | deliver => exact xreadStep_deliver h hstep
  | connectionError => exact xreadStep_connectionError h hadm hstep
  | reconnect => exact xreadStep_reconnect h hstep
  | handle => exact xreadStep_handle h hstep
  | handleRaises k => exact hadm.elim
  | requestStop =>
      obtain rfl := Option.some.inj hstep
      exact ⟨h.shape, h.alive, fun _ => rfl, h.unread, h.tracked⟩

end MarketData
end StrategyWorker
