import StrategyWorker.Library.LoggedPieces
import StrategyWorker.MarketData.AckAfterProcessing

/-!
# The symbol of dispatched ticks

{lit}`_process_one_stream_field` compares the name of a field with the symbol of
the strategy.  The tick that it dispatches takes its symbol from the payload,
and from the name of the field only when the payload has none.

Main results:

- Theorem {lit}`symbol_of_tick`: symbol and instrument of a tick.
- Theorem {lit}`runMarketDataRedisLoop_adds`: an additive property of logs that
  the processing of a field leaves, and that every other event has, is left by
  the whole loop.
- Theorem {lit}`only_strategy_symbol_iff`: in a run all dispatched ticks are for
  the symbol of the strategy exactly when all its fields agree with it.
-/

namespace StrategyWorker
namespace MarketData

open Library
open Library.PyText
open Library.Logged

/-! ## The symbol of a tick -/

/-- The text names the symbol of the strategy, up to blanks around it and letter case. -/
def NamesStrategy (cfg : FeedConfig) (symbol : String) : Prop :=
  cfg.upper (strip symbol) = cfg.upper (strip cfg.strategySymbol)

/-- Symbol and instrument of a tick are the symbol of the strategy. -/
def OfStrategy (cfg : FeedConfig) (tick : PyDict) : Prop :=
  ∃ symbol instrument, tick.get? "symbol" = some (.str symbol) ∧
    tick.get? "instrument_id" = some (.str instrument) ∧ NamesStrategy cfg symbol ∧
      NamesStrategy cfg instrument

/-- The tick of a field. -/
def tickOf (cfg : FeedConfig) (c : StreamCall) : Except PayloadError (Option PyDict) :=
  streamPayloadToTick cfg.toPayloadConfig cfg.room c.streamName c.fieldSym c.payload c.msgId

/-- The symbol that a payload names, if it names one. -/
def payloadSymbol (obj : PyDict) : Option String :=
  if (obj.get "symbol").truthy then some (obj.get "symbol").text else none

/-- A field agrees with the strategy: when it passes the filter and its payload is converted, the
symbol of the payload, or the name of the field when it has none, names the strategy's symbol. -/
def FieldAgrees (cfg : FeedConfig) (c : StreamCall) : Prop :=
  matchesStrategy cfg c.fieldSym = true → ∀ obj, PyJson.loads cfg.room c.payload = .ok (.dict obj) →
    (∃ tick, tickOf cfg c = .ok (some tick)) →
      NamesStrategy cfg ((payloadSymbol obj).getD c.fieldSym)

theorem symbolOf_eq (obj : PyDict) (field : String) :
    symbolOf obj field = strip ((payloadSymbol obj).getD field) := by
  unfold symbolOf payloadSymbol PyVal.orElse
  split
  · rfl
  · rfl

/-- Symbol and instrument of a tick that a converter has made. -/
theorem get?_messageToTick {shape : TickShape} {obj : PyDict} {streamId field : String}
    {tick : PyDict} (h : messageToTick shape obj streamId field = .ok (some tick)) :
    tick.get? "symbol" = some (.str (symbolOf obj field)) ∧
      tick.get? "instrument_id" = some (.str (symbolOf obj field)) := by
  unfold messageToTick at h
  split at h
  · cases h
  · cases h
  · split at h
    · cases h
    · split at h
      · cases h
      · cases h
        exact ⟨rfl, rfl⟩

theorem get?_converterOf {cfg : PayloadConfig} {family : StreamFamily} {obj : PyDict}
    {streamId field : String} {tick : PyDict}
    (h : converterOf cfg family obj streamId field = .ok (some tick)) :
    tick.get? "symbol" = some (.str (symbolOf obj field)) ∧
      tick.get? "instrument_id" = some (.str (symbolOf obj field)) := by
  cases family with
  | bars =>
      rw [converterOf, barMessageToTick] at h
      exact get?_messageToTick h
  | trades =>
      rw [converterOf, tradeMessageToTick] at h
      exact get?_messageToTick h
  | quotes =>
      rw [converterOf, quoteMessageToTick] at h
      exact get?_messageToTick h

/-- Symbol and instrument of the tick of a field are those of its payload. -/
theorem symbol_of_tick {cfg : FeedConfig} {c : StreamCall} {tick : PyDict}
    (h : tickOf cfg c = .ok (some tick)) :
    ∃ obj, PyJson.loads cfg.room c.payload = .ok (.dict obj) ∧
      tick.get? "symbol" = some (.str (symbolOf obj c.fieldSym)) ∧
        tick.get? "instrument_id" = some (.str (symbolOf obj c.fieldSym)) := by
  unfold tickOf streamPayloadToTick at h
  cases hloads : PyJson.loads cfg.room c.payload with
  | error e => cases e <;> simp [hloads] at h
  | ok v =>
      cases v with
      | dict obj =>
          simp only [hloads] at h
          cases hfamily : streamFamily cfg.toPayloadConfig.keys c.streamName with
          | none => simp [hfamily] at h
          | some family =>
              simp only [hfamily] at h
              cases hconvert : converterOf cfg.toPayloadConfig family obj c.msgId c.fieldSym with
              | error e => simp [hconvert] at h
              | ok converted =>
                  simp only [hconvert, Except.ok.injEq] at h
                  subst h
                  refine ⟨obj, rfl, ?_⟩
                  exact get?_converterOf hconvert
      | none => simp [hloads] at h
      | bool b => simp [hloads] at h
      | int n => simp [hloads] at h
      | float f => simp [hloads] at h
      | str s => simp [hloads] at h
      | datetime d => simp [hloads] at h
      | scalar v => simp [hloads] at h
      | list vs => simp [hloads] at h

/-- The tick of a field that passes the filter is for the strategy when the field agrees. -/
theorem ofStrategy_iff {cfg : FeedConfig} {c : StreamCall} {tick : PyDict}
    (hmatch : matchesStrategy cfg c.fieldSym = true) (htick : tickOf cfg c = .ok (some tick)) :
    OfStrategy cfg tick ↔ FieldAgrees cfg c := by
  rcases symbol_of_tick htick with ⟨obj, hloads, hsymbol, hinstrument⟩
  have hnames : NamesStrategy cfg (symbolOf obj c.fieldSym) ↔
      NamesStrategy cfg ((payloadSymbol obj).getD c.fieldSym) := by
    rw [NamesStrategy, NamesStrategy, symbolOf_eq, strip_strip]
  constructor
  · rintro ⟨symbol, instrument, hs, -, hagrees, -⟩ - obj' hloads' -
    rw [hsymbol] at hs
    cases hs
    rw [hloads] at hloads'
    cases hloads'
    exact hnames.1 hagrees
  · intro hagrees
    have hsame := hnames.2 (hagrees hmatch obj hloads ⟨tick, htick⟩)
    exact ⟨_, _, hsymbol, hinstrument, hsame, hsame⟩

/-! ## What the loop leaves -/

section

variable {env : FeedEnv} {cfg : FeedConfig} {P : List FeedEvent → Prop}

/-- The events that are neither the start of a field nor a dispatched tick. -/
def FeedEvent.isPlumbing : FeedEvent → Bool
  | .entered _ => false
  | .onTick _ _ _ => false
  | _ => true

/-- What the processing of a field leaves, whatever its callback is. -/
def FieldAdds (env : FeedEnv) (cfg : FeedConfig) (P : List FeedEvent → Prop) : Prop :=
  ∀ (β : Type) (c : StreamCall) (callback : Feed β), Adds callback P →
    Adds (processOneStreamField env cfg c callback) P

theorem ackOne_adds (hP : Additive P) (hplumbing : ∀ ev : FeedEvent, ev.isPlumbing → P [ev])
    (stream msgId fieldSym : String) (pending : List String) :
    Adds (ackOne env stream msgId fieldSym pending) P := by
  unfold ackOne
  split
  · split
    · exact hP.bind (Additive.attempt fun _ => hplumbing _ rfl) fun _ => hP.pure _
    · exact hP.pure _
  · exact hP.pure _

theorem processFields_adds (hP : Additive P) (hplumbing : ∀ ev : FeedEvent, ev.isPlumbing → P [ev])
    (hfield : FieldAdds env cfg P) (stream msgId : String) (fields : List (String × String))
    (pending : List String) : Adds (processFields env cfg stream msgId pending fields) P := by
  induction fields generalizing pending with
  | nil => exact hP.pure pending
  | cons f fields ih =>
      exact hP.bind (hfield _ _ _ (ackOne_adds hP hplumbing _ _ _ _)) ih

theorem handleGroupMessage_adds (hP : Additive P)
    (hplumbing : ∀ ev : FeedEvent, ev.isPlumbing → P [ev]) (hfield : FieldAdds env cfg P)
    (m : StreamMessage) : Adds (handleGroupMessage env cfg m) P := by
  have hack : ∀ stream msgId, Adds (xack env stream msgId) P :=
    fun stream msgId => Additive.attempt fun _ => hplumbing _ rfl
  unfold handleGroupMessage
  split
  · exact hack _ _
  · exact hack _ _
  · refine hP.bind (processFields_adds hP hplumbing hfield _ _ _ _) fun pending => ?_
    split
    · exact hP.pure ()
    · exact hack _ _

theorem handleXreadReply_adds (hP : Additive P) (hfield : FieldAdds env cfg P)
    (resp : Reply String String) (positions : Positions) :
    Adds (handleXreadReply env cfg resp positions) P := by
  have hmessage : ∀ m, Adds (handleXreadMessage env cfg m) P := by
    intro m
    unfold handleXreadMessage
    split
    · exact hP.pure ()
    · exact hP.forEach (fun c => hfield _ c _ (hP.pure ())) _
  induction resp generalizing positions with
  | nil => exact hP.pure positions
  | cons p resp ih =>
      exact hP.bind (hP.forEach (fun m => hmessage (p.1, m)) p.2) fun _ => ih _

theorem closeClient_adds (hP : Additive P) (hplumbing : ∀ ev : FeedEvent, ev.isPlumbing → P [ev]) :
    Adds (closeClient env) P := by
  refine hP.catchWith (Additive.attempt fun _ => hplumbing _ rfl) fun e => ?_
  split
  · exact hP.pure ()
  · exact hP.raise e

theorem ensureConsumerGroups_adds (hP : Additive P)
    (hplumbing : ∀ ev : FeedEvent, ev.isPlumbing → P [ev]) :
    Adds (ensureConsumerGroups env cfg) P := by
  refine hP.forEach (fun stream => ?_) _
  refine hP.catchWith (Additive.attempt fun _ => hplumbing _ rfl) fun e => ?_
  split
  · exact hP.pure ()
  · exact hP.raise e

theorem isStopped_adds (hP : Additive P) (hplumbing : ∀ ev : FeedEvent, ev.isPlumbing → P [ev]) :
    Adds (isStopped env) P := by
  refine hP.bind (hP.ask _) fun stopped => ?_
  exact hP.bind (Additive.emit (hplumbing _ rfl)) fun _ => hP.pure _

theorem reconnect_adds (hP : Additive P) (hplumbing : ∀ ev : FeedEvent, ev.isPlumbing → P [ev])
    (st : LoopState) : Adds (reconnect env cfg st) P := by
  have hbackoff : Adds (backoff env st.reconnectAttempt) P := by
    refine hP.bind (hP.ask _) fun stopped => ?_
    exact hP.bind (Additive.emit (hplumbing _ rfl)) fun _ => hP.pure _
  refine hP.bind hbackoff fun stopped => ?_
  split
  · exact hP.pure none
  · refine hP.bind (closeClient_adds hP hplumbing) fun _ => ?_
    refine hP.bind (Additive.emit (hplumbing _ rfl)) fun _ => ?_
    split
    · exact hP.bind (ensureConsumerGroups_adds hP hplumbing) fun _ => hP.pure _
    · exact hP.pure _

theorem loopRound_adds (hP : Additive P) (hplumbing : ∀ ev : FeedEvent, ev.isPlumbing → P [ev])
    (hfield : FieldAdds env cfg P) (st : LoopState) : Adds (loopRound env cfg st) P := by
  have hread : ∀ positions, Adds (readReply env positions) P := by
    intro positions
    refine hP.bind (hP.ask _) fun outcome => ?_
    cases outcome with
    | ok resp => exact hP.bind (Additive.emit (hplumbing _ rfl)) fun _ => hP.pure _
    | error e =>
        refine hP.bind (Additive.emit (hplumbing _ rfl)) fun _ => ?_
        split
        · exact hP.pure none
        · exact hP.raise e
  have hreply : ∀ resp st, Adds (handleReply env cfg resp st) P := by
    intro resp st
    unfold handleReply
    split
    · refine hP.bind (hP.forEach (fun p => ?_) resp) fun _ => hP.pure _
      exact hP.forEach (handleGroupMessage_adds hP hplumbing hfield) _
    · exact hP.bind (handleXreadReply_adds hP hfield resp _) fun _ => hP.pure _
  refine hP.bind (isStopped_adds hP hplumbing) fun stopped => ?_
  split
  · exact hP.pure none
  · refine hP.bind (hread _) fun resp => ?_
    cases resp with
    | none => exact reconnect_adds hP hplumbing st
    | some resp => exact hP.bind (hreply resp st) fun _ => hP.pure _

theorem whenLeft_adds (hP : Additive P) (hplumbing : ∀ ev : FeedEvent, ev.isPlumbing → P [ev])
    {m : Feed (Option LoopState)} (hm : Adds m P) : Adds (whenLeft env m) P := by
  have hclose : Adds (do closeClient env; return none : Feed (Option LoopState)) P :=
    hP.bind (closeClient_adds hP hplumbing) fun _ => hP.pure none
  intro log
  rcases hm log with ⟨r, new, heq, hnew⟩
  rcases hclose (log ++ new) with ⟨r', new', heq', hnew'⟩
  have happend : P (new ++ new') := hP.append hnew hnew'
  cases r with
  | ok state =>
      cases state with
      | some st => exact ⟨.ok (some st), new, by simp only [whenLeft, heq], hnew⟩
      | none =>
          exact ⟨r', new ++ new', by simp only [whenLeft, heq, ensuring, heq', List.append_assoc],
            happend⟩
  | error e =>
      cases r' with
      | ok state =>
          exact ⟨.error e, new ++ new',
            by simp only [whenLeft, heq, ensuring, heq', List.append_assoc], happend⟩
      | error e' =>
          exact ⟨.error e', new ++ new',
            by simp only [whenLeft, heq, ensuring, heq', List.append_assoc], happend⟩

/-- What the processing of a field leaves and every other event has, the whole loop leaves. -/
theorem runMarketDataRedisLoop_adds (hP : Additive P)
    (hplumbing : ∀ ev : FeedEvent, ev.isPlumbing → P [ev]) (hfield : FieldAdds env cfg P)
    (n : Nat) : Adds (runMarketDataRedisLoop env cfg n) P := by
  unfold runMarketDataRedisLoop
  split
  · exact hP.pure none
  split
  · exact hP.raise _
  refine whenLeft_adds hP hplumbing (hP.bind ?_ fun st => ?_)
  · refine hP.bind (Additive.emit (hplumbing _ rfl)) fun _ => ?_
    split
    · exact hP.bind (ensureConsumerGroups_adds hP hplumbing) fun _ => hP.pure _
    · exact hP.pure _
  · exact hP.rounds (loopRound_adds hP hplumbing hfield) n st

end

/-! ## Ticks and fields of a run -/

/-- All dispatched ticks are for the strategy. -/
def TicksOfStrategy (cfg : FeedConfig) (events : List FeedEvent) : Prop :=
  ∀ c tick raised, .onTick c tick raised ∈ events → OfStrategy cfg tick

/-- All fields that are processed agree with the strategy. -/
def FieldsAgree (cfg : FeedConfig) (events : List FeedEvent) : Prop :=
  ∀ c, .entered c ∈ events → FieldAgrees cfg c

/-- The ticks are for the strategy when the fields agree with it. -/
def SymbolsTracked (cfg : FeedConfig) (events : List FeedEvent) : Prop :=
  TicksOfStrategy cfg events ↔ FieldsAgree cfg events

theorem ticksOfStrategy_append {cfg : FeedConfig} {new new' : List FeedEvent} :
    TicksOfStrategy cfg (new ++ new') ↔ TicksOfStrategy cfg new ∧ TicksOfStrategy cfg new' := by
  simp only [TicksOfStrategy, List.mem_append]
  constructor
  · exact fun h => ⟨fun c tick raised hmem => h c tick raised (.inl hmem),
      fun c tick raised hmem => h c tick raised (.inr hmem)⟩
  · exact fun h c tick raised hmem => hmem.elim (h.1 c tick raised) (h.2 c tick raised)

theorem fieldsAgree_append {cfg : FeedConfig} {new new' : List FeedEvent} :
    FieldsAgree cfg (new ++ new') ↔ FieldsAgree cfg new ∧ FieldsAgree cfg new' := by
  simp only [FieldsAgree, List.mem_append]
  constructor
  · exact fun h => ⟨fun c hmem => h c (.inl hmem), fun c hmem => h c (.inr hmem)⟩
  · exact fun h c hmem => hmem.elim (h.1 c) (h.2 c)

theorem symbolsTracked_additive (cfg : FeedConfig) : Additive (SymbolsTracked cfg) where
  nil := by simp [SymbolsTracked, TicksOfStrategy, FieldsAgree]
  append := by
    intro new new' h h'
    rw [SymbolsTracked, ticksOfStrategy_append, fieldsAgree_append]
    exact and_congr h h'

theorem symbolsTracked_plumbing (cfg : FeedConfig) (ev : FeedEvent) (h : ev.isPlumbing) :
    SymbolsTracked cfg [ev] := by
  cases ev <;> simp_all [SymbolsTracked, TicksOfStrategy, FieldsAgree, FeedEvent.isPlumbing]

theorem symbolsTracked_entered {cfg : FeedConfig} {c : StreamCall} (h : FieldAgrees cfg c) :
    SymbolsTracked cfg [.entered c] := by
  simp [SymbolsTracked, TicksOfStrategy, FieldsAgree, h]

theorem symbolsTracked_onTick {cfg : FeedConfig} {c : StreamCall} {tick : PyDict}
    (h : OfStrategy cfg tick) (raised : Option FeedError) :
    SymbolsTracked cfg [.onTick c tick raised] := by
  have hticks : TicksOfStrategy cfg [.onTick c tick raised] := by
    intro c' tick' raised' hmem
    cases List.mem_singleton.1 hmem
    exact h
  exact iff_of_true hticks fun c' hmem => by cases List.mem_singleton.1 hmem

section

variable {env : FeedEnv} {cfg : FeedConfig}

/-- A field that agrees is processed piece by piece. -/
theorem processOneStreamField_of_agrees {β : Type} {c : StreamCall} {callback : Feed β}
    (hagrees : FieldAgrees cfg c) (hcallback : Adds callback (SymbolsTracked cfg)) :
    Adds (processOneStreamField env cfg c callback) (SymbolsTracked cfg) := by
  have hP := symbolsTracked_additive cfg
  have hplumbing := symbolsTracked_plumbing cfg
  have hclose (m : Feed β) (hm : Adds m (SymbolsTracked cfg)) :
      Adds (do let b ← m; emit (.left c); return b) (SymbolsTracked cfg) :=
    hP.bind hm fun b => hP.bind (Additive.emit (hplumbing _ rfl)) fun _ => hP.pure b
  refine hP.bind (Additive.emit (symbolsTracked_entered hagrees)) fun _ => ?_
  split
  · exact hP.raise _
  · split
    · exact hP.raise _
    · exact hP.bind (Additive.emit (hplumbing _ rfl)) fun _ => hclose _ hcallback
  · rename_i tick htick
    split
    · rename_i hmatch
      have hdispatch : Adds (dispatch env c tick) (SymbolsTracked cfg) := by
        have hstrategy := (ofStrategy_iff hmatch htick).2 hagrees
        refine hP.catchWith (Additive.attempt (symbolsTracked_onTick hstrategy)) fun e => ?_
        split
        · exact Additive.emit (hplumbing _ rfl)
        · exact hP.raise e
      refine hP.bind (Additive.emit (hplumbing _ rfl)) fun _ => ?_
      refine hP.bind (Additive.emit (hplumbing _ rfl)) fun _ => ?_
      exact hclose _ (hP.ensuring hdispatch hcallback)
    · exact hclose _ hcallback

theorem dispatch_logs (env : FeedEnv) (c : StreamCall) (tick : PyDict) :
    Yields (dispatch env c tick) fun _ new => ∃ raised, .onTick c tick raised ∈ new := by
  refine (Yields.attempt env.onTick (.onTick c tick)).catchWith (fun _ new h => ?_)
    fun e new h => ?_
  · rcases h with ⟨log, rfl, -⟩
    exact ⟨_, List.mem_singleton_self _⟩
  · rcases h with ⟨log, rfl, -⟩
    split
    · exact (Yields.emit _).mono fun _ _ _ => ⟨_, List.mem_append_left _ (List.mem_singleton_self _)⟩
    · exact (Yields.raise e).mono fun _ _ _ =>
        ⟨_, List.mem_append_left _ (List.mem_singleton_self _)⟩

/-- A field that does not agree is dispatched with a tick that is not for the strategy. -/
theorem processOneStreamField_of_not_agrees {β : Type} {c : StreamCall} {callback : Feed β}
    (hagrees : ¬ FieldAgrees cfg c) (hcallback : Adds callback (SymbolsTracked cfg)) :
    Yields (processOneStreamField env cfg c callback) fun _ new =>
      .entered c ∈ new ∧ ∃ tick raised, .onTick c tick raised ∈ new ∧ ¬ OfStrategy cfg tick := by
  have hpasses : matchesStrategy cfg c.fieldSym = true ∧ ∃ tick, tickOf cfg c = .ok (some tick) := by
    unfold FieldAgrees at hagrees
    push Not at hagrees
    rcases hagrees with ⟨hmatch, obj, -, htick, -⟩
    exact ⟨hmatch, htick⟩
  rcases hpasses with ⟨hmatch, tick, htick⟩
  have hstrategy : ¬ OfStrategy cfg tick := fun h => hagrees ((ofStrategy_iff hmatch htick).1 h)
  have hdispatched : Yields (do
      let b ← ensuring (dispatch env c tick) callback
      emit (.left c)
      return b) fun _ new => ∃ raised, .onTick c tick raised ∈ new := by
    have hensured : Yields (ensuring (dispatch env c tick) callback) fun _ new =>
        ∃ raised, .onTick c tick raised ∈ new := by
      have hmem : ∀ new new' : List FeedEvent, (∃ raised, .onTick c tick raised ∈ new) →
          ∃ raised, .onTick c tick raised ∈ new ++ new' :=
        fun new new' ⟨raised, h⟩ => ⟨raised, List.mem_append_left _ h⟩
      exact (dispatch_logs env c tick).ensuring hcallback (fun _ _ _ _ h _ => hmem _ _ h)
        (fun _ _ _ _ h _ => hmem _ _ h) fun _ _ _ _ h _ => hmem _ _ h
    refine hensured.bind (fun b new h => ?_) fun _ _ h => h
    rcases h with ⟨raised, hraised⟩
    refine Yields.after_emit ((Yields.pure b).mono fun _ _ _ => ?_)
    exact ⟨raised, List.mem_append_left _ hraised⟩
  unfold processOneStreamField
  unfold tickOf at htick
  simp only [htick, hmatch, if_true]
  refine Yields.after_emit (Yields.after_emit (Yields.after_emit (hdispatched.mono ?_)))
  rintro r new ⟨raised, hraised⟩
  exact ⟨List.mem_cons_self, tick, raised, by simp [hraised], hstrategy⟩

theorem processOneStreamField_tracked : FieldAdds env cfg (SymbolsTracked cfg) := by
  intro β c callback hcallback
  by_cases hagrees : FieldAgrees cfg c
  · exact processOneStreamField_of_agrees hagrees hcallback
  · refine (processOneStreamField_of_not_agrees hagrees hcallback).mono fun r new h => ?_
    rcases h with ⟨hentered, tick, raised, hmem, hstrategy⟩
    exact iff_of_false (fun hall => hstrategy (hall c tick raised hmem))
      fun hall => hagrees (hall c hentered)

/--
For every strategy symbol, every environment (replies with any streams, fields
and payloads, failing calls, strategies that raise) and every number of rounds:
all ticks that a run dispatches are for the symbol of the strategy exactly when
all fields that it processes agree with it.
-/
theorem only_strategy_symbol_iff (env : FeedEnv) (cfg : FeedConfig) (n : Nat) :
    TicksOfStrategy cfg (runMarketDataRedisLoop env cfg n []).2 ↔
      FieldsAgree cfg (runMarketDataRedisLoop env cfg n []).2 := by
  rcases runMarketDataRedisLoop_adds (symbolsTracked_additive cfg) (symbolsTracked_plumbing cfg)
    (@processOneStreamField_tracked env cfg) n [] with ⟨r, new, heq, htracked⟩
  rw [heq]
  exact htracked

end

/-! ## Another symbol in the payload -/

/-- The feed of a strategy on one symbol. -/
def appleConfig : FeedConfig :=
  { groupConfig with strategySymbol := "AAPL", useConsumerGroup := false }

/-- Each reply holds one field that is named after the symbol, with a trade of another one. -/
def foreignTradeEnv : FeedEnv :=
  { quietEnv with
    read := fun _ => .ok [("md:stream:trades:0", [⟨"1-0", some [("AAPL",
      "\x7b\"time_utc\": \"2024-01-01T00:00:00Z\", \"symbol\": \"MSFT\", \"price\": 1\x7d")]⟩])] }

/-- The event is the dispatch of a tick whose symbol is not the strategy's. -/
def FeedEvent.isForeignTick (cfg : FeedConfig) : FeedEvent → Bool
  | .onTick _ tick _ =>
      match tick.get? "symbol" with
      | some (.str symbol) => cfg.upper (strip symbol) ≠ cfg.upper (strip cfg.strategySymbol)
      | _ => true
  | _ => false

theorem not_ofStrategy_of_foreign {cfg : FeedConfig} {c : StreamCall} {tick : PyDict}
    {raised : Option FeedError} (h : (FeedEvent.onTick c tick raised).isForeignTick cfg = true) :
    ¬ OfStrategy cfg tick := by
  rintro ⟨symbol, instrument, hsymbol, -, hnames, -⟩
  simp only [FeedEvent.isForeignTick, hsymbol, decide_eq_true_eq] at h
  exact h hnames

/-- A trade of another symbol is dispatched when its field is named after the strategy's. -/
theorem foreign_trade_is_dispatched :
    ¬ TicksOfStrategy appleConfig (runMarketDataRedisLoop foreignTradeEnv appleConfig 1 []).2 := by
  intro h
  have hforeign : (runMarketDataRedisLoop foreignTradeEnv appleConfig 1 []).2.any
      (FeedEvent.isForeignTick appleConfig) = true := by
    decide +kernel
  rcases List.any_eq_true.1 hforeign with ⟨ev, hmem, hev⟩
  cases ev with
  | onTick c tick raised => exact not_ofStrategy_of_foreign hev (h c tick raised hmem)
  | _ => cases hev

end MarketData
end StrategyWorker
