import StrategyWorker.Bootstrap.AccountSnapshot
import StrategyWorker.Domain.RuntimeState
import StrategyWorker.Library.PyJson

/-!
# The portfolio feed

{lit}`run_portfolio_update_pubsub_loop` polls a Pub/Sub channel and hands each
message for the job of the worker to the lifecycle service, which updates the
snapshot of the account.  Connection errors lead to a new subscription; any
other exception leaves the loop, and the thread of the feed with it.

A turn is what the world answers in one round of the loop, and a run is a list
of turns.

Main results:

- Theorem {lit}`running_or_returned`: a run that goes on or returns on a stop
  has raised nothing.
- Theorem {lit}`correctTurn_iff`: when a round treats its message as it should.
- Theorem {lit}`portfolio_feed_correct_iff`: a run treats all its messages as it
  should exactly when none of them is harmful where it arrives.
-/

namespace StrategyWorker
namespace Integration

open Library
open Library.PyText
open Library.PyJson
open Domain
open Bootstrap

/-! ## Messages -/

/-- A sequence that has begun: its value so far, the bytes that are missing, and the range of the
next one. -/
structure Utf8Pending where
  value : Nat
  missing : Nat
  low : Nat
  high : Nat

/-- The sequence that a byte begins. -/
def utf8Lead (b : Nat) : Option Utf8Pending :=
  if 0xc2 ≤ b ∧ b ≤ 0xdf then some ⟨b - 0xc0, 1, 0x80, 0xbf⟩
  else if b = 0xe0 then some ⟨0, 2, 0xa0, 0xbf⟩
  else if b = 0xed then some ⟨0xd, 2, 0x80, 0x9f⟩
  else if 0xe1 ≤ b ∧ b ≤ 0xef then some ⟨b - 0xe0, 2, 0x80, 0xbf⟩
  else if b = 0xf0 then some ⟨0, 3, 0x90, 0xbf⟩
  else if 0xf1 ≤ b ∧ b ≤ 0xf3 then some ⟨b - 0xf0, 3, 0x80, 0xbf⟩
  else if b = 0xf4 then some ⟨4, 3, 0x80, 0x8f⟩
  else none

/-- A byte where a character begins: what is emitted, and the sequence that has begun. -/
def utf8Start (b : Nat) : List Char × Option Utf8Pending :=
  if b < 0x80 then ([Char.ofNat b], none)
  else
    match utf8Lead b with
    | some pending => ([], some pending)
    | none => ([Char.ofNat 0xfffd], none)

/-- {lit}`raw.decode("utf-8", errors="replace")`: each sequence that is cut short, and each byte
that begins none, is replaced. -/
def utf8Replace : Option Utf8Pending → List UInt8 → List Char
  | none, [] => []
  | some _, [] => [Char.ofNat 0xfffd]
  | none, b :: bs =>
      let (emitted, pending) := utf8Start b.toNat
      emitted ++ utf8Replace pending bs
  | some p, b :: bs =>
      if p.low ≤ b.toNat ∧ b.toNat ≤ p.high then
        let value := p.value * 64 + (b.toNat - 0x80)
        if p.missing = 1 then Char.ofNat value :: utf8Replace none bs
        else utf8Replace (some ⟨value, p.missing - 1, 0x80, 0xbf⟩) bs
      else
        let (emitted, pending) := utf8Start b.toNat
        Char.ofNat 0xfffd :: emitted ++ utf8Replace pending bs

/-- The data of a message. -/
inductive MessageData where
  | none
  | bytes (raw : List UInt8)
  | text (raw : String)

/-- The text of a message, without the blanks around it. -/
def MessageData.stripped : MessageData → String
  | .none => ""
  | .bytes raw => strip (String.ofList (utf8Replace Option.none raw))
  | .text raw => strip raw

/-- {lit}`parse_portfolio_balance_message`, with the nesting that the interpreter allows. -/
def parsePortfolioBalanceMessage (room : Nat) (raw : MessageData) :
    Except LoadsError (Option PyDict) :=
  if raw.stripped = "" then .ok none
  else
    match loads room raw.stripped with
    | .error .jsonDecodeError => .ok none
    | .error e => .error e
    | .ok (.dict parsed) => .ok (some parsed)
    | .ok _ => .ok none

/-! ## The callback -/

/-- What the callback finds of the worker. -/
structure WorkerView where
  shutdownInProgress : Bool
  phase : WorkerPhase
  /-- The strategy adapter is there. -/
  adapter : Bool
  /-- Its bridge is there. -/
  bridge : Bool

variable {Others : Type}

/-- {lit}`LifecycleService._apply_portfolio_balance_update`. -/
def applyPortfolioBalanceUpdate (worker : WorkerView) (snapshot : PortfolioSnapshot Others)
    (msg : PyDict) (now : PyDateTime) : Except PyError (PortfolioSnapshot Others) :=
  if worker.shutdownInProgress then .ok snapshot
  else if worker.phase ≠ .ready ∧ worker.phase ≠ .running then .ok snapshot
  else if ¬ worker.adapter then .ok snapshot
  else if ¬ worker.bridge then .ok snapshot
  else
    match applyPlsBalanceUpdate snapshot msg now with
    | .error e => .error e
    | .ok (updated, _) => .ok updated

/-! ## The loop -/

/-- What the feed is started with. -/
structure PortfolioFeedConfig where
  expectedJobId : String
  /-- The worker starts the feed for a job only. -/
  job_ne : strip expectedJobId ≠ ""
  /-- The nesting that the interpreter allows to {lit}`json.loads`. -/
  room : Nat
  /-- {lit}`str` of a list or a dictionary. -/
  containerText : PyVal → String

/-- What {lit}`pubsub.get_message` comes to. -/
inductive Received where
  /-- It raises {lit}`redis.ConnectionError`, {lit}`redis.TimeoutError` or {lit}`OSError`. -/
  | lost
  /-- The client decodes messages, and the bytes of this one are not UTF-8. -/
  | undecodable
  | nothing
  | message (type : String) (data : MessageData)

/-- What the world answers in one round of the loop. -/
structure Turn where
  /-- {lit}`should_stop.is_set()`. -/
  isSet : Bool
  /-- The connection holds while the channel is subscribed, which is tried without a client. -/
  subscribes : Bool
  received : Received
  worker : WorkerView
  now : PyDateTime
  /-- {lit}`should_stop.wait(…)` of the backoff. -/
  waited : Bool

/-- The client, and the snapshot of the account. -/
structure FeedState (Others : Type) where
  connected : Bool
  snapshot : PortfolioSnapshot Others

/-- What leaves the loop. -/
inductive PortfolioFeedError where
  | undecodable
  | json (e : LoadsError)
  | conversion (e : PyError)

inductive FeedOutcome (Others : Type) where
  | running (st : FeedState Others)
  | returned (snapshot : PortfolioSnapshot Others)
  | raised (e : PortfolioFeedError) (snapshot : PortfolioSnapshot Others)

/-- {lit}`str(parsed.get("job_id") or "").strip()`. -/
def jobIdOf (cfg : PortfolioFeedConfig) (parsed : PyDict) : String :=
  match (parsed.get "job_id").orElse (.str "") with
  | .list vs => strip (cfg.containerText (.list vs))
  | .dict fields => strip (cfg.containerText (.dict fields))
  | raw => strip raw.text

/-- The handler of connection errors: the client is closed after the backoff. -/
def reconnect (st : FeedState Others) (t : Turn) : FeedOutcome Others :=
  if t.waited then .returned st.snapshot else .running { st with connected := false }

/-- A message of the channel. -/
def handleMessage (cfg : PortfolioFeedConfig) (st : FeedState Others) (t : Turn) (type : String)
    (data : MessageData) : FeedOutcome Others :=
  if type ≠ "message" then .running st
  else
    match parsePortfolioBalanceMessage cfg.room data with
    | .error e => .raised (.json e) st.snapshot
    | .ok none => .running st
    | .ok (some parsed) =>
        if jobIdOf cfg parsed ≠ strip cfg.expectedJobId then .running st
        else
          match applyPortfolioBalanceUpdate t.worker st.snapshot parsed t.now with
          | .error e => .raised (.conversion e) st.snapshot
          | .ok snapshot => .running { st with snapshot := snapshot }

/-- {lit}`pubsub.get_message(timeout=1.0)`, and what follows it. -/
def poll (cfg : PortfolioFeedConfig) (st : FeedState Others) (t : Turn) : FeedOutcome Others :=
  match t.received with
  | .lost => reconnect st t
  | .undecodable => .raised .undecodable st.snapshot
  | .nothing => .running st
  | .message type data => handleMessage cfg st t type data

/-- One round of the loop. -/
def turn (cfg : PortfolioFeedConfig) (st : FeedState Others) (t : Turn) : FeedOutcome Others :=
  if t.isSet then .returned st.snapshot
  else if st.connected then poll cfg st t
  else if t.subscribes then poll cfg { st with connected := true } t
  else reconnect st t

/-- The rounds of the loop. -/
def turns (cfg : PortfolioFeedConfig) : FeedState Others → List Turn → FeedOutcome Others
  | st, [] => .running st
  | st, t :: ts =>
      match turn cfg st t with
      | .running st => turns cfg st ts
      | outcome => outcome

/-- {lit}`run_portfolio_update_pubsub_loop`. -/
def runPortfolioUpdatePubsubLoop (cfg : PortfolioFeedConfig) (snapshot : PortfolioSnapshot Others)
    (ts : List Turn) : FeedOutcome Others :=
  if strip cfg.expectedJobId = "" then .returned snapshot
  else turns cfg ⟨false, snapshot⟩ ts

/-! ## What a message should do -/

/-- The amounts of a message, when all of them are there and numbers. -/
def balanceOf (msg : PyDict) : Option Amounts :=
  match msg.get "balance" with
  | .dict balance => amountsOf numberOfField balance
  | _ => none

/-- The amounts of a message for the job. -/
def amountsFor (cfg : PortfolioFeedConfig) (msg : PyDict) : Option Amounts :=
  if jobIdOf cfg msg = strip cfg.expectedJobId then balanceOf msg else none

/-- The amounts and the time of a snapshot are replaced, and nothing else is. -/
structure Updated (a : Amounts) (ts : PyDateTime) (before after : PortfolioSnapshot Others) :
    Prop where
  time : after.tsEvent = ts
  cash : after.cashBalance.free = a.cash
  buyingPower : after.cashBalance.buyingPower = some a.buyingPower
  equity : after.cashBalance.equity = some a.equity
  currency : after.cashBalance.currency = before.cashBalance.currency
  locked : after.cashBalance.locked = before.cashBalance.locked
  accountId : after.accountId = before.accountId
  runId : after.runId = before.runId
  others : after.others = before.others

/-- What a message should do to the snapshot: nothing, unless it is for the job and all its amounts
are numbers; with a time of its own it replaces amounts and time. -/
def Treats (cfg : PortfolioFeedConfig) (msg : PyDict) (before after : PortfolioSnapshot Others) :
    Prop :=
  match amountsFor cfg msg with
  | none => after = before
  | some a => ∀ ts, parsePlsTimestamp (msg.get "timestamp") = some ts → Updated a ts before after

/-- The message that a poll yields. -/
def receivedMessage (cfg : PortfolioFeedConfig) (t : Turn) : Option PyDict :=
  match t.received with
  | .message type data =>
      if type = "message" then (parsePortfolioBalanceMessage cfg.room data).toOption.join else none
  | _ => none

/-- The message that a round gets. -/
def messageOf (cfg : PortfolioFeedConfig) (st : FeedState Others) (t : Turn) : Option PyDict :=
  if st.connected || t.subscribes then receivedMessage cfg t else none

/-- The outcome of a round is as it should be: nothing was raised, the loop returns on a stop only,
and the message of the round was treated as it should. -/
def CorrectOutcome (cfg : PortfolioFeedConfig) (t : Turn) (received : Option PyDict)
    (before : PortfolioSnapshot Others) : FeedOutcome Others → Prop
  | .running st =>
      match received with
      | some msg => Treats cfg msg before st.snapshot
      | none => st.snapshot = before
  | .returned snapshot => (t.isSet = true ∨ t.waited = true) ∧ snapshot = before
  | .raised _ _ => False

def CorrectTurn (cfg : PortfolioFeedConfig) (st : FeedState Others) (t : Turn) : Prop :=
  CorrectOutcome cfg t (messageOf cfg st t) st.snapshot (turn cfg st t)

/-- All rounds of a run are as they should be. -/
def CorrectTurns (cfg : PortfolioFeedConfig) : FeedState Others → List Turn → Prop
  | _, [] => True
  | st, t :: ts =>
      CorrectTurn cfg st t ∧ ∀ st', turn cfg st t = .running st' → CorrectTurns cfg st' ts

/-! ## Harmless messages -/

/-- The callback gets as far as the account. -/
def WorkerView.takesUpdates (worker : WorkerView) : Bool :=
  !worker.shutdownInProgress && (worker.phase = .ready || worker.phase = .running) &&
    worker.adapter && worker.bridge

/-- A message for the job is harmless.  A worker that takes updates can read its amounts, and all
of them are numbers, unless the snapshot already holds what is read; a worker that takes none
misses nothing. -/
def HarmlessMessage (worker : WorkerView) (snapshot : PortfolioSnapshot Others) (msg : PyDict)
    (now : PyDateTime) : Prop :=
  if worker.takesUpdates then
    ∀ balance, msg.get "balance" = .dict balance →
      (∀ key ∈ ["cash_balance", "buying_power", "equity"], Readable (PyDict.get balance key)) ∧
        (balanceOf msg = none →
          ∀ a, amountsOf (fun raw => (parseCashValue raw).toOption) balance = some a →
            snapshot.withAmounts a ((parsePlsTimestamp (msg.get "timestamp")).getD now) = snapshot)
  else
    ∀ a ts, balanceOf msg = some a → parsePlsTimestamp (msg.get "timestamp") = some ts →
      snapshot.withAmounts a ts = snapshot

/-- What a poll comes to is harmless: the bytes of a message are decoded, {lit}`json.loads` raises
nothing but {lit}`JSONDecodeError`, and a message for the job is harmless. -/
def HarmlessReceived (cfg : PortfolioFeedConfig) (snapshot : PortfolioSnapshot Others) (t : Turn) :
    Prop :=
  match t.received with
  | .lost | .nothing => True
  | .undecodable => False
  | .message type data =>
      type = "message" →
        (data.stripped ≠ "" →
          ∀ e, loads cfg.room data.stripped = .error e → e = .jsonDecodeError) ∧
        ∀ msg, parsePortfolioBalanceMessage cfg.room data = .ok (some msg) →
          jobIdOf cfg msg = strip cfg.expectedJobId →
          HarmlessMessage t.worker snapshot msg t.now

/-- A round that polls gets nothing harmful. -/
def HarmlessTurn (cfg : PortfolioFeedConfig) (st : FeedState Others) (t : Turn) : Prop :=
  t.isSet = false → (st.connected || t.subscribes) = true → HarmlessReceived cfg st.snapshot t

def HarmlessTurns (cfg : PortfolioFeedConfig) : FeedState Others → List Turn → Prop
  | _, [] => True
  | st, t :: ts =>
      HarmlessTurn cfg st t ∧ ∀ st', turn cfg st t = .running st' → HarmlessTurns cfg st' ts

/-! ## One message -/

theorem updated_iff {a : Amounts} {ts : PyDateTime} {before after : PortfolioSnapshot Others} :
    Updated a ts before after ↔ after = before.withAmounts a ts := by
  constructor
  · rintro ⟨htime, hcash, hbp, heq, hcurrency, hlocked, haccount, hrun, hothers⟩
    rcases after with ⟨accountId, runId, tsEvent, ⟨currency, free, locked, buyingPower, equity⟩,
      others⟩
    simp only at htime hcash hbp heq hcurrency hlocked haccount hrun hothers
    subst htime hcash hbp heq hcurrency hlocked haccount hrun hothers
    rfl
  · rintro rfl
    exact ⟨rfl, rfl, rfl, rfl, rfl, rfl, rfl, rfl, rfl⟩

variable {cfg : PortfolioFeedConfig} {worker : WorkerView} {snapshot : PortfolioSnapshot Others}
  {msg : PyDict} {now : PyDateTime}

theorem applyPortfolioBalanceUpdate_of_idle (h : worker.takesUpdates = false) :
    applyPortfolioBalanceUpdate worker snapshot msg now = .ok snapshot := by
  unfold applyPortfolioBalanceUpdate
  split
  · rfl
  split
  · rfl
  split
  · rfl
  split
  · rfl
  rename_i hshutdown hphase hadapter hbridge
  have htakes : worker.takesUpdates = true := by
    simp only [WorkerView.takesUpdates]
    simp_all
    tauto
  rw [htakes] at h
  cases h

theorem applyPortfolioBalanceUpdate_of_takes (h : worker.takesUpdates = true) :
    applyPortfolioBalanceUpdate worker snapshot msg now =
      (applyPlsBalanceUpdate snapshot msg now).map Prod.fst := by
  simp only [WorkerView.takesUpdates, Bool.and_eq_true, Bool.not_eq_true', Bool.or_eq_true,
    decide_eq_true_eq] at h
  rcases h with ⟨⟨⟨hshutdown, hphase⟩, hadapter⟩, hbridge⟩
  have hready : ¬ (worker.phase ≠ .ready ∧ worker.phase ≠ .running) := by tauto
  rw [applyPortfolioBalanceUpdate, if_neg (by simp [hshutdown]), if_neg hready,
    if_neg (by simp [hadapter]), if_neg (by simp [hbridge])]
  cases applyPlsBalanceUpdate snapshot msg now <;> rfl

theorem treats_of_no_amounts {before after : PortfolioSnapshot Others}
    (h : amountsFor cfg msg = none) : Treats cfg msg before after ↔ after = before := by
  simp only [Treats, h]

theorem treats_of_amounts {before after : PortfolioSnapshot Others} {a : Amounts}
    (h : amountsFor cfg msg = some a) : Treats cfg msg before after ↔
      ∀ ts, parsePlsTimestamp (msg.get "timestamp") = some ts → after = before.withAmounts a ts := by
  simp only [Treats, h, updated_iff]

/-- A worker that takes no updates treats a message as it should when it misses nothing. -/
theorem treats_idle_iff (hjob : jobIdOf cfg msg = strip cfg.expectedJobId) :
    Treats cfg msg snapshot snapshot ↔
      ∀ a ts, balanceOf msg = some a → parsePlsTimestamp (msg.get "timestamp") = some ts →
        snapshot.withAmounts a ts = snapshot := by
  have hamounts : amountsFor cfg msg = balanceOf msg := if_pos hjob
  cases hbalance : balanceOf msg with
  | none =>
      rw [treats_of_no_amounts (hamounts.trans hbalance)]
      exact iff_of_true rfl fun a ts ha => by cases ha
  | some a =>
      rw [treats_of_amounts (hamounts.trans hbalance)]
      constructor
      · rintro h a' ts ha hts
        cases ha
        exact (h ts hts).symm
      · exact fun h ts hts => (h a ts rfl hts).symm

/-- A worker that takes updates treats a balance as it should when it can read it, and all amounts
are numbers unless the snapshot already holds what is read. -/
theorem treats_balance_iff {balance : PyDict} (hjob : jobIdOf cfg msg = strip cfg.expectedJobId)
    (hbalance : msg.get "balance" = .dict balance) :
    (∃ r, applyPlsBalanceUpdate snapshot msg now = .ok r ∧ Treats cfg msg snapshot r.1) ↔
      (∀ key ∈ ["cash_balance", "buying_power", "equity"], Readable (PyDict.get balance key)) ∧
        (balanceOf msg = none →
          ∀ a, amountsOf (fun raw => (parseCashValue raw).toOption) balance = some a →
            snapshot.withAmounts a ((parsePlsTimestamp (msg.get "timestamp")).getD now) =
              snapshot) := by
  have hamounts : amountsFor cfg msg = balanceOf msg := if_pos hjob
  have hnumbers : balanceOf msg = amountsOf numberOfField balance := by
    simp only [balanceOf, hbalance]
  rw [← exists_amounts_iff]
  constructor
  · rintro ⟨r, happly, htreats⟩
    rcases (applyPlsBalanceUpdate_eq_ok_iff hbalance).1 happly with ⟨a, hread, rfl⟩
    refine ⟨⟨a, hread⟩, fun hnone a' hread' => ?_⟩
    rw [hread] at hread'
    cases hread'
    exact (treats_of_no_amounts (hamounts.trans hnone)).1 htreats
  · rintro ⟨⟨a, hread⟩, hsame⟩
    refine ⟨_, (applyPlsBalanceUpdate_eq_ok_iff hbalance).2 ⟨a, hread, rfl⟩, ?_⟩
    cases hnumeric : balanceOf msg with
    | none => exact (treats_of_no_amounts (hamounts.trans hnumeric)).2 (hsame hnumeric a hread)
    | some a' =>
        have hread' := amountsOf_of_numbers (hnumbers.symm.trans hnumeric)
        rw [hread] at hread'
        cases hread'
        refine (treats_of_amounts (hamounts.trans hnumeric)).2 fun ts hts => ?_
        rw [hts]
        rfl

/-- The callback treats a message for the job as it should when it is harmless. -/
theorem treats_iff (hjob : jobIdOf cfg msg = strip cfg.expectedJobId) :
    (∃ after, applyPortfolioBalanceUpdate worker snapshot msg now = .ok after ∧
        Treats cfg msg snapshot after) ↔ HarmlessMessage worker snapshot msg now := by
  unfold HarmlessMessage
  cases htakes : worker.takesUpdates with
  | false =>
      rw [if_neg (by simp), ← treats_idle_iff hjob, applyPortfolioBalanceUpdate_of_idle htakes]
      simp
  | true =>
      rw [if_pos rfl, applyPortfolioBalanceUpdate_of_takes htakes]
      have hmap : (∃ after, (applyPlsBalanceUpdate snapshot msg now).map Prod.fst = .ok after ∧
            Treats cfg msg snapshot after) ↔
          ∃ r, applyPlsBalanceUpdate snapshot msg now = .ok r ∧ Treats cfg msg snapshot r.1 := by
        cases applyPlsBalanceUpdate snapshot msg now <;> simp [Except.map]
      rw [hmap]
      by_cases hdict : ∃ balance, msg.get "balance" = .dict balance
      · rcases hdict with ⟨balance, hbalance⟩
        rw [treats_balance_iff hjob hbalance]
        constructor
        · intro h balance' hbalance'
          rw [hbalance] at hbalance'
          cases hbalance'
          exact h
        · exact fun h => h balance hbalance
      · have hother : ∀ balance, msg.get "balance" ≠ .dict balance :=
          fun balance hbalance => hdict ⟨balance, hbalance⟩
        have hnone : amountsFor cfg msg = none := by
          rw [amountsFor, if_pos hjob, balanceOf]
          split
          · rename_i balance hbalance
            exact absurd hbalance (hother balance)
          · rfl
        refine iff_of_true ⟨_, applyPlsBalanceUpdate_of_no_balance hother, ?_⟩ fun balance h =>
          absurd h (hother balance)
        exact (treats_of_no_amounts hnone).2 rfl

/-! ## One round -/

/-- A message is parsed when nothing but {lit}`JSONDecodeError` is raised. -/
theorem parsed_iff (room : Nat) (data : MessageData) :
    (∃ parsed, parsePortfolioBalanceMessage room data = .ok parsed) ↔
      (data.stripped ≠ "" → ∀ e, loads room data.stripped = .error e → e = .jsonDecodeError) := by
  unfold parsePortfolioBalanceMessage
  by_cases hblank : data.stripped = ""
  · simp [hblank]
  · rw [if_neg hblank]
    cases hloads : loads room data.stripped with
    | error e => cases e <;> simp [hblank]
    | ok v => cases v <;> simp

theorem correct_reconnect (st : FeedState Others) (t : Turn) :
    CorrectOutcome cfg t none st.snapshot (reconnect st t) := by
  unfold reconnect
  split
  · rename_i hwaited
    exact ⟨.inr hwaited, rfl⟩
  · exact rfl

/-- A message of the channel is handled as it should when it is harmless. -/
theorem correct_handleMessage_iff {st : FeedState Others} {t : Turn} {type : String}
    {data : MessageData} (hreceived : t.received = .message type data) :
    CorrectOutcome cfg t (receivedMessage cfg t) st.snapshot (handleMessage cfg st t type data) ↔
      HarmlessReceived cfg st.snapshot t := by
  simp only [receivedMessage, HarmlessReceived, hreceived, handleMessage]
  by_cases htype : type = "message"
  · rw [if_neg (not_not.2 htype), if_pos htype, ← parsed_iff]
    cases hparse : parsePortfolioBalanceMessage cfg.room data with
    | error e => simp [CorrectOutcome, htype]
    | ok parsed =>
        cases parsed with
        | none => simp [CorrectOutcome, Except.toOption]
        | some msg =>
            simp only [htype, Except.toOption, Option.join_some, forall_const,
              Except.ok.injEq, Option.some.injEq, exists_eq', true_and, forall_eq']
            by_cases hjob : jobIdOf cfg msg = strip cfg.expectedJobId
            · rw [if_neg (not_not.2 hjob), forall_prop_of_true hjob, ← treats_iff hjob]
              cases applyPortfolioBalanceUpdate t.worker st.snapshot msg t.now with
              | error e => simp [CorrectOutcome]
              | ok after => simp [CorrectOutcome]
            · have hnone : amountsFor cfg msg = none := if_neg hjob
              rw [if_pos hjob]
              refine iff_of_true ?_ fun h => absurd h hjob
              exact (treats_of_no_amounts hnone).2 rfl
  · simp [htype, CorrectOutcome]

/-- A poll comes out as it should when what it yields is harmless. -/
theorem correct_poll_iff (st : FeedState Others) (t : Turn) :
    CorrectOutcome cfg t (receivedMessage cfg t) st.snapshot (poll cfg st t) ↔
      HarmlessReceived cfg st.snapshot t := by
  unfold poll
  split
  · rename_i hreceived
    simp only [receivedMessage, HarmlessReceived, hreceived]
    exact iff_of_true (correct_reconnect st t) trivial
  · rename_i hreceived
    simp only [HarmlessReceived, hreceived]
    exact Iff.rfl
  · rename_i hreceived
    simp only [receivedMessage, HarmlessReceived, hreceived]
    exact iff_of_true rfl trivial
  · rename_i type data hreceived
    exact correct_handleMessage_iff hreceived

/-- A round is as it should be when it gets nothing harmful. -/
theorem correctTurn_iff (st : FeedState Others) (t : Turn) :
    CorrectTurn cfg st t ↔ HarmlessTurn cfg st t := by
  unfold CorrectTurn HarmlessTurn turn messageOf
  cases hset : t.isSet with
  | true =>
      rw [if_pos rfl]
      exact iff_of_true ⟨.inl hset, rfl⟩ fun h => by cases h
  | false =>
      simp only [Bool.false_eq_true, if_false, forall_const]
      cases hconnected : st.connected with
      | true =>
          simp only [Bool.true_or, if_true, forall_const]
          exact correct_poll_iff st t
      | false =>
          cases hsubscribes : t.subscribes with
          | true =>
              simp only [Bool.or_true, Bool.false_eq_true, if_false, if_true, forall_const]
              exact correct_poll_iff { st with connected := true } t
          | false =>
              simp only [Bool.or_false, Bool.false_eq_true, if_false, false_imp_iff]
              exact iff_of_true (correct_reconnect st t) trivial

/-! ## Runs -/

/-- A run of correct rounds raises nothing, and returns when a round reports the stop. -/
theorem running_or_returned {st : FeedState Others} {ts : List Turn} (h : CorrectTurns cfg st ts) :
    (∃ st', turns cfg st ts = .running st') ∨
      (∃ snapshot, turns cfg st ts = .returned snapshot) ∧
        ∃ t ∈ ts, t.isSet = true ∨ t.waited = true := by
  induction ts generalizing st with
  | nil => exact .inl ⟨st, rfl⟩
  | cons t ts ih =>
      have hturn := h.1
      unfold turns
      cases houtcome : turn cfg st t with
      | running st' =>
          rcases ih (h.2 st' houtcome) with hrunning | ⟨hreturned, t', ht', hstop⟩
          · exact .inl hrunning
          · exact .inr ⟨hreturned, t', List.mem_cons_of_mem t ht', hstop⟩
      | returned snapshot =>
          rw [CorrectTurn, houtcome] at hturn
          exact .inr ⟨⟨snapshot, rfl⟩, t, List.mem_cons_self, hturn.1⟩
      | raised e snapshot =>
          rw [CorrectTurn, houtcome] at hturn
          cases hturn

theorem correctTurns_iff (st : FeedState Others) (ts : List Turn) :
    CorrectTurns cfg st ts ↔ HarmlessTurns cfg st ts := by
  induction ts generalizing st with
  | nil => exact Iff.rfl
  | cons t ts ih =>
      exact and_congr (correctTurn_iff st t) (forall₂_congr fun st' _ => ih st')

/-- The feed does what it should: it raises nothing, returns on a stop only, and treats each message
that it gets as it should. -/
structure CorrectFeed (cfg : PortfolioFeedConfig) (snapshot : PortfolioSnapshot Others)
    (ts : List Turn) : Prop where
  survives : ∀ e last, runPortfolioUpdatePubsubLoop cfg snapshot ts ≠ .raised e last
  stops : ∀ last, runPortfolioUpdatePubsubLoop cfg snapshot ts = .returned last →
    ∃ t ∈ ts, t.isSet = true ∨ t.waited = true
  treats : CorrectTurns cfg ⟨false, snapshot⟩ ts

/--
For every job, every snapshot and every run (any messages, connection errors and
states of the worker in any order): the feed raises nothing, returns on a stop
only and treats each message as it should, exactly when no message is harmful
where it arrives.
-/
theorem portfolio_feed_correct_iff (cfg : PortfolioFeedConfig) (snapshot : PortfolioSnapshot Others)
    (ts : List Turn) :
    CorrectFeed cfg snapshot ts ↔ HarmlessTurns cfg ⟨false, snapshot⟩ ts := by
  rw [← correctTurns_iff]
  refine ⟨CorrectFeed.treats, fun h => ?_⟩
  have hrun : runPortfolioUpdatePubsubLoop cfg snapshot ts = turns cfg ⟨false, snapshot⟩ ts :=
    if_neg cfg.job_ne
  rcases running_or_returned h with ⟨st', hrunning⟩ | ⟨⟨last, hreturned⟩, hstop⟩
  · refine ⟨fun e last hraised => ?_, fun last hreturned => ?_, h⟩
    · rw [hrun, hrunning] at hraised
      cases hraised
    · rw [hrun, hrunning] at hreturned
      cases hreturned
  · refine ⟨fun e last' hraised => ?_, fun _ _ => hstop, h⟩
    rw [hrun, hreturned] at hraised
    cases hraised

/-! ## A cash balance that is no number -/

/-- The feed of a job. -/
def jobFeed : PortfolioFeedConfig where
  expectedJobId := "job-1"
  job_ne := by decide +kernel
  room := 100
  containerText := fun _ => "[]"

/-- A snapshot without positions. -/
def emptySnapshot : PortfolioSnapshot Unit where
  accountId := "acct-1"
  runId := "run-1"
  tsEvent := ⟨epochWall, some 0, PyDateTime.epochWall_range, PyDateTime.utc_offset_range⟩
  cashBalance := ⟨"USD", .finite 100, .finite 0, none, none⟩
  others := ()

/-- A running worker gets a balance message with a cash balance. -/
def balanceTurn (cash : String) : Turn where
  isSet := false
  subscribes := true
  received := .message "message" (.text
    ("\x7b\"job_id\": \"job-1\", \"timestamp\": \"2026-05-18T12:00:00Z\", \"balance\": " ++
      "\x7b\"cash_balance\": \"" ++ cash ++ "\", \"buying_power\": \"900\", \"equity\": \"1100\"\x7d\x7d"))
  worker := ⟨false, .running, true, true⟩
  now := ⟨epochWall, some 0, PyDateTime.epochWall_range, PyDateTime.utc_offset_range⟩
  waited := false

def FeedOutcome.hasRaised : FeedOutcome Others → Bool
  | .raised _ _ => true
  | _ => false

/-- A cash balance that is no number ends the feed. -/
theorem bad_cash_ends_feed : ¬ CorrectFeed jobFeed emptySnapshot [balanceTurn "n/a"] := by
  intro h
  have hraised : (runPortfolioUpdatePubsubLoop jobFeed emptySnapshot
      [balanceTurn "n/a"]).hasRaised = true := by
    decide +kernel
  cases hrun : runPortfolioUpdatePubsubLoop jobFeed emptySnapshot [balanceTurn "n/a"] with
  | raised e last => exact h.survives e last hrun
  | running st =>
      rw [hrun] at hraised
      cases hraised
  | returned last =>
      rw [hrun] at hraised
      cases hraised

end Integration
end StrategyWorker
