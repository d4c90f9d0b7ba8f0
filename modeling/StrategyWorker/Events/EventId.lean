import StrategyWorker.Events.EventFactory

/-!
# What an event id tells

An event id is read from its right end: digest, name and launch attempt hold no
colon, so the runtime id is what remains, up to the spaces that the envelope
strips from its start.  The digest tells the rest, as long as it does not
collide.

Main results:

- Theorem {lit}`eventId_inj`: the event id determines the runtime id as it was
  given, the launch attempt, the name and the identity key.
- Theorem {lit}`exists_create`: which signals the factory accepts.
- Theorem {lit}`CreatedEvent.eventId_eq_iff`: when created events have the same
  event id.
-/

namespace StrategyWorker
namespace Events

open Library
open PyText

/-! ## Reading from the right -/

/-- What precedes and what follows the last colon. -/
theorem append_colon_inj {xs ys zs ws : List Char} (hz : ':' ∉ zs) (hw : ':' ∉ ws)
    (h : xs ++ ':' :: zs = ys ++ ':' :: ws) : xs = ys ∧ zs = ws := by
  have hrev : zs.reverse ++ ':' :: xs.reverse = ws.reverse ++ ':' :: ys.reverse := by
    simpa using congrArg List.reverse h
  have hlength : zs.reverse.length = ws.reverse.length := by
    have htake := congrArg (List.takeWhile fun c => c ≠ ':') hrev
    have hall : ∀ {us vs : List Char}, ':' ∉ us →
        (us.reverse ++ ':' :: vs).takeWhile (fun c => c ≠ ':') = us.reverse := by
      intro us vs hus
      rw [List.takeWhile_append_of_pos]
      · simp
      · intro c hc
        have hne : c ≠ ':' := fun heq => hus (heq ▸ List.mem_reverse.1 hc)
        simpa using hne
    rw [hall hz, hall hw] at htake
    exact congrArg List.length htake
  rcases List.append_inj hrev hlength with ⟨hzs, hxs⟩
  exact ⟨List.reverse_injective (List.cons.inj hxs).2, List.reverse_injective hzs⟩

theorem toList_attempt {n : Int} (h : 1 ≤ n) :
    (toString n).toList = Nat.toDigits 10 n.toNat := by
  obtain ⟨k, rfl⟩ := Int.eq_ofNat_of_zero_le (by omega : 0 ≤ n)
  exact Nat.toList_repr

/-- A launch attempt is written in digits. -/
theorem colon_notMem_attempt {n : Int} (h : 1 ≤ n) : ':' ∉ (toString n).toList := by
  rw [toList_attempt h]
  intro hmem
  have hdigit := Nat.isDigit_of_mem_toDigits (by omega) (by omega) hmem
  revert hdigit
  decide

theorem attempt_inj {n m : Int} (hn : 1 ≤ n) (hm : 1 ≤ m)
    (h : (toString n).toList = (toString m).toList) : n = m := by
  rw [toList_attempt hn, toList_attempt hm] at h
  have hnat : n.toNat = m.toNat := by
    rw [← Nat.ofDigitChars_ten_toDigits (n := n.toNat), h, Nat.ofDigitChars_ten_toDigits]
  omega

/-- The digest holds hexadecimal digits. -/
theorem hex_of_mem_digest {text : String} {c : Char} (h : c ∈ (eventIdDigest text).toList) :
    c ∈ hexDigits := by
  rw [eventIdDigest, takeText, String.toList_ofList] at h
  exact Sha256.hexDigit_of_mem_hexdigest (List.mem_of_mem_take h)

theorem colon_notMem_digest (text : String) : ':' ∉ (eventIdDigest text).toList := by
  intro h
  have hhex := hex_of_mem_digest h
  revert hhex
  decide

/-! ## The strip of an event id -/

theorem getLast?_append_all {xs ys : List Char} (hne : ys ≠ []) (h : ∀ c ∈ ys, ¬ isSpace c) :
    (xs ++ ys).getLast?.all fun c => !isSpace c := by
  rw [List.getLast?_append]
  cases hlast : ys.getLast? with
  | none => exact absurd (List.getLast?_eq_none_iff.1 hlast) hne
  | some c => simpa using h c (List.mem_of_getLast? hlast)

/-- Spaces at the end are stripped only when the last character is one. -/
theorem stripRight_append {xs ys : List Char} (hne : ys ≠ []) (h : ∀ c ∈ ys, ¬ isSpace c) :
    stripRight (xs ++ ys) = xs ++ ys := by
  have hlast : (xs ++ ys).reverse.head?.all fun c => !isSpace c := by
    rw [List.head?_reverse]
    exact getLast?_append_all hne h
  rw [stripRight, dropWhile_eq_self hlast, List.reverse_reverse]

/-- A text that is not blank has a first character that is no space. -/
theorem dropWhile_ne_nil {text : String} (h : strip text ≠ "") :
    text.toList.dropWhile isSpace ≠ [] := by
  intro hnil
  apply h
  rw [strip, hnil]
  rfl

theorem dropWhile_append_of_ne_nil {xs : List Char} (h : xs.dropWhile isSpace ≠ [])
    (ys : List Char) : (xs ++ ys).dropWhile isSpace = xs.dropWhile isSpace ++ ys := by
  rw [List.dropWhile_append, if_neg (by simpa using h)]

theorem not_isSpace_of_hexDigit : ∀ c ∈ hexDigits, ¬ isSpace c := by
  decide

/-- An event id, cut at its last three colons. -/
theorem toList_eventId (runtimeId : String) (n : Int) (name key : String) :
    (eventId runtimeId n name key).toList =
      runtimeId.toList ++ ':' :: (toString n).toList ++ ':' :: name.toList ++
        ':' :: (eventIdDigest (eventIdText runtimeId n name key)).toList := by
  simp [eventId]

theorem toList_eventIdText (runtimeId : String) (n : Int) (name key : String) :
    (eventIdText runtimeId n name key).toList =
      runtimeId.toList ++ (':' :: (toString n).toList ++ ':' :: name.toList ++ ':' :: key.toList) := by
  simp [eventIdText]

/-- The envelope strips the start of the runtime id only. -/
theorem toList_strip_eventId {runtimeId : String} (h : strip runtimeId ≠ "") (n : Int)
    (name key : String) :
    (strip (eventId runtimeId n name key)).toList =
      runtimeId.toList.dropWhile isSpace ++ ':' :: (toString n).toList ++ ':' :: name.toList ++
        ':' :: (eventIdDigest (eventIdText runtimeId n name key)).toList := by
  have hne := dropWhile_ne_nil h
  have hlast : ∀ c ∈ ':' :: (eventIdDigest (eventIdText runtimeId n name key)).toList,
      ¬ isSpace c := by
    intro c hc
    rcases List.mem_cons.1 hc with rfl | hc
    · decide
    · exact not_isSpace_of_hexDigit c (hex_of_mem_digest hc)
  rw [strip, String.toList_ofList, toList_eventId]
  simp only [List.append_assoc]
  rw [dropWhile_append_of_ne_nil hne, ← List.append_assoc, ← List.append_assoc,
    stripRight_append (by simp) hlast]

/-! ## Injectivity -/

/-- Two texts whose digests do not collide. -/
def DigestsDiffer (s t : String) : Prop :=
  eventIdDigest s = eventIdDigest t → s = t

instance (s t : String) : Decidable (DigestsDiffer s t) :=
  inferInstanceAs (Decidable (_ → _))

/-- A text that follows the runtime id, with the same characters after its first spaces, tells
how many these are. -/
theorem append_inj_of_dropWhile {xs ys zs ws : List Char} (hx : xs.dropWhile isSpace ≠ [])
    (hdrop : xs.dropWhile isSpace = ys.dropWhile isSpace) (h : xs ++ zs = ys ++ ws) :
    xs = ys ∧ zs = ws := by
  have htake : xs.takeWhile isSpace = ys.takeWhile isSpace := by
    have hwhole := congrArg (List.takeWhile isSpace) h
    have hcut : ∀ {us : List Char} (vs : List Char), us.dropWhile isSpace ≠ [] →
        (us ++ vs).takeWhile isSpace = us.takeWhile isSpace := by
      intro us vs hus
      rw [List.takeWhile_append, if_neg]
      intro hlength
      have hsplit := congrArg List.length (List.takeWhile_append_dropWhile (p := isSpace) (l := us))
      rw [List.length_append] at hsplit
      exact hus (List.length_eq_zero_iff.1 (by omega))
    rwa [hcut zs hx, hcut ws (hdrop ▸ hx)] at hwhole
  have hxy : xs = ys := by
    rw [← List.takeWhile_append_dropWhile (p := isSpace) (l := xs), htake, hdrop,
      List.takeWhile_append_dropWhile]
  subst hxy
  exact ⟨rfl, List.append_cancel_left h⟩

/-- The event id determines the runtime id as it was given, the launch attempt, the name and the
identity key. -/
theorem eventId_inj {runtimeId runtimeId' name name' key key' : String} {n n' : Int}
    (hruntime : strip runtimeId ≠ "") (hruntime' : strip runtimeId' ≠ "") (hn : 1 ≤ n)
    (hn' : 1 ≤ n') (hname : ':' ∉ name.toList) (hname' : ':' ∉ name'.toList)
    (hdigest : DigestsDiffer (eventIdText runtimeId n name key)
      (eventIdText runtimeId' n' name' key'))
    (h : strip (eventId runtimeId n name key) = strip (eventId runtimeId' n' name' key')) :
    runtimeId = runtimeId' ∧ n = n' ∧ name = name' ∧ key = key' := by
  have hlist := congrArg String.toList h
  rw [toList_strip_eventId hruntime, toList_strip_eventId hruntime'] at hlist
  rcases append_colon_inj (colon_notMem_digest _) (colon_notMem_digest _) hlist with
    ⟨hlist, hdigests⟩
  rcases append_colon_inj hname hname' hlist with ⟨hlist, hnames⟩
  rcases append_colon_inj (colon_notMem_attempt hn) (colon_notMem_attempt hn') hlist with
    ⟨hdrop, hattempts⟩
  obtain rfl := attempt_inj hn hn' hattempts
  obtain rfl := String.toList_inj.1 hnames
  have htext := congrArg String.toList (hdigest (String.toList_inj.1 hdigests))
  rw [toList_eventIdText, toList_eventIdText] at htext
  rcases append_inj_of_dropWhile (dropWhile_ne_nil hruntime) hdrop htext with ⟨hraw, hrest⟩
  have hkey : key.toList = key'.toList := by
    simpa using List.append_cancel_left hrest
  exact ⟨String.toList_inj.1 hraw, rfl, rfl, String.toList_inj.1 hkey⟩

/-- An identity key has no spaces around it. -/
theorem strip_identityKey {t : SignalType} {payload : PyDict} {key : String}
    (h : identityKey t payload = .ok key) : strip key = key := by
  have htext : ∀ {field s : String}, textField payload field = some s → strip s = s := by
    intro field s hs
    unfold textField at hs
    split at hs
    · exact Option.some.inj hs ▸ strip_strip _
    · cases hs
  unfold identityKey at h
  split at h
  · obtain rfl := Except.ok.inj h
    decide +kernel
  · split at h
    · rename_i hfield
      exact Except.ok.inj h ▸ htext hfield
    · rename_i hfield
      exact Except.ok.inj h ▸ htext hfield
    · simp only [bind_eq_ok] at h
      rcases h with ⟨canonical, -, hkey⟩
      obtain rfl := Except.ok.inj hkey
      refine strip_eq_self ⟨?_, ?_⟩
      · simp only [String.toList_append, List.append_assoc]
        cases t <;> simp [SignalType.name, isSpace]
      · simp only [String.toList_append]
        rw [List.append_assoc]
        refine getLast?_append_all (by simp) fun c hc => ?_
        rcases List.mem_append.1 hc with hc | hc
        · obtain rfl : c = ':' := by simpa using hc
          decide
        · rw [takeText, String.toList_ofList] at hc
          exact not_isSpace_of_hexDigit c (Sha256.hexDigit_of_mem_hexdigest (List.mem_of_mem_take hc))

/-! ## Events that are created -/

theorem exists_canonicalJson (payload : PyDict) : ∃ text, canonicalJson payload = .ok text := by
  have hencode := (PyJson.exists_encode_iff ⟨true, fun v => .ok (pyStr v)⟩ (.dict payload)).2
    fun w _ => ⟨pyStr w, rfl⟩
  rcases hencode with ⟨text, htext⟩
  exact ⟨text, by rw [canonicalJson, htext]; rfl⟩

/-- A payload that names no id of its own has an identity key. -/
theorem exists_identityKey (t : SignalType) {payload : PyDict}
    (hevent : textField payload "event_id" = none)
    (hobservation : textField payload "observation_id" = none) :
    ∃ key, identityKey t payload = .ok key ∧ strip key ≠ "" := by
  unfold identityKey
  split
  · exact ⟨_, rfl, by decide +kernel⟩
  · rw [hevent, hobservation]
    rcases exists_canonicalJson payload with ⟨text, htext⟩
    rw [htext]
    refine ⟨_, rfl, strip_ne_empty (c := ':') ?_ (by decide)⟩
    simp

theorem exists_requireNonEmpty {value : String} (fieldName : String) (h : strip value ≠ "") :
    ∃ s, requireNonEmpty value fieldName = .ok s :=
  ⟨⟨strip value, strip_strip value, h⟩, requireNonEmpty_eq_ok.2 rfl⟩

theorem strip_textOr_ne_empty {a : Option String} {b : String} (hb : strip b ≠ "") :
    strip (textOr (a.map strip) b) ≠ "" := by
  cases a with
  | none => exact hb
  | some s =>
      by_cases hs : strip s = ""
      · simpa [textOr, hs] using hb
      · simp [textOr, hs, strip_strip]

/-- The factory accepts a signal of a runtime that is not blank, with a launch attempt from 1 on and
an identity key that is not blank. -/
theorem exists_create {now : UtcDateTime} {producer : String} {a : CreateArgs} {t : SignalType}
    {n : Int} {key : String} (hproducer : strip producer ≠ "")
    (ht : SignalType.ofName? a.signalType = some t)
    (hruntime : strip (identityText a.identity "runtime_id") ≠ "")
    (hattempt : identityAttempt a.identity = .ok n) (hn : 1 ≤ n)
    (hkey : identityKey t a.payload = .ok key) (hne : strip key ≠ "") :
    ∃ e, create now producer a = .ok e := by
  unfold create
  rw [ht]
  simp only [bind_eq_ok, LifecycleEventEnvelope.ofFields, envelopeFields]
  have hmeta : strip t.signalMeta.eventType ≠ "" ∧ strip t.signalMeta.eventName ≠ "" ∧
      strip t.signalMeta.eventFamily ≠ "" ∧ 1 ≤ t.signalMeta.eventVersion := by
    cases t <;> decide +kernel
  rcases hmeta with ⟨htype, hname, hfamily, hversion⟩
  have hid : strip (eventId (identityText a.identity "runtime_id") n t.signalMeta.eventName key) ≠
      "" := by
    refine strip_ne_empty (c := ':') ?_ (by decide)
    simp [eventId]
  have hcorrelation : strip (textOr (a.correlationId.map strip) ("corr:" ++
      identityText a.identity "runtime_id" ++ ":" ++ toString n)) ≠ "" :=
    strip_textOr_ne_empty (strip_ne_empty (c := ':') (by simp) (by decide))
  have hworker : strip (textOr (some (strip (identityText a.identity "worker_identity")))
      ("worker:" ++ identityText a.identity "runtime_id" ++ ":" ++ toString n)) ≠ "" :=
    strip_textOr_ne_empty (a := some _) (strip_ne_empty (c := ':') (by simp) (by decide))
  rcases exists_requireNonEmpty "event_id" hid with ⟨_, hid⟩
  rcases exists_requireNonEmpty "event_type" htype with ⟨_, htype⟩
  rcases exists_requireNonEmpty "event_name" hname with ⟨_, hname⟩
  rcases exists_requireNonEmpty "event_family" hfamily with ⟨_, hfamily⟩
  rcases exists_requireNonEmpty "correlation_id" hcorrelation with ⟨_, hcorrelation⟩
  rcases exists_requireNonEmpty "producer" hproducer with ⟨_, hproducer⟩
  rcases exists_requireNonEmpty "runtime_id" hruntime with ⟨_, hruntime⟩
  rcases exists_requireNonEmpty "worker_identity" hworker with ⟨_, hworker⟩
  rcases exists_requireNonEmpty "identity_key" hne with ⟨_, hne⟩
  exact ⟨_, n, hattempt, key, hkey, _, hid, _, htype, _, hname, _, hfamily, _, hcorrelation, _,
    hproducer, _, hruntime, _, hworker, _, hne, ⟨_, hversion⟩,
    LifecycleEventEnvelope.requirePositive_eq_ok.2 rfl, ⟨_, hn⟩,
    LifecycleEventEnvelope.requirePositive_eq_ok.2 rfl,
    ⟨_, resolveOccurredAt_aware now a.payload⟩, LifecycleEventEnvelope.requireAware_eq_ok.2 rfl, rfl⟩

/-! ## Created events -/

/-- An event with the arguments it was created from. -/
structure CreatedEvent where
  now : UtcDateTime
  producer : String
  args : CreateArgs
  event : LifecycleEventEnvelope
  created : create now producer args = .ok event

namespace CreatedEvent

/-- The event of arguments that the factory accepts. -/
def ofArgs (now : UtcDateTime) (producer : String) (args : CreateArgs)
    (h : (create now producer args).toOption.isSome) : CreatedEvent :=
  match heq : create now producer args with
  | .ok event => ⟨now, producer, args, event, heq⟩
  | .error _ => absurd h (by simp [heq, Except.toOption])

theorem args_ofArgs (now : UtcDateTime) (producer : String) (args : CreateArgs)
    (h : (create now producer args).toOption.isSome) : (ofArgs now producer args h).args = args := by
  unfold ofArgs
  split
  · rfl
  · rename_i hcreate
    simp [hcreate, Except.toOption] at h

/-- The runtime id as it was given. -/
def givenRuntimeId (x : CreatedEvent) : String :=
  identityText x.args.identity "runtime_id"

/-- The text that the digest of the event id is of. -/
def idText (x : CreatedEvent) : String :=
  eventIdText x.givenRuntimeId x.event.launchAttempt.val x.event.eventName.val
    x.event.identityKey.val

theorem runtimeId_val (x : CreatedEvent) : x.event.runtimeId.val = strip x.givenRuntimeId := by
  rcases created_of_create x.created with ⟨t, n, key, h⟩
  exact h.runtimeId

theorem strip_givenRuntimeId (x : CreatedEvent) : strip x.givenRuntimeId ≠ "" := by
  rw [← x.runtimeId_val]
  exact x.event.runtimeId.property.2

theorem eventId_val (x : CreatedEvent) :
    x.event.eventId.val = strip (eventId x.givenRuntimeId x.event.launchAttempt.val
      x.event.eventName.val x.event.identityKey.val) := by
  rcases created_of_create x.created with ⟨t, n, key, h⟩
  rw [h.eventId, h.launchAttempt, h.eventName, h.identityKey, strip_identityKey h.identity]
  rfl

theorem colon_notMem_eventName (x : CreatedEvent) : ':' ∉ x.event.eventName.val.toList := by
  rcases created_of_create x.created with ⟨t, n, key, h⟩
  rw [h.eventName]
  exact t.signalMeta_texts.2.2

theorem isCreated (x : CreatedEvent) : IsCreated x.event :=
  ⟨x.now, x.producer, x.args, x.created⟩

/-- The same runtime, launch attempt, event name and identity key. -/
def SameIdentity (x y : CreatedEvent) : Prop :=
  LifecycleSignalDedupe.signature x.event = LifecycleSignalDedupe.signature y.event

theorem sameIdentity_iff {x y : CreatedEvent} :
    SameIdentity x y ↔ x.event.runtimeId.val = y.event.runtimeId.val ∧
      x.event.launchAttempt.val = y.event.launchAttempt.val ∧
        x.event.eventName.val = y.event.eventName.val ∧
          x.event.identityKey.val = y.event.identityKey.val := by
  simp only [SameIdentity, LifecycleSignalDedupe.signature, Prod.mk.injEq]

/-- The decider tells created events apart by their identity. -/
theorem identityKeyOf_eq_iff {x y : CreatedEvent} :
    LifecycleSignalDedupe.identityKeyOf x.event = LifecycleSignalDedupe.identityKeyOf y.event ↔
      SameIdentity x y := by
  rw [sameIdentity_iff]
  simp only [LifecycleSignalDedupe.identityKeyOf, Prod.mk.injEq]
  constructor
  · rintro ⟨hruntime, hattempt, -, hname, hkey⟩
    exact ⟨hruntime, hattempt, hname, hkey⟩
  · rintro ⟨hruntime, hattempt, hname, hkey⟩
    have hfamily := x.isCreated.eventFamily_eq y.isCreated (Subtype.ext hname)
    exact ⟨hruntime, hattempt, congrArg Subtype.val hfamily, hname, hkey⟩

/-- Event ids are equal when the identities are and the runtime id is spelled in the same way. -/
theorem eventId_eq_iff {x y : CreatedEvent} (hdigest : DigestsDiffer x.idText y.idText) :
    x.event.eventId.val = y.event.eventId.val ↔
      SameIdentity x y ∧ x.givenRuntimeId = y.givenRuntimeId := by
  rw [sameIdentity_iff]
  constructor
  · intro h
    rw [x.eventId_val, y.eventId_val] at h
    rcases eventId_inj x.strip_givenRuntimeId y.strip_givenRuntimeId x.event.launchAttempt.property
      y.event.launchAttempt.property x.colon_notMem_eventName y.colon_notMem_eventName hdigest h with
      ⟨hruntime, hattempt, hname, hkey⟩
    refine ⟨⟨?_, hattempt, hname, hkey⟩, hruntime⟩
    rw [x.runtimeId_val, y.runtimeId_val, hruntime]
  · rintro ⟨⟨-, hattempt, hname, hkey⟩, hruntime⟩
    rw [x.eventId_val, y.eventId_val, hattempt, hname, hkey, hruntime]

end CreatedEvent
end Events
end StrategyWorker
