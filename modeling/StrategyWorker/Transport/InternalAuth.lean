import StrategyWorker.Library.Assoc
import StrategyWorker.Library.PyValue

/-!
# Authorisation of internal calls

The headers that name the caller and its trust class, the checks that the
interceptor of the gRPC server makes before a handler runs, and the check of the
HTTP stop server.  The gRPC metadata are folded into a dictionary pair by pair,
so that the last value of a repeated name counts; {lit}`dict(self.headers)` asks
the parsed HTTP message for each name, which gives the first one.

Main results:

- Theorem {lit}`get?_grpcMetadata`, Theorem {lit}`get?_httpMetadata`: which
  value of a header the two transports read.
- Theorem {lit}`handler_gated`: a handler runs only for the trust class that its
  method requires and a caller with a name.
- Theorem {lit}`authorisation_gate_iff`: both transports authorise a stop for the
  same headers exactly when the first and the last values of the headers agree
  about it.
-/

namespace StrategyWorker
namespace Transport

open Library
open Library.PyText

/-! ## Headers -/

abbrev Headers := List (String × String)

/-- {lit}`_normalize_metadata`. -/
def normalizeMetadata (pairs : Headers) : Assoc String String :=
  Assoc.ofPairs (pairs.map fun pair => (lower pair.1, pair.2))

def callerHeaderCandidates : List String :=
  ["x-internal-caller", "internal-caller", "internal_caller"]

def trustClassHeaderCandidates : List String :=
  ["x-internal-trust-class", "internal-trust-class", "internal_trust_class"]

def trustClassSubstrate : String :=
  "internal:runtimes:substrate"

def trustClassControl : String :=
  "internal:runtimes:control"

/-- {lit}`_first_present`: the first candidate with a value that is not empty. -/
def firstPresent (value : String → Option String) (candidates : List String) : Option String :=
  candidates.findSome? fun key => (value key).filter fun text => text ≠ ""

theorem firstPresent_ne_empty {value : String → Option String} {candidates : List String}
    {text : String} (h : firstPresent value candidates = some text) : text ≠ "" := by
  rcases List.exists_of_findSome?_eq_some h with ⟨key, -, hkey⟩
  simpa using (Option.filter_eq_some_iff.1 hkey).2

/-- {lit}`WorkerInternalCallerNotAllowedError`. -/
structure CallerNotAllowed where
  caller : Option String
  operation : String
  requiredPrivilege : String
  deriving DecidableEq, Repr

structure InternalAuthContext where
  caller : String
  trustClass : String
  metadata : Assoc String String
  deriving DecidableEq, Repr

def InternalAuthContext.isTrustedInternal (auth : InternalAuthContext) : Bool :=
  auth.caller ≠ "" && auth.trustClass ∈ [trustClassSubstrate, trustClassControl]

/-- {lit}`parse_internal_auth_metadata`. -/
def parseInternalAuthMetadata (pairs : Headers) : Except CallerNotAllowed InternalAuthContext :=
  let normalized := normalizeMetadata pairs
  let caller := firstPresent normalized.get? callerHeaderCandidates
  let trustClass := firstPresent normalized.get? trustClassHeaderCandidates
  match caller, trustClass with
  | some name, some trust => .ok ⟨name, trust, normalized⟩
  | _, _ => .error ⟨caller, "internal_transport_call", "internal metadata headers"⟩

def requireInternalSubstrate (auth : InternalAuthContext) (operation : String) :
    Except CallerNotAllowed Unit :=
  if auth.trustClass ≠ trustClassSubstrate then
    .error ⟨some auth.caller, operation, trustClassSubstrate⟩
  else .ok ()

def requireInternalControl (auth : InternalAuthContext) (operation : String) :
    Except CallerNotAllowed Unit :=
  if auth.trustClass ≠ trustClassControl then
    .error ⟨some auth.caller, operation, trustClassControl⟩
  else .ok ()

def requireInternalHealthTrust (auth : InternalAuthContext) (operation : String) :
    Except CallerNotAllowed Unit :=
  if ¬ auth.isTrustedInternal then
    .error ⟨some auth.caller, operation, "trusted internal caller"⟩
  else .ok ()

/-! ## The two transports -/

/-- What a method requires of its caller. -/
def requireForMethod (methodName : String) (auth : InternalAuthContext) :
    Except CallerNotAllowed Unit :=
  if endsWith methodName "/CreateWorker" then requireInternalSubstrate auth "CreateWorker"
  else if endsWith methodName "/StopWorker" then requireInternalControl auth "StopWorker"
  else if endsWith methodName "/CheckHealth" then requireInternalHealthTrust auth "CheckHealth"
  else .ok ()

/-- The checks of {lit}`AuthServerInterceptor` before the handler of a method runs. -/
def authorise (methodName : String) (invocationMetadata : Headers) :
    Except CallerNotAllowed InternalAuthContext := do
  let auth ← parseInternalAuthMetadata invocationMetadata
  requireForMethod methodName auth
  return auth

/-- {lit}`wrapped_unary_unary`; the result is {lit}`ok` when the handler runs. -/
def wrappedUnaryUnary {Request Response : Type} (methodName : String)
    (unaryUnary : Request → Response) (invocationMetadata : Headers) (request : Request) :
    Except CallerNotAllowed Response := do
  let _ ← authorise methodName invocationMetadata
  return unaryUnary request

/-- {lit}`headers[name]` of a parsed message: the first header of that name in any letter case. -/
def messageGet (headers : Headers) (name : String) : Option String :=
  (headers.find? fun header => lower header.1 = lower name).map Prod.snd

/-- {lit}`dict(self.headers)`: the names of all headers, each with what the message gives for it. -/
def messageDict (headers : Headers) : Assoc String String :=
  Assoc.ofPairs (headers.map fun header => (header.1, (messageGet headers header.1).getD ""))

/-- The authorisation in {lit}`do_POST`. -/
def httpStopAuthorised (headers : Headers) : Except CallerNotAllowed InternalAuthContext := do
  let auth ← parseInternalAuthMetadata (messageDict headers)
  requireInternalControl auth "POST /internal/v1/stop"
  return auth

/-! ## Which value of a header counts -/

/-- The first value of a header, whose name is given in lower case. -/
def firstValue (headers : Headers) (name : String) : Option String :=
  (headers.find? fun header => lower header.1 = name).map Prod.snd

/-- The last value of a header. -/
def lastValue (headers : Headers) (name : String) : Option String :=
  firstValue headers.reverse name

theorem get?_map_lower (headers : Headers) (name : String) :
    Assoc.get? (headers.map fun header => (lower header.1, header.2)) name =
      firstValue headers name := by
  unfold Assoc.get? firstValue
  rw [List.find?_map, Option.map_map]
  rfl

/-- The gRPC server reads the last value of a header. -/
theorem get?_grpcMetadata (headers : Headers) (name : String) :
    (normalizeMetadata headers).get? name = lastValue headers name := by
  rw [normalizeMetadata, Assoc.get?_ofPairs, ← List.map_reverse, get?_map_lower, lastValue]

/-- The HTTP server reads the first value of a header. -/
theorem get?_httpMetadata (headers : Headers) (name : String) :
    (normalizeMetadata (messageDict headers)).get? name = firstValue headers name := by
  rw [normalizeMetadata, Assoc.get?_ofPairs]
  have hentries : ∀ entry ∈ (List.map (fun pair : String × String => (lower pair.1, pair.2))
      (messageDict headers)).reverse, ∃ header ∈ headers, entry =
        (lower header.1, (firstValue headers (lower header.1)).getD "") := by
    intro entry hentry
    rcases List.mem_map.1 (List.mem_reverse.1 hentry) with ⟨pair, hpair, rfl⟩
    rcases List.mem_map.1 (Assoc.mem_of_mem_ofPairs hpair) with ⟨header, hheader, rfl⟩
    exact ⟨header, hheader, rfl⟩
  cases hfirst : firstValue headers name with
  | none =>
      refine Assoc.get?_eq_none fun entry hentry heq => ?_
      rcases hentries entry hentry with ⟨header, hheader, rfl⟩
      have hnone := List.find?_eq_none.1 (Option.map_eq_none_iff.1 hfirst) header hheader
      have hname : lower header.1 = name := heq
      simp [hname] at hnone
  | some value =>
      refine Assoc.get?_eq_of_forall ?_ ?_
      · rcases Option.map_eq_some_iff.1 hfirst with ⟨header, hfind, -⟩
        have hname : lower header.1 = name := by simpa using List.find?_some hfind
        have hmem : (header.1, (messageGet headers header.1).getD "") ∈
            headers.map fun header => (header.1, (messageGet headers header.1).getD "") :=
          List.mem_map.2 ⟨header, List.mem_of_find?_eq_some hfind, rfl⟩
        rcases Assoc.exists_mem_ofPairs hmem with ⟨value', hvalue'⟩
        exact ⟨(lower header.1, value'), List.mem_reverse.2 (List.mem_map.2 ⟨_, hvalue', rfl⟩),
          hname⟩
      · intro entry hentry heq
        rcases hentries entry hentry with ⟨header, -, rfl⟩
        have hname : lower header.1 = name := heq
        rw [hname, hfirst]
        rfl

/-! ## The gate -/

theorem parseInternalAuthMetadata_eq_ok {pairs : Headers} {auth : InternalAuthContext} :
    parseInternalAuthMetadata pairs = .ok auth ↔
      firstPresent (normalizeMetadata pairs).get? callerHeaderCandidates = some auth.caller ∧
        firstPresent (normalizeMetadata pairs).get? trustClassHeaderCandidates =
          some auth.trustClass ∧ auth.metadata = normalizeMetadata pairs := by
  unfold parseInternalAuthMetadata
  dsimp only
  cases firstPresent (normalizeMetadata pairs).get? callerHeaderCandidates with
  | none => simp
  | some name =>
      cases firstPresent (normalizeMetadata pairs).get? trustClassHeaderCandidates with
      | none => simp
      | some trust =>
          rcases auth with ⟨caller, trustClass, metadata⟩
          simp [eq_comm]

/-- Only one of the methods can be meant. -/
theorem endsWith_exclusive {methodName a b : String} (ha : endsWith methodName a = true)
    (hab : endsWith a b = false) (hba : endsWith b a = false) : endsWith methodName b = false := by
  rw [Bool.eq_false_iff]
  intro hb
  unfold endsWith at ha hb hab hba
  rw [List.isSuffixOf_iff_suffix] at ha hb
  rcases List.suffix_or_suffix_of_suffix ha hb with h | h
  · rw [List.isSuffixOf_iff_suffix.2 h] at hba
    cases hba
  · rw [List.isSuffixOf_iff_suffix.2 h] at hab
    cases hab

/-- The caller has a name, and the trust class is one that the method is open to. -/
structure Gated (methodName : String) (auth : InternalAuthContext) : Prop where
  caller : auth.caller ≠ ""
  create : endsWith methodName "/CreateWorker" = true → auth.trustClass = trustClassSubstrate
  stop : endsWith methodName "/StopWorker" = true → auth.trustClass = trustClassControl
  health : endsWith methodName "/CheckHealth" = true →
    auth.trustClass = trustClassSubstrate ∨ auth.trustClass = trustClassControl

theorem requireForMethod_stop {methodName : String} (h : endsWith methodName "/StopWorker" = true)
    (auth : InternalAuthContext) :
    requireForMethod methodName auth = requireInternalControl auth "StopWorker" := by
  have hcreate : endsWith methodName "/CreateWorker" = false :=
    endsWith_exclusive h (by decide) (by decide)
  rw [requireForMethod, hcreate, h]
  rfl

theorem requireForMethod_health {methodName : String}
    (h : endsWith methodName "/CheckHealth" = true) (auth : InternalAuthContext) :
    requireForMethod methodName auth = requireInternalHealthTrust auth "CheckHealth" := by
  have hcreate : endsWith methodName "/CreateWorker" = false :=
    endsWith_exclusive h (by decide) (by decide)
  have hstop : endsWith methodName "/StopWorker" = false :=
    endsWith_exclusive h (by decide) (by decide)
  rw [requireForMethod, hcreate, hstop, h]
  rfl

theorem requireInternalControl_eq_ok {auth : InternalAuthContext} {operation : String} {u : Unit} :
    requireInternalControl auth operation = .ok u ↔ auth.trustClass = trustClassControl := by
  unfold requireInternalControl
  by_cases h : auth.trustClass = trustClassControl <;> simp [h]

/-- What an authorised call has shown. -/
theorem authorise_gated {methodName : String} {headers : Headers} {auth : InternalAuthContext}
    (h : authorise methodName headers = .ok auth) :
    parseInternalAuthMetadata headers = .ok auth ∧ Gated methodName auth := by
  unfold authorise at h
  rcases bind_eq_ok.1 h with ⟨auth', hparse, h⟩
  rcases bind_eq_ok.1 h with ⟨u, hrequire, hpure⟩
  cases hpure
  refine ⟨hparse, ?_, ?_, ?_, ?_⟩
  · exact firstPresent_ne_empty (parseInternalAuthMetadata_eq_ok.1 hparse).1
  · intro hcreate
    rw [requireForMethod, hcreate, if_pos rfl, requireInternalSubstrate] at hrequire
    split at hrequire
    · cases hrequire
    · rename_i htrust
      exact not_not.1 htrust
  · intro hstop
    rw [requireForMethod_stop hstop] at hrequire
    exact requireInternalControl_eq_ok.1 hrequire
  · intro hhealth
    rw [requireForMethod_health hhealth, requireInternalHealthTrust] at hrequire
    split at hrequire
    · cases hrequire
    · rename_i htrusted
      have htrust : auth.isTrustedInternal = true := not_not.1 htrusted
      simp only [InternalAuthContext.isTrustedInternal, Bool.and_eq_true, decide_eq_true_eq,
        List.mem_cons, List.not_mem_nil, or_false] at htrust
      exact htrust.2

/-- A handler runs only for the trust class that its method requires and a caller with a name. -/
theorem handler_gated {Request Response : Type} {methodName : String}
    {unaryUnary : Request → Response} {headers : Headers} {request : Request}
    {response : Response} (h : wrappedUnaryUnary methodName unaryUnary headers request = .ok response) :
    ∃ auth, parseInternalAuthMetadata headers = .ok auth ∧ Gated methodName auth := by
  unfold wrappedUnaryUnary at h
  rcases bind_eq_ok.1 h with ⟨auth, hauth, -⟩
  exact ⟨auth, authorise_gated hauth⟩

/-! ## The two transports compared -/

/-- The headers name a caller and the control class, when {lit}`value` is what is read of them. -/
def NamesControl (value : String → Option String) : Prop :=
  (∃ caller, firstPresent value callerHeaderCandidates = some caller) ∧
    firstPresent value trustClassHeaderCandidates = some trustClassControl

theorem exists_parse_control_iff (pairs : Headers) :
    (∃ auth, parseInternalAuthMetadata pairs = .ok auth ∧ auth.trustClass = trustClassControl) ↔
      NamesControl (normalizeMetadata pairs).get? := by
  constructor
  · rintro ⟨auth, hparse, hcontrol⟩
    rcases parseInternalAuthMetadata_eq_ok.1 hparse with ⟨hcaller, htrust, -⟩
    exact ⟨⟨_, hcaller⟩, hcontrol ▸ htrust⟩
  · rintro ⟨⟨caller, hcaller⟩, htrust⟩
    exact ⟨⟨caller, trustClassControl, normalizeMetadata pairs⟩,
      parseInternalAuthMetadata_eq_ok.2 ⟨hcaller, htrust, rfl⟩, rfl⟩

/-- The gRPC server goes by the last values of the headers. -/
theorem grpc_stop_authorised_iff {methodName : String}
    (h : endsWith methodName "/StopWorker" = true) (headers : Headers) :
    (∃ auth, authorise methodName headers = .ok auth) ↔ NamesControl (lastValue headers) := by
  have hvalue : (normalizeMetadata headers).get? = lastValue headers := by
    ext name : 1
    exact get?_grpcMetadata headers name
  rw [← hvalue, ← exists_parse_control_iff]
  unfold authorise
  simp only [requireForMethod_stop h, bind_eq_ok, requireInternalControl_eq_ok]
  constructor
  · rintro ⟨auth, auth', hparse, -, hcontrol, -⟩
    exact ⟨auth', hparse, hcontrol⟩
  · rintro ⟨auth, hparse, hcontrol⟩
    exact ⟨auth, auth, hparse, (), hcontrol, rfl⟩

/-- The HTTP server goes by the first values of the headers. -/
theorem http_stop_authorised_iff (headers : Headers) :
    (∃ auth, httpStopAuthorised headers = .ok auth) ↔ NamesControl (firstValue headers) := by
  have hvalue : (normalizeMetadata (messageDict headers)).get? = firstValue headers := by
    ext name : 1
    exact get?_httpMetadata headers name
  rw [← hvalue, ← exists_parse_control_iff]
  unfold httpStopAuthorised
  simp only [bind_eq_ok, requireInternalControl_eq_ok]
  constructor
  · rintro ⟨auth, auth', hparse, -, hcontrol, -⟩
    exact ⟨auth', hparse, hcontrol⟩
  · rintro ⟨auth, hparse, hcontrol⟩
    exact ⟨auth, auth, hparse, (), hcontrol, rfl⟩

/-- A stop is authorised over gRPC exactly when it is over HTTP. -/
def StopAgrees (headers : Headers) : Prop :=
  ∀ methodName, endsWith methodName "/StopWorker" = true →
    ((∃ auth, authorise methodName headers = .ok auth) ↔
      ∃ auth, httpStopAuthorised headers = .ok auth)

/-- The handlers are gated, and both transports authorise a stop for the same headers exactly when
the first and the last values of the headers agree about it. -/
theorem authorisation_gate_iff (headers : Headers) :
    ((∀ (Request Response : Type) (methodName : String) (unaryUnary : Request → Response)
        (request : Request) (response : Response),
        wrappedUnaryUnary methodName unaryUnary headers request = .ok response →
          ∃ auth, parseInternalAuthMetadata headers = .ok auth ∧ Gated methodName auth) ∧
      StopAgrees headers) ↔
        (NamesControl (lastValue headers) ↔ NamesControl (firstValue headers)) := by
  constructor
  · rintro ⟨-, hagrees⟩
    have hstop : endsWith "/StopWorker" "/StopWorker" = true := by decide
    rw [← grpc_stop_authorised_iff hstop, ← http_stop_authorised_iff]
    exact hagrees "/StopWorker" hstop
  · intro hvalues
    refine ⟨fun _ _ _ _ _ _ h => handler_gated h, fun methodName hstop => ?_⟩
    rw [grpc_stop_authorised_iff hstop, http_stop_authorised_iff]
    exact hvalues

/-- When no header is repeated with another value, the transports agree. -/
theorem stopAgrees_of_unrepeated {headers : Headers}
    (h : ∀ a ∈ headers, ∀ b ∈ headers, lower a.1 = lower b.1 → a.2 = b.2) : StopAgrees headers := by
  have hvalues : lastValue headers = firstValue headers := by
    ext name : 1
    cases hlast : lastValue headers name with
    | none =>
        symm
        refine Option.map_eq_none_iff.2 (List.find?_eq_none.2 fun header hheader => ?_)
        exact List.find?_eq_none.1 (Option.map_eq_none_iff.1 hlast) header
          (List.mem_reverse.2 hheader)
    | some value =>
        rcases Option.map_eq_some_iff.1 hlast with ⟨b, hb, rfl⟩
        have hbname : lower b.1 = name := by simpa using List.find?_some hb
        have hbmem : b ∈ headers := List.mem_reverse.1 (List.mem_of_find?_eq_some hb)
        cases hfirst : firstValue headers name with
        | none =>
            have hnone := List.find?_eq_none.1 (Option.map_eq_none_iff.1 hfirst) b hbmem
            simp [hbname] at hnone
        | some value =>
            rcases Option.map_eq_some_iff.1 hfirst with ⟨a, ha, rfl⟩
            have haname : lower a.1 = name := by simpa using List.find?_some ha
            have hamem : a ∈ headers := List.mem_of_find?_eq_some ha
            rw [h b hbmem a hamem (hbname.trans haname.symm)]
  intro methodName hstop
  rw [grpc_stop_authorised_iff hstop, http_stop_authorised_iff, hvalues]

/-- Headers with the trust class twice. -/
def repeatedTrustClass : Headers :=
  [("x-internal-caller", "srm"), ("x-internal-trust-class", trustClassControl),
    ("x-internal-trust-class", trustClassSubstrate)]

/-- With the trust class twice a stop is authorised over HTTP and not over gRPC. -/
theorem repeated_trust_class_disagrees :
    (∃ auth, httpStopAuthorised repeatedTrustClass = .ok auth) ∧
      authorise "/StopWorker" repeatedTrustClass =
        .error ⟨some "srm", "StopWorker", trustClassControl⟩ :=
  ⟨⟨_, rfl⟩, rfl⟩

end Transport
end StrategyWorker
