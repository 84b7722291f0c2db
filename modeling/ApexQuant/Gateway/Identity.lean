import ApexQuant.Gateway.Paths

namespace ApexQuant
namespace Gateway

open Foundation
open Auth (AuthContext)

/-!
# Who a forwarded request is said to be from

The headers `x-apex-auth-subject` and `x-apex-auth-principal-type` tell an upstream whom
a token was verified for.  They have two writers, which meet in one map: every header
with `x-apex-` is copied from the client, and what was verified is written over it.  A
request whose token was verified therefore carries what was verified and nothing else.
Of the requests that no token is asked of, the probes of the health check carry nothing.
-/

/-! ## Two runs -/

def identityPrefix : Text := "x-apex-auth-".toList

def isIdentity (name : Text) : Bool :=
  identityPrefix.isPrefixOf name

/-- Two requests that differ at most in headers with the prefix. -/
structure SameButIdentity (request request' : Request) : Prop where
  method : request.method = request'.method
  uri : request.uri = request'.uri
  body : request.body = request'.body
  headers : (request.headers.filter fun header => !isIdentity header.1) =
    request'.headers.filter fun header => !isIdentity header.1

/-- What the upstream is told. -/
def identityOf (sent : UpstreamRequest) : Option (List UInt8) × Option (List UInt8) :=
  (sent.headers.lookup subjectHeader, sent.headers.lookup principalTypeHeader)

/-- The gateway verified a token of the request. -/
structure Verified (state : AppState) (now : Int) (request : Request) (context : AuthContext) : Prop where
  asked : apiPrefix <+: request.uri.path
  enabled : state.config.authMode ≠ .disabled
  token : Exists fun token => Exists fun secret => credentials request = .token token ∧
    state.config.authSecret = some secret ∧ Auth.ApexAuth.verifyToken state.tokens secret token now = .ok context

theorem header_eq {request request' : Request} (same : SameButIdentity request request') {name : Text}
    (other : isIdentity name = false) : request.header name = request'.header name := by
  have kept : forall headers : List (Text × List UInt8),
      headers.find? (fun header => decide (header.1 = name)) =
        (headers.filter fun header => !isIdentity header.1).find? fun header => decide (header.1 = name) := by
    intro headers
    rw [List.find?_filter]
    congr 1
    funext header
    by_cases named : header.1 = name
    · simp [named, other]
    · simp [named]
  rw [Request.header, Request.header, kept request.headers, kept request'.headers, same.headers]

theorem credentials_eq {request request' : Request} (same : SameButIdentity request request') :
    credentials request = credentials request' := by
  rw [credentials, credentials, header_eq same (by decide)]

theorem requestId_eq (fresh : Text) {request request' : Request} (same : SameButIdentity request request') :
    requestId fresh request = requestId fresh request' := by
  rw [requestId, requestId, header_eq same (by decide)]

section Layer

variable {state : AppState} {now : Int}

theorem authenticateRequest_eq {request request' : Request} (same : SameButIdentity request request') :
    state.authenticateRequest now request = state.authenticateRequest now request' := by
  rw [AppState.authenticateRequest, AppState.authenticateRequest, credentials_eq same, same.uri]

/-- A request goes on with what was verified, or where the gateway does not insist. -/
theorem admitted_cases {request : Request} {context : Option AuthContext}
    (admitted : state.authenticateRequest now request = .ok context) :
    (context = none ∧ (¬apiPrefix <+: request.uri.path ∨ state.config.authMode ≠ .enforced)) ∨
      Exists fun verified => context = some verified ∧ Verified state now request verified := by
  rw [AppState.authenticateRequest] at admitted
  by_cases open' : ¬apiPrefix <+: request.uri.path ∨ state.config.authMode = .disabled
  · rw [if_pos open'] at admitted
    cases admitted
    refine Or.inl ⟨rfl, open'.imp id fun disabled => ?_⟩
    rw [disabled]
    exact nofun
  · rw [if_neg open'] at admitted
    rcases not_or.1 open' with ⟨asked, enabled⟩
    cases given : credentials request with
    | missing =>
        rw [given] at admitted
        by_cases enforced : state.config.authMode = .enforced
        · simp only [if_pos enforced] at admitted
          cases admitted
        · simp only [if_neg enforced] at admitted
          cases admitted
          exact Or.inl ⟨rfl, Or.inr enforced⟩
    | malformed =>
        rw [given] at admitted
        cases admitted
    | token token =>
        rw [given] at admitted
        cases held : state.config.authSecret with
        | none =>
            rw [held] at admitted
            cases admitted
        | some secret =>
            rw [held] at admitted
            cases verdict : Auth.ApexAuth.verifyToken state.tokens secret token now with
            | error error =>
                simp only [verdict] at admitted
                cases admitted
            | ok verified =>
                simp only [verdict] at admitted
                cases admitted
                exact Or.inr ⟨verified, rfl, not_not.1 asked, enabled, token, secret, given, held, verdict⟩

/-- A context comes from a verified token. -/
theorem authenticateRequest_some_iff {request : Request} {context : AuthContext} :
    state.authenticateRequest now request = .ok (some context) <-> Verified state now request context := by
  constructor
  · intro admitted
    rcases admitted_cases admitted with ⟨absent, _⟩ | ⟨verified, same, known⟩
    · cases absent
    · cases same
      exact known
  · rintro ⟨asked, enabled, token, secret, given, held, verdict⟩
    rw [AppState.authenticateRequest, if_neg (not_or.2 ⟨not_not.2 asked, enabled⟩), given]
    simp only [held, verdict]

end Layer

/-! ## The map of headers -/

theorem headerValue_ok {text : Text} {value : List UInt8} (written : headerValue text = .ok value) :
    value = Text.utf8 text := by
  rw [headerValue] at written
  split at written
  · exact (Except.ok.inj written).symm
  · cases written

/-- What was verified is written last. -/
theorem lookup_of_verified {requestId : Text} {context : AuthContext} {request : Request} {headers : HeaderMap}
    (written : forwardHeaders requestId (some context) request = .ok headers) :
    headers.lookup subjectHeader = some (Text.utf8 context.subject) ∧
      headers.lookup principalTypeHeader = some (Text.utf8 context.principalType) := by
  rcases Run.ok_of_bind written with ⟨id, _, rest⟩
  rcases Run.ok_of_bind rest with ⟨identity, told, filled⟩
  rcases Run.ok_of_bind told with ⟨subject, first, more⟩
  rcases Run.ok_of_bind more with ⟨principalType, second, listed⟩
  rw [← Except.ok.inj filled, ← Except.ok.inj listed, headerValue_ok first, headerValue_ok second]
  have split : forall entries : List (Text × List UInt8), forall one two : Text × List UInt8,
      entries ++ [one, two] = entries ++ [one] ++ [two] := fun entries one two => by simp
  have apart : subjectHeader ≠ principalTypeHeader := by decide
  constructor
  · rw [split, LastWrites.lookup_fill_concat, if_neg apart, LastWrites.lookup_fill_concat, if_pos rfl]
  · rw [split, LastWrites.lookup_fill_concat, if_pos rfl]

/-- Without a context a header comes from the client. -/
theorem own_of_lookup {requestId : Text} {request : Request} {headers : HeaderMap} {name : Text}
    (written : forwardHeaders requestId none request = .ok headers) (other : name ≠ xRequestId)
    (carried : headers.lookup name ≠ none) : request.header name ≠ none := by
  rcases Run.ok_of_bind written with ⟨id, _, filled⟩
  rcases Option.ne_none_iff_exists'.1 carried with ⟨value, found⟩
  have listed : LastWrites.fill (request.headers.filter (fun header => shouldForward header.1) ++ [(xRequestId, id)] ++ []) =
      headers := Except.ok.inj filled
  rw [← listed, List.append_nil, LastWrites.lookup_fill_concat, if_neg other] at found
  rcases LastWrites.lookup_fill_iff.1 found with ⟨before, after, split, _⟩
  have member : (name, value) ∈ request.headers.filter fun header => shouldForward header.1 := by
    rw [split]
    exact List.mem_append_right before List.mem_cons_self
  have held : (request.headers.find? fun header => decide (header.1 = name)).isSome = true :=
    List.find?_isSome.2 ⟨_, (List.mem_filter.1 member).1, decide_eq_true rfl⟩
  rw [Request.header, ne_eq, Option.map_eq_none_iff]
  intro absent
  rw [absent] at held
  cases held

/-! ## Routes -/

theorem prefix_of_proxy {path service : Text} (routed : routeOf path = .proxy service) : apiPrefix <+: path := by
  by_contra other
  rw [routeOf] at routed
  by_cases verify : path = verifyPath
  · rw [if_pos verify] at routed
    cases routed
  · rw [if_neg verify, if_neg other] at routed
    cases routed

theorem path_of_verify {path : Text} (routed : routeOf path = .verify) : path = verifyPath := by
  by_contra other
  rw [routeOf, if_neg other] at routed
  by_cases inApi : apiPrefix <+: path
  · rw [if_pos inApi, proxyRoute] at routed
    split at routed
    · cases routed
    · split at routed
      · cases routed
      · cases routed
  · rw [if_neg inApi] at routed
    cases routed

/-! ## What an upstream is told -/

section Runs

variable (state : AppState) (now : Int) (fresh : Text)

/-- What the gateway keeps to for one request. -/
structure IdentityKept (request : Request) : Prop where
  verified : forall context, Verified state now request context ->
    forall sent, sent ∈ (state.handle now fresh request).contacts ->
      identityOf sent = (some (Text.utf8 context.subject), some (Text.utf8 context.principalType))
  twoRuns : forall request', SameButIdentity request request' -> (Exists fun context => Verified state now request context) ->
    (state.handle now fresh request).contacts.map identityOf = (state.handle now fresh request').contacts.map identityOf
  own : forall name, name = subjectHeader ∨ name = principalTypeHeader -> request.header name = none ->
    forall sent, sent ∈ (state.handle now fresh request).contacts -> sent.headers.lookup name ≠ none ->
      Exists fun context => Verified state now request context
  enforced : state.config.authMode = .enforced -> forall sent, sent ∈ (state.handle now fresh request).contacts ->
    (Exists fun context => Verified state now request context) ∨
      (request.uri.path = verifyPath ∧ sent.headers = ∅ ∧ sent.body = [])

variable {state now fresh}

theorem identity_of_verified {request : Request} {context : AuthContext} (verified : Verified state now request context)
    {sent : UpstreamRequest} (contacted : sent ∈ (state.handle now fresh request).contacts) :
    identityOf sent = (some (Text.utf8 context.subject), some (Text.utf8 context.principalType)) := by
  rcases AppState.contact_of_handle contacted with ⟨admitted, known, contacted⟩
  cases known.symm.trans (authenticateRequest_some_iff.2 verified)
  rcases AppState.contact_cases contacted with ⟨service, _, forwarded⟩ | ⟨routed, _⟩
  · rcases AppState.proxyService_ok forwarded with ⟨_, headers, _, written, rfl⟩
    rcases lookup_of_verified written with ⟨subject, principalType⟩
    exact Prod.ext subject principalType
  · have asked := verified.asked
    rw [path_of_verify routed] at asked
    exact absurd asked (by decide)

/-- Whether a verified request is forwarded does not depend on the headers that are
copied. -/
theorem length_contacts_eq {requestId : Text} {context : AuthContext} {request request' : Request}
    (same : SameButIdentity request request') :
    (state.dispatch requestId (some context) request).contacts.length =
      (state.dispatch requestId (some context) request').contacts.length := by
  have forwards : forall service,
      (state.proxyService requestId (some context) service request).toBool =
        (state.proxyService requestId (some context) service request').toBool := by
    intro service
    rw [AppState.proxyService, AppState.proxyService, same.method, same.body, forwardHeaders, forwardHeaders]
    cases state.registry.get service with
    | none => rfl
    | some upstream =>
        by_cases method : request'.method ∉ proxyMethods
        · simp only [if_pos method]
        · by_cases large : state.config.maxBodyBytes < request'.body.length
          · simp only [if_neg method, if_pos large]
          · simp only [if_neg method, if_neg large]
            cases headerValue requestId with
            | error error => rfl
            | ok id =>
                cases identityHeaders (some context) with
                | error error => rfl
                | ok identity => rfl
  rw [AppState.dispatch, AppState.dispatch, same.uri, same.method]
  cases routeOf request'.uri.path with
  | verify => rfl
  | other => rfl
  | proxy service =>
      have agree := forwards service
      cases first : state.proxyService requestId (some context) service request with
      | error error =>
          cases second : state.proxyService requestId (some context) service request' with
          | error error' => simp only [first, second]
          | ok sent' =>
              rw [first, second] at agree
              cases agree
      | ok sent =>
          cases second : state.proxyService requestId (some context) service request' with
          | error error' =>
              rw [first, second] at agree
              cases agree
          | ok sent' => simp only [first, second, List.length_singleton]

theorem Verified.congr {request request' : Request} {context : AuthContext} (verified : Verified state now request context)
    (same : SameButIdentity request request') : Verified state now request' context :=
  authenticateRequest_some_iff.1 ((authenticateRequest_eq same).symm.trans (authenticateRequest_some_iff.2 verified))

theorem handle_of_verified {request : Request} {context : AuthContext} (verified : Verified state now request context) :
    state.handle now fresh request = state.dispatch (requestId fresh request) (some context) request := by
  rw [AppState.handle, authenticateRequest_some_iff.2 verified]

/-- Two runs tell the upstreams the same. -/
theorem identities_eq {request request' : Request} (same : SameButIdentity request request') {context : AuthContext}
    (verified : Verified state now request context) :
    (state.handle now fresh request).contacts.map identityOf =
      (state.handle now fresh request').contacts.map identityOf := by
  have constant : forall {given : Request}, Verified state now given context ->
      (state.handle now fresh given).contacts.map identityOf =
        List.replicate (state.handle now fresh given).contacts.length
          (some (Text.utf8 context.subject), some (Text.utf8 context.principalType)) := by
    intro given verified
    rw [List.eq_replicate_iff, List.length_map]
    refine ⟨rfl, fun told member => ?_⟩
    rcases List.mem_map.1 member with ⟨sent, contacted, rfl⟩
    exact identity_of_verified verified contacted
  have verified' := verified.congr same
  rw [constant verified, constant verified', handle_of_verified verified, handle_of_verified verified',
    requestId_eq fresh same, length_contacts_eq same]

variable (state now fresh)

theorem identity_kept (request : Request) : IdentityKept state now fresh request where
  verified := fun _ verified _ contacted => identity_of_verified verified contacted
  twoRuns := fun _ same ⟨_, verified⟩ => identities_eq same verified
  own := by
    intro name identity unowned sent contacted carried
    rcases AppState.contact_of_handle contacted with ⟨admitted, known, contacted⟩
    cases admitted with
    | some context => exact ⟨context, authenticateRequest_some_iff.1 known⟩
    | none =>
        rcases AppState.contact_cases contacted with ⟨service, _, forwarded⟩ | ⟨_, empty, _⟩
        · rcases AppState.proxyService_ok forwarded with ⟨_, headers, _, written, rfl⟩
          have other : name ≠ xRequestId := by
            rcases identity with rfl | rfl
            · decide
            · decide
          exact absurd unowned (own_of_lookup written other carried)
        · rw [empty] at carried
          exact absurd (AList.lookup_empty name) carried
  enforced := by
    intro enforced sent contacted
    rcases AppState.contact_of_handle contacted with ⟨admitted, known, contacted⟩
    rcases admitted_cases known with ⟨_, unasked⟩ | ⟨context, _, verified⟩
    · rcases AppState.contact_cases contacted with ⟨service, routed, _⟩ | ⟨routed, empty⟩
      · exact absurd (prefix_of_proxy routed) (unasked.resolve_right (not_not.2 enforced))
      · exact Or.inr ⟨path_of_verify routed, empty⟩
    · exact Or.inl ⟨context, verified⟩

end Runs

/-! ## Requests without a token -/

/-- The stronger property: the headers never speak for themselves, and where tokens are
enforced nothing is sent without one. -/
structure IdentityIntegrity (state : AppState) (now : Int) (fresh : Text) (request : Request) : Prop where
  only : forall sent, sent ∈ (state.handle now fresh request).contacts ->
    forall name, name = subjectHeader ∨ name = principalTypeHeader -> sent.headers.lookup name ≠ none ->
      Exists fun context => Verified state now request context ∧
        identityOf sent = (some (Text.utf8 context.subject), some (Text.utf8 context.principalType))
  twoRuns : forall request', SameButIdentity request request' ->
    (state.handle now fresh request).contacts.map identityOf = (state.handle now fresh request').contacts.map identityOf
  enforced : state.config.authMode = .enforced -> (state.handle now fresh request).contacts ≠ [] ->
    Exists fun context => Verified state now request context

/-- The gateway in front of one service, asking for tokens. -/
def guardedState (mode : AuthMode) : AppState where
  urls := svcUrls
  tokens := svcState.tokens
  config :=
    { svcState.config with
      authMode := mode
      authSecret := some (List.replicate 32 0)
      guarded := fun _ => nofun }

def verifyRequest : Request where
  method := "GET".toList
  uri := { path := verifyPath, query := none, visible := by decide }
  headers := []
  body := []

/-- No token, and a header that says who it is. -/
def spoofingRequest : Request where
  method := "GET".toList
  uri := { path := "/api/svc/orders".toList, query := none, visible := by decide }
  headers := [(subjectHeader, Text.utf8 "root".toList)]
  body := []

theorem probes_and_spoofing_break_integrity :
    ¬IdentityIntegrity (guardedState .enforced) 0 "1".toList verifyRequest ∧
      ¬IdentityIntegrity (guardedState .permissive) 0 "1".toList spoofingRequest := by
  constructor
  · intro integrity
    have contacted : ((guardedState .enforced).handle 0 "1".toList verifyRequest).contacts.length = 1 := by
      decide +kernel
    have nonempty : ((guardedState .enforced).handle 0 "1".toList verifyRequest).contacts ≠ [] := by
      intro empty
      rw [empty] at contacted
      cases contacted
    rcases integrity.enforced rfl nonempty with ⟨_, verified⟩
    exact absurd verified.asked (by decide)
  · intro integrity
    have told : ((guardedState .permissive).handle 0 "1".toList spoofingRequest).contacts.map
        (fun sent => sent.headers.lookup subjectHeader) = [some (Text.utf8 "root".toList)] := by
      decide +kernel
    have listed : some (Text.utf8 "root".toList) ∈
        ((guardedState .permissive).handle 0 "1".toList spoofingRequest).contacts.map
          fun sent => sent.headers.lookup subjectHeader := by
      rw [told]
      exact List.mem_cons_self
    rcases List.mem_map.1 listed with ⟨sent, contacted, carried⟩
    rcases integrity.only sent contacted subjectHeader (Or.inl rfl) (by rw [carried]; exact nofun) with
      ⟨_, verified, _⟩
    rcases verified.token with ⟨token, _, given, _⟩
    have missing : credentials spoofingRequest = .missing := by decide
    cases missing.symm.trans given

end Gateway
end ApexQuant
