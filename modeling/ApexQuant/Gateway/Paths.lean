import ApexQuant.Gateway.Proxy

namespace ApexQuant
namespace Gateway

open Foundation
open PercentEncoding (decode encode escaped)

/-!
# The path of a forwarded request

A request for `/api/{service}/{rest}` should reach the resource `rest` of the upstream:
the same segments behind those of its base URL, whatever way they are spelled, with the
same query.  The router compares a service name whose escapes have been read; the proxy
looks for that name in the raw path, and escapes the segments of the raw path again.  So
the resource is the same exactly when nothing is spelled with an escape.
-/

/-- The segments of a rooted path. -/
def segments (path : Text) : List Text :=
  if path = ['/'] then [] else List.splitOn '/' path.tail

/-- What the URL of the forwarded request should be. -/
structure Translated (baseUrl : Url) (rest : Text) (query : Option Text) (url : Url) : Prop where
  segments : (segments url.path).map decode =
    (segments baseUrl.path).map decode ++ (nonemptySegments rest).map decode
  query : url.query = query

/-- Nothing is spelled with an escape or is a dot segment, and no escape is written into
the query. -/
structure Plain (querySet : Char -> Bool) (raw rest : Text) (query : Option Text) : Prop where
  service : escaped raw = false ∨ nonemptySegments rest = []
  segments : forall segment, segment ∈ nonemptySegments rest ->
    escaped segment = false ∧ segment ≠ ".".toList ∧ segment ≠ "..".toList
  query : forall text, query = some text -> forall c, c ∈ text -> querySet c = false

/-! ## Pushed segments -/

section Pushing

variable (urls : UrlPackage)

def dotSegment (segment : Text) : Bool :=
  decide (segment = ".".toList ∨ segment = "..".toList)

theorem push_of_dotSegment {path segment : Text} (dots : dotSegment segment = true) :
    push urls.segmentSet path segment = path :=
  if_pos (of_decide_eq_true dots)

theorem rooted_push {path : Text} (rooted : path.head? = some '/') (segment : Text) :
    (push urls.segmentSet path segment).head? = some '/' := by
  cases path with
  | nil => cases rooted
  | cons slash more =>
      rw [push]
      by_cases dots : segment = ".".toList ∨ segment = "..".toList
      · rw [if_pos dots]
        exact rooted
      · rw [if_neg dots]
        by_cases root : slash :: more = "/".toList
        · rw [if_pos root]
          exact rooted
        · rw [if_neg root]
          exact rooted

theorem segments_push {path segment : Text} (rooted : path.head? = some '/') (nonempty : segment ≠ [])
    (proper : dotSegment segment = false) :
    segments (push urls.segmentSet path segment) = segments path ++ [encode urls.segmentSet segment] := by
  have written : encode urls.segmentSet segment ≠ [] := PercentEncoding.encode_ne_nil nonempty
  have unslashed : '/' ∉ encode urls.segmentSet segment :=
    PercentEncoding.not_mem_encode urls.slash_reserved (by decide) (by decide) segment
  have single : List.splitOn '/' (encode urls.segmentSet segment) = [encode urls.segmentSet segment] :=
    List.splitOn_eq_singleton unslashed
  cases path with
  | nil => cases rooted
  | cons slash more =>
      cases rooted
      rw [push, if_neg (of_decide_eq_false proper)]
      by_cases root : '/' :: more = "/".toList
      · rcases List.cons.inj root with ⟨_, rfl⟩
        have longer : '/' :: encode urls.segmentSet segment ≠ ['/'] := fun same => written (List.cons.inj same).2
        calc
          segments ("/".toList ++ encode urls.segmentSet segment) =
              List.splitOn '/' (encode urls.segmentSet segment) := if_neg longer
          _ = [encode urls.segmentSet segment] := single
      · have longer : '/' :: (more ++ '/' :: encode urls.segmentSet segment) ≠ ['/'] := by simp
        have whole : '/' :: more ++ "/".toList ++ encode urls.segmentSet segment =
            '/' :: (more ++ '/' :: encode urls.segmentSet segment) := by simp
        have base : segments ('/' :: more) = List.splitOn '/' more := if_neg root
        rw [if_neg root, whole, base, segments, if_neg longer, List.tail_cons, List.splitOn_append_cons_self, single]

/-- The base comes first, then the segments that are pushed, escaped once more. -/
theorem segments_foldl_push {path : Text} (rooted : path.head? = some '/') {pushed : List Text}
    (nonempty : forall segment, segment ∈ pushed -> segment ≠ []) :
    segments (pushed.foldl (push urls.segmentSet) path) =
      segments path ++ (pushed.filter fun segment => !dotSegment segment).map (encode urls.segmentSet) := by
  induction pushed generalizing path with
  | nil => simp
  | cons segment later inductionHypothesis =>
      rw [List.foldl_cons, inductionHypothesis (rooted_push urls rooted segment) fun other member =>
        nonempty other (List.mem_cons_of_mem _ member)]
      cases dots : dotSegment segment with
      | true => rw [push_of_dotSegment urls dots, List.filter_cons_of_neg (by simp [dots])]
      | false =>
          rw [segments_push urls rooted (nonempty segment List.mem_cons_self) dots,
            List.filter_cons_of_pos (by simp [dots]), List.map_cons, List.append_assoc, List.singleton_append]

theorem map_decode_encode (texts : List Text) : (texts.map (encode urls.segmentSet)).map decode = texts.map Text.utf8 := by
  rw [List.map_map]
  exact List.map_congr_left fun text _ => PercentEncoding.decode_encode urls.percent_reserved text

/-- Reading the pushed segments gives the segments that were meant exactly when each is
pushed and stands for itself. -/
theorem pushed_eq_iff {texts : List Text} :
    (texts.filter fun segment => !dotSegment segment).map Text.utf8 = texts.map decode <->
      forall segment, segment ∈ texts -> escaped segment = false ∧ dotSegment segment = false := by
  constructor
  · intro same
    have lengths := congrArg List.length same
    rw [List.length_map, List.length_map, List.length_filter_eq_length_iff] at lengths
    have all : (texts.filter fun segment => !dotSegment segment) = texts :=
      List.filter_eq_self.2 lengths
    rw [all] at same
    intro segment member
    have itself := List.map_inj_left.1 same segment member
    exact ⟨PercentEncoding.decode_eq_utf8_iff.1 itself.symm, Bool.not_eq_true' _ ▸ lengths segment member⟩
  · intro plain
    have all : (texts.filter fun segment => !dotSegment segment) = texts :=
      List.filter_eq_self.2 fun segment member => by rw [(plain segment member).2]; rfl
    rw [all]
    exact List.map_congr_left fun segment member =>
      (PercentEncoding.decode_of_not_escaped (plain segment member).1).symm

end Pushing

/-! ## The remaining path -/

theorem nonemptySegments_slash (text : Text) : nonemptySegments ('/' :: text) = nonemptySegments text := by
  have split : List.splitOn '/' ([] ++ '/' :: text) = [] :: List.splitOn '/' text := by
    rw [List.splitOn_append_cons_self, List.splitOn_nil, List.singleton_append]
  rw [List.nil_append] at split
  rw [nonemptySegments, split, List.filter_cons_of_neg (by simp), nonemptySegments]

theorem nonemptySegments_dropWhile (text : Text) :
    nonemptySegments (text.dropWhile fun c => decide (c = '/')) = nonemptySegments text := by
  induction text with
  | nil => rfl
  | cons c rest inductionHypothesis =>
      by_cases slash : c = '/'
      · rw [List.dropWhile_cons_of_pos (by simp [slash]), inductionHypothesis, slash, nonemptySegments_slash]
      · rw [List.dropWhile_cons_of_neg (by simp [slash])]

/-- The name that was read is found in the raw path exactly when it is spelled out. -/
theorem prefix_iff_of_read {raw service : Text} (unslashed : '/' ∉ service) (unsigned : '%' ∉ service)
    (read : Text.utf8 service = decode raw) (rest : Text) : service <+: raw ++ '/' :: rest <-> escaped raw = false := by
  rw [← PercentEncoding.decode_eq_utf8_iff, ← read]
  constructor
  · intro found
    have inside : service <+: raw := by
      rcases List.prefix_or_prefix_of_prefix found (List.prefix_append raw _) with shorter | ⟨more, longer⟩
      · exact shorter
      · cases more with
        | nil => exact ⟨[], by simpa using longer.symm⟩
        | cons slash more =>
            have known : slash :: more <+: '/' :: rest := by
              rw [← longer] at found
              exact (List.prefix_append_right_inj raw).1 found
            have opening : slash = '/' := (List.cons_prefix_cons.1 known).1
            exact absurd (by rw [← longer, opening]; simp) unslashed
    rcases inside with ⟨more, rfl⟩
    -- what follows the name stands for no octet
    rw [PercentEncoding.decode_append unsigned] at read
    have nothing : decode more = [] := by simpa using read
    have empty : more = [] := by
      by_contra nonempty
      exact PercentEncoding.decode_ne_nil nonempty nothing
    rw [empty, List.append_nil]
  · intro same
    rw [Text.utf8_injective same]
    exact List.prefix_append _ _

theorem remainingPath_eq {raw service : Text} (unslashed : '/' ∉ service) (unsigned : '%' ∉ service)
    (read : Text.utf8 service = decode raw) (rest : Text) :
    remainingPath (apiPrefix ++ (raw ++ '/' :: rest)) service = if escaped raw = false then '/' :: rest else [] := by
  have opening : "/api/".toList ++ service <+: apiPrefix ++ (raw ++ '/' :: rest) <-> escaped raw = false :=
    (List.prefix_append_right_inj apiPrefix).trans (prefix_iff_of_read unslashed unsigned read rest)
  rw [remainingPath]
  by_cases spelled : escaped raw = false
  · have same : raw = service :=
      Text.utf8_injective ((PercentEncoding.decode_of_not_escaped spelled).symm.trans read.symm)
    rw [if_pos (opening.2 spelled), if_pos spelled, same]
    have whole : apiPrefix ++ (service ++ '/' :: rest) = ("/api/".toList ++ service) ++ '/' :: rest :=
      (List.append_assoc _ _ _).symm
    rw [whole, List.drop_left]
  · rw [if_neg (fun found => spelled (opening.1 found)), if_neg spelled]

/-- A route to a service has read its name from the raw path. -/
theorem read_of_route {raw rest service : Text} (unslashed : '/' ∉ raw)
    (routed : routeOf (apiPrefix ++ (raw ++ '/' :: rest)) = .proxy service) : Text.utf8 service = decode raw := by
  have other : apiPrefix ++ (raw ++ '/' :: rest) ≠ verifyPath := fun same =>
    absurd (congrArg (List.take 2) same) (show ['/', 'a'] ≠ ['/', 'v'] by decide)
  rw [routeOf, if_neg other, if_pos (List.prefix_append _ _), List.drop_left, proxyRoute,
    Text.takeWhile_apart unslashed, Text.dropWhile_apart unslashed] at routed
  by_cases refused : raw = [] ∨ '/' :: rest = ['/']
  · simp only [if_pos refused] at routed
    cases routed
  · simp only [if_neg refused] at routed
    cases named : PercentEncoding.ofUtf8 (decode raw) with
    | none =>
        simp only [named] at routed
        cases routed
    | some name =>
        cases spelled : PercentEncoding.ofUtf8 (decode ('/' :: rest).tail) with
        | none =>
            simp only [named, spelled] at routed
            cases routed
        | some _ =>
            simp only [named, spelled] at routed
            cases routed
            exact PercentEncoding.utf8_of_ofUtf8 named

/-! ## The forwarded URL -/

theorem forwardUrl_translated_iff (urls : UrlPackage) (upstream : Upstream) {raw rest : Text} {uri : Uri}
    (shape : uri.path = apiPrefix ++ (raw ++ '/' :: rest)) (read : Text.utf8 upstream.serviceName = decode raw) :
    Translated upstream.baseUrl rest uri.query (forwardUrl urls upstream upstream.serviceName uri) <->
      Plain urls.querySet raw rest uri.query := by
  have remaining := remainingPath_eq (upstream.not_mem_serviceName (by decide)) (upstream.not_mem_serviceName (by decide))
    read rest
  have query : uri.query.map (encode urls.querySet) = uri.query <->
      forall text, uri.query = some text -> forall c, c ∈ text -> urls.querySet c = false := by
    cases uri.query with
    | none => exact iff_of_true rfl fun _ given => by cases given
    | some text =>
        rw [Option.map_some, Option.some_inj, PercentEncoding.encode_eq_self_iff]
        exact ⟨fun kept _ same => Option.some.inj same ▸ kept, fun kept => kept text rfl⟩
  have path : (segments (forwardUrl urls upstream upstream.serviceName uri).path).map decode =
        (segments upstream.baseUrl.path).map decode ++ (nonemptySegments rest).map decode <->
      (escaped raw = false ∨ nonemptySegments rest = []) ∧ forall segment, segment ∈ nonemptySegments rest ->
        escaped segment = false ∧ segment ≠ ".".toList ∧ segment ≠ "..".toList := by
    have nonempty : forall text segment, segment ∈ nonemptySegments text -> segment ≠ [] := fun text segment member =>
      of_decide_eq_true (List.mem_filter.1 member).2
    have proper : forall segment, dotSegment segment = false <-> segment ≠ ".".toList ∧ segment ≠ "..".toList := by
      intro segment
      rw [dotSegment, decide_eq_false_iff_not, not_or]
    simp only [forwardUrl, shape]
    rw [remaining, segments_foldl_push urls upstream.rooted (nonempty _), List.map_append, List.append_cancel_left_eq,
      map_decode_encode urls]
    by_cases spelled : escaped raw = false
    · rw [if_pos spelled, nonemptySegments_dropWhile, nonemptySegments_slash, pushed_eq_iff,
        and_iff_right (Or.inl spelled)]
      simp only [proper]
    · rw [if_neg spelled, or_iff_right spelled]
      have none_left : nonemptySegments (([] : Text).dropWhile fun c => decide (c = '/')) = [] := by decide
      rw [none_left]
      constructor
      · intro same
        have empty : nonemptySegments rest = [] := List.map_eq_nil_iff.1 same.symm
        exact ⟨empty, by simp [empty]⟩
      · rintro ⟨empty, _⟩
        simp [empty]
  constructor
  · intro translated
    exact ⟨(path.1 translated.segments).1, (path.1 translated.segments).2, query.1 translated.query⟩
  · intro plain
    exact ⟨path.2 ⟨plain.service, plain.segments⟩, query.2 plain.query⟩

/-- The request was sent by one of the two gateways. -/
def SentFor (state : AppState) (request : Request) (sent : UpstreamRequest) : Prop :=
  (Exists fun now => Exists fun fresh => sent ∈ (state.handle now fresh request).contacts) ∨
    Exists fun fresh => sent ∈ (state.handlePlain fresh request).contacts

/-- The resource is translated exactly when nothing of it is spelled with an escape. -/
theorem translated_iff {state : AppState} {request : Request} {sent : UpstreamRequest} {upstream : Upstream}
    {raw rest service : Text} (slashless : '/' ∉ raw) (shape : request.uri.path = apiPrefix ++ (raw ++ '/' :: rest))
    (routed : routeOf request.uri.path = .proxy service) (registered : state.registry.get service = some upstream)
    (forwarded : SentFor state request sent) :
    Translated upstream.baseUrl rest request.uri.query sent.url <->
      Plain state.urls.querySet raw rest request.uri.query := by
  have url : sent.url = forwardUrl state.urls upstream service request.uri := by
    have proxied : Exists fun requestId => Exists fun context =>
        state.proxyService requestId context service request = .ok sent := by
      rcases forwarded with ⟨now, fresh, contacted⟩ | ⟨fresh, contacted⟩
      · rcases AppState.contact_of_handle contacted with ⟨context, _, contacted⟩
        exact ⟨_, _, AppState.contact_of_proxy routed contacted⟩
      · exact ⟨_, _, AppState.contact_of_proxy routed contacted⟩
    rcases proxied with ⟨_, _, proxied⟩
    rcases AppState.proxyService_ok proxied with ⟨other, _, found, _, rfl⟩
    cases registered.symm.trans found
    rfl
  have named : upstream.serviceName = service := RouteRegistry.serviceName_of_get registered
  rw [shape] at routed
  rw [url, ← named]
  exact forwardUrl_translated_iff state.urls upstream shape (named ▸ read_of_route slashless routed)

/-! ## A request with an escape -/

/-- The sets of the crate `url`, with a parser and a joiner for one address. -/
def svcUrls : UrlPackage where
  parse := fun text =>
    if text = "http://svc:8080".toList then
      some { scheme := "http".toList, authority := "svc:8080".toList, path := "/".toList, query := none }
    else none
  join := fun base reference => some { base with path := '/' :: reference }
  segmentSet := fun c =>
    decide (c.toNat ≤ 32) || decide (127 ≤ c.toNat) || decide (c ∈ "\"#<>?\x60\x7b\x7d/%\\".toList)
  querySet := fun c => decide (c.toNat ≤ 32) || decide (127 ≤ c.toNat) || decide (c ∈ "\"#<>\x27".toList)
  rooted := by
    intro text url parsed _
    by_cases known : text = "http://svc:8080".toList
    · rw [if_pos known] at parsed
      rw [← Option.some.inj parsed]
      rfl
    · rw [if_neg known] at parsed
      cases parsed
  percent_reserved := by decide
  slash_reserved := by decide

def svc : Upstream where
  serviceName := "svc".toList
  plane := "CONTROL".toList
  baseUrl := { scheme := "http".toList, authority := "svc:8080".toList, path := "/".toList, query := none }
  named := by decide
  planed := by decide
  rooted := rfl

/-- A gateway without tokens, in front of one service. -/
def svcState : AppState where
  urls := svcUrls
  tokens :=
    { hmac := fun _ _ => []
      pythonReads := fun _ => none
      rustReads := fun _ => none
      claimsOf := fun _ => none }
  config :=
    { environment := "local".toList
      maxBodyBytes := 1024
      requestTimeoutSecs := 5
      upstreams := [svc]
      authMode := .disabled
      authSecret := none
      supplied := List.cons_ne_nil _ _
      guarded := fun asked => absurd rfl asked }

def escapedRequest : Request where
  method := "GET".toList
  uri := { path := "/api/svc/a%20b".toList, query := none, visible := by decide }
  headers := []
  body := []

def escapedSent : UpstreamRequest where
  method := "GET".toList
  url := forwardUrl svcUrls svc svc.serviceName escapedRequest.uri
  headers := LastWrites.fill [(xRequestId, Text.utf8 "1".toList)]
  body := []

theorem escapedRequest_routed : routeOf escapedRequest.uri.path = .proxy svc.serviceName := by
  decide +kernel

theorem escapedRequest_sent : SentFor svcState escapedRequest escapedSent := by
  refine Or.inr ⟨"1".toList, ?_⟩
  rw [AppState.handlePlain, AppState.dispatch, escapedRequest_routed]
  exact List.mem_singleton.2 rfl

theorem translated_iff_escaped :
    Translated svc.baseUrl "a%20b".toList none escapedSent.url <->
      Plain svcUrls.querySet svc.serviceName "a%20b".toList none :=
  translated_iff (by decide) (by decide) escapedRequest_routed rfl escapedRequest_sent

theorem escaped_segment_not_translated :
    routeOf escapedRequest.uri.path = .proxy svc.serviceName ∧ svcState.registry.get svc.serviceName = some svc ∧
      SentFor svcState escapedRequest escapedSent ∧
      ¬Translated svc.baseUrl "a%20b".toList escapedRequest.uri.query escapedSent.url := by
  refine ⟨escapedRequest_routed, rfl, escapedRequest_sent, fun translated => ?_⟩
  exact absurd translated.segments (by decide +kernel)

end Gateway
end ApexQuant
