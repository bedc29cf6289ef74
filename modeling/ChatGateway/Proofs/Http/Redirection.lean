import ChatGateway.Http.Client
import ChatGateway.Proofs.Http.Fields

/-!
# What redirections ask for

An answer asks for another request exactly if its status is one of those that redirect and it refers
to an address that can be read. The status decides whether the request is repeated there or whether
only reading is sent instead, without the body and the fields that describe it. Who asks is not told
to another host, and where the request comes from is told on the way. All other fields travel: their
values are the same in every request that is sent while an address is fetched.

A network can be made to record what it is asked. Recording changes nothing else, and what is
recorded of a fetch are the requests that the fetch itself reports.
-/

namespace ChatGateway.Http

variable {σ : Type}

/-- Erasing several names keeps the values of all others. -/
theorem Headers.values_foldl_erase (names : List String) (headers : Headers) {name : String}
    (h : name ∉ names) : (names.foldl erase headers).values name = headers.values name := by
  induction names generalizing headers with
  | nil => rfl
  | cons erased rest ih =>
    rw [List.mem_cons, not_or] at h
    rw [List.foldl_cons, ih (headers.erase erased) h.2]
    exact headers.values_erase_of_ne h.1

/-- After several names are erased none of them has values. -/
theorem Headers.values_foldl_erase_of_mem {names : List String} (headers : Headers) {name : String}
    (h : name ∈ names) : (names.foldl erase headers).values name = [] := by
  induction names generalizing headers with
  | nil => contradiction
  | cons erased rest ih =>
    rw [List.foldl_cons]
    by_cases later : name ∈ rest
    · exact ih (headers.erase erased) later
    · rw [values_foldl_erase rest (headers.erase erased) later,
        (List.mem_cons.mp h).resolve_right later, values_erase_self]

namespace Client

section Steps

variable {network : Network σ} {request : Outbound} {state later : σ} {received : Received}

/-- A request without an answer is the last one. -/
theorem follow_of_failed (left : Nat) (h : network.exchange request state = (.failed, later)) :
    follow network left request state = ⟨.error (.unsent request.url), later, [request]⟩ := by
  unfold follow
  rw [h]

/-- An answer that asks for nothing more is the last one. -/
theorem follow_of_last (left : Nat)
    (h : network.exchange request state = (.answered received, later))
    (hlast : next? request received = none) :
    follow network left request state = ⟨.ok ⟨received, request.url⟩, later, [request]⟩ := by
  unfold follow
  simp only [h, hlast]

/-- An answer that asks for another request is followed while any redirection is left. -/
theorem follow_of_next (left : Nat) {next : Outbound}
    (h : network.exchange request state = (.answered received, later))
    (hnext : next? request received = some next) :
    follow network left request state =
      match left with
      | 0 => ⟨.error (.tooManyRedirects request.url), later, [request]⟩
      | left + 1 =>
        if isUsable next.url then (follow network left next later).precede request
        else ⟨.error (.unusable (some next.url)), later, [request]⟩ := by
  cases left with
  | zero =>
    rw [follow.eq_def]
    simp only [h, hnext]
  | succ left =>
    rw [follow.eq_def]
    simp only [h, hnext]

end Steps

/-- An answer refers to an address: its first `location` is a text that, read from the address that was
asked, gives one that fits into a request. -/
def RefersTo (asked : Url) (received : Received) (url : Url) : Prop :=
  ∃ text, received.headers.get? "location" = some (Bytes.ofText text) ∧
    asked.resolve? text = some url ∧ (Target.parse? url.text).isSome = true

/-- A request only reads instead of the one before: the body is gone, and so is what describes it. -/
structure ReadsInstead (request next : Outbound) : Prop where
  method : next.method = "GET"
  body : next.body = []
  bare : ∀ name ∈ bodyFields, next.headers.values name = []

/-- A request repeats the one before, with the body and all that describes it. -/
structure RepeatsIt (request next : Outbound) : Prop where
  method : next.method = request.method
  body : next.body = request.body
  same : ∀ name ∈ bodyFields, next.headers.values name = request.headers.values name

/-- A name that no redirection takes away or writes. -/
structure Travels (name : String) : Prop where
  notOfBody : name ∉ bodyFields
  notWho : name ≠ authorizationField
  notWhence : name ≠ refererField

/-- An answer redirects a request to the next one. -/
structure Redirects (request : Outbound) (received : Received) (next : Outbound) : Prop where
  refers : RefersTo request.url received next.url
  follows : received.status ∈ [301, 302, 303] ∧ ReadsInstead request next ∨
    received.status ∈ [307, 308] ∧ RepeatsIt request next
  /-- Who asks is told to the same host only. -/
  who : next.headers.values authorizationField =
    if sameHost request.url next.url then request.headers.values authorizationField else []
  /-- Where the request comes from is told, unless the connection is no longer a secret one. -/
  whence : next.headers.values refererField =
    if next.url.scheme = "http" ∧ request.url.scheme = "https" then request.headers.values refererField
    else [Bytes.ofText { request.url with credentials := none, fragment := none }.text]
  travels : ∀ name, Travels name → next.headers.values name = request.headers.values name

/-- The address that an answer refers to is the one that is found for it. -/
theorem location?_eq_some_iff {asked url : Url} {received : Received} :
    location? asked received = some url ↔ RefersTo asked received url := by
  simp only [location?, RefersTo, Option.bind_eq_some_iff, Option.filter_eq_some_iff,
    Bytes.toText?_eq_some_iff]
  constructor
  · rintro ⟨text, ⟨value, field, rfl⟩, rest⟩
    exact ⟨text, field, rest⟩
  · rintro ⟨text, field, rest⟩
    exact ⟨text, ⟨_, field, rfl⟩, rest⟩

/-- Five statuses redirect: three of them ask for reading, and two for the same request. -/
theorem redirected?_eq_some_iff {request next : Outbound} {status : Status} :
    redirected? request status = some next ↔
      status ∈ [301, 302, 303] ∧ next = readingInstead request ∨
        status ∈ [307, 308] ∧ next = request := by
  unfold redirected?
  by_cases reads : status ∈ [301, 302, 303]
  · have other : status ∉ [307, 308] := by
      simp only [List.mem_cons, List.not_mem_nil, or_false] at reads
      rcases reads with rfl | rfl | rfl <;> decide
    rw [if_pos (List.contains_iff_mem.mpr reads), Option.some.injEq, eq_comm]
    simp only [reads, other, true_and, false_and, or_false]
  · rw [if_neg (mt List.contains_iff_mem.mp reads)]
    simp only [reads, false_and, false_or, List.contains_iff_mem]
    split
    · rename_i again
      rw [Option.some.injEq, eq_comm]
      simp only [again, true_and]
    · rename_i other
      simp only [other, false_and, reduceCtorEq]

/-- A request that is sent elsewhere has the fields that may go there, and says where it comes from. -/
theorem values_atUrl_of_ne (request : Outbound) (url : Url) {name : String}
    (whence : name ≠ refererField) :
    (atUrl request url).headers.values name =
      Headers.values (if sameHost request.url url then request.headers
        else request.headers.erase authorizationField) name := by
  unfold atUrl
  cases referer? request.url url with
  | none => rfl
  | some text => exact Headers.values_setText_of_ne _ text whence

/-- Sending a request elsewhere writes two fields at most. -/
theorem values_atUrl (request : Outbound) (url : Url) {name : String} (who : name ≠ authorizationField)
    (whence : name ≠ refererField) :
    (atUrl request url).headers.values name = request.headers.values name := by
  rw [values_atUrl_of_ne request url whence]
  split
  · rfl
  · exact request.headers.values_erase_of_ne who

/-- Who asks is told to the same host only. -/
theorem values_authorization_atUrl (request : Outbound) (url : Url) :
    (atUrl request url).headers.values authorizationField =
      if sameHost request.url url then request.headers.values authorizationField else [] := by
  rw [values_atUrl_of_ne request url (by decide)]
  split
  · rfl
  · exact request.headers.values_erase_self authorizationField

/-- Where a request comes from is told to the next address, unless the connection is no longer a secret
one; then what is told of it stays. -/
theorem values_referer_atUrl (request : Outbound) (url : Url) :
    (atUrl request url).headers.values refererField =
      if url.scheme = "http" ∧ request.url.scheme = "https" then request.headers.values refererField
      else [Bytes.ofText { request.url with credentials := none, fragment := none }.text] := by
  unfold atUrl referer?
  by_cases plain : url.scheme = "http" ∧ request.url.scheme = "https"
  · simp only [plain, decide_true, Bool.and_self, if_true, and_self]
    split
    · rfl
    · exact request.headers.values_erase_of_ne (by decide)
  · have told : (url.scheme = "http" && request.url.scheme = "https") = false := by simpa using plain
    rw [if_neg plain, told]
    exact Headers.values_setText_self _ _ _

/-- An answer that asks for another request redirects to it. -/
theorem redirects_next {request next : Outbound} {received : Received}
    (h : next? request received = some next) : Redirects request received next := by
  obtain ⟨repeated, hrepeated, hnext⟩ := Option.bind_eq_some_iff.mp h
  obtain ⟨url, hurl, rfl⟩ := Option.map_eq_some_iff.mp hnext
  have refers := location?_eq_some_iff.mp hurl
  have kept {name : String} (described : name ∈ bodyFields) :
      (atUrl repeated url).headers.values name = repeated.headers.values name := by
    refine values_atUrl repeated url ?_ ?_ <;> rintro rfl <;> exact absurd described (by decide)
  rcases redirected?_eq_some_iff.mp hrepeated with ⟨status, rfl⟩ | ⟨status, rfl⟩
  · have others {name : String} (other : name ∉ bodyFields) :
        (readingInstead request).headers.values name = request.headers.values name :=
      request.headers.values_foldl_erase bodyFields other
    refine ⟨refers, .inl ⟨status, rfl, rfl, fun name described => ?_⟩, ?_, ?_, fun name travels => ?_⟩
    · rw [kept described]
      exact request.headers.values_foldl_erase_of_mem described
    · rw [values_authorization_atUrl, others (by decide)]
      rfl
    · rw [values_referer_atUrl, others (by decide)]
      rfl
    · rw [values_atUrl _ url travels.notWho travels.notWhence, others travels.notOfBody]
  · refine ⟨refers, .inr ⟨status, rfl, rfl, fun name => kept⟩, values_authorization_atUrl _ url,
      values_referer_atUrl _ url, fun name travels => ?_⟩
    exact values_atUrl _ url travels.notWho travels.notWhence

/-- An answer asks for another request exactly if its status redirects and it refers to an address. -/
theorem exists_next_iff {request : Outbound} {received : Received} :
    (∃ next, next? request received = some next) ↔
      received.status ∈ [301, 302, 303, 307, 308] ∧ ∃ url, RefersTo request.url received url := by
  constructor
  · rintro ⟨next, asks⟩
    have redirects := redirects_next asks
    have status := List.mem_append.mpr (redirects.follows.imp And.left And.left)
    exact ⟨status, next.url, redirects.refers⟩
  · rintro ⟨status, url, refers⟩
    have redirected : ∃ repeated, redirected? request received.status = some repeated := by
      simp only [redirected?_eq_some_iff, exists_or, exists_and_left, exists_eq, and_true]
      exact List.mem_append.mp status
    obtain ⟨repeated, hrepeated⟩ := redirected
    exact ⟨atUrl repeated url, by
      rw [next?, hrepeated, Option.bind_some, location?_eq_some_iff.mpr refers, Option.map_some]⟩

/-- An answer is the last one exactly if its status does not redirect or it refers to no address. -/
theorem next?_eq_none_iff {request : Outbound} {received : Received} :
    next? request received = none ↔
      ¬ (received.status ∈ [301, 302, 303, 307, 308] ∧
        ∃ url, RefersTo request.url received url) := by
  rw [← exists_next_iff, Option.eq_none_iff_forall_ne_some, not_exists]

/-- Every request that is sent while redirections are followed has the first one's values. -/
theorem values_sent_follow (network : Network σ) (left : Nat) (request : Outbound) (state : σ)
    {name : String} (travels : Travels name) :
    ∀ sent ∈ (follow network left request state).sent,
      sent.headers.values name = request.headers.values name := by
  fun_induction follow network left request state with
  | case1 left request state later failed => simp
  | case2 left request state received later answered asksNothing => simp
  | case3 request state received later answered next asks => simp
  | case4 request state received between answered next asks left usable ih =>
    rw [Fetched.precede, List.forall_mem_cons]
    constructor
    · rfl
    · intro sent later
      rw [ih sent later, (redirects_next asks).travels name travels]
  | case5 request state received between answered next asks left unusable => simp

/-- What is asked at an address is the address, with or without its credentials, -/
theorem url_withCredentials (url : Url) (headers : Headers) :
    (withCredentials url headers).1 = url ∨
      (withCredentials url headers).1 = { url with credentials := none } := by
  unfold withCredentials
  split
  · exact .inl rfl
  · exact .inr rfl

/-- whatever the fields are. -/
theorem withCredentials_fst (url : Url) (headers : Headers) :
    (withCredentials url headers).1 = (withCredentials url []).1 := by
  unfold withCredentials
  split <;> rfl

/-- The credentials of an address only say who asks. -/
theorem values_withCredentials (url : Url) (headers : Headers) {name : String}
    (h : name ≠ authorizationField) :
    (withCredentials url headers).2.values name = headers.values name := by
  unfold withCredentials
  split
  · rfl
  · exact (Headers.values_cons _ _ _).trans (if_neg (Ne.symm h))

/-- Every request that is sent for an address has the values that were asked for. -/
theorem values_sent_send (network : Network σ) (method address : String) (headers : Headers)
    (body : Bytes) (state : σ) {name : String} (travels : Travels name) (h : name ≠ "accept") :
    ∀ sent ∈ (send network method address headers body state).sent,
      sent.headers.values name = headers.values name := by
  unfold send
  split
  · simp
  · rename_i url _
    simp only
    split
    · intro sent hsent
      rw [values_sent_follow network redirectLimit _ state travels sent hsent,
        Headers.values_setMissing_of_ne _ _ h, values_withCredentials url headers travels.notWho]
    · simp

end Client

/-- The network that also keeps the requests that reach it, in order. -/
def Network.recording (network : Network σ) : Network (σ × List Outbound) where
  exchange request state :=
    ((network.exchange request state.1).1,
      (network.exchange request state.1).2, state.2 ++ [request])

/-- A fetch on a network that had recorded these requests before. -/
def Fetched.recordedAfter (before : List Outbound) (fetched : Fetched σ) :
    Fetched (σ × List Outbound) :=
  ⟨fetched.result, (fetched.state, before ++ fetched.sent), fetched.sent⟩

namespace Client

/-- What is recorded of an exchange is its request, and the exchange is the same. -/
theorem exchange_recording (network : Network σ) (request : Outbound) {state later : σ}
    {exchange : Exchange} (h : network.exchange request state = (exchange, later))
    (before : List Outbound) :
    network.recording.exchange request (state, before) =
      (exchange, later, before ++ [request]) := by
  simp only [Network.recording, h]

/-- What is recorded of following redirections are the requests, and the rest is the same. -/
theorem follow_recording (network : Network σ) (left : Nat) (request : Outbound) (state : σ)
    (before : List Outbound) :
    follow network.recording left request (state, before) =
      (follow network left request state).recordedAfter before := by
  fun_induction follow network left request state generalizing before with
  | case1 left request state later failed =>
    rw [follow_of_failed left (exchange_recording network request failed before)]
    rfl
  | case2 left request state received later answered asksNothing =>
    rw [follow_of_last left (exchange_recording network request answered before) asksNothing]
    rfl
  | case3 request state received later answered next asks =>
    rw [follow_of_next 0 (exchange_recording network request answered before) asks]
    rfl
  | case4 request state received between answered next asks left usable ih =>
    rw [follow_of_next (left + 1) (exchange_recording network request answered before) asks]
    simp only [usable, if_true, ih]
    simp [Fetched.recordedAfter, Fetched.precede]
  | case5 request state received between answered next asks left unusable =>
    rw [follow_of_next (left + 1) (exchange_recording network request answered before) asks]
    simp only [unusable]
    rfl

/-- A recording network keeps what is sent for an address, and is otherwise the same. -/
theorem send_recording (network : Network σ) (method address : String) (headers : Headers)
    (body : Bytes) (state : σ) (before : List Outbound) :
    send network.recording method address headers body (state, before) =
      (send network method address headers body state).recordedAfter before := by
  unfold send
  split
  · simp [Fetched.recordedAfter]
  · simp only
    split
    · exact follow_recording network redirectLimit _ state before
    · simp [Fetched.recordedAfter]

end Client

end ChatGateway.Http
