import ChatGateway.Proofs.Http.Redirection

/-!
# The last answer to a request

Following redirections leads from a request to a last one. Every request before it is sent once
and answered by asking for the next, so what is sent is one request more than there are
redirections that are followed, however the network answers.

A fetch succeeds exactly if the last request is answered and the answer asks for nothing more. On
a network with this state there is at most one such answer.
-/

namespace ChatGateway.Http.Client

variable {σ : Type} {network : Network σ} {request next last : Outbound} {state later : σ}
  {followed : List Outbound} {received : Received}

/-- Redirections lead from a request, sent in a state, to another that is to be sent later. -/
inductive Leads (network : Network σ) : Outbound → σ → List Outbound → Outbound → σ → Prop
  | here (request : Outbound) (state : σ) : Leads network request state [] request state
  | on {request next last : Outbound} {state between later : σ} {received : Received}
    {followed : List Outbound}
    (answered : network.exchange request state = (.answered received, between))
    (asks : next? request received = some next) (usable : isUsable next.url = true)
    (rest : Leads network next between followed last later) :
    Leads network request state (request :: followed) last later

/-- An answer behind the redirections that are followed, which asks for nothing more. -/
def Concludes (network : Network σ) (left : Nat) (request : Outbound) (state : σ)
    (received : Received) : Prop :=
  ∃ followed last later, Leads network request state followed last later ∧
    followed.length ≤ left ∧ (network.exchange last later).1 = .answered received ∧
    next? last received = none

/-- What is followed first comes first, and the rest is followed with what is left. -/
theorem follow_of_leads (h : Leads network request state followed last later) {left : Nat}
    (within : followed.length ≤ left) :
    follow network left request state =
      let rest := follow network (left - followed.length) last later
      { rest with sent := followed ++ rest.sent } := by
  induction h generalizing left with
  | here request state => rfl
  | on answered asks usable rest ih =>
    obtain ⟨left, rfl⟩ := Nat.exists_eq_add_one_of_ne_zero (Nat.ne_zero_of_lt within)
    rw [follow_of_next (left + 1) answered asks]
    simp only [usable, if_true, List.length_cons, Nat.add_sub_add_right]
    rw [ih (Nat.le_of_succ_le_succ within)]
    rfl

/-- A fetch sends the requests along the redirections that it follows, and then a last one. -/
theorem exists_leads (network : Network σ) (left : Nat) (request : Outbound) (state : σ) :
    ∃ followed last later, Leads network request state followed last later ∧
      followed.length ≤ left ∧ (follow network left request state).sent = followed ++ [last] ∧
      ∀ final, (follow network left request state).result = .ok final →
        (network.exchange last later).1 = .answered final.received ∧
          next? last final.received = none := by
  fun_induction follow network left request state with
  | case1 left request state later failed =>
    exact ⟨[], request, state, .here request state, Nat.zero_le left, rfl, fun final ok => absurd ok (by simp)⟩
  | case2 left request state received later answered asksNothing =>
    refine ⟨[], request, state, .here request state, Nat.zero_le left, rfl, ?_⟩
    rintro final ⟨⟩
    exact ⟨congrArg Prod.fst answered, asksNothing⟩
  | case3 request state received later answered next asks =>
    exact ⟨[], request, state, .here request state, Nat.le_refl 0, rfl, fun final ok => absurd ok (by simp)⟩
  | case4 request state received between answered next asks left usable ih =>
    obtain ⟨followed, last, later, leads, within, sent, ends⟩ := ih
    exact ⟨request :: followed, last, later, .on answered asks usable leads,
      Nat.succ_le_succ within, congrArg (List.cons request) sent, ends⟩
  | case5 request state received between answered next asks left unusable =>
    exact ⟨[], request, state, .here request state, Nat.zero_le _, rfl, fun final ok => absurd ok (by simp)⟩

/-- A fetch brings exactly the answer that concludes it. -/
theorem exists_result_follow_eq_ok_iff (network : Network σ) (left : Nat) (request : Outbound)
    (state : σ) (received : Received) :
    (∃ url, (follow network left request state).result = .ok ⟨received, url⟩) ↔
      Concludes network left request state received := by
  constructor
  · rintro ⟨url, ok⟩
    obtain ⟨followed, last, later, leads, within, _, ends⟩ := exists_leads network left request state
    exact ⟨followed, last, later, leads, within, ends _ ok⟩
  · rintro ⟨followed, last, later, leads, within, answered, asksNothing⟩
    rcases h : network.exchange last later with ⟨exchange, after⟩
    rw [h] at answered
    cases answered
    rw [follow_of_leads leads within, follow_of_last _ h asksNothing]
    exact ⟨last.url, rfl⟩

/-- What a request asks for, its address and its fields aside. -/
def contentOf (request : Outbound) : String × Bytes := (request.method, request.body)

/-- The content of a request that only reads. -/
def reading : String × Bytes := ("GET", [])

/-- Whether a redirection repeats the request. -/
def repeats (status : Status) : Bool := [307, 308].contains status

/-- A redirection repeats the request or reads instead. -/
theorem contentOf_next (h : next? request received = some next) :
    contentOf next = if repeats received.status then contentOf request else reading := by
  rcases (redirects_next h).follows with ⟨status, reads⟩ | ⟨status, again⟩
  · have other : repeats received.status = false := by
      simp only [List.mem_cons, List.not_mem_nil, or_false] at status
      rcases status with look | look | look <;> rw [look] <;> rfl
    rw [other, contentOf, reads.method, reads.body]
    rfl
  · rw [repeats, if_pos (List.contains_iff_mem.mpr status), contentOf, again.method, again.body]
    rfl

/-- Along redirections a request is repeated, or only reading is sent. -/
theorem Leads.contentOf_mem (h : Leads network request state followed last later) :
    ∀ sent ∈ followed ++ [last], contentOf sent = contentOf request ∨ contentOf sent = reading := by
  induction h with
  | here request state =>
    intro sent member
    rw [List.mem_singleton.mp member]
    exact .inl rfl
  | @on request next last state between later received followed answered asks usable rest ih =>
    rw [List.cons_append, List.forall_mem_cons]
    refine ⟨.inl rfl, fun sent member => ?_⟩
    rcases ih sent member with same | reads
    · rw [same, contentOf_next asks]
      split
      · exact .inl rfl
      · exact .inr rfl
    · exact .inr reads

/-- The first request that is sent is the one that was given. -/
theorem Leads.head?_append (h : Leads network request state followed last later) :
    (followed ++ [last]).head? = some request := by
  cases h with
  | here => rfl
  | on => rfl

/-- The address that a text gives, if it can be asked. -/
def address? (text : String) : Option Url :=
  (Url.parse? text).filter fun url => isUsable (withCredentials url []).1

/-- The first request for an address, unless it cannot be asked. -/
def request? (method address : String) (headers : Headers) (body : Bytes) : Option Outbound :=
  (Url.parse? address).bind fun url =>
    let (url, headers) := withCredentials url headers
    if isUsable url then
      some ⟨method, url, headers.setMissing "accept" (Bytes.ofText "*/*"), body⟩
    else none

/-- Whether anything is asked depends on the address alone. -/
theorem request?_eq (method address : String) (headers : Headers) (body : Bytes) :
    request? method address headers body = (address? address).map fun url =>
      ⟨method, (withCredentials url headers).1,
        (withCredentials url headers).2.setMissing "accept" (Bytes.ofText "*/*"), body⟩ := by
  cases read : Url.parse? address with
  | none => simp [request?, address?, read]
  | some url =>
    simp only [request?, address?, read, Option.bind_some, Option.filter_some,
      ← withCredentials_fst url headers]
    split <;> rfl

section Send

variable {method address : String} {headers : Headers} {body : Bytes}

/-- What can be asked is sent and followed. -/
theorem send_of_request (h : request? method address headers body = some request)
    (network : Network σ) (state : σ) :
    send network method address headers body state = follow network redirectLimit request state := by
  obtain ⟨url, read, known⟩ := Option.bind_eq_some_iff.mp h
  simp only [send, read]
  simp only at known
  split at known
  · rename_i usable
    cases known
    rw [if_pos usable]
  · contradiction

/-- What cannot be asked is not sent. -/
theorem send_of_none (h : request? method address headers body = none) (network : Network σ)
    (state : σ) :
    ∃ fault, send network method address headers body state = ⟨.error fault, state, []⟩ := by
  unfold send
  cases read : Url.parse? address with
  | none => exact ⟨_, rfl⟩
  | some url =>
    rw [request?, read, Option.bind_some] at h
    simp only at h ⊢
    split
    · rename_i usable
      rw [if_pos usable] at h
      contradiction
    · exact ⟨_, rfl⟩

/-- What can be asked is sent along the redirections that are followed, and once more at their end. -/
theorem exists_leads_send (h : request? method address headers body = some request)
    (network : Network σ) (state : σ) :
    ∃ followed last later, Leads network request state followed last later ∧
      followed.length ≤ redirectLimit ∧
      (send network method address headers body state).sent = followed ++ [last] := by
  obtain ⟨followed, last, later, leads, within, sent, _⟩ :=
    exists_leads network redirectLimit request state
  rw [send_of_request h]
  exact ⟨followed, last, later, leads, within, sent⟩

/-- What is sent brings exactly the answer that concludes it. -/
theorem exists_result_send_eq_ok_iff (network : Network σ) (state : σ) (received : Received) :
    (∃ url, (send network method address headers body state).result = .ok ⟨received, url⟩) ↔
      ∃ request, request? method address headers body = some request ∧
        Concludes network redirectLimit request state received := by
  cases known : request? method address headers body with
  | none =>
    obtain ⟨fault, unsent⟩ := send_of_none known network state
    simp [unsent]
  | some request =>
    rw [send_of_request known, exists_result_follow_eq_ok_iff]
    simp

end Send

end ChatGateway.Http.Client
