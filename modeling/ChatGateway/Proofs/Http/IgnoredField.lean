import ChatGateway.Proofs.Http.Redirection

/-!
# Fields that are ignored

A network may ignore a field: requests that differ in it alone are answered alike, and leave states
that it takes for alike. A fetch does not look at the fields that it sends, except at those that it
writes itself. So on such a network fetches that differ in an ignored field end alike, and send the
same requests up to that field.
-/

namespace ChatGateway.Http

variable {σ : Type} {name : String}

/-- The request without the fields of a name. -/
def Outbound.without (name : String) (request : Outbound) : Outbound :=
  { request with headers := request.headers.erase name }

/-- Without some fields the request goes to the same address. -/
theorem Outbound.url_of_without {first second : Outbound}
    (same : first.without name = second.without name) : first.url = second.url :=
  (Outbound.mk.inj same).2.1

/-- Answers do not depend on the fields of the name, up to the states that are alike. -/
structure Network.Ignores (network : Network σ) (name : String) (alike : σ → σ → Prop) : Prop where
  refl : ∀ state, alike state state
  exchange : ∀ {first second : Outbound} {state other : σ},
    first.without name = second.without name → alike state other →
      (network.exchange first state).1 = (network.exchange second other).1 ∧
        alike (network.exchange first state).2 (network.exchange second other).2

/-- What was recorded is the same up to the fields of the name, and else the states are alike. -/
def Network.AlikeWithout (name : String) (alike : σ → σ → Prop) (first second : σ × List Outbound) :
    Prop :=
  alike first.1 second.1 ∧ first.2.map (·.without name) = second.2.map (·.without name)

/-- A network that ignores a field does so while it is recorded. -/
theorem Network.Ignores.recording {network : Network σ} {alike : σ → σ → Prop}
    (h : network.Ignores name alike) :
    network.recording.Ignores name (Network.AlikeWithout name alike) where
  refl state := ⟨h.refl state.1, rfl⟩
  exchange same states := by
    obtain ⟨answered, left⟩ := h.exchange same states.1
    refine ⟨answered, left, ?_⟩
    simp only [Network.recording, List.map_append, List.map_singleton, states.2, same]

/-- The network that answers every request alike. -/
def Network.constant (received : Received) : Network σ := ⟨fun _ state => (.answered received, state)⟩

/-- A network that always sends the same back ignores every field. -/
theorem Network.ignores_constant (received : Received) (name : String) :
    (Network.constant received : Network σ).Ignores name Eq :=
  ⟨fun _ => rfl, fun _ same => ⟨rfl, same⟩⟩

/-- The fetches end alike, and sent the same up to the fields of the name. -/
structure Fetched.Agrees (name : String) (alike : σ → σ → Prop) (first second : Fetched σ) :
    Prop where
  result : first.result = second.result
  state : alike first.state second.state
  sent : first.sent.map (·.without name) = second.sent.map (·.without name)

namespace Headers

/-- It does not matter which of two fields is left out first. -/
theorem erase_comm (headers : Headers) (first second : String) :
    (headers.erase first).erase second = (headers.erase second).erase first := by
  rw [erase, erase, List.filter_filter, erase, erase, List.filter_filter]
  exact List.filter_congr fun _ _ => Bool.and_comm _ _

/-- It does not matter whether a field is left out before or after others. -/
theorem foldl_erase_comm (names : List String) (headers : Headers) (name : String) :
    names.foldl erase (headers.erase name) = (names.foldl erase headers).erase name := by
  induction names generalizing headers with
  | nil => rfl
  | cons first rest ih => rw [List.foldl_cons, erase_comm, ih, List.foldl_cons]

/-- A name occurs just as before when another one is erased. -/
theorem contains_erase_of_ne (headers : Headers) {other : String} (h : other ≠ name) :
    (headers.erase name).contains other = headers.contains other := by
  induction headers with
  | nil => rfl
  | cons field rest ih =>
    simp only [contains, erase] at ih ⊢
    by_cases dropped : field.name = name
    · rw [List.filter_cons_of_neg (by simp [dropped]), ih]
      simp [dropped, Ne.symm h]
    · rw [List.filter_cons_of_pos (by simp [dropped]), List.any_cons, List.any_cons, ih]

/-- Setting one name and erasing another may come in any order. -/
theorem erase_setText (headers : Headers) {other : String} (text : String) (h : other ≠ name) :
    (headers.setText other text).erase name = (headers.erase name).setText other text := by
  unfold setText
  induction headers with
  | nil => simp [set, erase, h]
  | cons field rest ih =>
    by_cases here : field.name = other
    · have kept : field.name ≠ name := here ▸ h
      have first : erase (field :: rest) name = field :: erase rest name :=
        List.filter_cons_of_pos (by simp [kept])
      rw [first, set, if_pos here, set, if_pos here, erase_comm]
      exact List.filter_cons_of_pos (by simp [h])
    · rw [set, if_neg here]
      simp only [erase] at ih ⊢
      by_cases dropped : field.name = name
      · rw [List.filter_cons_of_neg (by simp [dropped]), List.filter_cons_of_neg (by simp [dropped]), ih]
      · rw [List.filter_cons_of_pos (by simp [dropped]), List.filter_cons_of_pos (by simp [dropped]), ih,
          set, if_neg here]

/-- Supplying one name and erasing another may come in any order. -/
theorem erase_setMissing (headers : Headers) {other : String} (value : Bytes) (h : other ≠ name) :
    (headers.setMissing other value).erase name = (headers.erase name).setMissing other value := by
  unfold setMissing
  rw [headers.contains_erase_of_ne h]
  split
  · rfl
  · simp [erase, h]

end Headers

namespace Client

/-- Sending a request elsewhere keeps what the other fields of it are. -/
theorem atUrl_without (request : Outbound) (url : Url) (h : refererField ≠ name) :
    atUrl (request.without name) url = (atUrl request url).without name := by
  have told : (if sameHost request.url url then request.headers.erase name
      else (request.headers.erase name).erase authorizationField) =
      (if sameHost request.url url then request.headers
        else request.headers.erase authorizationField).erase name := by
    split
    · rfl
    · rw [Headers.erase_comm]
  unfold atUrl Outbound.without
  simp only [told]
  cases referer? request.url url with
  | none => rfl
  | some text => simp only [Headers.erase_setText _ text h]

/-- Which request an answer asks for depends on the fields of the name only in these fields. -/
theorem next?_without (request : Outbound) (received : Received) (h : refererField ≠ name) :
    next? (request.without name) received = (next? request received).map (·.without name) := by
  have repeated : redirected? (request.without name) received.status =
      (redirected? request received.status).map (·.without name) := by
    unfold redirected?
    split
    · simp only [readingInstead, Outbound.without, Headers.foldl_erase_comm, Option.map_some]
    · split <;> rfl
  rw [next?, next?, repeated]
  cases redirected? request received.status with
  | none => rfl
  | some next =>
    change (location? request.url received).map _ = ((location? request.url received).map _).map _
    rw [Option.map_map]
    exact congrFun (congrArg Option.map (funext fun url => atUrl_without next url h)) _

variable {network : Network σ} {alike : σ → σ → Prop}

/-- On a network that ignores a field, requests that differ in it alone are followed alike. -/
theorem follow_agrees (ignores : network.Ignores name alike) (hreferer : refererField ≠ name) (left : Nat)
    {first second : Outbound} {state other : σ} (same : first.without name = second.without name) (states : alike state other) :
    (follow network left first state).Agrees name alike (follow network left second other) := by
  induction left using Nat.strongRecOn generalizing first second state other with
  | ind left ih =>
    have url : first.url = second.url := Outbound.url_of_without same
    have sent : [first].map (·.without name) = [second].map (·.without name) := by
      rw [List.map_singleton, List.map_singleton, same]
    obtain ⟨answered, later⟩ := ignores.exchange same states
    rcases h : network.exchange first state with ⟨_ | received, between⟩ <;>
      rcases h' : network.exchange second other with ⟨_ | received', between'⟩ <;>
      rw [h, h'] at answered later <;> cases answered
    · rw [follow_of_failed left h, follow_of_failed left h', url]
      exact ⟨rfl, later, sent⟩
    · have asks : (next? second received).map (·.without name) =
          (next? first received).map (·.without name) := by
        rw [← next?_without _ _ hreferer, ← next?_without _ _ hreferer, same]
      cases hnext : next? first received with
      | none =>
        rw [hnext, Option.map_none, Option.map_eq_none_iff] at asks
        rw [follow_of_last left h hnext, follow_of_last left h' asks, url]
        exact ⟨rfl, later, sent⟩
      | some next =>
        rw [hnext, Option.map_some, Option.map_eq_some_iff] at asks
        obtain ⟨next', hnext', again⟩ := asks
        have nextUrl : next'.url = next.url := Outbound.url_of_without again
        rw [follow_of_next left h hnext, follow_of_next left h' hnext', url, nextUrl]
        cases left with
        | zero => exact ⟨rfl, later, sent⟩
        | succ left =>
          simp only
          split
          · obtain ⟨result, ends, rest⟩ := ih left (Nat.lt_succ_self left) again.symm later
            refine ⟨result, ends, ?_⟩
            simp only [Fetched.precede, List.map_cons, same, rest]
          · exact ⟨rfl, later, sent⟩

/-- Fields that differ in an ignored one alone are sent alike. -/
theorem send_agrees (ignores : network.Ignores name alike) (h : "accept" ≠ name)
    (hreferer : refererField ≠ name)
    (method address : String) {headers headers' : Headers}
    (same : headers.erase name = headers'.erase name) (body : Bytes) {state other : σ}
    (states : alike state other) :
    (send network method address headers body state).Agrees name alike
      (send network method address headers' body other) := by
  have credentials (url : Url) :
      (withCredentials url headers).1 = (withCredentials url headers').1 ∧
        (withCredentials url headers).2.erase name = (withCredentials url headers').2.erase name := by
    unfold withCredentials
    split
    · exact ⟨rfl, same⟩
    · refine ⟨rfl, ?_⟩
      unfold Headers.erase at same ⊢
      rw [List.filter_cons, List.filter_cons, same]
  unfold send
  cases Url.parse? address with
  | none => exact ⟨rfl, states, rfl⟩
  | some url =>
    obtain ⟨url', fields⟩ := credentials url
    simp only [url']
    split
    · refine follow_agrees ignores hreferer redirectLimit ?_ states
      simp only [Outbound.without, Headers.erase_setMissing _ _ h, fields]
    · exact ⟨rfl, states, rfl⟩

end Client

end ChatGateway.Http
