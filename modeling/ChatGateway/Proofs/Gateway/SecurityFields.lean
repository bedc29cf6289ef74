import ChatGateway.Proofs.Gateway.RequestId

/-!
# The security fields of every answer

The security layer makes four fields of an answer single and touches nothing else of it, whatever
service is inside it and however many values that service gave them. In the gateway the layer is
around everything that serves a request, so every answer leaves with the four fields, and differs from
what was served in them and in the id alone.
-/

namespace ChatGateway

namespace Http

/-- Whether a name is that of one of the fields. -/
def isNamed (fields : List (String × String)) (name : String) : Bool :=
  (fields.map Prod.fst).contains name

/-- The header fields with each of the texts as the only value of its name. -/
def Headers.setTexts (headers : Headers) (fields : List (String × String)) : Headers :=
  fields.foldl (fun headers field => headers.setText field.1 field.2) headers

/-- The second response is the first one with each of the texts as the only value of its name. -/
structure Sets (fields : List (String × String)) (inner outer : Response) : Prop where
  status : outer.status = inner.status
  body : outer.body = inner.body
  /-- The fields of all other names are the same, in the same order. -/
  others : (outer.headers.filter fun field => !isNamed fields field.name) =
    inner.headers.filter fun field => !isNamed fields field.name
  values : ∀ field ∈ fields, outer.headers.values field.1 = [Bytes.ofText field.2]

namespace Headers

/-- Setting fields keeps all fields of other names, in their order. -/
theorem filter_setTexts (keep : String → Bool) (headers : Headers) {fields : List (String × String)}
    (dropped : ∀ field ∈ fields, keep field.1 = false) :
    (headers.setTexts fields).filter (keep ·.name) = headers.filter (keep ·.name) := by
  induction fields generalizing headers with
  | nil => rfl
  | cons first rest ih =>
    rw [List.forall_mem_cons] at dropped
    rw [setTexts, List.foldl_cons]
    exact (ih _ dropped.2).trans (headers.filter_setText keep first.2 dropped.1)

/-- A name that is not set keeps its values. -/
theorem values_setTexts_of_not_mem (headers : Headers) {fields : List (String × String)}
    {name : String} (h : name ∉ fields.map Prod.fst) :
    (headers.setTexts fields).values name = headers.values name := by
  induction fields generalizing headers with
  | nil => rfl
  | cons first rest ih =>
    rw [List.map_cons, List.mem_cons, not_or] at h
    rw [setTexts, List.foldl_cons]
    exact (ih _ h.2).trans (headers.values_setText_of_ne first.2 h.1)

/-- If no name occurs twice, each text becomes the only value of its name. -/
theorem values_setTexts_of_mem (headers : Headers) {fields : List (String × String)}
    (distinct : (fields.map Prod.fst).Nodup) {field : String × String} (h : field ∈ fields) :
    (headers.setTexts fields).values field.1 = [Bytes.ofText field.2] := by
  induction fields generalizing headers with
  | nil => contradiction
  | cons first rest ih =>
    rw [List.map_cons, List.nodup_cons] at distinct
    rw [setTexts, List.foldl_cons]
    rcases List.mem_cons.mp h with rfl | later
    · exact (values_setTexts_of_not_mem _ distinct.1).trans (headers.values_setText_self _ _)
    · exact ih _ distinct.2 later

end Headers

/-- If no name occurs twice, a response with the texts set is one that has them as the only values. -/
theorem sets_setTexts {fields : List (String × String)} (distinct : (fields.map Prod.fst).Nodup)
    (response : Response) :
    Sets fields response { response with headers := response.headers.setTexts fields } := by
  refine ⟨rfl, rfl, ?_, fun field listed => response.headers.values_setTexts_of_mem distinct listed⟩
  refine response.headers.filter_setTexts (fun name => !isNamed fields name) fun field listed => ?_
  have named : field.1 ∈ fields.map Prod.fst := List.mem_map_of_mem listed
  simp [isNamed, named]

end Http

namespace Layer

/-- The policy in words: what belongs to the page may load what the service has itself, and nothing
else may load anything. -/
def policyText (path : String) : String :=
  if isPagePath path then
    "default-src 'self'; script-src 'self'; style-src 'self'; img-src 'self' data:; " ++
      "connect-src 'self'; frame-ancestors 'none'"
  else "default-src 'none'; frame-ancestors 'none'"

/-- The security fields of an answer to a request for a path. -/
def securityTexts (path : String) : List (String × String) :=
  [("x-content-type-options", "nosniff"), ("x-frame-options", "DENY"),
    ("referrer-policy", "no-referrer"), ("content-security-policy", policyText path)]

/-- The id of a request and the security fields of its answer. -/
def layerTexts (id path : String) : List (String × String) :=
  securityTexts path ++ [(Trace.requestIdField, id)]

/-- No field is set twice. -/
theorem nodup_layerTexts (id path : String) : ((layerTexts id path).map Prod.fst).Nodup := by
  simp [layerTexts, securityTexts, Trace.requestIdField]

/-- The security layer sets its fields one after the other. -/
theorem secure_eq (path : String) (response : Http.Response) :
    secure path response =
      { response with headers := response.headers.setTexts (securityTexts path) } := rfl

/-- The security layer gives every answer its four fields and does nothing else to it. -/
theorem sets_secure (path : String) (response : Http.Response) :
    Http.Sets (securityTexts path) response (secure path response) := by
  have distinct := nodup_layerTexts "" path
  rw [layerTexts, List.map_append, List.nodup_append] at distinct
  exact Http.sets_setTexts distinct.1 response

/-- A legal id is one more field that is set. -/
theorem sets_stamped {id : String} (legal : Http.isFieldValue (Bytes.ofText id) = true)
    (path : String) (response : Http.Response) :
    Http.Sets (layerTexts id path) response (stamped id (secure path response)) := by
  have fields : stamped id (secure path response) =
      { response with headers := response.headers.setTexts (layerTexts id path) } := by
    rw [stamped, Trace.setLegal, if_pos legal, secure_eq, Http.Headers.setTexts,
      Http.Headers.setTexts, layerTexts, List.foldl_append]
    rfl
  rw [fields]
  exact Http.sets_setTexts (nodup_layerTexts id path) response

end Layer

namespace Gateway

variable {σ : Type}

/-- Around any service the security layer sets its four fields and does nothing else. Every answer of
the gateway is what was served inside its layers, with the four fields and the id set. -/
theorem sets_everywhere (around : Surroundings σ) (world : World σ) (request : Http.Request) :
    (∀ inner : Service,
      let served := (inner request).run around world
      let secured := (Layer.security inner request).run around world
      Http.Sets (Layer.securityTexts request.target.path) served.1 secured.1 ∧
        secured.2 = served.2 ∧
        (Layer.security inner request).notices around world = (inner request).notices around world) ∧
    ∀ gateway : Gateway,
      let id := Layer.idIn around world request.headers
      let served := (gateway.dispatch (Layer.identified id request)).run around
        (Layer.idWorld around world request.headers)
      let response := ((gateway.service request).run around world).1
      Http.Sets (Layer.layerTexts id request.target.path) served.1 response ∧
        ∀ field ∈ Layer.securityTexts request.target.path,
          response.headers.values field.1 = [Bytes.ofText field.2] := by
  refine ⟨fun inner => ?_, fun gateway => ?_⟩
  · rw [Layer.run_security]
    exact ⟨Layer.sets_secure _ _, rfl, Layer.notices_security around inner request world⟩
  · intro id served response
    have legal := Http.isFieldValue_of_visible (Layer.idIn_visible around world request.headers)
    have left : response = Layer.stamped id (Layer.secure request.target.path served.1) :=
      run_layered_fst around gateway.dispatch request world
    have sets : Http.Sets (Layer.layerTexts id request.target.path) served.1 response := by
      rw [left]
      exact Layer.sets_stamped legal request.target.path served.1
    exact ⟨sets, fun field listed => sets.values field (List.mem_append_left _ listed)⟩

end Gateway

end ChatGateway
