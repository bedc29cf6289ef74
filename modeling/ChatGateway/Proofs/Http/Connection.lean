import ChatGateway.Http.Client
import ChatGateway.Proofs.Http.Fields

/-!
# Connections

A connection brings the requests of a client to a server and the answers back. The fields that
it adds or takes away for itself are its own affair. Of all others it carries the values without
the spaces and tabs around them, so a value of nothing else arrives empty.
-/

namespace ChatGateway.Http

/-- Whether an octet at the end of a value is not carried. -/
def isPadding (b : UInt8) : Bool := b = 0x20 || b = 0x09

/-- A value without the spaces and tabs around it. -/
def trimmed (value : Bytes) : Bytes :=
  ((value.dropWhile isPadding).reverse.dropWhile isPadding).reverse

/-- Trimming adds no octets. -/
theorem mem_of_mem_trimmed {value : Bytes} {b : UInt8} (h : b ∈ trimmed value) : b ∈ value := by
  rw [trimmed, List.mem_reverse] at h
  have inside := (List.dropWhile_sublist _).subset h
  rw [List.mem_reverse] at inside
  exact (List.dropWhile_sublist _).subset inside

/-- What is trimmed of a visible value is visible. -/
theorem visible_trimmed {value : Bytes} (h : value.all isVisible = true) :
    (trimmed value).all isVisible = true := by
  rw [List.all_eq_true] at h ⊢
  exact fun b hb => h b (mem_of_mem_trimmed hb)

/-- The fields that a connection uses for itself. -/
def connectionFields : List String :=
  ["host", "connection", "keep-alive", "te", "trailer", "transfer-encoding", "upgrade", "content-length"]

/-- Whether an answer with this status may have a body. -/
def mayHaveBody (status : Status) : Bool := 200 ≤ status && status ≠ 204 && status ≠ 304

/-- A connection between a client and a server, as far as the two rely on it. -/
structure Connection where
  /-- The request as it arrives. -/
  deliver : Outbound → Request
  /-- The answer as it comes back. -/
  bring : Response → Received
  method_deliver : ∀ outbound, (deliver outbound).method = outbound.method
  path_deliver : ∀ outbound, Url.pathText outbound.url.path ≠ "" →
    (deliver outbound).target.path = Url.pathText outbound.url.path
  values_deliver : ∀ outbound, ∀ name ∉ connectionFields,
    (deliver outbound).headers.values name = (outbound.headers.values name).map trimmed
  body_deliver : ∀ outbound, (deliver outbound).body = outbound.body
  status_bring : ∀ response, (bring response).status = response.status
  body_bring : ∀ response, mayHaveBody response.status = true →
    (bring response).complete = true ∧ (bring response).body = response.body

namespace Connection

/-- The connection that adds the host and the length of the body. -/
def plain : Connection where
  deliver outbound :=
    { method := outbound.method
      target := { path := Url.pathText outbound.url.path, query := outbound.url.query }
      headers := (outbound.headers.map fun field => ⟨field.name, trimmed field.value⟩) ++
        Headers.ofTexts [
          ("host", outbound.url.host.getD "" ++ Url.portText outbound.url.port),
          ("content-length", Text.decimal outbound.body.length)]
      body := outbound.body }
  bring response :=
    { status := response.status
      headers := response.headers.map fun field => ⟨field.name, trimmed field.value⟩
      body := response.body }
  method_deliver _ := rfl
  path_deliver _ _ := rfl
  values_deliver outbound name other := by
    have noHost : "host" ≠ name := by
      rintro rfl
      exact other (by decide)
    have noLength : "content-length" ≠ name := by
      rintro rfl
      exact other (by decide)
    have added (host length : String) :
        Headers.values (Headers.ofTexts [("host", host), ("content-length", length)]) name = [] := by
      simp [Headers.values, Headers.ofTexts, noHost, noLength]
    rw [Headers.values_append, added, List.append_nil]
    simp only [Headers.values, List.filter_map, List.map_map]
    rfl
  body_deliver _ := rfl
  status_bring _ := rfl
  body_bring _ _ := ⟨rfl, rfl⟩

end Connection

end ChatGateway.Http
