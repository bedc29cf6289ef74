import ChatGateway.Proofs.Gateway.Prediction
import ChatGateway.Proofs.Gateway.Routes

/-!
# The policy of the page

An answer tells by its policy whether it belongs to the page. Which policy it gets is decided by the
front of the path, and what serves the path is decided by its route. The two agree on every path but
one: the bare path of the page's files is served like the path with a slash at its end, under the
strict policy.
-/

namespace ChatGateway

variable {σ : Type}

/-- Every path of the page and its files has the front that the policy asks for, except the bare path
of the files. -/
theorem Layer.isPagePath_iff (path : String) :
    isPagePath path = true ↔ Route.isOfPage path = true ∧ path ≠ Route.assetsPath := by
  have front : isPagePath path = true ↔ path = "/" ∨ Route.isBelowAssets path = true := by
    have slashed : (Route.assetsPath ++ "/").toList = "/static/".toList := by decide
    rw [isPagePath, Route.isBelowAssets, slashed, Bool.or_eq_true, decide_eq_true_eq]
  rw [front, Route.isOfPage_iff]
  constructor
  · rintro (rfl | below)
    · decide
    · refine ⟨.inr (.inr below), ?_⟩
      rintro rfl
      revert below
      decide
  · rintro ⟨root | bare | below, other⟩
    · exact .inl root
    · exact absurd bare other
    · exact .inr below

namespace Gateway

variable (gateway : Gateway) (around : Surroundings σ) (world : World σ) (request : Http.Request)

/-- The field with the policy. -/
def policyField : String := "content-security-policy"

/-- The policies of the answer to a request. -/
def policies : List Bytes :=
  ((gateway.service request).run around world).1.headers.values policyField

/-- The policy that an answer leaves with depends on the path alone. -/
theorem policies_eq :
    gateway.policies around world request = [Bytes.ofText (Layer.policy request.target.path)] := by
  rw [policies, service_eq_layered, run_layered_fst]
  exact (Trace.values_setLegal_of_ne _ _ (by decide)).trans
    (Http.Headers.values_setText_self _ _ _)

/-- The policy of the answer agrees with the route of the request: it is that of the page if the path
is routed to the page or to its files, and the strict one otherwise. -/
def PolicyAgrees : Prop :=
  gateway.policies around world request =
    [Bytes.ofText (if Route.isOfPage request.target.path then Layer.pagePolicy else Layer.strictPolicy)]

/-- The policy that an answer leaves with, in terms of the route. -/
theorem policies_eq_of_route :
    gateway.policies around world request = [Bytes.ofText
      (if Route.isOfPage request.target.path ∧ request.target.path ≠ Route.assetsPath then
        Layer.pagePolicy else Layer.strictPolicy)] := by
  rw [policies_eq, Layer.policy]
  simp only [Layer.isPagePath_iff]

/-- The policy agrees with the route on every path but the bare path of the files, which has the strict
one. -/
theorem policyAgrees_iff :
    gateway.policies around world request = [Bytes.ofText
      (if Route.isOfPage request.target.path ∧ request.target.path ≠ Route.assetsPath then
        Layer.pagePolicy else Layer.strictPolicy)] ∧
    (PolicyAgrees gateway around world request ↔ request.target.path ≠ Route.assetsPath) := by
  have policies := gateway.policies_eq_of_route around world request
  refine ⟨policies, ?_⟩
  rw [PolicyAgrees, policies, List.singleton_inj, Bytes.ofText_inj]
  by_cases bare : request.target.path = Route.assetsPath
  · rw [bare]
    decide
  · simp [bare]

/-- A request for the bare path of the files. -/
def bareAssets : Http.Request where
  method := "GET"
  target := { path := "/static" }
  headers := []
  body := []

/-- The bare path of the files is routed to them and has the strict policy. -/
theorem not_policyAgrees_of_bareAssets :
    ¬ PolicyAgrees echoing echoingSurroundings { responder := () } bareAssets := by
  rw [PolicyAgrees, policies_eq, List.singleton_inj, Bytes.ofText_inj]
  decide

end Gateway

end ChatGateway
