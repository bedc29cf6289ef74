import ChatGateway.Gateway.Router

/-!
# Which paths are routed where

Five paths are templates: each is routed to an endpoint of its own, whose requests are counted under
that path. Every other path is routed to the files of the page, if it is theirs or below theirs, or
nowhere, and its requests are not counted.
-/

namespace ChatGateway

namespace Route

/-- The templates of the counted routes. -/
def templates : List String := ["/", "/predict", "/health", "/ready", "/metrics"]

/-- Whether a path is below the path of the files. -/
def isBelowAssets (path : String) : Bool := (assetsPath ++ "/").toList.isPrefixOf path.toList

/-- A path that is no template can only be one of the files. -/
theorem ofPath?_of_not_mem {path : String} (h : path ∉ templates) :
    ofPath? path =
      if path = assetsPath then some (.assets "/")
      else if isBelowAssets path then
        some (.assets (String.ofList (path.toList.drop assetsPath.length)))
      else none := by
  simp only [templates, List.mem_cons, List.not_mem_nil, or_false, not_or] at h
  obtain ⟨root, predict, health, ready, metrics⟩ := h
  simp only [ofPath?, root, predict, health, ready, metrics, if_false]
  rfl

/-- A path is routed under the template that equals it, and under no other. -/
theorem template?_of_ofPath? (path : String) :
    (ofPath? path).bind template? = if path ∈ templates then some path else none := by
  by_cases template : path ∈ templates
  · rw [if_pos template]
    simp only [templates, List.mem_cons, List.not_mem_nil, or_false] at template
    rcases template with rfl | rfl | rfl | rfl | rfl <;> decide
  · rw [if_neg template, ofPath?_of_not_mem template]
    split
    · rfl
    · split <;> rfl

/-- What is routed under a template is that path. -/
theorem eq_of_template? {path template : String} {route : Route} (found : ofPath? path = some route)
    (h : route.template? = some template) : path = template := by
  have routed := template?_of_ofPath? path
  rw [found, Option.bind_some, h] at routed
  split at routed
  · exact (Option.some.inj routed).symm
  · contradiction

/-- Whether a path is routed to the page or to its files. -/
def isOfPage (path : String) : Bool :=
  match ofPath? path with
  | some .page | some (.assets _) => true
  | _ => false

/-- The page is at the root, and its files are at their path and everywhere below it. -/
theorem isOfPage_iff (path : String) :
    isOfPage path = true ↔ path = "/" ∨ path = assetsPath ∨ isBelowAssets path = true := by
  by_cases template : path ∈ templates
  · simp only [templates, List.mem_cons, List.not_mem_nil, or_false] at template
    rcases template with rfl | rfl | rfl | rfl | rfl <;> decide
  · have root : path ≠ "/" := by
      rintro rfl
      exact template List.mem_cons_self
    rw [isOfPage, ofPath?_of_not_mem template]
    by_cases bare : path = assetsPath
    · simp [bare]
    · cases below : isBelowAssets path <;> simp [root, bare]

end Route

namespace Gateway

variable (gateway : Gateway) {request : Http.Request}

/-- A request for a template is served by a counted endpoint, under the template. -/
theorem dispatch_of_template (h : request.target.path ∈ Route.templates) :
    ∃ route, gateway.dispatch request = Layer.count (gateway.endpoint route).serve
      { request with route := some request.target.path } := by
  have template := Route.template?_of_ofPath? request.target.path
  rw [if_pos h] at template
  obtain ⟨route, found, template⟩ := Option.bind_eq_some_iff.mp template
  refine ⟨route, ?_⟩
  cases route with
  | assets below => contradiction
  | _ => simp only [dispatch, found, template]

/-- Any other request is for a file, or for nothing. -/
theorem dispatch_of_not_template (h : request.target.path ∉ Route.templates) :
    gateway.dispatch request = .done Endpoint.absent ∨
      ∃ below, gateway.dispatch request = gateway.serveFile below request := by
  have template := Route.template?_of_ofPath? request.target.path
  rw [if_neg h, Option.bind_eq_none_iff] at template
  cases found : Route.ofPath? request.target.path with
  | none => exact .inl (by simp only [dispatch, found])
  | some route =>
    cases route with
    | assets below => exact .inr ⟨below, by simp only [dispatch, found]⟩
    | _ => exact absurd (template _ found) nofun

end Gateway

end ChatGateway
