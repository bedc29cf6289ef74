import ChatGateway.Proofs.Gateway.RouteCounts
import ChatGateway.Proofs.Gateway.SecurityFields
import ChatGateway.Proofs.Trace.Stamp

/-!
# Layers in any arrangement

Three layers may be put around a service in any order, and each of them more than once: the one that
gives the request its id, the one that sets the security fields of the answer, and the one that counts
the request. Which of them there are decides on which request the service is called, and what becomes of
its answer. How often and in what order they occur does not matter, except that every layer that counts
counts the request once more.

An id is chosen by the outermost layer that gives ids. Those further inside find it on the request, since
a chosen id is visible and not empty, and choose it again.
-/

namespace ChatGateway

variable {σ : Type}

namespace Http

/-- The responses have the same status, the same body and the same fields, up to the order of fields
with different names. -/
structure Response.Same (first second : Response) : Prop where
  status : first.status = second.status
  body : first.body = second.body
  values : ∀ name, first.headers.values name = second.headers.values name

/-- Leaving out the names of two lists is leaving out those of one and then those of the other. -/
theorem filter_not_isNamed_append (first second : List (String × String)) (headers : Headers) :
    (headers.filter fun field => !isNamed (first ++ second) field.name) =
      (headers.filter fun field => !isNamed first field.name).filter fun field =>
        !isNamed second field.name := by
  rw [List.filter_filter]
  apply List.filter_congr
  intro field _
  rw [isNamed, List.map_append, List.contains_append, Bool.not_or, Bool.and_comm]
  rfl

namespace Sets

variable {fields more : List (String × String)} {inner outer other : Response}

/-- Setting further texts adds them to those that are set, if no name is given two texts. -/
theorem setTexts (h : Sets fields inner outer) (distinct : (more.map Prod.fst).Nodup)
    (agree : ∀ field ∈ fields, ∀ again ∈ more, field.1 = again.1 → field = again) :
    Sets (more ++ fields) inner { outer with headers := outer.headers.setTexts more } := by
  have last := sets_setTexts distinct outer
  constructor
  case status => exact h.status
  case body => exact h.body
  case others =>
    rw [filter_not_isNamed_append, last.others, List.filter_comm, h.others, List.filter_comm,
      ← filter_not_isNamed_append]
  case values =>
    intro field listed
    rcases List.mem_append.mp listed with set | kept
    · exact last.values field set
    · by_cases named : field.1 ∈ more.map Prod.fst
      · obtain ⟨again, set, same⟩ := List.mem_map.mp named
        rw [agree field kept again set same.symm]
        exact last.values again set
      · exact (Headers.values_setTexts_of_not_mem _ named).trans (h.values field kept)

/-- Other fields are as they were. -/
theorem values_of_not_mem (h : Sets fields inner outer) {name : String}
    (other : name ∉ fields.map Prod.fst) : outer.headers.values name = inner.headers.values name := by
  have kept (headers : Headers) :
      (headers.filter fun field => !isNamed fields field.name).filter (·.name = name) =
        headers.filter (·.name = name) := by
    rw [List.filter_filter]
    apply List.filter_congr
    intro field _
    by_cases here : field.name = name
    · simp [isNamed, here, other]
    · simp [here]
  rw [Headers.values, Headers.values, ← kept, h.others, kept]

/-- Setting the same texts makes the same of a response. -/
theorem same {fields' : List (String × String)} (h : Sets fields inner outer)
    (h' : Sets fields' inner other) (listed : ∀ field, field ∈ fields ↔ field ∈ fields') :
    outer.Same other := by
  constructor
  case status => rw [h.status, h'.status]
  case body => rw [h.body, h'.body]
  case values =>
    intro name
    by_cases named : name ∈ fields.map Prod.fst
    · obtain ⟨field, set, rfl⟩ := List.mem_map.mp named
      rw [h.values field set, h'.values field ((listed field).mp set)]
    · have unnamed : name ∉ fields'.map Prod.fst := by
        simpa only [List.mem_map, listed] using named
      rw [h.values_of_not_mem named, h'.values_of_not_mem unnamed]

end Sets

end Http

/-- The text of an identifier is never empty. -/
theorem Uuid.text_ne_empty (uuid : Uuid) : uuid.text ≠ "" := by
  have dash : '-' ∈ uuid.chars := by simp [chars]
  intro empty
  rw [text, String.ofList_eq_empty_iff] at empty
  simp [empty] at dash

namespace Layer

/-- The kinds of layers that may be arranged around a service. -/
inductive Kind where
  | requestId
  | security
  | count
  deriving DecidableEq, Repr

namespace Kind

/-- The layer of a kind. -/
def layer : Kind → Layer
  | requestId => Layer.requestId
  | security => Layer.security
  | count => Layer.count

/-- The fields that a layer sets on the answer to a request for a path that is served under an id. -/
def texts (id path : String) : Kind → List (String × String)
  | requestId => [(Trace.requestIdField, id)]
  | security => securityTexts path
  | count => []

/-- A layer sets each of its fields once. -/
theorem nodup_texts (id path : String) (kind : Kind) : ((kind.texts id path).map Prod.fst).Nodup := by
  cases kind <;> simp [texts, securityTexts]

/-- No field is given two texts. -/
theorem texts_agree {id path : String} {kind other : Kind} {field again : String × String}
    (h : field ∈ kind.texts id path) (h' : again ∈ other.texts id path) (same : field.1 = again.1) :
    field = again := by
  have listed {kind : Kind} {field : String × String} (h : field ∈ kind.texts id path) :
      field ∈ layerTexts id path := by
    cases kind with
    | requestId => exact List.mem_append_right _ h
    | security => exact List.mem_append_left _ h
    | count => contradiction
  exact List.inj_on_of_nodup_map (nodup_layerTexts id path) (listed h) (listed h') same

end Kind

/-- A service inside layers, the first of which is the outermost. -/
def arrange (kinds : List Kind) (inner : Service) : Service := kinds.foldr Kind.layer inner

section Arrival

/-- How a request arrives at the service inside: on which request the service is called, in which world,
and what was noticed before. -/
structure Arrival (σ : Type) where
  request : Http.Request
  world : World σ
  notices : List (Notice σ)

variable (kind : Kind) (kinds : List Kind) (inner : Service) (around : Surroundings σ) (world : World σ)
  (request : Http.Request)

/-- A request arrives under an id if any of the layers gives ids, and as it came if none does. -/
def arrival : Arrival σ :=
  if .requestId ∈ kinds then
    { request := identified (idIn around world request.headers) request
      world := idWorld around world request.headers
      notices := idNotices around world request.headers }
  else { request, world, notices := [] }

/-- The id of a request is never empty, whether it came with the request or is new. -/
theorem idIn_ne_empty (headers : Http.Headers) : idIn around world headers ≠ "" := by
  cases given : givenId? headers with
  | none =>
    rw [idIn, given]
    exact Uuid.text_ne_empty _
  | some id =>
    rw [idIn, given, Option.getD_some, ne_eq, ← Bytes.ofText_inj]
    exact ((givenId?_eq_some_iff headers id).mp given).notEmpty

/-- The id of an identified request is found again, -/
theorem givenId?_identified (headers : Http.Headers) :
    givenId? (identified (idIn around world headers) request).headers =
      some (idIn around world headers) := by
  have visible := idIn_visible around world headers
  have own := Trace.values_setLegal_self request.headers Trace.requestIdField
    (Http.isFieldValue_of_visible visible)
  apply (givenId?_eq_some_iff _ _).mpr
  constructor
  case first => exact congrArg List.head? own
  case notEmpty => exact fun empty => idIn_ne_empty around world headers (Bytes.ofText_inj.mp empty)
  case visible => exact visible

/-- An identified request keeps its id, whatever happens in between. -/
theorem idIn_identified (later : World σ) (headers : Http.Headers) :
    idIn around later (identified (idIn around world headers) request).headers =
      idIn around world headers := by
  rw [idIn, givenId?_identified, Option.getD_some]

/-- Nothing is drawn for a request that is identified already. -/
theorem idNotices_identified (later : World σ) (headers : Http.Headers) :
    idNotices around later (identified (idIn around world headers) request).headers = [] := by
  rw [idNotices, givenId?_identified]
  rfl

/-- and giving it once more changes nothing. -/
theorem identified_identified (id : String) :
    identified id (identified id request) = identified id request := by
  have again : Trace.setLegal (Trace.setLegal request.headers Trace.requestIdField id)
      Trace.requestIdField id = Trace.setLegal request.headers Trace.requestIdField id := by
    apply Trace.setLegal_of_values
    intro legal
    exact Trace.values_setLegal_self _ _ (isFieldValue_iff.mpr legal)
  simp only [identified, again]

/-- A request that has arrived under an id arrives so again, and nothing is noticed of it. -/
theorem arrival_identified :
    let id := idIn around world request.headers
    arrival kinds around (idWorld around world request.headers) (identified id request) =
      { request := identified id request
        world := idWorld around world request.headers
        notices := [] } := by
  intro id
  unfold arrival
  split
  · rw [idIn_identified, identified_identified, idWorld, idNotices_identified]
    rfl
  · rfl

/-- What arrives through the outermost layer arrives through the others. -/
theorem arrival_cons :
    let came := arrival [kind] around world request
    let further := arrival kinds around came.world came.request
    arrival (kind :: kinds) around world request =
      { further with notices := came.notices ++ further.notices } := by
  intro came further
  cases kind with
  | requestId =>
    -- The id is chosen here; the layers further inside find it and draw none.
    have first : came = arrival (.requestId :: kinds) around world request := by
      simp [came, arrival]
    have again : further = { came with notices := [] } := by
      rw [first]
      exact arrival_identified kinds around world request
    rw [again, List.append_nil, first]
  | security => simp [came, further, arrival]
  | count => simp [came, further, arrival]

/-- The id of a request is the same behind a layer as before it. -/
theorem idIn_arrival :
    let came := arrival [kind] around world request
    idIn around came.world came.request.headers = idIn around world request.headers := by
  cases kind with
  | requestId => exact idIn_identified around world request _ request.headers
  | security => rfl
  | count => rfl

/-- No layer changes the path of a request. -/
theorem path_arrival : (arrival kinds around world request).request.target.path = request.target.path := by
  unfold arrival
  split <;> rfl

/-- No layer changes under which labels a request is counted. -/
theorem servedAs_arrival (status : Http.Status) :
    servedAs (arrival kinds around world request).request status = servedAs request status := by
  unfold arrival
  split <;> rfl

/-- One layer sets its fields on the answer to the request that arrives through it, -/
theorem run_layer_fst :
    let came := arrival [kind] around world request
    let answer := ((inner came.request).run around came.world).1
    let texts := kind.texts (idIn around world request.headers) request.target.path
    ((kind.layer inner request).run around world).1 =
      { answer with headers := answer.headers.setTexts texts } := by
  intro came answer texts
  cases kind with
  | requestId =>
    have legal := Http.isFieldValue_of_visible (idIn_visible around world request.headers)
    have run := congrArg Prod.fst (run_requestId around inner request world)
    rw [stamped, Trace.setLegal, if_pos legal] at run
    exact run
  | security =>
    exact congrArg Prod.fst (run_security around inner request world)
  | count => exact run_count_fst around inner request world

/-- and counts it if it counts. -/
theorem notices_layer :
    let came := arrival [kind] around world request
    let answer := ((inner came.request).run around came.world).1
    (kind.layer inner request).notices around world =
      came.notices ++ ((inner came.request).notices around came.world ++
        if kind = .count then Notice.ofLabels (servedAs request answer.status) else []) := by
  intro came answer
  cases kind with
  | requestId =>
    rw [if_neg (by decide), List.append_nil]
    exact notices_requestId around inner request world
  | security =>
    rw [if_neg (by decide), List.append_nil]
    exact notices_security around inner request world
  | count => exact notices_count around inner request world

/-- The layers set their fields on the answer to the request that arrives through all of them, -/
theorem sets_arrange :
    let came := arrival kinds around world request
    Http.Sets (kinds.flatMap (Kind.texts (idIn around world request.headers) request.target.path))
      ((inner came.request).run around came.world).1
      ((arrange kinds inner request).run around world).1 := by
  induction kinds generalizing world request with
  | nil =>
    have unnamed : (([] : List (String × String)).map Prod.fst).Nodup := List.nodup_nil
    exact Http.sets_setTexts unnamed _
  | cons kind kinds ih =>
    let came := arrival [kind] around world request
    have inside := ih came.world came.request
    rw [idIn_arrival, path_arrival] at inside
    rw [arrival_cons]
    have outside := run_layer_fst kind (arrange kinds inner) around world request
    change Http.Sets _ _ ((kind.layer (arrange kinds inner) request).run around world).1
    rw [outside, List.flatMap_cons]
    -- The same field may have been set further inside, but then to the same text.
    apply inside.setTexts (Kind.nodup_texts _ _ kind)
    intro field listed again set same
    obtain ⟨other, _, listed⟩ := List.mem_flatMap.mp listed
    exact Kind.texts_agree listed set same

/-- and count it as often as there are layers that count. -/
theorem notices_arrange :
    let came := arrival kinds around world request
    let answer := ((inner came.request).run around came.world).1
    (arrange kinds inner request).notices around world =
      came.notices ++ ((inner came.request).notices around came.world ++
        (List.replicate (kinds.count .count) (servedAs request answer.status)).flatMap Notice.ofLabels) := by
  induction kinds generalizing world request with
  | nil => simp [arrange, arrival]
  | cons kind kinds ih =>
    let came := arrival [kind] around world request
    let further := arrival kinds around came.world came.request
    let status := ((inner further.request).run around further.world).1.status
    have same : ((arrange kinds inner came.request).run around came.world).1.status = status :=
      (sets_arrange kinds inner around came.world came.request).status
    have labels : servedAs came.request status = servedAs request status :=
      servedAs_arrival [kind] around world request status
    have inside : (arrange kinds inner came.request).notices around came.world =
        further.notices ++ ((inner further.request).notices around further.world ++
          (List.replicate (kinds.count .count) (servedAs request status)).flatMap Notice.ofLabels) := by
      rw [← labels]
      exact ih came.world came.request
    have outside : (kind.layer (arrange kinds inner) request).notices around world =
        came.notices ++ ((arrange kinds inner came.request).notices around came.world ++
          if kind = .count then Notice.ofLabels (servedAs request status) else []) := by
      rw [← same]
      exact notices_layer kind (arrange kinds inner) around world request
    have counted : (List.replicate ((kind :: kinds).count .count) (servedAs request status)).flatMap
        (Notice.ofLabels (σ := σ)) =
          (List.replicate (kinds.count .count) (servedAs request status)).flatMap Notice.ofLabels ++
            if kind = .count then Notice.ofLabels (servedAs request status) else [] := by
      by_cases counts : kind = .count
      · simp [counts, List.replicate_succ']
      · simp [counts]
    rw [arrival_cons kind kinds around world request]
    change (kind.layer (arrange kinds inner) request).notices around world =
      (came.notices ++ further.notices) ++ ((inner further.request).notices around further.world ++
        (List.replicate ((kind :: kinds).count .count) (servedAs request status)).flatMap Notice.ofLabels)
    rw [outside, inside, counted]
    simp only [List.append_assoc]

/-- The answer of the service inside and the world that it leaves. -/
def inside : Http.Response × World σ :=
  let came := arrival kinds around world request
  (inner came.request).run around came.world

/-- What the layers around a service make of a request, compared with what the service makes of the
request that arrives. -/
structure Arranged : Prop where
  sets :
    Http.Sets (kinds.flatMap (Kind.texts (idIn around world request.headers) request.target.path))
      (inside kinds inner around world request).1 ((arrange kinds inner request).run around world).1
  oneId : .requestId ∈ kinds →
    ((arrange kinds inner request).run around world).1.headers.values Trace.requestIdField =
      [Bytes.ofText (idIn around world request.headers)]
  /-- The service is called once, after the id is chosen and before the request is counted. -/
  notices :
    let came := arrival kinds around world request
    (arrange kinds inner request).notices around world =
      came.notices ++ ((inner came.request).notices around came.world ++
        (List.replicate (kinds.count .count)
          (servedAs request (inside kinds inner around world request).1.status)).flatMap Notice.ofLabels)
  counted : ∀ labels,
    ((arrange kinds inner request).run around world).2.measurements.served.count labels =
      (inside kinds inner around world request).2.measurements.served.count labels +
        if labels = servedAs request (inside kinds inner around world request).1.status then
          kinds.count .count
        else 0
  timed : ∀ labels,
    ((arrange kinds inner request).run around world).2.measurements.timed.count labels =
      (inside kinds inner around world request).2.measurements.timed.count labels +
        if labels = servedAs request (inside kinds inner around world request).1.status then
          kinds.count .count
        else 0
  /-- The layers leave everything else as the service leaves it. -/
  others :
    let left := ((arrange kinds inner request).run around world).2
    let service := (inside kinds inner around world request).2
    left =
      { service with
        measurements :=
          { service.measurements with
            served := left.measurements.served
            timed := left.measurements.timed } }

/-- The world of the arrival is the world before with what was noticed applied to it. -/
theorem world_arrival :
    let came := arrival kinds around world request
    came.world = came.notices.foldl Notice.applyTo world := by
  unfold arrival
  split <;> rfl

/-- The layers leave the world of the service with the request counted. -/
theorem run_arrange_snd :
    ((arrange kinds inner request).run around world).2 =
      ((List.replicate (kinds.count .count)
        (servedAs request (inside kinds inner around world request).1.status)).flatMap
          Notice.ofLabels).foldl Notice.applyTo (inside kinds inner around world request).2 := by
  let came := arrival kinds around world request
  have left : (inside kinds inner around world request).2 =
      ((inner came.request).notices around came.world).foldl Notice.applyTo
        (came.notices.foldl Notice.applyTo world) := by
    rw [← world_arrival]
    exact Task.run_snd_eq_foldl around _ _
  rw [Task.run_snd_eq_foldl, notices_arrange, List.foldl_append, List.foldl_append, left]
  rfl

/-- Adding a mark many times counts it as often, and counts no other one. -/
theorem count_replicate (labels other : Metrics.Served) (n : Nat) (tally : Metrics.Tally Metrics.Served) :
    ((List.replicate n labels).foldl Metrics.Tally.add tally).count other =
      tally.count other + if other = labels then n else 0 := by
  rw [Metrics.Tally.count_foldl_add, List.count_replicate]
  simp only [beq_iff_eq, eq_comm (a := labels)]

/-- So every arrangement does that, and nothing else. -/
theorem arranged : Arranged kinds inner around world request := by
  have sets := sets_arrange kinds inner around world request
  have left := run_arrange_snd kinds inner around world request
  rw [Notice.foldl_ofLabels] at left
  constructor
  case sets => exact sets
  case oneId =>
    intro given
    apply sets.values (Trace.requestIdField, idIn around world request.headers)
    exact List.mem_flatMap.mpr ⟨.requestId, given, List.mem_singleton_self _⟩
  case notices => exact notices_arrange kinds inner around world request
  case counted =>
    intro labels
    rw [left, count_replicate]
  case timed =>
    intro labels
    rw [left, count_replicate]
  case others =>
    intro after service
    simp only [after, left, service]

end Arrival

/-- Layers of the same kinds, in whatever order and however often, call the service on the same request
in the same world, and the answers are the same. An id that is given is the only one of the request and
of the answer. A request is counted and timed once by every layer that counts, and nothing else depends
on the arrangement: where as many layers count, the worlds that are left are equal. -/
theorem arrangements_agree {first second : List Kind} (kinds : ∀ kind, kind ∈ first ↔ kind ∈ second)
    (around : Surroundings σ) (world : World σ) (request : Http.Request) :
    let id := idIn around world request.headers
    let came := arrival first around world request
    arrival second around world request = came ∧
      (.requestId ∈ first →
        came.request.id = some id ∧
          came.request.headers.values Trace.requestIdField = [Bytes.ofText id]) ∧
      ∀ inner : Service,
        Arranged first inner around world request ∧ Arranged second inner around world request ∧
          ((arrange first inner request).run around world).1.Same
            ((arrange second inner request).run around world).1 ∧
          (first.count .count = second.count .count →
            ((arrange first inner request).run around world).2 =
              ((arrange second inner request).run around world).2) := by
  intro id came
  have arrives : arrival second around world request = came := by
    simp only [came, arrival, kinds]
  refine ⟨arrives, ?_, fun inner => ?_⟩
  · intro given
    have legal := Http.isFieldValue_of_visible (idIn_visible around world request.headers)
    simp only [came, arrival, if_pos given]
    exact ⟨rfl, Trace.values_setLegal_self request.headers Trace.requestIdField legal⟩
  · have answers : inside second inner around world request = inside first inner around world request := by
      simp only [inside, arrives, came]
    refine ⟨arranged first inner around world request, arranged second inner around world request, ?_, ?_⟩
    · have sets := sets_arrange second inner around world request
      rw [arrives] at sets
      apply (sets_arrange first inner around world request).same sets
      intro field
      simp only [List.mem_flatMap, kinds]
    · intro often
      rw [run_arrange_snd, run_arrange_snd, answers, often]

/-- Layers of all kinds, of which two count and two give ids, answer as one of each does, and count a
request twice. -/
theorem arrangements_agree_of_repeated_layers :
    let first : List Kind := [.requestId, .count, .security]
    let second : List Kind := [.security, .requestId, .count, .requestId, .count]
    let around := Gateway.echoingSurroundings
    let start : World Unit := { responder := () }
    let request : Http.Request := ⟨"GET", { path := "/" }, [], [], none, none⟩
    let empty : Service := fun _ => .done ⟨200, [], []⟩
    (∀ kind, kind ∈ first ↔ kind ∈ second) ∧
      ((arrange first empty request).run around start).1.Same
        ((arrange second empty request).run around start).1 ∧
      ((arrange second empty request).run around start).2.measurements.served.count
        ⟨"GET", noRoute, 200⟩ = 2 := by
  intro first second around start request empty
  have kinds (kind : Kind) : kind ∈ first ↔ kind ∈ second := by cases kind <;> decide
  obtain ⟨-, -, agree⟩ := arrangements_agree kinds around start request
  obtain ⟨-, repeated, same, -⟩ := agree empty
  exact ⟨kinds, same, repeated.counted ⟨"GET", noRoute, 200⟩⟩

end Layer

end ChatGateway
