import ChatGateway.Proofs.Gateway.Traffic

/-!
# Requests do not interfere

However the steps of requests in flight follow one another, each question is asked for its own request,
under its own id, and answered with what was given to that call. Every other answer, unless it shows
the measurements, is the one that the request gets alone when it is given the same. And what was counted
in the end does not depend on the order.
-/

namespace ChatGateway.Traffic

variable {σ : Type}

/-- An answer is the one that the request gets alone, given the same as on its path, up to the field of
ids; and with the same id it is the same. -/
def IsAsAlone (gateway : Gateway) (request : Http.Request) (path : List (Notice σ))
    (response : Http.Response) (id : String) : Prop :=
  ∀ (ids : Nat → Uuid) (fresh : World (List Given)),
    let around : Surroundings (List Given) := ⟨.repeating, ids⟩
    let world := fresh.given path
    let response' := ((gateway.service request).run around world).1
    response.status = response'.status ∧ response.body = response'.body ∧
      response.headers.erase Trace.requestIdField = response'.headers.erase Trace.requestIdField ∧
      (Layer.idIn around world request.headers = id → response = response')

/-- How the request at a place is answered on its path. It has one id, which it brings or which is drawn
for it. If it posts a question, then one call is made for it, with this question and this id, and the
response tells what that call gave; for other requests no call is made. Unless it reads the
measurements, the answer is as it is alone. -/
structure Answers (gateway : Gateway) (i : Nat) (request : Http.Request) (path : List (Notice σ))
    (calls : List Call) (response : Http.Response) (id : String) : Prop where
  brought : ∀ given, Layer.givenId? request.headers = some given → id = given
  isNew : Layer.givenId? request.headers = none → ∃ uuid : Uuid, .drew uuid ∈ path ∧ id = uuid.text
  asked : Gateway.PostsQuestion request → ∀ message, Gateway.Carries request message →
    ∃ result, callsOf i calls = [⟨i, message, some id, some result⟩] ∧
      Gateway.Wraps response result ∧ response = Layer.stamped id (Layer.secure request.target.path
        (Endpoint.measured (Handler.answerTo result)))
  unasked : (Gateway.PostsQuestion request → ∀ message, ¬ Gateway.Carries request message) →
    callsOf i calls = []
  alone : ¬ Gateway.ReadsMetrics request → IsAsAlone gateway request path response id

section Answers

variable (gateway : Gateway) {i : Nat} {request : Http.Request} {path : List (Notice σ)}
  {calls : List Call} {response : Http.Response}

/-- The answer to a request under its id is the one that it gets alone. -/
theorem isAsAlone_of_leads {id : String}
    (leads : (Layer.underId (Layer.trace (Layer.security gateway.dispatch)) id request).Leads path
      (.done response)) (unread : ¬ Gateway.ReadsMetrics request) :
    IsAsAlone gateway request path response id := by
  intro ids fresh around world
  let id' := Layer.idIn around world request.headers
  let later := Layer.idWorld around world request.headers
  have kept : later = later.given path :=
    congrArg (fun state => { later with responder := state })
      (Gateway.responder_idWorld around world request.headers)
  have alike : (Layer.underId (Layer.trace (Layer.security gateway.dispatch)) id request).Alike
      .givenResults (Gateway.AnswersMatch (¬ Gateway.ReadsMetrics request) request.target.path id id')
      (Layer.underId (Layer.trace (Layer.security gateway.dispatch)) id' request) :=
    gateway.alike_underId (.refl request) trivial fun unread reads => absurd reads unread
  have answers := (alike.run_repeating leads ids later).1
  rw [← kept] at answers
  have run := congrArg Prod.fst
    (Layer.run_requestId_eq around (Layer.trace (Layer.security gateway.dispatch)) request world)
  obtain ⟨status, body, headers⟩ := answers.same unread
  rw [← run] at status body headers
  exact ⟨status, body, headers, fun ids => run ▸ answers.eq unread ids⟩

/-- Whatever path it takes, a request is answered in this way if the calls made for it are those of its
path. -/
theorem exists_answers (leads : (gateway.service request).Leads path (.done response))
    (made : callsOf i calls = answered i path) :
    ∃ id, Answers gateway i request path calls response id := by
  obtain ⟨id, draws, served, rfl, chosen, leads⟩ := Layer.leads_requestId leads
  have asked : (draws ++ served).filterMap Notice.asked? = served.filterMap Notice.asked? := by
    rw [List.filterMap_append, chosen.asked?, List.nil_append]
  have given (fresh : World (List Given)) : fresh.given (draws ++ served) = fresh.given served := by
    rw [World.given, List.filterMap_append, chosen.given?, List.nil_append, World.given]
  rw [answered, asked] at made
  refine ⟨id, ?_, ?_, ?_, ?_, ?_⟩
  · intro known brought
    cases chosen with
    | given h => exact Option.some.inj (h.symm.trans brought)
    | new h => cases h.symm.trans brought
  · intro none
    cases chosen with
    | given h => cases h.symm.trans none
    | new _ uuid => exact ⟨uuid, List.mem_cons_self, rfl⟩
  · intro posts message carries
    obtain ⟨result, once, answer⟩ := gateway.asked_of_carries posts carries leads
    rw [once] at made
    have wraps : Gateway.Wraps response result :=
      (Gateway.wraps_answerTo result).congr (answer ▸ rfl) (answer ▸ rfl)
    exact ⟨result, made, wraps, answer⟩
  · intro silent
    rw [gateway.asked_of_not_carries silent leads] at made
    exact made
  · intro unread ids fresh
    rw [given]
    exact isAsAlone_of_leads gateway leads unread ids fresh

end Answers

section Counts

/-- What was counted, each with the place of its request. -/
def marksOf (events : List (Nat × Notice σ)) : List (Nat × Metrics.Mark) :=
  events.filterMap fun event => event.2.mark?.map (event.1, ·)

/-- Without the places of their requests the marks are those of the notices. -/
theorem map_snd_marksOf (events : List (Nat × Notice σ)) :
    (marksOf events).map Prod.snd = (events.map Prod.snd).filterMap Notice.mark? := by
  rw [marksOf, List.map_filterMap, List.filterMap_map]
  congr 1
  funext event
  simp [Option.map_map, Function.comp_def]

/-- How often a mark is counted for a request can be read off its path. -/
theorem count_marksOf (i : Nat) (mark : Metrics.Mark) (events : List (Nat × Notice σ)) :
    (marksOf events).count (i, mark) = ((pathOf i events).filterMap Notice.mark?).count mark := by
  induction events with
  | nil => rfl
  | cons event rest ih =>
    obtain ⟨j, notice⟩ := event
    by_cases own : j = i
    · subst own
      have first : pathOf j ((j, notice) :: rest) = notice :: pathOf j rest := by simp [pathOf]
      rw [first, marksOf, List.filterMap_cons, List.filterMap_cons]
      cases counted : notice.mark? with
      | none => exact ih
      | some other =>
        simp only [Option.map_some, List.count_cons]
        rw [← ih, marksOf]
        simp
    · have skipped : pathOf i ((j, notice) :: rest) = pathOf i rest := by simp [pathOf, own]
      rw [skipped, marksOf, List.filterMap_cons, ← ih, marksOf]
      cases counted : notice.mark? with
      | none => rfl
      | some other => simp [own]

/-- What was counted does not depend on the order if on each path the same was counted. -/
theorem marks_perm {events events' : List (Nat × Notice σ)}
    (same : ∀ i, (pathOf i events).filterMap Notice.mark? = (pathOf i events').filterMap Notice.mark?) :
    ((events.map Prod.snd).filterMap Notice.mark?).Perm
      ((events'.map Prod.snd).filterMap Notice.mark?) := by
  rw [← map_snd_marksOf, ← map_snd_marksOf]
  refine List.Perm.map _ (List.perm_iff_count.mpr ?_)
  rintro ⟨i, mark⟩
  rw [count_marksOf, count_marksOf, same]

end Counts

/-- All requests are answered. -/
def IsDone (now : Traffic σ) : Prop := ∀ flight ∈ now.flights, ∃ response, flight = .answer response

/-- In every order of their steps the requests are answered as their own paths say, and in all orders
that give the same results the same is counted in the end. -/
structure Undisturbed (gateway : Gateway) (requests : List Http.Request) (world : World σ) : Prop where
  answered : ∀ {events : List (Nat × Notice σ)} {now : Traffic σ},
    Runs gateway (begin requests world) events now →
      ∀ {i : Nat} {request : Http.Request} {response : Http.Response}, requests[i]? = some request →
        now.flights[i]? = some (.answer response) →
          ∃ id, Answers gateway i request (pathOf i events) now.calls response id
  counted : ∀ {events events' : List (Nat × Notice σ)} {now now' : Traffic σ},
    Runs gateway (begin requests world) events now → Runs gateway (begin requests world) events' now' →
      now.IsDone → now'.IsDone →
      (∀ i, (pathOf i events).filterMap Notice.given? = (pathOf i events').filterMap Notice.given?) →
        ∀ mark, now.world.measurements.countOf mark = now'.world.measurements.countOf mark

variable {gateway : Gateway} {requests : List Http.Request} {world : World σ}
  {events : List (Nat × Notice σ)} {now : Traffic σ}

/-- On its path a request counts what it counts alone, given the same. -/
theorem marks_alone (runs : Runs gateway (begin requests world) events now) (isDone : now.IsDone)
    {i : Nat} {request : Http.Request} (asked : requests[i]? = some request)
    (fresh : World (List Given)) (ids : Nat → Uuid) :
    (pathOf i events).filterMap Notice.mark? =
      ((gateway.service request).notices ⟨.repeating, ids⟩
        (fresh.given (pathOf i events))).filterMap Notice.mark? := by
  have kept := kept_of_runs runs
  have inFlight : i < now.flights.length :=
    kept.length.symm ▸ (List.getElem?_eq_some_iff.mp asked).1
  obtain ⟨response, done⟩ := isDone now.flights[i] (List.getElem_mem inFlight)
  have found := (List.getElem?_eq_getElem inFlight).trans (congrArg some done)
  have leads := (kept.come asked found).1
  have alike : (gateway.service request).Alike .givenResults (fun answer answer' =>
      ∃ id id', Gateway.AnswersMatch False request.target.path id id' answer answer')
      (gateway.service request) :=
    gateway.alike_service (.refl request) (fun _ _ => trivial) False.elim
  exact (alike.run_repeating leads ids fresh).2

/-- Requests in flight do not interfere. -/
theorem undisturbed (gateway : Gateway) (requests : List Http.Request) (world : World σ) :
    Undisturbed gateway requests world where
  answered runs i request response asked found := by
    obtain ⟨leads, calls⟩ := (kept_of_runs runs).come asked found
    exact exists_answers gateway leads calls
  counted {events events' now now'} runs runs' isDone isDone' same mark := by
    have marks (i : Nat) : (pathOf i events).filterMap Notice.mark? =
        (pathOf i events').filterMap Notice.mark? := by
      cases asked : requests[i]? with
      | none =>
        rw [(kept_of_runs runs).nobody (List.getElem?_eq_none_iff.mp asked),
          (kept_of_runs runs').nobody (List.getElem?_eq_none_iff.mp asked)]
      | some request =>
        have given : World.given { responder := [] } (pathOf i events) =
            World.given { responder := [] } (pathOf i events') := by
          rw [World.given, same, World.given]
        rw [marks_alone runs isDone asked { responder := [] } fun _ => ⟨0⟩,
          marks_alone runs' isDone' asked { responder := [] } fun _ => ⟨0⟩, given]
    rw [(kept_of_runs runs).world, (kept_of_runs runs').world, Notice.countOf_foldl_applyTo,
      Notice.countOf_foldl_applyTo, (marks_perm marks).count_eq]

end ChatGateway.Traffic
