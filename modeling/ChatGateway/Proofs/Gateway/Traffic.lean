import ChatGateway.Proofs.Gateway.Alone

/-!
# Requests in flight

Several requests are in flight at the same time, and any of them may take the next step. A request that
asks the responder waits for the result of its call, which comes at any later time, in any order.

Whatever the order, each request takes a path of its own service, the calls that are made for it are
those of its path, and the world is left as all steps in their order leave it. Serving requests one
after the other is one of the orders.
-/

namespace ChatGateway

variable {σ : Type}

/-- A call of the responder: for which request it is made, and its result once there is one. -/
structure Call where
  caller : Nat
  question : String
  id : Option String
  result : Option (Except ResponderFault String) := none

/-- Where a request is: not there yet, being served, or waiting for the result of a call. -/
inductive Flight where
  | coming (request : Http.Request)
  | underway (task : Task Http.Response)
  | waiting (call : Nat) (next : Reply String → Task Http.Response)

/-- The requests in flight, the calls that were made for them, and the world that they share. -/
structure Traffic (σ : Type) where
  flights : List Flight
  calls : List Call := []
  world : World σ

/-- The request is answered. -/
def Flight.answer (response : Http.Response) : Flight := .underway (.done response)

/-- A task takes the step by itself in this world. Results of calls come from elsewhere. -/
def Notice.FitsIn (world : World σ) : Notice σ → Prop
  | asked .. => False
  | shown text => text = world.measurements.text
  | _ => True

namespace Traffic

variable (gateway : Gateway)

/-- No request has arrived yet. -/
def begin (requests : List Http.Request) (world : World σ) : Traffic σ where
  flights := requests.map .coming
  world

/-- The request at this place takes a step, and this is noticed of it. -/
inductive Step : Traffic σ → Nat → List (Notice σ) → Traffic σ → Prop
  /-- A request arrives. -/
  | arrive {now : Traffic σ} {i : Nat} {request : Http.Request}
    (found : now.flights[i]? = some (.coming request)) :
    Step now i [] { now with flights := now.flights.set i (.underway (gateway.service request)) }
  /-- It is served one step further. -/
  | act {now : Traffic σ} {i : Nat} {task next : Task Http.Response} {notice : Notice σ}
    (found : now.flights[i]? = some (.underway task)) (moves : task.Moves notice next)
    (fits : notice.FitsIn now.world) :
    Step now i [notice]
      { now with flights := now.flights.set i (.underway next), world := notice.applyTo now.world }
  /-- The responder is called for it. -/
  | call {now : Traffic σ} {i : Nat} {question : String} {id : Option String}
    {next : Reply String → Task Http.Response}
    (found : now.flights[i]? = some (.underway (.ask question id next))) :
    Step now i []
      { now with
        flights := now.flights.set i (.waiting now.calls.length next)
        calls := now.calls ++ [⟨i, question, id, none⟩] }
  /-- The result of its call comes. -/
  | deliver {now : Traffic σ} {i ticket : Nat} {next : Reply String → Task Http.Response}
    {call : Call} (outcome : Outcome σ String)
    (found : now.flights[i]? = some (.waiting ticket next))
    (made : now.calls[ticket]? = some call) :
    Step now i [.asked call.question call.id outcome]
      { flights := now.flights.set i (.underway (next (Task.replyOf outcome)))
        calls := now.calls.set ticket { call with result := some outcome.result }
        world := { now.world with responder := outcome.state } }

/-- Steps lead from the start to now; these are their notices, each with the place of its request. -/
inductive Runs (start : Traffic σ) : List (Nat × Notice σ) → Traffic σ → Prop
  | start : Runs start [] start
  | on {events : List (Nat × Notice σ)} {now later : Traffic σ} {i : Nat} {notices : List (Notice σ)}
    (runs : Runs start events now) (step : Step gateway now i notices later) :
    Runs start (events ++ notices.map (i, ·)) later

/-- The notices of one request. -/
def pathOf (i : Nat) (events : List (Nat × Notice σ)) : List (Notice σ) :=
  (events.filter (·.1 = i)).map Prod.snd

/-- The notices of a request are added to its path. -/
theorem pathOf_append_self (i : Nat) (events : List (Nat × Notice σ)) (notices : List (Notice σ)) :
    pathOf i (events ++ notices.map (i, ·)) = pathOf i events ++ notices := by
  have own : (notices.map (i, ·)).filter (·.1 = i) = notices.map (i, ·) :=
    List.filter_eq_self.mpr (by simp)
  rw [pathOf, List.filter_append, own, List.map_append, List.map_map]
  exact congrArg _ (List.map_id notices)

/-- The notices of a request are not added to the path of another one. -/
theorem pathOf_append_of_ne {i j : Nat} (h : j ≠ i) (events : List (Nat × Notice σ))
    (notices : List (Notice σ)) : pathOf i (events ++ notices.map (j, ·)) = pathOf i events := by
  have none : (notices.map (j, ·)).filter (·.1 = i) = [] :=
    List.filter_eq_nil_iff.mpr (by simp [h])
  rw [pathOf, List.filter_append, none, List.append_nil, pathOf]

/-- The calls that were made for a request. -/
def callsOf (i : Nat) (calls : List Call) : List Call := calls.filter (·.caller = i)

/-- The calls of a path, with their results. -/
def answered (i : Nat) (path : List (Notice σ)) : List Call :=
  (path.filterMap Notice.asked?).map fun asked => ⟨i, asked.question, asked.id, some asked.result⟩

section Calls

variable {i j ticket : Nat} {calls : List Call} {call : Call}

/-- The calls of a request are its own ones among the rest, with the first before them if it is its own.
-/
theorem callsOf_cons (call : Call) (rest : List Call) :
    callsOf i (call :: rest) = if call.caller = i then call :: callsOf i rest else callsOf i rest := by
  by_cases h : call.caller = i <;> simp [callsOf, h]

/-- A call that is made last is added to the calls of its request. -/
theorem callsOf_concat (call : Call) :
    callsOf i (calls ++ [call]) = callsOf i calls ++ if call.caller = i then [call] else [] := by
  by_cases h : call.caller = i <;> simp [callsOf, h]

/-- The result of another request's call changes no call of a request. -/
theorem callsOf_set_of_ne (made : calls[ticket]? = some call) (other : call.caller ≠ j)
    (result : Option (Except ResponderFault String)) :
    callsOf j (calls.set ticket { call with result }) = callsOf j calls := by
  induction calls generalizing ticket with
  | nil => rfl
  | cons first rest ih =>
    cases ticket with
    | zero =>
      cases made
      rw [List.set_cons_zero, callsOf_cons, callsOf_cons, if_neg other, if_neg other]
    | succ ticket => rw [List.set_cons_succ, callsOf_cons, callsOf_cons, ih made]

/-- The result of the only pending call of a request is put to it. -/
theorem callsOf_set_pending {done : List Call} (made : calls[ticket]? = some call)
    (own : call.caller = i) (pending : callsOf i calls = done ++ [call]) (fresh : call ∉ done)
    (result : Option (Except ResponderFault String)) :
    callsOf i (calls.set ticket { call with result }) = done ++ [{ call with result }] := by
  induction calls generalizing ticket done with
  | nil => contradiction
  | cons first rest ih =>
    rw [callsOf_cons] at pending
    cases ticket with
    | zero =>
      cases made
      rw [if_pos own] at pending
      cases done with
      | nil =>
        rw [List.set_cons_zero, callsOf_cons, if_pos own, (List.cons.inj pending).2]
        rfl
      | cons before done => exact absurd ((List.cons.inj pending).1 ▸ List.mem_cons_self) fresh
    | succ ticket =>
      rw [List.set_cons_succ, callsOf_cons]
      split at pending
      · rename_i ofRequest
        rw [if_pos ofRequest]
        cases done with
        | nil =>
          have later : call ∈ callsOf i rest :=
            List.mem_filter.mpr ⟨List.mem_of_getElem? made, decide_eq_true own⟩
          rw [(List.cons.inj pending).2] at later
          contradiction
        | cons before done =>
          obtain ⟨rfl, still⟩ := List.cons.inj pending
          rw [List.cons_append, ih made still fun among => fresh (List.mem_cons_of_mem _ among)]
      · rename_i ofOther
        rw [if_neg ofOther]
        exact ih made pending fresh

end Calls

/-- Every call of a path has its result. -/
theorem isSome_of_mem_answered {i : Nat} {path : List (Notice σ)} {call : Call}
    (h : call ∈ answered i path) : call.result.isSome = true := by
  obtain ⟨_, _, rfl⟩ := List.mem_map.mp h
  rfl

/-- The calls of a path are added one notice at a time. -/
theorem answered_concat (i : Nat) (path : List (Notice σ)) (notice : Notice σ) :
    answered i (path ++ [notice]) = answered i path ++ answered i [notice] := by
  rw [answered, List.filterMap_append, List.map_append]
  rfl

/-- How far a request has come on its path, and which calls were made for it. -/
def HasCome (i : Nat) (request : Http.Request) (path : List (Notice σ)) (calls : List Call) :
    Flight → Prop
  | .coming expected => expected = request ∧ path = [] ∧ callsOf i calls = []
  | .underway task =>
    (gateway.service request).Leads path task ∧ callsOf i calls = answered i path
  | .waiting ticket next => ∃ question id,
    (gateway.service request).Leads path (.ask question id next) ∧
      calls[ticket]? = some ⟨i, question, id, none⟩ ∧
      callsOf i calls = answered i path ++ [⟨i, question, id, none⟩]

section Steps

variable {gateway} {now later : Traffic σ} {i : Nat} {notices : List (Notice σ)}
  {request : Http.Request} {path : List (Notice σ)} {flight : Flight}

/-- The request that takes a step comes further on its path. -/
theorem Step.comes (step : Step gateway now i notices later) (found : now.flights[i]? = some flight)
    (come : HasCome gateway i request path now.calls flight) :
    ∃ flight', later.flights = now.flights.set i flight' ∧
      HasCome gateway i request (path ++ notices) later.calls flight' := by
  cases step with
  | arrive arriving =>
    cases found.symm.trans arriving
    obtain ⟨rfl, rfl, none⟩ := come
    exact ⟨_, rfl, .here _, none⟩
  | act acting moves fits =>
    cases found.symm.trans acting
    obtain ⟨leads, calls⟩ := come
    refine ⟨_, rfl, leads.concat moves, ?_⟩
    rw [answered_concat, calls]
    cases moves with
    | ask => exact fits.elim
    | _ => exact (List.append_nil _).symm
  | call asking =>
    cases found.symm.trans asking
    obtain ⟨leads, calls⟩ := come
    refine ⟨_, rfl, _, _, (List.append_nil path).symm ▸ leads, ?_, ?_⟩
    · simp
    · rw [callsOf_concat, if_pos rfl, calls, List.append_nil]
  | deliver outcome waiting made =>
    cases found.symm.trans waiting
    obtain ⟨question, id, leads, pending, calls⟩ := come
    cases made.symm.trans pending
    refine ⟨_, rfl, leads.concat (.ask _ _ _ outcome), ?_⟩
    rw [answered_concat]
    exact callsOf_set_pending made rfl calls
      (fun done => absurd (isSome_of_mem_answered done) Bool.false_ne_true) _

/-- The calls of all other requests stay as they are. -/
theorem Step.calls_of_ne (step : Step gateway now i notices later)
    (found : now.flights[i]? = some flight)
    (come : HasCome gateway i request path now.calls flight) {j : Nat} (h : i ≠ j) :
    callsOf j later.calls = callsOf j now.calls ∧
      ∀ (ticket : Nat) (call : Call), call.caller = j → now.calls[ticket]? = some call →
        later.calls[ticket]? = some call := by
  cases step with
  | arrive => exact ⟨rfl, fun _ _ _ made => made⟩
  | act => exact ⟨rfl, fun _ _ _ made => made⟩
  | call =>
    refine ⟨?_, fun ticket call _ made => ?_⟩
    · rw [callsOf_concat, if_neg h, List.append_nil]
    · rw [List.getElem?_append_left (List.getElem?_eq_some_iff.mp made).1, made]
  | deliver outcome waiting made =>
    cases found.symm.trans waiting
    obtain ⟨question, id, _, pending, _⟩ := come
    cases made.symm.trans pending
    refine ⟨callsOf_set_of_ne made h _, fun ticket call caller also => ?_⟩
    rw [List.getElem?_set_ne, also]
    rintro rfl
    cases made.symm.trans also
    exact h caller

/-- What another request does leaves a request where it is. -/
theorem HasCome.of_calls {calls calls' : List Call} (come : HasCome gateway i request path calls flight)
    (same : callsOf i calls' = callsOf i calls)
    (kept : ∀ (ticket : Nat) (call : Call), call.caller = i → calls[ticket]? = some call →
      calls'[ticket]? = some call) : HasCome gateway i request path calls' flight := by
  cases flight with
  | coming => exact ⟨come.1, come.2.1, same.trans come.2.2⟩
  | underway task => exact ⟨come.1, same.trans come.2⟩
  | waiting ticket next =>
    obtain ⟨question, id, leads, pending, calls⟩ := come
    exact ⟨question, id, leads, kept _ _ rfl pending, same.trans calls⟩

/-- Only a request on its way makes a step. -/
theorem Step.lt (step : Step gateway now i notices later) : i < now.flights.length := by
  cases step with
  | arrive found => exact (List.getElem?_eq_some_iff.mp found).1
  | act found => exact (List.getElem?_eq_some_iff.mp found).1
  | call found => exact (List.getElem?_eq_some_iff.mp found).1
  | deliver _ found => exact (List.getElem?_eq_some_iff.mp found).1

/-- A step changes the world as its notices say. -/
theorem Step.world (step : Step gateway now i notices later) :
    later.world = notices.foldl Notice.applyTo now.world := by
  cases step <;> rfl

end Steps

/-- Each request is on its path, and the world is as all steps leave it. -/
structure Kept (requests : List Http.Request) (world : World σ) (events : List (Nat × Notice σ))
    (now : Traffic σ) : Prop where
  length : now.flights.length = requests.length
  come : ∀ {i : Nat} {request : Http.Request} {flight : Flight}, requests[i]? = some request →
    now.flights[i]? = some flight → HasCome gateway i request (pathOf i events) now.calls flight
  nobody : ∀ {i : Nat}, requests.length ≤ i → pathOf i events = []
  world : now.world = (events.map Prod.snd).foldl Notice.applyTo world

variable {gateway} {requests : List Http.Request} {world : World σ}
  {events : List (Nat × Notice σ)} {now later : Traffic σ}

/-- What is kept holds before any step. -/
theorem kept_begin : Kept gateway requests world [] (begin requests world) where
  length := List.length_map _
  come asked found := by
    rw [begin, List.getElem?_map, asked] at found
    cases found
    exact ⟨rfl, rfl, rfl⟩
  nobody _ := rfl
  world := rfl

/-- Every step keeps each request on its path. -/
theorem Kept.step (kept : Kept gateway requests world events now) {i : Nat}
    {notices : List (Notice σ)} (step : Step gateway now i notices later) :
    Kept gateway requests world (events ++ notices.map (i, ·)) later := by
  have inFlight : i < now.flights.length := step.lt
  have within : i < requests.length := kept.length ▸ inFlight
  have found : now.flights[i]? = some now.flights[i] := List.getElem?_eq_getElem inFlight
  have come := kept.come (List.getElem?_eq_getElem within) found
  obtain ⟨flight', flights, further⟩ := step.comes found come
  refine ⟨?_, ?_, ?_, ?_⟩
  · rw [flights, List.length_set, kept.length]
  · intro j request flight asked there
    rw [flights] at there
    by_cases h : i = j
    · subst h
      rw [List.getElem?_set_self inFlight] at there
      cases there
      rw [pathOf_append_self]
      cases (List.getElem?_eq_getElem within).symm.trans asked
      exact further
    · rw [List.getElem?_set_ne h] at there
      rw [pathOf_append_of_ne h]
      obtain ⟨same, calls⟩ := step.calls_of_ne found come h
      exact (kept.come asked there).of_calls same calls
  · intro j beyond
    rw [pathOf_append_of_ne (by omega), kept.nobody beyond]
  · rw [step.world, kept.world, List.map_append, List.map_map, List.foldl_append]
    exact congrArg _ (List.map_id notices).symm

/-- In every order of steps each request is on its path. -/
theorem kept_of_runs (runs : Runs gateway (begin requests world) events now) :
    Kept gateway requests world events now := by
  induction runs with
  | start => exact kept_begin
  | on _ step ih => exact ih.step step

section Alone

variable {start : Traffic σ} (around : Surroundings σ)

/-- A request goes on from where its last step has left it. -/
theorem Runs.goesOn {i : Nat} {flight next last : Flight} {calls : List Call} {world after : World σ}
    (later : ∀ {events : List (Nat × Notice σ)} {now : Traffic σ}, Runs gateway start events now →
      now.flights[i]? = some next → now.world = world →
      ∃ events' calls, Runs gateway start events' ⟨now.flights.set i last, calls, after⟩)
    (found : now.flights[i]? = some flight)
    (runs : Runs gateway start events ⟨now.flights.set i next, calls, world⟩) :
    ∃ events' calls, Runs gateway start events' ⟨now.flights.set i last, calls, after⟩ := by
  have inFlight : i < now.flights.length := (List.getElem?_eq_some_iff.mp found).1
  obtain ⟨events', calls, runs⟩ := later runs (List.getElem?_set_self inFlight) rfl
  rw [List.set_set] at runs
  exact ⟨events', calls, runs⟩

/-- A request may be served to its end while the others wait. -/
theorem Runs.task {i : Nat} {task : Task Http.Response} {world : World σ}
    (runs : Runs gateway start events now) (found : now.flights[i]? = some (.underway task))
    (here : now.world = world) :
    ∃ events' calls, Runs gateway start events'
      ⟨now.flights.set i (.answer (task.run around world).1), calls, (task.run around world).2⟩ := by
  induction task generalizing events now world with
  | done response =>
    subst here
    obtain ⟨inFlight, same⟩ := List.getElem?_eq_some_iff.mp found
    refine ⟨events, now.calls, ?_⟩
    rw [Flight.answer, Task.run, ← same, List.set_getElem_self inFlight]
    exact runs
  | drawId next ih =>
    subst here
    exact Runs.goesOn (ih _) found (runs.on (.act found (.drawId next _) trivial))
  | ask question id next ih =>
    subst here
    have inFlight : i < now.flights.length := (List.getElem?_eq_some_iff.mp found).1
    let outcome := around.responder.answer question id now.world.responder
    have called := runs.on (.call found)
    have delivered := called.on (.deliver outcome (List.getElem?_set_self inFlight)
      List.getElem?_concat_length)
    simp only [List.set_set] at delivered
    exact Runs.goesOn (ih _) found delivered
  | probe next ih =>
    subst here
    exact Runs.goesOn (ih _) found (runs.on (.act found (.probe next _) trivial))
  | measure sample next ih =>
    subst here
    exact Runs.goesOn ih found (runs.on (.act found (.measure sample next) trivial))
  | log event next ih =>
    subst here
    exact Runs.goesOn ih found (runs.on (.act found (.log event next) trivial))
  | showMetrics next ih =>
    subst here
    exact Runs.goesOn (ih _) found (runs.on (.act found (.showMetrics next _) rfl))

/-- What is coming may be served one after the other behind what is answered. -/
theorem Runs.serveAll (requests : List Http.Request) {done : List Http.Response}
    {calls : List Call} {world : World σ}
    (runs : Runs gateway start events
      ⟨done.map .answer ++ requests.map .coming, calls, world⟩) :
    ∃ events' calls', Runs gateway start events'
      ⟨(done ++ (gateway.serveAll around requests world).1).map .answer, calls',
        (gateway.serveAll around requests world).2⟩ := by
  induction requests generalizing done events calls world with
  | nil => exact ⟨events, calls, by simpa [Gateway.serveAll] using runs⟩
  | cons request rest ih =>
    have there (flight : Flight) :
        (done.map Flight.answer ++ flight :: rest.map .coming)[(done.map Flight.answer).length]? =
          some flight := by
      rw [List.getElem?_append_right (Nat.le_refl _), Nat.sub_self, List.getElem?_cons_zero]
    have placed (flight flight' : Flight) :
        (done.map Flight.answer ++ flight :: rest.map .coming).set (done.map Flight.answer).length
          flight' = done.map .answer ++ flight' :: rest.map .coming := by
      rw [List.set_append_right _ _ (Nat.le_refl _), Nat.sub_self, List.set_cons_zero]
    have arrived := runs.on (.arrive (there _))
    simp only [List.map_cons, placed] at arrived
    obtain ⟨events', calls', alone⟩ := arrived.task around (there _) rfl
    rw [placed] at alone
    have next : Runs gateway start events'
        ⟨(done ++ [((gateway.service request).run around world).1]).map .answer ++
          rest.map .coming, calls', ((gateway.service request).run around world).2⟩ := by
      simpa using alone
    simpa [Gateway.serveAll] using ih next

/-- Serving one request after the other is one of the orders in which requests in flight are served. -/
theorem exists_runs_serveAll (requests : List Http.Request) (world : World σ) :
    ∃ events calls, Runs gateway (begin requests world) events
      ⟨(gateway.serveAll around requests world).1.map .answer, calls,
        (gateway.serveAll around requests world).2⟩ := by
  have started : Runs gateway (begin requests world) []
      ⟨([] : List Http.Response).map .answer ++ requests.map .coming, [], world⟩ := .start
  exact started.serveAll around requests

end Alone

end Traffic

end ChatGateway
