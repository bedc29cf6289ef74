import ChatGateway.Metrics.Tally

/-!
# What is measured

Two kinds of measurements. For every question that reached a responder: its outcome, and how
long the responder took. For every request to a route: its method, route and status, and that
its duration was taken.

Questions are measured in a registry; what is measured before it is set up is lost. Requests are
measured through a recorder, which shows them itself and is no part of the service.
-/

namespace ChatGateway.Metrics

/-- The bounds of the buckets of durations, in seconds. -/
def bucketBounds : List Float := [0.005, 0.01, 0.05, 0.1, 0.25, 0.5, 1.0, 2.5, 5.0, 10.0, 30.0]

/-- Observed durations: how many, their sum, and how many fell first under each bound. -/
structure Durations where
  buckets : List Nat := bucketBounds.map fun _ => 0
  count : Nat := 0
  sum : Float := 0.0

/-- Raises the count of the first bucket whose bound the value does not exceed. -/
def raiseBucket (value : Float) : List Float → List Nat → List Nat
  | bound :: bounds, n :: counts =>
    if value ≤ bound then (n + 1) :: counts else n :: raiseBucket value bounds counts
  | _, counts => counts

/-- Observes one more duration. -/
def Durations.observe (durations : Durations) (seconds : Float) : Durations where
  buckets := raiseBucket seconds bucketBounds durations.buckets
  count := durations.count + 1
  sum := durations.sum + seconds

/-- The responder that was asked and how that went. -/
structure Prediction where
  responder : String
  outcome : String
  deriving DecidableEq, Repr

/-- The request that was served. -/
structure Served where
  method : String
  route : String
  status : Nat
  deriving DecidableEq, Repr

/-- What is known about the questions. -/
structure Registry where
  predictions : Tally Prediction := {}
  latencies : List (String × Durations) := []

/-- Observes a duration for a responder. -/
def observeFor (responder : String) (seconds : Float) :
    List (String × Durations) → List (String × Durations)
  | [] => [(responder, Durations.observe {} seconds)]
  | (name, durations) :: rest =>
    if name = responder then (name, durations.observe seconds) :: rest
    else (name, durations) :: observeFor responder seconds rest

/-- How many durations were observed for a responder. -/
def observedFor (responder : String) : List (String × Durations) → Nat
  | [] => 0
  | (name, durations) :: rest =>
    if name = responder then durations.count else observedFor responder rest

/-- Observing for a responder raises its number by one and keeps all others. -/
theorem observedFor_observeFor (responder other : String) (seconds : Float)
    (latencies : List (String × Durations)) :
    observedFor other (observeFor responder seconds latencies) =
      observedFor other latencies + if responder = other then 1 else 0 := by
  induction latencies with
  | nil => simp [observeFor, observedFor, Durations.observe]
  | cons entry rest ih =>
    obtain ⟨name, durations⟩ := entry
    by_cases hn : name = responder
    · subst hn
      by_cases ho : name = other <;> simp [observeFor, observedFor, Durations.observe, ho]
    · by_cases ho : name = other
      · subst ho
        simp [observeFor, observedFor, hn, Ne.symm hn]
      · simp [observeFor, observedFor, hn, ho, ih]

/-- One measurement. -/
inductive Sample where
  | predicted (prediction : Prediction)
  | answered (responder : String) (seconds : Float)
  | served (request : Served)
  | timed (request : Served)

/-- How all names of the service's own series start. -/
def ownPrefix : List Char := "chatbot_".toList

/-- What shows the requests: the lines that it makes of the requests that were counted and timed.
None of them shows a series of the service's own registry. -/
structure Recorder where
  lines : Tally Served → Tally Served → List String
  apart : ∀ served timed, ∀ line ∈ lines served timed,
    '\n' ∉ line.toList ∧ ownPrefix.isPrefixOf line.toList = false

/-- A recorder that shows nothing. The one that is installed is such: it listens to another version
of the facade than the one through which requests are measured. -/
def Recorder.silent : Recorder := ⟨fun _ _ => [], nofun⟩

/-- All measurements of a process. -/
structure Measurements where
  /-- The recorder, once it is installed. -/
  recorder : Option Recorder := none
  /-- The registry of questions, once it is set up. -/
  registry : Option Registry := none
  served : Tally Served := {}
  timed : Tally Served := {}

namespace Measurements

/-- Installs the recorder, if it can be installed, and sets up the registry. Once a recorder is
installed later calls change nothing, and a registry is kept in any case. -/
def start (m : Measurements) (installed : Option Recorder := some .silent) : Measurements :=
  match m.recorder with
  | some _ => m
  | none => { m with recorder := installed, registry := some (m.registry.getD {}) }

/-- Takes a measurement. -/
def take (m : Measurements) : Sample → Measurements
  | .predicted p =>
    { m with registry := m.registry.map fun r => { r with predictions := r.predictions.add p } }
  | .answered name seconds =>
    { m with
      registry := m.registry.map fun r =>
        { r with latencies := observeFor name seconds r.latencies } }
  | .served request => { m with served := m.served.add request }
  | .timed request => { m with timed := m.timed.add request }

end Measurements

end ChatGateway.Metrics
