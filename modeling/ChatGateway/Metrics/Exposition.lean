import ChatGateway.Decimal.Notation
import ChatGateway.Metrics.Registry

/-!
# The text of the measurements

First comes what the recorder shows of requests, or a remark that there is no recorder. Then the
measurements of questions follow: for each family that has a series, a line of help, a
line with its type, and its series in the order of their labels' values. A histogram has a
line for each bound with all observations up to it, then their sum and their number.
-/

namespace ChatGateway.Metrics

/-- A character inside the value of a label. -/
def labelChar (c : Char) : List Char :=
  if c = '\\' then ['\\', '\\']
  else if c = '"' then ['\\', '"']
  else if c = '\n' then ['\\', 'n']
  else [c]

/-- A label with its value. -/
def labelText (label : String × String) : String :=
  label.1 ++ "=\"" ++ String.ofList (label.2.toList.flatMap labelChar) ++ "\""

/-- A line of a series. -/
def sampleLine (name : String) (labels : List (String × String)) (value : String) : String :=
  name ++ "\x7b" ++ ",".intercalate (labels.map labelText) ++ "\x7d " ++ value

/-- The lines of a family that has series. -/
def family (name help type : String) (samples : List String) : List String :=
  if samples.isEmpty then []
  else ("# HELP " ++ name ++ " " ++ help) :: ("# TYPE " ++ name ++ " " ++ type) :: samples

/-- The name of the family of outcomes. -/
def predictionsName : String := "chatbot_predictions_total"

/-- The name of the family of durations. -/
def latencyName : String := "chatbot_responder_latency_seconds"

/-- Whether one series precedes another: by outcome, then by responder. -/
def predictionBefore (a b : Prediction × Nat) : Bool :=
  a.1.outcome < b.1.outcome || (a.1.outcome = b.1.outcome && !(b.1.responder < a.1.responder))

/-- The line of an outcome. -/
def predictionLine (entry : Prediction × Nat) : String :=
  sampleLine predictionsName [("outcome", entry.1.outcome), ("responder", entry.1.responder)]
    (Text.decimal entry.2)

/-- The numbers of observations up to each bound. -/
def upToEach (below : Nat) : List Nat → List Nat
  | [] => []
  | n :: rest => (below + n) :: upToEach (below + n) rest

/-- The line of a bound with the number of durations up to it. -/
def boundLine (responder bound : String) (n : Nat) : String :=
  sampleLine (latencyName ++ "_bucket") [("responder", responder), ("le", bound)] (Text.decimal n)

/-- The line of the sum of durations. -/
def sumLine (responder : String) (sum : Float) : String :=
  sampleLine (latencyName ++ "_sum") [("responder", responder)] (Decimal.plain.write sum)

/-- The line of the number of durations. -/
def countLine (responder : String) (n : Nat) : String :=
  sampleLine (latencyName ++ "_count") [("responder", responder)] (Text.decimal n)

/-- The lines of the durations of a responder. -/
def latencyLines (entry : String × Durations) : List String :=
  let (responder, durations) := entry
  (bucketBounds.map Decimal.plain.write).zipWith (boundLine responder)
      (upToEach 0 durations.buckets) ++
    [boundLine responder "+Inf" durations.count, sumLine responder durations.sum,
      countLine responder durations.count]

/-- The lines of a registry. -/
def Registry.lines (registry : Registry) : List String :=
  family predictionsName "Total prediction requests by outcome" "counter"
      ((registry.predictions.entries.mergeSort predictionBefore).map predictionLine) ++
    family latencyName "Responder latency in seconds" "histogram"
      ((registry.latencies.mergeSort fun a b => !(b.1 < a.1)).flatMap latencyLines)

namespace Measurements

/-- The lines that show the requests, or the remark that there is no recorder. -/
def requestLines (m : Measurements) : List String :=
  match m.recorder with
  | none => ["# Metrics recorder not initialized"]
  | some recorder => recorder.lines m.served m.timed

/-- The lines that show the questions; none before the registry is set up. -/
def questionLines (m : Measurements) : List String := (m.registry.map Registry.lines).getD []

/-- The text of the measurements: its lines, each with a line feed. -/
def text (m : Measurements) : String :=
  String.join ((m.requestLines ++ m.questionLines).map (· ++ "\n"))

end Measurements

end ChatGateway.Metrics
