import ChatGateway.Metrics.Registry

/-!
# What counts of a measurement

The counts that a measurement raises do not depend on how long anything took. Each measurement raises
one count by one, so the counts after several do not depend on their order.
-/

namespace ChatGateway.Metrics

/-- A measurement without its duration. -/
inductive Mark where
  | predicted (prediction : Prediction)
  | answered (responder : String)
  | served (request : Served)
  | timed (request : Served)
  deriving DecidableEq

/-- What counts of a measurement. -/
def Sample.mark : Sample → Mark
  | predicted prediction => .predicted prediction
  | answered responder _ => .answered responder
  | served request => .served request
  | timed request => .timed request

namespace Measurements

/-- How often a mark was counted; questions are counted once the registry is set up. -/
def countOf (m : Measurements) : Mark → Option Nat
  | .predicted prediction => m.registry.map (·.predictions.count prediction)
  | .answered responder => m.registry.map fun registry => observedFor responder registry.latencies
  | .served request => some (m.served.count request)
  | .timed request => some (m.timed.count request)

/-- A measurement raises the count of its own mark. -/
theorem countOf_take (m : Measurements) (sample : Sample) (mark : Mark) :
    (m.take sample).countOf mark =
      (m.countOf mark).map (· + if sample.mark = mark then 1 else 0) := by
  cases known : m.registry with
  | none => cases sample <;> cases mark <;> simp [take, countOf, Sample.mark, known]
  | some registry =>
    cases sample <;> cases mark <;>
      simp [take, countOf, Sample.mark, known, observedFor_observeFor]

end Measurements

end ChatGateway.Metrics
