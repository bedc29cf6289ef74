import ChatGateway.Proofs.Gateway.Paths
import ChatGateway.Proofs.Metrics.Marks

/-!
# Served alone

What the responder gives to a request on its path can be repeated to the same request when it is
served alone. Then the answer is the same, up to the ids that are drawn and to the measurements that
are shown, and the same is counted.
-/

namespace ChatGateway

variable {σ α β : Type}

/-- What a call of the responder gave. -/
inductive Given where
  | said (result : Except ResponderFault String)
  | verdict (result : Except ResponderFault Unit)

/-- The responder that gives, one after the other, what its state holds. -/
def Responder.repeating : Responder (List Given) where
  name := "repeating"
  answer _ _
    | .said result :: rest => { result, state := rest }
    | given => { result := .error (.notConfigured ""), state := given }
  health
    | .verdict result :: rest => { result, state := rest }
    | given => { result := .error (.notConfigured ""), state := given }

namespace Notice

/-- What the responder gave, if it was called. -/
def given? : Notice σ → Option Given
  | asked _ _ outcome => some (.said outcome.result)
  | probed outcome => some (.verdict outcome.result)
  | _ => none

/-- What counts of a measurement, if one was taken. -/
def mark? : Notice σ → Option Metrics.Mark
  | measured sample => some sample.mark
  | _ => none

/-- A notice raises the count of its mark. -/
theorem countOf_applyTo (notice : Notice σ) (world : World σ) (mark : Metrics.Mark) :
    (notice.applyTo world).measurements.countOf mark =
      (world.measurements.countOf mark).map (· + notice.mark?.toList.count mark) := by
  cases notice with
  | measured sample =>
    have counted := world.measurements.countOf_take sample mark
    rw [applyTo, counted, mark?, Option.toList_some, List.count_singleton]
    simp only [beq_iff_eq]
  | _ => simp [applyTo, mark?]

/-- The counts that notices leave are those of their marks. -/
theorem countOf_foldl_applyTo (notices : List (Notice σ)) (world : World σ) (mark : Metrics.Mark) :
    (notices.foldl applyTo world).measurements.countOf mark =
      (world.measurements.countOf mark).map (· + (notices.filterMap mark?).count mark) := by
  induction notices generalizing world with
  | nil => simp
  | cons notice rest ih =>
    rw [List.foldl_cons, ih, countOf_applyTo, Option.map_map]
    congr 1
    funext count
    rw [Function.comp_apply, Nat.add_assoc, ← List.count_append]
    cases h : notice.mark? <;> simp [h]

end Notice

/-- Given the same results, at whatever time. -/
def Likeness.givenResults : Likeness where
  replies first second := first.result = second.result
  samples first second := first.mark = second.mark
  texts _ _ := True
  ids _ _ := True
  result same := same
  refl _ := rfl
  answered _ _ := rfl

/-- The world in which the responder repeats what was given on a path. -/
def World.given (fresh : World (List Given)) (path : List (Notice σ)) : World (List Given) :=
  { fresh with responder := path.filterMap Notice.given? }

/-- What a task brings and counts on its path, one that is alike brings and counts alone around the
responder that repeats what was given on the path. -/
theorem Task.Alike.run_repeating {brings : α → β → Prop} {task : Task α} {other : Task β}
    (h : task.Alike .givenResults brings other) {path : List (Notice σ)} {a : α}
    (leads : task.Leads path (.done a)) (ids : Nat → Uuid) (fresh : World (List Given)) :
    let around : Surroundings (List Given) := ⟨.repeating, ids⟩
    brings a (other.run around (fresh.given path)).1 ∧
      path.filterMap Notice.mark? =
        (other.notices around (fresh.given path)).filterMap Notice.mark? := by
  induction h generalizing path fresh with
  | done related =>
    obtain ⟨rfl, rfl⟩ := Task.leads_done_iff.mp leads
    exact ⟨related, rfl⟩
  | drawLeft _ ih =>
    cases leads with
    | on moves leads => cases moves with | drawId _ id => exact ih id leads fresh
  | drawRight _ ih => exact ih _ leads { fresh with drawn := fresh.drawn + 1 }
  | logLeft _ ih =>
    cases leads with
    | on moves leads => cases moves with | log => exact ih leads fresh
  | @logRight event _ _ _ ih => exact ih leads { fresh with log := event :: fresh.log }
  | ask _ _ ih =>
    cases leads with
    | on moves leads =>
      cases moves with
      | ask _ _ _ outcome => exact ih (replyOf outcome) ⟨outcome.result, 0.0, []⟩ rfl leads fresh
  | probe _ ih =>
    cases leads with
    | on moves leads =>
      cases moves with
      | probe _ outcome => exact ih (replyOf outcome) ⟨outcome.result, 0.0, []⟩ rfl leads fresh
  | @measure sample sample' _ _ same _ ih =>
    cases leads with
    | on moves leads =>
      cases moves with
      | measure =>
        obtain ⟨related, marks⟩ :=
          ih leads { fresh with measurements := fresh.measurements.take sample' }
        exact ⟨related, List.cons_eq_cons.mpr ⟨same, marks⟩⟩
  | showMetrics _ ih =>
    cases leads with
    | on moves leads => cases moves with | showMetrics _ text => exact ih text _ trivial leads fresh

/-- Serving a request is serving it under its id, once that is chosen. -/
theorem Layer.run_requestId_eq (around : Surroundings σ) (inner : Service) (request : Http.Request)
    (world : World σ) :
    (requestId inner request).run around world =
      (underId inner (idIn around world request.headers) request).run around
        (idWorld around world request.headers) := by
  cases h : givenId? request.headers <;> simp only [requestId, h, idIn, idWorld, idNotices] <;> rfl

/-- Choosing an id asks nobody anything, so no reply is given. -/
theorem Layer.Chooses.given? {headers : Http.Headers} {id : String} {draws : List (Notice σ)}
    (h : Chooses headers id draws) : draws.filterMap Notice.given? = [] := by
  cases h <;> rfl

end ChatGateway
