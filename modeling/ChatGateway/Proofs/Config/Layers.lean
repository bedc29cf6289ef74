import ChatGateway.Config.Load
import Mathlib.Data.List.TakeWhile

/-!
# What layers say of a setting

The values that are laid over settings come one after another, and the last one that says anything
about a setting decides it. Variables are such values. If each name occurs once among them and only
one name leads to a setting, then this variable prevails over what was there, and no other one plays
a part. The address to listen on is made of two settings, each on its own.
-/

namespace ChatGateway.Config

variable {settings : Settings} {name key : String} {value : Sourced}

/-- A text without dots and brackets is a setting. -/
theorem Key.ofText_of_isNameChar {text : String} (h : text.toList.all Key.isNameChar = true) :
    Key.ofText text = ⟨text, .itself⟩ := by
  have name : text.toList.takeWhile Key.isNameChar = text.toList :=
    List.takeWhile_eq_self_iff.mpr (List.all_eq_true.mp h)
  have steps : text.toList.dropWhile Key.isNameChar = [] := List.dropWhile_eq_nil_iff.mpr (List.all_eq_true.mp h)
  simp only [Key.ofText, name, steps, String.ofList_toList, ite_self]

/-- A setting that is replaced has its new value. -/
theorem lookup_replace_self : (replace name value settings).lookup name = some value := by
  induction settings with
  | nil => simp [replace]
  | cons entry settings ih =>
    obtain ⟨n, v⟩ := entry
    by_cases same : n = name
    · simp [replace, same]
    · have other : (name == n) = false := beq_false_of_ne (Ne.symm same)
      simp [replace, same, List.lookup_cons, other, ih]

/-- Replacing a setting leaves every other one as it is. -/
theorem lookup_replace_of_ne {other : String} (h : other ≠ name) :
    (replace name value settings).lookup other = settings.lookup other := by
  induction settings with
  | nil => simp [replace, List.lookup_cons, beq_false_of_ne h]
  | cons entry settings ih =>
    obtain ⟨n, v⟩ := entry
    by_cases same : n = name
    · subst same
      simp [replace, List.lookup_cons, beq_false_of_ne h]
    · simp [replace, same, List.lookup_cons, ih]

/-- A key that leads elsewhere leaves a setting as it is. -/
theorem lookup_assign_of_ne (elsewhere : (Key.ofText key).root ≠ name) :
    (assign settings key value).lookup name = settings.lookup name :=
  lookup_replace_of_ne elsewhere.symm

/-- What a key that is a setting makes of a value that is no table is this value. -/
theorem assigned_itself (old : Option Sourced) (flat : value.setting ≠ .table) :
    assigned .itself old value = value := by
  obtain ⟨setting, origin⟩ := value
  cases setting with
  | table => contradiction
  | _ => rfl

/-- A key that is a setting gives it any value that is no table. -/
theorem lookup_assign_self (own : Key.ofText key = ⟨name, .itself⟩) (flat : value.setting ≠ .table) :
    (assign settings key value).lookup name = some value := by
  simp only [assign, own, assigned_itself _ flat, lookup_replace_self]

/-- Values that lead elsewhere leave a setting as it is. -/
theorem lookup_overlay_of_ne {values : List (String × Sourced)}
    (elsewhere : ∀ entry ∈ values, (Key.ofText entry.1).root ≠ name) :
    (overlay settings values).lookup name = settings.lookup name := by
  induction values generalizing settings with
  | nil => rfl
  | cons entry values ih =>
    rw [List.forall_mem_cons] at elsewhere
    exact (ih elsewhere.2).trans (lookup_assign_of_ne elsewhere.1)

/-- Values that follow others are laid over what those made. -/
theorem overlay_append (values later : List (String × Sourced)) :
    overlay settings (values ++ later) = overlay (overlay settings values) later :=
  List.foldl_append

/-- The last of the values that says anything about a setting gives it one that is no table. -/
structure LastGiven (values : List (String × Sourced)) (name : String) (value : Sourced) : Prop where
  given : ∃ before key later, values = before ++ (key, value) :: later ∧
    Key.ofText key = ⟨name, .itself⟩ ∧ ∀ entry ∈ later, (Key.ofText entry.1).root ≠ name
  flat : value.setting ≠ .table

/-- The last value that says anything about a setting is the one that it has. -/
theorem LastGiven.lookup_overlay {values : List (String × Sourced)} (h : LastGiven values name value) :
    (overlay settings values).lookup name = some value := by
  obtain ⟨⟨before, key, later, rfl, own, elsewhere⟩, flat⟩ := h
  rw [overlay_append]
  exact (lookup_overlay_of_ne elsewhere).trans (lookup_assign_self own flat)

/-- What values before others say of a setting does not count if the others say something. -/
theorem LastGiven.append {values : List (String × Sourced)} (h : LastGiven values name value)
    (earlier : List (String × Sourced)) : LastGiven (earlier ++ values) name value := by
  obtain ⟨⟨before, key, later, rfl, own, elsewhere⟩, flat⟩ := h
  exact ⟨⟨earlier ++ before, key, later, by rw [List.append_assoc], own, elsewhere⟩, flat⟩

/-- Values that lead elsewhere do not count. -/
theorem LastGiven.append_of_ne {values later : List (String × Sourced)}
    (h : LastGiven values name value) (elsewhere : ∀ entry ∈ later, (Key.ofText entry.1).root ≠ name) :
    LastGiven (values ++ later) name value := by
  obtain ⟨⟨before, key, after, rfl, own, silent⟩, flat⟩ := h
  refine ⟨⟨before, key, after ++ later, by simp, own, ?_⟩, flat⟩
  exact fun entry member => (List.mem_append.mp member).elim (silent entry) (elsewhere entry)

/-- The value that a variable gives. -/
def ofVariable (text : String) : Sourced := ⟨.text text, some environmentOrigin⟩

/-- A variable and the setting that it alone leads to. -/
structure LeadsAlone (known : List (String × String)) (variableName name : String) : Prop where
  key : keyOf? variableName = some name
  own : Key.ofText name = ⟨name, .itself⟩
  alone : ∀ entry ∈ known, entry.1 ≠ variableName → ∀ key, keyOf? entry.1 = some key →
    (Key.ofText key).root ≠ name

section

variable {known : List (String × String)} {variableName text : String}

/-- No other variable says anything about the setting that a variable alone leads to. -/
theorem LeadsAlone.elsewhere (h : LeadsAlone known variableName name) {others : List (String × String)}
    (inside : others ⊆ known) (different : ∀ entry ∈ others, entry.1 ≠ variableName) :
    ∀ entry ∈ ofVariables others, (Key.ofText entry.1).root ≠ name := by
  intro entry member
  obtain ⟨source, listed, made⟩ := List.mem_filterMap.mp member
  obtain ⟨key, leads, rfl⟩ := Option.map_eq_some_iff.mp made
  exact h.alone source (inside listed) (different source listed) key leads

/-- The variable that alone leads to a setting is the last to say anything about it. -/
theorem LeadsAlone.lastGiven (h : LeadsAlone known variableName name)
    (distinct : (known.map Prod.fst).Nodup) (found : known.lookup variableName = some text) :
    LastGiven (ofVariables known) name (ofVariable text) := by
  obtain ⟨before, after, rfl, -⟩ := List.lookup_eq_some_iff.mp found
  have later : ∀ entry ∈ after, entry.1 ≠ variableName := by
    intro entry member same
    rw [List.map_append, List.map_cons] at distinct
    have unique := (List.nodup_cons.mp (List.nodup_append.mp distinct).2.1).1
    exact unique (List.mem_map.mpr ⟨entry, member, same⟩)
  have inside : after ⊆ before ++ (variableName, text) :: after :=
    List.subset_append_of_subset_right before (List.subset_cons_self _ after)
  refine ⟨⟨ofVariables before, name, ofVariables after, ?_, h.own, h.elsewhere inside later⟩, nofun⟩
  simp [ofVariables, h.key, ofVariable]

/-- The variable that alone leads to a setting prevails over what the setting was. -/
theorem LeadsAlone.lookup_overlay (h : LeadsAlone known variableName name)
    (distinct : (known.map Prod.fst).Nodup) :
    (overlay settings (ofVariables known)).lookup name =
      ((known.lookup variableName).map ofVariable).or (settings.lookup name) := by
  cases found : known.lookup variableName with
  | none =>
    rw [List.lookup_eq_none_iff] at found
    refine lookup_overlay_of_ne (h.elsewhere (List.Subset.refl known) fun entry member => ?_)
    exact (bne_iff_ne.mp (found entry member)).symm
  | some text => exact (h.lastGiven distinct found).lookup_overlay

end

/-! ## The address -/

/-- The host that settings give. -/
def hostOf (settings : Settings) : Except Fault String :=
  match settings.lookup "host" with
  | some given => given.text "host"
  | none => .ok "0.0.0.0"

/-- The port that settings give. -/
def portOf (settings : Settings) : Except Fault Nat :=
  match settings.lookup "port" with
  | some given => given.shortNatural "port"
  | none => .ok 5000

/-- What an optional value is read as, with a default for none. -/
theorem map_getD_mapM {α : Type} (read : Sourced → Except Fault α) (standard : α)
    (found : Option Sourced) :
    (found.mapM read).map (·.getD standard) =
      match found with
      | some given => read given
      | none => .ok standard := by
  cases found with
  | none => rfl
  | some given =>
    change ((read given).map some).map _ = read given
    cases read given <;> rfl

/-- The host and the port are settings of their own. -/
theorem addressOf_eq (settings : Settings) :
    addressOf settings = do
      let host ← hostOf settings
      let port ← portOf settings
      return ⟨host, port⟩ := by
  rw [addressOf, hostOf, portOf, ← map_getD_mapM (Sourced.text · "host"),
    ← map_getD_mapM (Sourced.shortNatural · "port")]
  cases (settings.lookup "host").mapM (Sourced.text · "host") with
  | error fault => rfl
  | ok host => cases (settings.lookup "port").mapM (Sourced.shortNatural · "port") <;> rfl

end ChatGateway.Config
