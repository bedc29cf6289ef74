import ChatGateway.Proofs.Settings.Reading
import ChatGateway.Proofs.Text.Numeral
import Mathlib.Logic.Function.Basic

/-!
# Which texts state a timeout

The timeout is a numeral of a positive number of sixty-four binary places, with blanks around it,
and it is exactly what this numeral is worth. With any other text for it no settings are read, so
the text is never replaced by the standard value, nor its number by another one.

The other variables have no part in this: if the settings are read with one timeout, then with
another one they are the same up to the timeout, or the text of the timeout is the only fault.
-/

namespace ChatGateway

/-- A text states a number of seconds: it is a numeral with blanks around it, of a positive number
of sixty-four binary places. -/
def StatesSeconds (text : String) (seconds : Nat) : Prop :=
  (∃ before sign digits after : List Char, text.toList = before ++ (sign ++ digits) ++ after ∧
    (∀ c ∈ before, Text.isBlank c) ∧ (∀ c ∈ after, Text.isBlank c) ∧
    Text.NumeralOf seconds sign digits) ∧
  1 ≤ seconds ∧ seconds ≤ 2 ^ 64 - 1

/-- No blank stands in a numeral. -/
theorem Text.NumeralOf.trimmed {n : Nat} {sign digits : List Char} (h : NumeralOf n sign digits) :
    Trimmed (sign ++ digits) := by
  have solid (c : Char) (inside : c ∈ sign ++ digits) : isBlank c = false := by
    have visible : 33 ≤ c.toNat ∧ c.toNat ≤ 57 := by
      rcases List.mem_append.mp inside with signed | digit
      · rcases h.sign with rfl | rfl
        · contradiction
        · rw [List.mem_singleton.mp signed]
          decide
      · have := bounds_of_isDigit (h.basic c digit)
        omega
    rw [Bool.eq_false_iff]
    intro blank
    have := toNat_of_isBlank blank
    omega
  exact ⟨fun c first => solid c (List.mem_of_mem_head? first),
    fun c last => solid c (List.mem_of_mem_getLast? last)⟩

/-- Trimming finds the numeral of a text that states a number of seconds. -/
theorem statesSeconds_iff {text : String} {seconds : Nat} :
    StatesSeconds text seconds ↔ GivesSeconds text seconds := by
  unfold StatesSeconds GivesSeconds
  refine and_congr ?_ Iff.rfl
  rw [Text.natural?_eq_some_iff]
  constructor
  · rintro ⟨before, sign, digits, after, parts, hbefore, hafter, numeral⟩
    exact ⟨sign, digits, Text.trimChars_eq_iff.mpr
      ⟨numeral.trimmed, before, after, hbefore, hafter, parts⟩, numeral⟩
  · rintro ⟨sign, digits, trimmed, numeral⟩
    obtain ⟨before, after, hbefore, hafter, parts⟩ := Text.exists_blanks_trim text.toList
    exact ⟨before, sign, digits, after, trimmed ▸ parts, hbefore, hafter, numeral⟩

/-- The variables with this text as the timeout. -/
def Lookup.withTimeout (lookup : Lookup) (text : String) : Lookup :=
  Function.update lookup "RESPONDER_TIMEOUT_SECS" (some text)

namespace Settings

variable {home : String} {common : ListenAddress} {lookup : Lookup} {settings : Settings}
  {text known : String} {seconds : Nat}

/-- Setting the timeout leaves every other variable as it is. -/
theorem withTimeout_congr (lookup : Lookup) (known text : String) {key : String}
    (elsewhere : key ≠ "RESPONDER_TIMEOUT_SECS") :
    lookup.withTimeout known key = lookup.withTimeout text key := by
  rw [Lookup.withTimeout, Lookup.withTimeout, Function.update_of_ne elsewhere,
    Function.update_of_ne elsewhere]

/-- The timeout that was set is the value of its variable. -/
theorem value_withTimeout (lookup : Lookup) (text standard : String) :
    (lookup.withTimeout text).value "RESPONDER_TIMEOUT_SECS" standard = text := by
  simp [Lookup.value, Lookup.withTimeout]

/-- With another timeout the same variables are there. -/
theorem presence_withTimeout (key : String) :
    ((lookup.withTimeout known).presence key).passes ↔ ((lookup.withTimeout text).presence key).passes := by
  refine Lookup.presence_congr (withTimeout_congr lookup known text (by decide)) ?_
  by_cases here : key = "RESPONDER_TIMEOUT_SECS"
  · subst here
    simp [Lookup.withTimeout]
  · rw [withTimeout_congr lookup known text here]

/-- Settings that are read hold the number of seconds that is stated. -/
theorem timeout_of_read (read : read home common (lookup.withTimeout text) = .ok settings) :
    StatesSeconds text settings.responder.timeoutSeconds := by
  have timeout := (read_eq_ok_iff.mp read).2.timeout
  rw [value_withTimeout] at timeout
  exact statesSeconds_iff.mpr timeout

/-- With another timeout the settings are the same up to that. -/
theorem read_withTimeout (read : read home common (lookup.withTimeout known) = .ok settings)
    (states : StatesSeconds text seconds) :
    Settings.read home common (lookup.withTimeout text) = .ok (settings.withSeconds seconds) := by
  obtain ⟨present, follows⟩ := read_eq_ok_iff.mp read
  refine read_eq_ok_iff.mpr ⟨fun required listed => ?_, ?_⟩
  · exact (presence_withTimeout required.1).mp (present required listed)
  · refine follows.withSeconds (fun key _ second => withTimeout_congr lookup known text second) ?_ ?_
    · rw [Lookup.value_congr (withTimeout_congr lookup text known (by decide))]
      exact follows.kind
    · rw [value_withTimeout]
      exact statesSeconds_iff.mp states

/-- Where settings are read with another timeout, a text that states none is the first fault. -/
theorem read_of_stateless (read : read home common (lookup.withTimeout known) = .ok settings)
    (stateless : ∀ seconds, ¬ StatesSeconds text seconds) :
    Settings.read home common (lookup.withTimeout text) = .error (.badTimeout text) := by
  obtain ⟨present, follows⟩ := read_eq_ok_iff.mp read
  have passes (required : String × String) (listed : required ∈ standards home) :
      ((lookup.withTimeout text).presence required.1).passes :=
    (presence_withTimeout required.1).mp (present required listed)
  have kind : (ResponderKind.check ((lookup.withTimeout text).value "RESPONDER_KIND" "http")).passes := by
    rw [Lookup.value_congr (withTimeout_congr lookup text known (by decide))]
    exact ⟨_, follows.kind⟩
  have refused : ¬ (timeoutCheck text).passes := by
    rintro ⟨seconds, gives⟩
    exact stateless seconds (statesSeconds_iff.mpr gives)
  rw [(decidedBy_read home common _).error_iff, checks, value_withTimeout]
  exact .later (passes ("RESPONDER_KIND", "http") (by simp [standards])) <| .later kind <|
    .later (passes ("RESPONDER_URL", "http://classifier:5005/classify") (by simp [standards])) <|
    .later (passes ("RESPONDER_TIMEOUT_SECS", "30") (by simp [standards])) <| .here refused

/-- What becomes of a text that is given as the timeout, next to other variables. -/
structure ReadsTimeout (home : String) (common : ListenAddress) (lookup : Lookup) (text : String) :
    Prop where
  accepted : ∀ seconds, parseTimeout text = .ok seconds ↔ StatesSeconds text seconds
  refused : parseTimeout text = .error (.badTimeout text) ↔ ∀ seconds, ¬ StatesSeconds text seconds
  /-- What is read is what the text states. -/
  held : ∀ settings, read home common (lookup.withTimeout text) = .ok settings →
    StatesSeconds text settings.responder.timeoutSeconds
  /-- A text that states nothing is a fault of the settings, whatever else there is. -/
  faulty : (∀ seconds, ¬ StatesSeconds text seconds) → ∃ fault,
    (read home common (lookup.withTimeout text)).mapError SettingsFault.failure =
      .error (.settings fault)
  /-- If nothing else is at fault, the text alone decides. -/
  alone : ∀ known settings, read home common (lookup.withTimeout known) = .ok settings →
    (∀ seconds, StatesSeconds text seconds →
      read home common (lookup.withTimeout text) = .ok (settings.withSeconds seconds)) ∧
    ((∀ seconds, ¬ StatesSeconds text seconds) →
      (read home common (lookup.withTimeout text)).mapError SettingsFault.failure =
        .error (.settings ⟨"RESPONDER_TIMEOUT_SECS must be a positive number of seconds, got '" ++ text ++
          "'", []⟩))

/-- A timeout is accepted exactly if it states a number of seconds, and then it is this number;
any other text is a fault of the settings. -/
theorem timeout_exactly (home : String) (common : ListenAddress) (lookup : Lookup) (text : String) :
    ReadsTimeout home common lookup text := by
  have accepted (seconds : Nat) : parseTimeout text = .ok seconds ↔ StatesSeconds text seconds :=
    parseTimeout_eq_ok_iff.trans statesSeconds_iff.symm
  refine ⟨accepted, ⟨fun refused seconds states => ?_, fun stateless => ?_⟩, fun _ => timeout_of_read,
    fun stateless => ?_, fun known settings read => ⟨fun _ => read_withTimeout read, fun stateless => ?_⟩⟩
  · rw [(accepted seconds).mpr states] at refused
    contradiction
  · exact parseTimeout_eq_error fun seconds gives => stateless seconds (statesSeconds_iff.mpr gives)
  · cases outcome : Settings.read home common (lookup.withTimeout text) with
    | ok settings => exact absurd (timeout_of_read outcome) (stateless _)
    | error fault => exact ⟨_, rfl⟩
  · rw [read_of_stateless read stateless]
    rfl

/-- The greatest timeout may have a sign, leading zeros and blanks around it. -/
example : parseTimeout "\t+0018446744073709551615 " = .ok (2 ^ 64 - 1) := by decide

end Settings

end ChatGateway
