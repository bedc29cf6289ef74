import ChatGateway.Proofs.Text.Trimming
import ChatGateway.Settings

/-!
# Which settings the variables give

Reading the settings is a sequence of checks, each with a fault of its own. If all are passed the
settings hold what the variables say, word for word where nothing is parsed; otherwise the first
check that is not passed names the fault. So each step of the reading is settled by one check, and
steps one after the other are decided by their checks one after the other.
-/

namespace ChatGateway

/-! ## What is parsed -/

/-- A text names a kind, with blanks around the name and its letters in any case. -/
def ResponderKind.NamedBy (kind : ResponderKind) (text : String) : Prop :=
  ∃ before name after : List Char, text.toList = before ++ name ++ after ∧
    (∀ c ∈ before, Text.isBlank c) ∧ (∀ c ∈ after, Text.isBlank c) ∧
    name.map Char.toLower = kind.name.toList

/-- A text gives a number of seconds: a numeral, with blanks around it, of a positive number of
sixty-four binary places. -/
def GivesSeconds (text : String) (seconds : Nat) : Prop :=
  Text.natural? (Text.trimChars text.toList) = some seconds ∧ 0 < seconds ∧ seconds ≤ Text.wordLimit

namespace ResponderKind

variable {kind other : ResponderKind} {text : String}

/-- There are no blanks around the name of a kind. -/
theorem trimmed_name (kind : ResponderKind) : Text.Trimmed kind.name.toList := by
  cases kind with
  | http => exact Text.trimmed_of_trim "http".toList
  | echo => exact Text.trimmed_of_trim "echo".toList

/-- A kind is named by a text exactly if it has this name once trimmed and in lower case. -/
theorem namedBy_iff : kind.NamedBy text ↔ Text.lower (Text.trim text) = kind.name := by
  have named : Text.lower (Text.trim text) = kind.name ↔
      (Text.trimChars text.toList).map Char.toLower = kind.name.toList := by
    rw [Text.lower, Text.trim, String.toList_ofList, ← String.toList_inj, String.toList_ofList]
  rw [named]
  constructor
  · rintro ⟨before, name, after, parts, hbefore, hafter, lowered⟩
    have trimmed : Text.Trimmed name := by
      rw [← Text.trimmed_map_toLower, lowered]
      exact trimmed_name kind
    rw [Text.trimChars_eq_iff.mpr ⟨trimmed, before, after, hbefore, hafter, parts⟩, lowered]
  · intro lowered
    obtain ⟨before, after, hbefore, hafter, parts⟩ := Text.exists_blanks_trim text.toList
    exact ⟨before, _, after, parts, hbefore, hafter, lowered⟩

/-- A text is read as a kind exactly if it names the kind. -/
theorem parse_eq_ok_iff : parse text = .ok kind ↔ kind.NamedBy text := by
  rw [namedBy_iff]
  simp only [parse]
  by_cases http : Text.lower (Text.trim text) = "http"
  · cases kind <;> simp [http, name]
  · by_cases echo : Text.lower (Text.trim text) = "echo"
    · cases kind <;> simp [echo, name]
    · cases kind <;> simp [http, echo, name]

/-- A text names at most one kind. -/
theorem NamedBy.unique (h : kind.NamedBy text) (h' : other.NamedBy text) : kind = other :=
  Except.ok.inj ((parse_eq_ok_iff.mpr h).symm.trans (parse_eq_ok_iff.mpr h'))

/-- A text that names no kind is refused with what is left of it. -/
theorem parse_eq_error (h : ∀ kind : ResponderKind, ¬ kind.NamedBy text) :
    parse text = .error (.unknownKind (Text.lower (Text.trim text))) := by
  have http : Text.lower (Text.trim text) ≠ "http" := fun named => h .http (namedBy_iff.mpr named)
  have echo : Text.lower (Text.trim text) ≠ "echo" := fun named => h .echo (namedBy_iff.mpr named)
  simp only [parse, http, echo, if_false]

end ResponderKind

/-- A text is read as a timeout exactly if it gives that many seconds. -/
theorem parseTimeout_eq_ok_iff {text : String} {seconds : Nat} :
    parseTimeout text = .ok seconds ↔ GivesSeconds text seconds := by
  have given : GivesSeconds text seconds ↔
      Text.boundedNatural? Text.wordLimit (Text.trim text) = some seconds ∧ 0 < seconds := by
    rw [GivesSeconds, Text.boundedNatural?, Text.trim, String.toList_ofList, Option.filter_eq_some_iff,
      decide_eq_true_eq, and_assoc, and_comm (a := 0 < seconds)]
  rw [given]
  unfold parseTimeout
  split
  · rename_i n read
    simp only [read, Except.ok.injEq, Option.some.injEq]
    exact ⟨fun h => ⟨h, h ▸ n.succ_pos⟩, And.left⟩
  · rename_i other
    refine ⟨nofun, fun ⟨read, positive⟩ => ?_⟩
    obtain ⟨n, rfl⟩ := Nat.exists_eq_succ_of_ne_zero (Nat.ne_of_gt positive)
    exact absurd read (other n)

/-- A text that gives no seconds is refused as a timeout. -/
theorem parseTimeout_eq_error {text : String} (h : ∀ seconds, ¬ GivesSeconds text seconds) :
    parseTimeout text = .error (.badTimeout text) := by
  cases parsed : parseTimeout text with
  | ok seconds => exact absurd (parseTimeout_eq_ok_iff.mp parsed) (h seconds)
  | error fault =>
    unfold parseTimeout at parsed
    split at parsed
    · simp at parsed
    · exact parsed ▸ rfl

/-! ## Checks -/

/-- A check of the variables, and the fault if it is not passed. -/
structure SettingsCheck where
  passes : Prop
  fault : SettingsFault

/-- The fault is that of the first check that is not passed. -/
inductive FirstFault : List SettingsCheck → SettingsFault → Prop
  | here {check : SettingsCheck} {rest : List SettingsCheck} (failed : ¬ check.passes) :
    FirstFault (check :: rest) check.fault
  | later {check : SettingsCheck} {rest : List SettingsCheck} {fault : SettingsFault}
    (passed : check.passes) (first : FirstFault rest fault) : FirstFault (check :: rest) fault

/-- Behind a check that passes the first fault is that of the rest. -/
theorem firstFault_cons_of_passes {check : SettingsCheck} {rest : List SettingsCheck}
    {fault : SettingsFault} (passes : check.passes) :
    FirstFault (check :: rest) fault ↔ FirstFault rest fault := by
  refine ⟨fun h => ?_, .later passes⟩
  cases h with
  | here failed => exact absurd passes failed
  | later _ first => exact first

/-- A check that fails has the first fault. -/
theorem firstFault_cons_of_fails {check : SettingsCheck} {rest : List SettingsCheck}
    {fault : SettingsFault} (fails : ¬ check.passes) :
    FirstFault (check :: rest) fault ↔ check.fault = fault := by
  refine ⟨fun h => ?_, fun h => h ▸ .here fails⟩
  cases h with
  | here _ => rfl
  | later passed _ => exact absurd passed fails

/-- A step is settled by a check: it gives what is meant if there is such a thing, and the fault of
the check otherwise. -/
structure SettledBy {α : Type} (step : Except SettingsFault α) (check : SettingsCheck)
    (Meant : α → Prop) : Prop where
  passes_iff : check.passes ↔ ∃ a, Meant a
  ok : ∀ a, Meant a → step = .ok a
  error : ¬ check.passes → step = .error check.fault

/-- A reading is decided by checks: it gives what is meant if all are passed, and the fault of the
first that is not otherwise. -/
structure DecidedBy {α : Type} (reading : Except SettingsFault α) (checks : List SettingsCheck)
    (Meant : α → Prop) : Prop where
  ok_iff : ∀ a, reading = .ok a ↔ (∀ check ∈ checks, check.passes) ∧ Meant a
  error_iff : ∀ fault, reading = .error fault ↔ FirstFault checks fault

namespace DecidedBy

variable {α β : Type} {Meant : α → Prop} {Target : β → Prop}

/-- What is read without a check is what is meant. -/
theorem pure {b : β} (meant : ∀ other, Target other ↔ other = b) : DecidedBy (Pure.pure b) [] Target := by
  refine ⟨fun other => ?_, fun fault => ⟨nofun, nofun⟩⟩
  rw [meant]
  exact ⟨fun h => ⟨nofun, (Except.ok.inj h).symm⟩, fun h => h.2 ▸ rfl⟩

/-- A step before a reading puts its check before those of the reading. -/
theorem cons {step : Except SettingsFault α} {check : SettingsCheck} {checks : List SettingsCheck}
    {next : α → Except SettingsFault β} (first : SettledBy step check Meant)
    (second : ∀ a, Meant a → DecidedBy (next a) checks Target) :
    DecidedBy (step >>= next) (check :: checks) Target := by
  by_cases passes : check.passes
  · obtain ⟨a, meant⟩ := first.passes_iff.mp passes
    have read : step >>= next = next a := by rw [first.ok a meant]; rfl
    refine ⟨fun b => ?_, fun fault => ?_⟩
    · rw [read, (second a meant).ok_iff, List.forall_mem_cons]
      exact ⟨fun ⟨all, target⟩ => ⟨⟨passes, all⟩, target⟩, fun ⟨⟨_, all⟩, target⟩ => ⟨all, target⟩⟩
    · rw [read, (second a meant).error_iff, firstFault_cons_of_passes passes]
  · have read : step >>= next = .error check.fault := by rw [first.error passes]; rfl
    refine ⟨fun b => ?_, fun fault => ?_⟩
    · rw [read, List.forall_mem_cons]
      exact ⟨nofun, fun ⟨⟨passed, _⟩, _⟩ => absurd passed passes⟩
    · rw [read, firstFault_cons_of_fails passes, Except.error.injEq]

/-- A reading succeeds exactly if all checks are passed. -/
theorem exists_ok_iff {reading : Except SettingsFault β} {checks : List SettingsCheck}
    (h : DecidedBy reading checks Target) :
    (∃ b, reading = .ok b) ↔ ∀ check ∈ checks, check.passes := by
  refine ⟨fun ⟨b, read⟩ => ((h.ok_iff b).mp read).1, fun all => ?_⟩
  cases read : reading with
  | ok b => exact ⟨b, rfl⟩
  | error fault =>
    have first := (h.error_iff fault).mp read
    exfalso
    clear h read
    induction first with
    | here failed => exact failed (all _ List.mem_cons_self)
    | later _ _ ih => exact ih fun check listed => all check (List.mem_cons_of_mem _ listed)

end DecidedBy

/-! ## The checks of the settings -/

/-- The check of a text that should name a kind. -/
def ResponderKind.check (text : String) : SettingsCheck where
  passes := ∃ kind : ResponderKind, kind.NamedBy text
  fault := .unknownKind (Text.lower (Text.trim text))

/-- A kind is settled by its check. -/
theorem ResponderKind.settledBy_parse (text : String) :
    SettledBy (ResponderKind.parse text) (ResponderKind.check text) (·.NamedBy text) :=
  ⟨.rfl, fun _ => parse_eq_ok_iff.mpr, fun h => parse_eq_error (not_exists.mp h)⟩

/-- The check of a text that should give a number of seconds. -/
def timeoutCheck (text : String) : SettingsCheck where
  passes := ∃ seconds, GivesSeconds text seconds
  fault := .badTimeout text

/-- A timeout is settled by its check. -/
theorem settledBy_parseTimeout (text : String) :
    SettledBy (parseTimeout text) (timeoutCheck text) (GivesSeconds text) :=
  ⟨.rfl, fun _ => parseTimeout_eq_ok_iff.mpr, fun h => parseTimeout_eq_error (not_exists.mp h)⟩

namespace Lookup

variable (lookup : Lookup) (key standard : String)

/-- The value of a variable, or the standard one if it is not set. -/
def value : String := (lookup key).getD standard

/-- The check that a variable is set if this is production. -/
def presence : SettingsCheck where
  passes := lookup "ENVIRONMENT" = some "prod" → (lookup key).isSome
  fault := .missing key

/-- A required value is settled by its presence. -/
theorem settledBy_required : SettledBy (lookup.required key standard) (lookup.presence key)
    fun value => (lookup.presence key).passes ∧ value = lookup.value key standard := by
  refine ⟨⟨fun passes => ⟨_, passes, rfl⟩, fun ⟨_, passes, _⟩ => passes⟩, ?_, fun fails => ?_⟩
  · rintro _ ⟨passes, rfl⟩
    cases set : lookup key with
    | some given => simp [required, value, set]
    | none =>
      have elsewhere : lookup.isProduction = false := by
        rw [isProduction, decide_eq_false_iff_not]
        intro production
        have present := passes production
        simp [set] at present
      simp [required, value, set, elsewhere]
  · simp only [presence, Classical.not_imp, Bool.not_eq_true, Option.isSome_eq_false_iff,
      Option.isNone_iff_eq_none] at fails
    have production : lookup.isProduction = true := by
      rw [isProduction, decide_eq_true_eq]
      exact fails.1
    simp [required, presence, fails.2, production]

/-- A variable says something: it is set to this text, and the text is more than blanks. -/
def Says (text : String) : Prop :=
  lookup key = some text ∧ ∃ c ∈ text.toList, Text.isBlank c = false

/-- The value of an optional variable is what the variable says. -/
theorem optional_eq_some_iff {text : String} :
    lookup.optional key = some text ↔ lookup.Says key text := by
  rw [optional, Option.filter_eq_some_iff, Says]
  simp [Text.isBlankText]

/-- An optional variable has no value exactly if it says nothing, -/
theorem optional_eq_none_iff : lookup.optional key = none ↔ ∀ text, ¬ lookup.Says key text := by
  simp only [Option.eq_none_iff_forall_ne_some, ne_eq, optional_eq_some_iff]

/-- and it says nothing if it is not set, or set to blanks. -/
theorem says_nothing_iff : (∀ text, ¬ lookup.Says key text) ↔
    ∀ text, lookup key = some text → ∀ c ∈ text.toList, Text.isBlank c := by
  simp [Says]

/-- A value that is there exactly when the variable says it is the one of the optional variable. -/
theorem eq_optional_iff {value : Option String} :
    value = lookup.optional key ↔ ∀ text, value = some text ↔ lookup.Says key text := by
  simp only [← optional_eq_some_iff]
  exact ⟨fun h text => h ▸ .rfl, Option.ext⟩

/-- A text is what an optional variable comes to with a standard value, exactly if the variable says it,
or says nothing and it is the standard one. -/
theorem eq_optional_getD_iff {text : String} : text = (lookup.optional key).getD standard ↔
    lookup.Says key text ∨ (∀ said, ¬ lookup.Says key said) ∧ text = standard := by
  rw [← optional_eq_none_iff, ← optional_eq_some_iff]
  cases lookup.optional key <;> simp [eq_comm]

section Congr

variable {lookup} {other : Lookup} {key}

/-- The value of a variable depends on this variable alone. -/
theorem value_congr (h : lookup key = other key) (standard : String) :
    lookup.value key standard = other.value key standard := by
  rw [value, value, h]

/-- An optional value depends on its variable alone. -/
theorem optional_congr (h : lookup key = other key) : lookup.optional key = other.optional key := by
  rw [optional, optional, h]

/-- Variables with one value say the same. -/
theorem says_congr (h : lookup key = other key) (text : String) :
    lookup.Says key text ↔ other.Says key text := by
  rw [Says, Says, h]

/-- Whether a variable is present where it must be does not depend on its value. -/
theorem presence_congr (environment : lookup "ENVIRONMENT" = other "ENVIRONMENT")
    (set : (lookup key).isSome = (other key).isSome) :
    (lookup.presence key).passes ↔ (other.presence key).passes := by
  rw [presence, presence, environment, set]

end Congr

end Lookup

namespace Settings

/-- The checks of the variables, in the order in which they are made. -/
def checks (lookup : Lookup) : List SettingsCheck :=
  [lookup.presence "RESPONDER_KIND",
    ResponderKind.check (lookup.value "RESPONDER_KIND" "http"),
    lookup.presence "RESPONDER_URL",
    lookup.presence "RESPONDER_TIMEOUT_SECS",
    timeoutCheck (lookup.value "RESPONDER_TIMEOUT_SECS" "30"),
    lookup.presence "RESOURCE_DATA_DIR",
    lookup.presence "RESOURCE_BUNDLE_NAME",
    lookup.presence "STATIC_DIR"]

/-- The settings hold what the variables say. -/
structure Follow (settings : Settings) (home : String) (common : ListenAddress) (lookup : Lookup) :
    Prop where
  common : settings.common = common
  kind : settings.responder.kind.NamedBy (lookup.value "RESPONDER_KIND" "http")
  url : settings.responder.url = lookup.value "RESPONDER_URL" "http://classifier:5005/classify"
  healthUrl : ∀ text,
    settings.responder.healthUrl = some text ↔ lookup.Says "RESPONDER_HEALTH_URL" text
  timeout : GivesSeconds (lookup.value "RESPONDER_TIMEOUT_SECS" "30") settings.responder.timeoutSeconds
  bundleUrl : ∀ text, settings.resources.bundleUrl = some text ↔ lookup.Says "RESOURCE_BUNDLE_URL" text
  dataDirectory : settings.resources.dataDirectory = lookup.value "RESOURCE_DATA_DIR" "data"
  bundleName : settings.resources.bundleName = lookup.value "RESOURCE_BUNDLE_NAME" "punkt.zip"
  logLevel : lookup.Says "LOG_LEVEL" settings.observability.logLevel ∨
    (∀ text, ¬ lookup.Says "LOG_LEVEL" text) ∧ settings.observability.logLevel = "info"
  traceEndpoint : ∀ text,
    settings.observability.traceEndpoint = some text ↔ lookup.Says "OTLP_ENDPOINT" text
  staticDirectory : settings.staticDirectory = lookup.value "STATIC_DIR" (home ++ "/static")

variable (home : String) (common : ListenAddress) (lookup : Lookup)

/-- The settings with this kind and this timeout, and with what the variables say in all other places. -/
def following (kind : ResponderKind) (timeoutSeconds : Nat) : Settings where
  common
  responder := {
    kind
    url := lookup.value "RESPONDER_URL" "http://classifier:5005/classify"
    healthUrl := lookup.optional "RESPONDER_HEALTH_URL"
    timeoutSeconds }
  resources := {
    bundleUrl := lookup.optional "RESOURCE_BUNDLE_URL"
    dataDirectory := lookup.value "RESOURCE_DATA_DIR" "data"
    bundleName := lookup.value "RESOURCE_BUNDLE_NAME" "punkt.zip" }
  observability := {
    logLevel := (lookup.optional "LOG_LEVEL").getD "info"
    traceEndpoint := lookup.optional "OTLP_ENDPOINT" }
  staticDirectory := lookup.value "STATIC_DIR" (home ++ "/static")

variable {home common lookup}

/-- These settings follow the variables if the kind and the timeout do. -/
theorem follow_following {kind : ResponderKind} {seconds : Nat}
    (named : kind.NamedBy (lookup.value "RESPONDER_KIND" "http"))
    (given : GivesSeconds (lookup.value "RESPONDER_TIMEOUT_SECS" "30") seconds) :
    (following home common lookup kind seconds).Follow home common lookup where
  common := rfl
  kind := named
  url := rfl
  healthUrl := (lookup.eq_optional_iff _).mp rfl
  timeout := given
  bundleUrl := (lookup.eq_optional_iff _).mp rfl
  dataDirectory := rfl
  bundleName := rfl
  logLevel := (lookup.eq_optional_getD_iff _ _).mp rfl
  traceEndpoint := (lookup.eq_optional_iff _).mp rfl
  staticDirectory := rfl

/-- The variables leave no choice but the kind and the timeout. -/
theorem Follow.eq_following {settings : Settings} (h : settings.Follow home common lookup) :
    settings = following home common lookup settings.responder.kind settings.responder.timeoutSeconds := by
  obtain ⟨_, ⟨_, _, _, _⟩, ⟨_, _, _⟩, ⟨_, _⟩, _⟩ := settings
  obtain ⟨rfl, -, rfl, health, -, bundle, rfl, rfl, level, endpoint, rfl⟩ := h
  cases (lookup.eq_optional_iff _).mpr health
  cases (lookup.eq_optional_iff _).mpr bundle
  cases (lookup.eq_optional_getD_iff _ _).mpr level
  cases (lookup.eq_optional_iff _).mpr endpoint
  rfl

/-- The variables leave no choice. -/
theorem Follow.eq {settings other : Settings} (h : settings.Follow home common lookup)
    (h' : other.Follow home common lookup) : settings = other := by
  rw [h.eq_following, h'.eq_following, ResponderKind.NamedBy.unique h.kind h'.kind,
    Option.some.inj (h.timeout.1.symm.trans h'.timeout.1)]

variable (home common lookup)

/-- Reading the settings is decided by the checks, made one after the other. -/
theorem decidedBy_read :
    DecidedBy (read home common lookup) (checks lookup) (Follow · home common lookup) := by
  unfold read
  refine .cons (lookup.settledBy_required _ _) ?_
  rintro _ ⟨-, rfl⟩
  refine .cons (ResponderKind.settledBy_parse _) fun kind named => ?_
  refine .cons (lookup.settledBy_required _ _) ?_
  rintro _ ⟨-, rfl⟩
  refine .cons (lookup.settledBy_required _ _) ?_
  rintro _ ⟨-, rfl⟩
  refine .cons (settledBy_parseTimeout _) fun seconds given => ?_
  refine .cons (lookup.settledBy_required _ _) ?_
  rintro _ ⟨-, rfl⟩
  refine .cons (lookup.settledBy_required _ _) ?_
  rintro _ ⟨-, rfl⟩
  refine .cons (lookup.settledBy_required _ _) ?_
  rintro _ ⟨-, rfl⟩
  refine .pure fun settings => ⟨fun follows => ?_, ?_⟩
  · exact follows.eq (follow_following named given)
  · rintro rfl
    exact follow_following named given

/-- The variables that production requires, each with the value that it has elsewhere if it is not
set. -/
def standards (home : String) : List (String × String) :=
  [("RESPONDER_KIND", "http"), ("RESPONDER_URL", "http://classifier:5005/classify"),
    ("RESPONDER_TIMEOUT_SECS", "30"), ("RESOURCE_DATA_DIR", "data"),
    ("RESOURCE_BUNDLE_NAME", "punkt.zip"), ("STATIC_DIR", home ++ "/static")]

/-- Settings are read exactly if they follow the variables and those are there that production
requires. -/
theorem read_eq_ok_iff {home : String} {common : ListenAddress} {lookup : Lookup} {settings : Settings} :
    read home common lookup = .ok settings ↔
      (∀ required ∈ standards home, (lookup.presence required.1).passes) ∧
        settings.Follow home common lookup := by
  rw [(decidedBy_read home common lookup).ok_iff]
  simp only [checks, standards, List.forall_mem_cons, List.not_mem_nil, false_imp_iff, implies_true,
    and_true]
  constructor
  · rintro ⟨⟨kind, -, url, timeout, -, directory, name, assets⟩, follows⟩
    exact ⟨⟨kind, url, timeout, directory, name, assets⟩, follows⟩
  · rintro ⟨⟨kind, url, timeout, directory, name, assets⟩, follows⟩
    exact ⟨⟨kind, ⟨_, follows.kind⟩, url, timeout, ⟨_, follows.timeout⟩, directory, name, assets⟩, follows⟩

/-- The settings with another timeout. -/
def withSeconds (settings : Settings) (seconds : Nat) : Settings :=
  { settings with responder := { settings.responder with timeoutSeconds := seconds } }

/-- Where variables differ in what is parsed, the settings that follow the ones also follow the
others, up to what is parsed. -/
theorem Follow.withSeconds {home : String} {common : ListenAddress} {lookup other : Lookup}
    {settings : Settings} {seconds : Nat} (follows : settings.Follow home common lookup)
    (elsewhere : ∀ key, key ≠ "RESPONDER_KIND" → key ≠ "RESPONDER_TIMEOUT_SECS" →
      lookup key = other key)
    (kind : settings.responder.kind.NamedBy (other.value "RESPONDER_KIND" "http"))
    (timeout : GivesSeconds (other.value "RESPONDER_TIMEOUT_SECS" "30") seconds) :
    (settings.withSeconds seconds).Follow home common other := by
  have value {key : String} (first : key ≠ "RESPONDER_KIND") (second : key ≠ "RESPONDER_TIMEOUT_SECS")
      (standard : String) := Lookup.value_congr (elsewhere key first second) standard
  have told {key : String} (first : key ≠ "RESPONDER_KIND") (second : key ≠ "RESPONDER_TIMEOUT_SECS")
      (text : String) := Lookup.says_congr (elsewhere key first second) text
  exact {
    common := follows.common
    kind
    url := follows.url.trans (value (by decide) (by decide) _)
    healthUrl := fun text => (follows.healthUrl text).trans (told (by decide) (by decide) text)
    timeout
    bundleUrl := fun text => (follows.bundleUrl text).trans (told (by decide) (by decide) text)
    dataDirectory := follows.dataDirectory.trans (value (by decide) (by decide) _)
    bundleName := follows.bundleName.trans (value (by decide) (by decide) _)
    logLevel := by
      have level (text : String) : lookup.Says "LOG_LEVEL" text ↔ other.Says "LOG_LEVEL" text :=
        told (by decide) (by decide) text
      simp only [← level]
      exact follows.logLevel
    traceEndpoint := fun text => (follows.traceEndpoint text).trans (told (by decide) (by decide) text)
    staticDirectory := follows.staticDirectory.trans (value (by decide) (by decide) _) }

/-- The settings that are read have the address that they are given. -/
theorem common_of_read {home : String} {common : ListenAddress} {lookup : Lookup}
    {settings : Settings} (h : read home common lookup = .ok settings) : settings.common = common :=
  (((decidedBy_read home common lookup).ok_iff settings).mp h).2.common

/-- The settings are read exactly if all checks are passed, and then they follow the variables;
otherwise the first check that is not passed names the fault of the configuration. -/
theorem read_exactly :
    ((∃ settings, read home common lookup = .ok settings) ↔ ∀ check ∈ checks lookup, check.passes) ∧
    (∀ settings, read home common lookup = .ok settings ↔
      (∀ check ∈ checks lookup, check.passes) ∧ settings.Follow home common lookup) ∧
    ∀ failure, (read home common lookup).mapError SettingsFault.failure = .error failure ↔
      ∃ fault, FirstFault (checks lookup) fault ∧ failure = .settings ⟨fault.message, []⟩ := by
  have decided := decidedBy_read home common lookup
  refine ⟨decided.exists_ok_iff, decided.ok_iff, fun failure => ?_⟩
  simp only [← decided.error_iff]
  cases read home common lookup with
  | ok settings => simp [Except.mapError]
  | error fault => simp [Except.mapError, SettingsFault.failure, eq_comm]

end Settings

end ChatGateway
