import ChatGateway.Proofs.Config.Loading
import ChatGateway.Proofs.Listen
import ChatGateway.Proofs.Settings.Reading

/-!
# The port that is configured

A natural number reaches the port as an integer in the configuration file or as a numeral in a
variable, and passes through numbers of sixty-four and of sixteen binary places on its way. Nothing
of it is lost: the port is this number, or there is none.

Which source of the port wins does not matter, nor what else is configured: that can only keep the
process from having an address at all.
-/

namespace ChatGateway.Config

/-! ## Numbers of settings -/

/-- A setting is a natural number: an integer, or the numeral of one. -/
inductive Setting.Names : Setting → Nat → Prop where
  | whole (n : Nat) : Names (.whole n) n
  | large (n : Nat) (kept : Float) : Names (.large n kept) n
  | numeral {text : String} {n : Nat} (read : Text.natural? text.toList = some n) :
    Names (.text text) n

/-- No numeral is a word, in either case. -/
theorem lower_ne_of_natural? {text word : String} {n : Nat} (h : Text.natural? text.toList = some n)
    (letter : word.toList.head?.any (fun c => 'a' ≤ c) = true) : Text.lower text ≠ word := by
  rintro rfl
  rw [Text.lower, String.toList_ofList, List.head?_map] at letter
  obtain ⟨digits, form, -, all⟩ := Text.form_of_natural? h
  rcases form with chars | chars
  · rw [chars] at letter
    cases digits with
    | nil => simp at letter
    | cons c rest =>
      have high := (Text.bounds_of_isDigit (all c List.mem_cons_self)).2
      have same : c.toLower = c := by
        refine dif_neg fun upper => ?_
        have low : 65 ≤ c.toNat := upper.1
        omega
      have above : 'a' ≤ c.toLower := of_decide_eq_true letter
      have low : 97 ≤ c.toNat := same ▸ above
      omega
  · rw [chars] at letter
    have above : 'a' ≤ '+'.toLower := of_decide_eq_true letter
    exact absurd above (by decide)

/-- A numeral stands for its number, if this has no more than sixty-four binary places. -/
theorem numberIn?_of_natural? {text : String} {n : Nat} (h : Text.natural? text.toList = some n) :
    Setting.numberIn? text = if n ≤ Text.wordLimit then some n else none := by
  have noWord : ∀ word ∈ ["true", "on", "yes", "false", "off", "no"], Text.lower text ≠ word := by
    have letters : ∀ word ∈ ["true", "on", "yes", "false", "off", "no"],
        word.toList.head?.any (fun c => 'a' ≤ c) = true := by decide
    exact fun word listed => lower_ne_of_natural? h (letters word listed)
  simp only [List.forall_mem_cons] at noWord
  simp [Setting.numberIn?, Text.boundedNatural?, h, noWord, Option.filter]

/-- Only small numbers count as small ones, and they count as themselves. -/
theorem held_of_le {n : Nat} (h : n ≤ Sourced.shortLimit) : Setting.held n = n := by
  simp only [Sourced.shortLimit] at h
  rw [Setting.held, if_pos]
  simp only [Setting.isWhole, Bool.and_eq_true, decide_eq_true_eq]
  omega

/-- A number that is too large for a port is kept as one that is too large, even if its last digits get
lost. -/
theorem lt_held {n : Nat} (h : Sourced.shortLimit < n) : Sourced.shortLimit < Setting.held n := by
  unfold Setting.held
  split
  · exact h
  · rename_i beyond
    simp only [Setting.isWhole, Bool.and_eq_true, decide_eq_true_eq, not_and] at beyond
    simp only [Setting.coarse, Sourced.shortLimit, Text.wordLimit]
    split <;> omega

/-- A small number is read as itself, and none that is too large as a small one. -/
theorem natural_of_names {value : Sourced} {n : Nat} (h : value.setting.Names n) (key : String) :
    (n ≤ Sourced.shortLimit → value.natural key = .ok n) ∧
      (Sourced.shortLimit < n → ∀ m, value.natural key = .ok m → Sourced.shortLimit < m) := by
  obtain ⟨setting, origin⟩ := value
  cases h with
  | whole =>
    have counts : Sourced.natural ⟨.whole n, origin⟩ key = .ok (Setting.held n) := by
      have nonneg : ¬ (n : Int) < 0 := by omega
      simp [Sourced.natural, nonneg]
    rw [counts]
    refine ⟨fun small => by rw [held_of_le small], ?_⟩
    rintro large _ ⟨⟩
    exact lt_held large
  | large =>
    change (_ → Except.ok (Setting.held n) = _) ∧ (_ → ∀ m, Except.ok (Setting.held n) = _ → _)
    refine ⟨fun small => by rw [held_of_le small], ?_⟩
    rintro large _ ⟨⟩
    exact lt_held large
  | numeral read =>
    simp only [Sourced.natural, numberIn?_of_natural? read]
    have short : Sourced.shortLimit ≤ Text.wordLimit := by decide
    constructor
    · intro small
      rw [if_pos (Nat.le_trans small short)]
    · intro large m
      split
      · rename_i found
        rintro ⟨⟩
        split at found
        · cases found
          exact large
        · exact nomatch found
      · exact nofun

/-- A port is kept, and a number that is none is refused. -/
theorem shortNatural_of_names {value : Sourced} {n : Nat} (h : value.setting.Names n) (key : String) :
    (n ≤ Sourced.shortLimit → value.shortNatural key = .ok n) ∧
      (Sourced.shortLimit < n → ∃ fault, value.shortNatural key = .error fault) := by
  obtain ⟨kept, refused⟩ := natural_of_names h key
  constructor
  · intro small
    simp [Sourced.shortNatural, kept small, small, bind, Except.bind, pure, Except.pure]
  · intro large
    unfold Sourced.shortNatural
    cases read : value.natural key with
    | error fault => exact ⟨fault, rfl⟩
    | ok m =>
      have above := refused large m read
      simp [Nat.not_le_of_lt above, bind, Except.bind, throw, throwThe, MonadExceptOf.throw]

/-! ## The port that is loaded -/

/-- The last source that says anything about the port makes it a natural number. -/
structure PortGiven (volume : Files.Volume) (known : EnvironmentFile.Variables) (n : Nat) : Prop where
  winning : ∃ values value, fileValues volume = .ok values ∧
    LastGiven (values ++ ofVariables known) "port" value ∧ value.setting.Names n

/-- A numeral in the variable of the port prevails over what the file says. -/
theorem portGiven_of_variable {volume : Files.Volume} {known : EnvironmentFile.Variables} {n : Nat}
    {values : List (String × Sourced)} {text : String} (read : fileValues volume = .ok values)
    (leads : LeadsAlone known "APP__PORT" "port") (distinct : (known.map Prod.fst).Nodup)
    (found : known.lookup "APP__PORT" = some text) (numeral : Text.natural? text.toList = some n) :
    PortGiven volume known n :=
  ⟨values, ofVariable text, read, (leads.lastGiven distinct found).append values, .numeral numeral⟩

/-- An integer in the file prevails if no variable says anything about the port. -/
theorem portGiven_of_file {volume : Files.Volume} {known : EnvironmentFile.Variables} {n : Nat}
    {values : List (String × Sourced)} {value : Sourced} (read : fileValues volume = .ok values)
    (last : LastGiven values "port" value) (names : value.setting.Names n)
    (silent : ∀ entry ∈ ofVariables known, (Key.ofText entry.1).root ≠ "port") :
    PortGiven volume known n :=
  ⟨values, value, read, last.append_of_ne silent, names⟩

/-- The host that the configuration of a process gives. -/
def loadedHost (volume : Files.Volume) (known : EnvironmentFile.Variables) : Except Fault String :=
  (settings volume known).bind hostOf

/-- The number that the last source gives is the value of the setting that is loaded. -/
theorem PortGiven.portOf {volume : Files.Volume} {known : EnvironmentFile.Variables} {n : Nat}
    (h : PortGiven volume known n) :
    ∃ loaded value, settings volume known = .ok loaded ∧ loaded.lookup "port" = some value ∧
      value.setting.Names n := by
  obtain ⟨values, value, read, last, names⟩ := h.winning
  refine ⟨overlay (overlay [] values) (ofVariables known), value, ?_, ?_, names⟩
  · rw [settings, read]
    rfl
  · rw [← overlay_append]
    exact last.lookup_overlay

/-- With a port that is none no address is loaded, and with any other one this is the port. -/
theorem PortGiven.listenAddress {volume : Files.Volume} {known : EnvironmentFile.Variables} {n : Nat}
    (h : PortGiven volume known n) :
    (n ≤ Sourced.shortLimit →
      listenAddress volume known = (loadedHost volume known).map fun host => ⟨host, n⟩) ∧
    (Sourced.shortLimit < n → ∃ fault, listenAddress volume known = .error fault) := by
  obtain ⟨loaded, value, read, found, names⟩ := h.portOf
  have address : Config.listenAddress volume known = do
      let host ← hostOf loaded
      let port ← value.shortNatural "port"
      return ⟨host, port⟩ := by
    rw [Config.listenAddress, read]
    change addressOf loaded = _
    rw [addressOf_eq, Config.portOf, found]
  have host : loadedHost volume known = hostOf loaded := by
    rw [loadedHost, read]
    rfl
  obtain ⟨kept, refused⟩ := shortNatural_of_names names "port"
  rw [address, host]
  constructor
  · intro small
    rw [kept small]
    cases hostOf loaded <;> rfl
  · intro large
    obtain ⟨fault, refusal⟩ := refused large
    rw [refusal]
    cases hostOf loaded with
    | error other => exact ⟨other, rfl⟩
    | ok host => exact ⟨fault, rfl⟩

/-- A process that is given a natural number as its port listens on this port or not at all. -/
structure KeepsPort (home : String) (volume : Files.Volume) (known : EnvironmentFile.Variables)
    (file : Option Bytes) (n : Nat) : Prop where
  /-- An address is loaded if there is such a port, the host can be used and the merged variables can be
  those of a process, and it has both. -/
  address : ∀ address, loading volume known = .returned (.ok address) ↔
    IsEnvironment (merged known file) ∧ n ≤ 65535 ∧ address.port = n ∧
      loadedHost volume (environment volume known) = .ok address.host
  /-- The settings of the process are loaded with this address if the others can be used. -/
  load : ∀ settings, Settings.loading home volume known = .returned (.ok settings) ↔
    IsEnvironment (merged known file) ∧ n ≤ 65535 ∧ settings.common.port = n ∧
      loadedHost volume (environment volume known) = .ok settings.common.host ∧
      Settings.read home settings.common ((environment volume known).lookup ·) = .ok settings
  /-- A number that is no port is a fault of the configuration. -/
  refused : 65535 < n → IsEnvironment (merged known file) → ∃ fault : Fault,
    loading volume known = .returned (.error (.settings ⟨fault.text, []⟩)) ∧
      Settings.loading home volume known = .returned (.error (.settings ⟨fault.text, []⟩))
  /-- If the merged variables cannot be those of a process then the process ends. -/
  aborted : ¬ IsEnvironment (merged known file) → ∃ assignment,
    loading volume known = .aborted assignment ∧
      Settings.loading home volume known = .aborted assignment
  /-- A document that gives the number is read as an address with the same port, or refused too. -/
  agrees : ∀ address,
    ListenAddress.shape.reader.decode (Bytes.ofText (ListenAddress.portText n)) = .ok address ↔
      n ≤ 65535 ∧ address = ⟨"0.0.0.0", n⟩

/-- A reading that succeeds does so whatever its faults are called. -/
theorem mapError_eq_ok_iff {ε δ α : Type} {f : ε → δ} {read : Except ε α} {a : α} :
    read.mapError f = .ok a ↔ read = .ok a := by
  cases read with
  | error fault => exact ⟨nofun, nofun⟩
  | ok b => simp [Except.mapError]

/-- The settings of a process are those that its variables give with the address that is loaded. -/
theorem load_eq_ok_iff {home : String} {volume : Files.Volume} {known : EnvironmentFile.Variables}
    {settings : ChatGateway.Settings} :
    Settings.load home volume known = .ok settings ↔
      listenAddress volume (environment volume known) = .ok settings.common ∧
        Settings.read home settings.common ((environment volume known).lookup ·) = .ok settings := by
  have load : Settings.load home volume known =
      ((listenAddress volume (environment volume known)).mapError Fault.failure).bind fun common =>
        (Settings.read home common ((environment volume known).lookup ·)).mapError
          SettingsFault.failure := rfl
  rw [load]
  cases listenAddress volume (environment volume known) with
  | error fault => exact ⟨nofun, nofun⟩
  | ok common =>
    change (Settings.read home common ((environment volume known).lookup ·)).mapError
      SettingsFault.failure = .ok settings ↔ _
    rw [mapError_eq_ok_iff]
    constructor
    · intro read
      have own := Settings.common_of_read read
      exact ⟨congrArg Except.ok own.symm, own.symm ▸ read⟩
    · rintro ⟨same, read⟩
      cases same
      exact read

/-- A natural number that is given as the port is kept. -/
theorem keepsPort {home : String} {volume : Files.Volume} {known : EnvironmentFile.Variables}
    {file : Option Bytes} {n : Nat} (counts : VariablesFile volume.tree volume.current file)
    (own : IsEnvironment (known.lookup ·)) (given : PortGiven volume (environment volume known) n) :
    KeepsPort home volume known file n := by
  have whole := fatal_reading_iff counts own
  obtain ⟨kept, refused⟩ := given.listenAddress
  have tooLarge (h : ¬ n ≤ 65535) := refused (Nat.lt_of_not_le h)
  have address (address : ListenAddress) :
      listenAddress volume (environment volume known) = .ok address ↔ n ≤ 65535 ∧ address.port = n ∧
        loadedHost volume (environment volume known) = .ok address.host := by
    by_cases small : n ≤ 65535
    · rw [kept small]
      cases loadedHost volume (environment volume known) with
      | error fault => simp [Except.map]
      | ok host =>
        obtain ⟨ownHost, port⟩ := address
        simp [Except.map, small, and_comm, eq_comm]
    · obtain ⟨fault, refusal⟩ := tooLarge small
      simp [refusal, small]
  constructor
  case address =>
    intro found
    rw [loading, loadingOf_eq_returned_iff, whole, mapError_eq_ok_iff, address]
  case load =>
    intro settings
    rw [Settings.loading, loadingOf_eq_returned_iff, whole, load_eq_ok_iff, address, and_assoc, and_assoc]
  case refused =>
    intro large merges
    obtain ⟨fault, refusal⟩ := refused large
    refine ⟨fault, ?_, ?_⟩
    · rw [loading, loadingOf_eq_returned_iff, whole, refusal]
      exact ⟨merges, rfl⟩
    · rw [Settings.loading, loadingOf_eq_returned_iff, whole, Settings.load, refusal]
      exact ⟨merges, rfl⟩
  case aborted =>
    intro none
    obtain ⟨assignment, fatal⟩ := Option.ne_none_iff_exists'.mp (mt whole.mp none)
    exact ⟨assignment, loadingOf_of_fatal fatal _, loadingOf_of_fatal fatal _⟩
  case agrees => exact ListenAddress.decode_portText n

/-- A place without files. -/
def noFiles : Files.Volume := ⟨⟨[]⟩, []⟩

/-- At a place without files no file of variables counts. -/
theorem variablesFile_noFiles : VariablesFile noFiles.tree noFiles.current none :=
  .nearest noFiles.tree noFiles.current

/-- The port of a variable that is the only one is loaded. -/
theorem keepsPort_of_numeral : KeepsPort "" noFiles [("APP__PORT", "8080")] none 8080 := by
  have own : Key.ofText "port" = ⟨"port", .itself⟩ := Key.ofText_of_isNameChar (by decide)
  have leads : LeadsAlone [("APP__PORT", "8080")] "APP__PORT" "port" :=
    ⟨by decide, own, by simp⟩
  have numeral : Text.natural? "8080".toList = some 8080 := by decide
  exact keepsPort variablesFile_noFiles (isEnvironment_lookup (by decide))
    (portGiven_of_variable rfl leads (by decide) rfl numeral)

/-- A process whose host is a table. -/
def hostTable : EnvironmentFile.Variables := [("APP__HOST__A", "x"), ("APP__PORT", "80")]

/-- A port is not enough: with a table for a host no address is loaded. -/
theorem not_listens_of_hostTable :
    ¬ ∀ n ≤ 65535, PortGiven noFiles (environment noFiles hostTable) n →
      ∃ address, loading noFiles hostTable = .returned (.ok address) ∧ address.port = n := by
  have own : Key.ofText "port" = ⟨"port", .itself⟩ := Key.ofText_of_isNameChar (by decide)
  have within : Key.ofText "host.a" = ⟨"host", .member⟩ := by
    have last : Key.areSteps [] = true := by
      unfold Key.areSteps
      split
      · rfl
      · cases ‹Key.afterStep? [] = some _›
    have steps : Key.areSteps ['.', 'a'] = true := by
      unfold Key.areSteps
      split
      · cases ‹Key.afterStep? ['.', 'a'] = none›
      · cases ‹Key.afterStep? ['.', 'a'] = some _›
        exact last
    change (if false || !Key.areSteps ['.', 'a'] then _ else _) = _
    rw [steps]
    rfl
  have leads : LeadsAlone hostTable "APP__PORT" "port" := by
    refine ⟨by decide, own, ?_⟩
    simp only [hostTable, List.forall_mem_cons]
    refine ⟨fun _ key leads => ?_, by simp⟩
    cases leads.symm.trans (show keyOf? "APP__HOST__A" = some "host.a" by decide)
    simp [within]
  have numeral : Text.natural? "80".toList = some 80 := by decide
  have given : PortGiven noFiles hostTable 80 :=
    portGiven_of_variable rfl leads (by decide) rfl numeral
  have laid : (overlay [] (ofVariables hostTable)).lookup "host" = some ⟨.table, none⟩ := by
    change (assign (assign [] "host.a" (ofVariable "x")) "port" (ofVariable "80")).lookup "host" = _
    rw [lookup_assign_of_ne (by simp [own]), assign, within]
    exact lookup_replace_self
  have host : loadedHost noFiles hostTable =
      .error (.mistyped "map" "a string" (some "host") none) := by
    change hostOf (overlay [] (ofVariables hostTable)) = _
    rw [hostOf, laid]
    rfl
  intro loads
  obtain ⟨address, loaded, -⟩ := loads 80 (by decide) given
  have listens := given.listenAddress.1 (by decide)
  rw [host] at listens
  have found := mapError_eq_ok_iff.mp (loadingOf_eq_returned_iff.mp loaded).2
  cases listens.symm.trans found

end ChatGateway.Config
