import ChatGateway.Proofs.Config.PortForm.Braces
import ChatGateway.Proofs.Config.PortForm.Yaml

/-!
# The port in the configuration file

The configuration file may have one of several names, which tell its format. If it is the only one and
gives a port, in whatever format, then a process whose variables say nothing of the port listens on this
port or not at all.
-/

namespace ChatGateway.Config

variable {volume : Files.Volume} {known : EnvironmentFile.Variables} {name : String} {form : PortForm}
  {n : Nat}

/-- The names of configuration files, and how a port stands in each. -/
def namedForms : List (String × PortForm) := [
  ("configuration.toml", Toml.portForm), ("configuration.json", jsonPortForm),
  ("configuration.yaml", Yaml.portForm), ("configuration.yml", Yaml.portForm),
  ("configuration.ini", Ini.portForm), ("configuration.ron", Ron.portForm),
  ("configuration.json5", Json5.portForm)]

/-- All names of configuration files are there, each with its format. -/
theorem map_namedForms : namedForms.map (fun (name, form) => (name, form.format)) = candidates := by
  simp [namedForms, candidates, formats, fileName, Toml.portForm, jsonPortForm, Yaml.portForm,
    Ini.portForm, Ron.portForm, Json5.portForm, Toml.format, jsonFormat, Yaml.format, Ini.format,
    Ron.format, Json5.format]

/-- Every format keeps a port. -/
theorem keeps_of_mem_namedForms (listed : (name, form) ∈ namedForms) (n : Nat) : form.Keeps n := by
  simp only [namedForms, List.mem_cons, Prod.mk.injEq, List.not_mem_nil, or_false] at listed
  rcases listed with ⟨-, rfl⟩ | ⟨-, rfl⟩ | ⟨-, rfl⟩ | ⟨-, rfl⟩ | ⟨-, rfl⟩ | ⟨-, rfl⟩ | ⟨-, rfl⟩
  · exact Toml.keeps_port n
  · exact json_keeps_port n
  · exact Yaml.keeps_port n
  · exact Yaml.keeps_port n
  · exact Ini.keeps_port n
  · exact Ron.keeps_port n
  · exact Json5.keeps_port n

/-- A file is the only configuration file of a process. -/
structure OnlyFile (volume : Files.Volume) (name : String) (content : Bytes) : Prop where
  here : volume.tree.lookup (volume.current ++ [name]) = some (.file content)
  alone : ∀ other ∈ "configuration" :: namedForms.map Prod.fst, other ≠ name → ∀ content,
    volume.tree.lookup (volume.current ++ [other]) ≠ some (.file content)

/-- The only configuration file is read in the format of its name. -/
theorem OnlyFile.fileValues {content : Bytes} (only : OnlyFile volume name content)
    (listed : (name, form) ∈ namedForms) :
    fileValues volume = form.format.values name (textOf content) := by
  have noFile {other : String} (known : other ∈ "configuration" :: namedForms.map Prod.fst)
      (different : other ≠ name) : contentAt? volume.tree (volume.current ++ [other]) = none := by
    cases found : contentAt? volume.tree (volume.current ++ [other]) with
    | none => rfl
    | some content => exact absurd (contentAt?_eq_some_iff.mp found) (only.alone other known different content)
  have here := contentAt?_eq_some_iff.mpr only.here
  have extended : "configuration" ≠ name := by
    have longer : ∀ entry ∈ namedForms, "configuration" ≠ entry.1 := by decide
    exact longer (name, form) listed
  have first : (candidates.findSome? fun candidate =>
      (contentAt? volume.tree (volume.current ++ [candidate.1])).map
        fun content => (candidate.1, candidate.2, content)) = some (name, form.format, content) := by
    rw [← map_namedForms, List.findSome?_map]
    obtain ⟨before, after, split⟩ := List.append_of_mem listed
    refine List.findSome?_eq_some_iff.mpr ⟨before, (name, form), after, split, by simp [here], ?_⟩
    rintro ⟨other, otherForm⟩ member
    have distinct : (namedForms.map Prod.fst).Nodup := by decide
    rw [split, List.map_append, List.map_cons, List.nodup_append] at distinct
    have different : other ≠ name :=
      distinct.2.2 other (List.mem_map_of_mem (f := Prod.fst) member) name List.mem_cons_self
    have inside : (other, otherForm) ∈ namedForms := split ▸ List.mem_append_left _ member
    have absent := noFile (List.mem_cons_of_mem _ (List.mem_map_of_mem (f := Prod.fst) inside)) different
    simp [absent]
  have bare : contentAt? volume.tree (volume.current ++ [fileName]) = none :=
    noFile List.mem_cons_self extended
  rw [Config.fileValues, bare, if_neg (by simp)]
  dsimp only
  split
  · rename_i missing
    exact nomatch first.symm.trans missing
  · rename_i found
    cases first.symm.trans found
    rfl

/-- A text that starts with a character of the basic range is read as it is. -/
theorem textOf_text (listed : (name, form) ∈ namedForms) (n : Nat) :
    textOf (Bytes.ofText (form.text n)) = form.text n := by
  have basic : ∀ entry ∈ namedForms, (Bytes.ofText entry.2.before).head?.any (· < 0x80) = true := by
    decide
  have front := basic (name, form) listed
  have octets : Bytes.ofText (form.text n) =
      Bytes.ofText form.before ++ (Bytes.ofText (Text.decimal n) ++ Bytes.ofText form.behind) := by
    simp [PortForm.text, Bytes.ofText]
  have whole : textOf (Bytes.ofText (form.text n)) = Bytes.readableText (Bytes.ofText (form.text n)) := by
    unfold textOf
    split
    · rename_i rest marked
      rw [octets] at marked
      cases before : Bytes.ofText form.before with
      | nil => simp [before] at front
      | cons b more =>
        rw [before, List.cons_append] at marked
        simp [before, (List.cons.inj marked).1] at front
    · rfl
  rw [whole, Bytes.readableText, Bytes.toText?_ofText]

/-- The only configuration file, which gives a number as the port, makes this the port, or it is refused
because the number is too large. -/
theorem portGiven_of_onlyFile (listed : (name, form) ∈ namedForms)
    (only : OnlyFile volume name (Bytes.ofText (form.text n)))
    (silent : ∀ entry ∈ ofVariables known, (Key.ofText entry.1).root ≠ "port") :
    PortGiven volume known n ∨
      (Setting.isWhole n = false ∧ ∃ fault, fileValues volume = .error fault) := by
  have values := only.fileValues listed
  rw [textOf_text listed, Format.values] at values
  rcases keeps_of_mem_namedForms listed n with ⟨setting, names, read⟩ | ⟨large, cause, read⟩
  · rw [read] at values
    have own : Key.ofText "port" = ⟨"port", .itself⟩ := Key.ofText_of_isNameChar (by decide)
    have flat : setting ≠ .table := by
      rintro rfl
      exact nomatch names
    exact .inl (portGiven_of_file values ⟨⟨[], "port", [], rfl, own, nofun⟩, flat⟩ names silent)
  · rw [read] at values
    exact .inr ⟨large, _, values⟩

/-- A port that the only configuration file gives is kept, and a number that is none is refused. -/
theorem listenAddress_of_onlyFile (listed : (name, form) ∈ namedForms)
    (only : OnlyFile volume name (Bytes.ofText (form.text n)))
    (silent : ∀ entry ∈ ofVariables known, (Key.ofText entry.1).root ≠ "port") :
    (n ≤ 65535 →
      listenAddress volume known = (loadedHost volume known).map fun host => ⟨host, n⟩) ∧
    (65535 < n → ∃ fault, listenAddress volume known = .error fault) := by
  rcases portGiven_of_onlyFile listed only silent with given | ⟨large, fault, refused⟩
  · exact given.listenAddress
  · have beyond : ¬ n ≤ 65535 := by
      simp only [Setting.isWhole, Bool.and_eq_false_iff, decide_eq_false_iff_not] at large
      omega
    refine ⟨fun small => absurd small beyond, fun _ => ⟨fault, ?_⟩⟩
    rw [listenAddress, settings, refused]
    rfl

end ChatGateway.Config
