import ChatGateway.Proofs.Settings.Reading
import Mathlib.Logic.Relation

/-!
# Variables that say the same

The same settings can be given in many ways. A blank optional variable says as little as an absent
one; outside production an absent variable says as much as its standard value; where every variable
is there that production requires, it does not matter whether this is production; and variables
that are not looked at never matter. Variables that differ in such ways only give the same
settings, or the same fault.

What is parsed can also be worded differently: the blanks around it do not matter, nor does the case
of a kind. Then the same settings are given, though a fault may quote its text as it was written.
-/

namespace ChatGateway

namespace Text

variable {first second : String}

/-- Two texts are the same up to blanks around them and a change of their characters. -/
def SameUpTo (change : Char → Char) (first second : String) : Prop :=
  ∃ before core after before' core' after' : List Char,
    first.toList = before ++ core ++ after ∧ second.toList = before' ++ core' ++ after' ∧
    (∀ c ∈ before ++ after, isBlank c) ∧ (∀ c ∈ before' ++ after', isBlank c) ∧
    core.map change = core'.map change

/-- A change that keeps blanks and all others may come before or after trimming. -/
theorem map_trimChars {change : Char → Char} (keeps : ∀ c, isBlank (change c) = isBlank c)
    (chars : List Char) : (trimChars chars).map change = trimChars (chars.map change) := by
  have same : isBlank ∘ change = isBlank := funext keeps
  simp only [trimChars, List.map_reverse, List.dropWhile_map, same]
  simp only [← List.map_reverse, List.dropWhile_map, same]

/-- Texts that are the same up to a change of characters stay so when they are trimmed. -/
theorem SameUpTo.trim {change : Char → Char} (keeps : ∀ c, isBlank (change c) = isBlank c)
    (h : SameUpTo change first second) :
    (trimChars first.toList).map change = (trimChars second.toList).map change := by
  obtain ⟨before, core, after, before', core', after', hfirst, hsecond, blank, blank', same⟩ := h
  rw [hfirst, hsecond, trimChars_between blank, trimChars_between blank', map_trimChars keeps, same,
    map_trimChars keeps]

/-- Being the same up to a change of characters does not depend on the order. -/
theorem SameUpTo.symm {change : Char → Char} (h : SameUpTo change first second) :
    SameUpTo change second first := by
  obtain ⟨before, core, after, before', core', after', hfirst, hsecond, blank, blank', same⟩ := h
  exact ⟨before', core', after', before, core, after, hsecond, hfirst, blank', blank, same.symm⟩

end Text

namespace Lookup

/-- One of two values is absent, and the other is of some kind. -/
def OneAbsent (Kind : String → Prop) (first second : Option String) : Prop :=
  ∃ value, Kind value ∧ (first = some value ∧ second = none ∨ first = none ∧ second = some value)

end Lookup

namespace Settings

/-- The variables that are optional everywhere. -/
def optionalKeys : List String :=
  ["RESPONDER_HEALTH_URL", "RESOURCE_BUNDLE_URL", "LOG_LEVEL", "OTLP_ENDPOINT"]

/-- The variables say the same to a program at `home`. -/
inductive Respelling (home : String) (lookup other : Lookup) : Prop
  /-- A variable that is optional may be blank instead of absent. -/
  | blank (h : ∀ key, lookup key = other key ∨ key ∈ optionalKeys ∧
      Lookup.OneAbsent (Text.isBlankText ·) (lookup key) (other key)) : Respelling home lookup other
  /-- Outside production a variable may have its standard value instead of being absent. -/
  | standard (elsewhere : lookup "ENVIRONMENT" ≠ some "prod")
    (h : ∀ key, lookup key = other key ∨ ∃ value, (key, value) ∈ standards home ∧
      Lookup.OneAbsent (· = value) (lookup key) (other key)) : Respelling home lookup other
  /-- Where nothing is missing that production requires, it may be production or not. -/
  | environment (present : ∀ required ∈ standards home, (lookup required.1).isSome)
    (h : ∀ key, key ≠ "ENVIRONMENT" → lookup key = other key) : Respelling home lookup other
  /-- All other variables may have any values. -/
  | unread (environment : lookup "ENVIRONMENT" = other "ENVIRONMENT")
    (required : ∀ required ∈ standards home, lookup required.1 = other required.1)
    (optional : ∀ key ∈ optionalKeys, lookup key = other key) : Respelling home lookup other

/-- What is parsed may be worded differently: with other blanks around it and, if it is a kind, with
its letters in another case. -/
def Rewording (lookup other : Lookup) : Prop :=
  ∀ key, lookup key = other key ∨ ∃ first second, lookup key = some first ∧ other key = some second ∧
    (key = "RESPONDER_KIND" ∧ Text.SameUpTo Char.toLower first second ∨
      key = "RESPONDER_TIMEOUT_SECS" ∧ Text.SameUpTo id first second)

/-- The variables say the same, or only word differently what is parsed. -/
def SaysSame (home : String) (lookup other : Lookup) : Prop :=
  Respelling home lookup other ∨ Rewording lookup other

variable {home : String} {common : ListenAddress} {lookup other : Lookup} {settings : Settings}

/-- Reading only looks at what each variable comes to. -/
theorem read_congr
    (required : ∀ required ∈ standards home,
      lookup.required required.1 required.2 = other.required required.1 required.2)
    (optional : ∀ key ∈ optionalKeys, lookup.optional key = other.optional key) :
    read home common lookup = read home common other := by
  simp only [standards, optionalKeys, List.forall_mem_cons, List.not_mem_nil, false_imp_iff,
    implies_true, and_true] at required optional
  obtain ⟨kind, url, timeout, directory, name, assets⟩ := required
  obtain ⟨health, bundle, level, endpoint⟩ := optional
  simp only [read, kind, url, timeout, directory, name, assets, health, bundle, level, endpoint]

/-- A required value depends on its variable and on whether this is production. -/
theorem required_congr {key : String} (environment : lookup "ENVIRONMENT" = other "ENVIRONMENT")
    (h : lookup key = other key) (standard : String) :
    lookup.required key standard = other.required key standard := by
  rw [Lookup.required, Lookup.required, Lookup.isProduction, Lookup.isProduction, environment, h]

/-- No variable has two standard values. -/
theorem standards_unique {key first second : String} (h : (key, first) ∈ standards home)
    (h' : (key, second) ∈ standards home) : first = second := by
  have found : ∀ required ∈ standards home, (standards home).lookup required.1 = some required.2 := by
    simp [standards, List.lookup_cons]
  exact Option.some.inj ((found _ h).symm.trans (found _ h'))

/-- Variables that say the same are read alike, whether or not something is at fault. -/
theorem Respelling.read_eq (h : Respelling home lookup other) :
    read home common lookup = read home common other := by
  have apart : ∀ required ∈ standards home, required.1 ∉ optionalKeys ∧ required.1 ≠ "ENVIRONMENT" := by
    simp [standards, optionalKeys]
  have known : ∀ key ∈ optionalKeys, key ≠ "ENVIRONMENT" ∧ ∀ value, (key, value) ∉ standards home := by
    simp [standards, optionalKeys]
  cases h with
  | blank h =>
    have environment : lookup "ENVIRONMENT" = other "ENVIRONMENT" :=
      (h _).resolve_right fun listed => absurd listed.1 (by decide)
    refine read_congr (fun required listed => ?_) fun key listed => ?_
    · have same := (h required.1).resolve_right fun optional => (apart required listed).1 optional.1
      exact required_congr environment same _
    · rcases h key with same | ⟨-, value, blank, ⟨first, second⟩ | ⟨first, second⟩⟩
      · exact Lookup.optional_congr same
      all_goals simp [Lookup.optional, first, second, Option.filter_some, blank]
  | standard elsewhere h =>
    have environment : lookup "ENVIRONMENT" = other "ENVIRONMENT" := by
      refine (h _).resolve_right ?_
      rintro ⟨value, listed, -⟩
      exact (apart _ listed).2 rfl
    have development : lookup.isProduction = false := decide_eq_false elsewhere
    have development' : other.isProduction = false := decide_eq_false (environment ▸ elsewhere)
    refine read_congr (fun required listed => ?_) fun key listed => ?_
    · rcases h required.1 with same | ⟨value, found, _, rfl, present⟩
      · exact required_congr environment same _
      · cases standards_unique found listed
        rcases present with ⟨first, second⟩ | ⟨first, second⟩ <;>
          simp [Lookup.required, first, second, development, development']
    · refine Lookup.optional_congr ((h key).resolve_right ?_)
      rintro ⟨value, found, -⟩
      exact (known key listed).2 value found
  | environment present h =>
    refine read_congr (fun required listed => ?_) fun key listed => ?_
    · obtain ⟨value, set⟩ := Option.isSome_iff_exists.mp (present required listed)
      have same := h required.1 (apart required listed).2
      simp only [Lookup.required, ← same, set]
    · exact Lookup.optional_congr (h key (known key listed).1)
  | unread environment required optional =>
    exact read_congr (fun pair listed => required_congr environment (required pair listed) _)
      fun key listed => Lookup.optional_congr (optional key listed)

/-- A rewording can be undone. -/
theorem Rewording.symm (h : Rewording lookup other) : Rewording other lookup := by
  intro key
  rcases h key with same | ⟨first, second, hfirst, hsecond, reworded⟩
  · exact .inl same.symm
  · refine .inr ⟨second, first, hsecond, hfirst, ?_⟩
    exact reworded.imp (And.imp_right Text.SameUpTo.symm) (And.imp_right Text.SameUpTo.symm)

/-- Settings that are read are also read where what is parsed is worded differently. -/
theorem Rewording.read_of_read (h : Rewording lookup other)
    (read : read home common lookup = .ok settings) :
    Settings.read home common other = .ok settings := by
  obtain ⟨present, follows⟩ := read_eq_ok_iff.mp read
  have elsewhere (key : String) (first : key ≠ "RESPONDER_KIND")
      (second : key ≠ "RESPONDER_TIMEOUT_SECS") : lookup key = other key :=
    (h key).resolve_right <| by
      rintro ⟨_, _, _, _, worded⟩
      exact worded.elim (first ·.1) (second ·.1)
  have set (key : String) : (lookup key).isSome = (other key).isSome := by
    rcases h key with same | ⟨first, second, hfirst, hsecond, -⟩
    · rw [same]
    · rw [hfirst, hsecond]
      rfl
  refine read_eq_ok_iff.mpr ⟨fun required listed => ?_, follows.withSeconds elsewhere ?_ ?_⟩
  · have environment := elsewhere "ENVIRONMENT" (by decide) (by decide)
    exact (Lookup.presence_congr environment (set required.1)).mp (present required listed)
  · have named := follows.kind
    rcases h "RESPONDER_KIND" with same | ⟨first, second, hfirst, hsecond, ⟨-, reworded⟩ | ⟨other, -⟩⟩
    · rwa [← Lookup.value_congr same]
    · rw [Lookup.value, hfirst, Option.getD_some, ResponderKind.namedBy_iff, Text.lower, Text.trim,
        String.toList_ofList, reworded.trim Text.isBlank_toLower] at named
      rwa [Lookup.value, hsecond, Option.getD_some, ResponderKind.namedBy_iff, Text.lower, Text.trim,
        String.toList_ofList]
    · exact absurd other (by decide)
  · have given := follows.timeout
    rcases h "RESPONDER_TIMEOUT_SECS" with
      same | ⟨first, second, hfirst, hsecond, ⟨other, -⟩ | ⟨-, reworded⟩⟩
    · rwa [← Lookup.value_congr same]
    · exact absurd other (by decide)
    · have trimmed : Text.trimChars first.toList = Text.trimChars second.toList := by
        simpa using reworded.trim fun _ => rfl
      rw [Lookup.value, hfirst, Option.getD_some, GivesSeconds, trimmed] at given
      rwa [Lookup.value, hsecond, Option.getD_some]

/-- One way after the other to say the same makes no difference to what is read, and if what is
parsed is also worded differently, the settings that are read are still the same. -/
theorem respellings_read_alike (home : String) (common : ListenAddress) :
    (∀ lookup other, Relation.ReflTransGen (Respelling home) lookup other →
      read home common lookup = read home common other) ∧
    ∀ lookup other, Relation.ReflTransGen (SaysSame home) lookup other →
      ∀ settings, read home common lookup = .ok settings ↔ read home common other = .ok settings := by
  refine ⟨fun lookup other respelled => ?_, fun lookup other spelled settings => ?_⟩
  · induction respelled with
    | refl => rfl
    | tail _ last ih => exact ih.trans last.read_eq
  · induction spelled with
    | refl => rfl
    | tail _ last ih =>
      refine ih.trans ?_
      rcases last with respelled | reworded
      · rw [respelled.read_eq]
      · exact ⟨reworded.read_of_read, reworded.symm.read_of_read⟩

/-- The standard values, spelled out for production and with the kind worded differently, are read
as if nothing were set. -/
theorem respellings_read_alike_of_production :
    let spare : Lookup := fun _ => none
    let full : Lookup := fun key => (standards "/srv").lookup key
    let production : Lookup := Function.update full "ENVIRONMENT" (some "prod")
    let worded : Lookup := Function.update production "RESPONDER_KIND" (some " HTTP\t")
    Relation.ReflTransGen (Respelling "/srv") spare production ∧ Rewording production worded ∧
      read "/srv" {} spare = read "/srv" {} production ∧
      ∀ settings, read "/srv" {} spare = .ok settings ↔ read "/srv" {} worded = .ok settings := by
  intro spare full production worded
  have filled : Respelling "/srv" spare full := by
    refine .standard (by simp [spare]) fun key => ?_
    cases found : (standards "/srv").lookup key with
    | none => exact .inl found.symm
    | some value =>
      obtain ⟨before, after, parts, -⟩ := List.lookup_eq_some_iff.mp found
      exact .inr ⟨value, by simp [parts], value, rfl, .inr ⟨rfl, found⟩⟩
  have declared : Respelling "/srv" full production := by
    refine .environment (by simp [full, standards, List.lookup_cons]) fun key elsewhere => ?_
    exact (Function.update_of_ne elsewhere _ full).symm
  have reworded : Rewording production worded := by
    intro key
    by_cases here : key = "RESPONDER_KIND"
    · subst here
      have blank : ∀ c ∈ [' '] ++ ['\t'], Text.isBlank c := by simp [Text.isBlank]
      refine .inr ⟨"http", " HTTP\t", by decide, Function.update_self .., .inl ⟨rfl, ?_⟩⟩
      exact ⟨[], "http".toList, [], [' '], "HTTP".toList, ['\t'], by decide, by decide, by simp,
        blank, by decide⟩
    · exact .inl (Function.update_of_ne here _ production).symm
  have respelled := (Relation.ReflTransGen.single filled).tail declared
  have spelled : Relation.ReflTransGen (SaysSame "/srv") spare worded :=
    ((Relation.ReflTransGen.single (.inl filled)).tail (.inl declared)).tail (.inr reworded)
  obtain ⟨alike, same⟩ := respellings_read_alike "/srv" {}
  exact ⟨respelled, reworded, alike spare production respelled, same spare worded spelled⟩

end Settings

end ChatGateway
