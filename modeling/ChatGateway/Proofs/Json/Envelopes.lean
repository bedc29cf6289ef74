import ChatGateway.Proofs.Envelope
import ChatGateway.Proofs.Json.Entries
import ChatGateway.Proofs.Json.Values

/-!
# Which documents are envelopes

The readers of questions and answers accept exactly the envelopes, as the texts that they carry. Behind
each name that is read stands the value of a member, and what reading makes of the draft is what the
member makes of it. So the members up to the closing bracket fill the draft exactly if one of them has the
right name and carries the text.
-/

namespace ChatGateway

namespace Json

open Grammar

/-! ## Texts and names -/

/-- A text between its marks is read, behind blanks. -/
theorem readText_of_quotes {before value : List Char} {text : String} (blank : Blank before)
    (h : Quotes value text.toList) (rest : Bytes) :
    readText (Bytes.ofChars (before ++ value) ++ rest) = .ok (text, rest) := by
  cases h with
  | @marks raw _ spells =>
    have spelled : Bytes.ofChars ('"' :: (raw ++ ['"'])) ++ rest =
        quoteMark :: (Bytes.ofChars raw ++ quoteMark :: rest) := by
      have quote : Bytes.octet '"' = quoteMark := by decide
      simp [Bytes.ofChars_cons_of_basic, quote]
    rw [readText, Bytes.ofChars_append, List.append_assoc, skipSpace_blank blank, spelled,
      skipSpace_quoteMark]
    exact textAfterMark_of_spells spells rest

/-- A text that was read was quoted, with blanks before it. -/
theorem exists_of_readText {s : List Char} {text : String} {u : Bytes}
    (h : readText (Bytes.ofChars s) = .ok (text, u)) :
    ∃ before value t, s = before ++ (value ++ t) ∧ Blank before ∧ Quotes value text.toList ∧
      u = Bytes.ofChars t := by
  unfold readText at h
  split at h
  · contradiction
  rename_i b rest found
  split at h
  · rename_i quote
    subst quote
    obtain ⟨before, t, rfl, blank, rfl⟩ := exists_of_skipSpace found (by decide)
    obtain ⟨raw, t, rfl, spells, rfl⟩ := exists_of_textAfterMark h
    exact ⟨before, '"' :: (raw ++ ['"']), t, by simp; rfl, blank, .marks spells, rfl⟩
  · contradiction

/-- What precedes the name of a member: nothing before the first, a comma before the others. -/
def lead : Bool → List Char
  | true => []
  | false => [',']

/-- What the next name is does not depend on the blanks before it. -/
theorem nextName_congr {isFirst : Bool} {s t : Bytes} (h : skipSpace s = skipSpace t) :
    nextName isFirst s = nextName isFirst t := by
  simp only [nextName, h]

/-- The next name is found behind blanks and what precedes it. -/
theorem nextName_lead {gap before : List Char} (blankGap : Blank gap) (blankBefore : Blank before)
    (isFirst : Bool) (rest : Bytes) :
    nextName isFirst (Bytes.ofChars (gap ++ (lead isFirst ++ before)) ++ quoteMark :: rest) =
      .ok (some rest) := by
  have behind : skipSpace (Bytes.ofChars before ++ quoteMark :: rest) = quoteMark :: rest := by
    rw [skipSpace_blank blankBefore, skipSpace_quoteMark]
  rw [Bytes.ofChars_append, List.append_assoc, nextName_congr (skipSpace_blank blankGap _)]
  cases isFirst with
  | true =>
    simp only [lead, List.nil_append, nextName, behind]
    rfl
  | false =>
    have comma : Bytes.ofChars (',' :: before) = 0x2C :: Bytes.ofChars before :=
      Bytes.ofChars_cons_of_basic (by decide) before
    rw [lead, List.singleton_append, comma, List.cons_append, nextName, skipSpace_of_isSpace (by decide)]
    simp only [behind]
    rfl

/-- A name that comes next stands behind its lead and a mark, with blanks around the lead. -/
theorem exists_of_nextName {isFirst : Bool} {s : List Char} {u : Bytes}
    (h : nextName isFirst (Bytes.ofChars s) = .ok (some u)) :
    ∃ gap before t, s = gap ++ (lead isFirst ++ (before ++ '"' :: t)) ∧ Blank gap ∧ Blank before ∧
      (isFirst = true → gap = []) ∧ u = Bytes.ofChars t := by
  unfold nextName at h
  split at h
  · contradiction
  rename_i b rest found
  split at h
  · cases h
  split at h
  · rename_i first
    split at h
    · rename_i quote
      cases h
      subst quote
      obtain ⟨before, t, rfl, blank, rfl⟩ := exists_of_skipSpace found (by decide)
      refine ⟨[], before, t, ?_, Blank.nil, blank, fun _ => rfl, rfl⟩
      rw [first]
      rfl
    · contradiction
  rename_i notFirst
  split at h
  · rename_i comma
    subst comma
    obtain ⟨gap, t, rfl, blankGap, rfl⟩ := exists_of_skipSpace found (by decide)
    split at h
    · contradiction
    rename_i c more second
    split at h
    · rename_i quote
      cases h
      subst quote
      obtain ⟨before, t, rfl, blankBefore, rfl⟩ := exists_of_skipSpace second (by decide)
      refine ⟨gap, before, t, ?_, blankGap, blankBefore, fun first => absurd first notFirst, rfl⟩
      rw [Bool.eq_false_iff.mpr notFirst]
      rfl
    · split at h <;> contradiction
  · contradiction

/-! ## Members of an envelope -/

section Members

variable {α : Type} {title name called : String} {make : String → α} {draft next last : Option String}
  {isFirst : Bool} {s t u v : Bytes}

/-- The shape of an envelope has its own member and no other. -/
theorem Shape.find?_ofText :
    (ofText title name make).members.find? (·.name = called) =
      if called = name then some ⟨name, Option.isSome, Reader.text.map fun text _ => some text⟩
      else none := by
  by_cases same : called = name
  · simp [ofText, same]
  · simp [ofText, same, Ne.symm same]

/-- How what stands behind a name is taken. -/
inductive Behind (name : String) : Option String → String → Bytes → Option String → Bytes → Prop where
  | own {text : String} {u v w : Bytes} (colon : skipColon u = .ok v) (read : readText v = .ok (text, w)) :
      Behind name none name u (some text) w
  | other {draft : Option String} {called : String} {u v : Bytes} (differs : called ≠ name)
      (passed : skipMember u = .ok v) : Behind name draft called u draft v

/-- The own member is read and every other is passed over. -/
theorem readMembers_behind (first : nextName isFirst s = .ok (some t))
    (named : textAfterMark t = .ok (called, u)) (behind : Behind name draft called u next v) :
    readMembers (Shape.ofText title name make).members isFirst draft s =
      readMembers (Shape.ofText title name make).members false next v := by
  rw [readMembers_member first named, Shape.find?_ofText]
  cases behind with
  | @own text _ w _ colon read =>
    have value : readMember (Reader.text.map fun text (_ : Option String) => some text) u =
        .ok (fun _ => some text, v) := by
      simp only [readMember, colon]
      change (readText w).map _ = _
      rw [read]
      rfl
    simp [value]
  | other differs passed => simp [differs, passed]

/-- What is behind the name of a known member is read as the member says. -/
theorem behind_of_known {member : Member (Option String)} {change : Option String → Option String}
    (known : (Shape.ofText title name make).members.find? (·.name = called) = some member)
    (unset : ¬ member.isSet draft = true) (read : readMember member.value u = .ok (change, v)) :
    Behind name draft called u (change draft) v := by
  rw [Shape.find?_ofText] at known
  split at known
  · rename_i same
    cases known
    have empty : draft = none := Option.not_isSome_iff_eq_none.mp unset
    unfold readMember at read
    split at read
    · contradiction
    rename_i w colon
    change (readText w).map _ = _ at read
    cases value : readText w with
    | error fault =>
      rw [value] at read
      contradiction
    | ok taken =>
      rw [value] at read
      cases read
      rw [same, empty]
      exact .own colon value
  · contradiction

/-- What is taken behind a name is a colon and a value, and it is drawn as the name says. -/
theorem exists_of_behind {s : List Char} (h : Behind name draft called (Bytes.ofChars s) next v) :
    ∃ between gap value t, s = between ++ ':' :: (gap ++ (value ++ t)) ∧ Blank between ∧ Blank gap ∧
      Derives .value value ∧ Draws name.toList draft called.toList value next ∧ v = Bytes.ofChars t := by
  cases h with
  | own colon read =>
    obtain ⟨between, t, rfl, blankBetween, rfl⟩ := exists_of_skipColon colon
    obtain ⟨gap, value, t, rfl, blankGap, carried, rfl⟩ := exists_of_readText read
    exact ⟨between, gap, value, t, rfl, blankBetween, blankGap, carried.derives, .own carried, rfl⟩
  | other differs passed =>
    unfold skipMember at passed
    split at passed
    · contradiction
    rename_i rest colon
    obtain ⟨between, t, rfl, blankBetween, rfl⟩ := exists_of_skipColon colon
    obtain ⟨front, t, rfl, ⟨gap, value, rfl, blankGap, derived⟩, rfl⟩ := takes_skipValue passed
    refine ⟨between, gap, value, t, by simp, blankBetween, blankGap, derived, .other ?_, rfl⟩
    exact fun same => differs (String.toList_inj.mp same)

/-- A colon and a value behind a name are taken, if they are drawn as the name says. -/
theorem behind_of_draws {between gap value called : List Char} {rest : Bytes}
    (blankBetween : Blank between) (blankGap : Blank gap) (derived : Derives .value value)
    (drawn : Draws name.toList draft called value next) (ends : EndsNumber rest) :
    Behind name draft (String.ofList called)
      (Bytes.ofChars between ++ 0x3A :: (Bytes.ofChars (gap ++ value) ++ rest)) next rest := by
  have colon := skipColon_blank blankBetween (Bytes.ofChars (gap ++ value) ++ rest)
  cases drawn with
  | own carried =>
    rw [String.ofList_toList]
    exact .own colon (readText_of_quotes blankGap carried rest)
  | other differs =>
    refine .other (fun same => differs ?_) ?_
    · rw [← same, String.toList_ofList]
    · simp only [skipMember, colon]
      exact skipValue_of_derives blankGap derived ends

/-- What stands inside the brackets of an object, from before a name on. -/
def Inside (name : List Char) (draft : Option String) (s : List Char) (last : Option String) :
    (isFirst : Bool) → Prop
  | true => (Blank s ∧ last = draft) ∨
    ∃ first more, s = first ++ more.flatMap (',' :: ·) ∧ Fills name draft (first :: more) last
  | false => ∃ blank more, s = blank ++ more.flatMap (',' :: ·) ∧ Blank blank ∧ Fills name draft more last

/-- A member may stand before what is inside. -/
theorem Inside.member {name : List Char} {gap before quoted called between gapBehind value s : List Char}
    (blankGap : Blank gap) (noGap : isFirst = true → gap = []) (blankBefore : Blank before)
    (named : Quotes quoted called) (blankBetween : Blank between) (blankBehind : Blank gapBehind)
    (derived : Derives .value value) (drawn : Draws name draft called value next)
    (h : Inside name next s last false) :
    Inside name draft (gap ++ (lead isFirst ++
      (before ++ (quoted ++ (between ++ ':' :: (gapBehind ++ (value ++ s))))))) last isFirst := by
  obtain ⟨after, more, rfl, blankAfter, later⟩ := h
  have entry := Entry.member blankBefore named blankBetween blankBehind derived blankAfter
  have filled := Fills.cons entry drawn later
  cases isFirst with
  | true =>
    rw [noGap rfl]
    exact .inr ⟨_, more, by simp [lead], filled⟩
  | false => exact ⟨gap, _, by simp [lead], blankGap, filled⟩

/-- Behind what is inside stands the closing bracket, and behind that the rest. -/
def Shut (name : List Char) (isFirst : Bool) (draft last : Option String) (t : Bytes) (s : List Char) :
    Prop :=
  ∃ inside rest, s = inside ++ '}' :: rest ∧ Inside name draft inside last isFirst ∧
    t = Bytes.ofChars rest

/-- With a member before it the object is shut as it is without. -/
theorem Shut.step {s : List Char} {w : Bytes} (first : nextName isFirst (Bytes.ofChars s) = .ok (some u))
    (named : textAfterMark u = .ok (called, v)) (behind : Behind name draft called v next w)
    (later : ∀ s, w = Bytes.ofChars s → Shut name.toList false next last t s) :
    Shut name.toList isFirst draft last t s := by
  obtain ⟨gap, before, s, rfl, blankGap, blankBefore, noGap, rfl⟩ := exists_of_nextName first
  obtain ⟨raw, s, rfl, spells, rfl⟩ := exists_of_textAfterMark named
  obtain ⟨between, gapBehind, value, s, rfl, blankBetween, blankBehind, derived, drawn, rfl⟩ :=
    exists_of_behind behind
  obtain ⟨inside, rest, rfl, shut, rfl⟩ := later s rfl
  exact ⟨_, rest, by simp, shut.member blankGap noGap blankBefore (.marks spells) blankBetween blankBehind
    derived drawn, rfl⟩

/-- What is read up to a closing bracket is what stands inside an object. -/
theorem shut_of_readMembers {s : List Char} (octets : v = Bytes.ofChars s)
    (h : readMembers (Shape.ofText title name make).members isFirst draft v = .ok (last, u))
    (closed : skipSpace u = 0x7D :: t) : Shut name.toList isFirst draft last t s := by
  fun_induction readMembers (Shape.ofText title name make).members isFirst draft v generalizing s with
  | case1 | case3 | case4 | case5 | case7 => contradiction
  | case2 isFirst draft v none =>
    cases h
    subst octets
    obtain ⟨blank, rest, rfl, spaces, rfl⟩ := exists_of_skipSpace closed (by decide)
    refine ⟨blank, rest, rfl, ?_, rfl⟩
    cases isFirst with
    | true => exact .inl ⟨spaces, rfl⟩
    | false => exact ⟨blank, [], by simp, spaces, .nil⟩
  | case6 isFirst draft v w first called x named member known unset change y read ih =>
    subst octets
    exact Shut.step first named (behind_of_known known unset read) fun s octets => ih octets h
  | case8 isFirst draft v w first called x named unknown y passed ih =>
    subst octets
    have differs : called ≠ name := by
      intro same
      rw [Shape.find?_ofText, if_pos same] at unknown
      contradiction
    exact Shut.step first named (.other differs passed) fun s octets => ih octets h

/-- A member is read, and behind it the later ones. -/
theorem readMembers_entry (isFirst : Bool) {gap member called value : List Char} (blank : Blank gap)
    (entry : Entry member called value) (drawn : Draws name.toList draft called value next)
    (ends : EndsNumber s)
    (later : ∀ after, Blank after → ∃ u, readMembers (Shape.ofText title name make).members false next
      (Bytes.ofChars after ++ s) = .ok (last, u) ∧ skipSpace u = 0x7D :: t) :
    ∃ u, readMembers (Shape.ofText title name make).members isFirst draft
      (Bytes.ofChars (gap ++ (lead isFirst ++ member)) ++ s) = .ok (last, u) ∧
        skipSpace u = 0x7D :: t := by
  cases entry with
  | @member before quoted _ between gapBehind _ after blankBefore quotes blankBetween blankBehind derived
      blankAfter =>
    cases quotes with
    | @marks raw _ spells =>
      have quote : Bytes.octet '"' = quoteMark := by decide
      have colon : Bytes.octet ':' = 0x3A := by decide
      have spelled : Bytes.ofChars (gap ++ (lead isFirst ++ (before ++ ('"' :: (raw ++ ['"']) ++
          (between ++ ':' :: (gapBehind ++ (value ++ after))))))) ++ s =
          Bytes.ofChars (gap ++ (lead isFirst ++ before)) ++ quoteMark ::
            (Bytes.ofChars raw ++ quoteMark :: (Bytes.ofChars between ++ 0x3A ::
              (Bytes.ofChars (gapBehind ++ value) ++ (Bytes.ofChars after ++ s)))) := by
        simp [Bytes.ofChars_cons_of_basic, quote, colon]
      have first := nextName_lead blank blankBefore isFirst (Bytes.ofChars raw ++ quoteMark ::
        (Bytes.ofChars between ++ 0x3A ::
          (Bytes.ofChars (gapBehind ++ value) ++ (Bytes.ofChars after ++ s))))
      have meaning : Spells raw (String.ofList called).toList := by rwa [String.toList_ofList]
      have named := textAfterMark_of_spells meaning (Bytes.ofChars between ++ 0x3A ::
        (Bytes.ofChars (gapBehind ++ value) ++ (Bytes.ofChars after ++ s)))
      have behind := behind_of_draws blankBetween blankBehind derived drawn
        (endsNumber_blank blankAfter ends)
      obtain ⟨u, read, closed⟩ := later after blankAfter
      exact ⟨u, by rw [spelled, readMembers_behind first named behind, read], closed⟩

/-- What follows a member goes on with no number. -/
theorem endsNumber_members (members : List (List Char)) (t : Bytes) :
    EndsNumber (Bytes.ofChars (members.flatMap (',' :: ·)) ++ 0x7D :: t) := by
  cases members with
  | nil => exact endsNumber_closing .object t
  | cons first members =>
    rw [List.flatMap_cons, List.cons_append, Bytes.ofChars_cons_of_basic (by decide)]
    exact endsNumber_comma _

/-- Members are read up to the closing bracket. -/
theorem readMembers_of_fills {blank : List Char} {members : List (List Char)}
    (spaces : Blank blank) (h : Fills name.toList draft members last) (t : Bytes) :
    ∃ u, readMembers (Shape.ofText title name make).members false draft
      (Bytes.ofChars blank ++ (Bytes.ofChars (members.flatMap (',' :: ·)) ++ 0x7D :: t)) =
        .ok (last, u) ∧ skipSpace u = 0x7D :: t := by
  induction h generalizing blank with
  | nil =>
    have closed : skipSpace (Bytes.ofChars blank ++ 0x7D :: t) = 0x7D :: t := by
      rw [skipSpace_blank spaces, skipSpace_of_isSpace (by decide)]
    exact ⟨_, readMembers_closing (nextName_eq_none_iff.mpr ⟨t, closed⟩), closed⟩
  | @cons draft next last member called value more entry drawn _ ih =>
    obtain ⟨u, read, closed⟩ := readMembers_entry false spaces entry drawn
      (endsNumber_members more t) fun after blankAfter => ih blankAfter
    refine ⟨u, ?_, closed⟩
    rw [← read, List.flatMap_cons, Bytes.ofChars_append, Bytes.ofChars_append, List.append_assoc,
      List.append_assoc]
    rfl

/-- An object is read as what its members make of the draft. -/
theorem readMembers_of_first {first : List Char} {members : List (List Char)}
    (h : Fills name.toList draft (first :: members) last) (t : Bytes) :
    ∃ u, readMembers (Shape.ofText title name make).members true draft
      (Bytes.ofChars ([','].intercalate (first :: members)) ++ 0x7D :: t) = .ok (last, u) ∧
        skipSpace u = 0x7D :: t := by
  cases h with
  | cons entry drawn later =>
    obtain ⟨u, read, closed⟩ := readMembers_entry true Blank.nil entry drawn
      (endsNumber_members members t) fun after blankAfter => readMembers_of_fills blankAfter later t
    refine ⟨u, ?_, closed⟩
    rw [← read, intercalate_comma, Bytes.ofChars_append, List.append_assoc]
    rfl

end Members

/-! ## Records of one text -/

section Records

variable {α : Type} {title name text : String} {make : String → α} {draft : Option String} {a : α}
  {s t u : Bytes}

/-- Reading a text passes over the blanks before it. -/
theorem readText_skipSpace (s : Bytes) : readText (skipSpace s) = readText s := by
  simp only [readText, skipSpace_skipSpace]

/-- The first element starts behind the spaces. -/
theorem nextElement_first_eq_some_iff :
    nextElement true s = .ok (some t) ↔ t = skipSpace s ∧ ∃ b rest, t = b :: rest ∧ b ≠ 0x5D := by
  unfold nextElement
  cases found : skipSpace s with
  | nil => simp_all
  | cons b rest =>
    by_cases closes : b = 0x5D
    · simp_all
    · simp only [closes, if_false, if_true, Except.ok.injEq, Option.some.injEq]
      constructor
      · rintro rfl
        exact ⟨rfl, b, rest, rfl, closes⟩
      · rintro ⟨rfl, -⟩
        rfl

/-- The element of a list is read as a text. -/
theorem readFields_eq_ok_iff :
    readFields 0 none s (Shape.ofText title name make).members = .ok (some text, u) ↔
      readText s = .ok (text, u) := by
  have value (t : Bytes) : (Reader.text.map fun text (_ : Option String) => some text).read t =
      (readText t).map fun taken => (fun _ => some taken.1, taken.2) := rfl
  constructor
  · intro h
    simp only [Shape.ofText, readFields] at h
    split at h
    · contradiction
    · cases h
    · rename_i v element
      obtain ⟨rfl, _⟩ := nextElement_first_eq_some_iff.mp element
      rw [value, readText_skipSpace] at h
      cases read : readText s with
      | error fault =>
        rw [read] at h
        contradiction
      | ok taken =>
        rw [read] at h
        cases h
        rfl
  · intro h
    have element : nextElement true s = .ok (some (skipSpace s)) := by
      refine nextElement_first_eq_some_iff.mpr ⟨rfl, ?_⟩
      unfold readText at h
      split at h
      · contradiction
      rename_i b rest found
      split at h
      · rename_i quote
        exact ⟨b, rest, found, by rw [quote]; decide⟩
      · contradiction
    have again : readText (skipSpace s) = .ok (text, u) := by rw [readText_skipSpace, h]
    simp only [Shape.ofText, readFields, decide_true, element, value, again]
    rfl

/-- A record of one text is an object that fills the draft, or a list of the text. -/
theorem readRecord_eq_ok_iff :
    (Shape.ofText title name make).readRecord s = .ok (a, t) ↔ ∃ text rest u, a = make text ∧
      ((skipSpace s = 0x7B :: rest ∧
          readMembers (Shape.ofText title name make).members true none rest = .ok (some text, u) ∧
          skipSpace u = 0x7D :: t) ∨
        (skipSpace s = 0x5B :: rest ∧ readText rest = .ok (text, u) ∧ skipSpace u = 0x5D :: t)) := by
  constructor
  · intro h
    unfold Shape.readRecord at h
    split at h
    · contradiction
    rename_i b rest found
    split at h
    · rename_i list
      subst list
      split at h
      · contradiction
      rename_i draft u fields
      obtain ⟨made, closed⟩ := closed_eq_ok_iff.mp h
      cases draft with
      | none => contradiction
      | some text =>
        cases made
        exact ⟨text, rest, u, rfl, .inr ⟨found, readFields_eq_ok_iff.mp fields, closeList_eq_iff.mp closed⟩⟩
    split at h
    · rename_i object
      subst object
      split at h
      · contradiction
      rename_i draft u members
      obtain ⟨made, closed⟩ := closed_eq_ok_iff.mp h
      cases draft with
      | none => contradiction
      | some text =>
        cases made
        exact ⟨text, rest, u, rfl, .inl ⟨found, members, closeObject_eq_iff.mp closed⟩⟩
    · contradiction
  · rintro ⟨text, rest, u, rfl, ⟨found, members, closed⟩ | ⟨found, read, closed⟩⟩
    · have draft : (Shape.ofText title name make).empty = none := rfl
      simp only [Shape.readRecord, found, draft, members, show (0x7B : UInt8) ≠ 0x5B by decide, if_false,
        if_true]
      exact closed_eq_ok_iff.mpr ⟨rfl, closeObject_eq_iff.mpr closed⟩
    · have draft : (Shape.ofText title name make).empty = none := rfl
      simp only [Shape.readRecord, found, draft, readFields_eq_ok_iff.mpr read, if_true]
      exact closed_eq_ok_iff.mpr ⟨rfl, closeList_eq_iff.mpr closed⟩

/-- An envelope is read as the text that it carries, whatever follows it. -/
theorem readRecord_of_envelope {before value : List Char} (blank : Blank before)
    (h : Envelope name.toList text.toList value) (rest : Bytes) :
    (Shape.ofText title name make).readRecord (Bytes.ofChars (before ++ value) ++ rest) =
      .ok (make text, rest) := by
  rw [Bytes.ofChars_append, List.append_assoc, readRecord_eq_ok_iff]
  cases h with
  | @object front after member value carrier carried others =>
    have filled : Fills name.toList none (front ++ member :: after) (some text) :=
      fills_iff.mpr ⟨front, member, value, after, rfl, carrier, carried, others⟩
    have spelled (inside : List Char) : Bytes.ofChars ('{' :: (inside ++ ['}'])) ++ rest =
        0x7B :: (Bytes.ofChars inside ++ 0x7D :: rest) := by
      have opens : Bytes.octet '{' = 0x7B := by decide
      have closes : Bytes.octet '}' = 0x7D := by decide
      simp [Bytes.ofChars_cons_of_basic, opens, closes]
    have read : ∃ u, readMembers (Shape.ofText title name make).members true none
        (Bytes.ofChars ([','].intercalate (front ++ member :: after)) ++ 0x7D :: rest) =
          .ok (some text, u) ∧ skipSpace u = 0x7D :: rest := by
      cases front with
      | nil => exact readMembers_of_first filled rest
      | cons first front => exact readMembers_of_first filled rest
    obtain ⟨u, members, closed⟩ := read
    refine ⟨text, _, u, rfl, .inl ⟨?_, members, closed⟩⟩
    rw [skipSpace_blank blank, spelled, skipSpace_of_isSpace (by decide)]
  | @list gap value after blankGap carried blankAfter =>
    have spelled : Bytes.ofChars ('[' :: (gap ++ (value ++ (after ++ [']'])))) ++ rest =
        0x5B :: (Bytes.ofChars (gap ++ value) ++ (Bytes.ofChars after ++ 0x5D :: rest)) := by
      have opens : Bytes.octet '[' = 0x5B := by decide
      have closes : Bytes.octet ']' = 0x5D := by decide
      simp [Bytes.ofChars_cons_of_basic, opens, closes]
    have read := readText_of_quotes blankGap carried (Bytes.ofChars after ++ 0x5D :: rest)
    refine ⟨text, _, _, rfl, .inr ⟨?_, read, ?_⟩⟩
    · rw [skipSpace_blank blank, spelled, skipSpace_of_isSpace (by decide)]
    · rw [skipSpace_blank blankAfter, skipSpace_of_isSpace (by decide)]

/-- What is read as a text is an envelope of it. -/
theorem exists_of_readRecord {s : List Char}
    (h : (Shape.ofText title name make).readRecord (Bytes.ofChars s) = .ok (a, t)) :
    ∃ before value rest text, s = before ++ (value ++ rest) ∧ Blank before ∧
      Envelope name.toList text.toList value ∧ a = make text ∧ t = Bytes.ofChars rest := by
  obtain ⟨text, rest, u, rfl, ⟨found, members, closed⟩ | ⟨found, read, closed⟩⟩ :=
    readRecord_eq_ok_iff.mp h
  · obtain ⟨before, s, rfl, blank, rfl⟩ := exists_of_skipSpace found (by decide)
    obtain ⟨inside, s, rfl, filled, rfl⟩ := shut_of_readMembers rfl members closed
    rcases filled with ⟨_, none⟩ | ⟨first, more, rfl, filled⟩
    · contradiction
    · obtain ⟨front, member, value, after, same, carrier, carried, others⟩ := fills_iff.mp filled
      rw [← intercalate_comma, same]
      exact ⟨before, _, s, text, by simp; rfl, blank, .object carrier carried others, rfl, rfl⟩
  · obtain ⟨before, s, rfl, blank, rfl⟩ := exists_of_skipSpace found (by decide)
    obtain ⟨gap, value, s, rfl, blankGap, carried, rfl⟩ := exists_of_readText read
    obtain ⟨after, s, rfl, blankAfter, rfl⟩ := exists_of_skipSpace closed (by decide)
    have opens : Bytes.character 0x5B = '[' := rfl
    have closes : Bytes.character 0x5D = ']' := rfl
    exact ⟨before, _, s, text, by simp [opens, closes], blank, .list blankGap carried blankAfter, rfl, rfl⟩

/-- A record of one text is decoded exactly from the envelopes of the text. -/
theorem decode_eq_ok_iff {document : String} :
    (Shape.ofText title name make).reader.decode (Bytes.ofText document) = .ok a ↔
      ∃ text, a = make text ∧ IsEnvelope name.toList text.toList document.toList := by
  rw [Bytes.ofText_eq_ofChars]
  constructor
  · intro h
    obtain ⟨t, read, spaces⟩ := Reader.read_of_decode h
    obtain ⟨before, value, after, text, same, blank, envelope, rfl, rfl⟩ := exists_of_readRecord read
    exact ⟨text, rfl, before, value, after, same, blank, envelope, skipSpace_ofChars_eq_nil_iff.mp spaces⟩
  · rintro ⟨text, rfl, before, value, after, same, blank, envelope, blankAfter⟩
    have read : (Shape.ofText title name make).readRecord
        (Bytes.ofChars (before ++ value) ++ Bytes.ofChars after) = .ok (make text, Bytes.ofChars after) :=
      readRecord_of_envelope blank envelope _
    rw [← Bytes.ofChars_append, List.append_assoc, ← same] at read
    exact (Reader.decode_of_read read).mpr (skipSpace_ofChars_eq_nil_iff.mpr blankAfter)

end Records

/-- An envelope carries one text only. -/
theorem Grammar.IsEnvelope.unique {name text other s : List Char} (h : IsEnvelope name text s)
    (again : IsEnvelope name other s) : text = other := by
  have decoded {carried : List Char} (h : IsEnvelope name carried s) :
      (Shape.ofText "" (String.ofList name) id).reader.decode (Bytes.ofText (String.ofList s)) =
        .ok (String.ofList carried) := by
    rw [← String.toList_ofList (l := name), ← String.toList_ofList (l := carried),
      ← String.toList_ofList (l := s)] at h
    exact decode_eq_ok_iff.mpr ⟨_, rfl, h⟩
  have same := (decoded h).symm.trans (decoded again)
  exact String.ofList_inj.mp (Except.ok.inj same)

end Json

/-- The reader accepts exactly the envelopes under the name, as the texts that they carry. -/
structure AcceptsEnvelopes {α : Type} (reader : Json.Reader α) (name : String) (textOf : α → String) :
    Prop where
  accepted (document : String) (a : α) : reader.decode (Bytes.ofText document) = .ok a ↔
    Json.Grammar.IsEnvelope name.toList (textOf a).toList document.toList
  refused (document : String) : (∃ fault, reader.decode (Bytes.ofText document) = .error fault) ↔
    ∀ text, ¬ Json.Grammar.IsEnvelope name.toList text document.toList
  wellFormed (document : String) (a : α) :
    reader.decode (Bytes.ofText document) = .ok a → Json.Grammar.IsDocument document.toList

/-- The reader of a shape with one text accepts the envelopes of its name, if the shape and the text can
be told from each other. -/
theorem acceptsEnvelopes_ofText {α : Type} {title name : String} {make : String → α} {textOf : α → String}
    (textOf_make : ∀ text, textOf (make text) = text) (make_textOf : ∀ a, make (textOf a) = a) :
    AcceptsEnvelopes (Json.Shape.ofText title name make).reader name textOf where
  accepted document a := by
    rw [Json.decode_eq_ok_iff]
    constructor
    · rintro ⟨text, rfl, envelope⟩
      rwa [textOf_make]
    · intro envelope
      exact ⟨textOf a, (make_textOf a).symm, envelope⟩
  refused document := by
    constructor
    · rintro ⟨fault, refused⟩ text envelope
      rw [← String.toList_ofList (l := text)] at envelope
      have accepted : (Json.Shape.ofText title name make).reader.decode (Bytes.ofText document) =
          .ok (make (String.ofList text)) := Json.decode_eq_ok_iff.mpr ⟨_, rfl, envelope⟩
      rw [refused] at accepted
      contradiction
    · intro none
      cases decoded : (Json.Shape.ofText title name make).reader.decode (Bytes.ofText document) with
      | error fault => exact ⟨fault, rfl⟩
      | ok a =>
        obtain ⟨text, _, envelope⟩ := Json.decode_eq_ok_iff.mp decoded
        exact absurd envelope (none text.toList)
  wellFormed document a decoded := by
    obtain ⟨text, _, envelope⟩ := Json.decode_eq_ok_iff.mp decoded
    exact envelope.isDocument

/-- Questions and answers are read exactly from the envelopes of their texts. -/
theorem envelopes_accepted : AcceptsEnvelopes Question.reader "message" Question.message ∧
    AcceptsEnvelopes Answer.reader "answer" Answer.answer :=
  ⟨acceptsEnvelopes_ofText (fun _ => rfl) fun _ => rfl,
    acceptsEnvelopes_ofText (fun _ => rfl) fun _ => rfl⟩

end ChatGateway
