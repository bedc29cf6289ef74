import ChatGateway.Proofs.Json.Grammar

/-!
# Envelopes of the grammar

An envelope carries a text, as the only element of a list, or as the value of the one member of an object
that has the right name. Names are compared by the characters for which they stand, and beside that member
any others may stand, in any order and with any values.

Reading fills a draft member by member. What the members make of an empty draft is told by one of them,
or by none.
-/

namespace ChatGateway.Json.Grammar

/-- A text with its marks, and the characters for which it stands. -/
inductive Quotes : List Char → List Char → Prop where
  | marks {raw meaning : List Char} (spells : Spells raw meaning) : Quotes ('"' :: (raw ++ ['"'])) meaning

/-- A member with the blanks around it, what it is called, and its value. -/
inductive Entry : List Char → List Char → List Char → Prop where
  | member {before name called between gap value after : List Char} (blankBefore : Blank before)
      (named : Quotes name called) (blankBetween : Blank between) (blankGap : Blank gap)
      (derived : Derives .value value) (blankAfter : Blank after) :
      Entry (before ++ (name ++ (between ++ ':' :: (gap ++ (value ++ after))))) called value

/-- A member that is called something else. -/
def IsOther (name member : List Char) : Prop :=
  ∃ called value, Entry member called value ∧ called ≠ name

/-- A value that carries the text under the name. -/
inductive Envelope (name text : List Char) : List Char → Prop where
  | object {before after : List (List Char)} {member value : List Char}
      (carrier : Entry member name value) (carried : Quotes value text)
      (others : ∀ other ∈ before ++ after, IsOther name other) :
      Envelope name text ('{' :: ([','].intercalate (before ++ member :: after) ++ ['}']))
  | list {before value after : List Char} (blankBefore : Blank before) (carried : Quotes value text)
      (blankAfter : Blank after) : Envelope name text ('[' :: (before ++ (value ++ (after ++ [']']))))

/-- A document that consists of an envelope of the text, with blanks around it. -/
def IsEnvelope (name text s : List Char) : Prop :=
  ∃ before value after, s = before ++ (value ++ after) ∧ Blank before ∧ Envelope name text value ∧
    Blank after

/-- A quoted text is a value of the grammar. -/
theorem Quotes.derives {s text : List Char} (h : Quotes s text) : Derives .value s := by
  cases h with
  | marks spells => exact .text spells.characters

/-- An entry is a part of an object of the grammar. -/
theorem Entry.derives {s called value : List Char} (h : Entry s called value) :
    Derives (.part .object) s := by
  cases h with
  | @member before name _ between gap _ after blankBefore named blankBetween blankGap derived blankAfter =>
    cases named with
    | marks spells =>
      have part := Derives.part (.member blankBefore spells.characters blankBetween) blankGap derived
        blankAfter
      simpa using part

/-- An envelope is a value of the grammar. -/
theorem Envelope.derives {name text s : List Char} (h : Envelope name text s) : Derives .value s := by
  cases h with
  | @object before after member _ carrier _ others =>
    have members : ∀ s ∈ before ++ member :: after, Derives (.part .object) s := by
      intro s hs
      rcases List.mem_append.mp hs with hs | hs
      · obtain ⟨called, value, entry, _⟩ := others s (List.mem_append_left after hs)
        exact entry.derives
      · rcases List.mem_cons.mp hs with rfl | hs
        · exact carrier.derives
        · obtain ⟨called, value, entry, _⟩ := others s (List.mem_append_right before hs)
          exact entry.derives
    cases before with
    | nil => exact .filled (derives_intercalate members)
    | cons first before => exact .filled (derives_intercalate members)
  | list blankBefore carried blankAfter =>
    have element := Derives.part .element blankBefore carried.derives blankAfter
    simpa [opening, closing] using Derives.filled (.last element)

/-- Every envelope is a document. -/
theorem IsEnvelope.isDocument {name text s : List Char} (h : IsEnvelope name text s) : IsDocument s := by
  obtain ⟨before, value, after, rfl, blankBefore, envelope, blankAfter⟩ := h
  exact isDocument_of_value blankBefore envelope.derives blankAfter

/-! ## What members make of a draft -/

/-- What a member makes of the draft of an envelope: its own member fills it, unless it is filled. -/
inductive Draws (name : List Char) : Option String → List Char → List Char → Option String → Prop where
  | own {value : List Char} {text : String} (carried : Quotes value text.toList) :
      Draws name none name value (some text)
  | other {draft : Option String} {called value : List Char} (differs : called ≠ name) :
      Draws name draft called value draft

/-- What members in order make of the draft. -/
inductive Fills (name : List Char) : Option String → List (List Char) → Option String → Prop where
  | nil {draft : Option String} : Fills name draft [] draft
  | cons {draft next last : Option String} {member called value : List Char}
      {more : List (List Char)} (entry : Entry member called value)
      (drawn : Draws name draft called value next) (later : Fills name next more last) :
      Fills name draft (member :: more) last

/-- Members with other names leave what is drawn as it is. -/
theorem fills_others {name : List Char} {members : List (List Char)}
    (h : ∀ member ∈ members, IsOther name member) (draft : Option String) :
    Fills name draft members draft := by
  induction members with
  | nil => exact .nil
  | cons member members ih =>
    rw [List.forall_mem_cons] at h
    obtain ⟨called, value, entry, differs⟩ := h.1
    exact .cons entry (.other differs) (ih h.2)

/-- A filled draft stays as it is, and no further member has the name. -/
theorem Fills.of_some {name : List Char} {text : String} {members : List (List Char)}
    {draft last : Option String} (h : Fills name draft members last) (filled : draft = some text) :
    last = some text ∧ ∀ member ∈ members, IsOther name member := by
  induction h with
  | nil => exact ⟨filled, fun member none => nomatch none⟩
  | cons entry drawn _ ih =>
    cases drawn with
    | own => contradiction
    | other differs =>
      obtain ⟨same, others⟩ := ih filled
      exact ⟨same, List.forall_mem_cons.mpr ⟨⟨_, _, entry, differs⟩, others⟩⟩

/-- The draft is filled by exactly one member. -/
theorem fills_iff {name : List Char} {text : String} {members : List (List Char)} :
    Fills name none members (some text) ↔ ∃ before member value after,
      members = before ++ member :: after ∧ Entry member name value ∧ Quotes value text.toList ∧
        ∀ other ∈ before ++ after, IsOther name other := by
  constructor
  · intro h
    induction members with
    | nil => cases h
    | cons member members ih =>
      cases h with
      | cons entry drawn later =>
        cases drawn with
        | own carried =>
          obtain ⟨same, others⟩ := later.of_some rfl
          cases same
          exact ⟨[], member, _, members, rfl, entry, carried, others⟩
        | other differs =>
          obtain ⟨before, carrier, value, after, rfl, carries, carried, others⟩ := ih later
          exact ⟨member :: before, carrier, value, after, rfl, carries, carried,
            List.forall_mem_cons.mpr ⟨⟨_, _, entry, differs⟩, others⟩⟩
  · rintro ⟨before, member, value, after, rfl, carrier, carried, others⟩
    induction before with
    | nil => exact .cons carrier (.own carried) (fills_others others _)
    | cons first before ih =>
      rw [List.cons_append, List.forall_mem_cons] at others
      obtain ⟨called, value, entry, differs⟩ := others.1
      exact .cons entry (.other differs) (ih others.2)

/-- Members with commas between them. -/
theorem intercalate_comma (first : List Char) (more : List (List Char)) :
    [','].intercalate (first :: more) = first ++ more.flatMap (',' :: ·) := by
  induction more generalizing first with
  | nil => simp [List.intercalate]
  | cons next more ih =>
    have later := ih next
    simp only [List.intercalate] at later ⊢
    simp [later]

end ChatGateway.Json.Grammar
