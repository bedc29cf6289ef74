import ChatGateway.Proofs.Json.Numbers
import ChatGateway.Proofs.Json.Passing
import ChatGateway.Proofs.Json.Spelling

/-!
# Values of the grammar

Passing over a value takes exactly a value of the grammar, to whatever depth it nests. What is passed over
is a list of open brackets and not a tree, so the phrases of the grammar are compared with what is still
to come: parts inside the innermost bracket, the bracket's end, and the same for the brackets around it.
-/

namespace ChatGateway.Json

open Grammar

/-! ## What is no list and no object -/

/-- The opening of a part is a basic character. -/
theorem octet_opening (bracket : Bracket) :
    (opening bracket).toNat < 0x80 ∧
      Bytes.octet (opening bracket) = match bracket with | .list => 0x5B | .object => 0x7B := by
  cases bracket <;> decide

/-- The closing of a part is a basic character. -/
theorem octet_closing (bracket : Bracket) :
    (closing bracket).toNat < 0x80 ∧ Bytes.octet (closing bracket) = bracket.closing := by
  cases bracket <;> decide

/-- Behind a blank, a comma, a closing bracket or at the end no number goes on. -/
theorem endsNumber_blank {s : List Char} (h : Blank s) {rest : Bytes} (ends : EndsNumber rest) :
    EndsNumber (Bytes.ofChars s ++ rest) := by
  cases s with
  | nil => exact ends
  | cons c s =>
    intro b first
    have blank := h c List.mem_cons_self
    rw [Bytes.ofChars_cons_of_basic (isSpace_octet blank).1] at first
    cases first
    rcases blank with rfl | rfl | rfl | rfl <;> decide

/-- A comma goes on with no number. -/
theorem endsNumber_comma (rest : Bytes) : EndsNumber (0x2C :: rest) := by
  intro b first
  cases first
  decide

/-- A closing goes on with no number. -/
theorem endsNumber_closing (bracket : Bracket) (rest : Bytes) :
    EndsNumber (bracket.closing :: rest) := by
  intro b first
  cases first
  cases bracket <;> decide

/-- A value that begins with a digit is passed over as a number. -/
theorem skipScalar_digit {b : UInt8} (h : isDigit b = true) (rest : Bytes) :
    skipScalar b rest = skipNumber (b :: rest) := by
  have others : b ≠ 0x6E ∧ b ≠ 0x74 ∧ b ≠ 0x66 ∧ b ≠ 0x2D := by
    refine ⟨?_, ?_, ?_, ?_⟩
    all_goals
      intro same
      rw [same] at h
      contradiction
  simp only [skipScalar, others, if_false, h, if_true]

/-- A number starts with a digit. -/
theorem Grammar.Unsigned.exists_digit {s : List Char} (h : Unsigned s) :
    ∃ c t, s = c :: t ∧ c.isDigit = true := by
  cases h with
  | parts before after power =>
    cases before with
    | zero => exact ⟨_, _, rfl, by decide⟩
    | digits first positive more => exact ⟨_, _, rfl, first⟩

/-- What is no list and no object is passed over at once. -/
theorem skipFrom_scalar {c : Char} {s : List Char} {outer : List Bracket} {rest : Bytes}
    (basic : c.toNat < 0x80) (noSpace : isSpace (Bytes.octet c) = false)
    (noList : Bytes.octet c ≠ 0x5B) (noObject : Bytes.octet c ≠ 0x7B)
    (h : skipScalar (Bytes.octet c) (Bytes.ofChars s ++ rest) = .ok rest) :
    skipFrom .value outer (Bytes.ofChars (c :: s) ++ rest) = skipFrom .closed outer rest := by
  rw [Bytes.ofChars_cons_of_basic basic, List.cons_append,
    skipFrom_value (skipSpace_of_isSpace noSpace _), if_neg noList, if_neg noObject, h]

/-- A word is taken from its second character on. -/
theorem takes_word (c : Char) (word : List Char) {s : List Char} {rest u : Bytes}
    (known : c :: word = "null".toList ∨ c :: word = "true".toList ∨ c :: word = "false".toList)
    (basic : ∀ d ∈ c :: word, d.toNat < 0x80) (shape : Bytes.ofChars s = Bytes.octet c :: rest)
    (h : expectWord (word.map Bytes.octet) rest = .ok u) : Takes (Derives .value) s u := by
  rw [List.forall_mem_cons] at basic
  obtain ⟨t, rfl, rfl⟩ := Bytes.exists_of_ofChars_eq_cons shape (Bytes.octet_basic basic.1)
  rw [Bytes.character_octet basic.1]
  exact (takes_expectWord word basic.2 h).cons fun front same => .word (same ▸ known)

/-- What is taken as a value without parts is a value of the grammar. -/
theorem takes_skipScalar {s : List Char} {b : UInt8} {rest u : Bytes}
    (shape : Bytes.ofChars s = b :: rest) (h : skipScalar b rest = .ok u) :
    Takes (Derives .value) s u := by
  unfold skipScalar at h
  split at h
  · rename_i same
    subst same
    exact takes_word 'n' ['u', 'l', 'l'] (.inl rfl) (by simp) shape h
  split at h
  · rename_i same
    subst same
    exact takes_word 't' ['r', 'u', 'e'] (.inr (.inl rfl)) (by simp) shape h
  split at h
  · rename_i same
    subst same
    exact takes_word 'f' ['a', 'l', 's', 'e'] (.inr (.inr rfl)) (by simp) shape h
  split at h
  · rename_i same
    subst same
    obtain ⟨t, rfl, rfl⟩ := Bytes.exists_of_ofChars_eq_cons shape (by decide)
    exact (takes_skipNumber h).cons fun front number => .negative number
  split at h
  · rw [← shape] at h
    exact (takes_skipNumber h).imp fun front number => .positive number
  split at h
  · rename_i same
    subst same
    obtain ⟨t, rfl, rfl⟩ := Bytes.exists_of_ofChars_eq_cons shape (by decide)
    obtain ⟨raw, t, rfl, characters, rfl⟩ := exists_of_skipText h
    exact ⟨'"' :: (raw ++ ['"']), t, by simp; rfl, .text characters, rfl⟩
  · contradiction

/-! ## Names of members -/

/-- A colon is found behind blanks. -/
theorem skipColon_blank {s : List Char} (h : Blank s) (rest : Bytes) :
    skipColon (Bytes.ofChars s ++ 0x3A :: rest) = .ok rest := by
  rw [skipColon, skipSpace_blank h, skipSpace_of_isSpace (by decide)]
  rfl

/-- A colon that was passed over has blanks before it. -/
theorem exists_of_skipColon {s : List Char} {u : Bytes} (h : skipColon (Bytes.ofChars s) = .ok u) :
    ∃ blank t, s = blank ++ ':' :: t ∧ Blank blank ∧ u = Bytes.ofChars t := by
  unfold skipColon at h
  split at h
  · contradiction
  rename_i b rest found
  split at h
  · rename_i colon
    cases h
    subst colon
    exact exists_of_skipSpace found (by decide)
  · contradiction

/-- The label of a value is passed over, whatever follows. -/
theorem skipName_of_label {bracket : Bracket} {s : List Char} (h : Label bracket s) (rest : Bytes) :
    skipName bracket (Bytes.ofChars s ++ rest) = .ok rest := by
  cases h with
  | element => rfl
  | @member before name between blankBefore named blankBetween =>
    have quote : Bytes.octet '"' = quoteMark := by decide
    have colon : Bytes.octet ':' = 0x3A := by decide
    have spelled : Bytes.ofChars (before ++ '"' :: (name ++ '"' :: (between ++ [':']))) ++ rest =
        Bytes.ofChars before ++ quoteMark ::
          (Bytes.ofChars name ++ quoteMark :: (Bytes.ofChars between ++ 0x3A :: rest)) := by
      simp [Bytes.ofChars_cons_of_basic, quote, colon]
    rw [spelled, skipName, skipSpace_blank blankBefore, skipSpace_quoteMark]
    simp only [if_true, skipText_of_characters named, skipColon_blank blankBetween]

/-- What is passed over as a name is the label of a value. -/
theorem takes_skipName {bracket : Bracket} {s : List Char} {u : Bytes}
    (h : skipName bracket (Bytes.ofChars s) = .ok u) : Takes (Label bracket) s u := by
  cases bracket with
  | list =>
    cases h
    exact Takes.nil .element s
  | object =>
    simp only [skipName] at h
    split at h
    · contradiction
    rename_i b rest found
    split at h
    · rename_i quote
      subst quote
      obtain ⟨before, t, rfl, blankBefore, rfl⟩ := exists_of_skipSpace found (by decide)
      split at h
      · contradiction
      rename_i v name
      obtain ⟨raw, t, rfl, named, rfl⟩ := exists_of_skipText name
      obtain ⟨between, t, rfl, blankBetween, rfl⟩ := exists_of_skipColon h
      exact ⟨_, t, by simp; rfl, .member blankBefore named blankBetween, rfl⟩
    · contradiction

/-! ## What is well formed is passed over -/

/-- Blanks are passed over at once. -/
theorem skipSpace_skipSpace (s : Bytes) : skipSpace (skipSpace s) = skipSpace s := by
  induction s with
  | nil => rfl
  | cons b s ih =>
    cases hb : isSpace b with
    | true => simpa [skipSpace, hb] using ih
    | false => rw [skipSpace_of_isSpace hb, skipSpace_of_isSpace hb]

/-- Before a value spaces do not matter. -/
theorem skipFrom_value_congr {outer : List Bracket} {s t : Bytes} (h : skipSpace s = skipSpace t) :
    skipFrom .value outer s = skipFrom .value outer t := by
  cases found : skipSpace t with
  | nil =>
    rw [skipFrom, skipFrom]
    split
    · split
      · rfl
      · simp_all
    · simp_all
  | cons b rest => rw [skipFrom_value (h.trans found), skipFrom_value found]

/-- Behind a value inside a bracket spaces do not matter. -/
theorem skipFrom_closed_congr {bracket : Bracket} {outer : List Bracket} {s t : Bytes}
    (h : skipSpace s = skipSpace t) :
    skipFrom .closed (bracket :: outer) s = skipFrom .closed (bracket :: outer) t := by
  cases found : skipSpace t with
  | nil =>
    rw [skipFrom, skipFrom]
    split
    · split
      · rfl
      · simp_all
    · simp_all
  | cons b rest => rw [skipFrom_closed (h.trans found), skipFrom_closed found]

/-- Passes over a part and what follows it, inside a bracket. -/
def skipPart (bracket : Bracket) (outer : List Bracket) (s : Bytes) : Except Fault Bytes :=
  match skipName bracket s with
  | .error fault => .error fault
  | .ok t => skipFrom .value (bracket :: outer) t

/-- Passing over a part does not depend on the blanks before it. -/
theorem skipPart_congr {bracket : Bracket} {outer : List Bracket} {s t : Bytes}
    (h : skipSpace s = skipSpace t) : skipPart bracket outer s = skipPart bracket outer t := by
  cases bracket with
  | list => exact skipFrom_value_congr h
  | object => simp only [skipPart, skipName, h]

/-- No part starts with the closing bracket. -/
theorem skipPart_closing {bracket : Bracket} {outer : List Bracket} {s rest : Bytes}
    (h : skipSpace s = bracket.closing :: rest) : ∃ fault, skipPart bracket outer s = .error fault := by
  cases bracket with
  | list =>
    refine ⟨.upon (0x5D :: rest) .valueExpected, ?_⟩
    have refused : skipScalar 0x5D rest = .error (.upon (0x5D :: rest) .valueExpected) := rfl
    change skipFrom .value _ s = _
    rw [skipFrom_value h]
    simp only [Bracket.closing, show (0x5D : UInt8) ≠ 0x5B by decide,
      show (0x5D : UInt8) ≠ 0x7B by decide, if_false, refused]
  | object =>
    refine ⟨.upon (0x7D :: rest) .memberNameExpected, ?_⟩
    simp only [skipPart, skipName, h, Bracket.closing, show (0x7D : UInt8) ≠ quoteMark by decide, if_false]

/-- Parts that are passed over may stand behind the opening bracket. -/
theorem skipFrom_opened_of_part {bracket : Bracket} {s t : Bytes} (h : skipPart bracket [] s = .ok t)
    (outer : List Bracket) : skipFrom .opened (bracket :: outer) s = skipPart bracket outer s := by
  cases found : skipSpace s with
  | nil =>
    have none : skipSpace s = skipSpace [] := found
    rw [skipPart_congr none] at h
    cases bracket with
    | list =>
      change skipFrom .value _ [] = _ at h
      rw [skipFrom] at h
      contradiction
    | object => contradiction
  | cons b rest =>
    have noClosing : b ≠ bracket.closing := by
      intro closes
      subst closes
      obtain ⟨fault, refused⟩ : ∃ fault, skipPart bracket [] s = .error fault := skipPart_closing found
      rw [refused] at h
      contradiction
    have again : skipSpace (b :: rest) = skipSpace s := by rw [← found, skipSpace_skipSpace]
    rw [skipFrom_opened found, if_neg noClosing, ← skipPart_congr again]
    rfl

/-- How a phrase is passed over, whatever is around it and follows it. -/
def Passes : Phrase → List Char → Prop
  | .value, s => ∀ outer rest, EndsNumber rest →
    skipFrom .value outer (Bytes.ofChars s ++ rest) = skipFrom .closed outer rest
  | .part bracket, s => ∀ outer rest, EndsNumber rest →
    skipPart bracket outer (Bytes.ofChars s ++ rest) = skipFrom .closed (bracket :: outer) rest
  | .parts bracket, s => ∀ outer rest,
    skipPart bracket outer (Bytes.ofChars s ++ bracket.closing :: rest) = skipFrom .closed outer rest

/-- An opening bracket is passed over, and with it what stands behind it. -/
theorem skipFrom_opening (bracket : Bracket) (outer : List Bracket) (s : List Char) (rest : Bytes) :
    skipFrom .value outer (Bytes.ofChars (opening bracket :: (s ++ [closing bracket])) ++ rest) =
      skipFrom .opened (bracket :: outer) (Bytes.ofChars s ++ bracket.closing :: rest) := by
  have behind : Bytes.ofChars (s ++ [closing bracket]) ++ rest =
      Bytes.ofChars s ++ bracket.closing :: rest := by
    rw [Bytes.ofChars_append, Bytes.ofChars_cons_of_basic (octet_closing bracket).1,
      (octet_closing bracket).2, Bytes.ofChars_nil, List.append_assoc]
    rfl
  rw [Bytes.ofChars_cons_of_basic (octet_opening bracket).1, (octet_opening bracket).2,
    List.cons_append, behind]
  cases bracket with
  | list =>
    rw [skipFrom_value (skipSpace_of_isSpace (by decide) _)]
    exact if_pos rfl
  | object =>
    rw [skipFrom_value (skipSpace_of_isSpace (by decide) _), if_neg (by decide)]
    exact if_pos rfl

/-- Every phrase of the grammar is passed over. -/
theorem passes_of_derives {phrase : Phrase} {s : List Char} (h : Derives phrase s) :
    Passes phrase s := by
  induction h with
  | word known =>
    intro outer rest _
    rcases known with rfl | rfl | rfl
    · exact skipFrom_scalar (by decide) (by decide) (by decide) (by decide)
        (expectWord_ofChars ['u', 'l', 'l'] (by simp) rest)
    · exact skipFrom_scalar (by decide) (by decide) (by decide) (by decide)
        (expectWord_ofChars ['r', 'u', 'e'] (by simp) rest)
    · exact skipFrom_scalar (by decide) (by decide) (by decide) (by decide)
        (expectWord_ofChars ['a', 'l', 's', 'e'] (by simp) rest)
  | positive number =>
    intro outer rest ends
    have passed := skipNumber_of_unsigned number ends
    obtain ⟨c, t, rfl, digit⟩ := number.exists_digit
    have first := isDigit_octet digit
    have others : isSpace (Bytes.octet c) = false ∧ Bytes.octet c ≠ 0x5B ∧ Bytes.octet c ≠ 0x7B := by
      refine ⟨Bool.eq_false_iff.mpr fun space => ?_, fun list => ?_, fun object => ?_⟩
      · simp only [isSpace, Bool.or_eq_true, decide_eq_true_eq] at space
        rcases space with ((same | same) | same) | same
        all_goals
          rw [same] at first
          contradiction
      · rw [list] at first
        contradiction
      · rw [object] at first
        contradiction
    refine skipFrom_scalar (toNat_of_isDigit digit) others.1 others.2.1 others.2.2 ?_
    rw [skipScalar_digit first, ← List.cons_append, ← Bytes.ofChars_cons_of_basic (toNat_of_isDigit digit)]
    exact passed
  | negative number =>
    intro outer rest ends
    exact skipFrom_scalar (by decide) (by decide) (by decide) (by decide)
      (skipNumber_of_unsigned number ends)
  | @text s characters =>
    intro outer rest _
    refine skipFrom_scalar (by decide) (by decide) (by decide) (by decide) ?_
    have passed := skipText_of_characters characters rest
    rw [Bytes.ofChars_append, List.append_assoc]
    exact passed
  | @empty s bracket blank =>
    intro outer rest _
    have noSpace : isSpace bracket.closing = false := by cases bracket <;> decide
    have closes : skipSpace (Bytes.ofChars s ++ bracket.closing :: rest) = bracket.closing :: rest := by
      rw [skipSpace_blank blank, skipSpace_of_isSpace noSpace]
    rw [skipFrom_opening, skipFrom_opened closes, if_pos rfl]
  | @filled s bracket inside ih =>
    intro outer rest _
    have alone : skipPart bracket [] (Bytes.ofChars s ++ bracket.closing :: rest) = .ok rest := by
      rw [ih [] rest, skipFrom]
      simp
    rw [skipFrom_opening, skipFrom_opened_of_part alone, ih outer rest]
  | @part bracket label before s after labelled blankBefore value blankAfter ih =>
    intro outer rest ends
    have named := skipName_of_label labelled (Bytes.ofChars (before ++ (s ++ after)) ++ rest)
    rw [Bytes.ofChars_append, List.append_assoc, skipPart, named]
    dsimp only
    rw [Bytes.ofChars_append, Bytes.ofChars_append, List.append_assoc, List.append_assoc,
      skipFrom_value_congr (skipSpace_blank blankBefore _),
      ih (bracket :: outer) _ (endsNumber_blank blankAfter ends)]
    exact skipFrom_closed_congr (skipSpace_blank blankAfter rest)
  | @last bracket s part ih =>
    intro outer rest
    have noSpace : isSpace bracket.closing = false := by cases bracket <;> decide
    rw [ih outer _ (endsNumber_closing bracket rest), skipFrom_closed (skipSpace_of_isSpace noSpace rest),
      if_pos rfl]
  | @more bracket s rest part parts ih ihMore =>
    intro outer later
    have noClosing : (0x2C : UInt8) ≠ bracket.closing := by cases bracket <;> decide
    have comma : Bytes.ofChars (',' :: rest) = 0x2C :: Bytes.ofChars rest :=
      Bytes.ofChars_cons_of_basic (by decide) rest
    rw [Bytes.ofChars_append, comma, List.append_assoc, List.cons_append,
      ih outer _ (endsNumber_comma _), skipFrom_closed (skipSpace_of_isSpace (by decide) _),
      if_neg noClosing, if_pos rfl]
    exact ihMore outer later

/-! ## What is passed over is well formed -/

/-- What follows a value inside open brackets, innermost first, up to the end of the outermost one. -/
inductive Closes : List Bracket → List Char → Prop where
  | done : Closes [] []
  | bracket {bracket : Bracket} {outer : List Bracket} {before rest : List Char}
      (blank : Blank before) (later : Closes outer rest) :
      Closes (bracket :: outer) (before ++ closing bracket :: rest)
  | comma {bracket : Bracket} {outer : List Bracket} {before parts rest : List Char}
      (blank : Blank before) (more : Derives (.parts bracket) parts) (later : Closes outer rest) :
      Closes (bracket :: outer) (before ++ ',' :: (parts ++ closing bracket :: rest))

/-- What is passed over from a stage on. -/
def Completes : Stage → List Bracket → List Char → Prop
  | .value, outer, s => ∃ before v rest, s = before ++ (v ++ rest) ∧ Blank before ∧
    Derives .value v ∧ Closes outer rest
  | .opened, bracket :: outer, s => ∃ inside rest, s = inside ++ closing bracket :: rest ∧
    (Blank inside ∨ Derives (.parts bracket) inside) ∧ Closes outer rest
  | .opened, [], s => s = []
  | .closed, outer, s => Closes outer s

/-- An opening bracket makes a value of what stands behind it. -/
theorem Completes.opening {bracket : Bracket} {outer : List Bracket} {before s : List Char}
    (blank : Blank before) (h : Completes .opened (bracket :: outer) s) :
    Completes .value outer (before ++ (Grammar.opening bracket :: s)) := by
  obtain ⟨inside, rest, rfl, filled, later⟩ := h
  refine ⟨before, Grammar.opening bracket :: (inside ++ [closing bracket]), rest, by simp, blank, ?_,
    later⟩
  rcases filled with blank | parts
  · exact .empty bracket blank
  · exact .filled parts

/-- A name and a value are the first of the parts that are still to come. -/
theorem Completes.parts {bracket : Bracket} {outer : List Bracket} {before label s : List Char}
    (blank : Blank before) (labelled : Label bracket label) (h : Completes .value (bracket :: outer) s) :
    ∃ parts rest, before ++ (label ++ s) = parts ++ closing bracket :: rest ∧
      Derives (.parts bracket) parts ∧ Closes outer rest := by
  obtain ⟨gap, v, rest, rfl, blankGap, value, later⟩ := h
  have part (after : List Char) (blankAfter : Blank after) :
      Derives (.part bracket) (before ++ (label ++ (gap ++ (v ++ after)))) := by
    cases labelled with
    | element =>
      have element := Derives.part .element (blank.append blankGap) value blankAfter
      simpa using element
    | @member first name between blankFirst named blankBetween =>
      have member := Derives.part (.member (blank.append blankFirst) named blankBetween) blankGap value
        blankAfter
      simpa using member
  cases later with
  | @bracket _ _ after rest blankAfter later =>
    exact ⟨_, rest, by simp, .last (part after blankAfter), later⟩
  | @comma _ _ after parts rest blankAfter more later =>
    exact ⟨_, rest, by simp, .more (part after blankAfter) more, later⟩

/-- Whatever is passed over completes the open brackets. -/
theorem takes_skipFrom {stage : Stage} {outer : List Bracket} {v u : Bytes} {s : List Char}
    (octets : v = Bytes.ofChars s) (h : skipFrom stage outer v = .ok u) :
    Takes (Completes stage outer) s u := by
  fun_induction skipFrom stage outer v generalizing s with
  | case1 | case4 | case7 | case9 | case11 | case13 | case15 => contradiction
  | case2 v outer rest found ih =>
    subst octets
    obtain ⟨before, t, rfl, blank, rfl⟩ := exists_of_skipSpace found (by decide)
    have taken : Takes (Completes .value outer) (before ++ [opening .list] ++ t) u :=
      (ih rfl h).append _ fun front inside => by simpa using inside.opening blank
    rwa [List.append_assoc] at taken
  | case3 v outer rest found _ ih =>
    subst octets
    obtain ⟨before, t, rfl, blank, rfl⟩ := exists_of_skipSpace found (by decide)
    have taken : Takes (Completes .value outer) (before ++ [opening .object] ++ t) u :=
      (ih rfl h).append _ fun front inside => by simpa using inside.opening blank
    rwa [List.append_assoc] at taken
  | case5 v outer b rest found _ _ w scalar ih =>
    subst octets
    obtain ⟨before, t, rfl, blank, behind⟩ := takes_skipSpace s
    obtain ⟨value, t, rfl, derived, rfl⟩ := takes_skipScalar (behind.symm.trans found) scalar
    have taken : Takes (Completes .value outer) (before ++ value ++ t) u :=
      (ih rfl h).append _ fun front later => ⟨before, value, front, by simp, blank, derived, later⟩
    simpa using taken
  | case6 stage v notValue =>
    subst octets
    cases h
    refine Takes.nil ?_ s
    cases stage with
    | value => exact absurd rfl notValue
    | opened => rfl
    | closed => exact .done
  | case8 v bracket outer rest found ih =>
    subst octets
    have basic : bracket.closing < 0x80 := by cases bracket <;> decide
    obtain ⟨before, t, rfl, blank, rfl⟩ := exists_of_skipSpace found basic
    have same : Bytes.character bracket.closing = closing bracket := by cases bracket <;> rfl
    have taken : Takes (Completes .opened (bracket :: outer)) (before ++ [closing bracket] ++ t) u :=
      (ih rfl h).append _ fun front later => ⟨before, front, by simp, .inl blank, later⟩
    simpa [same] using taken
  | case10 v bracket outer b rest found _ w name ih =>
    subst octets
    obtain ⟨before, t, rfl, blank, behind⟩ := takes_skipSpace s
    rw [← found, behind] at name
    obtain ⟨label, t, rfl, labelled, rfl⟩ := takes_skipName name
    have taken : Takes (Completes .opened (bracket :: outer)) (before ++ label ++ t) u :=
      (ih rfl h).append _ fun front value => by
        obtain ⟨parts, rest, spelled, derived, later⟩ := value.parts blank labelled
        exact ⟨parts, rest, by rw [← spelled]; simp, .inr derived, later⟩
    simpa using taken
  | case12 v bracket outer rest found ih =>
    subst octets
    have basic : bracket.closing < 0x80 := by cases bracket <;> decide
    obtain ⟨before, t, rfl, blank, rfl⟩ := exists_of_skipSpace found basic
    have same : Bytes.character bracket.closing = closing bracket := by cases bracket <;> rfl
    have taken : Takes (Completes .closed (bracket :: outer)) (before ++ [closing bracket] ++ t) u :=
      (ih rfl h).append _ fun front later => by
        rw [List.append_assoc]
        exact Closes.bracket blank later
    simpa [same] using taken
  | case14 v bracket outer rest w name found _ ih =>
    subst octets
    obtain ⟨before, t, rfl, blank, rfl⟩ := exists_of_skipSpace found (by decide)
    obtain ⟨label, t, rfl, labelled, rfl⟩ := takes_skipName name
    have taken : Takes (Completes .closed (bracket :: outer)) (before ++ ',' :: label ++ t) u :=
      (ih rfl h).append _ fun front value => by
        obtain ⟨parts, rest, spelled, derived, later⟩ := value.parts Blank.nil labelled
        rw [List.nil_append] at spelled
        rw [List.append_assoc, List.cons_append, spelled]
        exact Closes.comma blank derived later
    rwa [List.append_assoc] at taken

/-- A value that is passed over is one of the grammar, with blanks before it. -/
theorem takes_skipValue {s : List Char} {u : Bytes} (h : skipValue (Bytes.ofChars s) = .ok u) :
    Takes (fun front => ∃ before v, front = before ++ v ∧ Blank before ∧ Derives .value v) s u := by
  refine (takes_skipFrom rfl h).imp fun front value => ?_
  obtain ⟨before, v, rest, rfl, blank, derived, later⟩ := value
  cases later
  exact ⟨before, v, by simp, blank, derived⟩

/-- A value of the grammar is passed over with the blanks before it. -/
theorem skipValue_of_derives {before v : List Char} (blank : Blank before) (value : Derives .value v)
    {rest : Bytes} (ends : EndsNumber rest) :
    skipValue (Bytes.ofChars (before ++ v) ++ rest) = .ok rest := by
  rw [skipValue, Bytes.ofChars_append, List.append_assoc,
    skipFrom_value_congr (skipSpace_blank blank _), passes_of_derives value [] rest ends, skipFrom]
  simp

end ChatGateway.Json
