import ChatGateway.Json.Record
import ChatGateway.Proofs.Json.Passing

/-!
# How far a record is read

A record ends with its closing bracket, so what it is read from does not depend on anything that
follows, provided that the values of its members end no later than the next octet tells. Hence a
document starts with a record exactly if it has a front that is a document of that record.
-/

namespace ChatGateway.Json

namespace Reader

variable {α β : Type}

/-- Where the value ends is told by the next octet at the latest. -/
def EndsByNext (r : Reader α) : Prop :=
  ∀ s a t, r.read s = .ok (a, t) → SettledByNext (fun s t => r.read s = .ok (a, t)) s t

/-- Where the value ends is told by its own octets. -/
def EndsItself (r : Reader α) : Prop :=
  ∀ s a t, r.read s = .ok (a, t) → Settled (fun s t => r.read s = .ok (a, t)) s t

/-- A reader that ends itself ends by the next octet all the more. -/
theorem EndsItself.byNext {r : Reader α} (h : r.EndsItself) : r.EndsByNext :=
  fun s a t read => (h s a t read).byNext

/-- The reader of texts ends itself. -/
theorem endsItself_text : text.EndsItself := by
  intro s a t h
  change readText s = _ at h
  unfold readText at h
  split at h
  · contradiction
  rename_i b rest found
  split at h
  · rename_i quote
    refine ((settled_skipSpace found).trans (settled_textAfterMark h)).imp ?_
    intro u v taken
    obtain ⟨w, again, chars⟩ := taken
    change readText u = _
    simp only [readText, again, quote, if_true]
    exact chars
  · contradiction

/-- A reader that ends itself does so whatever its value is made into. -/
theorem EndsItself.map {r : Reader α} (h : r.EndsItself) (f : α → β) : (r.map f).EndsItself := by
  intro s b t hmap
  obtain ⟨⟨a, u⟩, read, hu⟩ : ∃ taken, r.read s = .ok taken ∧ (f taken.1, taken.2) = (b, t) := by
    change (r.read s).map _ = _ at hmap
    cases read : r.read s with
    | error fault => rw [read] at hmap; contradiction
    | ok taken =>
      rw [read] at hmap
      exact ⟨taken, rfl, Except.ok.inj hmap⟩
  cases hu
  refine (h s a u read).imp fun v w again => ?_
  change (r.read v).map _ = _
  rw [again]
  rfl

/-! ## Fronts of documents -/

section Fronts

variable {r : Reader α} {a : α} {front : Bytes}

/-- Spaces at the front are passed over. -/
theorem skipSpace_append {spaces : Bytes} (h : skipSpace spaces = []) (rest : Bytes) :
    skipSpace (spaces ++ rest) = skipSpace rest := by
  induction spaces with
  | nil => rfl
  | cons b spaces ih =>
    cases hb : isSpace b with
    | true =>
      simp only [List.cons_append, skipSpace, hb, if_true] at h ⊢
      exact ih h
    | false =>
      rw [skipSpace_of_isSpace hb] at h
      contradiction

/-- A document is read as the value that it is read as at the front, if only spaces follow. -/
theorem decode_of_read {s t : Bytes} (h : r.read s = .ok (a, t)) :
    r.decode s = .ok a ↔ skipSpace t = [] := by
  rw [decode, h]
  cases ht : skipSpace t with
  | nil => simp [ht]
  | cons b rest => simp [ht]

/-- A document that is decoded is read from the front, with blanks behind. -/
theorem read_of_decode (h : r.decode front = .ok a) :
    ∃ t, r.read front = .ok (a, t) ∧ skipSpace t = [] := by
  cases read : r.read front with
  | error fault =>
    rw [decode, read] at h
    contradiction
  | ok taken =>
    obtain ⟨b, t⟩ := taken
    rw [decode, read] at h
    cases spaces : skipSpace t with
    | nil =>
      simp only [spaces] at h
      cases h
      exact ⟨t, rfl, spaces⟩
    | cons c rest =>
      simp only [spaces] at h
      contradiction

/-- A value at the front is decoded exactly if it is read there. -/
theorem decodeFront_eq_ok_iff {s : Bytes} : r.decodeFront s = .ok a ↔ ∃ t, r.read s = .ok (a, t) := by
  rw [decodeFront]
  cases r.read s with
  | error fault =>
    constructor
    · intro h
      cases h
    · intro taken
      obtain ⟨t, h⟩ := taken
      cases h
  | ok taken =>
    obtain ⟨b, t⟩ := taken
    constructor
    · intro h
      cases h
      exact ⟨t, rfl⟩
    · intro taken
      obtain ⟨u, h⟩ := taken
      cases h
      rfl

/-- A document with something behind it is read the same, and the rest is left. -/
theorem EndsItself.read_append (hr : r.EndsItself) (h : r.decode front = .ok a) (rest : Bytes) :
    ∃ t, r.read (front ++ rest) = .ok (a, t) ∧ skipSpace t = skipSpace rest := by
  obtain ⟨t, read, spaces⟩ := read_of_decode h
  obtain ⟨value, rfl, hvalue⟩ := hr front a t read
  refine ⟨t ++ rest, ?_, skipSpace_append spaces rest⟩
  rw [List.append_assoc]
  exact hvalue (t ++ rest)

/-- With something behind it a document stays one exactly if only spaces are behind it. -/
theorem EndsItself.decode_append (hr : r.EndsItself) (h : r.decode front = .ok a) (rest : Bytes) :
    r.decode (front ++ rest) = .ok a ↔ skipSpace rest = [] := by
  obtain ⟨t, read, spaces⟩ := hr.read_append h rest
  rw [decode_of_read read, spaces]

/-- A value is found at the front exactly if some front is a document of it. -/
theorem EndsItself.decodeFront_iff (hr : r.EndsItself) {s : Bytes} :
    r.decodeFront s = .ok a ↔ ∃ front rest, s = front ++ rest ∧ r.decode front = .ok a := by
  rw [decodeFront_eq_ok_iff]
  constructor
  · intro taken
    obtain ⟨t, read⟩ := taken
    obtain ⟨value, rfl, hvalue⟩ := hr s a t read
    have alone := hvalue []
    rw [List.append_nil] at alone
    exact ⟨value, t, rfl, (decode_of_read alone).mpr rfl⟩
  · intro taken
    obtain ⟨front, rest, rfl, h⟩ := taken
    obtain ⟨t, read, _⟩ := hr.read_append h rest
    exact ⟨t, read⟩

end Fronts

end Reader

/-! ## Names and brackets -/

/-- Looking for the next name is settled. -/
theorem settled_nextName {isFirst : Bool} {s t : Bytes} (h : nextName isFirst s = .ok (some t)) :
    Settled (fun s t => nextName isFirst s = .ok (some t)) s t := by
  unfold nextName at h
  split at h
  · contradiction
  rename_i b rest found
  split at h
  · cases h
  rename_i noClosing
  split at h
  · rename_i first
    split at h
    · rename_i quote
      cases h
      refine (settled_skipSpace found).imp fun u v again => ?_
      simp only [nextName, again, first, quote, if_true]
      rfl
    · contradiction
  rename_i notFirst
  split at h
  · rename_i comma
    split at h
    · contradiction
    rename_i c more second
    split at h
    · rename_i quote
      cases h
      refine ((settled_skipSpace found).trans (settled_skipSpace second)).imp ?_
      intro u v taken
      obtain ⟨w, again, mark⟩ := taken
      simp only [nextName, again, notFirst, comma, mark, quote, if_true]
      rfl
    · split at h <;> contradiction
  · contradiction

/-- The members end exactly before a closing bracket. -/
theorem nextName_eq_none_iff {isFirst : Bool} {s : Bytes} :
    nextName isFirst s = .ok none ↔ ∃ t, skipSpace s = 0x7D :: t := by
  unfold nextName
  split
  · simp_all
  · rename_i b rest found
    by_cases hb : b = 0x7D
    · simp [hb, found]
    · simp only [hb, found, if_false]
      split
      · split <;> simp [hb]
      · split
        · split
          · simp [hb]
          · split
            · simp [hb]
            · split <;> simp [hb]
        · simp [hb]

/-- An object is closed exactly if its mark comes next. -/
theorem closeObject_eq_iff {s t : Bytes} : closeObject s = (t, none) ↔ skipSpace s = 0x7D :: t := by
  unfold closeObject
  split
  · simp_all
  · rename_i b rest found
    by_cases hb : b = 0x7D <;> simp [hb, found]

/-- Looking for the next element is settled by the next octet. -/
theorem settledByNext_nextElement {isFirst : Bool} {s t : Bytes}
    (h : nextElement isFirst s = .ok (some t)) :
    SettledByNext (fun s t => nextElement isFirst s = .ok (some t)) s t := by
  unfold nextElement at h
  split at h
  · contradiction
  rename_i b rest found
  split at h
  · cases h
  rename_i noClosing
  split at h
  · rename_i first
    cases h
    refine (settledByNext_skipSpace found).imp ?_
    intro u v taken
    obtain ⟨again, hv⟩ := taken
    obtain ⟨more, rfl⟩ := List.head?_eq_some_iff.mp hv
    simp only [nextElement, again, noClosing, first, if_true, if_false]
  rename_i notFirst
  split at h
  · rename_i comma
    split at h
    · contradiction
    rename_i c more second
    split at h
    · contradiction
    rename_i noEnd
    cases h
    refine ((settled_skipSpace found).byNext.trans (settledByNext_skipSpace second)).imp ?_
    intro u v taken
    obtain ⟨w, again, element, hv⟩ := taken
    obtain ⟨more, rfl⟩ := List.head?_eq_some_iff.mp hv
    simp only [nextElement, again, notFirst, comma, element, noEnd, if_true, if_false]
    rfl
  · contradiction

/-- The elements end exactly before a closing bracket. -/
theorem nextElement_eq_none_iff {isFirst : Bool} {s : Bytes} :
    nextElement isFirst s = .ok none ↔ ∃ t, skipSpace s = 0x5D :: t := by
  unfold nextElement
  split
  · simp_all
  · rename_i b rest found
    by_cases hb : b = 0x5D
    · simp [hb, found]
    · simp only [hb, found, if_false]
      split
      · simp [hb]
      · split
        · split
          · simp [hb]
          · split <;> simp [hb]
        · simp [hb]

/-- A list is closed exactly if its mark comes next. -/
theorem closeList_eq_iff {s t : Bytes} : closeList s = (t, none) ↔ skipSpace s = 0x5D :: t := by
  unfold closeList
  split
  · simp_all
  · rename_i b rest found
    by_cases hb : b = 0x5D
    · simp [hb, found]
    · by_cases hc : b = 0x2C <;> simp [hb, hc, found]

/-! ## Members in any order -/

section Members

variable {σ : Type} {members : List (Member σ)} {isFirst : Bool} {draft : σ} {s t u v : Bytes}
  {name : String}

/-- Reading the value of a member is settled by the next octet if reading the value alone is. -/
theorem Reader.EndsByNext.readMember {α : Type} {r : Reader α} (hr : r.EndsByNext) {a : α}
    (h : readMember r s = .ok (a, t)) :
    SettledByNext (fun s t => readMember r s = .ok (a, t)) s t := by
  unfold Json.readMember at h
  split at h
  · contradiction
  rename_i rest colon
  refine ((settled_skipColon colon).byNext.trans (hr rest a t h)).imp ?_
  intro b c taken
  obtain ⟨w, again, value⟩ := taken
  simp only [Json.readMember, again]
  exact value

/-- Passing over the value of a member is settled by the next octet. -/
theorem settledByNext_skipMember (h : skipMember s = .ok t) :
    SettledByNext (fun s t => skipMember s = .ok t) s t := by
  unfold skipMember at h
  split at h
  · contradiction
  rename_i rest colon
  refine ((settled_skipColon colon).byNext.trans (settledByNext_skipFrom h)).imp ?_
  intro b c taken
  obtain ⟨w, again, value⟩ := taken
  simp only [skipMember, again]
  exact value

/-- Before the closing bracket the members end, and the bracket is left. -/
theorem readMembers_closing (h : nextName isFirst s = .ok none) :
    readMembers members isFirst draft s = .ok (draft, s) := by
  rw [readMembers]
  split <;> simp_all

/-- Behind its name a member is read if the record has it, and passed over if not. -/
theorem readMembers_member (hn : nextName isFirst s = .ok (some t))
    (hk : textAfterMark t = .ok (name, u)) :
    readMembers members isFirst draft s =
      match members.find? (·.name = name) with
      | some member =>
        if member.isSet draft then .error (.before (closeObject u).1 (.duplicate name))
        else match readMember member.value u with
          | .error fault => .error (fault.inside (.member name))
          | .ok (change, v) => readMembers members false (change draft) v
      | none =>
        match skipMember u with
        | .error fault => .error (fault.inside (.member name))
        | .ok v => readMembers members false draft v := by
  conv => lhs; rw [readMembers]
  split
  · simp_all
  · simp_all
  · rename_i first
    rw [hn] at first
    cases first
    split
    · simp_all
    · rename_i named
      rw [hk] at named
      cases named
      cases members.find? (·.name = name) with
      | some member =>
        dsimp only
        cases readMember member.value u <;> rfl
      | none =>
        dsimp only
        cases skipMember u <;> rfl

/-- A member of the record is read into the draft. -/
theorem readMembers_known {member : Member σ} {change : σ → σ}
    (hn : nextName isFirst s = .ok (some t)) (hk : textAfterMark t = .ok (name, u))
    (known : members.find? (·.name = name) = some member) (unset : member.isSet draft = false)
    (hv : readMember member.value u = .ok (change, v)) :
    readMembers members isFirst draft s = readMembers members false (change draft) v := by
  rw [readMembers_member hn hk, known]
  simp only [unset, hv, Bool.false_eq_true, if_false]

/-- A member that the record does not have is passed over. -/
theorem readMembers_unknown (hn : nextName isFirst s = .ok (some t))
    (hk : textAfterMark t = .ok (name, u)) (unknown : members.find? (·.name = name) = none)
    (hv : skipMember u = .ok v) :
    readMembers members isFirst draft s = readMembers members false draft v := by
  rw [readMembers_member hn hk, unknown, hv]

/-- Members with the closing bracket behind them end themselves. -/
theorem settled_readMembers (hm : ∀ member ∈ members, member.value.EndsByNext) {d : σ}
    (h : readMembers members isFirst draft s = .ok (d, u)) (closing : skipSpace u = 0x7D :: t) :
    Settled (fun s t => ∃ u, readMembers members isFirst draft s = .ok (d, u) ∧
      skipSpace u = 0x7D :: t) s t := by
  have shorter := length_of_skipSpace closing
  fun_induction readMembers members isFirst draft s with
  | case1 | case3 | case4 | case5 | case7 => contradiction
  | case2 isFirst draft s none =>
    cases h
    refine (settled_skipSpace closing).imp fun a b again => ?_
    exact ⟨a, readMembers_closing (nextName_eq_none_iff.mpr ⟨b, again⟩), again⟩
  | case6 isFirst draft s w hn name x hk member known unset change y hv ih =>
    have hmember := hm member (List.mem_of_find?_eq_some known)
    have before := ((settled_nextName hn).trans (settled_textAfterMark hk)).byNext.trans
      (hmember.readMember hv)
    have left := readMembers_length h
    refine (before.trans_settled (ih h) (by omega)).imp ?_
    intro a b taken
    obtain ⟨c, ⟨d, ⟨e, next, text⟩, value⟩, f, later, bracket⟩ := taken
    exact ⟨f, (readMembers_known next text known (by simpa using unset) value).trans later, bracket⟩
  | case8 isFirst draft s w hn name x hk unknown y hv ih =>
    have before := ((settled_nextName hn).trans (settled_textAfterMark hk)).byNext.trans
      (settledByNext_skipMember hv)
    have left := readMembers_length h
    refine (before.trans_settled (ih h) (by omega)).imp ?_
    intro a b taken
    obtain ⟨c, ⟨d, ⟨e, next, text⟩, value⟩, f, later, bracket⟩ := taken
    exact ⟨f, (readMembers_unknown next text unknown value).trans later, bracket⟩

end Members

/-- Fields with the closing bracket behind them end themselves. -/
theorem settled_readFields {σ : Type} {members : List (Member σ)}
    (hm : ∀ member ∈ members, member.value.EndsByNext) {index : Nat} {draft d : σ} {s t u : Bytes}
    (h : readFields index draft s members = .ok (d, u)) (closing : skipSpace u = 0x5D :: t) :
    Settled (fun s t => ∃ u, readFields index draft s members = .ok (d, u) ∧
      skipSpace u = 0x5D :: t) s t := by
  have shorter := length_of_skipSpace closing
  induction members generalizing index draft s with
  | nil =>
    cases h
    exact (settled_skipSpace closing).imp fun a b again => ⟨a, rfl, again⟩
  | cons member members ih =>
    rw [List.forall_mem_cons] at hm
    simp only [readFields] at h
    split at h
    · contradiction
    · rename_i none
      cases h
      refine (settled_skipSpace closing).imp fun a b again => ⟨a, ?_, again⟩
      simp only [readFields, nextElement_eq_none_iff.mpr ⟨b, again⟩]
    · rename_i w next
      split at h
      · contradiction
      rename_i change x value
      have before := (settledByNext_nextElement next).trans (hm.1 _ _ _ value)
      have left := readFields_length h
      refine (before.trans_settled (ih hm.2 h) (by omega)).imp ?_
      intro a b taken
      obtain ⟨c, ⟨e, hnext, hvalue⟩, f, later, bracket⟩ := taken
      refine ⟨f, ?_, bracket⟩
      simp only [readFields, hnext, hvalue]
      exact later

/-! ## Records -/

/-- A result that is closed is good exactly if both the result and the closing are. -/
theorem closed_eq_ok_iff {β : Type} {result : Except Reason β} {close : Bytes × Option Fault} {b : β}
    {t : Bytes} : closed result close = .ok (b, t) ↔ result = .ok b ∧ close = (t, none) := by
  obtain ⟨rest, fault⟩ := close
  cases result with
  | error reason => simp [closed]
  | ok record => cases fault <;> simp [closed]

/-- A record ends itself if the values of its members end by the next octet. -/
theorem Shape.endsItself {σ α : Type} (shape : Shape σ α)
    (hm : ∀ member ∈ shape.members, member.value.EndsByNext) : shape.reader.EndsItself := by
  intro s a t h
  change shape.readRecord s = _ at h
  unfold readRecord at h
  split at h
  · contradiction
  rename_i b rest found
  split at h
  · rename_i list
    split at h
    · contradiction
    rename_i draft u fields
    obtain ⟨made, closing⟩ := closed_eq_ok_iff.mp h
    refine ((settled_skipSpace found).trans
      (settled_readFields hm fields (closeList_eq_iff.mp closing))).imp ?_
    intro v w taken
    obtain ⟨x, again, y, hfields, bracket⟩ := taken
    change shape.readRecord v = _
    simp only [readRecord, again, list, if_true, hfields]
    exact closed_eq_ok_iff.mpr ⟨made, closeList_eq_iff.mpr bracket⟩
  rename_i noList
  split at h
  · rename_i object
    split at h
    · contradiction
    rename_i draft u hmembers
    obtain ⟨made, closing⟩ := closed_eq_ok_iff.mp h
    refine ((settled_skipSpace found).trans
      (settled_readMembers hm hmembers (closeObject_eq_iff.mp closing))).imp ?_
    intro v w taken
    obtain ⟨x, again, y, later, bracket⟩ := taken
    change shape.readRecord v = _
    simp only [readRecord, again, object, if_true, later]
    exact closed_eq_ok_iff.mpr ⟨made, closeObject_eq_iff.mpr bracket⟩
  · contradiction

end ChatGateway.Json
