import BearerClient.Json.Printer
import BearerClient.Proofs.JsonReading

/-!
# Writing JSON and reading it back

The compact form of a value without doubles is read as that value, if it nests no deeper than a
reader goes. Each part is read as it was written whatever follows it, so that the parts of arrays
and objects are read one after the other; only a number could be taken to go on, and what follows a
value is never part of a number. The main statements are `readValue_chars` and `parse?_compact`.
-/

namespace BearerClient.Json

/-! ## Strings -/

theorem hexDigitValue?_hexDigit : ∀ n < 16, Text.hexDigitValue? (hexDigit n) = some n := by
  decide

/-- What is written for a character is read as that character. -/
theorem readStringFrom_escapeChar (c : Char) (rest : List Char) :
    readStringFrom .text (escapeChar c ++ rest) =
      (readStringFrom .text rest).map fun (text, rest) => (c :: text, rest) := by
  unfold escapeChar
  split
  · simp [readStringFrom, StringState.move?]
  · simp [readStringFrom, StringState.move?]
  · simp [readStringFrom, StringState.move?]
  · simp [readStringFrom, StringState.move?]
  · simp [readStringFrom, StringState.move?]
  · simp [readStringFrom, StringState.move?]
  · simp [readStringFrom, StringState.move?]
  · split
    · rename_i hcontrol
      have hhigh := hexDigitValue?_hexDigit (c.toNat / 16) (by omega)
      have hlow := hexDigitValue?_hexDigit (c.toNat % 16) (by omega)
      have hvalue : c.toNat / 16 * 16 + c.toNat % 16 = c.toNat := by omega
      have hzero : Text.hexDigitValue? '0' = some 0 := by decide
      have hmove : codeMove none c.toNat = some (.emit c) := by
        have hhigh : ¬ 0xD800 ≤ c.toNat := by omega
        have hlow : ¬ 0xDC00 ≤ c.toNat := by omega
        simp [codeMove, hhigh, hlow, Char.ofNat_toNat]
      simp [readStringFrom, StringState.move?, hhigh, hlow, hvalue, hzero, hmove]
    · rename_i hprintable
      have hmove : StringState.text.move? c = some (.emit c) := by
        unfold StringState.move?
        split <;> simp_all
      simp [readStringFrom, hmove]

/-! ## Numbers -/

theorem digitsValue_toDigits (n : Nat) : digitsValue (Nat.toDigits 10 n) = n := by
  have hvalue : Nat.ofDigitChars 10 (Nat.toDigits 10 n) 0 = n := Nat.ofDigitChars_ten_toDigits
  rw [Nat.ofDigitChars_eq_foldl] at hvalue
  simp only [digitsValue, digitValue, Nat.mul_comm _ 10]
  exact hvalue

theorem exists_toDigits_eq_cons (n : Nat) :
    ∃ c cs, Nat.toDigits 10 n = c :: cs ∧ c.isDigit = true := by
  cases hdigits : Nat.toDigits 10 n with
  | nil => exact absurd hdigits Nat.toDigits_ne_nil
  | cons c cs =>
    have hmem : c ∈ Nat.toDigits 10 n := by
      rw [hdigits]
      exact List.mem_cons_self
    exact ⟨c, cs, rfl, Nat.isDigit_of_mem_toDigits (by decide) (by decide) hmem⟩

/-- Nothing but zero is written with a zero in front. -/
theorem toDigits_ne_zero_cons (n : Nat) (c : Char) (cs : List Char) :
    Nat.toDigits 10 n ≠ '0' :: c :: cs := by
  induction n using Nat.strongRecOn generalizing c cs with
  | _ n ih =>
    intro h
    rw [Nat.toDigits_eq_if (by decide)] at h
    split at h
    · exact absurd (List.cons.inj h).2 (List.cons_ne_nil c cs).symm
    · -- The zero is in front of the digits of `n / 10` too, which are then its only one.
      rename_i hlarge
      obtain ⟨first, rest, hfront, -⟩ := exists_toDigits_eq_cons (n / 10)
      rw [hfront, List.cons_append] at h
      obtain ⟨rfl, hrest⟩ := List.cons.inj h
      cases rest with
      | nil =>
        have hvalue := digitsValue_toDigits (n / 10)
        rw [hfront] at hvalue
        have hzero : digitsValue ['0'] = 0 := rfl
        omega
      | cons second rest => exact ih (n / 10) (by omega) second rest hfront

/-- A text that may follow a value: the end, a comma, a bracket or a brace. -/
def IsBehindValue (rest : List Char) : Prop :=
  ∀ c ∈ rest.head?, c = ',' ∨ c = ']' ∨ c = '\x7d'

theorem IsBehindValue.nil : IsBehindValue [] := by
  intro c h
  cases h

theorem isDigit_of_isBehindValue {rest : List Char} (h : IsBehindValue rest) :
    rest.takeWhile Char.isDigit = [] ∧ rest.dropWhile Char.isDigit = rest := by
  cases rest with
  | nil => exact ⟨rfl, rfl⟩
  | cons c cs =>
    have hc : c.isDigit = false := by
      rcases h c rfl with rfl | rfl | rfl <;> rfl
    exact ⟨List.takeWhile_cons_of_neg (by simp [hc]), List.dropWhile_cons_of_neg (by simp [hc])⟩

theorem wholePart?_toDigits (n : Nat) {rest : List Char} (h : IsBehindValue rest) :
    wholePart? (Nat.toDigits 10 n ++ rest) = some (Nat.toDigits 10 n, rest) := by
  obtain ⟨htake, hdrop⟩ := isDigit_of_isBehindValue h
  have hdigits : ∀ c ∈ Nat.toDigits 10 n, c.isDigit = true := fun c hc =>
    Nat.isDigit_of_mem_toDigits (by decide) (by decide) hc
  have hread : digits? (Nat.toDigits 10 n ++ rest) = some (Nat.toDigits 10 n, rest) := by
    rw [digits?, List.takeWhile_append_of_pos hdigits, List.dropWhile_append_of_pos hdigits, htake,
      hdrop, List.append_nil]
    simp [Nat.toDigits_ne_nil]
  rw [wholePart?, hread]
  simp only [Option.bind_eq_bind, Option.bind_some]
  split
  · rename_i c cs hzero
    exact absurd hzero (toDigits_ne_zero_cons n _ _)
  · rfl

theorem fractionPart?_of_isBehindValue {rest : List Char} (h : IsBehindValue rest) :
    fractionPart? rest = some (none, rest) := by
  unfold fractionPart?
  split
  · rename_i cs
    have hpoint := h '.' rfl
    simp at hpoint
  · rfl

theorem exponentPart?_of_isBehindValue {rest : List Char} (h : IsBehindValue rest) :
    exponentPart? rest = some (none, rest) := by
  unfold exponentPart?
  split
  · rename_i c cs
    rw [if_neg]
    rcases h c rfl with rfl | rfl | rfl <;> decide
  · rfl

theorem readNumber_intChars {i : Int} (hlow : -0x8000000000000000 ≤ i) (hhigh : i ≤ maxWord)
    {rest : List Char} (h : IsBehindValue rest) :
    readNumber (intChars i ++ rest) = some (.int i, rest) := by
  have hwhole := wholePart?_toDigits i.natAbs h
  have hfraction := fractionPart?_of_isBehindValue h
  have hexponent := exponentPart?_of_isBehindValue h
  unfold intChars
  split
  · rename_i hnegative
    have hvalue : (NumberText.mk true (Nat.toDigits 10 i.natAbs) none none).value? =
        some (.int i) := by
      have hrange : 0 < i.natAbs ∧ i.natAbs ≤ 0x8000000000000000 := by omega
      simp only [NumberText.value?, digitsValue_toDigits, if_pos hrange]
      rw [show -(i.natAbs : Int) = i by omega]
    simp [readNumber, hwhole, hfraction, hexponent, hvalue]
  · rename_i hpositive
    have hvalue : (NumberText.mk false (Nat.toDigits 10 i.natAbs) none none).value? =
        some (.int i) := by
      have hrange : i.natAbs ≤ maxWord := by omega
      simp only [NumberText.value?, digitsValue_toDigits, if_pos hrange]
      rw [show (i.natAbs : Int) = i by omega]
    have hsign : ∀ cs, Nat.toDigits 10 i.natAbs ++ rest ≠ '-' :: cs := by
      intro cs hcs
      obtain ⟨c, digits, hdigits, hc⟩ := exists_toDigits_eq_cons i.natAbs
      rw [hdigits, List.cons_append] at hcs
      obtain ⟨rfl, -⟩ := List.cons.inj hcs
      cases hc
    unfold readNumber
    split
    rename_i negative cs hsplit
    split at hsplit
    · rename_i cs hcs
      exact absurd hcs (hsign cs)
    · cases hsplit
      simp [hwhole, hfraction, hexponent, hvalue]

/-! ## Values -/

/-- A value in which no number is a double. -/
inductive IsExact : Json → Prop where
  /-- The value `null`. -/
  | null : IsExact .null
  /-- A truth value. -/
  | bool (value : Bool) : IsExact (.bool value)
  /-- An integer. -/
  | int (value : Int) : IsExact (.int value)
  /-- A text. -/
  | str (value : String) : IsExact (.str value)
  /-- A sequence of such values. -/
  | arr {items : List Json} (hitems : ∀ item ∈ items, IsExact item) : IsExact (.arr items)
  /-- Members with such values. -/
  | obj {members : List (String × Json)} (hmembers : ∀ member ∈ members, IsExact member.2) :
      IsExact (.obj members)

theorem skipBlanks_cons {c : Char} (h : isJsonBlank c = false) (cs : List Char) :
    skipBlanks (c :: cs) = c :: cs :=
  List.dropWhile_cons_of_neg (by simp [h])

/-- A character with which a value may begin that is neither an array nor an object. -/
def IsLeafStart (c : Char) : Prop := isJsonBlank c = false ∧ c ≠ '[' ∧ c ≠ '\x7b'

theorem readValue_of_isLeafStart {c : Char} (h : IsLeafStart c) (depth : Nat) (cs : List Char) :
    readValue depth (c :: cs) = readLeaf (c :: cs) := by
  obtain ⟨hblank, harray, hobject⟩ := h
  unfold readValue
  rw [skipBlanks_cons hblank]
  split
  · rename_i heq
    exact absurd (List.cons.inj heq).1 harray
  · rename_i heq
    exact absurd (List.cons.inj heq).1 hobject
  · rfl

theorem readString_stringChars (s : String) (rest : List Char) :
    readString (s.toList.flatMap escapeChar ++ '"' :: rest) = some (s, rest) := by
  have hread : ∀ cs : List Char,
      readStringFrom .text (cs.flatMap escapeChar ++ '"' :: rest) = some (cs, rest) := by
    intro cs
    induction cs with
    | nil => rfl
    | cons c cs ih =>
      rw [List.flatMap_cons, List.append_assoc, readStringFrom_escapeChar, ih]
      rfl
  simp [readString, hread]

theorem exists_intChars_eq_cons (i : Int) : ∃ c cs, intChars i = c :: cs ∧
    (c.isDigit = true ∨ c = '-') := by
  unfold intChars
  split
  · exact ⟨_, _, rfl, .inr rfl⟩
  · obtain ⟨c, digits, hdigits, hc⟩ := exists_toDigits_eq_cons i.natAbs
    exact ⟨c, digits, hdigits, .inl hc⟩

/-- The first character of a number is none of those with which another value begins or ends. -/
theorem ne_of_isDigit_or {c : Char} (hc : c.isDigit = true ∨ c = '-') {d : Char}
    (hd : d.isDigit = false) (hminus : d ≠ '-') : c ≠ d := by
  rintro rfl
  rcases hc with hc | hc
  · rw [hd] at hc
    cases hc
  · exact hminus hc

theorem isJsonBlank_of_isDigit_or {c : Char} (hc : c.isDigit = true ∨ c = '-') :
    isJsonBlank c = false := by
  have hne := fun d : Char => ne_of_isDigit_or (d := d) hc
  simp [isJsonBlank, hne ' ' rfl (by decide), hne '\n' rfl (by decide), hne '\r' rfl (by decide),
    hne '\t' rfl (by decide)]

theorem readValue_intChars {i : Int} (hlow : -0x8000000000000000 ≤ i) (hhigh : i ≤ maxWord)
    {rest : List Char} (h : IsBehindValue rest) (depth : Nat) :
    readValue depth (intChars i ++ rest) = some (.int i, rest) := by
  have hnumber := readNumber_intChars hlow hhigh h
  obtain ⟨c, cs, hchars, hc⟩ := exists_intChars_eq_cons i
  have hne := fun d : Char => ne_of_isDigit_or (d := d) hc
  rw [hchars, List.cons_append] at hnumber ⊢
  rw [readValue_of_isLeafStart
    ⟨isJsonBlank_of_isDigit_or hc, hne _ rfl (by decide), hne _ rfl (by decide)⟩, ← hnumber]
  unfold readLeaf
  split
  · exact absurd (List.cons.inj ‹_›).1 (hne _ rfl (by decide))
  · exact absurd (List.cons.inj ‹_›).1 (hne _ rfl (by decide))
  · exact absurd (List.cons.inj ‹_›).1 (hne _ rfl (by decide))
  · exact absurd (List.cons.inj ‹_›).1 (hne _ rfl (by decide))
  · rfl

theorem readKey_stringChars (key : String) (rest : List Char) :
    readKey (stringChars key ++ ':' :: rest) = some (key, rest) := by
  have hread := readString_stringChars key (':' :: rest)
  have hquote : skipBlanks (stringChars key ++ ':' :: rest) =
      '"' :: (key.toList.flatMap escapeChar ++ '"' :: ':' :: rest) := by
    simp [stringChars, skipBlanks, isJsonBlank]
  have hcolon : skipBlanks (':' :: rest) = ':' :: rest := skipBlanks_cons (by decide) rest
  simp [readKey, hquote, hread, hcolon]

theorem readValue_bracket (depth : Nat) (cs : List Char) :
    readValue (depth + 1) ('[' :: cs) = readArray (readValue depth) cs := by
  unfold readValue
  rw [skipBlanks_cons (by decide)]
  rfl

theorem readValue_brace (depth : Nat) (cs : List Char) :
    readValue (depth + 1) ('\x7b' :: cs) = readObject (readValue depth) cs := by
  unfold readValue
  rw [skipBlanks_cons (by decide)]
  rfl

section Containers

variable {read : List Char → Option (Json × List Char)}

/-- Items that are read one by one are read together, up to the closing bracket. -/
theorem readItems_chars {item : Json} {items : List Json}
    (hread : ∀ value ∈ item :: items, ∀ rest, IsBehindValue rest →
      read (value.chars ++ rest) = some (value, rest))
    {bound : Nat} (hbound : items.length < bound) (rest : List Char) :
    readItems read bound (item.chars ++ (itemsChars items ++ rest)) =
      some (item :: items, rest) := by
  obtain ⟨bound, rfl⟩ := Nat.exists_eq_succ_of_ne_zero (Nat.ne_of_gt (Nat.zero_lt_of_lt hbound))
  have hitem := hread item List.mem_cons_self
  induction items generalizing item bound with
  | nil =>
    -- What stands behind an item, here the bracket and else a comma, ends a number.
    have hone := hitem (']' :: rest) (by simp [IsBehindValue])
    have hclose : skipBlanks (']' :: rest) = ']' :: rest := skipBlanks_cons (by decide) rest
    simp [readItems, itemsChars, hone, hclose]
  | cons second items ih =>
    have hone := hitem (',' :: (second.chars ++ (itemsChars items ++ rest)))
      (by simp [IsBehindValue])
    have hcomma := skipBlanks_cons (show isJsonBlank ',' = false by decide)
      (second.chars ++ (itemsChars items ++ rest))
    obtain ⟨bound, rfl⟩ : ∃ n, bound = n + 1 :=
      ⟨bound - 1, by simp only [List.length_cons] at hbound; omega⟩
    have hmore := ih (fun value hvalue => hread value (List.mem_cons_of_mem _ hvalue))
      bound (by simp only [List.length_cons] at hbound; omega)
      (hread second (List.mem_cons_of_mem _ List.mem_cons_self))
    rw [readItems, itemsChars, List.cons_append, List.append_assoc, hone]
    simp [hcomma, hmore]

/-- Members whose values are read one by one are read together, up to the closing brace. -/
theorem readMembers_chars {member : String × Json} {members : List (String × Json)}
    (hread : ∀ m ∈ member :: members, ∀ rest, IsBehindValue rest →
      read (m.2.chars ++ rest) = some (m.2, rest))
    {bound : Nat} (hbound : members.length < bound) (rest : List Char) :
    readMembers read bound
        (stringChars member.1 ++ ':' :: (member.2.chars ++ (membersChars members ++ rest))) =
      some (member :: members, rest) := by
  obtain ⟨bound, rfl⟩ := Nat.exists_eq_succ_of_ne_zero (Nat.ne_of_gt (Nat.zero_lt_of_lt hbound))
  have hmember := hread member List.mem_cons_self
  induction members generalizing member bound with
  | nil =>
    have hone := hmember ('\x7d' :: rest) (by simp [IsBehindValue])
    have hclose : skipBlanks ('\x7d' :: rest) = '\x7d' :: rest := skipBlanks_cons (by decide) rest
    simp [readMembers, membersChars, readKey_stringChars, hone, hclose]
  | cons second members ih =>
    obtain ⟨key, value⟩ := second
    have hone := hmember
      (',' :: (stringChars key ++ ':' :: (value.chars ++ (membersChars members ++ rest))))
      (by simp [IsBehindValue])
    have hcomma := skipBlanks_cons (show isJsonBlank ',' = false by decide)
      (stringChars key ++ ':' :: (value.chars ++ (membersChars members ++ rest)))
    obtain ⟨bound, rfl⟩ : ∃ n, bound = n + 1 :=
      ⟨bound - 1, by simp only [List.length_cons] at hbound; omega⟩
    have hmore := ih (fun m hm => hread m (List.mem_cons_of_mem _ hm))
      bound (by simp only [List.length_cons] at hbound; omega)
      (hread (key, value) (List.mem_cons_of_mem _ List.mem_cons_self))
    rw [readMembers, readKey_stringChars]
    simp [membersChars, hone, hcomma, hmore]

theorem readArray_of_ne {c : Char} (hblank : isJsonBlank c = false) (hne : c ≠ ']')
    (cs : List Char) : readArray read (c :: cs) =
      (readItems read (c :: cs).length (c :: cs)).map fun (items, cs) => (.arr items, cs) := by
  unfold readArray
  rw [skipBlanks_cons hblank]
  split
  · exact absurd (List.cons.inj ‹_›).1 hne
  · rfl

theorem readObject_of_ne {c : Char} (hblank : isJsonBlank c = false) (hne : c ≠ '\x7d')
    (cs : List Char) : readObject read (c :: cs) =
      (readMembers read (c :: cs).length (c :: cs)).map
        fun (members, cs) => (.ofMembers members, cs) := by
  unfold readObject
  rw [skipBlanks_cons hblank]
  split
  · exact absurd (List.cons.inj ‹_›).1 hne
  · rfl

end Containers

/-- The text of an exact value has a first character, which is neither a blank nor a closing
bracket. -/
theorem exists_chars_eq_cons {v : Json} (h : v.IsExact) :
    ∃ c cs, v.chars = c :: cs ∧ isJsonBlank c = false ∧ c ≠ ']' := by
  cases h with
  | null => exact ⟨_, _, rfl, by decide, by decide⟩
  | bool b =>
    cases b with
    | true => exact ⟨_, _, rfl, by decide, by decide⟩
    | false => exact ⟨_, _, rfl, by decide, by decide⟩
  | int i =>
    obtain ⟨c, cs, hchars, hc⟩ := exists_intChars_eq_cons i
    exact ⟨c, cs, by rw [chars]; exact hchars, isJsonBlank_of_isDigit_or hc,
      ne_of_isDigit_or hc rfl (by decide)⟩
  | str s => exact ⟨_, _, by rw [chars]; rfl, by decide, by decide⟩
  | @arr items hitems =>
    cases items with
    | nil => exact ⟨_, _, by rw [chars], by decide, by decide⟩
    | cons item items => exact ⟨_, _, by rw [chars], by decide, by decide⟩
  | @obj members hmembers =>
    cases members with
    | nil => exact ⟨_, _, by rw [chars], by decide, by decide⟩
    | cons member members => exact ⟨_, _, by rw [chars], by decide, by decide⟩

theorem length_lt_itemsChars (items : List Json) : items.length < (itemsChars items).length := by
  induction items with
  | nil => simp [itemsChars]
  | cons item items ih => simp [itemsChars]; omega

theorem length_lt_membersChars (members : List (String × Json)) :
    members.length < (membersChars members).length := by
  induction members with
  | nil => simp [membersChars]
  | cons member members ih =>
    obtain ⟨key, value⟩ := member
    simp [membersChars]
    omega

/-- An array is read as it was written if its items are. -/
theorem readValue_arrayChars {depth : Nat} {items : List Json}
    (hread : ∀ item ∈ items, ∀ rest, IsBehindValue rest →
      readValue depth (item.chars ++ rest) = some (item, rest))
    (hexact : ∀ item ∈ items, item.IsExact) (rest : List Char) :
    readValue (depth + 1) ((Json.arr items).chars ++ rest) = some (.arr items, rest) := by
  cases items with
  | nil =>
    rw [chars, List.cons_append, readValue_bracket]
    simp [readArray, skipBlanks, isJsonBlank]
  | cons item items =>
    obtain ⟨c, cs, hchars, hblank, hne⟩ := exists_chars_eq_cons (hexact item List.mem_cons_self)
    have hbound : items.length < (item.chars ++ (itemsChars items ++ rest)).length := by
      have hlt := length_lt_itemsChars items
      simp only [List.length_append]
      omega
    have hall := readItems_chars hread hbound rest
    rw [chars, List.cons_append, List.append_assoc, readValue_bracket]
    rw [hchars, List.cons_append] at hall ⊢
    rw [readArray_of_ne hblank hne, hall]
    rfl

/-- An object is read as it was written if the values of its members are. -/
theorem readValue_objectChars {depth : Nat} {members : List (String × Json)}
    (hread : ∀ m ∈ members, ∀ rest, IsBehindValue rest →
      readValue depth (m.2.chars ++ rest) = some (m.2, rest))
    (hsorted : members.Pairwise fun a b => a.1 < b.1) (rest : List Char) :
    readValue (depth + 1) ((Json.obj members).chars ++ rest) = some (.obj members, rest) := by
  cases members with
  | nil =>
    rw [chars, List.cons_append, readValue_brace]
    simp [readObject, skipBlanks, isJsonBlank]
  | cons member members =>
    obtain ⟨key, value⟩ := member
    have hbound : members.length <
        (stringChars key ++ ':' :: (value.chars ++ (membersChars members ++ rest))).length := by
      have hlt := length_lt_membersChars members
      simp only [List.length_append, List.length_cons]
      omega
    have hall := readMembers_chars hread hbound rest
    rw [chars, List.cons_append, List.append_assoc, List.cons_append, List.append_assoc,
      readValue_brace]
    rw [stringChars, List.cons_append, List.cons_append] at hall ⊢
    -- The members are in order, so collecting them again leaves them as they are.
    rw [readObject_of_ne (by decide) (by decide), hall, ← ofMembers_of_sorted hsorted]
    rfl

/-- The text of an exact value is read as that value, whatever may follow it. -/
theorem readValue_chars {depth : Nat} {v : Json} (hfits : v.Fits depth) (hexact : v.IsExact)
    {rest : List Char} (hrest : IsBehindValue rest) :
    readValue depth (v.chars ++ rest) = some (v, rest) := by
  induction hfits generalizing rest with
  | null =>
    rw [chars, List.cons_append, readValue_of_isLeafStart (by simp [IsLeafStart, isJsonBlank])]
    rfl
  | bool b =>
    cases b with
    | true =>
      rw [chars, List.cons_append, readValue_of_isLeafStart (by simp [IsLeafStart, isJsonBlank])]
      rfl
    | false =>
      rw [chars, List.cons_append, readValue_of_isLeafStart (by simp [IsLeafStart, isJsonBlank])]
      rfl
  | int hlow hhigh =>
    rw [chars]
    exact readValue_intChars hlow hhigh hrest _
  | float x => cases hexact
  | str s =>
    rw [chars, stringChars, List.cons_append, List.cons_append,
      readValue_of_isLeafStart (by simp [IsLeafStart, isJsonBlank])]
    have hread := readString_stringChars s rest
    simp [readLeaf, hread]
  | arr hitems ih =>
    cases hexact with
    | arr hexact =>
      exact readValue_arrayChars
        (fun item hitem _ hrest => ih item hitem (hexact item hitem) hrest) hexact rest
  | obj hsorted hmembers ih =>
    cases hexact with
    | obj hexact =>
      exact readValue_objectChars (fun m hm _ hrest => ih m hm (hexact m hm) hrest) hsorted rest

/-- The compact form of an exact value is a text of that value. -/
theorem parse?_compact {v : Json} (hfits : v.Fits maxDepth) (hexact : v.IsExact) :
    parse? v.compact = some v := by
  have hread := readValue_chars hfits hexact IsBehindValue.nil
  rw [List.append_nil] at hread
  rw [parse?, compact, String.toList_ofList, hread]
  rfl

theorem parseBytes?_compact {v : Json} (hfits : v.Fits maxDepth) (hexact : v.IsExact) :
    parseBytes? v.compact.toUTF8 = some v := by
  rw [parseBytes?_toUTF8, parse?_compact hfits hexact]

end BearerClient.Json
