import BearerClient.Proofs.JsonRoundTrip
import BearerClient.Session

/-!
# What a displayed session shows

Of a token with more than eight characters a displayed session shows how it begins, and nothing of
what follows. All else it shows: two sessions are displayed alike exactly if they differ at most
behind the eighth character of tokens that both are longer (`display_hides_tails`). One half of this
is what `redact` does. For the other half a displayed session has to tell its fields apart, and it
does because a quoted text ends in a place that cannot be mistaken: the values are written
self-delimiting, from the hexadecimal digits of an escape up to a whole field.
-/

namespace BearerClient

namespace Text

/-! ## Self-delimiting texts -/

/-- Values are written so that each can be told from whatever is written behind it. -/
def IsSelfDelimiting {α : Type} (write : α → List Char) : Prop :=
  ∀ ⦃a b : α⦄ ⦃rest rest' : List Char⦄, write a ++ rest = write b ++ rest' → a = b ∧ rest = rest'

/-- Many values are written one after the other, with a character at the end with which none of them
begins. -/
theorem IsSelfDelimiting.many {α : Type} {write : α → List Char} (h : IsSelfDelimiting write)
    {stop : Char} (hstop : ∀ a, ∃ c tail, write a = c :: tail ∧ c ≠ stop) :
    IsSelfDelimiting fun values : List α => values.flatMap write ++ [stop] := by
  intro values values' rest rest' heq
  simp only [List.append_assoc, List.singleton_append] at heq
  induction values generalizing values' with
  | nil =>
    cases values' with
    | nil => exact ⟨rfl, (List.cons.inj heq).2⟩
    | cons b values' =>
      obtain ⟨c, tail, hwrite, hne⟩ := hstop b
      rw [List.flatMap_cons, hwrite] at heq
      have hhead : stop = c := (List.cons.inj heq).1
      exact absurd hhead.symm hne
  | cons a values ih =>
    cases values' with
    | nil =>
      obtain ⟨c, tail, hwrite, hne⟩ := hstop a
      rw [List.flatMap_cons, hwrite] at heq
      have hhead : c = stop := (List.cons.inj heq).1
      exact absurd hhead hne
    | cons b values' =>
      simp only [List.flatMap_cons, List.append_assoc] at heq
      obtain ⟨rfl, htail⟩ := h heq
      obtain ⟨rfl, hrest⟩ := ih htail
      exact ⟨rfl, hrest⟩

/-- Two texts end at the same place if neither goes on beyond the character that stops them. -/
theorem eq_of_append_stop {stop : Char} {front front' rest rest' : List Char} (h : stop ∉ front)
    (h' : stop ∉ front') (heq : front ++ stop :: rest = front' ++ stop :: rest') :
    front = front' ∧ rest = rest' := by
  have htake : ∀ {front rest : List Char}, stop ∉ front →
      (front ++ stop :: rest).takeWhile (· ≠ stop) = front := by
    intro front rest hnot
    have hfront : ∀ c ∈ front, decide (c ≠ stop) = true := by
      intro c hmem
      have hne : c ≠ stop := fun hc => hnot (hc ▸ hmem)
      exact decide_eq_true hne
    rw [List.takeWhile_append_of_pos hfront]
    simp
  have hfront : front = front' := by rw [← htake h, heq, htake h']
  subst hfront
  exact ⟨rfl, (List.cons.inj (List.append_cancel_left heq)).2⟩

/-! ## Hexadecimal numbers -/

theorem hexDigitValue?_digitChar {d : Nat} (h : d < 16) :
    hexDigitValue? (Nat.digitChar d) = some d := Json.hexDigitValue?_hexDigit d h

/-- The digits of a number are read as that number. -/
theorem hexNumber?_hexDigits (n : Nat) : hexNumber? (hexDigits n) = some n := by
  induction n using Nat.strongRecOn with
  | ind n ih =>
    unfold hexDigits
    rw [Nat.toDigits_eq_if (by decide)]
    split
    · rename_i hlt
      simp [hexNumber?, hexDigitValue?_digitChar hlt]
    · rename_i hge
      have hfront : hexNumber? (Nat.toDigits 16 (n / 16)) = some (n / 16) := ih (n / 16) (by omega)
      have hlast := hexDigitValue?_digitChar (d := n % 16) (by omega)
      have hvalue : n / 16 * 16 + n % 16 = n := by omega
      unfold hexNumber? at hfront ⊢
      rw [List.foldlM_append, hfront]
      simp [hlast, hvalue]

theorem isSome_of_mem_hexDigits {n : Nat} {c : Char} (h : c ∈ hexDigits n) :
    (hexDigitValue? c).isSome = true := by
  induction n using Nat.strongRecOn with
  | ind n ih =>
    unfold hexDigits at h
    rw [Nat.toDigits_eq_if (by decide)] at h
    split at h
    · rename_i hlt
      obtain rfl := List.mem_singleton.mp h
      rw [hexDigitValue?_digitChar hlt]
      rfl
    · rcases List.mem_append.mp h with hfront | hlast
      · exact ih (n / 16) (by omega) hfront
      · obtain rfl := List.mem_singleton.mp hlast
        rw [hexDigitValue?_digitChar (by omega)]
        rfl

theorem brace_notMem_hexDigits (n : Nat) : '\x7d' ∉ hexDigits n := by
  intro h
  have hsome := isSome_of_mem_hexDigits h
  exact absurd hsome (by decide)

/-! ## Quoted texts -/

/-- The characters that are escaped by a letter, each with its letter. -/
def letterEscapes : List (Char × Char) :=
  [('\x00', '0'), ('\t', 't'), ('\n', 'n'), ('\r', 'r'), ('"', '"'), ('\\', '\\')]

/-- What is written behind the backslash for a character that is escaped. -/
inductive IsEscapeOf (c : Char) : List Char → Prop where
  /-- It is escaped by a letter. -/
  | letter {letter : Char} (hmem : (c, letter) ∈ letterEscapes) : IsEscapeOf c [letter]
  /-- It is escaped by its number. -/
  | number : IsEscapeOf c ('u' :: '\x7b' :: (hexDigits c.toNat ++ ['\x7d']))

theorem quoteChar_cases (c : Char) :
    (∃ escape, IsEscapeOf c escape ∧ quoteChar c = '\\' :: escape) ∨
      (c ≠ '\\' ∧ c ≠ '"' ∧ quoteChar c = [c]) := by
  unfold quoteChar
  split
  · exact .inl ⟨_, .letter (by decide), rfl⟩
  · exact .inl ⟨_, .letter (by decide), rfl⟩
  · exact .inl ⟨_, .letter (by decide), rfl⟩
  · exact .inl ⟨_, .letter (by decide), rfl⟩
  · exact .inl ⟨_, .letter (by decide), rfl⟩
  · exact .inl ⟨_, .letter (by decide), rfl⟩
  · rename_i hquote hbackslash
    split
    · exact .inl ⟨_, .number, rfl⟩
    · exact .inr ⟨hbackslash, hquote, rfl⟩

/-- An escape can be told from whatever is written behind it. -/
theorem IsEscapeOf.eq_of_append {c d : Char} {escape escape' rest rest' : List Char}
    (h : IsEscapeOf c escape) (h' : IsEscapeOf d escape')
    (heq : escape ++ rest = escape' ++ rest') : c = d ∧ rest = rest' := by
  have hletter : ∀ e ∈ letterEscapes, e.2 ≠ 'u' ∧
      ∀ e' ∈ letterEscapes, e.2 = e'.2 → e.1 = e'.1 := by
    decide
  cases h with
  | letter hmem =>
    obtain ⟨hne, hsame⟩ := hletter _ hmem
    cases h' with
    | letter hmem' =>
      obtain ⟨hhead, hrest⟩ := List.cons.inj heq
      exact ⟨hsame _ hmem' hhead, hrest⟩
    | number => exact absurd (List.cons.inj heq).1 hne
  | number =>
    cases h' with
    | letter hmem' =>
      obtain ⟨hne, -⟩ := hletter _ hmem'
      exact absurd (List.cons.inj heq).1.symm hne
    | number =>
      simp only [List.cons_append, List.append_assoc, List.nil_append, List.cons.injEq,
        true_and] at heq
      -- The brace at the end is no digit, so the digits end at the same place.
      obtain ⟨hdigits, hrest⟩ :=
        eq_of_append_stop (brace_notMem_hexDigits _) (brace_notMem_hexDigits _) heq
      have hnumber : c.toNat = d.toNat := by
        have hread := hexNumber?_hexDigits c.toNat
        rw [hdigits, hexNumber?_hexDigits] at hread
        exact (Option.some.inj hread).symm
      exact ⟨Char.toNat_inj.mp hnumber, hrest⟩

theorem isSelfDelimiting_quoteChar : IsSelfDelimiting quoteChar := by
  intro c d rest rest' heq
  rcases quoteChar_cases c with ⟨escape, hescape, hc⟩ | ⟨hbackslash, -, hc⟩
  · rcases quoteChar_cases d with ⟨escape', hescape', hd⟩ | ⟨hbackslash', -, hd⟩
    · rw [hc, hd] at heq
      exact hescape.eq_of_append hescape' (List.cons.inj heq).2
    · rw [hc, hd] at heq
      exact absurd (List.cons.inj heq).1.symm hbackslash'
  · rcases quoteChar_cases d with ⟨escape', -, hd⟩ | ⟨-, -, hd⟩
    · rw [hc, hd] at heq
      exact absurd (List.cons.inj heq).1 hbackslash
    · rw [hc, hd] at heq
      exact List.cons.inj heq

/-- Inside a quoted text no character is written so that it begins with a quote. -/
theorem quoteChar_ne_quote (c : Char) :
    ∃ first tail, quoteChar c = first :: tail ∧ first ≠ '"' := by
  rcases quoteChar_cases c with ⟨escape, -, hc⟩ | ⟨-, hquote, hc⟩
  · exact ⟨'\\', escape, hc, by decide⟩
  · exact ⟨c, [], hc, hquote⟩

theorem isSelfDelimiting_quote : IsSelfDelimiting fun s => (quote s).toList := by
  intro s t rest rest' heq
  simp only [quote, String.toList_ofList, List.cons_append] at heq
  obtain ⟨hlist, hrest⟩ := isSelfDelimiting_quoteChar.many quoteChar_ne_quote (List.cons.inj heq).2
  exact ⟨String.toList_inj.mp hlist, hrest⟩

/-- An optional text is written as `None`, or quoted between two texts of which the first begins
with another letter. -/
theorem isSelfDelimiting_optional {write : Option String → String} (opening closing : String)
    (hopening : opening.toList.head? = some 'S') (hnone : write none = "None")
    (hsome : ∀ s, write (some s) = opening ++ quote s ++ closing) :
    IsSelfDelimiting fun value => (write value).toList := by
  obtain ⟨tail, htail⟩ : ∃ tail, opening.toList = 'S' :: tail := by
    cases hlist : opening.toList with
    | nil => simp [hlist] at hopening
    | cons c tail =>
      rw [hlist, List.head?_cons, Option.some.injEq] at hopening
      exact ⟨tail, by rw [hopening]⟩
  have hnothing : "None".toList = ['N', 'o', 'n', 'e'] := rfl
  intro value value' rest rest' heq
  cases value with
  | none =>
    cases value' with
    | none =>
      simp only [hnone] at heq
      exact ⟨rfl, List.append_cancel_left heq⟩
    | some t =>
      simp only [hnone, hsome, String.toList_append, htail, hnothing] at heq
      exact absurd (List.cons.inj heq).1 (by decide)
  | some s =>
    cases value' with
    | none =>
      simp only [hnone, hsome, String.toList_append, htail, hnothing] at heq
      exact absurd (List.cons.inj heq).1 (by decide)
    | some t =>
      simp only [hsome, String.toList_append, List.append_assoc] at heq
      obtain ⟨rfl, hclosing⟩ := isSelfDelimiting_quote (List.append_cancel_left heq)
      exact ⟨rfl, List.append_cancel_left hclosing⟩

end Text

namespace Session

/-! ## Shortened tokens -/

/-- A token is shown as it is, or as its first eight characters and dots if it has more: the sizes
that are compared are those in bytes, but what is counted are characters. -/
theorem redact_eq (token : String) : redact token =
    if token.length ≤ 8 then token else String.ofList (token.toList.take 8) ++ "..." := by
  have hparts : token =
      String.ofList (token.toList.take 8) ++ String.ofList (token.toList.drop 8) := by
    rw [← String.ofList_append, List.take_append_drop, String.ofList_toList]
  have hsize : token.utf8ByteSize = (String.ofList (token.toList.take 8)).utf8ByteSize +
      (String.ofList (token.toList.drop 8)).utf8ByteSize := by
    rw [← String.utf8ByteSize_append, ← hparts]
  unfold redact shownLength
  by_cases hlength : token.length ≤ 8
  · have hall : token.toList.take 8 = token.toList :=
      List.take_of_length_le (by rw [String.length_toList]; exact hlength)
    simp [hall, hlength]
  · -- Something is left behind the eighth character, and it has a size.
    have hrest : String.ofList (token.toList.drop 8) ≠ "" := by
      intro hempty
      have hnil : (token.toList.drop 8).length = 0 := by
        rw [← String.length_ofList, hempty]
        rfl
      rw [List.length_drop, String.length_toList] at hnil
      omega
    have hpos : (String.ofList (token.toList.drop 8)).utf8ByteSize ≠ 0 := fun hzero =>
      hrest (String.utf8ByteSize_eq_zero_iff.mp hzero)
    have hlt : (String.ofList (token.toList.take 8)).utf8ByteSize < token.utf8ByteSize := by omega
    simp [hlength, hlt]

/-- Nine characters in eighteen bytes are shortened, and eight in sixteen are not. -/
example : redact "äöüÄÖÜéèê" = "äöüÄÖÜéè..." ∧ redact "äöüÄÖÜéè" = "äöüÄÖÜéè" := by decide +kernel

/-- Two tokens that differ at most behind the eighth character, which both of them go beyond. -/
def AreAlike (a b : String) : Prop :=
  a = b ∨ 8 < a.length ∧ 8 < b.length ∧ a.toList.take 8 = b.toList.take 8

/-- Two sessions of the same tenant with alike tokens. -/
structure IsAlike (s t : Session) : Prop where
  /-- The tenant is the same. -/
  tenant : s.tenantId = t.tenantId
  /-- The access tokens are alike. -/
  access : AreAlike s.accessToken t.accessToken
  /-- Neither has a refresh token, or the refresh tokens are alike. -/
  refresh : Option.Rel AreAlike s.refreshToken t.refreshToken

theorem length_redact {token : String} (h : 8 < token.length) : (redact token).length = 11 := by
  have hnot : ¬ token.length ≤ 8 := Nat.not_le.mpr h
  have hdots : "...".length = 3 := rfl
  rw [redact_eq, if_neg hnot, String.length_append, String.length_ofList, List.length_take,
    String.length_toList, hdots]
  omega

/-- Tokens are shown alike exactly if they are alike. -/
theorem redact_eq_redact_iff {a b : String} : redact a = redact b ↔ AreAlike a b := by
  have hshort : ∀ {token : String}, token.length ≤ 8 → redact token = token := by
    intro token h
    rw [redact_eq, if_pos h]
  constructor
  · intro heq
    by_cases ha : a.length ≤ 8
    · by_cases hb : b.length ≤ 8
      · rw [hshort ha, hshort hb] at heq
        exact .inl heq
      · have hlength := congrArg String.length heq
        rw [hshort ha, length_redact (Nat.not_le.mp hb)] at hlength
        omega
    · by_cases hb : b.length ≤ 8
      · have hlength := congrArg String.length heq
        rw [hshort hb, length_redact (Nat.not_le.mp ha)] at hlength
        omega
      · rw [redact_eq, redact_eq, if_neg ha, if_neg hb] at heq
        have hlist := congrArg String.toList heq
        simp only [String.toList_append, String.toList_ofList] at hlist
        exact .inr ⟨Nat.not_le.mp ha, Nat.not_le.mp hb, List.append_cancel_right hlist⟩
  · rintro (rfl | ⟨ha, hb, hbegin⟩)
    · rfl
    · rw [redact_eq, redact_eq, if_neg (Nat.not_le.mpr ha), if_neg (Nat.not_le.mpr hb), hbegin]

theorem map_redact_eq_iff {a b : Option String} :
    a.map redact = b.map redact ↔ Option.Rel AreAlike a b := by
  constructor
  · intro heq
    cases a with
    | none =>
      cases b with
      | none => exact .none
      | some b => cases heq
    | some a =>
      cases b with
      | none => cases heq
      | some b => exact .some (redact_eq_redact_iff.mp (Option.some.inj heq))
  · intro h
    cases h with
    | some h => exact congrArg some (redact_eq_redact_iff.mpr h)
    | none => rfl

/-! ## The two layouts -/

/-- A session with its tokens shortened, and with texts before, between and after the fields. -/
def layOut (first second third last : String) (optional : Option String → String) (s : Session) :
    String :=
  first ++ Text.quote (redact s.accessToken) ++ second ++ optional (s.refreshToken.map redact) ++
    third ++ optional s.tenantId ++ last

/-- However the fields are laid out, they can be told apart. -/
theorem layOut_eq_iff {optional : Option String → String}
    (h : Text.IsSelfDelimiting fun value => (optional value).toList)
    (first second third last : String) (s t : Session) :
    s.layOut first second third last optional = t.layOut first second third last optional ↔
      s.IsAlike t := by
  constructor
  · intro heq
    have hlist := congrArg String.toList heq
    simp only [layOut, String.toList_append, List.append_assoc] at hlist
    obtain ⟨haccess, hsecond⟩ := Text.isSelfDelimiting_quote (List.append_cancel_left hlist)
    obtain ⟨hrefresh, hthird⟩ := h (List.append_cancel_left hsecond)
    obtain ⟨htenant, -⟩ := h (List.append_cancel_left hthird)
    exact ⟨htenant, redact_eq_redact_iff.mp haccess, map_redact_eq_iff.mp hrefresh⟩
  · intro halike
    unfold layOut
    rw [redact_eq_redact_iff.mpr halike.access, map_redact_eq_iff.mpr halike.refresh, halike.tenant]

/-- On one line and over several lines, two sessions are displayed alike exactly if they have the
same tenant, and tokens that are the same or go both beyond eight characters and begin with the same
eight. A token is shown as it is if it has at most eight characters, and otherwise as its first
eight characters and three dots. -/
theorem display_hides_tails :
    (∀ s t : Session, s.display = t.display ↔ s.IsAlike t) ∧
    (∀ s t : Session, s.displayLines = t.displayLines ↔ s.IsAlike t) ∧
    ∀ token, redact token =
      if token.length ≤ 8 then token else String.ofList (token.toList.take 8) ++ "..." := by
  refine ⟨?_, ?_, redact_eq⟩
  · intro s t
    have hoptional : Text.IsSelfDelimiting fun value => (displayOptional value).toList :=
      Text.isSelfDelimiting_optional "Some(" ")" rfl rfl fun _ => rfl
    exact layOut_eq_iff hoptional _ _ _ _ s t
  · intro s t
    have hoptional : Text.IsSelfDelimiting fun value => (displayOptionalLines value).toList :=
      Text.isSelfDelimiting_optional "Some(\n        " ",\n    )" rfl rfl fun _ => rfl
    exact layOut_eq_iff hoptional _ _ _ _ s t

end Session

end BearerClient
