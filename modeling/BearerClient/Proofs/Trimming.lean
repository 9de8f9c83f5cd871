import BearerClient.Text.Blank
import Mathlib.Data.List.DropRight

/-!
# Trimming

A trimmed text is what is left of a text without the blanks around it. There is one such rest of
every text, it has no blanks around it itself, and nothing is left exactly of the texts that are all
blank (`IsTrimOf.eq`, `trim_eq_empty_iff`).
-/

namespace BearerClient.Text

/-! ## Texts that are shortened at their end -/

section Shortening

variable {p : Char → Bool}

/-- Shortening stops at a character that is to stay. -/
theorem rdropWhile_append {front : List Char} (h : ∀ hne, ¬ p (front.getLast hne) = true)
    (tail : List Char) : (front ++ tail).rdropWhile p = front ++ tail.rdropWhile p := by
  induction tail using List.reverseRecOn with
  | nil => simpa using List.rdropWhile_eq_self_iff.mpr h
  | append_singleton tail last ih =>
    rw [← List.append_assoc, List.rdropWhile_concat, List.rdropWhile_concat]
    split
    · exact ih
    · exact List.append_assoc ..

theorem mem_head?_of_rdropWhile {cs : List Char} {c : Char} (h : c ∈ (cs.rdropWhile p).head?) :
    c ∈ cs.head? := by
  obtain ⟨dropped, hprefix⟩ := List.rdropWhile_prefix p cs
  rw [← hprefix, List.head?_append, h]
  rfl

end Shortening

/-! ## Blanks around a text -/

/-- All characters of the text are blank. -/
def IsBlank (s : String) : Prop := ∀ c ∈ s.toList, isBlank c = true

/-- `t` is what is left of `s` without the blanks around it. -/
structure IsTrimOf (t s : String) : Prop where
  /-- Only blanks are left out, and only around `t`. -/
  parts : ∃ front back, s = front ++ t ++ back ∧ IsBlank front ∧ IsBlank back
  /-- There is no blank at the start. -/
  first : ∀ c ∈ t.toList.head?, isBlank c = false
  /-- There is no blank at the end. -/
  last : ∀ c ∈ t.toList.getLast?, isBlank c = false

theorem trimWhere_eq (p : Char → Bool) (cs : List Char) :
    trimWhere p cs = (cs.dropWhile p).rdropWhile p := rfl

theorem isTrimOf_trim (s : String) : IsTrimOf (trim s) s := by
  have htrim : (trim s).toList = (s.toList.dropWhile isBlank).rdropWhile isBlank := by
    rw [trim, String.toList_ofList, trimWhere_eq]
  constructor
  · refine ⟨.ofList (s.toList.takeWhile isBlank),
      .ofList ((s.toList.dropWhile isBlank).rtakeWhile isBlank), ?_, ?_, ?_⟩
    · refine String.toList_injective ?_
      simp only [String.toList_append, String.toList_ofList, htrim]
      rw [List.append_assoc, List.rdropWhile_append_rtakeWhile, List.takeWhile_append_dropWhile]
    · intro c hmem
      rw [String.toList_ofList] at hmem
      exact List.mem_takeWhile_imp hmem
    · intro c hmem
      rw [String.toList_ofList] at hmem
      exact List.mem_rtakeWhile_imp hmem
  · intro c hfirst
    rw [htrim] at hfirst
    have hhead := List.head?_dropWhile_not isBlank s.toList
    rw [mem_head?_of_rdropWhile hfirst] at hhead
    exact hhead
  · intro c hlast
    rw [htrim] at hlast
    obtain ⟨hne, rfl⟩ := List.mem_getLast?_eq_getLast hlast
    simpa using List.rdropWhile_last_not isBlank (s.toList.dropWhile isBlank) hne

/-- There is one text that is left of a text without the blanks around it. -/
theorem IsTrimOf.eq {t s : String} (h : IsTrimOf t s) : t = trim s := by
  obtain ⟨front, back, rfl, hfront, hback⟩ := h.parts
  have hfrontless : (front ++ t ++ back).toList.dropWhile isBlank =
      (t.toList ++ back.toList).dropWhile isBlank := by
    rw [String.toList_append, String.toList_append, List.append_assoc,
      List.dropWhile_append_of_pos hfront]
  have hbackless : back.toList.rdropWhile isBlank = [] := List.rdropWhile_eq_nil_iff.mpr hback
  refine String.toList_injective ?_
  rw [trim, String.toList_ofList, trimWhere_eq, hfrontless]
  cases htext : t.toList with
  | nil =>
    rw [List.nil_append, List.dropWhile_eq_nil_iff.mpr hback]
    rfl
  | cons first rest =>
    have hfirst : isBlank first = false := h.first first (by rw [htext]; rfl)
    have hlast : ∀ hne, ¬ isBlank ((first :: rest).getLast hne) = true := by
      intro hne
      have hmem : (first :: rest).getLast hne ∈ t.toList.getLast? := by
        rw [htext]
        exact List.getLast?_eq_some_getLast hne
      simp [h.last _ hmem]
    rw [List.cons_append, List.dropWhile_cons_of_neg (by simp [hfirst]), ← List.cons_append,
      rdropWhile_append hlast, hbackless, List.append_nil]

/-- What is trimmed is left as it is. -/
theorem trim_trim (s : String) : trim (trim s) = trim s := by
  have h := isTrimOf_trim s
  have hnothing : IsBlank "" := by simp [IsBlank]
  have hself : IsTrimOf (trim s) (trim s) :=
    ⟨⟨"", "", by simp, hnothing, hnothing⟩, h.first, h.last⟩
  exact hself.eq.symm

theorem trim_eq_empty_iff {s : String} : trim s = "" ↔ IsBlank s := by
  constructor
  · intro hempty
    obtain ⟨front, back, hparts, hfront, hback⟩ := (isTrimOf_trim s).parts
    rw [hempty, String.append_empty] at hparts
    rw [hparts]
    intro c hmem
    rw [String.toList_append] at hmem
    rcases List.mem_append.mp hmem with hmem | hmem
    · exact hfront c hmem
    · exact hback c hmem
  · intro hblank
    have hnothing : IsTrimOf "" s :=
      ⟨⟨s, "", by simp, hblank, by simp [IsBlank]⟩, by simp, by simp⟩
    exact hnothing.eq.symm

end BearerClient.Text
