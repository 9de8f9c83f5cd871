import BearerClient.Json.Parser
import Mathlib.Data.String.Basic

/-!
# What a reader makes of a JSON text

Whatever text is read, the value nests no deeper than the reader may go, its integers fit 64 bits,
and the members of its objects are in order, each key once: `Json.Fits`. So nothing that comes over
the wire needs to be checked for this again. The main statement is `fits_of_parse?`.
-/

namespace BearerClient.Json

/-! ## Values -/

/-- A value that nests at most `depth` deep, whose integers fit 64 bits, and whose objects have
their members in order. -/
inductive Fits : Nat → Json → Prop where
  /-- The value `null`. -/
  | null {depth : Nat} : Fits depth .null
  /-- A truth value. -/
  | bool {depth : Nat} (value : Bool) : Fits depth (.bool value)
  /-- An integer of 64 bits, signed or unsigned. -/
  | int {depth : Nat} {value : Int} (hlow : -0x8000000000000000 ≤ value)
      (hhigh : value ≤ maxWord) : Fits depth (.int value)
  /-- A double. -/
  | float {depth : Nat} (value : Binary64) : Fits depth (.float value)
  /-- A text. -/
  | str {depth : Nat} (value : String) : Fits depth (.str value)
  /-- A sequence of values that nest less deep. -/
  | arr {depth : Nat} {items : List Json} (hitems : ∀ item ∈ items, Fits depth item) :
      Fits (depth + 1) (.arr items)
  /-- Members in order, with values that nest less deep. -/
  | obj {depth : Nat} {members : List (String × Json)}
      (hsorted : members.Pairwise fun a b => a.1 < b.1)
      (hmembers : ∀ member ∈ members, Fits depth member.2) : Fits (depth + 1) (.obj members)

/-! ## Members in order -/

theorem insertMember_of_lt {key : String} {value : Json} {members : List (String × Json)}
    (h : ∀ member ∈ members, member.1 < key) :
    insertMember key value members = members ++ [(key, value)] := by
  induction members with
  | nil => rfl
  | cons first rest ih =>
    obtain ⟨k, v⟩ := first
    have hk : k < key := h (k, v) List.mem_cons_self
    rw [insertMember, if_neg (lt_asymm hk), if_neg hk.ne', List.cons_append,
      ih fun member hmem => h member (List.mem_cons_of_mem _ hmem)]

theorem mem_insertMember {key : String} {value : Json} {members : List (String × Json)}
    {member : String × Json} (h : member ∈ insertMember key value members) :
    member = (key, value) ∨ member ∈ members := by
  induction members with
  | nil => exact .inl (List.mem_singleton.mp h)
  | cons first rest ih =>
    obtain ⟨k, v⟩ := first
    unfold insertMember at h
    split at h
    · exact List.mem_cons.mp h
    · split at h
      · rcases List.mem_cons.mp h with h | h
        · exact .inl h
        · exact .inr (List.mem_cons_of_mem _ h)
      · rcases List.mem_cons.mp h with rfl | h
        · exact .inr List.mem_cons_self
        · rcases ih h with h | h
          · exact .inl h
          · exact .inr (List.mem_cons_of_mem _ h)

theorem sorted_insertMember (key : String) (value : Json) {members : List (String × Json)}
    (h : members.Pairwise fun a b => a.1 < b.1) :
    (insertMember key value members).Pairwise fun a b => a.1 < b.1 := by
  induction members with
  | nil => exact List.pairwise_singleton _ _
  | cons first rest ih =>
    obtain ⟨k, v⟩ := first
    obtain ⟨hfirst, hrest⟩ := List.pairwise_cons.mp h
    unfold insertMember
    split
    · rename_i hlt
      refine List.pairwise_cons.mpr ⟨?_, h⟩
      intro member hmem
      rcases List.mem_cons.mp hmem with rfl | hmem
      · exact hlt
      · exact hlt.trans (hfirst member hmem)
    · split
      · rename_i heq
        obtain rfl := heq
        exact List.pairwise_cons.mpr ⟨hfirst, hrest⟩
      · rename_i hnlt hne
        refine List.pairwise_cons.mpr ⟨?_, ih hrest⟩
        intro member hmem
        rcases mem_insertMember hmem with rfl | hmem
        · exact lt_of_le_of_ne (not_lt.mp hnlt) (Ne.symm hne)
        · exact hfirst member hmem

/-- Members that are in order make the object with just these members. -/
theorem ofMembers_of_sorted {members : List (String × Json)}
    (h : members.Pairwise fun a b => a.1 < b.1) : ofMembers members = .obj members := by
  have hinsert : ∀ rest sorted : List (String × Json),
      (sorted ++ rest).Pairwise (fun a b => a.1 < b.1) →
        rest.foldl (fun sorted member => insertMember member.1 member.2 sorted) sorted =
          sorted ++ rest := by
    intro rest
    induction rest with
    | nil => simp
    | cons member rest ih =>
      intro sorted hsorted
      have hlast := (List.pairwise_append.mp hsorted).2.2
      have hput : insertMember member.1 member.2 sorted = sorted ++ [member] :=
        insertMember_of_lt fun m hm => hlast m hm member List.mem_cons_self
      rw [List.append_cons] at hsorted ⊢
      rw [← ih _ hsorted, ← hput]
      rfl
  exact congrArg Json.obj (hinsert members [] h)

/-- Whatever members are given, those of the object are in order and among the given ones. -/
theorem exists_ofMembers (members : List (String × Json)) :
    ∃ sorted : List (String × Json), ofMembers members = .obj sorted ∧
      (sorted.Pairwise fun a b => a.1 < b.1) ∧ ∀ member ∈ sorted, member ∈ members := by
  have hinsert : ∀ rest sorted : List (String × Json),
      (sorted.Pairwise fun a b => a.1 < b.1) →
      let result := rest.foldl (fun sorted member => insertMember member.1 member.2 sorted) sorted
      (result.Pairwise fun a b => a.1 < b.1) ∧
        ∀ member ∈ result, member ∈ sorted ∨ member ∈ rest := by
    intro rest
    induction rest with
    | nil => exact fun sorted h => ⟨h, fun _ => .inl⟩
    | cons first rest ih =>
      intro sorted h
      obtain ⟨hsorted, hmem⟩ := ih _ (sorted_insertMember first.1 first.2 h)
      refine ⟨hsorted, ?_⟩
      intro member hmember
      rcases hmem member hmember with hmember | hmember
      · rcases mem_insertMember hmember with rfl | hmember
        · exact .inr List.mem_cons_self
        · exact .inl hmember
      · exact .inr (List.mem_cons_of_mem _ hmember)
  obtain ⟨hsorted, hmem⟩ := hinsert members [] List.Pairwise.nil
  refine ⟨_, rfl, hsorted, ?_⟩
  intro member hmember
  rcases hmem member hmember with h | h
  · cases h
  · exact h

/-! ## Readers -/

theorem value?_cases {t : NumberText} {v : Json} (h : t.value? = some v) :
    (∃ i : Int, v = .int i ∧ -0x8000000000000000 ≤ i ∧ i ≤ maxWord) ∨ ∃ x, v = .float x := by
  unfold NumberText.value? at h
  dsimp only at h
  split at h
  · split at h
    · rename_i hle
      obtain rfl := Option.some.inj h
      exact .inl ⟨_, rfl, by omega, by omega⟩
    · obtain ⟨x, -, rfl⟩ := Option.map_eq_some_iff.mp h
      exact .inr ⟨x, rfl⟩
  · split at h
    · rename_i hle
      obtain rfl := Option.some.inj h
      exact .inl ⟨_, rfl, by omega, by omega⟩
    · obtain ⟨x, -, rfl⟩ := Option.map_eq_some_iff.mp h
      exact .inr ⟨x, rfl⟩
  · obtain ⟨x, -, rfl⟩ := Option.map_eq_some_iff.mp h
    exact .inr ⟨x, rfl⟩

theorem fits_of_readNumber {cs rest : List Char} {v : Json}
    (h : readNumber cs = some (v, rest)) (depth : Nat) : v.Fits depth := by
  simp only [readNumber, Option.bind_eq_bind, Option.bind_eq_some_iff, Option.some.injEq,
    Prod.mk.injEq] at h
  obtain ⟨⟨whole, afterWhole⟩, -, ⟨fraction, afterFraction⟩, -, ⟨exponent, afterExponent⟩, -,
    value, hvalue, rfl, -⟩ := h
  rcases value?_cases hvalue with ⟨i, rfl, hlow, hhigh⟩ | ⟨x, rfl⟩
  · exact .int hlow hhigh
  · exact .float x

theorem fits_of_readLeaf {cs rest : List Char} {v : Json} (h : readLeaf cs = some (v, rest))
    (depth : Nat) : v.Fits depth := by
  unfold readLeaf at h
  split at h
  · cases h
    exact .null
  · cases h
    exact .bool true
  · cases h
    exact .bool false
  · obtain ⟨⟨text, after⟩, -, heq⟩ := Option.map_eq_some_iff.mp h
    cases heq
    exact .str text
  · exact fits_of_readNumber h depth

section Containers

variable {read : List Char → Option (Json × List Char)} {P : Json → Prop}

/-- Every item has what every value that is read has. -/
theorem forall_of_readItems (hread : ∀ cs v rest, read cs = some (v, rest) → P v) {bound : Nat}
    {cs rest : List Char} {items : List Json} (h : readItems read bound cs = some (items, rest)) :
    ∀ item ∈ items, P item := by
  induction bound generalizing cs items with
  | zero => cases h
  | succ bound ih =>
    simp only [readItems, Option.bind_eq_bind, Option.bind_eq_some_iff] at h
    obtain ⟨⟨item, after⟩, hitem, h⟩ := h
    have hfirst := hread _ _ _ hitem
    split at h
    · obtain ⟨⟨more, after'⟩, hmore, heq⟩ := Option.bind_eq_some_iff.mp h
      cases heq
      exact List.forall_mem_cons.mpr ⟨hfirst, ih hmore⟩
    · cases h
      exact List.forall_mem_singleton.mpr hfirst
    · cases h

/-- Every member has a value that has what every value that is read has. -/
theorem forall_of_readMembers (hread : ∀ cs v rest, read cs = some (v, rest) → P v) {bound : Nat}
    {cs rest : List Char} {members : List (String × Json)}
    (h : readMembers read bound cs = some (members, rest)) : ∀ member ∈ members, P member.2 := by
  induction bound generalizing cs members with
  | zero => cases h
  | succ bound ih =>
    simp only [readMembers, Option.bind_eq_bind, Option.bind_eq_some_iff] at h
    obtain ⟨⟨key, afterKey⟩, -, ⟨value, after⟩, hvalue, h⟩ := h
    have hfirst := hread _ _ _ hvalue
    split at h
    · obtain ⟨⟨more, after'⟩, hmore, heq⟩ := Option.bind_eq_some_iff.mp h
      cases heq
      exact List.forall_mem_cons.mpr ⟨hfirst, ih hmore⟩
    · cases h
      exact List.forall_mem_singleton.mpr hfirst
    · cases h

end Containers

theorem fits_of_readArray {depth : Nat}
    (hread : ∀ cs v rest, readValue depth cs = some (v, rest) → v.Fits depth)
    {cs rest : List Char} {v : Json} (h : readArray (readValue depth) cs = some (v, rest)) :
    v.Fits (depth + 1) := by
  unfold readArray at h
  split at h
  · cases h
    exact .arr fun item hitem => absurd hitem List.not_mem_nil
  · obtain ⟨⟨items, after⟩, hitems, heq⟩ := Option.map_eq_some_iff.mp h
    cases heq
    exact .arr (forall_of_readItems hread hitems)

theorem fits_of_readObject {depth : Nat}
    (hread : ∀ cs v rest, readValue depth cs = some (v, rest) → v.Fits depth)
    {cs rest : List Char} {v : Json} (h : readObject (readValue depth) cs = some (v, rest)) :
    v.Fits (depth + 1) := by
  unfold readObject at h
  split at h
  · cases h
    exact .obj List.Pairwise.nil fun member hmember => absurd hmember List.not_mem_nil
  · obtain ⟨⟨members, after⟩, hmembers, heq⟩ := Option.map_eq_some_iff.mp h
    obtain ⟨sorted, hobj, hsorted, hmem⟩ := exists_ofMembers members
    cases heq
    rw [hobj]
    exact .obj hsorted fun member hmember =>
      forall_of_readMembers hread hmembers member (hmem member hmember)

/-- A reader that may go `depth` deep makes values that nest at most so deep, with integers of
64 bits and members in order. -/
theorem fits_of_readValue {depth : Nat} {cs rest : List Char} {v : Json}
    (h : readValue depth cs = some (v, rest)) : v.Fits depth := by
  -- By how deep the reader may still go; at zero it reads no containers at all.
  induction depth generalizing cs rest v with
  | zero =>
    unfold readValue at h
    split at h
    · rename_i hdepth
      cases hdepth
    · rename_i hdepth
      cases hdepth
    · exact fits_of_readLeaf h 0
  | succ depth ih =>
    have hread : ∀ cs v rest, readValue depth cs = some (v, rest) → v.Fits depth :=
      fun _ _ _ => ih
    unfold readValue at h
    split at h
    · rename_i hdepth
      obtain rfl := Nat.succ.inj hdepth
      exact fits_of_readArray hread h
    · rename_i hdepth
      obtain rfl := Nat.succ.inj hdepth
      exact fits_of_readObject hread h
    · exact fits_of_readLeaf h _

theorem fits_of_parse? {text : String} {v : Json} (h : parse? text = some v) :
    v.Fits maxDepth := by
  simp only [parse?, Option.bind_eq_bind, Option.bind_eq_some_iff] at h
  obtain ⟨⟨value, rest⟩, hread, h⟩ := h
  split at h
  · cases h
    exact fits_of_readValue hread
  · cases h

/-! ## Bodies -/

/-- The bytes of a text are read as the text. -/
theorem parseBytes?_toUTF8 (text : String) : parseBytes? text.toUTF8 = parse? text := by
  have hvalid : text.toUTF8.IsValidUTF8 := text.isValidUTF8
  rw [parseBytes?, String.fromUTF8?, dif_pos hvalid]
  rfl

theorem fits_of_parseBytes? {bytes : ByteArray} {v : Json} (h : parseBytes? bytes = some v) :
    v.Fits maxDepth := by
  obtain ⟨text, -, htext⟩ := Option.bind_eq_some_iff.mp h
  exact fits_of_parse? htext

/-- There is no value in an empty body. -/
theorem parseBytes?_of_isEmpty {bytes : ByteArray} (h : bytes.isEmpty = true) :
    parseBytes? bytes = none := by
  have hempty : bytes = "".toUTF8 :=
    ByteArray.size_eq_zero_iff.mp (by simpa [ByteArray.isEmpty] using h)
  rw [hempty, parseBytes?_toUTF8]
  decide

theorem Fits.member? {depth : Nat} {v w : Json} {key : String} (h : v.Fits (depth + 1))
    (hmember : v.member? key = some w) : w.Fits depth := by
  cases h with
  | obj hsorted hmembers =>
    obtain ⟨before, after, rfl, -⟩ := List.lookup_eq_some_iff.mp hmember
    exact hmembers (key, w) (by simp)
  | _ => cases hmember

end BearerClient.Json
