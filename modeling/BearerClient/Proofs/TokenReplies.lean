import BearerClient.Http.Exchange
import BearerClient.Proofs.LawfulStore

/-!
# What a reply carries

Tokens are read from a record, which is an object whose members go by name or an array whose items
go by place. `Tokens.IsReadFrom` and `TokenUser.IsReadFrom` say what stands where in such a record,
and `Tokens.decode_eq_ok_iff`, that decoding gives tokens exactly if it stands there.
-/

namespace BearerClient

theorem bind_eq_ok_iff {ε α β : Type} {x : Except ε α} {f : α → Except ε β} {b : β} :
    (x >>= f) = .ok b ↔ ∃ a, x = .ok a ∧ f a = .ok b := by
  constructor
  · exact exists_of_bind_eq_ok
  · rintro ⟨a, rfl, h⟩
    exact h

theorem map_eq_ok_iff {ε α β : Type} {x : Except ε α} {f : α → β} {b : β} :
    x.map f = .ok b ↔ ∃ a, x = .ok a ∧ f a = b := by
  cases x with
  | error e => exact ⟨fun h => (by cases h), fun ⟨_, h, _⟩ => (by cases h)⟩
  | ok a =>
    constructor
    · intro h
      exact ⟨a, rfl, Except.ok.inj h⟩
    · rintro ⟨a', ha, rfl⟩
      rw [Except.ok.inj ha]
      rfl

namespace Json

/-- The field of a record: its member of this name in an object, its item at this place in an array,
and `null` if there is none. -/
def fieldOrNull (name : String) (place : Nat) : Json → Json
  | .obj members => (members.lookup name).getD .null
  | .arr items => items[place]?.getD .null
  | _ => .null

/-- An optional field: `null` if it is absent, and else a value from which it is read. -/
def IsOptional {α : Type} (IsReadFrom : α → Json → Prop) (value : Json) : Option α → Prop
  | none => value = .null
  | some a => IsReadFrom a value

/-! ## Single fields -/

theorem getD_null_eq_str_iff {field? : Option Json} {s : String} :
    field?.getD .null = .str s ↔ field? = some (.str s) := by
  cases field? with
  | none => simp
  | some value => simp

theorem decodeString_eq_ok_iff {value : Json} {s : String} :
    decodeString value = .ok s ↔ value = .str s := by
  cases value with
  | str text => simp [decodeString]
  | _ => simp [decodeString]

theorem decodeWord_eq_ok_iff {value : Json} {n : Nat} :
    decodeWord value = .ok n ↔ value = .ofNat n := by
  unfold ofNat
  match value with
  | .int (.ofNat m) => simp only [decodeWord, Except.ok.injEq, Json.int.injEq, Int.ofNat_eq_natCast,
      Int.natCast_inj]
  | .int (.negSucc m) => simp [decodeWord]
  | .null | .bool _ | .float _ | .str _ | .arr _ | .obj _ => simp [decodeWord]

theorem decodeOptional_eq_ok_iff {α : Type} {decode : Decoder α} {IsReadFrom : α → Json → Prop}
    (hreads : ∀ a value, decode value = .ok a ↔ IsReadFrom a value)
    (hnull : ∀ a, ¬ IsReadFrom a .null) {value : Json} {field : Option α} :
    decodeOptional decode value = .ok field ↔ value.IsOptional IsReadFrom field := by
  unfold decodeOptional
  split
  · cases field with
    | none => simp [IsOptional]
    | some a => simp [IsOptional, hnull]
  · rename_i hvalue
    rw [map_eq_ok_iff]
    cases field with
    | none => simpa [IsOptional] using hvalue
    | some a => simp [IsOptional, hreads]

/-- A member that is not there is read as `null`. -/
theorem decodeOptionalMember_eq {α : Type} (decode : Decoder α) (members : List (String × Json))
    (key : String) : decodeOptionalMember decode members key =
      decodeOptional decode ((members.lookup key).getD .null) := by
  unfold decodeOptionalMember decodeMember
  cases members.lookup key with
  | none => rfl
  | some value =>
    simp only [Option.getD_some]
    cases decodeOptional decode value with
    | error e => rfl
    | ok field => rfl

/-- An item that is not there is read as `null`. -/
theorem decodeOptionalItem_eq {α : Type} (decode : Decoder α) (items : List Json) (place : Nat) :
    decodeOptionalItem decode items place = decodeOptional decode (items[place]?.getD .null) := by
  unfold decodeOptionalItem
  cases items[place]? with
  | none => rfl
  | some item => rfl

theorem requireItem_eq_ok_iff {record : String} {fields place : Nat} {items : List Json}
    {item : Json} :
    requireItem record fields items place = .ok item ↔ items[place]? = some item := by
  unfold requireItem
  cases items[place]? with
  | none => simp
  | some first => simp

theorem requireEnd_eq_ok_iff {fields : Nat} {items : List Json} {u : Unit} :
    requireEnd fields items = .ok u ↔ items.length ≤ fields := by
  unfold requireEnd
  split
  · rename_i hle
    simp [hle]
  · rename_i hlong
    simp [hlong]

/-- A text that is required is there. -/
theorem require_eq_ok_iff {members : List (String × Json)} {key text : String} :
    (∃ text?, decodeMember decodeString members key = .ok text? ∧ require key text? = .ok text) ↔
      members.lookup key = some (.str text) := by
  unfold decodeMember
  cases members.lookup key with
  | none => simp [require]
  | some value =>
    simp only [map_eq_ok_iff, decodeString_eq_ok_iff, Option.some.injEq]
    constructor
    · rintro ⟨_, ⟨text', rfl, rfl⟩, hrequire⟩
      rw [Except.ok.inj hrequire]
    · rintro rfl
      exact ⟨some text, ⟨text, rfl, rfl⟩, rfl⟩

end Json

/-! ## Records -/

/-- What a value says about the user's record that is read from it. -/
structure TokenUser.IsReadFrom (user : TokenUser) (value : Json) : Prop where
  /-- The value is an object, or an array of one item. -/
  record : (∃ members, value = .obj members) ∨ ∃ item, value = .arr [item]
  /-- The tenant is there, or its field is absent or `null`. -/
  tenant : (value.fieldOrNull "tenant_id" 0).IsOptional (fun s v => v = .str s) user.tenantId

/-- What a payload says about the tokens that are read from it. -/
structure Tokens.IsReadFrom (tokens : Tokens) (data : Json) : Prop where
  /-- The payload is an object, or an array of at most four items. -/
  record : (∃ members, data = .obj members) ∨ ∃ items, data = .arr items ∧ items.length ≤ 4
  /-- The access token is there. -/
  access : data.fieldOrNull "access_token" 0 = .str tokens.accessToken
  /-- The refresh token is there, or its field is absent or `null`. -/
  refresh : (data.fieldOrNull "refresh_token" 1).IsOptional (fun s v => v = .str s)
    tokens.refreshToken
  /-- The time is there, or its field is absent or `null`. -/
  expires : (data.fieldOrNull "expires_in" 2).IsOptional (fun n v => v = .ofNat n) tokens.expiresIn
  /-- The user's record is there, or its field is absent or `null`. -/
  user : (data.fieldOrNull "user" 3).IsOptional TokenUser.IsReadFrom tokens.user

theorem decodeOptionalString_eq_ok_iff {value : Json} {field : Option String} :
    Json.decodeOptional Json.decodeString value = .ok field ↔
      value.IsOptional (fun s v => v = .str s) field :=
  Json.decodeOptional_eq_ok_iff (fun _ _ => Json.decodeString_eq_ok_iff) (by simp)

theorem TokenUser.decode_eq_ok_iff {value : Json} {user : TokenUser} :
    TokenUser.decode value = .ok user ↔ user.IsReadFrom value := by
  obtain ⟨tenant⟩ := user
  unfold TokenUser.decode Json.decodeRecord
  cases value with
  | obj members =>
    simp only [bind_eq_ok_iff, Json.decodeOptionalMember_eq, decodeOptionalString_eq_ok_iff]
    constructor
    · rintro ⟨tenant', htenant, huser⟩
      cases huser
      exact ⟨.inl ⟨members, rfl⟩, htenant⟩
    · rintro ⟨-, htenant⟩
      exact ⟨tenant, htenant, rfl⟩
  | arr items =>
    simp only [bind_eq_ok_iff, decodeOptionalString_eq_ok_iff, Json.requireItem_eq_ok_iff,
      Json.requireEnd_eq_ok_iff]
    constructor
    · rintro ⟨item, hitem, tenant', htenant, -, hlength, huser⟩
      cases huser
      obtain ⟨first, rfl⟩ : ∃ first, items = [first] := by
        match items, hitem, hlength with
        | [first], _, _ => exact ⟨first, rfl⟩
      obtain rfl := Option.some.inj hitem
      exact ⟨.inr ⟨first, rfl⟩, htenant⟩
    · rintro ⟨⟨_, h⟩ | ⟨item, hitems⟩, htenant⟩
      · cases h
      · obtain rfl := Json.arr.inj hitems
        exact ⟨item, rfl, tenant, htenant, (), by simp, rfl⟩
  | _ =>
    refine ⟨fun h => (by cases h), ?_⟩
    rintro ⟨⟨_, h⟩ | ⟨_, h⟩, -⟩
    · cases h
    · cases h

theorem TokenUser.not_isReadFrom_null (user : TokenUser) : ¬ user.IsReadFrom .null := by
  rintro ⟨⟨_, h⟩ | ⟨_, h⟩, -⟩
  · cases h
  · cases h

/-- Decoding gives tokens exactly if they stand in the payload. -/
theorem Tokens.decode_eq_ok_iff {data : Json} {tokens : Tokens} :
    Tokens.decode data = .ok tokens ↔ tokens.IsReadFrom data := by
  obtain ⟨access, refresh, expires, user⟩ := tokens
  have hexpires : ∀ value field, Json.decodeOptional Json.decodeWord value = .ok field ↔
      value.IsOptional (fun n v => v = .ofNat n) field := fun _ _ =>
    Json.decodeOptional_eq_ok_iff (fun _ _ => Json.decodeWord_eq_ok_iff) (by simp [Json.ofNat])
  have huser : ∀ value field, Json.decodeOptional TokenUser.decode value = .ok field ↔
      value.IsOptional TokenUser.IsReadFrom field := by
    have hreads : ∀ user value, TokenUser.decode value = .ok user ↔ user.IsReadFrom value :=
      fun _ _ => TokenUser.decode_eq_ok_iff
    exact fun _ _ => Json.decodeOptional_eq_ok_iff hreads TokenUser.not_isReadFrom_null
  unfold Tokens.decode Json.decodeRecord
  cases data with
  | obj members =>
    simp only [Tokens.ofMembers, bind_eq_ok_iff, Json.decodeOptionalMember_eq,
      decodeOptionalString_eq_ok_iff, hexpires, huser]
    constructor
    · rintro ⟨access?, haccess, expires', hexpires', refresh', hrefresh, user', huser', access',
        hrequire, htokens⟩
      cases htokens
      have hlookup := Json.require_eq_ok_iff.mp ⟨access?, haccess, hrequire⟩
      exact ⟨.inl ⟨members, rfl⟩, Json.getD_null_eq_str_iff.mpr hlookup, hrefresh, hexpires',
        huser'⟩
    · rintro ⟨-, haccess, hrefresh, hexpires', huser'⟩
      obtain ⟨access?, haccess?, hrequire⟩ :=
        Json.require_eq_ok_iff.mpr (Json.getD_null_eq_str_iff.mp haccess)
      exact ⟨access?, haccess?, expires, hexpires', refresh, hrefresh, user, huser', access,
        hrequire, rfl⟩
  | arr items =>
    simp only [Tokens.ofItems, bind_eq_ok_iff, Json.decodeOptionalItem_eq,
      decodeOptionalString_eq_ok_iff, hexpires, huser, Json.requireItem_eq_ok_iff,
      Json.requireEnd_eq_ok_iff, Json.decodeString_eq_ok_iff]
    constructor
    · rintro ⟨item, hitem, access', rfl, refresh', hrefresh, expires', hexpires', user', huser', -,
        hlength, htokens⟩
      cases htokens
      exact ⟨.inr ⟨items, rfl, hlength⟩, Json.getD_null_eq_str_iff.mpr hitem, hrefresh, hexpires',
        huser'⟩
    · rintro ⟨⟨_, h⟩ | ⟨items', hitems, hlength⟩, haccess, hrefresh, hexpires', huser'⟩
      · cases h
      · obtain rfl := Json.arr.inj hitems
        exact ⟨_, Json.getD_null_eq_str_iff.mp haccess, access, rfl, refresh, hrefresh, expires,
          hexpires', user, huser', (), hlength, rfl⟩
  | _ =>
    refine ⟨fun h => (by cases h), ?_⟩
    rintro ⟨⟨_, h⟩ | ⟨_, h, -⟩, -⟩
    · cases h
    · cases h

end BearerClient
