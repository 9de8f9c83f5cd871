import BearerClient.Proofs.JsonReading
import BearerClient.Proofs.TokenReplies

/-!
# What a response comes to

A response with a status from 200 to 299 is judged by its payload alone, every other one by what
it tells of the failure. `Response.IsFailureText` says which text that is, and `Tokens.IsIssuedIn`,
which tokens a body gives, if any. The main statements are `Response.classification`, for the caller
of a request, and `Delivery.refresh_outcome`, for a refresh.
-/

namespace BearerClient

/-! ## Messages of failures -/

/-- The message that an error tells: the error itself, or the member `message` of an object. An
empty text tells nothing. -/
inductive Json.Tells : Json → String → Prop where
  /-- The error is a text. -/
  | text {message : String} (hmessage : message ≠ "") : Tells (.str message) message
  /-- The error is an object with a message. -/
  | member {members : List (String × Json)} {message : String}
      (hmember : members.lookup "message" = some (.str message)) (hmessage : message ≠ "") :
      Tells (.obj members) message

theorem Json.Tells.ne_empty {error : Json} {message : String} (h : error.Tells message) :
    message ≠ "" := by
  cases h with
  | text hmessage => exact hmessage
  | member _ hmessage => exact hmessage

/-- An error that tells nothing. -/
def Json.IsSilent (error : Json) : Prop := ∀ message, ¬ error.Tells message

theorem Json.firstItem?_eq_some_iff {value first : Json} :
    value.firstItem? = some first ↔ ∃ rest, value = .arr (first :: rest) := by
  unfold Json.firstItem?
  split
  · simp
  · rename_i hvalue
    simpa using fun rest => hvalue first rest

namespace Envelope

theorem filter_isEmpty_eq_some_iff {text? : Option String} {message : String} :
    text?.filter (!·.isEmpty) = some message ↔ text? = some message ∧ message ≠ "" := by
  simp [Option.filter_eq_some_iff]

theorem messageOf?_eq_some_iff {error : Json} {message : String} :
    messageOf? error = some message ↔ error.Tells message := by
  cases error with
  | str text =>
    simp only [messageOf?, filter_isEmpty_eq_some_iff, Option.some.injEq]
    constructor
    · rintro ⟨rfl, hmessage⟩
      exact .text hmessage
    · rintro (⟨hmessage⟩ | _)
      exact ⟨rfl, hmessage⟩
  | obj members =>
    simp only [messageOf?, filter_isEmpty_eq_some_iff, Json.member?, Option.bind_eq_some_iff]
    constructor
    · rintro ⟨⟨value, hmember, hvalue⟩, hmessage⟩
      cases value <;> cases hvalue
      exact .member hmember hmessage
    · rintro (_ | ⟨hmember, hmessage⟩)
      exact ⟨⟨_, hmember, rfl⟩, hmessage⟩
  | _ => exact ⟨fun h => (by cases h), fun h => (by cases h)⟩

theorem messageOf?_eq_none_iff {error : Json} : messageOf? error = none ↔ error.IsSilent := by
  simp only [Json.IsSilent, ← messageOf?_eq_some_iff, Option.eq_none_iff_forall_ne_some]

theorem errorMessage_of_tells {e : Envelope} {message : String} (h : e.error.Tells message)
    {status : Nat} : e.errorMessage status = message := by
  rw [errorMessage, messageOf?_eq_some_iff.mpr h]
  rfl

theorem errorMessage_of_first {e : Envelope} {first : Json} {rest : List Json} {message : String}
    (herror : e.error.IsSilent) (herrors : e.errors = .arr (first :: rest))
    (hfirst : first.Tells message) {status : Nat} : e.errorMessage status = message := by
  rw [errorMessage, messageOf?_eq_none_iff.mpr herror, herrors, Json.firstItem?, Option.bind_some,
    messageOf?_eq_some_iff.mpr hfirst]
  rfl

theorem errorMessage_of_isSilent {e : Envelope} (herror : e.error.IsSilent)
    (herrors : ∀ first rest, e.errors = .arr (first :: rest) → first.IsSilent) {status : Nat} :
    e.errorMessage status = "Request failed (" ++ toString status ++ ")" := by
  have hnone : e.errors.firstItem?.bind messageOf? = none := by
    rw [Option.bind_eq_none_iff]
    intro first hfirst
    obtain ⟨rest, hrest⟩ := Json.firstItem?_eq_some_iff.mp hfirst
    exact messageOf?_eq_none_iff.mpr (herrors first rest hrest)
  rw [errorMessage, messageOf?_eq_none_iff.mpr herror, hnone]
  rfl

end Envelope

namespace Response

/-! ## Bodies -/

theorem isSuccess_iff {r : Response} : r.isSuccess = true ↔ 200 ≤ r.status ∧ r.status ≤ 299 := by
  simp only [isSuccess, Bool.and_eq_true, decide_eq_true_eq]
  omega

/-- Something stands in the body that is not JSON. -/
def IsGarbled (r : Response) : Prop := r.body.isEmpty = false ∧ Json.parseBytes? r.body = none

/-- The member of the body with this key, `null` when there is none: a body that is empty or not
JSON has no members. -/
def memberOrNull (r : Response) (key : String) : Json :=
  ((Json.parseBytes? r.body).map (Json.memberOrNull key)).getD .null

/-- The members of the body that are looked at. -/
def envelope (r : Response) : Envelope :=
  ⟨r.memberOrNull "data", r.memberOrNull "meta", r.memberOrNull "error", r.memberOrNull "errors"⟩

theorem envelope_of_parse? {r : Response} {body : Json} (h : Json.parseBytes? r.body = some body) :
    r.envelope = .ofJson body := by
  simp [envelope, memberOrNull, Envelope.ofJson, h]

theorem envelope_of_parse?_eq_none {r : Response} (h : Json.parseBytes? r.body = none) :
    r.envelope = .empty := by
  simp [envelope, memberOrNull, Envelope.empty, h]

theorem parse?_of_isGarbled {r : Response} (h : r.IsGarbled) : Envelope.parse? r.body = none := by
  simp [Envelope.parse?, h.1, h.2]

theorem parse?_of_not_isGarbled {r : Response} (h : ¬ r.IsGarbled) :
    Envelope.parse? r.body = some r.envelope := by
  unfold Envelope.parse?
  split
  · rename_i hempty
    rw [envelope_of_parse?_eq_none (Json.parseBytes?_of_isEmpty hempty)]
  · rename_i hbody
    cases hparse : Json.parseBytes? r.body with
    | none => exact absurd ⟨by simpa using hbody, hparse⟩ h
    | some body => rw [Option.map_some, envelope_of_parse? hparse]

theorem failureMessage_eq (r : Response) :
    Envelope.failureMessage r.body r.status = r.envelope.errorMessage r.status := by
  unfold Envelope.failureMessage
  by_cases h : r.IsGarbled
  · rw [parse?_of_isGarbled h, envelope_of_parse?_eq_none h.2, Option.getD_none]
  · rw [parse?_of_not_isGarbled h, Option.getD_some]

/-! ## What is told of a failed response -/

/-- What a failed response tells: its `error` if that tells something, else the first of its
`errors`, else the status alone. -/
inductive IsFailureText (r : Response) : String → Prop where
  /-- The member `error` tells it. -/
  | error {message : String} (herror : (r.memberOrNull "error").Tells message) :
      IsFailureText r message
  /-- The first item of the array `errors` tells it. -/
  | errors {first : Json} {rest : List Json} {message : String}
      (herror : (r.memberOrNull "error").IsSilent)
      (herrors : r.memberOrNull "errors" = .arr (first :: rest)) (hfirst : first.Tells message) :
      IsFailureText r message
  /-- There is only the status to tell. -/
  | status (herror : (r.memberOrNull "error").IsSilent)
      (herrors : ∀ first rest, r.memberOrNull "errors" = .arr (first :: rest) → first.IsSilent) :
      IsFailureText r ("Request failed (" ++ toString r.status ++ ")")

theorem exists_isFailureText (r : Response) : ∃ text, r.IsFailureText text := by
  by_cases herror : (r.memberOrNull "error").IsSilent
  · by_cases herrors : ∀ first rest, r.memberOrNull "errors" = .arr (first :: rest) → first.IsSilent
    · exact ⟨_, .status herror herrors⟩
    · simp only [Json.IsSilent, not_forall, not_not] at herrors
      obtain ⟨first, rest, herrors, message, hfirst⟩ := herrors
      exact ⟨message, .errors herror herrors hfirst⟩
  · simp only [Json.IsSilent, not_forall, not_not] at herror
    obtain ⟨message, herror⟩ := herror
    exact ⟨message, .error herror⟩

/-- What a failed response tells is the message it is reported with. -/
theorem isFailureText_iff {r : Response} {text : String} :
    r.IsFailureText text ↔ text = Envelope.failureMessage r.body r.status := by
  have hreported : ∀ {text}, r.IsFailureText text →
      text = Envelope.failureMessage r.body r.status := by
    intro text h
    rw [failureMessage_eq]
    cases h with
    | error herror => exact (Envelope.errorMessage_of_tells herror).symm
    | errors herror herrors hfirst =>
      exact (Envelope.errorMessage_of_first herror herrors hfirst).symm
    | status herror herrors => exact (Envelope.errorMessage_of_isSilent herror herrors).symm
  constructor
  · exact hreported
  · rintro rfl
    obtain ⟨text, h⟩ := exists_isFailureText r
    rwa [← hreported h]

/-- What a failed response tells is not the empty text. -/
theorem IsFailureText.ne_empty {r : Response} {text : String} (h : r.IsFailureText text) :
    text ≠ "" := by
  cases h with
  | error herror => exact herror.ne_empty
  | errors _ _ hfirst => exact hfirst.ne_empty
  | status _ _ => simp

/-! ## What the caller of a request gets -/

section Classification

variable {α : Type} (decode : Json.Decoder α)

theorem classify_of_failure {r : Response} (h : ¬ (200 ≤ r.status ∧ r.status ≤ 299)) :
    r.classify decode =
      .error (.requestFailed r.status (Envelope.failureMessage r.body r.status)) := by
  simp [classify, mt isSuccess_iff.mp h]

theorem classify_of_isGarbled {r : Response} (h : 200 ≤ r.status ∧ r.status ≤ 299)
    (hbody : r.IsGarbled) : r.classify decode =
      .error (.invalidResponse ("response body is not JSON: " ++ Json.syntaxError)) := by
  simp [classify, isSuccess_iff.mpr h, parse?_of_isGarbled hbody]

theorem classify_of_not_isGarbled {r : Response} (h : 200 ≤ r.status ∧ r.status ≤ 299)
    (hbody : ¬ r.IsGarbled) : r.classify decode =
      (decode (r.memberOrNull "data")).mapError fun e => .invalidResponse e.message := by
  simp [classify, isSuccess_iff.mpr h, parse?_of_not_isGarbled hbody, envelope]

/-- A successful response is invalid exactly if its body is garbled or its payload does not
decode. -/
theorem classify_eq_invalidResponse_iff {r : Response} (h : 200 ≤ r.status ∧ r.status ≤ 299) :
    (∃ message, r.classify decode = .error (.invalidResponse message)) ↔
      r.IsGarbled ∨ ∃ e, decode (r.memberOrNull "data") = .error e := by
  by_cases hbody : r.IsGarbled
  · simp [classify_of_isGarbled decode h hbody, hbody]
  · rw [classify_of_not_isGarbled decode h hbody]
    cases decode (r.memberOrNull "data") with
    | error e => simp [Except.mapError]
    | ok value => simp [Except.mapError, hbody]

theorem classify_eq_ok_iff {r : Response} (h : 200 ≤ r.status ∧ r.status ≤ 299) {value : α} :
    r.classify decode = .ok value ↔ ¬ r.IsGarbled ∧ decode (r.memberOrNull "data") = .ok value := by
  by_cases hbody : r.IsGarbled
  · simp [classify_of_isGarbled decode h hbody, hbody]
  · rw [classify_of_not_isGarbled decode h hbody]
    cases decode (r.memberOrNull "data") with
    | error e => simp [Except.mapError]
    | ok value => simp [Except.mapError, hbody]

/-- The result of a successful response with an object for a body is the one of its payload. -/
theorem classify_of_members {r : Response} (h : 200 ≤ r.status ∧ r.status ≤ 299)
    {members : List (String × Json)} (hbody : Json.parseBytes? r.body = some (.obj members)) :
    r.classify decode = (decode ((members.lookup "data").getD .null)).mapError
      fun e => .invalidResponse e.message := by
  have hjson : ¬ r.IsGarbled := by simp [IsGarbled, hbody]
  rw [classify_of_not_isGarbled decode h hjson, memberOrNull, hbody]
  rfl

/-- A response outside 200 to 299 is a failure with its status and the one text, never empty, that
is told of it. A response within is invalid exactly if something other than JSON stands in its body
or its payload does not decode, and gives the decoded payload otherwise; of an object nothing but
the payload matters. -/
theorem classification (r : Response) :
    (¬ (200 ≤ r.status ∧ r.status ≤ 299) → ∃ message,
      r.classify decode = .error (.requestFailed r.status message) ∧ message ≠ "" ∧
      ∀ text, r.IsFailureText text ↔ text = message) ∧
    (200 ≤ r.status ∧ r.status ≤ 299 →
      ((∃ message, r.classify decode = .error (.invalidResponse message)) ↔
        r.IsGarbled ∨ ∃ e, decode (r.memberOrNull "data") = .error e) ∧
      (∀ value, r.classify decode = .ok value ↔
        ¬ r.IsGarbled ∧ decode (r.memberOrNull "data") = .ok value) ∧
      ∀ (r' : Response) members members', 200 ≤ r'.status ∧ r'.status ≤ 299 →
        Json.parseBytes? r.body = some (.obj members) →
        Json.parseBytes? r'.body = some (.obj members') →
        members.lookup "data" = members'.lookup "data" →
        r.classify decode = r'.classify decode) := by
  constructor
  · intro hfailure
    refine ⟨_, classify_of_failure decode hfailure, ?_, fun text => isFailureText_iff⟩
    exact (isFailureText_iff.mpr rfl).ne_empty
  · intro hsuccess
    refine ⟨classify_eq_invalidResponse_iff decode hsuccess,
      fun value => classify_eq_ok_iff decode hsuccess, ?_⟩
    intro r' members members' hsuccess' hbody hbody' hdata
    rw [classify_of_members decode hsuccess hbody, classify_of_members decode hsuccess' hbody',
      hdata]

end Classification

end Response

/-! ## What a refresh gets -/

/-- Usable tokens in a body: it is JSON, the tokens are read from its member `data`, and the access
token is not empty. -/
structure Tokens.IsIssuedIn (tokens : Tokens) (body : ByteArray) : Prop where
  /-- They stand in the payload. -/
  read : ∃ content data, Json.parseBytes? body = some content ∧ content.member? "data" = some data ∧
    tokens.IsReadFrom data
  /-- There is an access token in them. -/
  present : tokens.accessToken ≠ ""

theorem Tokens.not_isReadFrom_null (tokens : Tokens) : ¬ tokens.IsReadFrom .null := by
  rintro ⟨⟨_, h⟩ | ⟨_, h, -⟩, -⟩
  · cases h
  · cases h

namespace Response

theorem isReadFrom_memberOrNull_iff {r : Response} {tokens : Tokens} :
    tokens.IsReadFrom (r.memberOrNull "data") ↔
      ∃ content data, Json.parseBytes? r.body = some content ∧ content.member? "data" = some data ∧
        tokens.IsReadFrom data := by
  unfold memberOrNull Json.memberOrNull
  cases Json.parseBytes? r.body with
  | none => simp [tokens.not_isReadFrom_null]
  | some content =>
    cases hdata : content.member? "data" with
    | none => simp [hdata, tokens.not_isReadFrom_null]
    | some data => simp [hdata]

theorem tokens_of_failure {r : Response} (h : ¬ (200 ≤ r.status ∧ r.status ≤ 299)) :
    r.tokens = .error (.rejected r.status (Envelope.failureMessage r.body r.status)) := by
  simp [tokens, mt isSuccess_iff.mp h]

theorem not_isGarbled_of_isIssuedIn {r : Response} {tokens : Tokens}
    (h : tokens.IsIssuedIn r.body) : ¬ r.IsGarbled := by
  obtain ⟨content, _, hparse, -⟩ := h.read
  simp [IsGarbled, hparse]

/-- A successful response gives the tokens that its body issues. -/
theorem tokens_of_isIssuedIn {r : Response} (h : 200 ≤ r.status ∧ r.status ≤ 299) {tokens : Tokens}
    (hissued : tokens.IsIssuedIn r.body) : r.tokens = .ok tokens := by
  have hdecode : Tokens.decode (r.memberOrNull "data") = .ok tokens :=
    Tokens.decode_eq_ok_iff.mpr (isReadFrom_memberOrNull_iff.mpr hissued.read)
  have hparse := parse?_of_not_isGarbled (not_isGarbled_of_isIssuedIn hissued)
  simp [Response.tokens, isSuccess_iff.mpr h, hparse, envelope, hdecode, hissued.present]

/-- A successful response whose body issues no tokens is malformed. -/
theorem tokens_of_not_isIssuedIn {r : Response} (h : 200 ≤ r.status ∧ r.status ≤ 299)
    (hnone : ∀ tokens : Tokens, ¬ tokens.IsIssuedIn r.body) :
    ∃ message, r.tokens = .error (.malformed message) := by
  unfold Response.tokens
  rw [isSuccess_iff.mpr h]
  by_cases hbody : r.IsGarbled
  · exact ⟨Json.syntaxError, by simp [parse?_of_isGarbled hbody]⟩
  · simp only [parse?_of_not_isGarbled hbody, envelope]
    cases hdecode : Tokens.decode (r.memberOrNull "data") with
    | error e => exact ⟨e.message, rfl⟩
    | ok tokens =>
      have hread := isReadFrom_memberOrNull_iff.mp (Tokens.decode_eq_ok_iff.mp hdecode)
      -- The payload decodes, so only the access token can be missing.
      have hempty : tokens.accessToken = "" := by
        by_contra hpresent
        exact hnone tokens ⟨hread, hpresent⟩
      exact ⟨"response does not contain access_token", by simp [hempty]⟩

/-- The three results of a response to a refresh. -/
theorem tokens_cases (r : Response) :
    (¬ (200 ≤ r.status ∧ r.status ≤ 299) ∧
      r.tokens = .error (.rejected r.status (Envelope.failureMessage r.body r.status))) ∨
    ((200 ≤ r.status ∧ r.status ≤ 299) ∧ ∃ tokens : Tokens, tokens.IsIssuedIn r.body ∧
      r.tokens = .ok tokens) ∨
    ((200 ≤ r.status ∧ r.status ≤ 299) ∧ (∀ tokens : Tokens, ¬ tokens.IsIssuedIn r.body) ∧
      ∃ message, r.tokens = .error (.malformed message)) := by
  by_cases hstatus : 200 ≤ r.status ∧ r.status ≤ 299
  · by_cases hissued : ∃ tokens : Tokens, tokens.IsIssuedIn r.body
    · obtain ⟨tokens, hissued⟩ := hissued
      exact .inr (.inl ⟨hstatus, tokens, hissued, tokens_of_isIssuedIn hstatus hissued⟩)
    · have hnone := not_exists.mp hissued
      exact .inr (.inr ⟨hstatus, hnone, tokens_of_not_isIssuedIn hstatus hnone⟩)
  · exact .inl ⟨hstatus, tokens_of_failure hstatus⟩

theorem tokens_eq_ok_iff {r : Response} {tokens : Tokens} : r.tokens = .ok tokens ↔
    (200 ≤ r.status ∧ r.status ≤ 299) ∧ tokens.IsIssuedIn r.body := by
  constructor
  · intro h
    rcases r.tokens_cases with ⟨-, h'⟩ | ⟨hstatus, tokens', hissued, h'⟩ | ⟨-, -, _, h'⟩
    · cases h.symm.trans h'
    · cases h.symm.trans h'
      exact ⟨hstatus, hissued⟩
    · cases h.symm.trans h'
  · rintro ⟨hstatus, hissued⟩
    exact tokens_of_isIssuedIn hstatus hissued

theorem tokens_eq_rejected_iff {r : Response} {status : Nat} {message : String} :
    r.tokens = .error (.rejected status message) ↔
      ¬ (200 ≤ r.status ∧ r.status ≤ 299) ∧ r.status = status ∧ r.IsFailureText message := by
  constructor
  · intro h
    rcases r.tokens_cases with ⟨hstatus, h'⟩ | ⟨-, _, -, h'⟩ | ⟨-, -, _, h'⟩
    · cases h.symm.trans h'
      exact ⟨hstatus, rfl, isFailureText_iff.mpr rfl⟩
    · cases h.symm.trans h'
    · cases h.symm.trans h'
  · rintro ⟨hstatus, rfl, hmessage⟩
    rw [tokens_of_failure hstatus, ← isFailureText_iff.mp hmessage]

theorem tokens_eq_malformed_iff {r : Response} :
    (∃ message, r.tokens = .error (.malformed message)) ↔
      (200 ≤ r.status ∧ r.status ≤ 299) ∧ ∀ tokens : Tokens, ¬ tokens.IsIssuedIn r.body := by
  constructor
  · rintro ⟨message, h⟩
    rcases r.tokens_cases with ⟨-, h'⟩ | ⟨-, _, -, h'⟩ | ⟨hstatus, hnone, -⟩
    · cases h.symm.trans h'
    · cases h.symm.trans h'
    · exact ⟨hstatus, hnone⟩
  · rintro ⟨hstatus, hnone⟩
    exact tokens_of_not_isIssuedIn hstatus hnone

theorem tokens_ne_transport (r : Response) (message : String) :
    r.tokens ≠ .error (.transport message) := by
  intro h
  rcases r.tokens_cases with ⟨-, h'⟩ | ⟨-, _, -, h'⟩ | ⟨-, -, _, h'⟩
  · cases h.symm.trans h'
  · cases h.symm.trans h'
  · cases h.symm.trans h'

end Response

theorem Json.Fits.fieldOrNull {depth : Nat} {v : Json} (h : v.Fits (depth + 1)) (name : String)
    (place : Nat) : (v.fieldOrNull name place).Fits depth := by
  unfold Json.fieldOrNull
  split
  · rename_i members
    cases hmember : members.lookup name with
    | none => exact .null
    | some w => exact h.member? hmember
  · rename_i items
    cases hitem : items[place]? with
    | none => exact .null
    | some w =>
      cases h with
      | arr hitems => exact hitems w (List.mem_of_getElem? hitem)
  · exact .null

/-- What is told as the time that is left is a number of 64 bits. -/
theorem Tokens.IsIssuedIn.expiresIn_lt {tokens : Tokens} {body : ByteArray} (h : tokens.IsIssuedIn body)
    {seconds : Nat} (hseconds : tokens.expiresIn = some seconds) : seconds < 2 ^ 64 := by
  obtain ⟨content, data, hparse, hdata, hread⟩ := h.read
  have hfits : data.Fits 126 := (Json.fits_of_parseBytes? hparse).member? hdata
  have hfield := hfits.fieldOrNull "expires_in" 2
  have hexpires := hread.expires
  rw [hseconds] at hexpires
  rw [hexpires] at hfield
  cases hfield with
  | int hlow hhigh =>
    unfold Json.maxWord at hhigh
    omega

theorem Tokens.not_isIssuedIn_empty (tokens : Tokens) : ¬ tokens.IsIssuedIn .empty := by
  rintro ⟨⟨content, data, hparse, -⟩, -⟩
  rw [Json.parseBytes?_of_isEmpty rfl] at hparse
  cases hparse

/-- An address that cannot be requested is a failure of transport. -/
theorem ApiRoot.exists_transport_of_refreshUrl {root : ApiRoot} {e : RefreshError}
    (h : root.refreshUrl = .error e) : ∃ message, e = .transport message := by
  unfold ApiRoot.refreshUrl at h
  split at h
  · cases h
    exact ⟨_, rfl⟩
  · split at h
    · cases h
    · cases h
      exact ⟨_, rfl⟩

theorem Delivery.tokens_of_incomplete {d : Delivery} (h : ∀ r, d ≠ .response r) (url : Url) :
    ∃ message, d.tokens url = .error (.transport message) := by
  cases d with
  | response r => exact absurd rfl (h r)
  | refused => exact ⟨_, rfl⟩
  | dropped => exact ⟨_, rfl⟩
  | cut => exact ⟨_, rfl⟩

/-- Every other result is one of a complete response. -/
theorem Delivery.tokens_eq_iff {url : Url} {d : Delivery} {result : Except RefreshError Tokens}
    (hresult : ∀ message, result ≠ .error (.transport message)) :
    d.tokens url = result ↔ ∃ r, d = .response r ∧ r.tokens = result := by
  constructor
  · intro h
    by_cases hcomplete : ∃ r, d = .response r
    · obtain ⟨r, rfl⟩ := hcomplete
      exact ⟨r, rfl, h⟩
    · obtain ⟨message, htransport⟩ := tokens_of_incomplete (not_exists.mp hcomplete) url
      exact absurd (h.symm.trans htransport) (hresult message)
  · rintro ⟨r, rfl, h⟩
    exact h

/-- A refresh gives exactly the tokens that a complete successful response issues, with a lifetime
of 64 bits if one is told. It is rejected, with the status and what the response tells, exactly by
a complete response outside 200 to 299; malformed exactly if a complete successful response issues
no tokens, as an empty body does; and a failure of transport exactly if there is no complete
response, which is also what becomes of it if its address cannot be requested. -/
theorem Delivery.refresh_outcome (root : ApiRoot) (url : Url) (d : Delivery) :
    (∀ tokens, d.tokens url = .ok tokens ↔ ∃ r, d = .response r ∧
      (200 ≤ r.status ∧ r.status ≤ 299) ∧ tokens.IsIssuedIn r.body) ∧
    (∀ tokens seconds, d.tokens url = .ok tokens → tokens.expiresIn = some seconds →
      seconds < 2 ^ 64) ∧
    (∀ status message, d.tokens url = .error (.rejected status message) ↔ ∃ r, d = .response r ∧
      ¬ (200 ≤ r.status ∧ r.status ≤ 299) ∧ r.status = status ∧ r.IsFailureText message) ∧
    ((∃ message, d.tokens url = .error (.malformed message)) ↔ ∃ r, d = .response r ∧
      (200 ≤ r.status ∧ r.status ≤ 299) ∧ ∀ tokens : Tokens, ¬ tokens.IsIssuedIn r.body) ∧
    ((∃ message, d.tokens url = .error (.transport message)) ↔ ∀ r, d ≠ .response r) ∧
    (∀ tokens : Tokens, ¬ tokens.IsIssuedIn .empty) ∧
    ∀ e, root.refreshUrl = .error e → ∃ message, e = .transport message := by
  refine ⟨fun tokens => ?_, fun tokens seconds h hseconds => ?_, fun status message => ?_, ?_, ?_,
    Tokens.not_isIssuedIn_empty, fun e => ApiRoot.exists_transport_of_refreshUrl⟩
  · rw [tokens_eq_iff (by simp)]
    simp only [Response.tokens_eq_ok_iff]
  · obtain ⟨r, -, hok⟩ := (tokens_eq_iff (by simp)).mp h
    exact (Response.tokens_eq_ok_iff.mp hok).2.expiresIn_lt hseconds
  · rw [tokens_eq_iff (by simp)]
    simp only [Response.tokens_eq_rejected_iff]
  · constructor
    · rintro ⟨message, h⟩
      obtain ⟨r, hd, hmalformed⟩ := (tokens_eq_iff (by simp)).mp h
      exact ⟨r, hd, Response.tokens_eq_malformed_iff.mp ⟨message, hmalformed⟩⟩
    · rintro ⟨r, rfl, h⟩
      exact Response.tokens_eq_malformed_iff.mpr h
  · constructor
    · rintro ⟨message, h⟩ r rfl
      exact r.tokens_ne_transport message h
    · intro hincomplete
      exact tokens_of_incomplete hincomplete url

end BearerClient
