import BearerClient.Proofs.Callers
import BearerClient.Proofs.ExchangeRequest
import BearerClient.Proofs.Responses

/-!
# What is written is what is read

A refresh token in the body of an exchange, a session written as text and a payload in a response
are read as they were written: no character is lost to escaping, no digit to rounding, and no level
of nesting to the depth at which a reader stops. The main statement is `Gateway.fidelity`.
-/

namespace BearerClient

/-! ## Sessions -/

namespace Json

variable (text? : Option String)

theorem fits_ofString? {depth : Nat} : (ofString? text?).Fits depth := by
  cases text? with
  | none => exact .null
  | some text => exact .str text

theorem isExact_ofString? : (ofString? text?).IsExact := by
  cases text? with
  | none => exact .null
  | some text => exact .str text

theorem decodeOptional_ofString? : decodeOptional decodeString (ofString? text?) = .ok text? := by
  cases text? with
  | none => rfl
  | some text => rfl

end Json

namespace Session

theorem parse?_toJson (s : Session) : Json.parse? s.toJson.compact = some s.toJson := by
  apply Json.parse?_compact
  · have hkeys : ["access_token", "refresh_token", "tenant_id"].Pairwise (· < ·) := by decide
    refine .obj (List.pairwise_map.mp hkeys) ?_
    simp [Json.fits_ofString?, Json.Fits.str]
  · refine .obj ?_
    simp [Json.isExact_ofString?, Json.IsExact.str]

theorem decode_toJson (s : Session) : decode s.toJson = .ok s := by
  unfold decode toJson Json.decodeRecord
  simp only [ofMembers, Json.decodeOptionalMember_eq, bind_eq_ok_iff]
  exact ⟨some s.accessToken, rfl, s.refreshToken, Json.decodeOptional_ofString? _, s.tenantId,
    Json.decodeOptional_ofString? _, s.accessToken, rfl, rfl⟩

end Session

/-! ## Payloads -/

namespace Gateway

variable {σ : Type}

/-- A caller that waits for the answer to an attempt ends with what the response comes to, unless
it refuses the access token. -/
theorem phase?_deliver_of_response {g : Gateway σ} {id : CallId} {call : Call} {d : Descriptor}
    {shape : Shape} (hcall : g.calls[id]? = some call) (hpurpose : call.purpose = .request d shape)
    (hwaits : call.outstanding?.isSome = true) {response : Response}
    (hauthorized : response.isUnauthorized = false) :
    (g.deliver id (.response response)).phase? id =
      some (.ended (.payload (response.classify shape.decode))) := by
  obtain ⟨purpose, phase⟩ := call
  obtain rfl : purpose = .request d shape := hpurpose
  have htaken : ∀ request refused,
      (g.takeAnswer id shape request refused (.response response)).phase? id =
        some (.ended (.payload (response.classify shape.decode))) := by
    intro request refused
    have hmoved : g.takeAnswer id shape request refused (.response response) =
        g.moved id (.ended (.payload (response.classify shape.decode))) g.store
          [.finished id (.payload (response.classify shape.decode)),
            .answered id response.status] := by
      simp only [takeAnswer, Delivery.response?, hauthorized, Bool.false_eq_true, if_false]
      rfl
    rw [hmoved, phase?_moved hcall, if_pos rfl]
  unfold deliver
  rw [hcall]
  cases phase with
  | first token request => exact htaken request _
  | second token request => exact htaken request _
  | _ => cases hwaits

/-- What is written is what is read: a refresh token in the body of an exchange, a session in its
text, and the payload of a successful response to a caller that takes any value. The payload and
whatever else is in the body may nest 126 deep, as the body adds one level of the 127 that a reader
goes down. -/
theorem fidelity (σ : Type) :
    (∀ url refreshToken, ∃ text, (Request.refresh url refreshToken).body = some text ∧
      Json.parseBytes? text.toUTF8 = some (.obj [("refresh_token", .str refreshToken)])) ∧
    (∀ s : Session, ∃ v, Json.parse? s.toJson.compact = some v ∧ Session.decode v = .ok s) ∧
    ∀ (members : List (String × Json)) (data : Json),
      (members.Pairwise fun a b => a.1 < b.1) →
      (∀ member ∈ members, member.2.Fits 126 ∧ member.2.IsExact) →
      members.lookup "data" = some data →
      ∀ (g : Gateway σ) (id : CallId) (call : Call) (d : Descriptor),
        g.calls[id]? = some call → call.purpose = .request d .value →
        call.outstanding?.isSome = true →
        (g.deliver id (.response ⟨200, (Json.obj members).compact.toUTF8⟩)).phase? id =
          some (.ended (.payload (.ok (.value data)))) := by
  refine ⟨fun url refreshToken => ⟨_, rfl, ?_⟩, fun s => ⟨_, s.parse?_toJson, s.decode_toJson⟩, ?_⟩
  · exact Tokens.parseBytes?_exchangeBody refreshToken
  · intro members data hsorted hvalues hdata g id call d hcall hpurpose hwaits
    have hread : Json.parseBytes? (Json.obj members).compact.toUTF8 = some (.obj members) :=
      Json.parseBytes?_compact (.obj hsorted fun member hmem => (hvalues member hmem).1)
        (.obj fun member hmem => (hvalues member hmem).2)
    rw [phase?_deliver_of_response hcall hpurpose hwaits rfl,
      Response.classify_of_members Shape.value.decode (by simp) hread, hdata]
    rfl

end Gateway

end BearerClient
