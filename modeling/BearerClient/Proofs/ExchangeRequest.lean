import BearerClient.Http.Exchange
import BearerClient.Proofs.JsonRoundTrip

/-!
# The request that exchanges a refresh token

Whatever the refresh token is and wherever the request goes, what the backend reads out of it is
that token and nothing else (`Request.exchanges_refresh`).
-/

namespace BearerClient

theorem Tokens.parseBytes?_exchangeBody (refreshToken : String) :
    Json.parseBytes? (exchangeBody refreshToken).compact.toUTF8 =
      some (exchangeBody refreshToken) := by
  apply Json.parseBytes?_compact
  · exact .obj (List.pairwise_singleton _ _) (by simpa using .str refreshToken)
  · exact .obj (by simpa using .str refreshToken)

namespace Request

/-- A request that posts a refresh token, as the only member of a JSON object. -/
structure Exchanges (refreshToken : String) (r : Request) : Prop where
  /-- The request posts. -/
  method : r.method = .post
  /-- It says that the body is JSON. -/
  contentType : r.headers.get? "content-type" = some "application/json"
  /-- The body reads as the object. -/
  body : ∃ text, r.body = some text ∧
    Json.parseBytes? text.toUTF8 = some (.obj [("refresh_token", .str refreshToken)])

theorem exchanges_refresh (url : Url) (refreshToken : String) :
    (refresh url refreshToken).Exchanges refreshToken where
  method := rfl
  contentType := by
    unfold refresh
    cases url.credentials? with
    | none => rfl
    | some credentials => rfl
  body := ⟨_, rfl, Tokens.parseBytes?_exchangeBody refreshToken⟩

end Request

end BearerClient
