import BearerClient.Rehearsal

/-!
# Single exchanges

One attempt of a request, and one refresh exchange, each against a stand-in that answers with a
prepared reply. Both give the requests that arrived there, beside the result.
-/

namespace BearerClient.Rehearsal

/-- What comes back for a request whose answer is prepared; nothing if no answer ever comes. -/
def answerTo (listener : Option Url.Origin) (reply : Reply) (request : Request) : Option Delivery :=
  if request.url.reaches listener then reply.delivery? request.method else some .refused

/-- The request if it arrives. -/
def arrived (listener : Option Url.Origin) (request : Request) : List Request :=
  if request.url.reaches listener then [request] else []

/-- Sends one attempt. -/
def sendOnce (root : ApiRoot) (listener : Option Url.Origin) (d : Descriptor) (token : String)
    (reply : Reply) : List Request × Except GatewayError Response :=
  match Request.build root d token with
  | .error message => ([], .error (.internal message))
  | .ok request =>
    if request.url.isSendable then
      (arrived listener request,
        match answerTo listener reply request with
        | none => .error (.timeout d.timeoutMs)
        | some delivery => (delivery.response? request.url).mapError TransportError.toGatewayError)
    else ([], .error (TransportError.unsupported request.url.text).toGatewayError)

/-- Exchanges one refresh token. -/
def refreshOnce (root : ApiRoot) (listener : Option Url.Origin) (refreshToken : String)
    (reply : Reply) : List Request × Except RefreshError Tokens :=
  match root.refreshUrl with
  | .error e => ([], .error e)
  | .ok url =>
    let request := Request.refresh url refreshToken
    (arrived listener request,
      ((answerTo listener reply request).getD .dropped).tokens request.url)

end BearerClient.Rehearsal
