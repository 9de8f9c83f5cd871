import BearerClient.Http.Exchange
import BearerClient.Refresh.Coordinator

/-!
# Calls

A call is one caller at work: either a request of the API, from the reading of the session to the
payload, or a bare question for a fresh token. A request sends at most two attempts. If the first
one is refused it asks for a fresh token, and a second attempt that is refused too ends the session.
-/

namespace BearerClient

/-- What kind of payload a caller wants. -/
inductive Shape where
  /-- Any JSON value. -/
  | value
  /-- A session. -/
  | session
  /-- Tokens. -/
  | tokens
  /-- A text. -/
  | text
  deriving DecidableEq, Repr

/-- A payload of one of the kinds. -/
inductive Payload where
  /-- Any JSON value. -/
  | value (v : Json)
  /-- A session. -/
  | session (s : Session)
  /-- Tokens. -/
  | tokens (t : Tokens)
  /-- A text. -/
  | text (s : String)

/-- Reads a payload of the wanted kind. -/
def Shape.decode : Shape → Json.Decoder Payload
  | value => fun v => .ok (.value v)
  | session => fun v => (Session.decode v).map .session
  | tokens => fun v => (Tokens.decode v).map .tokens
  | text => fun v => (Json.decodeString v).map .text

/-- What a caller is after. -/
inductive Purpose where
  /-- The payload of a request. -/
  | request (d : Descriptor) (shape : Shape)
  /-- A token in place of one that was refused. -/
  | token (rejected : String)

/-- What a caller gets in the end. -/
inductive Answer where
  /-- The payload of a request, or why there is none. -/
  | payload (result : Except GatewayError Payload)
  /-- A fresh token, or why there is none. -/
  | token (result : Except RefreshError String)
  /-- The caller broke down. -/
  | panicked

/-- How far a caller has come in getting a fresh token. -/
inductive Asking where
  /-- It is about to look at the count of settled cycles. -/
  | entering
  /-- It has seen the count and is about to read the session. -/
  | counted (settled : Nat)
  /-- It has read the session and is about to take the lock. -/
  | seen (settled : Nat) (current : Option Session)
  /-- It waits in the queue of a cycle. -/
  | queued (cycle : Nat)
  /-- It knows the result. -/
  | told (result : Except RefreshError String)

/-- How far a caller has come. -/
inductive Phase where
  /-- It is about to read the session. -/
  | opening
  /-- It waits for the answer to its first attempt, sent under `token`. -/
  | first (token : String) (request : Request)
  /-- It wants a token in place of `rejected`. -/
  | asking (rejected : String) (progress : Asking)
  /-- It waits for the answer to its second attempt, sent under `token`. -/
  | second (token : String) (request : Request)
  /-- It is about to end the session that holds `token`, and will then end as expired. -/
  | expiring (token : String) (reason : String)
  /-- It has its answer. -/
  | ended (answer : Answer)
  /-- It was given up by its owner and gets no answer. -/
  | abandoned

/-- A caller at work. -/
structure Call where
  /-- What the caller is after. -/
  purpose : Purpose
  /-- How far it has come. -/
  phase : Phase

namespace Call

/-- A caller that has not done anything yet. -/
def new (purpose : Purpose) : Call where
  purpose := purpose
  phase := match purpose with
    | .request _ _ => .opening
    | .token rejected => .asking rejected .entering

/-- Whether the caller can go on by itself, without an answer from elsewhere. -/
def isRunnable (call : Call) : Bool :=
  match call.phase with
  | .opening | .expiring _ _ => true
  | .asking _ (.queued _) => false
  | .asking _ _ => true
  | _ => false

/-- Whether the caller waits for something from elsewhere. -/
def isWaiting (call : Call) : Bool :=
  match call.phase with
  | .first _ _ | .second _ _ | .asking _ (.queued _) => true
  | _ => false

/-- The request that the caller waits for the answer to. -/
def outstanding? (call : Call) : Option Request :=
  match call.phase with
  | .first _ r | .second _ r => some r
  | _ => none

/-- Whether the caller waits in the queue of a cycle. -/
def isQueued (call : Call) : Bool :=
  match call.phase with
  | .asking _ (.queued _) => true
  | _ => false

end Call

end BearerClient
