import BearerClient.Gateway
import BearerClient.Http.Reply
import BearerClient.Session.Table
import BearerClient.Settings

/-!
# One request of a run

The backend of a run is a stand-in with prepared replies, used up in order by the requests that
reach it; when none is left, connections are closed without an answer. Where nothing listens, a
connection is refused. A run has one call at a time, so its steps and those of its cycle come one
after the other.
-/

namespace BearerClient.Program

/-- A stand-in for the backend. -/
structure Backend where
  /-- Where it listens, if it does. -/
  listener : Option Url.Origin
  /-- The replies to requests. -/
  replies : List Reply
  /-- The replies to refreshes. -/
  refreshReplies : List Reply

/-- The reply when none is left. -/
def Backend.noReply : Reply := ⟨200, .empty, .dropped⟩

/-- A request in progress. -/
structure Exchange where
  /-- The gateway, with one call. -/
  gateway : Gateway OpenDatabase
  /-- The backend. -/
  backend : Backend

namespace Exchange

/-- The backend answers an attempt, or its time budget is used up. -/
def answerAttempt (request : Request) (x : Exchange) : Exchange :=
  if !request.url.reaches x.backend.listener then
    { x with gateway := x.gateway.deliver 0 .refused }
  else
    let reply := x.backend.replies.headD Backend.noReply
    { gateway := match reply.delivery? request.method with
        | some d => x.gateway.deliver 0 d
        | none => x.gateway.expire 0
      backend := { x.backend with replies := x.backend.replies.drop 1 } }

/-- The backend answers a refresh; without an answer the shorter of the two time limits ends the
wait. -/
def answerRefresh (settings : Settings) (timeoutMs : Nat) (cycle : Nat) (request : Request)
    (x : Exchange) : Exchange :=
  if !request.url.reaches x.backend.listener then
    { x with gateway := x.gateway.deliverRefresh cycle .refused }
  else
    let reply := x.backend.refreshReplies.headD Backend.noReply
    { gateway := match reply.delivery? request.method with
        | some d => x.gateway.deliverRefresh cycle d
        | none =>
          if settings.refreshTimeoutMs < timeoutMs then x.gateway.expireRefresh cycle
          else x.gateway.expire 0
      backend := { x.backend with refreshReplies := x.backend.refreshReplies.drop 1 } }

/-- Takes the next step of the one call and its cycle. -/
def step (settings : Settings) (timeoutMs : Nat) (x : Exchange) : Exchange :=
  match x.gateway.coordinator.cycles, x.gateway.calls with
  | cycle :: _, _ =>
    match cycle.outstanding? with
    | some request => x.answerRefresh settings timeoutMs cycle.number request
    | none => { x with gateway := x.gateway.advanceCycle cycle.number }
  | [], call :: _ =>
    match call.outstanding? with
    | some request => x.answerAttempt request
    | none => { x with gateway := x.gateway.advance 0 }
  | [], [] => x

/-- The answer of the one call. -/
def answer? (x : Exchange) : Option Answer :=
  match x.gateway.calls with
  | ⟨_, .ended answer⟩ :: _ => some answer
  | _ => none

/-- Goes on until the call has its answer, for at most so many steps. -/
def runWithin (settings : Settings) (timeoutMs : Nat) : Nat → Exchange → Exchange
  | 0, x => x
  | steps + 1, x =>
    if x.answer?.isSome then x else runWithin settings timeoutMs steps (x.step settings timeoutMs)

/-- A bound on the steps of one call with the at most one cycle that it starts. -/
def stepBound : Nat := 40

/-- Goes on until the call has its answer. -/
def run (settings : Settings) (timeoutMs : Nat) (x : Exchange) : Exchange :=
  runWithin settings timeoutMs stepBound x

/-- The requests that have arrived, by kind, in order. -/
def sent (x : Exchange) : List (String × Request) :=
  let requests := x.gateway.log.reverse.filterMap fun notice =>
    match notice with
    | .attempt _ _ request => some ("api", request)
    | .exchange _ _ request => some ("refresh", request)
    | _ => none
  let arrived := requests.filter fun (_, request) => request.url.reaches x.backend.listener
  arrived.filter (·.1 = "api") ++ arrived.filter (·.1 = "refresh")

end Exchange

end BearerClient.Program
