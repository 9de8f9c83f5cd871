import BearerClient.Proofs.Refusals
import BearerClient.Proofs.Waiters

/-!
# Giving up

A caller that waits in the queue of a cycle may give up, and the caller that started the cycle may
do so too. It leaves its place behind, and the cycle goes on as if the caller still waited. To say
so, a run is compared with the same run in which certain callers stay (`staying`). The two gateways
are `Alike` after every step: they differ in what has become of the callers that have given up in
the one and wait, or have passed on what they were told, in the other. The main statement is
`giving_up_disturbs_nothing`.
-/

namespace BearerClient

/-- Whether a caller in the phase has queued and done nothing since but to pass on a result. -/
def Phase.isStaying : Phase → Bool
  | .asking _ (.queued _) | .asking _ (.told _) | .ended (.token _) => true
  | _ => false

/-- Nobody gives up and goes on. -/
theorem Phase.over_of_isGivenUp {phase : Phase} (h : phase.isGivenUp = true) :
    phase = .abandoned ∨ ∃ answer, phase = .ended answer := by
  unfold isGivenUp at h
  split at h
  · exact .inl rfl
  · exact .inr ⟨_, rfl⟩
  · cases h

/-- Whether a caller is after a payload. -/
def Purpose.isRequest : Purpose → Bool
  | .request _ _ => true
  | .token _ => false

/-- Whether a notice is not about the answer of one of certain callers. -/
def Notice.isKept (quits : CallId → Bool) : Notice → Bool
  | .finished id _ => !quits id
  | _ => true

namespace Gateway

variable {σ : Type}

/-! ## The run in which they stay -/

/-- Whether a step does not take place when certain callers stay: one of them gives up its place in
a queue, or is given up once more after that. The turns that a request gets when it has given up are
empty, and do not take place either; with them it would send its second attempt, if it stayed. -/
def isQuitting (quits : CallId → Bool) (g : Gateway σ) : Action σ → Bool
  | .expire id | .abandon id =>
    quits id && g.calls[id]?.any fun call => call.isQueued || call.phase.isGivenUp
  | .advance id =>
    quits id && g.calls[id]?.any fun call => call.purpose.isRequest && call.phase.isGivenUp
  | _ => false

/-- A caller is one of those that give up, and has done so in the first gateway, but stays in the
second one. -/
def Outstays (quits : CallId → Bool) (g g' : Gateway σ) (id : CallId) : Prop :=
  quits id = true ∧ ∃ purpose gone stays, g.calls[id]? = some ⟨purpose, gone⟩ ∧
    g'.calls[id]? = some ⟨purpose, stays⟩ ∧ gone.isGivenUp = true ∧ stays.isStaying = true

/-- Two gateways that differ only in callers that have given up in the first one. -/
structure Alike (quits : CallId → Bool) (g g' : Gateway σ) : Prop where
  /-- The root of the API is the same. -/
  root : g'.root = g.root
  /-- The store is the same. -/
  store : g'.store = g.store
  /-- The same sessions have ended. -/
  invalidator : g'.invalidator = g.invalidator
  /-- The cycles and the queue are the same. -/
  coordinator : g'.coordinator = g.coordinator
  /-- The same callers have come. -/
  length : g'.calls.length = g.calls.length
  /-- They are where they are in the first one, or have given up there. -/
  calls : ∀ id, g'.calls[id]? = g.calls[id]? ∨ Outstays quits g g' id
  /-- The same has happened, but for answers to those who give up. -/
  log : g'.log.filter (Notice.isKept quits) = g.log.filter (Notice.isKept quits)

variable {quits : CallId → Bool} {g g' : Gateway σ} {id : CallId}

/-- A step that does not take place when certain callers stay is one of a caller that has given up
before, or the one in which it gives up its place in a queue. -/
theorem quitting_cases {a : Action σ} (h : g.isQuitting quits a = true) :
    ∃ id call, quits id = true ∧ a.IsBy id ∧ g.calls[id]? = some call ∧
      (call.phase.isGivenUp = true ∨
        call.isQueued = true ∧ (a = .expire id ∨ a = .abandon id)) := by
  cases a with
  | advance id =>
    obtain ⟨hquits, hany⟩ := Bool.and_eq_true_iff.mp h
    obtain ⟨call, hcall, hand⟩ := (Option.any_eq_true _ _).mp hany
    exact ⟨id, call, hquits, rfl, hcall, .inl (Bool.and_eq_true_iff.mp hand).2⟩
  | expire id =>
    obtain ⟨hquits, hany⟩ := Bool.and_eq_true_iff.mp h
    obtain ⟨call, hcall, hor⟩ := (Option.any_eq_true _ _).mp hany
    refine ⟨id, call, hquits, rfl, hcall, ?_⟩
    rcases Bool.or_eq_true_iff.mp hor with hqueued | hgone
    · exact .inr ⟨hqueued, .inl rfl⟩
    · exact .inl hgone
  | abandon id =>
    obtain ⟨hquits, hany⟩ := Bool.and_eq_true_iff.mp h
    obtain ⟨call, hcall, hor⟩ := (Option.any_eq_true _ _).mp hany
    refine ⟨id, call, hquits, rfl, hcall, ?_⟩
    rcases Bool.or_eq_true_iff.mp hor with hqueued | hgone
    · exact .inr ⟨hqueued, .inr rfl⟩
    · exact .inl hgone
  | _ => cases h

theorem Alike.refl (quits : CallId → Bool) (g : Gateway σ) : Alike quits g g :=
  ⟨rfl, rfl, rfl, rfl, rfl, fun _ => .inl rfl, rfl⟩

theorem Alike.phase? (h : Alike quits g g') (hgone : quits id = true → ¬ g.HasGivenUp id) :
    g'.phase? id = g.phase? id := by
  rcases h.calls id with hsame | ⟨hquits, _, gone, _, hcall, -, hgivenUp, -⟩
  · unfold Gateway.phase?
    rw [hsame]
  · exact absurd ⟨gone, phase?_of_calls hcall, hgivenUp⟩ (hgone hquits)

/-! ## The parts of a step -/

theorem calls_setPhase_of_ne {other : CallId} (hne : other ≠ id) (phase : Phase) :
    (g.setPhase id phase).calls[other]? = g.calls[other]? := by
  simp only [setPhase, List.getElem?_modify]
  simp [Ne.symm hne]

theorem calls_setPhase_self {call : Call} (hcall : g.calls[id]? = some call) (phase : Phase) :
    (g.setPhase id phase).calls[id]? = some { call with phase := phase } := by
  simp [setPhase, hcall]

/-- What is known of a caller stays known when it is left alone on both sides. -/
theorem Alike.calls_of_same (h : Alike quits g g') {first second : Gateway σ}
    (hfirst : first.calls[id]? = g.calls[id]?) (hsecond : second.calls[id]? = g'.calls[id]?) :
    second.calls[id]? = first.calls[id]? ∨ Outstays quits first second id := by
  rw [Outstays, hfirst, hsecond]
  exact h.calls id

theorem Alike.note (h : Alike quits g g') (notice : Notice) :
    Alike quits (g.note notice) (g'.note notice) := by
  refine { h with log := ?_ }
  simp only [Gateway.note, List.filter_cons, h.log]

theorem Alike.setPhase (h : Alike quits g g') (hsame : g'.calls[id]? = g.calls[id]?)
    (phase : Phase) : Alike quits (g.setPhase id phase) (g'.setPhase id phase) := by
  refine { h with length := ?_, calls := ?_ }
  · simp only [Gateway.setPhase, List.length_modify, h.length]
  · intro other
    by_cases hother : other = id
    · subst hother
      left
      simp only [Gateway.setPhase, List.getElem?_modify, hsame]
    · exact h.calls_of_same (calls_setPhase_of_ne hother _) (calls_setPhase_of_ne hother _)

theorem Alike.finish (h : Alike quits g g') (hsame : g'.calls[id]? = g.calls[id]?)
    (answer : Answer) : Alike quits (g.finish id answer) (g'.finish id answer) :=
  (h.setPhase hsame _).note _

theorem Alike.fail (h : Alike quits g g') (hsame : g'.calls[id]? = g.calls[id]?)
    (e : GatewayError) : Alike quits (g.fail id e) (g'.fail id e) :=
  h.finish hsame _

theorem Alike.put (h : Alike quits g g') (store : σ) :
    Alike quits { g with store := store } { g' with store := store } :=
  { h with store := rfl }

theorem Alike.coordinatedBy (h : Alike quits g g') (c : Coordinator) :
    Alike quits (g.coordinatedBy c) (g'.coordinatedBy c) :=
  { h with coordinator := rfl }

theorem Alike.setStage (h : Alike quits g g') (number : Nat) (stage : Stage) :
    Alike quits (g.setStage number stage) (g'.setStage number stage) := by
  refine { h with coordinator := ?_ }
  simp only [Gateway.setStage, h.coordinator]

/-- What a caller does that stays does not matter if it only passes on what it is told. -/
theorem Alike.stays (h : Alike quits g g') (houtstays : Outstays quits g g' id) {phase : Phase}
    (hphase : phase.isStaying = true) : Alike quits g (g'.setPhase id phase) := by
  refine { h with length := ?_, calls := ?_ }
  · simp only [Gateway.setPhase, List.length_modify, h.length]
  · intro other
    by_cases hother : other = id
    · subst hother
      obtain ⟨hquits, purpose, gone, stays, hcall, hcall', hgone, -⟩ := houtstays
      right
      exact ⟨hquits, purpose, gone, phase, hcall, calls_setPhase_self hcall' phase, hgone, hphase⟩
    · exact h.calls_of_same rfl (calls_setPhase_of_ne hother _)

/-- A caller that stays gets an answer. -/
theorem Alike.hears (h : Alike quits g g') (houtstays : Outstays quits g g' id)
    (result : Except RefreshError String) : Alike quits g (g'.finish id (.token result)) := by
  have hstays : Alike quits g (g'.setPhase id (.ended (.token result))) := h.stays houtstays rfl
  refine { hstays with log := ?_ }
  simp only [Gateway.finish, Gateway.note, List.filter_cons, Notice.isKept, houtstays.1]
  exact h.log

/-- A caller gives up that waits in a queue. -/
theorem Alike.leaves (h : Alike quits g g') (hquits : quits id = true)
    (hsame : g'.calls[id]? = g.calls[id]?) {call : Call} (hcall : g.calls[id]? = some call)
    (hqueued : call.isQueued = true) {phase : Phase} (hgone : phase.isGivenUp = true) :
    Alike quits (g.setPhase id phase) g' := by
  refine { h with length := ?_, calls := ?_ }
  · simp only [Gateway.setPhase, List.length_modify, h.length]
  · intro other
    by_cases hother : other = id
    · subst hother
      obtain ⟨purpose, stays⟩ := call
      have hstays : stays.isStaying = true := by
        unfold Call.isQueued at hqueued
        split at hqueued
        · rename_i hphase
          cases hphase
          rfl
        · cases hqueued
      right
      exact ⟨hquits, purpose, phase, stays, calls_setPhase_self hcall phase, hsame.trans hcall,
        hgone, hstays⟩
    · exact h.calls_of_same (calls_setPhase_of_ne hother _) rfl

/-! ## Steps of callers -/

section Callers

theorem Alike.start (h : Alike quits g g') (purpose : Purpose) :
    Alike quits (g.start purpose) (g'.start purpose) := by
  refine { h with length := ?_, calls := ?_ }
  · simp only [Gateway.start, List.length_append, h.length]
  · intro id
    rcases h.calls id with hsame | ⟨hquits, _, _, _, hcall, hcall', hphases⟩
    · left
      simp only [Gateway.start, List.getElem?_append, hsame, h.length]
    · right
      have hlt : id < g.calls.length := (List.getElem?_eq_some_iff.mp hcall).1
      have hlt' : id < g'.calls.length := (List.getElem?_eq_some_iff.mp hcall').1
      refine ⟨hquits, _, _, _, Eq.trans ?_ hcall, Eq.trans ?_ hcall', hphases⟩
      · rw [Gateway.start, List.getElem?_append_left hlt]
      · rw [Gateway.start, List.getElem?_append_left hlt']

theorem Alike.attempt (h : Alike quits g g') (hsame : g'.calls[id]? = g.calls[id]?)
    (d : Descriptor) (token : String) (phase : Request → Phase) :
    Alike quits (g.attempt id d token phase) (g'.attempt id d token phase) := by
  unfold Gateway.attempt
  rw [h.root]
  cases Request.build g.root d token with
  | error message => exact h.fail hsame _
  | ok request =>
    dsimp only
    split
    · exact (h.setPhase hsame _).note _
    · exact h.fail hsame _

theorem Alike.takeAnswer (h : Alike quits g g') (hsame : g'.calls[id]? = g.calls[id]?)
    (shape : Shape) (request : Request) (refused : Phase) (d : Delivery) :
    Alike quits (g.takeAnswer id shape request refused d)
      (g'.takeAnswer id shape request refused d) := by
  unfold Gateway.takeAnswer
  cases d.response? request.url with
  | error e => exact h.fail hsame _
  | ok response =>
    have hnoted := h.note (.answered id response.status)
    dsimp only
    split
    · exact hnoted.setPhase hsame _
    · exact hnoted.finish hsame _

theorem Alike.decideFor (h : Alike quits g g') (hsame : g'.calls[id]? = g.calls[id]?)
    (rejected : String) (settled : Nat) (current : Option Session) :
    Alike quits (g.decideFor id rejected settled current)
      (g'.decideFor id rejected settled current) := by
  unfold Gateway.decideFor
  rw [h.coordinator]
  dsimp only
  cases g.coordinator.decide rejected settled current with
  | join => exact ((h.coordinatedBy (g.coordinator.join id)).setPhase hsame _).note _
  | again => exact h.setPhase hsame _
  | give result => exact h.setPhase hsame _
  | start => exact (h.coordinatedBy (g.coordinator.start id rejected)).setPhase hsame _

theorem Alike.useResult (h : Alike quits g g') (hsame : g'.calls[id]? = g.calls[id]?)
    (purpose : Purpose) (rejected : String) (result : Except RefreshError String) :
    Alike quits (g.useResult id purpose rejected result)
      (g'.useResult id purpose rejected result) := by
  match purpose, result with
  | .token _, result => exact h.finish hsame _
  | .request d _, .ok token => exact h.attempt hsame d token _
  | .request _ _, .error e => exact h.setPhase hsame _

theorem Alike.deliver_of_same (h : Alike quits g g') (hsame : g'.calls[id]? = g.calls[id]?)
    (d : Delivery) : Alike quits (g.deliver id d) (g'.deliver id d) := by
  unfold Gateway.deliver
  rw [hsame]
  split
  · exact h.takeAnswer hsame _ _ _ d
  · exact h.takeAnswer hsame _ _ _ d
  · exact h

theorem Alike.expire_of_same (h : Alike quits g g') (hsame : g'.calls[id]? = g.calls[id]?) :
    Alike quits (g.expire id) (g'.expire id) := by
  unfold Gateway.expire
  rw [hsame]
  split
  · split
    · exact h.fail hsame _
    · exact h
  · exact h

theorem Alike.abandon_of_same (h : Alike quits g g') (hsame : g'.calls[id]? = g.calls[id]?) :
    Alike quits (g.abandon id) (g'.abandon id) := by
  unfold Gateway.abandon
  rw [hsame]
  split
  · split
    · exact h.setPhase hsame _
    · exact h
  · exact h

variable [Store σ]

theorem Alike.readFor (h : Alike quits g g') (hsame : g'.calls[id]? = g.calls[id]?)
    (rejected : String) (settled : Nat) :
    Alike quits (g.readFor id rejected settled) (g'.readFor id rejected settled) := by
  unfold Gateway.readFor
  rw [h.store]
  rcases Store.get g.store with ⟨outcome, store⟩
  cases outcome with
  | ok current => exact (h.put store).setPhase hsame _
  | failed message => exact (h.put store).setPhase hsame _
  | panicked => exact (h.put store).finish hsame _

theorem Alike.openRequest (h : Alike quits g g') (hsame : g'.calls[id]? = g.calls[id]?)
    (d : Descriptor) : Alike quits (g.openRequest id d) (g'.openRequest id d) := by
  unfold Gateway.openRequest
  rw [h.store]
  rcases Store.get g.store with ⟨outcome, store⟩
  match outcome with
  | .ok none => exact (h.put store).fail hsame _
  | .ok (some session) => exact (h.put store).attempt hsame d _ _
  | .failed message => exact (h.put store).fail hsame _
  | .panicked => exact (h.put store).finish hsame _

/-- The one who ends sessions does the same in both, and says the same about it. -/
theorem Alike.invalidate (h : Alike quits g g') (token reason : String) :
    (g'.invalidate token reason).1 = (g.invalidate token reason).1 ∧
      Alike quits (g.invalidate token reason).2 (g'.invalidate token reason).2 := by
  unfold Gateway.invalidate
  rw [h.invalidator, h.store]
  exact ⟨rfl, { h with store := rfl, invalidator := rfl }⟩

theorem Alike.expireSession (h : Alike quits g g') (hsame : g'.calls[id]? = g.calls[id]?)
    (token reason : String) :
    Alike quits (g.expireSession id token reason) (g'.expireSession id token reason) := by
  obtain ⟨houtcome, hafter⟩ := h.invalidate token reason
  have hsame' : (g'.invalidate token reason).2.calls[id]? =
      (g.invalidate token reason).2.calls[id]? := hsame
  unfold Gateway.expireSession
  rcases hinv : g.invalidate token reason with ⟨outcome, after⟩
  rcases hinv' : g'.invalidate token reason with ⟨outcome', after'⟩
  rw [hinv, hinv'] at houtcome hafter hsame'
  obtain rfl : outcome' = outcome := houtcome
  cases outcome' with
  | panicked => exact hafter.finish hsame' _
  | ok => exact hafter.fail hsame' _
  | failed => exact hafter.fail hsame' _

theorem Alike.advance_of_same (h : Alike quits g g') (hsame : g'.calls[id]? = g.calls[id]?) :
    Alike quits (g.advance id) (g'.advance id) := by
  unfold Gateway.advance
  rw [hsame]
  cases hcall : g.calls[id]? with
  | none => exact h
  | some call =>
    obtain ⟨purpose, phase⟩ := call
    have hsame' : g'.calls[id]? = g.calls[id]? := hsame
    cases phase with
    | opening =>
      cases purpose with
      | request d shape => exact h.openRequest hsame' d
      | token => exact h
    | asking rejected progress =>
      cases progress with
      | entering =>
        rw [h.coordinator]
        cases purpose <;> exact h.setPhase hsame' _
      | counted settled => cases purpose <;> exact h.readFor hsame' rejected settled
      | seen settled current => cases purpose <;> exact h.decideFor hsame' rejected settled current
      | queued => cases purpose <;> exact h
      | told result => cases purpose <;> exact h.useResult hsame' _ rejected result
    | expiring token reason => cases purpose <;> exact h.expireSession hsame' token reason
    | _ => cases purpose <;> exact h

end Callers

/-! ## Steps on the session -/

theorem Alike.signIn (h : Alike quits g g') [Store σ] (s : Session) :
    Alike quits (g.signIn s).2 (g'.signIn s).2 := by
  unfold Gateway.signIn
  rw [h.store]
  exact h.put (Store.set s g.store).2

theorem Alike.signOut (h : Alike quits g g') [Store σ] : Alike quits g.signOut.2 g'.signOut.2 := by
  unfold Gateway.signOut
  rw [h.invalidator, h.store]
  exact { h with store := rfl, invalidator := rfl }

/-! ## Steps of cycles -/

section Cycles

theorem Alike.tell (h : Alike quits g g') (result : Except RefreshError String) (id : CallId) :
    Alike quits (g.tell result id) (g'.tell result id) := by
  rcases h.calls id with hsame | houtstays
  · unfold Gateway.tell
    rw [hsame]
    split
    · exact h.setPhase hsame _
    · exact h
  · have ⟨_, purpose, gone, stays, hcall, hcall', hgone, _⟩ := houtstays
    have hleft : g.tell result id = g := by
      unfold Gateway.tell
      rw [hcall]
      rcases Phase.over_of_isGivenUp hgone with rfl | ⟨answer, rfl⟩ <;> rfl
    rw [hleft]
    unfold Gateway.tell
    rw [hcall']
    split
    · exact h.stays houtstays rfl
    · exact h

theorem Alike.foldl_tell (h : Alike quits g g') (result : Except RefreshError String)
    (queue : List CallId) :
    Alike quits (queue.foldl (Gateway.tell result) g) (queue.foldl (Gateway.tell result) g') := by
  induction queue generalizing g g' with
  | nil => exact h
  | cons head queue ih => exact ih (h.tell result head)

theorem Alike.settle (h : Alike quits g g') (number : Nat) (result : Except RefreshError String) :
    Alike quits (g.settle number result) (g'.settle number result) := by
  unfold Gateway.settle
  rw [h.coordinator]
  have hsettled := h.coordinatedBy (g.coordinator.settle number)
  exact (hsettled.foldl_tell result g.coordinator.queue).note _

theorem Alike.deliverRefresh (h : Alike quits g g') (number : Nat) (d : Delivery) :
    Alike quits (g.deliverRefresh number d) (g'.deliverRefresh number d) := by
  unfold Gateway.deliverRefresh
  rw [h.coordinator]
  split
  · split
    · exact h.setStage number _
    · exact h.setStage number _
  · exact h

variable [Store σ]

theorem Alike.beginExchange (h : Alike quits g g') (number : Nat) :
    Alike quits (g.beginExchange number) (g'.beginExchange number) := by
  unfold Gateway.beginExchange
  rw [h.store]
  rcases Store.get g.store with ⟨outcome, store⟩
  have hput := h.put store
  match outcome with
  | .panicked => exact hput.setStage number (.settling (.error .aborted))
  | .failed message => exact hput.setStage number (.failing (.store message))
  | .ok none => exact hput.setStage number (.failing .noSession)
  | .ok (some session) =>
    cases htoken : session.refreshToken with
    | none =>
      simp only [htoken]
      exact hput.setStage number (.failing .missingRefreshToken)
    | some refreshToken =>
      have hroot : g'.root.refreshUrl = g.root.refreshUrl := by rw [h.root]
      cases hurl : g.root.refreshUrl with
      | error e =>
        simp only [htoken, hroot, hurl]
        exact hput.setStage number (.failing e)
      | ok url =>
        simp only [htoken, hroot, hurl]
        exact (hput.setStage number (.exchanging session (.refresh url refreshToken))).note _

theorem Alike.storeRenewed (h : Alike quits g g') (number : Nat) (renewed : Session) :
    Alike quits (g.storeRenewed number renewed) (g'.storeRenewed number renewed) := by
  unfold Gateway.storeRenewed
  rw [h.store]
  rcases Store.set renewed g.store with ⟨outcome, store⟩
  cases outcome with
  | ok => exact (h.put store).setStage number (.settling (.ok renewed.accessToken))
  | failed message => exact (h.put store).setStage number (.failing (.store message))
  | panicked => exact (h.put store).setStage number (.settling (.error .aborted))

theorem Alike.endFailed (h : Alike quits g g') (number : Nat) (rejected : String)
    (e : RefreshError) :
    Alike quits (g.endFailed number rejected e) (g'.endFailed number rejected e) := by
  obtain ⟨houtcome, hafter⟩ := h.invalidate rejected e.message
  unfold Gateway.endFailed
  rcases hinv : g.invalidate rejected e.message with ⟨outcome, after⟩
  rcases hinv' : g'.invalidate rejected e.message with ⟨outcome', after'⟩
  rw [hinv, hinv'] at houtcome hafter
  obtain rfl : outcome' = outcome := houtcome
  cases outcome' with
  | panicked => exact hafter.setStage number (.settling (.error .aborted))
  | ok => exact hafter.setStage number (.settling (.error e))
  | failed => exact hafter.setStage number (.settling (.error e))

theorem Alike.advanceCycle (h : Alike quits g g') (number : Nat) :
    Alike quits (g.advanceCycle number) (g'.advanceCycle number) := by
  unfold Gateway.advanceCycle
  rw [h.coordinator]
  cases g.coordinator.cycle? number with
  | none => exact h
  | some cycle =>
    obtain ⟨own, rejected, stage⟩ := cycle
    cases stage with
    | reading => exact h.beginExchange number
    | exchanging => exact h
    | storing renewed => exact h.storeRenewed number renewed
    | failing e => exact h.endFailed number rejected e
    | settling result => exact h.settle number result

end Cycles

/-! ## Steps -/

section Steps

variable [Store σ] {a : Action σ}

/-- A caller that has given up does nothing any more. -/
theorem Action.IsBy.step_of_gone (hby : a.IsBy id) {purpose : Purpose} {gone : Phase}
    (hcall : g.calls[id]? = some ⟨purpose, gone⟩) (hgone : gone.isGivenUp = true) :
    g.step a = g := by
  have hover : gone = .abandoned ∨ ∃ answer, gone = .ended answer := Phase.over_of_isGivenUp hgone
  cases a with
  | advance other =>
    obtain rfl : other = id := hby
    simp only [Gateway.step, Gateway.advance, hcall]
    rcases hover with rfl | ⟨answer, rfl⟩ <;> cases purpose <;> rfl
  | deliver other d =>
    obtain rfl : other = id := hby
    simp only [Gateway.step, Gateway.deliver, hcall]
    rcases hover with rfl | ⟨answer, rfl⟩ <;> cases purpose <;> rfl
  | expire other =>
    obtain rfl : other = id := hby
    simp only [Gateway.step, Gateway.expire, hcall]
    rcases hover with rfl | ⟨answer, rfl⟩ <;> cases purpose <;> rfl
  | abandon other =>
    obtain rfl : other = id := hby
    simp only [Gateway.step, Gateway.abandon, hcall]
    rcases hover with rfl | ⟨answer, rfl⟩ <;> rfl
  | _ => exact absurd hby fun hfalse => hfalse

/-- A caller of those that give up does so where it waits in a queue, or has done so before. -/
theorem Alike.step_of_queued (h : Alike quits g g') (hquits : quits id = true) {call : Call}
    (hcall : g.calls[id]? = some call) (hqueued : call.isQueued = true)
    (ha : a = .expire id ∨ a = .abandon id) : Alike quits (g.step a) g' := by
  have hwaits : call.isWaiting = true := by
    unfold Call.isQueued at hqueued
    split at hqueued
    · rename_i hphase
      simp [Call.isWaiting, hphase]
    · cases hqueued
  have hsame : g'.calls[id]? = g.calls[id]? := by
    refine (h.calls id).resolve_right ?_
    rintro ⟨-, purpose, gone, -, hcall', -, hgone, -⟩
    obtain rfl := Option.some.inj (hcall.symm.trans hcall')
    rcases Phase.over_of_isGivenUp hgone with rfl | ⟨answer, rfl⟩ <;> cases hqueued
  rcases ha with rfl | rfl
  · obtain ⟨purpose, phase⟩ := call
    cases purpose with
    | request d shape =>
      have hstep : g.step (.expire id) = g.fail id (.timeout d.timeoutMs) := by
        simp only [Gateway.step, Gateway.expire, hcall, hwaits, if_true]
      have hleaves : Alike quits
          (g.setPhase id (.ended (.payload (.error (.timeout d.timeoutMs))))) g' :=
        h.leaves hquits hsame hcall hqueued rfl
      rw [hstep]
      refine { hleaves with log := ?_ }
      simp only [Gateway.fail, Gateway.finish, Gateway.note, List.filter_cons, Notice.isKept, hquits]
      exact h.log
    | token rejected =>
      have hstep : g.step (.expire id) = g := by simp only [Gateway.step, Gateway.expire, hcall]
      rw [hstep]
      exact h
  · have hstep : g.step (.abandon id) = g.setPhase id .abandoned := by
      simp only [Gateway.step, Gateway.abandon, hcall, hwaits, if_true]
    rw [hstep]
    exact h.leaves hquits hsame hcall hqueued rfl

theorem Alike.step_of_quitting (h : Alike quits g g') (hquitting : g.isQuitting quits a = true) :
    Alike quits (g.step a) g' := by
  obtain ⟨id, call, hquits, hby, hcall, hgone | ⟨hqueued, ha⟩⟩ := quitting_cases hquitting
  · rw [hby.step_of_gone hcall hgone]
    exact h
  · exact h.step_of_queued hquits hcall hqueued ha

/-- A caller that stays goes on by itself only to pass on what it was told. -/
theorem Alike.step_of_outstays (h : Alike quits g g') (hby : a.IsBy id)
    (houtstays : Outstays quits g g' id) (hkept : g.isQuitting quits a = false) :
    Alike quits (g.step a) (g'.step a) := by
  have ⟨hquits, purpose, gone, stays, hcall, hcall', hgone, hstays⟩ := houtstays
  rw [hby.step_of_gone hcall hgone]
  cases a with
  | advance other =>
    obtain rfl : other = id := hby
    cases purpose with
    | request => simp [isQuitting, hquits, hcall, hgone, Purpose.isRequest] at hkept
    | token asked =>
      simp only [Gateway.step, Gateway.advance, hcall']
      unfold Phase.isStaying at hstays
      split at hstays
      · exact h
      · rename_i rejected result
        exact h.hears houtstays result
      · exact h
      · cases hstays
  | deliver other d =>
    obtain rfl : other = id := hby
    simp only [Gateway.step, Gateway.deliver, hcall']
    unfold Phase.isStaying at hstays
    split at hstays <;> cases purpose <;> first | exact h | cases hstays
  | expire other =>
    obtain rfl : other = id := hby
    simp [isQuitting, hquits, hcall, hgone] at hkept
  | abandon other =>
    obtain rfl : other = id := hby
    simp [isQuitting, hquits, hcall, hgone] at hkept
  | _ => exact absurd hby fun hfalse => hfalse

theorem Alike.step (h : Alike quits g g') (hkept : g.isQuitting quits a = false) :
    Alike quits (g.step a) (g'.step a) := by
  by_cases hby : ∃ id, a.IsBy id ∧ Outstays quits g g' id
  · obtain ⟨id, hby, houtstays⟩ := hby
    exact h.step_of_outstays hby houtstays hkept
  · have hsame : ∀ id, a.IsBy id → g'.calls[id]? = g.calls[id]? := by
      intro id hid
      exact (h.calls id).resolve_right fun houtstays => hby ⟨id, hid, houtstays⟩
    cases a with
    | start purpose => exact h.start purpose
    | advance id => exact h.advance_of_same (hsame id rfl)
    | advanceCycle number => exact h.advanceCycle number
    | deliver id d => exact h.deliver_of_same (hsame id rfl) d
    | deliverRefresh number d => exact h.deliverRefresh number d
    | expire id => exact h.expire_of_same (hsame id rfl)
    | expireRefresh number => exact h.deliverRefresh number .dropped
    | abandon id => exact h.abandon_of_same (hsame id rfl)
    | signIn s => exact h.signIn s
    | signOut => exact h.signOut
    | invalidate token reason => exact (h.invalidate token reason).2
    | disturb change =>
      show Alike quits { g with store := change g.store } { g' with store := change g'.store }
      rw [h.store]
      exact h.put _

end Steps

/-! ## Runs -/

section Runs

variable [Store σ]

/-- The steps of a run that take place when certain callers stay. -/
def staying (quits : CallId → Bool) (g : Gateway σ) : List (Action σ) → List (Action σ)
  | [] => []
  | a :: later =>
    if g.isQuitting quits a = true then (g.step a).staying quits later
    else a :: (g.step a).staying quits later

theorem staying_append (quits : CallId → Bool) (g : Gateway σ) (before later : List (Action σ)) :
    g.staying quits (before ++ later) =
      g.staying quits before ++ (g.run before).staying quits later := by
  induction before generalizing g with
  | nil => rfl
  | cons a before ih =>
    simp only [List.cons_append, staying, run_cons, ih]
    split
    · rfl
    · rfl

theorem Alike.run (h : Alike quits g g') (actions : List (Action σ)) :
    Alike quits (g.run actions) (g'.run (g.staying quits actions)) := by
  induction actions generalizing g g' with
  | nil => exact h
  | cons a later ih =>
    rw [run_cons, staying]
    by_cases hquitting : g.isQuitting quits a = true
    · rw [if_pos hquitting]
      exact ih (h.step_of_quitting hquitting)
    · rw [if_neg hquitting, run_cons]
      exact ih (h.step (by simpa using hquitting))

/-- A step that is left out changes nothing, or is the one in which a caller gives up its place in a
queue. -/
theorem waitsOn_of_isQuitting {a : Action σ} (h : g.isQuitting quits a = true)
    (hchanges : g.step a ≠ g) :
    ∃ id, quits id = true ∧ (a = .expire id ∨ a = .abandon id) ∧
      ∃ cycle, g.waitsOn id = some cycle := by
  obtain ⟨id, call, hquits, hby, hcall, hgone | ⟨hqueued, ha⟩⟩ := quitting_cases h
  · exact absurd (hby.step_of_gone hcall hgone) hchanges
  · refine ⟨id, hquits, ha, ?_⟩
    unfold Call.isQueued at hqueued
    split at hqueued
    · rename_i rejected cycle hphase
      exact ⟨cycle, waitsOn_eq_some.mpr ⟨rejected, by rw [phase?_of_calls hcall, hphase]⟩⟩
    · cases hqueued

/-- Any run, and the same run without the steps in which certain callers give up the queue of a
cycle, be it one that they started or one that they joined. After every step that both runs have,
the store is the same, the same sessions have ended, and the same cycles have been started, run and
settled, with the same queue. What has happened is the same too, with the requests sent, the length
of the queue at each join, and the queue and result of each settlement, but for the answers to those
who give up; and every caller that has not given up is where it is in the other run. -/
theorem giving_up_disturbs_nothing (quits : CallId → Bool) (g : Gateway σ)
    (before later : List (Action σ)) :
    let leaving := g.run before
    let stays := g.run (g.staying quits before)
    g.staying quits (before ++ later) = g.staying quits before ++ leaving.staying quits later ∧
    (∀ a, leaving.isQuitting quits a = true → leaving.step a ≠ leaving →
      ∃ id, quits id = true ∧ (a = .expire id ∨ a = .abandon id) ∧
        ∃ cycle, leaving.waitsOn id = some cycle) ∧
    stays.store = leaving.store ∧
    stays.invalidator = leaving.invalidator ∧
    stays.coordinator = leaving.coordinator ∧
    stays.log.filter (Notice.isKept quits) = leaving.log.filter (Notice.isKept quits) ∧
    ∀ id, (quits id = true → ¬ leaving.HasGivenUp id) → stays.phase? id = leaving.phase? id := by
  intro leaving stays
  have halike : Alike quits leaving stays := (Alike.refl quits g).run before
  refine ⟨staying_append quits g before later, ?_, halike.store, halike.invalidator,
    halike.coordinator, halike.log, ?_⟩
  · intro a hquitting hchanges
    exact waitsOn_of_isQuitting hquitting hchanges
  · intro id hgone
    exact halike.phase? hgone

/-- The caller that started a cycle is given up, and the other one gets the new token. -/
example :
    let g := Gateway.new ⟨"http://[::1]"⟩ (Cell.mk (some ⟨"A1", some "R1", none⟩))
    let body := "\x7b\"data\":\x7b\"access_token\":\"A2\"\x7d\x7d"
    let actions : List (Action Cell) := [.start (.token "A1"), .start (.token "A1"), .advance 0,
      .advance 0, .advance 0, .advance 1, .advance 1, .advance 1, .advanceCycle 0, .abandon 0,
      .deliverRefresh 0 (.response ⟨200, body.toUTF8⟩), .advanceCycle 0, .advanceCycle 0,
      .advance 0, .advance 1]
    (g.staying (· = 0) actions).length = 14 ∧
      ((g.run actions).phase? 0 matches some .abandoned) ∧
      ((g.run (g.staying (· = 0) actions)).phase? 0 matches some (.ended (.token (.ok "A2")))) ∧
      ((g.run actions).phase? 1 matches some (.ended (.token (.ok "A2")))) := by
  decide +kernel

end Runs

end Gateway

end BearerClient
