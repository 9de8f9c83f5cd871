import BearerClient.Proofs.HeldSession
import BearerClient.Proofs.Passages

/-!
# Reading as if under the lock

A caller that wants a fresh token reads the session before it takes the lock, and the count of
settled cycles tells it whether to read again. The reference does without both: it reads the session
while it holds the lock, and decides in the same step (`askUnderLock`). As long as reading does not
fail, and nothing but refresh cycles changes the session between a caller's reading and its taking
of the lock, every run is a run of the reference: looking at the count, reading and looking again
are steps that the reference does not see, and the step in which a caller decides is the one step of
the reference.

What the reference does not see is forgotten by `forget`, which sets callers before the lock back to
the start of their question. Every other function does the same before and after forgetting. The
main statement is `run_as_under_lock`.
-/

namespace BearerClient

/-! ## The reference -/

/-- What a caller does that reads the session while it holds the lock. -/
def Coordinator.decideUnderLock (c : Coordinator) (rejected : String) (current : Option Session) :
    Coordinator.Decision :=
  if c.flight.isSome then .join
  else match current with
    | none => .give (.error .noSession)
    | some session =>
      if session.accessToken = rejected then .start else .give (.ok session.accessToken)

/-- A caller looks again, or decides as it would with the session that is held now. -/
theorem Coordinator.decide_cases {c : Coordinator} (rejected : String) {settled : Nat}
    {read current : Option Session}
    (hread : c.flight = none → c.settled = settled → read = current) :
    c.decide rejected settled read = .again ∨
      (c.decide rejected settled read = c.decideUnderLock rejected current ∧
        c.decideUnderLock rejected current ≠ .again) := by
  unfold Coordinator.decide Coordinator.decideUnderLock
  cases hflight : c.flight with
  | some flight => exact .inr ⟨rfl, by simp⟩
  | none =>
    by_cases hsettled : c.settled = settled
    · right
      rw [hread hflight hsettled]
      cases current with
      | none => simp [hsettled]
      | some session => by_cases htoken : session.accessToken = rejected <;> simp [hsettled, htoken]
    · left
      simp [hsettled]

namespace Gateway

variable {σ : Type}

/-- A caller does what it has decided. -/
def follow (id : CallId) (rejected : String) (decision : Coordinator.Decision) (g : Gateway σ) :
    Gateway σ :=
  let c := g.coordinator
  match decision with
  | .join =>
    let cycle := (c.flight.map Flight.cycle).getD 0
    ({ g with coordinator := c.join id }.setPhase id (.asking rejected (.queued cycle))).note
      (.joined id cycle (c.queue.length + 1))
  | .again => g.setPhase id (.asking rejected .entering)
  | .give result => g.setPhase id (.asking rejected (.told result))
  | .start =>
    { g with coordinator := c.start id rejected }.setPhase id (.asking rejected (.queued c.started))

variable [Store σ]

/-- A caller takes the lock, reads the session, and decides, all in one step. -/
def askUnderLock (id : CallId) (rejected : String) (g : Gateway σ) : Gateway σ :=
  let (outcome, store) := Store.get g.store
  let g := { g with store := store }
  match outcome with
  | .ok current => g.follow id rejected (g.coordinator.decideUnderLock rejected current)
  | .failed message => g.setPhase id (.asking rejected (.told (.error (.store message))))
  | .panicked => g.finish id .panicked

/-- A step of the reference. -/
def stepUnderLock (g : Gateway σ) (a : Action σ) : Gateway σ :=
  match a with
  | .advance id =>
    match g.phase? id with
    | some (.asking rejected .entering) => g.askUnderLock id rejected
    | _ => g.step a
  | _ => g.step a

/-- A run of the reference. -/
def runUnderLock (g : Gateway σ) (actions : List (Action σ)) : Gateway σ :=
  actions.foldl stepUnderLock g

end Gateway

/-! ## What the reference does not see -/

/-- A caller before the lock is at the start of its question. -/
def Asking.forget : Asking → Asking
  | .counted _ | .seen _ _ => .entering
  | progress => progress

/-- A phase as the reference sees it. -/
def Phase.forget : Phase → Phase
  | .asking rejected progress => .asking rejected progress.forget
  | phase => phase

/-- Whether a caller in the phase has begun its question and not taken the lock yet. -/
def Phase.isBeforeLock : Phase → Bool
  | .asking _ .entering | .asking _ (.counted _) | .asking _ (.seen _ _) => true
  | _ => false

theorem Phase.isBeforeLock_of_forget {phase : Phase} {rejected : String}
    (h : phase.forget = .asking rejected .entering) : phase.isBeforeLock = true := by
  cases phase with
  | asking _ progress =>
    cases progress with
    | queued => simp [Phase.forget, Asking.forget] at h
    | told => simp [Phase.forget, Asking.forget] at h
    | _ => rfl
  | _ => cases h

/-- A caller as the reference sees it. -/
def Call.forget (call : Call) : Call := { call with phase := call.phase.forget }

theorem Call.isWaiting_forget (purpose : Purpose) (phase : Phase) :
    Call.isWaiting ⟨purpose, phase.forget⟩ = Call.isWaiting ⟨purpose, phase⟩ := by
  cases phase with
  | asking rejected progress => cases progress <;> rfl
  | _ => rfl

namespace Gateway

variable {σ : Type}

/-- A gateway as the reference sees it. -/
def forget (g : Gateway σ) : Gateway σ := { g with calls := g.calls.map Call.forget }

section Forget

variable (g : Gateway σ) (id : CallId)

@[simp] theorem forget_root : g.forget.root = g.root := rfl

@[simp] theorem forget_store : g.forget.store = g.store := rfl

@[simp] theorem forget_invalidator : g.forget.invalidator = g.invalidator := rfl

@[simp] theorem forget_coordinator : g.forget.coordinator = g.coordinator := rfl

@[simp] theorem forget_log : g.forget.log = g.log := rfl

theorem calls_forget : g.forget.calls[id]? = g.calls[id]?.map Call.forget := List.getElem?_map ..

theorem phase?_forget : g.forget.phase? id = (g.phase? id).map Phase.forget := by
  simp only [phase?, calls_forget, Option.map_map]
  rfl

theorem forget_note (notice : Notice) : (g.note notice).forget = g.forget.note notice := rfl

theorem forget_setPhase (phase : Phase) :
    (g.setPhase id phase).forget = g.forget.setPhase id phase.forget := by
  have hcalls : (g.setPhase id phase).forget.calls = (g.forget.setPhase id phase.forget).calls := by
    apply List.ext_getElem?
    intro n
    simp only [forget, setPhase, List.getElem?_map, List.getElem?_modify]
    cases g.calls[n]? with
    | none => rfl
    | some call => by_cases hid : id = n <;> simp [hid, Call.forget]
  unfold forget setPhase at hcalls ⊢
  simp only at hcalls ⊢
  rw [hcalls]

theorem setPhase_self {phase : Phase} (hphase : g.phase? id = some phase) :
    g.setPhase id phase = g := by
  have hcalls : (g.setPhase id phase).calls = g.calls := by
    apply List.ext_getElem?
    intro n
    simp only [setPhase, List.getElem?_modify]
    by_cases hid : id = n
    · subst hid
      cases hcall : g.calls[id]? with
      | none => rfl
      | some call =>
        obtain rfl := Option.some.inj ((phase?_of_calls hcall).symm.trans hphase)
        simp
    · simp [hid]
  unfold setPhase at hcalls ⊢
  simp only at hcalls
  rw [hcalls]

/-- A caller that moves to a phase that looks the same to the reference does nothing for it. -/
theorem forget_setPhase_of_forget {before after : Phase} (hphase : g.phase? id = some before)
    (hsame : after.forget = before.forget) : (g.setPhase id after).forget = g.forget := by
  rw [forget_setPhase, hsame]
  exact g.forget.setPhase_self id (by rw [phase?_forget, hphase, Option.map_some])

theorem forget_finish (answer : Answer) : (g.finish id answer).forget = g.forget.finish id answer := by
  rw [finish, forget_note, forget_setPhase]
  rfl

theorem forget_fail (e : GatewayError) : (g.fail id e).forget = g.forget.fail id e :=
  g.forget_finish id _

end Forget

/-! ## Everything else is the same -/

section Same

variable (g : Gateway σ) (id : CallId)

theorem forget_attempt (d : Descriptor) (token : String) {phase : Request → Phase}
    (hphase : ∀ request, (phase request).forget = phase request) :
    (g.attempt id d token phase).forget = g.forget.attempt id d token phase := by
  unfold attempt
  rw [forget_root]
  split
  · exact g.forget_fail id _
  · split
    · rw [forget_note, forget_setPhase, hphase]
    · exact g.forget_fail id _

theorem forget_takeAnswer (shape : Shape) (request : Request) (refused : Phase) (d : Delivery)
    (hrefused : refused.forget = refused) :
    (g.takeAnswer id shape request refused d).forget =
      g.forget.takeAnswer id shape request refused d := by
  unfold takeAnswer
  split
  · exact g.forget_fail id _
  · split
    · rw [forget_setPhase, forget_note, hrefused]
    · rw [forget_finish, forget_note]

theorem forget_deliver (d : Delivery) : (g.deliver id d).forget = g.forget.deliver id d := by
  unfold deliver
  rw [calls_forget]
  cases hcall : g.calls[id]? with
  | none => rfl
  | some call =>
    obtain ⟨purpose, phase⟩ := call
    cases purpose with
    | token => cases phase <;> rfl
    | request descriptor shape =>
      cases phase with
      | first token request => exact g.forget_takeAnswer id shape request _ d rfl
      | second token request => exact g.forget_takeAnswer id shape request _ d rfl
      | _ => rfl

theorem forget_expire : (g.expire id).forget = g.forget.expire id := by
  unfold expire
  rw [calls_forget]
  cases hcall : g.calls[id]? with
  | none => rfl
  | some call =>
    obtain ⟨purpose, phase⟩ := call
    cases purpose with
    | token => rfl
    | request d shape =>
      simp only [Option.map_some, Call.forget, Call.isWaiting_forget]
      split
      · exact g.forget_fail id _
      · rfl

theorem forget_abandon : (g.abandon id).forget = g.forget.abandon id := by
  unfold abandon
  rw [calls_forget]
  cases hcall : g.calls[id]? with
  | none => rfl
  | some call =>
    obtain ⟨purpose, phase⟩ := call
    simp only [Option.map_some, Call.forget, Call.isWaiting_forget]
    split
    · exact g.forget_setPhase id .abandoned
    · rfl

theorem forget_tell (result : Except RefreshError String) :
    (g.tell result id).forget = g.forget.tell result id := by
  unfold tell
  rw [calls_forget]
  cases hcall : g.calls[id]? with
  | none => rfl
  | some call =>
    obtain ⟨purpose, phase⟩ := call
    cases phase with
    | asking rejected progress =>
      cases progress with
      | queued cycle => exact g.forget_setPhase id _
      | _ => rfl
    | _ => rfl

theorem forget_foldl_tell (result : Except RefreshError String) (queue : List CallId) :
    (queue.foldl (tell result) g).forget = queue.foldl (tell result) g.forget := by
  induction queue generalizing g with
  | nil => rfl
  | cons head queue ih => rw [List.foldl_cons, List.foldl_cons, ih, forget_tell]

theorem forget_settle (number : Nat) (result : Except RefreshError String) :
    (g.settle number result).forget = g.forget.settle number result := by
  unfold settle
  rw [forget_note, forget_foldl_tell]
  rfl

theorem forget_start (purpose : Purpose) : (g.start purpose).forget = g.forget.start purpose := by
  have hnew : (Call.new purpose).forget = Call.new purpose := by
    cases purpose with
    | request => rfl
    | token => rfl
  simp only [start, forget, List.map_append, List.map_singleton, hnew]

theorem forget_follow (rejected : String) (decision : Coordinator.Decision) :
    (g.follow id rejected decision).forget = g.forget.follow id rejected decision := by
  cases decision with
  | join => exact congrArg (note _) (forget_setPhase _ id _)
  | again => exact g.forget_setPhase id _
  | give result => exact g.forget_setPhase id _
  | start => exact forget_setPhase _ id _

theorem forget_useResult (purpose : Purpose) (rejected : String)
    (result : Except RefreshError String) :
    (g.useResult id purpose rejected result).forget =
      g.forget.useResult id purpose rejected result := by
  match purpose, result with
  | .token _, result => exact g.forget_finish id _
  | .request d _, .ok token => exact g.forget_attempt id d token fun _ => rfl
  | .request _ _, .error e => exact g.forget_setPhase id _

theorem forget_deliverRefresh (number : Nat) (d : Delivery) :
    (g.deliverRefresh number d).forget = g.forget.deliverRefresh number d := by
  unfold deliverRefresh
  rw [forget_coordinator]
  split
  · split <;> rfl
  · rfl

variable [Store σ]

theorem forget_openRequest (d : Descriptor) :
    (g.openRequest id d).forget = g.forget.openRequest id d := by
  unfold openRequest
  rw [forget_store]
  rcases Store.get g.store with ⟨outcome, store⟩
  match outcome with
  | .ok none => exact forget_fail _ id _
  | .ok (some session) => exact forget_attempt _ id d _ fun _ => rfl
  | .failed message => exact forget_fail _ id _
  | .panicked => exact forget_finish _ id _

theorem forget_expireSession (token reason : String) :
    (g.expireSession id token reason).forget = g.forget.expireSession id token reason := by
  unfold expireSession invalidate
  rw [forget_invalidator, forget_store]
  rcases g.invalidator.invalidate token reason g.store with ⟨outcome, invalidator, store⟩
  match outcome with
  | .panicked => exact forget_finish _ id _
  | .ok _ => exact forget_fail _ id _
  | .failed _ => exact forget_fail _ id _

theorem forget_beginExchange (number : Nat) :
    (g.beginExchange number).forget = g.forget.beginExchange number := by
  unfold beginExchange
  rw [forget_store]
  rcases Store.get g.store with ⟨outcome, store⟩
  match outcome with
  | .panicked => rfl
  | .failed message => rfl
  | .ok none => rfl
  | .ok (some session) =>
    simp only [forget_root]
    cases session.refreshToken with
    | none => rfl
    | some refreshToken => cases g.root.refreshUrl <;> rfl

theorem forget_storeRenewed (number : Nat) (renewed : Session) :
    (g.storeRenewed number renewed).forget = g.forget.storeRenewed number renewed := by
  unfold storeRenewed
  rw [forget_store]
  rcases Store.set renewed g.store with ⟨outcome, store⟩
  match outcome with
  | .ok () => rfl
  | .failed message => rfl
  | .panicked => rfl

theorem forget_endFailed (number : Nat) (rejected : String) (e : RefreshError) :
    (g.endFailed number rejected e).forget = g.forget.endFailed number rejected e := by
  unfold endFailed invalidate
  rw [forget_invalidator, forget_store]
  rcases g.invalidator.invalidate rejected e.message g.store with ⟨outcome, invalidator, store⟩
  match outcome with
  | .panicked => rfl
  | .ok _ => rfl
  | .failed _ => rfl

theorem forget_advanceCycle (number : Nat) :
    (g.advanceCycle number).forget = g.forget.advanceCycle number := by
  unfold advanceCycle
  rw [forget_coordinator]
  cases g.coordinator.cycle? number with
  | none => rfl
  | some cycle =>
    obtain ⟨own, rejected, stage⟩ := cycle
    cases stage with
    | reading => exact g.forget_beginExchange number
    | exchanging => rfl
    | storing renewed => exact g.forget_storeRenewed number renewed
    | failing e => exact g.forget_endFailed number rejected e
    | settling result => exact g.forget_settle number result

/-- Apart from what a caller does by itself, every step is a step of the reference. -/
theorem forget_step {a : Action σ} (ha : ∀ id, a ≠ .advance id) :
    (g.step a).forget = g.forget.stepUnderLock a := by
  cases a with
  | start purpose => exact g.forget_start purpose
  | advance id => exact absurd rfl (ha id)
  | advanceCycle number => exact g.forget_advanceCycle number
  | deliver id d => exact g.forget_deliver id d
  | deliverRefresh number d => exact g.forget_deliverRefresh number d
  | expire id => exact g.forget_expire id
  | expireRefresh number => exact g.forget_deliverRefresh number .dropped
  | abandon id => exact g.forget_abandon id
  | signIn s => rfl
  | signOut => rfl
  | invalidate token reason => rfl
  | disturb change => rfl

end Same

/-! ## What a caller knows before the lock -/

section Knows

variable [Store σ] [LawfulStore σ]

/-- Whether a caller has read the session and has not taken the lock yet. -/
def hasRead (g : Gateway σ) (id : CallId) : Bool :=
  g.phase? id matches some (.asking _ (.seen _ _))

/-- In the run reading does not fail, and between a caller's reading of the session and its taking
of the lock only refresh cycles change the session. -/
structure ReadsQuietly (g : Gateway σ) (actions : List (Action σ)) : Prop where
  /-- Reading gives the session, and leaves the store as it is. -/
  reads : ∀ before a later, actions = before ++ a :: later →
    Store.get (g.run before).store = (.ok (g.run before).current, (g.run before).store)
  /-- Only cycles change the session that a caller has read who takes the lock later. -/
  keeps : ∀ before a later id, actions = before ++ a :: later →
    (g.run before).hasRead id = true → .advance id ∈ later →
    (∀ number, a ≠ .advanceCycle number) →
    (g.run (before ++ [a])).current = (g.run before).current

theorem ReadsQuietly.tail {g : Gateway σ} {a : Action σ}
    {later : List (Action σ)} (h : ReadsQuietly g (a :: later)) :
    ReadsQuietly (g.step a) later where
  reads before b rest hlater := h.reads (a :: before) b rest (by rw [hlater]; rfl)
  keeps before b rest id hlater := h.keeps (a :: before) b rest id (by rw [hlater]; rfl)

/-- What a caller that is about to take the lock knows: if nothing runs and nothing has settled since
it looked at the count, then the session is still the one that it has read. -/
def Knows (g : Gateway σ) (later : List (Action σ)) (id : CallId) : Phase → Prop
  | .asking _ (.counted settled) => settled ≤ g.coordinator.settled
  | .asking _ (.seen settled read) => settled ≤ g.coordinator.settled ∧
      (.advance id ∈ later → g.coordinator.flight = none → g.coordinator.settled = settled →
        read = g.current)
  | _ => True

/-- If nothing runs after a move that has settled nothing, then nothing ran before, and a cycle did
not change the session. -/
theorem Move.idle_before {g g' : Gateway σ} {a : Action σ} (h : Move g a g') (horder : Orderly g)
    (hidle : g'.coordinator.flight = none)
    (hsettled : g'.coordinator.settled = g.coordinator.settled) :
    g.coordinator.flight = none ∧ ((∃ number, a = .advanceCycle number) → g'.current = g.current) := by
  cases h with
  | walks _ hwalk => exact ⟨hidle, fun _ => hwalk.held_eq⟩
  | joins _ hflight => simp [Coordinator.join, hflight] at hidle
  | begins => cases hidle
  | expires =>
    refine ⟨hidle, ?_⟩
    rintro ⟨number, ha⟩
    cases ha
  | works hcycle => exact absurd hidle (horder.coordinator.flight_ne_none hcycle)
  | fails hcycle => exact absurd hidle (horder.coordinator.flight_ne_none hcycle)
  | settles =>
    rw [settle_coordinator] at hsettled
    exact absurd hsettled (Nat.succ_ne_self _)
  | touches htouch =>
    obtain ⟨-, hcoordinator, -, -⟩ := htouch.frame
    rw [hcoordinator] at hidle
    refine ⟨hidle, ?_⟩
    rintro ⟨number, rfl⟩
    cases htouch
  | _ => exact ⟨hidle, fun _ => rfl⟩

/-- Every move keeps what the callers know, if it leaves the session alone that they have read. -/
theorem Move.knows {g g' : Gateway σ} {a : Action σ} {later : List (Action σ)} (h : Move g a g')
    (horder : Orderly g) {id : CallId}
    (hkeeps : g.hasRead id = true → .advance id ∈ later → (∀ number, a ≠ .advanceCycle number) →
      g'.current = g.current)
    (hg : ∀ phase, g.phase? id = some phase → g.Knows (a :: later) id phase) {phase : Phase}
    (hphase : g'.phase? id = some phase) : g'.Knows later id phase := by
  have hle := h.settled_le horder
  rcases h.phase_cases horder hphase with ⟨purpose, -, rfl⟩ | ⟨before, hbefore, hpassage⟩
  · cases purpose with
    | request => trivial
    | token => trivial
  · have hknows := hg before hbefore
    cases hpassage with
    | stays =>
      match phase with
      | .asking rejected (.counted settled) => exact Nat.le_trans hknows hle
      | .asking rejected (.seen settled read) =>
        obtain ⟨hsettled, hread⟩ := hknows
        refine ⟨Nat.le_trans hsettled hle, ?_⟩
        intro hlater hidle hcount
        -- The count has not moved since the caller looked, so no cycle ran before the move either.
        have hsame : g'.coordinator.settled = g.coordinator.settled := by omega
        obtain ⟨hidle', hcycle⟩ := h.idle_before horder hidle hsame
        have hcurrent : g'.current = g.current := by
          by_cases hadvance : ∃ number, a = .advanceCycle number
          · exact hcycle hadvance
          · exact hkeeps (by rw [hasRead, hbefore]) hlater fun number ha => hadvance ⟨number, ha⟩
        rw [hcurrent]
        exact hread (List.mem_cons_of_mem _ hlater) hidle' (hsame.symm.trans hcount)
      | .asking _ .entering => trivial
      | .asking _ (.queued _) => trivial
      | .asking _ (.told _) => trivial
      | .opening => trivial
      | .first _ _ => trivial
      | .second _ _ => trivial
      | .expiring _ _ => trivial
      | .ended _ => trivial
      | .abandoned => trivial
    | walks hwalk _ hafter =>
      have hcurrent : g'.current = g.current := by
        rw [hafter]
        exact hwalk.held_eq
      cases hwalk with
      | counts =>
        rw [hafter]
        exact Nat.le_refl g.coordinator.settled
      | @reads _ _ settled read hget =>
        refine ⟨Nat.le_trans hknows hle, fun _ _ _ => ?_⟩
        rw [hcurrent]
        exact (LawfulStore.get_ok g.store read hget).symm
      | opens _ hattempt => cases hattempt <;> trivial
      | retries hattempt => cases hattempt <;> trivial
      | _ => trivial
    | queues => trivial
    | ends => trivial
    | hears => trivial

/-! ## The step in which a caller decides -/

/-- Whether an action is a step that the reference does not see: a caller looks at the count, reads
the session, or learns that it must look again. -/
def prepares (g : Gateway σ) : Action σ → Bool
  | .advance id =>
    match g.phase? id with
    | some (.asking _ .entering) | some (.asking _ (.counted _)) => true
    | some (.asking rejected (.seen settled read)) =>
      (g.coordinator.decide rejected settled read matches .again)
    | _ => false
  | _ => false

omit [LawfulStore σ] in
theorem stepUnderLock_of_entering {g : Gateway σ} {id : CallId} {rejected : String}
    (hphase : g.phase? id = some (.asking rejected .entering)) :
    g.stepUnderLock (.advance id) = g.askUnderLock id rejected := by
  simp only [stepUnderLock, hphase]

/-- A caller with the lock looks again, which the reference does not see, or does what the reference
does in one step. -/
theorem forget_decideFor {g : Gateway σ} {id : CallId} {purpose : Purpose} {rejected : String}
    {settled : Nat} {read : Option Session}
    (hcall : g.calls[id]? = some ⟨purpose, .asking rejected (.seen settled read)⟩)
    (hget : Store.get g.store = (.ok g.current, g.store))
    (hread : g.coordinator.flight = none → g.coordinator.settled = settled → read = g.current) :
    (g.prepares (.advance id) = true ∧ (g.step (.advance id)).forget = g.forget) ∨
      (g.prepares (.advance id) = false ∧
        (g.step (.advance id)).forget = g.forget.stepUnderLock (.advance id)) := by
  have hphase := phase?_of_calls hcall
  have hphase' : g.forget.phase? id = some (.asking rejected .entering) := by
    rw [phase?_forget, hphase]
    rfl
  have hstep : g.step (.advance id) =
      g.follow id rejected (g.coordinator.decide rejected settled read) := by
    simp only [step, advance, hcall]
    rfl
  rcases Coordinator.decide_cases rejected hread with hagain | ⟨hdecide, hne⟩
  · left
    refine ⟨by simp [prepares, hphase, hagain], ?_⟩
    rw [hstep, hagain]
    exact g.forget_setPhase_of_forget id hphase rfl
  · right
    rw [← hdecide] at hne
    refine ⟨?_, ?_⟩
    · simp [prepares, hphase]
    · rw [hstep, hdecide, forget_follow, stepUnderLock_of_entering hphase', askUnderLock,
        forget_store, hget]
      rfl

omit [LawfulStore σ] in
/-- A caller that is not before the lock does the same as in the reference. -/
theorem forget_advance_of_beyond {g : Gateway σ} {id : CallId} {call : Call}
    (hcall : g.calls[id]? = some call) (hbeyond : call.phase.isBeforeLock = false) :
    (g.advance id).forget = g.forget.advance id := by
  obtain ⟨purpose, phase⟩ := call
  unfold advance
  rw [calls_forget, hcall]
  cases phase with
  | opening =>
    cases purpose with
    | request d shape => exact g.forget_openRequest id d
    | token => rfl
  | asking rejected progress =>
    cases progress with
    | queued cycle => cases purpose <;> rfl
    | told result => cases purpose <;> exact g.forget_useResult id _ rejected result
    | _ => cases hbeyond
  | expiring token reason => cases purpose <;> exact g.forget_expireSession id token reason
  | _ => cases purpose <;> rfl

omit [LawfulStore σ] in
/-- The reference sees every step of a caller that is not before the lock. -/
theorem forget_step_of_beyond {g : Gateway σ} {id : CallId}
    (hbeyond : ∀ phase, g.phase? id = some phase → phase.isBeforeLock = false) :
    g.prepares (.advance id) = false ∧
      (g.step (.advance id)).forget = g.forget.stepUnderLock (.advance id) := by
  have hadvance : g.forget.stepUnderLock (.advance id) = g.forget.advance id := by
    simp only [stepUnderLock]
    split
    · rename_i rejected hphase
      rw [phase?_forget, Option.map_eq_some_iff] at hphase
      obtain ⟨phase, hphase, hentering⟩ := hphase
      have hbefore := Phase.isBeforeLock_of_forget hentering
      rw [hbeyond phase hphase] at hbefore
      cases hbefore
    · rfl
  rw [hadvance]
  refine ⟨?_, ?_⟩
  · simp only [prepares]
    split
    · rename_i hphase
      cases hbeyond _ hphase
    · rename_i hphase
      cases hbeyond _ hphase
    · rename_i hphase
      cases hbeyond _ hphase
    · rfl
  · cases hcall : g.calls[id]? with
    | none =>
      have hcall' : g.forget.calls[id]? = none := by rw [calls_forget, hcall, Option.map_none]
      simp only [step, advance, hcall, hcall']
    | some call => exact forget_advance_of_beyond hcall (hbeyond _ (phase?_of_calls hcall))

/-- A step of a caller's own is one that the reference does not see, or a step of the reference. -/
theorem forget_advance {g : Gateway σ} {id : CallId} {later : List (Action σ)}
    (hget : Store.get g.store = (.ok g.current, g.store))
    (hknows : ∀ phase, g.phase? id = some phase → g.Knows (.advance id :: later) id phase) :
    (g.prepares (.advance id) = true ∧ (g.step (.advance id)).forget = g.forget) ∨
      (g.prepares (.advance id) = false ∧
        (g.step (.advance id)).forget = g.forget.stepUnderLock (.advance id)) := by
  by_cases hbeyond : ∀ phase, g.phase? id = some phase → phase.isBeforeLock = false
  · exact .inr (forget_step_of_beyond hbeyond)
  · obtain ⟨phase, hphase, hbefore⟩ : ∃ phase, g.phase? id = some phase ∧
        phase.isBeforeLock = true := by simpa using hbeyond
    obtain ⟨⟨purpose, _⟩, hcall, rfl⟩ := Option.map_eq_some_iff.mp hphase
    dsimp only at hphase hbefore
    unfold Phase.isBeforeLock at hbefore
    split at hbefore
    · left
      refine ⟨by simp [prepares, hphase], ?_⟩
      simp only [step, advance, hcall]
      exact g.forget_setPhase_of_forget id hphase rfl
    · left
      refine ⟨by simp [prepares, hphase], ?_⟩
      simp only [step, advance, hcall, readFor, hget]
      exact g.forget_setPhase_of_forget id hphase rfl
    · obtain ⟨-, hread⟩ := hknows _ hphase
      exact forget_decideFor hcall hget (hread List.mem_cons_self)
    · cases hbefore

/-! ## Runs -/

/-- The actions of a run that the reference sees. -/
def decisive (g : Gateway σ) : List (Action σ) → List (Action σ)
  | [] => []
  | a :: later =>
    if g.prepares a = true then (g.step a).decisive later else a :: (g.step a).decisive later

omit [LawfulStore σ] in
theorem decisive_sublist (g : Gateway σ) (actions : List (Action σ)) :
    (g.decisive actions).Sublist actions := by
  induction actions generalizing g with
  | nil => exact List.Sublist.refl []
  | cons a later ih =>
    unfold decisive
    split
    · exact (ih _).cons a
    · exact (ih _).cons_cons a

/-- A gateway before a run in which the callers that take the lock know what they must. -/
structure Attentive (g : Gateway σ) (later : List (Action σ)) : Prop where
  /-- The callers and the coordinator are in order. -/
  orderly : Orderly g
  /-- Only cycles disturb what is read. -/
  quiet : ReadsQuietly g later
  /-- The callers know what they must. -/
  knows : ∀ id phase, g.phase? id = some phase → g.Knows later id phase

theorem attentive_new {root : ApiRoot} {store : σ} {actions : List (Action σ)}
    (hquiet : ReadsQuietly (.new root store) actions) : Attentive (.new root store) actions where
  orderly := orderly_new root store
  quiet := hquiet
  knows _ _ hphase := by simp [phase?, Gateway.new] at hphase

theorem Attentive.tail {g : Gateway σ} {a : Action σ} {later : List (Action σ)}
    (h : Attentive g (a :: later)) : Attentive (g.step a) later where
  orderly := (move_step g a).orderly h.orderly
  quiet := h.quiet.tail
  knows id _ := (move_step g a).knows h.orderly (h.quiet.keeps [] a later id rfl) (h.knows id)

theorem Attentive.run {g : Gateway σ} {before later : List (Action σ)}
    (h : Attentive g (before ++ later)) : Attentive (g.run before) later := by
  induction before generalizing g with
  | nil => exact h
  | cons a before ih => exact ih h.tail

/-- Every step is one that the reference does not see, or a step of the reference. -/
theorem Attentive.forget_step {g : Gateway σ} {a : Action σ} {later : List (Action σ)}
    (h : Attentive g (a :: later)) :
    (g.prepares a = true ∧ (g.step a).forget = g.forget) ∨
      (g.prepares a = false ∧ (g.step a).forget = g.forget.stepUnderLock a) := by
  by_cases hadvance : ∃ id, a = .advance id
  · obtain ⟨id, rfl⟩ := hadvance
    exact forget_advance (h.quiet.reads [] _ later rfl) (h.knows id)
  · right
    refine ⟨?_, g.forget_step fun id ha => hadvance ⟨id, ha⟩⟩
    cases a with
    | advance id => exact absurd ⟨id, rfl⟩ hadvance
    | _ => rfl

/-- The run of the actions that the reference sees leads to what it sees of the whole run. -/
theorem Attentive.forget_run {g : Gateway σ} {actions : List (Action σ)}
    (h : Attentive g actions) :
    (g.run actions).forget = g.forget.runUnderLock (g.decisive actions) := by
  induction actions generalizing g with
  | nil => rfl
  | cons a later ih =>
    rw [run_cons, ih h.tail, decisive]
    rcases h.forget_step with ⟨hprepares, hsame⟩ | ⟨hprepares, hstep⟩
    · rw [if_pos hprepares, hsame]
    · rw [if_neg (by simp [hprepares]), hstep]
      rfl

/-- In every run in which reading does not fail, and in which only refresh cycles change the session
between a caller's reading of it and its taking of the lock: a caller that takes the lock and does
not look again decides as one that reads the session then. Every step is one that the reference does
not see and that changes nothing for it, or it is the step of the reference; so the run is a run of
the reference, with the same state of the coordinator, the same store, the same notices, and the
same results. -/
theorem run_as_under_lock (root : ApiRoot) (store : σ) (actions : List (Action σ))
    (hquiet : ReadsQuietly (.new root store) actions) :
    let g := Gateway.new root store
    let reference := g.runUnderLock (g.decisive actions)
    (∀ before id later purpose rejected settled read, actions = before ++ .advance id :: later →
      (g.run before).calls[id]? = some ⟨purpose, .asking rejected (.seen settled read)⟩ →
      (g.run before).coordinator.decide rejected settled read ≠ .again →
      (g.run before).coordinator.decide rejected settled read =
        (g.run before).coordinator.decideUnderLock rejected (g.run before).current) ∧
    (∀ before a later, actions = before ++ a :: later →
      ((g.run before).prepares a = true ∧
        ((g.run before).step a).forget = (g.run before).forget) ∨
      ((g.run before).prepares a = false ∧
        ((g.run before).step a).forget = (g.run before).forget.stepUnderLock a)) ∧
    (g.decisive actions).Sublist actions ∧
    (g.run actions).forget = reference ∧
    (g.run actions).coordinator = reference.coordinator ∧
    (g.run actions).store = reference.store ∧
    (g.run actions).log = reference.log ∧
    ∀ id phase, (g.run actions).phase? id = some phase →
      reference.phase? id = some phase.forget := by
  intro g reference
  -- Nobody has begun a question yet, so there is nothing to forget at the start.
  have hattentive : Attentive g actions := attentive_new hquiet
  have hrun : (g.run actions).forget = reference := hattentive.forget_run
  refine ⟨?_, ?_, g.decisive_sublist actions, hrun, ?_, ?_, ?_, ?_⟩
  · rintro before id later purpose rejected settled read rfl hcall hne
    obtain ⟨-, hread⟩ := hattentive.run.knows id _ (phase?_of_calls hcall)
    rcases Coordinator.decide_cases rejected (hread List.mem_cons_self) with hagain | ⟨hsame, -⟩
    · exact absurd hagain hne
    · exact hsame
  · rintro before a later rfl
    exact hattentive.run.forget_step
  · rw [← hrun]
    rfl
  · rw [← hrun]
    rfl
  · rw [← hrun]
    rfl
  · intro id phase hphase
    rw [← hrun, phase?_forget, hphase]
    rfl

/-- A caller reads the session, and a cycle of another caller begins and settles before it takes the
lock. It looks again and takes the new token, as the reference does at once. -/
theorem run_as_under_lock_of_two_callers :
    let g := Gateway.new ⟨"http://[::1]"⟩ (Cell.mk (some ⟨"A1", some "R1", none⟩))
    let body := "\x7b\"data\":\x7b\"access_token\":\"A2\"\x7d\x7d"
    let actions : List (Action Cell) := [.start (.token "A1"), .start (.token "A1"), .advance 0,
      .advance 1, .advance 0, .advance 1, .advance 0, .advanceCycle 0,
      .deliverRefresh 0 (.response ⟨200, body.toUTF8⟩), .advanceCycle 0, .advanceCycle 0,
      .advance 1, .advance 1, .advance 1, .advance 1]
    ReadsQuietly g actions ∧ (g.decisive actions).length = 8 ∧
      (g.run actions).coordinator = (g.runUnderLock (g.decisive actions)).coordinator ∧
      (g.runUnderLock (g.decisive actions)).current = some ⟨"A2", some "R1", none⟩ := by
  intro g body actions
  have hkept : ∀ n < 15, (actions[n]?.any fun a => a matches .advanceCycle _) = true ∨
      (g.run (actions.take (n + 1))).current = (g.run (actions.take n)).current := by
    decide +kernel
  have hquiet : ReadsQuietly g actions := by
    refine ⟨fun _ _ _ _ => rfl, ?_⟩
    intro before a later id hactions _ _ hcycle
    have hlength : before.length < 15 := by
      have hle := congrArg List.length hactions
      simp [actions] at hle
      omega
    have hbefore : before = actions.take before.length := by rw [hactions, List.take_left]
    have hafter : before ++ [a] = actions.take (before.length + 1) := by
      rw [hactions, List.take_length_add_append]
      rfl
    rw [hafter]
    rcases hkept before.length hlength with hadvances | hsame
    · have hplace : actions[before.length]? = some a := by simp [hactions]
      rw [hplace] at hadvances
      cases a with
      | advanceCycle number => exact absurd rfl (hcycle number)
      | _ => cases hadvances
    · exact hsame.trans (by rw [← hbefore])
  obtain ⟨-, -, -, -, hcoordinator, hstore, -⟩ := run_as_under_lock ⟨"http://[::1]"⟩
    (Cell.mk (some ⟨"A1", some "R1", none⟩)) actions hquiet
  refine ⟨hquiet, by decide +kernel, hcoordinator, ?_⟩
  decide +kernel

end Knows

end Gateway

end BearerClient
