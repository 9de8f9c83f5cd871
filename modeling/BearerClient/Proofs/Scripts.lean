import BearerClient.Proofs.Logins
import BearerClient.Rehearsal.Script

/-!
# Scripts as runs

A script is played on one gateway, which comes to rest between any two steps of the script. All that
happens to the gateway is one run of it (`gateway_after`), in which the steps of the script come
between those that are taken without them. A cycle that has got its tokens stores them and tells its
result before the script goes on, so no session comes or goes in between (`settlesPromptly_trace`).
-/

namespace BearerClient

/-- The access token that the task of a cycle has stored and is about to tell. -/
def Stage.stored? : Stage → Option String
  | .settling (.ok token) => some token
  | _ => none

/-- How many steps the task of a cycle that has got its tokens is from its end. -/
def Stage.toGo : Stage → Nat
  | .storing _ => 2
  | .settling (.ok _) => 1
  | _ => 0

namespace Gateway

variable {σ : Type} [Store σ] [LawfulStore σ]

/-- A step that leaves the session as it is if some cycle has stored its tokens and not told its
result yet. -/
def SettlesPromptly (g : Gateway σ) (a : Action σ) : Prop :=
  ∀ cycle ∈ g.coordinator.cycles, cycle.stage.stored?.isSome = true →
    (g.step a).current = g.current

/-- The cycles that have got their tokens are at most so many steps from their ends. -/
def IsWithin (steps : Nat) (g : Gateway σ) : Prop :=
  ∀ cycle ∈ g.coordinator.cycles, cycle.stage.toGo ≤ steps

end Gateway

namespace Rehearsal

open Gateway

variable {σ : Type} [Store σ]

/-! ## The run of a script -/

/-- The step of the gateway that a step of a script comes to, if it comes to one. -/
def played (r : Rehearsal σ) : Cue → Option (Action (Rigged σ))
  | .request _ d shape => some (.start (.request d shape))
  | .ask _ rejected _ => some (.start (.token rejected))
  | .reply name reply =>
    match r.find? name with
    | none => none
    | some id =>
      match r.gateway.calls[id]? with
      | none => none
      | some call =>
        match r.isHeld call id, call.outstanding? with
        | true, some request => (reply.delivery? request.method).map (.deliver id)
        | _, _ => none
  | .replyRefresh reply =>
    match r.gateway.coordinator.cycles.find? r.isCycleHeld with
    | none => none
    | some cycle => (reply.delivery? .post).map (.deliverRefresh cycle.number)
  | .wait name => (r.find? name).map .expire
  | .waitRefresh => r.gateway.coordinator.cycles.head?.map fun cycle => .expireRefresh cycle.number
  | .cancel name => (r.find? name).map .abandon
  | .signIn s => some (.signIn s)
  | .signOut => some .signOut
  | .session | .tenant => some (.disturb fun store => (Store.get store).2)
  | .invalidate token reason => some (.invalidate token reason)
  | .storeSet s => some (.disturb fun store => { store with inner := (Store.set s store.inner).2 })
  | .storeClear => some (.disturb fun store => { store with inner := (Store.clear store.inner).2 })
  | .fault f => some (.disturb fun store => { store with faults := store.faults ++ [f] })
  | .mend => some (.disturb fun store => { store with faults := [] })
  | .badMethod | .resume _ | .unknown => none

/-- The steps that are taken without the script, at most so many. -/
def ownSteps : Nat → Rehearsal σ → List (Action (Rigged σ))
  | 0, _ => []
  | steps + 1, r =>
    match r.nextAction? with
    | none => []
    | some a => a :: ownSteps steps { r with gateway := r.gateway.step a }

/-- The rehearsal after a script. -/
def after : Rehearsal σ → List Cue → Rehearsal σ
  | r, [] => r
  | r, cue :: cues => (r.play cue).2.settle.after cues

/-- All steps of the gateway while a script is played. -/
def trace : Rehearsal σ → List Cue → List (Action (Rigged σ))
  | _, [] => []
  | r, cue :: cues =>
    let next := (r.play cue).2
    (r.played cue).toList ++ (ownSteps next.stepBound next ++ next.settle.trace cues)

theorem gateway_replyTo (r : Rehearsal σ) (name : String) (reply : Reply) :
    (r.replyTo name reply).2.gateway = r.gateway.run (r.played (.reply name reply)).toList := by
  simp only [replyTo, played]
  cases r.find? name with
  | none => rfl
  | some id =>
    dsimp only
    cases r.gateway.calls[id]? with
    | none => rfl
    | some call =>
      dsimp only
      cases r.isHeld call id with
      | false => rfl
      | true =>
        cases call.outstanding? with
        | none => rfl
        | some request =>
          dsimp only
          cases reply.delivery? request.method <;> rfl

theorem gateway_replyToRefresh (r : Rehearsal σ) (reply : Reply) :
    (r.replyToRefresh reply).2.gateway = r.gateway.run (r.played (.replyRefresh reply)).toList := by
  simp only [replyToRefresh, played]
  cases r.gateway.coordinator.cycles.find? r.isCycleHeld with
  | none => rfl
  | some cycle =>
    dsimp only
    cases reply.delivery? .post <;> rfl

omit [Store σ] in
theorem gateway_resumeCall (r : Rehearsal σ) (name : String) :
    (r.resumeCall name).2.gateway = r.gateway := by
  unfold resumeCall
  split
  · rfl
  · split
    · rfl
    · split
      · rfl
      · rfl

theorem gateway_actOn (r : Rehearsal σ) (name : String) (action : CallId → Action (Rigged σ)) :
    (r.actOn name action).gateway = r.gateway.run ((r.find? name).map action).toList := by
  unfold actOn
  cases r.find? name <;> rfl

/-- A step of a script comes to one step of the gateway, or to none. -/
theorem gateway_play (r : Rehearsal σ) (cue : Cue) :
    (r.play cue).2.gateway = r.gateway.run (r.played cue).toList := by
  cases cue with
  | resume name => exact r.gateway_resumeCall name
  | reply name reply => exact r.gateway_replyTo name reply
  | replyRefresh reply => exact r.gateway_replyToRefresh reply
  | wait name => exact r.gateway_actOn name .expire
  | cancel name => exact r.gateway_actOn name .abandon
  | waitRefresh =>
    simp only [play, played]
    cases r.gateway.coordinator.cycles <;> rfl
  | _ => rfl

theorem gateway_settleWithin (steps : Nat) (r : Rehearsal σ) :
    (settleWithin steps r).gateway = r.gateway.run (ownSteps steps r) := by
  induction steps generalizing r with
  | zero => rfl
  | succ steps ih =>
    unfold settleWithin ownSteps
    cases r.nextAction? with
    | none => rfl
    | some a => exact ih _

/-- A script is played on a run of the gateway. -/
theorem gateway_after (r : Rehearsal σ) (cues : List Cue) :
    (r.after cues).gateway = r.gateway.run (r.trace cues) := by
  induction cues generalizing r with
  | nil => rfl
  | cons cue cues ih =>
    have hsettle : (r.play cue).2.settle.gateway =
        (r.gateway.run (r.played cue).toList).run (ownSteps (r.play cue).2.stepBound (r.play cue).2) := by
      rw [settle, gateway_settleWithin, gateway_play]
    rw [after, ih, hsettle, trace, run_append, run_append]

end Rehearsal

/-! ## Cycles that have got their tokens -/

theorem Stage.toGo_le (stage : Stage) : stage.toGo ≤ 2 := by
  unfold toGo
  split <;> omega

/-- A task that has got its tokens waits for nothing. -/
theorem Cycle.outstanding?_of_toGo {cycle : Cycle} (h : 0 < cycle.stage.toGo) :
    cycle.outstanding? = none := by
  unfold outstanding?
  split
  · rename_i hstage
    simp [hstage, Stage.toGo] at h
  · rfl

/-- A task that has stored its tokens is one step from its end. -/
theorem Stage.stored?_isSome {stage : Stage} (h : stage.stored?.isSome = true) :
    ∃ token, stage = .settling (.ok token) := by
  unfold stored? at h
  split at h
  · exact ⟨_, rfl⟩
  · cases h

namespace Gateway

variable {σ : Type} [Store σ] {g : Gateway σ}

omit [Store σ] in
theorem isWithin_two (g : Gateway σ) : IsWithin 2 g := fun cycle _ => cycle.stage.toGo_le

/-- A task that has got its tokens gets one step nearer to its end. -/
theorem IsWithin.advanceCycle {steps : Nat} (h : IsWithin (steps + 1) g) (horder : Orderly g)
    {cycle : Cycle} (hmem : cycle ∈ g.coordinator.cycles) (hready : 0 < cycle.stage.toGo) :
    IsWithin steps (g.step (.advanceCycle cycle.number)) := by
  have hcycle := horder.coordinator.cycle?_of_mem hmem
  have hbound : cycle.stage.toGo ≤ steps + 1 := h cycle hmem
  have hset : ∀ (store : σ) (stage : Stage), stage.toGo ≤ steps →
      IsWithin steps ({ g with store := store }.setStage cycle.number stage) := by
    intro store stage hstage other hother
    have hother' : other ∈ (g.coordinator.setStage cycle.number stage).cycles := hother
    rw [horder.coordinator.cycles_setStage hcycle, List.mem_singleton] at hother'
    rw [hother']
    exact hstage
  simp only [Gateway.step, Gateway.advanceCycle, hcycle]
  unfold Stage.toGo at hready
  split at hready
  · rename_i renewed hstage
    rw [hstage] at hbound ⊢
    have hone : 1 ≤ steps := Nat.le_of_succ_le_succ hbound
    show IsWithin steps (g.storeRenewed cycle.number renewed)
    unfold storeRenewed
    rcases Store.set renewed g.store with ⟨outcome, store⟩
    cases outcome with
    | ok => exact hset store (.settling (.ok renewed.accessToken)) hone
    | failed message => exact hset store (.failing (.store message)) (Nat.zero_le _)
    | panicked => exact hset store (.settling (.error .aborted)) (Nat.zero_le _)
  · rename_i token hstage
    rw [hstage]
    intro other hother
    have hother' : other ∈ (g.settle cycle.number (.ok token)).coordinator.cycles := hother
    rw [settle_coordinator, horder.coordinator.cycles_settle hcycle] at hother'
    exact absurd hother' List.not_mem_nil
  · exact absurd hready (Nat.lt_irrefl 0)

/-- A step in which no tokens come brings no task nearer to its end. -/
theorem IsWithin.step_of_barren (h : IsWithin 0 g) (horder : Orderly g) {a : Action σ}
    (hbarren : ∀ number delivery, Answers number a delivery → delivery = .refused) :
    IsWithin 0 (g.step a) := by
  intro cycle' hmem
  rcases (move_step g a).stage_cases horder hmem with
    hold | ⟨-, hstage⟩ | ⟨e, hstage⟩ | ⟨cycle, stage, _, _, hcycle, hwork, -, rfl⟩
  · exact h cycle' hold
  · rw [hstage]
    exact Nat.zero_le _
  · rw [hstage]
    exact Nat.zero_le _
  · have hnone := h cycle (List.mem_of_find?_eq_some hcycle)
    cases hwork with
    | receives hstage ha htokens =>
      rw [hbarren _ _ ha] at htokens
      cases htokens
    | stores hstage =>
      rw [hstage] at hnone
      cases hnone
    | _ => exact Nat.zero_le _

end Gateway

/-! ## Between the steps of a script -/

namespace Rehearsal

open Gateway

variable {σ : Type} {r : Rehearsal σ}

/-- A cycle that can go on does so first. -/
theorem nextAction?_of_mem (horder : Orderly r.gateway) {cycle : Cycle}
    (hmem : cycle ∈ r.gateway.coordinator.cycles) (hready : 0 < cycle.stage.toGo) :
    r.nextAction? = some (.advanceCycle cycle.number) := by
  obtain ⟨-, -, -, hcycles, -⟩ :=
    horder.coordinator.flight_of_cycle? (horder.coordinator.cycle?_of_mem hmem)
  simp [nextAction?, hcycles, Cycle.outstanding?_of_toGo hready]

/-- Nothing is answered without the script, but that nobody listens. -/
theorem delivery_of_nextAction? {a : Action (Rigged σ)} (ha : r.nextAction? = some a) {number : Nat}
    {delivery : Delivery} (hanswers : Answers number a delivery) : delivery = .refused := by
  simp only [nextAction?, Option.orElse_eq_orElse, Option.orElse_eq_or, Option.or_eq_some_iff,
    Option.map_eq_some_iff] at ha
  rcases ha with ⟨_, -, rfl⟩ | ⟨-, ⟨_, -, rfl⟩ | ⟨-, ⟨_, -, rfl⟩ | ⟨-, _, -, rfl⟩⟩⟩
  · rcases hanswers with hsame | ⟨hsame, -⟩ <;> cases hsame
  · rcases hanswers with hsame | ⟨hsame, -⟩
    · cases hsame
      rfl
    · cases hsame
  · rcases hanswers with hsame | ⟨hsame, -⟩ <;> cases hsame
  · rcases hanswers with hsame | ⟨hsame, -⟩ <;> cases hsame

variable [Store σ]

/-- While nothing waits for the script, the tasks that have got their tokens go to their ends. -/
theorem isWithin_settleWithin {steps : Nat} (horder : Orderly r.gateway)
    (h : IsWithin steps r.gateway) : IsWithin 0 (settleWithin steps r).gateway := by
  induction steps generalizing r with
  | zero => exact h
  | succ steps ih =>
    unfold settleWithin
    by_cases hready : ∃ cycle ∈ r.gateway.coordinator.cycles, 0 < cycle.stage.toGo
    · obtain ⟨cycle, hmem, hready⟩ := hready
      have hafter : Orderly (r.gateway.step (.advanceCycle cycle.number)) :=
        (move_step _ _).orderly horder
      rw [nextAction?_of_mem horder hmem hready]
      exact ih hafter (h.advanceCycle horder hmem hready)
    · have hnone : IsWithin 0 r.gateway := by
        intro cycle hmem
        exact Nat.le_of_not_lt fun hready' => hready ⟨cycle, hmem, hready'⟩
      cases hnext : r.nextAction? with
      | none => exact hnone
      | some a =>
        have hstep : IsWithin 0 (r.gateway.step a) :=
          hnone.step_of_barren horder fun _ _ => delivery_of_nextAction? hnext
        refine ih ((move_step _ _).orderly horder) ?_
        intro cycle hmem
        exact Nat.le_trans (hstep cycle hmem) (Nat.zero_le _)

/-- After each step of a script no task is left that has got its tokens. -/
theorem isWithin_settle (horder : Orderly r.gateway) : IsWithin 0 r.settle.gateway := by
  have hpow : 1 ≤ Nat.pow (r.gateway.calls.length + 2) 2 := Nat.pow_pos (Nat.succ_pos _)
  have hbound : 2 ≤ r.stepBound := by
    unfold stepBound
    omega
  refine isWithin_settleWithin horder ?_
  intro cycle hmem
  exact Nat.le_trans (isWithin_two r.gateway cycle hmem) hbound

variable [LawfulStore σ]

theorem settlesPromptly_of_isWithin {g : Gateway (Rigged σ)} (h : IsWithin 0 g)
    (a : Action (Rigged σ)) : SettlesPromptly g a := by
  intro cycle hmem hstored
  obtain ⟨token, hstage⟩ := Stage.stored?_isSome hstored
  have hbound := h cycle hmem
  rw [hstage] at hbound
  cases hbound

/-- What goes on without the script does not come between a cycle's storing and its telling. -/
theorem settlesPromptly_ownSteps (steps : Nat) (horder : Orderly r.gateway) :
    r.gateway.Along (ownSteps steps r) SettlesPromptly := by
  induction steps generalizing r with
  | zero => exact along_nil
  | succ steps ih =>
    unfold ownSteps
    cases hnext : r.nextAction? with
    | none => exact along_nil
    | some a =>
      refine .cons ?_ (ih (r := { r with gateway := r.gateway.step a })
        ((move_step _ _).orderly horder))
      intro cycle hmem hstored
      obtain ⟨token, hstage⟩ := Stage.stored?_isSome hstored
      have hready : 0 < cycle.stage.toGo := by simp [hstage, Stage.toGo]
      rw [nextAction?_of_mem horder hmem hready] at hnext
      obtain rfl := Option.some.inj hnext
      have hstep : r.gateway.step (.advanceCycle cycle.number) =
          r.gateway.settle cycle.number (.ok token) := by
        simp only [Gateway.step, advanceCycle, horder.coordinator.cycle?_of_mem hmem, hstage]
      rw [hstep, current, settle_store]
      rfl

/-- In the run of a script, no session comes or goes between a cycle's storing of its tokens and its
telling of them. -/
theorem settlesPromptly_trace (horder : Orderly r.gateway) (hrests : IsWithin 0 r.gateway)
    (cues : List Cue) : r.gateway.Along (r.trace cues) SettlesPromptly := by
  induction cues generalizing r with
  | nil => exact along_nil
  | cons cue cues ih =>
    have hplayed : r.gateway.Along (r.played cue).toList SettlesPromptly := by
      cases r.played cue with
      | none => exact along_nil
      | some a => exact .cons (settlesPromptly_of_isWithin hrests a) along_nil
    have horder' : Orderly (r.play cue).2.gateway := by
      rw [gateway_play]
      exact horder.run _
    have hafter : Orderly (r.play cue).2.settle.gateway := by
      rw [settle, gateway_settleWithin]
      exact horder'.run _
    have hown := settlesPromptly_ownSteps (r.play cue).2.stepBound horder'
    have hlater := ih hafter (isWithin_settle horder')
    rw [settle, gateway_settleWithin] at hlater
    rw [gateway_play] at hown hlater
    exact hplayed.append (hown.append hlater)

end Rehearsal

end BearerClient
