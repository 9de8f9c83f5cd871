import BearerClient.Proofs.LawfulStore
import BearerClient.Proofs.SingleFlight

/-!
# The session that is held

What the moves of a gateway do to the session in a lawful store. Apart from logins and from what
happens to the store from outside, only a cycle that stores its renewed session puts a session there
(`Move.current_cases`); everything else keeps the session or removes it.
-/

namespace BearerClient

namespace Gateway

variable {σ : Type} [Store σ] [LawfulStore σ]

/-- The session that the store holds. -/
def current (g : Gateway σ) : Option Session := held g.store

/-- An action that brings no session from outside: nobody logs in, and whatever else happens to the
store keeps the session or removes it. -/
def Action.IsSteady : Action σ → Prop
  | .signIn _ => False
  | .disturb change => ∀ store, held (change store) = held store ∨ held (change store) = none
  | _ => True

/-- Whoever walks leaves the session as it is. -/
theorem Walk.held_eq {g : Gateway σ} {id : CallId} {call : Call} {a : Action σ} {phase : Phase}
    {store : σ} {notices : List Notice} (h : Walk g id call a phase store notices) :
    held store = g.current := by
  cases h with
  | findsNone => exact LawfulStore.held_get g.store
  | opens => exact LawfulStore.held_get g.store
  | cannotOpen => exact LawfulStore.held_get g.store
  | breaksOpening => exact LawfulStore.held_get g.store
  | reads => exact LawfulStore.held_get g.store
  | cannotRead => exact LawfulStore.held_get g.store
  | breaksReading => exact LawfulStore.held_get g.store
  | _ => rfl

/-- The task of a cycle leaves the session as it is, unless it stores the renewed one. -/
theorem Work.held_cases {g : Gateway σ} {cycle : Cycle} {a : Action σ} {stage : Stage} {store : σ}
    {notices : List Notice} (h : Work g cycle a stage store notices) :
    held store = g.current ∨ ∃ renewed, cycle.stage = .storing renewed ∧
      (Store.set renewed g.store).1 = .ok () ∧ a = .advanceCycle cycle.number ∧
      stage = .settling (.ok renewed.accessToken) ∧ held store = some renewed := by
  cases h with
  | breaksReading => exact .inl (LawfulStore.held_get g.store)
  | cannotRead => exact .inl (LawfulStore.held_get g.store)
  | findsNone => exact .inl (LawfulStore.held_get g.store)
  | lacksToken => exact .inl (LawfulStore.held_get g.store)
  | lacksAddress => exact .inl (LawfulStore.held_get g.store)
  | sends => exact .inl (LawfulStore.held_get g.store)
  | receives => exact .inl rfl
  | receivesNone => exact .inl rfl
  | @stores renewed hstage hset =>
    exact .inr ⟨renewed, hstage, hset, rfl, rfl, LawfulStore.held_set renewed g.store hset⟩
  | @cannotStore renewed message hstage hset =>
    exact .inl (LawfulStore.held_set_of_ne renewed g.store (by simp [hset]))
  | @breaksStoring renewed hstage hset =>
    exact .inl (LawfulStore.held_set_of_ne renewed g.store (by simp [hset]))

theorem current_invalidate (g : Gateway σ) (token reason : String) :
    (g.invalidate token reason).2.current = g.current ∨
      (g.invalidate token reason).2.current = none :=
  Invalidator.held_endSession (some token) (.expired reason) g.invalidator g.store

theorem current_signOut (g : Gateway σ) :
    g.signOut.2.current = g.current ∨ g.signOut.2.current = none :=
  Invalidator.held_endSession none .signedOut g.invalidator g.store

/-- What happens from outside, apart from a login, keeps the session or removes it. -/
theorem Touch.current_cases {g g' : Gateway σ} {a : Action σ} (h : Touch g a g')
    (hsteady : a.IsSteady) : g'.current = g.current ∨ g'.current = none := by
  cases h with
  | signsIn => exact hsteady.elim
  | signsOut => exact g.current_signOut
  | invalidates token reason => exact g.current_invalidate token reason
  | disturbs change => exact hsteady g.store

/-- What becomes of the session in a move that brings none from outside: it is kept, or removed, or
a cycle has stored its renewed session in its place. -/
theorem Move.current_cases {g g' : Gateway σ} {a : Action σ} (h : Move g a g')
    (hsteady : a.IsSteady) : g'.current = g.current ∨ g'.current = none ∨
    ∃ cycle renewed, g.coordinator.cycle? cycle.number = some cycle ∧
      cycle.stage = .storing renewed ∧ (Store.set renewed g.store).1 = .ok () ∧
      g'.current = some renewed ∧
      g'.coordinator =
        g.coordinator.setStage cycle.number (.settling (.ok renewed.accessToken)) := by
  cases h with
  | idles => exact .inl rfl
  | comes => exact .inl rfl
  | walks _ hwalk => exact .inl hwalk.held_eq
  | joins => exact .inl rfl
  | begins => exact .inl rfl
  | @expires _ _ token reason =>
    rcases g.current_invalidate token reason with hkept | hnone
    · exact .inl hkept
    · exact .inr (.inl hnone)
  | @works _ cycle stage _ _ hcycle hwork =>
    rcases hwork.held_cases with hkept | ⟨renewed, hstage, hset, -, hafter, hstored⟩
    · exact .inl hkept
    · exact .inr (.inr ⟨cycle, renewed, hcycle, hstage, hset, hstored, by rw [← hafter]; rfl⟩)
  | @fails cycle e =>
    rcases g.current_invalidate cycle.rejected e.message with hkept | hnone
    · exact .inl hkept
    · exact .inr (.inl hnone)
  | settles => exact .inl (by rw [current, settle_store]; rfl)
  | touches htouch =>
    rcases htouch.current_cases hsteady with hkept | hnone
    · exact .inl hkept
    · exact .inr (.inl hnone)

/-! ## The start of a cycle -/

/-- A step in which a caller starts a cycle over the token of the session that it has read. -/
structure Begins (g g' : Gateway σ) (s : Session) : Prop where
  /-- The caller has read the session, and nothing has settled since it began. -/
  caller : ∃ (id : CallId) (purpose : Purpose), g.calls[id]? =
    some ⟨purpose, .asking s.accessToken (.seen g.coordinator.settled (some s))⟩
  /-- Nothing was running. -/
  idle : g.coordinator.flight = none
  /-- The session is left as it was. -/
  current : g'.current = g.current
  /-- The new cycle is the only one. -/
  cycles : g'.coordinator.cycles = [⟨g.coordinator.started, s.accessToken, .reading⟩]
  /-- The cycle is counted. -/
  started : g'.coordinator.started = g.coordinator.started + 1

/-- A move adds no cycle to the past, unless it begins one. -/
theorem Move.begins_or {g g' : Gateway σ} {a : Action σ} (h : Move g a g') (horder : Orderly g) :
    (∃ s, Begins g g' s) ∨ g'.coordinator.started = g.coordinator.started ∧
      ∀ cycle' ∈ g'.coordinator.cycles, ∃ cycle ∈ g.coordinator.cycles,
        cycle.number = cycle'.number ∧ cycle.rejected = cycle'.rejected := by
  have hset : ∀ (number : Nat) (stage : Stage),
      ∀ cycle' ∈ (g.coordinator.setStage number stage).cycles, ∃ cycle ∈ g.coordinator.cycles,
        cycle.number = cycle'.number ∧ cycle.rejected = cycle'.rejected := by
    intro number stage cycle' hmem
    obtain ⟨cycle, hcycle, rfl⟩ := List.mem_map.mp hmem
    refine ⟨cycle, hcycle, ?_⟩
    split
    · exact ⟨rfl, rfl⟩
    · exact ⟨rfl, rfl⟩
  cases h with
  | @begins id purpose rejected session hcall hidle htoken =>
    subst htoken
    exact .inl ⟨session, ⟨id, purpose, hcall⟩, hidle, rfl,
      horder.coordinator.cycles_start hidle id _, rfl⟩
  | works => exact .inr ⟨rfl, hset _ _⟩
  | fails => exact .inr ⟨rfl, hset _ _⟩
  | settles hcycle =>
    rw [settle_coordinator, horder.coordinator.cycles_settle hcycle]
    exact .inr ⟨rfl, fun _ hmem => absurd hmem List.not_mem_nil⟩
  | touches htouch =>
    obtain ⟨-, hcoordinator, -, -⟩ := htouch.frame
    rw [hcoordinator]
    exact .inr ⟨rfl, fun cycle hmem => ⟨cycle, hmem, rfl, rfl⟩⟩
  | _ => exact .inr ⟨rfl, fun cycle hmem => ⟨cycle, hmem, rfl, rfl⟩⟩

end Gateway

end BearerClient
