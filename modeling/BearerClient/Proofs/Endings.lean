import BearerClient.Gateway.Interleaved
import BearerClient.Proofs.HeldSession

/-!
# The ends of sessions

The order to end a session is given at four places: by a logout, on request from outside, by a cycle
that failed, and by a request whose token was refused for good (`Orders`). If nobody comes between
its look at the session and the removal, the order either ends the session that it has looked at and
is told, or changes nothing (`Orders.cases`). Every other step tells nothing, and takes no session
away (`Move.order_or`).
-/

namespace BearerClient

theorem Feed.publish_ne (feed : Feed) (event : SessionEvent) : feed.publish event ≠ feed := by
  intro h
  have hlength := congrArg (fun feed => feed.events.length) h
  simp [Feed.publish] at hlength

theorem Feed.publish_inj {feed : Feed} {event event' : SessionEvent}
    (h : feed.publish event = feed.publish event') : event = event' := by
  have hevents : feed.events ++ [event] = feed.events ++ [event'] := congrArg Feed.events h
  exact List.singleton_inj.mp (List.append_cancel_left hevents)

namespace Gateway

variable {σ : Type}

/-! ## Orders -/

/-- The kinds of orders to end the session, and who gives them. -/
inductive Orders (g : Gateway σ) : Action σ → EndOrder → Prop where
  /-- The user logs out. -/
  | user : Orders g .signOut ⟨.user, none, .signedOut⟩
  /-- Someone asks for it past the gateway. -/
  | outsider (token reason : String) :
      Orders g (.invalidate token reason) ⟨.outsider, some token, .expired reason⟩
  /-- A request ends as expired. -/
  | caller {id : CallId} {token reason : String}
      (hphase : g.phase? id = some (.expiring token reason)) :
      Orders g (.advance id) ⟨.caller id, some token, .expired reason⟩
  /-- A cycle has failed. -/
  | cycle {cycle : Cycle} {e : RefreshError}
      (hcycle : g.coordinator.cycle? cycle.number = some cycle) (hstage : cycle.stage = .failing e) :
      Orders g (.advanceCycle cycle.number)
        ⟨.cycle cycle.number e, some cycle.rejected, .expired e.message⟩

theorem endOrder?_eq_some {g : Gateway σ} {a : Action σ} {order : EndOrder} :
    g.endOrder? a = some order ↔ g.Orders a order := by
  constructor
  · intro h
    cases a with
    | signOut =>
      obtain rfl := Option.some.inj h
      exact .user
    | invalidate token reason =>
      obtain rfl := Option.some.inj h
      exact .outsider token reason
    | advance id =>
      simp only [endOrder?] at h
      split at h
      · rename_i token reason hphase
        obtain rfl := Option.some.inj h
        exact .caller hphase
      · cases h
    | advanceCycle number =>
      simp only [endOrder?] at h
      split at h
      · rename_i own rejected e hcycle
        obtain rfl : own = number := number_of_cycle? hcycle
        obtain rfl := Option.some.inj h
        exact @Orders.cycle _ g ⟨own, rejected, .failing e⟩ e hcycle rfl
      · cases h
    | _ => cases h
  · intro h
    cases h with
    | user => rfl
    | outsider => rfl
    | caller hphase =>
      unfold phase? at hphase
      simp only [endOrder?, hphase]
    | @cycle cycle e hcycle hstage =>
      obtain ⟨number, rejected, stage⟩ := cycle
      subst hstage
      simp only [endOrder?, hcycle]

section Parts

variable (g : Gateway σ) (i : Invalidator) (store : σ) (outcome : Outcome Bool) (asker : Asker)

@[simp] theorem leftBy_store : (g.leftBy i store).store = store := rfl

@[simp] theorem leftBy_invalidator : (g.leftBy i store).invalidator = i := rfl

@[simp] theorem conclude_store : (g.conclude outcome asker).store = g.store := by
  cases asker <;> rfl

@[simp] theorem conclude_invalidator :
    (g.conclude outcome asker).invalidator = g.invalidator := by
  cases asker <;> rfl

end Parts

variable [Store σ]

/-- The order is carried out in one step if nobody comes between. -/
theorem Orders.step {g : Gateway σ} {a : Action σ} {order : EndOrder} (h : g.Orders a order) :
    let after := g.invalidator.endSession order.rejected order.event g.store
    g.step a = (g.leftBy after.2.1 after.2.2).conclude after.1 order.asker := by
  cases h with
  | user => rfl
  | outsider => rfl
  | @caller id token reason hphase =>
    obtain ⟨⟨purpose, phase⟩, hcall, rfl⟩ := Option.map_eq_some_iff.mp hphase
    obtain ⟨answer, hanswer, hstep⟩ := step_of_expiring hcall
    rw [hstep, hanswer]
    rfl
  | @cycle cycle e hcycle hstage =>
    obtain ⟨result, hresult, hstep⟩ := step_of_failing hcycle hstage
    have hsame : result =
        .error (if (g.invalidate cycle.rejected e.message).1 = .panicked then .aborted else e) := by
      rw [hresult]
      split
      · rfl
      · rfl
    rw [hstep, hsame]
    rfl

/-! ## Events -/

/-- A step in which an event is told. -/
def Tells (g : Gateway σ) (a : Action σ) (event : SessionEvent) : Prop :=
  (g.step a).invalidator.feed = g.invalidator.feed.publish event

variable [LawfulStore σ]

/-- A step in which a session is lost. -/
def Loses (g : Gateway σ) (a : Action σ) (s : Session) : Prop :=
  g.current = some s ∧ (g.step a).current = none

/-- An action that puts a session in place: a login, or the step in which a cycle stores the session
that it has renewed. -/
def Puts (g : Gateway σ) (a : Action σ) (s : Session) : Prop :=
  a = .signIn s ∨ ∃ cycle, a = .advanceCycle cycle.number ∧
    g.coordinator.cycle? cycle.number = some cycle ∧ cycle.stage = .storing s

/-- A move carries out an order to end the session, or it tells nothing and either keeps the session
or puts another one in place, unless the store is changed from outside. -/
theorem Move.order_or {g g' : Gateway σ} {a : Action σ} (h : Move g a g') :
    (∃ order, g.Orders a order) ∨
    g'.invalidator = g.invalidator ∧ (g'.current = g.current ∨
      (∃ s, g.Puts a s ∧ g'.current = some s) ∨ ∃ change, a = .disturb change) := by
  cases h with
  | walks _ hwalk => exact .inr ⟨rfl, .inl hwalk.held_eq⟩
  | expires hcall => exact .inl ⟨_, .caller (phase?_of_calls hcall)⟩
  | @works _ cycle stage _ _ hcycle hwork =>
    refine .inr ⟨rfl, ?_⟩
    rcases hwork.held_cases with hkept | ⟨renewed, hstage, -, rfl, -, hstored⟩
    · exact .inl hkept
    · exact .inr (.inl ⟨renewed, .inr ⟨cycle, rfl, hcycle, hstage⟩, hstored⟩)
  | fails hcycle hstage => exact .inl ⟨_, .cycle hcycle hstage⟩
  | settles => exact .inr ⟨settle_invalidator .., .inl (by rw [current, settle_store]; rfl)⟩
  | touches htouch =>
    cases htouch with
    | signsIn s =>
      refine .inr ⟨rfl, ?_⟩
      by_cases hset : (Store.set s g.store).1 = .ok ()
      · exact .inr (.inl ⟨s, .inl rfl, LawfulStore.held_set s g.store hset⟩)
      · exact .inl (LawfulStore.held_set_of_ne s g.store hset)
    | signsOut => exact .inl ⟨_, .user⟩
    | invalidates token reason => exact .inl ⟨_, .outsider token reason⟩
    | disturbs change => exact .inr ⟨rfl, .inr (.inr ⟨change, rfl⟩)⟩
  | _ => exact .inr ⟨rfl, .inl rfl⟩

/-- An order that nobody comes between either gives true, removes the session and is told, or gives
something else and changes nothing. -/
theorem Orders.cases {g : Gateway σ} {a : Action σ} {order : EndOrder} (h : g.Orders a order) :
    let outcome := (g.invalidator.endSession order.rejected order.event g.store).1
    (outcome = .ok true ∧ g.Tells a order.event ∧
      ∃ s, g.Loses a s ∧ order.rejected.any (· ≠ s.accessToken) = false) ∨
    (outcome ≠ .ok true ∧ (g.step a).invalidator.feed = g.invalidator.feed ∧
      (g.step a).current = g.current) := by
  intro outcome
  have hcurrent : (g.step a).current =
      held (g.invalidator.endSession order.rejected order.event g.store).2.2 := by
    rw [current, h.step, conclude_store, leftBy_store]
  have hfeed : (g.step a).invalidator.feed =
      (g.invalidator.endSession order.rejected order.event g.store).2.1.feed := by
    rw [h.step, conclude_invalidator, leftBy_invalidator]
  rcases g.invalidator.endSession_cases order.rejected order.event g.store with
    ⟨s, hs, htoken, hok, hnone, htold⟩ | ⟨hkept, hquiet, hfalse, -⟩ | ⟨hkept, hquiet, hfailed⟩
  · exact .inl ⟨hok, hfeed.trans htold, s, ⟨hs, hcurrent.trans hnone⟩, htoken⟩
  · refine .inr ⟨?_, hfeed.trans hquiet, hcurrent.trans hkept⟩
    intro htrue
    cases hfalse.symm.trans htrue
  · exact .inr ⟨hfailed true, hfeed.trans hquiet, hcurrent.trans hkept⟩

end Gateway

end BearerClient
