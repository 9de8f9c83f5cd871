import BearerClient.Proofs.Endings
import BearerClient.Proofs.Overwrites
import BearerClient.Proofs.Passages
import BearerClient.Proofs.Past

/-!
# Endings taken apart

What a turn can do in a gateway in which others come between the steps of an ending (`Happens`). A
turn that has to do with the lock changes of the gateway only the lock and the store, and at the end
of an ending the one who has ordered it goes on; that one has stayed where it was, since nobody else
moves it (`stands_run`). If nobody comes between, an ending is the one step of the gateway
(`run_wholeTurns`).
-/

namespace BearerClient

namespace Gateway

variable {σ : Type}

/-! ## Going on after an ending -/

section Parts

variable (g : Gateway σ) (i : Invalidator) (store : σ) (outcome : Outcome Bool) (asker : Asker)

@[simp] theorem phase?_leftBy (id : CallId) : (g.leftBy i store).phase? id = g.phase? id := rfl

/-- What a request gets that has tried to end the session. -/
def expiryAnswer (outcome : Outcome Bool) : Answer :=
  if outcome = .panicked then .panicked else .payload (.error .sessionExpired)

/-- Nobody but the one who has ordered it goes on after an ending. -/
theorem phase?_conclude (id : CallId) :
    (g.conclude outcome asker).phase? id = g.phase? id ∨
      asker = .caller id ∧
        (g.conclude outcome asker).phase? id = some (.ended (expiryAnswer outcome)) := by
  cases asker with
  | caller ender =>
    have hmoved : g.conclude outcome (.caller ender) = g.moved ender
        (.ended (expiryAnswer outcome)) g.store [.finished ender (expiryAnswer outcome)] := rfl
    rw [hmoved]
    cases hcall : g.calls[ender]? with
    | none =>
      left
      rw [phase?, moved_calls, List.getElem?_modify]
      by_cases hid : ender = id
      · subst hid
        simp [phase?, hcall]
      · simp [phase?, hid]
    | some call =>
      rw [phase?_moved hcall]
      by_cases hid : id = ender
      · exact .inr ⟨by rw [hid], if_pos hid⟩
      · exact .inl (if_neg hid)
  | _ => exact .inl rfl

variable {g outcome asker}

theorem phase?_conclude_self {id : CallId} {phase : Phase} (hphase : g.phase? id = some phase) :
    (g.conclude outcome (.caller id)).phase? id = some (.ended (expiryAnswer outcome)) := by
  obtain ⟨call, hcall, -⟩ := Option.map_eq_some_iff.mp hphase
  exact (phase?_moved hcall (.ended (expiryAnswer outcome)) g.store
    [.finished id (expiryAnswer outcome)] id).trans (if_pos rfl)

theorem purpose?_conclude (id : CallId) :
    (g.conclude outcome asker).purpose? id = g.purpose? id := by
  cases asker with
  | caller ender => exact purpose?_setPhase g ender _ id
  | _ => rfl

/-- After an ending nothing is noticed but that a request has its answer. -/
theorem mem_log_conclude {notice : Notice} (hmem : notice ∈ g.log) :
    notice ∈ (g.conclude outcome asker).log := by
  cases asker with
  | caller ender => exact List.mem_cons_of_mem _ hmem
  | _ => exact hmem

theorem attempt_mem_conclude {id : CallId} {token : String} {request : Request}
    (hmem : .attempt id token request ∈ (g.conclude outcome asker).log) :
    .attempt id token request ∈ g.log := by
  cases asker with
  | caller ender => exact List.mem_of_ne_of_mem (by simp) hmem
  | _ => exact hmem

/-- A cycle that goes on keeps its number and the token it was started over. -/
theorem mem_cycles_conclude {cycle : Cycle}
    (hmem : cycle ∈ (g.conclude outcome asker).coordinator.cycles) :
    ∃ old ∈ g.coordinator.cycles, old.number = cycle.number ∧ old.rejected = cycle.rejected := by
  cases asker with
  | cycle number e =>
    obtain ⟨old, hold, rfl⟩ := List.mem_map.mp hmem
    refine ⟨old, hold, ?_⟩
    split
    · exact ⟨rfl, rfl⟩
    · exact ⟨rfl, rfl⟩
  | _ => exact ⟨cycle, hmem, rfl, rfl⟩

theorem Orderly.leftBy (h : Orderly g) : Orderly (g.leftBy i store) := ⟨h.coordinator, h.waits⟩

theorem Orderly.conclude (h : Orderly g) : Orderly (g.conclude outcome asker) := by
  constructor
  · cases asker with
    | cycle number e => exact h.coordinator.setStage _ _
    | _ => exact h.coordinator
  · intro id number hid
    have hflight : (g.conclude outcome asker).coordinator.flight = g.coordinator.flight := by
      cases asker <;> rfl
    rw [hflight]
    refine h.waits id number ?_
    rcases phase?_conclude g outcome asker id with hsame | ⟨-, hended⟩
    · rw [waitsOn, hsame] at hid
      exact hid
    · rw [waitsOn, hended] at hid
      cases hid

end Parts

theorem Orders.leftBy {g : Gateway σ} {a : Action σ} {order : EndOrder} (h : g.Orders a order)
    (i : Invalidator) (store : σ) : (g.leftBy i store).Orders a order := by
  cases h with
  | user => exact .user
  | outsider => exact .outsider _ _
  | caller hphase => exact .caller hphase
  | cycle hcycle hstage => exact .cycle hcycle hstage

variable [Store σ]

/-- Nobody walks who is about to end the session. -/
theorem Walk.phase_ne_expiring {g : Gateway σ} {id : CallId} {call : Call} {a : Action σ}
    {phase : Phase} {store : σ} {notices : List Notice}
    (h : Walk g id call a phase store notices) (token reason : String) :
    call.phase ≠ .expiring token reason := by
  intro hphase
  cases h with
  | @isCutOff _ _ phase _ _ _ _ hrequest =>
    obtain rfl : phase = .expiring token reason := hphase
    cases hrequest
  | @isAnswered _ _ phase _ _ _ _ hrequest =>
    obtain rfl : phase = .expiring token reason := hphase
    cases hrequest
  | @timesOut _ _ phase _ hwaits =>
    obtain rfl : phase = .expiring token reason := hphase
    cases hwaits
  | isGivenUp hwaits =>
    unfold Call.isWaiting at hwaits
    rw [hphase] at hwaits
    cases hwaits
  | _ => cases hphase

/-- An order stands until it is carried out: whoever has given it stays where it is in the steps that
give none. -/
theorem Orders.stands {g : Gateway σ} {a b : Action σ} {order : EndOrder} (h : g.Orders a order)
    (horder : Orderly g) (hb : g.endOrder? b = none) : (g.step b).Orders a order := by
  have hmove := move_step g b
  cases h with
  | user => exact .user
  | outsider => exact .outsider _ _
  | @caller id token reason hphase =>
    have hother : b ≠ .advance id := by
      rintro rfl
      rw [endOrder?_eq_some.mpr (.caller hphase)] at hb
      cases hb
    obtain ⟨phase', hphase', hpassage⟩ := hmove.passage horder hphase
    generalize hbefore : Phase.expiring token reason = before at hpassage
    cases hpassage with
    | stays =>
      subst hbefore
      exact .caller hphase'
    | walks hwalk => exact absurd hbefore.symm (hwalk.phase_ne_expiring token reason)
    | queues => cases hbefore
    | ends _ hby => exact absurd hby hother
    | hears => cases hbefore
  | @cycle cycle e hcycle hstage =>
    have hother : b ≠ .advanceCycle cycle.number := by
      rintro rfl
      rw [endOrder?_eq_some.mpr (.cycle hcycle hstage)] at hb
      cases hb
    have hanswered : cycle.outstanding? = none := by rw [Cycle.outstanding?, hstage]
    exact .cycle (hmove.cycle?_of_others horder hother hcycle hanswered) hstage

end Gateway

namespace Interleaved

open Gateway

variable {σ : Type} [Store σ]

/-! ## Turns -/

/-- A turn in which an order is done with, and how it went. -/
inductive Gives (d : Interleaved σ) : Turn σ → EndOrder → Outcome Bool → Prop where
  /-- The look is enough. -/
  | looks {a : Action σ} {order : EndOrder} {outcome : Outcome Bool} (hfree : d.hold = none)
      (horder : d.gateway.endOrder? a = some order)
      (hlook : (d.gateway.invalidator.look order.rejected d.gateway.store).1 = .stops outcome) :
      Gives d (.act a) order outcome
  /-- No session was seen, and the store has been cleared all the same. -/
  | clears {order : EndOrder} (hhold : d.hold = some ⟨order, .clearing none⟩)
      (hclear : (Store.clear d.gateway.store).1 = .ok ()) : Gives d .goOn order (.ok false)
  /-- The store cannot be cleared. -/
  | fails {order : EndOrder} {seen : Option Session} {message : String}
      (hhold : d.hold = some ⟨order, .clearing seen⟩)
      (hclear : (Store.clear d.gateway.store).1 = .failed message) :
      Gives d .goOn order (.failed message)
  /-- Clearing the store has broken down. -/
  | breaks {order : EndOrder} {seen : Option Session}
      (hhold : d.hold = some ⟨order, .clearing seen⟩)
      (hclear : (Store.clear d.gateway.store).1 = .panicked) : Gives d .goOn order .panicked
  /-- The end of the session has been told. -/
  | tells {order : EndOrder} (hhold : d.hold = some ⟨order, .telling⟩) :
      Gives d .goOn order (.ok true)

/-- What a turn can do. -/
inductive Happens (d : Interleaved σ) : Turn σ → Interleaved σ → Prop where
  /-- Someone takes a step that gives no order. -/
  | acts {a : Action σ} (horder : d.gateway.endOrder? a = none) :
      Happens d (.act a) { d with gateway := d.gateway.step a }
  /-- An order has to wait for the lock. -/
  | waits {a : Action σ} {order : EndOrder} (horder : d.gateway.endOrder? a = some order)
      (hheld : d.hold.isSome = true) : Happens d (.act a) d
  /-- Nobody has the lock who could go on. -/
  | rests (hfree : d.hold = none) : Happens d .goOn d
  /-- Someone takes the lock and looks, and the store is to be cleared. -/
  | looks {a : Action σ} {order : EndOrder} {seen : Option Session} {i : Invalidator} {store : σ}
      (hfree : d.hold = none) (horder : d.gateway.endOrder? a = some order)
      (hlook : d.gateway.invalidator.look order.rejected d.gateway.store = (.found seen, i, store)) :
      Happens d (.act a) ⟨d.gateway.leftBy i store, some ⟨order, .clearing seen⟩⟩
  /-- The session that was seen, or what has taken its place, is removed. -/
  | removes {order : EndOrder} {s : Session}
      (hhold : d.hold = some ⟨order, .clearing (some s)⟩)
      (hclear : (Store.clear d.gateway.store).1 = .ok ()) :
      Happens d .goOn ⟨d.gateway.leftBy d.gateway.invalidator (Store.clear d.gateway.store).2,
        some ⟨order, .telling⟩⟩
  /-- An order is done with, the lock is free again, and whoever has given the order goes on. -/
  | concludes {t : Turn σ} {order : EndOrder} {outcome : Outcome Bool} (i : Invalidator)
      (store : σ) (hgives : Gives d t order outcome) :
      Happens d t ⟨(d.gateway.leftBy i store).conclude outcome order.asker, none⟩

theorem step_of_order {d : Interleaved σ} {a : Action σ} {order : EndOrder} (hfree : d.hold = none)
    (horder : d.gateway.endOrder? a = some order) : d.step (.act a) = d.look order := by
  simp [step, horder, hfree]

theorem step_of_clearing {d : Interleaved σ} {order : EndOrder} {seen : Option Session}
    (hhold : d.hold = some ⟨order, .clearing seen⟩) : d.step .goOn = d.clear order seen := by
  simp [step, hhold]

theorem step_of_telling {d : Interleaved σ} {order : EndOrder}
    (hhold : d.hold = some ⟨order, .telling⟩) : d.step .goOn = d.tell order := by
  simp [step, hhold]

theorem clear_of_ok {d : Interleaved σ} (hclear : (Store.clear d.gateway.store).1 = .ok ())
    (order : EndOrder) (seen : Option Session) :
    let g := d.gateway.leftBy d.gateway.invalidator (Store.clear d.gateway.store).2
    d.clear order seen = if seen.isSome then ⟨g, some ⟨order, .telling⟩⟩
      else ⟨g.conclude (.ok false) order.asker, none⟩ := by
  unfold clear Invalidator.clear
  generalize Store.clear d.gateway.store = result at hclear ⊢
  obtain ⟨outcome, store⟩ := result
  obtain rfl : outcome = .ok () := hclear
  rfl

theorem clear_of_failed {d : Interleaved σ} {message : String}
    (hclear : (Store.clear d.gateway.store).1 = .failed message) (order : EndOrder)
    (seen : Option Session) :
    let g := d.gateway.leftBy d.gateway.invalidator (Store.clear d.gateway.store).2
    d.clear order seen = ⟨g.conclude (.failed message) order.asker, none⟩ := by
  unfold clear Invalidator.clear
  generalize Store.clear d.gateway.store = result at hclear ⊢
  obtain ⟨outcome, store⟩ := result
  obtain rfl : outcome = .failed message := hclear
  rfl

theorem clear_of_panicked {d : Interleaved σ}
    (hclear : (Store.clear d.gateway.store).1 = .panicked) (order : EndOrder)
    (seen : Option Session) :
    let g := d.gateway.leftBy { d.gateway.invalidator with poisoned := true }
      (Store.clear d.gateway.store).2
    d.clear order seen = ⟨g.conclude .panicked order.asker, none⟩ := by
  unfold clear Invalidator.clear
  generalize Store.clear d.gateway.store = result at hclear ⊢
  obtain ⟨outcome, store⟩ := result
  obtain rfl : outcome = .panicked := hclear
  rfl

/-- Whoever is done with an order leaves the lock and the store somehow, and goes on. -/
theorem Gives.step {d : Interleaved σ} {t : Turn σ} {order : EndOrder} {outcome : Outcome Bool}
    (h : d.Gives t order outcome) :
    ∃ i store, d.step t = ⟨(d.gateway.leftBy i store).conclude outcome order.asker, none⟩ := by
  cases h with
  | looks hfree horder hlook =>
    rw [step_of_order hfree horder]
    unfold look
    generalize d.gateway.invalidator.look order.rejected d.gateway.store = result at hlook ⊢
    obtain ⟨look, i, store⟩ := result
    obtain rfl : look = .stops outcome := hlook
    exact ⟨i, store, rfl⟩
  | clears hhold hclear =>
    rw [step_of_clearing hhold, clear_of_ok hclear]
    exact ⟨_, _, rfl⟩
  | fails hhold hclear =>
    rw [step_of_clearing hhold, clear_of_failed hclear]
    exact ⟨_, _, rfl⟩
  | breaks hhold hclear =>
    rw [step_of_clearing hhold, clear_of_panicked hclear]
    exact ⟨_, _, rfl⟩
  | tells hhold =>
    rw [step_of_telling hhold]
    exact ⟨_, _, rfl⟩

theorem Gives.happens {d : Interleaved σ} {t : Turn σ} {order : EndOrder} {outcome : Outcome Bool}
    (h : d.Gives t order outcome) : Happens d t (d.step t) := by
  obtain ⟨i, store, hstep⟩ := h.step
  rw [hstep]
  exact .concludes i store h

theorem happens_look {d : Interleaved σ} {a : Action σ} {order : EndOrder} (hfree : d.hold = none)
    (horder : d.gateway.endOrder? a = some order) : Happens d (.act a) (d.step (.act a)) := by
  rcases hlook : d.gateway.invalidator.look order.rejected d.gateway.store with ⟨look, i, store⟩
  cases look with
  | stops outcome => exact (Gives.looks hfree horder (by rw [hlook])).happens
  | found seen =>
    have hstep : d.step (.act a) = ⟨d.gateway.leftBy i store, some ⟨order, .clearing seen⟩⟩ := by
      rw [step_of_order hfree horder, Interleaved.look, hlook]
    rw [hstep]
    exact .looks hfree horder hlook

theorem happens_clear {d : Interleaved σ} {order : EndOrder} {seen : Option Session}
    (hhold : d.hold = some ⟨order, .clearing seen⟩) : Happens d .goOn (d.step .goOn) := by
  cases hclear : (Store.clear d.gateway.store).1 with
  | ok =>
    cases seen with
    | none => exact (Gives.clears hhold hclear).happens
    | some s =>
      rw [step_of_clearing hhold, clear_of_ok hclear]
      exact .removes hhold hclear
  | failed message => exact (Gives.fails hhold hclear).happens
  | panicked => exact (Gives.breaks hhold hclear).happens

theorem happens_step (d : Interleaved σ) (t : Turn σ) : Happens d t (d.step t) := by
  cases t with
  | act a =>
    cases horder : d.gateway.endOrder? a with
    | none =>
      simp only [step, horder]
      exact .acts horder
    | some order =>
      cases hhold : d.hold with
      | none => exact happens_look hhold horder
      | some hold =>
        have hheld : d.hold.isSome = true := by rw [hhold]; rfl
        have hstep : d.step (.act a) = d := by simp [step, horder, hheld]
        rw [hstep]
        exact .waits horder hheld
  | goOn =>
    rcases hhold : d.hold with - | ⟨order, seen | -⟩
    · have hstep : d.step .goOn = d := by simp [step, hhold]
      rw [hstep]
      exact .rests hhold
    · exact happens_clear hhold
    · exact (Gives.tells hhold).happens

/-! ## Runs -/

@[simp] theorem run_nil (d : Interleaved σ) : d.run [] = d := rfl

@[simp] theorem run_cons (d : Interleaved σ) (t : Turn σ) (turns : List (Turn σ)) :
    d.run (t :: turns) = (d.step t).run turns := rfl

theorem run_append (d : Interleaved σ) (before later : List (Turn σ)) :
    d.run (before ++ later) = (d.run before).run later := List.foldl_append

theorem run_concat (d : Interleaved σ) (before : List (Turn σ)) (t : Turn σ) :
    d.run (before ++ [t]) = (d.run before).step t := run_append d before [t]

/-- The turns in which a step is taken and, if an order is given in it, whoever has the lock goes on
until it is free again. -/
def wholeTurn (a : Action σ) : List (Turn σ) := [.act a, .goOn, .goOn]

theorem run_wholeTurn (g : Gateway σ) (a : Action σ) :
    (⟨g, none⟩ : Interleaved σ).run (wholeTurn a) = ⟨g.step a, none⟩ := by
  cases horder : g.endOrder? a with
  | none =>
    have hstep : step ⟨g, none⟩ (.act a) = ⟨g.step a, none⟩ := by simp [step, horder]
    rw [wholeTurn, run_cons, hstep]
    rfl
  | some order =>
    have hlook : step ⟨g, none⟩ (.act a) = look order ⟨g, none⟩ := step_of_order rfl horder
    rw [(endOrder?_eq_some.mp horder).step, wholeTurn, run_cons, hlook]
    unfold look Invalidator.endSession
    rcases g.invalidator.look order.rejected g.store with ⟨look, i, store⟩
    cases look with
    | stops outcome => rfl
    | found seen =>
      -- The store is cleared in the second turn; in the third one its end is told, or nothing happens.
      rw [run_cons, step_of_clearing rfl]
      unfold clear
      cases seen with
      | none =>
        dsimp only [leftBy_invalidator, leftBy_store]
        unfold Invalidator.clearWith
        rcases i.clear store with ⟨outcome, i', store'⟩
        cases outcome with
        | ok => rfl
        | failed message => rfl
        | panicked => rfl
      | some s =>
        dsimp only [leftBy_invalidator, leftBy_store]
        unfold Invalidator.clearWith
        rcases i.clear store with ⟨outcome, i', store'⟩
        cases outcome with
        | ok => rfl
        | failed message => rfl
        | panicked => rfl

/-- If nobody comes between the steps of an ending, the gateway is the one in which an ending is one
step. -/
theorem run_wholeTurns (g : Gateway σ) (actions : List (Action σ)) :
    (⟨g, none⟩ : Interleaved σ).run (actions.flatMap wholeTurn) = ⟨g.run actions, none⟩ := by
  induction actions generalizing g with
  | nil => rfl
  | cons a actions ih => rw [List.flatMap_cons, run_append, run_wholeTurn, ih, Gateway.run_cons]

/-- The gateway is orderly, and whoever has the lock has given its order and stands by it. -/
structure Stands (d : Interleaved σ) : Prop where
  /-- The gateway is orderly. -/
  order : Orderly d.gateway
  /-- The order that is carried out has been given. -/
  given : ∀ hold, d.hold = some hold → ∃ a, d.gateway.Orders a hold.order

omit [Store σ] in
theorem stands_new (root : ApiRoot) (store : σ) : Stands (new root store) :=
  ⟨orderly_new root store, fun _ h => by cases h⟩

theorem Stands.step {d : Interleaved σ} (h : Stands d) (t : Turn σ) : Stands (d.step t) := by
  have hhappens := happens_step d t
  generalize d.step t = d' at hhappens
  cases hhappens with
  | acts horder =>
    refine ⟨(move_step _ _).orderly h.order, ?_⟩
    intro hold hhold
    obtain ⟨a, ha⟩ := h.given hold hhold
    exact ⟨a, ha.stands h.order horder⟩
  | waits => exact h
  | rests => exact h
  | looks _ horder =>
    refine ⟨h.order.leftBy _ _, ?_⟩
    rintro _ ⟨rfl⟩
    exact ⟨_, (endOrder?_eq_some.mp horder).leftBy _ _⟩
  | removes hhold =>
    refine ⟨h.order.leftBy _ _, ?_⟩
    rintro _ ⟨rfl⟩
    obtain ⟨a, ha⟩ := h.given _ hhold
    exact ⟨a, ha.leftBy _ _⟩
  | concludes i store => exact ⟨(h.order.leftBy i store).conclude, fun _ hhold => by cases hhold⟩

theorem stands_run (root : ApiRoot) (store : σ) (turns : List (Turn σ)) :
    Stands ((new root store).run turns) := by
  induction turns using List.reverseRecOn with
  | nil => exact stands_new root store
  | append_singleton before t ih =>
    rw [run_concat]
    exact ih.step t

end Interleaved

end BearerClient
