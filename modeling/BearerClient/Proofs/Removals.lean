import BearerClient.Proofs.Interleavings

/-!
# Removed sessions and their events

Others may come between the look at the session and the removal, and between the removal and the
event. So the session that is removed may be another one than the one that was seen, and if none was
seen one may be removed without being told of. The main statement, `one_event_per_ended_session`,
says what of the correspondence of removals and events is left in every run, and where it fails:
only where a session is put in place between a look and the removal, as in `login_lost_silently`.

What a turn does to the session and the events is a matter of a few cases (`Does`). Two facts about
runs are gained from them by induction on the last turn: a session that is there was there before or
has been put in place since (`current_run`), and whoever clears the store has looked before and has
had no turn since (`looked_run`), as whoever tells has removed a session (`removed_run`).
-/

namespace BearerClient

namespace Interleaved

open Gateway

variable {σ : Type} [Store σ]

/-! ## What has happened -/

/-- What happened in some turn of a run, with the gateway as it was before the turn. -/
def Happened (d : Interleaved σ) (turns : List (Turn σ))
    (P : Interleaved σ → Turn σ → Prop) : Prop :=
  ∃ before t later, turns = before ++ t :: later ∧ P (d.run before) t

/-- What happened in a longer run happened before its last turn, or in it. -/
theorem happened_concat {d : Interleaved σ} {before : List (Turn σ)} {t : Turn σ}
    {P : Interleaved σ → Turn σ → Prop} :
    d.Happened (before ++ [t]) P ↔ d.Happened before P ∨ P (d.run before) t := by
  constructor
  · rintro ⟨first, u, later, hturns, h⟩
    rcases concat_eq_append_cons.mp hturns with ⟨rfl, rfl, -⟩ | ⟨rest, -, rfl⟩
    · exact .inr h
    · exact .inl ⟨first, u, rest, rfl, h⟩
  · rintro (⟨first, u, later, rfl, h⟩ | h)
    · exact ⟨first, u, later ++ [t], by simp, h⟩
    · exact ⟨before, t, [], rfl, h⟩

theorem Happened.concat {d : Interleaved σ} {before : List (Turn σ)}
    {P : Interleaved σ → Turn σ → Prop} (h : d.Happened before P) (t : Turn σ) :
    d.Happened (before ++ [t]) P :=
  happened_concat.mpr (.inl h)

/-- A turn in which an event is told. -/
def Tells (d : Interleaved σ) (t : Turn σ) (event : SessionEvent) : Prop :=
  (d.step t).gateway.invalidator.feed = d.gateway.invalidator.feed.publish event

/-- A turn in which the store is changed from outside. -/
def IsDisturbed (t : Turn σ) : Prop := ∃ change, t = .act (.disturb change)

/-- Whoever has the lock has seen the session `s` and is about to clear the store, which can be
cleared. -/
def Removes (d : Interleaved σ) (order : EndOrder) (s : Session) : Prop :=
  d.hold = some ⟨order, .clearing (some s)⟩ ∧ (Store.clear d.gateway.store).1 = .ok ()

variable [LawfulStore σ]

/-- A turn that leaves the session as it is and tells nothing. -/
def Quiet (d : Interleaved σ) (t : Turn σ) : Prop :=
  (d.step t).gateway.current = d.gateway.current ∧
    (d.step t).gateway.invalidator.feed = d.gateway.invalidator.feed

/-- A turn in which a session is lost. -/
def Loses (d : Interleaved σ) (t : Turn σ) (s : Session) : Prop :=
  d.gateway.current = some s ∧ (d.step t).gateway.current = none

/-- A turn in which a session is put in place: by a login, by a cycle that stores the session it has
renewed, or from outside. -/
def Installs (d : Interleaved σ) (t : Turn σ) (s : Session) : Prop :=
  (d.step t).gateway.current = some s ∧
    ((∃ a, t = .act a ∧ d.gateway.Puts a s) ∨ IsDisturbed t)

/-- What a turn does to the session and the events. -/
inductive Does (d : Interleaved σ) : Turn σ → Prop where
  /-- The session stays as it is and nothing is told. -/
  | nothing {t : Turn σ} (hquiet : d.Quiet t) : Does d t
  /-- A session is put in place. -/
  | installs {t : Turn σ} {s : Session} (hinstalls : d.Installs t s)
      (hfeed : (d.step t).gateway.invalidator.feed = d.gateway.invalidator.feed) : Does d t
  /-- The session is removed from outside. -/
  | disturbs {t : Turn σ} (hdisturbed : IsDisturbed t)
      (hnone : (d.step t).gateway.current = none)
      (hfeed : (d.step t).gateway.invalidator.feed = d.gateway.invalidator.feed) : Does d t
  /-- Whoever has the lock has seen a session and clears the store. -/
  | removes {order : EndOrder} {s : Session} (hremoves : d.Removes order s)
      (hnone : (d.step .goOn).gateway.current = none)
      (hfeed : (d.step .goOn).gateway.invalidator.feed = d.gateway.invalidator.feed) : Does d .goOn
  /-- Whoever has the lock has seen no session and clears the store. -/
  | discards {order : EndOrder} (hhold : d.hold = some ⟨order, .clearing none⟩)
      (hgives : d.Gives .goOn order (.ok false)) (hnone : (d.step .goOn).gateway.current = none)
      (hfeed : (d.step .goOn).gateway.invalidator.feed = d.gateway.invalidator.feed) : Does d .goOn
  /-- Whoever has the lock has removed a session and tells of it. -/
  | tells {order : EndOrder} (hhold : d.hold = some ⟨order, .telling⟩)
      (htells : d.Tells .goOn order.event)
      (hkept : (d.step .goOn).gateway.current = d.gateway.current) : Does d .goOn

theorem current_conclude (g : Gateway σ) (outcome : Outcome Bool) (asker : Asker) :
    (g.conclude outcome asker).current = g.current := congrArg held (conclude_store ..)

omit [Store σ] [LawfulStore σ] in
theorem feed_conclude (g : Gateway σ) (outcome : Outcome Bool) (asker : Asker) :
    (g.conclude outcome asker).invalidator.feed = g.invalidator.feed :=
  congrArg Invalidator.feed (conclude_invalidator ..)

/-- Giving an order changes nothing by itself. -/
theorem quiet_of_order {d : Interleaved σ} {a : Action σ} {order : EndOrder}
    (horder : d.gateway.endOrder? a = some order) : d.Quiet (.act a) := by
  cases hhold : d.hold with
  | some hold =>
    have hstep : d.step (.act a) = d := by simp [step, horder, hhold]
    rw [Quiet, hstep]
    exact ⟨rfl, rfl⟩
  | none =>
    have hfeed := d.gateway.invalidator.look_feed order.rejected d.gateway.store
    have hkept := d.gateway.invalidator.held_look order.rejected d.gateway.store
    rw [Quiet, step_of_order hhold horder]
    unfold look
    generalize d.gateway.invalidator.look order.rejected d.gateway.store = result at hfeed hkept ⊢
    obtain ⟨look, i, store⟩ := result
    cases look with
    | stops outcome =>
      exact ⟨(current_conclude ..).trans hkept, (feed_conclude ..).trans hfeed⟩
    | found seen => exact ⟨hkept, hfeed⟩

/-- What a turn in which an order is done with does to the session and the events. -/
theorem Gives.effect {d : Interleaved σ} {t : Turn σ} {order : EndOrder} {outcome : Outcome Bool}
    (h : d.Gives t order outcome) :
    (outcome = .ok true ∧ t = .goOn ∧ d.hold = some ⟨order, .telling⟩ ∧ d.Tells t order.event ∧
      (d.step t).gateway.current = d.gateway.current) ∨
    (outcome ≠ .ok true ∧ d.Quiet t) ∨
    (outcome = .ok false ∧ t = .goOn ∧ d.hold = some ⟨order, .clearing none⟩ ∧
      (d.step t).gateway.current = none ∧
      (d.step t).gateway.invalidator.feed = d.gateway.invalidator.feed) := by
  cases h with
  | looks hfree horder hlook =>
    refine .inr (.inl ⟨?_, quiet_of_order horder⟩)
    rcases d.gateway.invalidator.look_cases order.rejected d.gateway.store with
      ⟨failed, hfailed, hne⟩ | ⟨hother, -⟩ | ⟨hfound, -⟩
    · obtain rfl := Invalidator.Look.stops.inj (hlook.symm.trans hfailed)
      exact hne true
    · obtain rfl := Invalidator.Look.stops.inj (hlook.symm.trans hother)
      simp
    · cases hlook.symm.trans hfound
  | clears hhold hclear =>
    refine .inr (.inr ⟨rfl, rfl, hhold, ?_⟩)
    rw [step_of_clearing hhold, clear_of_ok hclear]
    exact ⟨(current_conclude ..).trans (LawfulStore.held_clear _ hclear), feed_conclude ..⟩
  | fails hhold hclear =>
    refine .inr (.inl ⟨by simp, ?_⟩)
    have hne : (Store.clear d.gateway.store).1 ≠ .ok () := by simp [hclear]
    rw [Quiet, step_of_clearing hhold, clear_of_failed hclear]
    exact ⟨(current_conclude ..).trans (LawfulStore.held_clear_of_ne _ hne), feed_conclude ..⟩
  | breaks hhold hclear =>
    refine .inr (.inl ⟨by simp, ?_⟩)
    have hne : (Store.clear d.gateway.store).1 ≠ .ok () := by simp [hclear]
    rw [Quiet, step_of_clearing hhold, clear_of_panicked hclear]
    exact ⟨(current_conclude ..).trans (LawfulStore.held_clear_of_ne _ hne), feed_conclude ..⟩
  | tells hhold =>
    refine .inl ⟨rfl, rfl, hhold, ?_⟩
    rw [Tells, step_of_telling hhold]
    exact ⟨feed_conclude .., current_conclude ..⟩

theorem does_step (d : Interleaved σ) (t : Turn σ) : d.Does t := by
  have hhappens := happens_step d t
  generalize hafter : d.step t = d' at hhappens
  cases hhappens with
  | @acts a horder =>
    have hfeed (hsame : (d.gateway.step a).invalidator = d.gateway.invalidator) :
        (d.step (.act a)).gateway.invalidator.feed = d.gateway.invalidator.feed := by
      rw [hafter]
      exact congrArg Invalidator.feed hsame
    rcases (move_step d.gateway a).order_or with
      ⟨order, hgiven⟩ | ⟨hsame, hkept | ⟨s, hputs, hput⟩ | ⟨change, rfl⟩⟩
    · cases horder.symm.trans (endOrder?_eq_some.mpr hgiven)
    · refine .nothing ⟨?_, hfeed hsame⟩
      rw [hafter]
      exact hkept
    · refine .installs ⟨?_, .inl ⟨a, rfl, hputs⟩⟩ (hfeed hsame)
      rw [hafter]
      exact hput
    · cases hcurrent : (d.step (.act (.disturb change))).gateway.current with
      | none => exact .disturbs ⟨change, rfl⟩ hcurrent (hfeed hsame)
      | some s => exact .installs ⟨hcurrent, .inr ⟨change, rfl⟩⟩ (hfeed hsame)
  | waits =>
    refine .nothing ?_
    rw [Quiet, hafter]
    exact ⟨rfl, rfl⟩
  | rests =>
    refine .nothing ?_
    rw [Quiet, hafter]
    exact ⟨rfl, rfl⟩
  | looks _ horder => exact .nothing (quiet_of_order horder)
  | @removes order s hhold hclear =>
    refine .removes (s := s) ⟨hhold, hclear⟩ ?_ ?_
    · rw [hafter]
      exact LawfulStore.held_clear d.gateway.store hclear
    · rw [hafter]
      rfl
  | concludes i store hgives =>
    rcases hgives.effect with ⟨-, rfl, hhold, htells, hkept⟩ | ⟨-, hquiet⟩ |
      ⟨rfl, rfl, hhold, hnone, hfeed⟩
    · exact .tells hhold htells hkept
    · exact .nothing hquiet
    · exact .discards hhold hgives hnone hfeed

/-! ## Runs -/

/-- The session that is there after a run was there before it, or has been put in place in it. -/
theorem current_run {d : Interleaved σ} {turns : List (Turn σ)} {s : Session}
    (hs : (d.run turns).gateway.current = some s) :
    d.gateway.current = some s ∨ d.Happened turns fun e t => e.Installs t s := by
  induction turns using List.reverseRecOn with
  | nil => exact .inl hs
  | append_singleton before t ih =>
    rw [run_concat] at hs
    have hearlier (hbefore : (d.run before).gateway.current = some s) :
        d.gateway.current = some s ∨ d.Happened (before ++ [t]) fun e t => e.Installs t s :=
      (ih hbefore).imp_right fun h => h.concat t
    cases does_step (d.run before) t with
    | nothing hquiet => exact hearlier (hquiet.1.symm.trans hs)
    | installs hinstalls =>
      obtain rfl := Option.some.inj (hs.symm.trans hinstalls.1)
      exact .inr (happened_concat.mpr (.inr hinstalls))
    | disturbs _ hnone => cases hnone.symm.trans hs
    | removes _ hnone => cases hnone.symm.trans hs
    | discards _ _ hnone => cases hnone.symm.trans hs
    | tells _ _ hkept => exact hearlier (hkept.symm.trans hs)

omit [Store σ] [LawfulStore σ] in
theorem goOn_notMem_concat {before : List (Turn σ)} {t : Turn σ} :
    .goOn ∉ before ++ [t] ↔ .goOn ∉ before ∧ t ≠ .goOn := by
  rw [List.mem_append, not_or, List.mem_singleton, ne_comm]

/-- While whoever has the lock has no turn, a session is lost only to someone outside. -/
theorem lost_run {d : Interleaved σ} {mid : List (Turn σ)} (hrests : .goOn ∉ mid)
    (hs : d.gateway.current ≠ none) (hnone : (d.run mid).gateway.current = none) :
    ∃ t ∈ mid, IsDisturbed t := by
  induction mid using List.reverseRecOn with
  | nil => exact absurd hnone hs
  | append_singleton before t ih =>
    rw [run_concat] at hnone
    obtain ⟨hrests', hturn⟩ := goOn_notMem_concat.mp hrests
    have hearlier (hbefore : (d.run before).gateway.current = none) :
        ∃ t' ∈ before ++ [t], IsDisturbed t' := by
      obtain ⟨t', hmem, hdisturbed⟩ := ih hrests' hbefore
      exact ⟨t', List.mem_append_left _ hmem, hdisturbed⟩
    cases does_step (d.run before) t with
    | nothing hquiet => exact hearlier (hquiet.1.symm.trans hnone)
    | installs hinstalls => cases hinstalls.1.symm.trans hnone
    | disturbs hdisturbed =>
      exact ⟨t, List.mem_append_right _ (List.mem_singleton_self _), hdisturbed⟩
    | removes => exact absurd rfl hturn
    | discards => exact absurd rfl hturn
    | tells => exact absurd rfl hturn

omit [LawfulStore σ] in
/-- Whoever has the lock keeps it while it has no turn. -/
theorem hold_run {d : Interleaved σ} {hold : Hold} (hhold : d.hold = some hold)
    {mid : List (Turn σ)} (hrests : .goOn ∉ mid) : (d.run mid).hold = some hold := by
  induction mid using List.reverseRecOn with
  | nil => exact hhold
  | append_singleton before t ih =>
    obtain ⟨hrests', hturn⟩ := goOn_notMem_concat.mp hrests
    have hbefore := ih hrests'
    rw [run_concat]
    have hhappens := happens_step (d.run before) t
    generalize (d.run before).step t = d' at hhappens
    cases hhappens with
    | acts => exact hbefore
    | waits => exact hbefore
    | rests => exact hbefore
    | looks hfree => cases hfree.symm.trans hbefore
    | removes => exact absurd rfl hturn
    | concludes i store hgives =>
      cases hgives with
      | looks hfree => cases hfree.symm.trans hbefore
      | _ => exact absurd rfl hturn

/-- What is known of whoever has looked at the session and is about to clear the store: after the
turns `first` the lock was free, and the order was given by the action `a`, when the session was
`seen`; since then, in the turns `mid`, whoever has the lock has had no turn. -/
structure Looked (d : Interleaved σ) (first : List (Turn σ)) (a : Action σ) (mid : List (Turn σ))
    (order : EndOrder) (seen : Option Session) : Prop where
  /-- The lock was free. -/
  free : (d.run first).hold = none
  /-- The order was given. -/
  gives : (d.run first).gateway.endOrder? a = some order
  /-- The session was seen. -/
  saw : (d.run first).gateway.current = seen
  /-- It may be ended by the order. -/
  may : ∀ s, seen = some s → order.rejected.any (· ≠ s.accessToken) = false
  /-- Whoever has the lock has had no turn. -/
  rests : .goOn ∉ mid

/-- Whoever is about to clear the store has looked at the session, in the run or before it. -/
theorem looked_run {d : Interleaved σ} {turns : List (Turn σ)} {order : EndOrder}
    {seen : Option Session} (hhold : (d.run turns).hold = some ⟨order, .clearing seen⟩) :
    (d.hold = some ⟨order, .clearing seen⟩ ∧ .goOn ∉ turns) ∨
      ∃ first a mid, turns = first ++ .act a :: mid ∧ d.Looked first a mid order seen := by
  induction turns using List.reverseRecOn with
  | nil => exact .inl ⟨hhold, List.not_mem_nil⟩
  | append_singleton before t ih =>
    rw [run_concat] at hhold
    have hearlier (b : Action σ) (hbefore : (d.run before).hold = some ⟨order, .clearing seen⟩) :
        (d.hold = some ⟨order, .clearing seen⟩ ∧ .goOn ∉ before ++ [.act b]) ∨
          ∃ first a mid, before ++ [.act b] = first ++ .act a :: mid ∧
            d.Looked first a mid order seen := by
      rcases ih hbefore with ⟨hstart, hrests⟩ | ⟨first, a, mid, rfl, hlooked⟩
      · exact .inl ⟨hstart, by simpa using hrests⟩
      · refine .inr ⟨first, a, mid ++ [.act b], by simp, ?_⟩
        exact { hlooked with rests := by simpa using hlooked.rests }
    have hhappens := happens_step (d.run before) t
    generalize (d.run before).step t = d' at hhappens hhold
    cases hhappens with
    | acts => exact hearlier _ hhold
    | waits => exact hearlier _ hhold
    | rests hfree => cases hfree.symm.trans hhold
    | @looks a order' seen' i store hfree horder hlook =>
      obtain ⟨rfl, hprogress⟩ := Hold.mk.inj (Option.some.inj hhold)
      obtain rfl := Holding.clearing.inj hprogress
      refine .inr ⟨before, a, [], rfl, ?_⟩
      rcases (d.run before).gateway.invalidator.look_cases order'.rejected
        (d.run before).gateway.store with ⟨outcome, hover, -⟩ | ⟨hover, -⟩ | ⟨hfound, hmay⟩
      · rw [hlook] at hover
        cases hover
      · rw [hlook] at hover
        cases hover
      · rw [hlook] at hfound
        have hsaw : (d.run before).gateway.current = seen' :=
          (Invalidator.Look.found.inj hfound).symm
        exact ⟨hfree, horder, hsaw, fun s hs => hmay s (hsaw.trans hs), List.not_mem_nil⟩
    | removes => cases hhold
    | concludes => cases hhold

omit [LawfulStore σ] in
/-- Whoever is about to tell has removed a session, in the run or before it. -/
theorem removed_run {d : Interleaved σ} {turns : List (Turn σ)} {order : EndOrder}
    (hhold : (d.run turns).hold = some ⟨order, .telling⟩) :
    (d.hold = some ⟨order, .telling⟩ ∧ .goOn ∉ turns) ∨
      ∃ first mid s, turns = first ++ .goOn :: mid ∧ .goOn ∉ mid ∧ (d.run first).Removes order s := by
  induction turns using List.reverseRecOn with
  | nil => exact .inl ⟨hhold, List.not_mem_nil⟩
  | append_singleton before t ih =>
    rw [run_concat] at hhold
    have hearlier (b : Action σ) (hbefore : (d.run before).hold = some ⟨order, .telling⟩) :
        (d.hold = some ⟨order, .telling⟩ ∧ .goOn ∉ before ++ [.act b]) ∨
          ∃ first mid s, before ++ [.act b] = first ++ .goOn :: mid ∧ .goOn ∉ mid ∧
            (d.run first).Removes order s := by
      rcases ih hbefore with ⟨hstart, hrests⟩ | ⟨first, mid, s, rfl, hrests, hremoves⟩
      · exact .inl ⟨hstart, by simpa using hrests⟩
      · exact .inr ⟨first, mid ++ [.act b], s, by simp, by simpa using hrests, hremoves⟩
    have hhappens := happens_step (d.run before) t
    generalize (d.run before).step t = d' at hhappens hhold
    cases hhappens with
    | acts => exact hearlier _ hhold
    | waits => exact hearlier _ hhold
    | rests hfree => cases hfree.symm.trans hhold
    | looks => cases hhold
    | @removes order' s hbefore hclear =>
      obtain ⟨rfl, -⟩ := Hold.mk.inj (Option.some.inj hhold)
      exact .inr ⟨before, [], s, rfl, List.not_mem_nil, hbefore, hclear⟩
    | concludes => cases hhold

/-! ## Removals and events -/

omit [LawfulStore σ] in
/-- Whoever is done with an order has been given it. -/
theorem Gives.orders {d : Interleaved σ} (hstands : Stands d) {t : Turn σ} {order : EndOrder}
    {outcome : Outcome Bool} (h : d.Gives t order outcome) : ∃ a, d.gateway.Orders a order := by
  cases h with
  | looks _ horder => exact ⟨_, endOrder?_eq_some.mp horder⟩
  | clears hhold => exact hstands.given _ hhold
  | fails hhold => exact hstands.given _ hhold
  | breaks hhold => exact hstands.given _ hhold
  | tells hhold => exact hstands.given _ hhold

/-- An event is told in a turn exactly if an order is done with in it that gives true. -/
theorem tells_iff {d : Interleaved σ} {t : Turn σ} {event : SessionEvent} :
    d.Tells t event ↔ ∃ order, d.Gives t order (.ok true) ∧ order.event = event := by
  constructor
  · intro htells
    have hloud (hfeed : (d.step t).gateway.invalidator.feed = d.gateway.invalidator.feed) : False :=
      Feed.publish_ne _ _ (htells.symm.trans hfeed)
    cases does_step d t with
    | nothing hquiet => exact (hloud hquiet.2).elim
    | installs _ hfeed => exact (hloud hfeed).elim
    | disturbs _ _ hfeed => exact (hloud hfeed).elim
    | removes _ _ hfeed => exact (hloud hfeed).elim
    | discards _ _ _ hfeed => exact (hloud hfeed).elim
    | @tells order hhold htells' =>
      exact ⟨order, .tells hhold, Feed.publish_inj (htells'.symm.trans htells)⟩
  · rintro ⟨order, hgives, rfl⟩
    rcases hgives.effect with ⟨-, -, -, htells, -⟩ | ⟨hne, -⟩ | ⟨hfalse, -⟩
    · exact htells
    · exact absurd rfl hne
    · cases hfalse

/-- A session is lost to someone outside, or to whoever has the lock: to one who has seen a session
and is about to tell, or to one who has seen none and is done. -/
theorem Loses.cases {d : Interleaved σ} {t : Turn σ} {s : Session} (h : d.Loses t s) :
    IsDisturbed t ∨ t = .goOn ∧ ∃ order seen, d.hold = some ⟨order, .clearing seen⟩ ∧
      ((∃ s', seen = some s' ∧ d.Removes order s') ∨
        seen = none ∧ d.Gives .goOn order (.ok false)) := by
  obtain ⟨hs, hnone⟩ := h
  cases does_step d t with
  | nothing hquiet => cases hs.symm.trans (hquiet.1.symm.trans hnone)
  | installs hinstalls => cases hinstalls.1.symm.trans hnone
  | disturbs hdisturbed => exact .inl hdisturbed
  | @removes order s' hremoves =>
    exact .inr ⟨rfl, order, some s', hremoves.1, .inl ⟨s', rfl, hremoves⟩⟩
  | @discards order hhold hgives => exact .inr ⟨rfl, order, none, hhold, .inr ⟨rfl, hgives⟩⟩
  | tells _ _ hkept => cases hs.symm.trans (hkept.symm.trans hnone)

theorem Removes.step {d : Interleaved σ} {order : EndOrder} {s : Session}
    (h : d.Removes order s) :
    (d.step .goOn).hold = some ⟨order, .telling⟩ ∧ (d.step .goOn).gateway.current = none := by
  obtain ⟨hhold, hclear⟩ := h
  rw [step_of_clearing hhold, clear_of_ok hclear]
  exact ⟨rfl, LawfulStore.held_clear _ hclear⟩

/-- The session that was seen is there when the store is cleared, or another one that has been put
in its place, unless someone outside has removed it. -/
theorem Looked.loses {start : Interleaved σ} {first mid : List (Turn σ)} {a : Action σ}
    {order : EndOrder} {s : Session} (h : start.Looked first a mid order (some s))
    (hremoves : (start.run (first ++ .act a :: mid)).Removes order s) :
    (∃ s', (start.run (first ++ .act a :: mid)).Loses .goOn s') ∨ ∃ t ∈ mid, IsDisturbed t := by
  cases hcurrent : (start.run (first ++ .act a :: mid)).gateway.current with
  | some s' => exact .inl ⟨s', hcurrent, hremoves.step.2⟩
  | none =>
    have hlook : ((start.run first).step (.act a)).gateway.current = some s :=
      (quiet_of_order h.gives).1.trans h.saw
    rw [run_append, run_cons] at hcurrent
    exact .inr (lost_run h.rests (by simp [hlook]) hcurrent)

/-- A session that is there when the store is cleared is the one that was seen, or has been put in
place since the look. -/
theorem Looked.current_cases {start : Interleaved σ} {first mid : List (Turn σ)} {a : Action σ}
    {order : EndOrder} {seen : Option Session} (h : start.Looked first a mid order seen)
    {s : Session} (hs : (start.run (first ++ .act a :: mid)).gateway.current = some s) :
    seen = some s ∨ (start.run (first ++ [.act a])).Happened mid fun e t => e.Installs t s := by
  rw [run_append, run_cons] at hs
  rw [run_concat]
  refine (current_run hs).imp_left ?_
  intro hlook
  exact h.saw.symm.trans ((quiet_of_order h.gives).1.symm.trans hlook)

/-- Between two removals some session is put in place. -/
theorem Removes.installs_before {d : Interleaved σ} {order : EndOrder} {s : Session}
    (h : d.Removes order s) {mid : List (Turn σ)} {order' : EndOrder} {s' : Session}
    (hnext : ((d.step .goOn).run mid).Removes order' s') :
    ∃ s'', (d.step .goOn).Happened mid fun e t => e.Installs t s'' := by
  obtain ⟨htelling, hnone⟩ := h.step
  rcases looked_run hnext.1 with ⟨hhold, -⟩ | ⟨first, a, rest, rfl, hlooked⟩
  · cases htelling.symm.trans hhold
  · -- The session that was seen was there, and none was there after the first removal.
    refine ⟨s', ?_⟩
    rcases current_run hlooked.saw with hs' | ⟨before, t, later, rfl, hinstalls⟩
    · cases hnone.symm.trans hs'
    · exact ⟨before, t, later ++ .act a :: rest, by simp, hinstalls⟩

/-- In every run of a gateway in which others come between the steps of an ending, whatever its store
does: a turn tells one event or none, and it tells one exactly if an order to end the session is done
with in it that gives true; the event is the one of that order. To give an order changes nothing. A
turn in which an order is done with that gives anything else leaves the session as it is and tells
nothing, with one exception: if no session was seen, the store is cleared all the same.

Unless the store is changed from outside, a session is lost only to whoever has the lock, and it is
the one that was seen, or it has been put in place since the look. If a session was seen the end is
told in the next turn of the one who has the lock; if none was seen, nobody is told. A removal leaves
no session, and before the next one some session is put in place. Whoever tells has removed a session
in its turn before, and if there is a session after the event it has been put in place since. -/
theorem one_event_per_ended_session (root : ApiRoot) (store : σ) (turns : List (Turn σ)) :
    let start := new root store
    let d := start.run turns
    (∀ t, (d.step t).gateway.invalidator.feed = d.gateway.invalidator.feed ∨
      ∃ event, d.Tells t event) ∧
    (∀ t event, d.Tells t event ↔ ∃ order, d.Gives t order (.ok true) ∧ order.event = event) ∧
    (∀ a order, d.gateway.endOrder? a = some order → d.Quiet (.act a)) ∧
    (∀ t order outcome, d.Gives t order outcome → (∃ a, d.gateway.Orders a order) ∧
      (outcome ≠ .ok true → d.Quiet t ∨
        outcome = .ok false ∧ d.hold = some ⟨order, .clearing none⟩ ∧
          (d.step t).gateway.current = none ∧
          (d.step t).gateway.invalidator.feed = d.gateway.invalidator.feed)) ∧
    (∀ t s, d.Loses t s → IsDisturbed t ∨ t = .goOn ∧ ∃ order seen first a mid,
      turns = first ++ .act a :: mid ∧ start.Looked first a mid order seen ∧
      ((∃ s', seen = some s' ∧ d.Removes order s') ∨
        seen = none ∧ d.Gives .goOn order (.ok false)) ∧
      (seen = some s ∨
        (start.run (first ++ [.act a])).Happened mid fun e u => e.Installs u s)) ∧
    (∀ order s, d.Removes order s →
      (∃ first a mid, turns = first ++ .act a :: mid ∧ start.Looked first a mid order (some s) ∧
        ((∃ s', d.Loses .goOn s') ∨ ∃ t ∈ mid, IsDisturbed t)) ∧
      (d.step .goOn).gateway.current = none ∧
      (∀ mid, .goOn ∉ mid → ((d.step .goOn).run mid).Gives .goOn order (.ok true)) ∧
      ∀ mid order' s', ((d.step .goOn).run mid).Removes order' s' →
        ∃ s'', (d.step .goOn).Happened mid fun e t => e.Installs t s'') ∧
    ∀ t event, d.Tells t event → ∃ first mid order s, turns = first ++ .goOn :: mid ∧
      .goOn ∉ mid ∧ (start.run first).Removes order s ∧ order.event = event ∧
      ∀ s', (d.step t).gateway.current = some s' →
        (start.run (first ++ [.goOn])).Happened mid fun e u => e.Installs u s' := by
  intro start d
  have hlooked : ∀ order seen, d.hold = some ⟨order, .clearing seen⟩ →
      ∃ first a mid, turns = first ++ .act a :: mid ∧ start.Looked first a mid order seen := by
    intro order seen hhold
    rcases looked_run hhold with ⟨hstart, -⟩ | hlooked
    · cases hstart
    · exact hlooked
  refine ⟨?_, fun t event => tells_iff, fun a order => quiet_of_order, ?_, ?_, ?_, ?_⟩
  · intro t
    cases does_step d t with
    | nothing hquiet => exact .inl hquiet.2
    | installs _ hfeed => exact .inl hfeed
    | disturbs _ _ hfeed => exact .inl hfeed
    | removes _ _ hfeed => exact .inl hfeed
    | discards _ _ _ hfeed => exact .inl hfeed
    | tells _ htells => exact .inr ⟨_, htells⟩
  · intro t order outcome hgives
    refine ⟨hgives.orders (stands_run root store turns), ?_⟩
    intro hne
    rcases hgives.effect with ⟨htrue, -⟩ | ⟨-, hquiet⟩ | ⟨hfalse, -, hhold, hnone, hfeed⟩
    · exact absurd htrue hne
    · exact .inl hquiet
    · exact .inr ⟨hfalse, hhold, hnone, hfeed⟩
  · intro t s hloses
    rcases hloses.cases with hdisturbed | ⟨rfl, order, seen, hhold, hways⟩
    · exact .inl hdisturbed
    · obtain ⟨first, a, mid, hturns, hlook⟩ := hlooked order seen hhold
      refine .inr ⟨rfl, order, seen, first, a, mid, hturns, hlook, hways, ?_⟩
      exact hlook.current_cases (hturns ▸ hloses.1)
  · intro order s hremoves
    obtain ⟨first, a, mid, hturns, hlook⟩ := hlooked order (some s) hremoves.1
    obtain ⟨htelling, hnone⟩ := hremoves.step
    refine ⟨⟨first, a, mid, hturns, hlook, ?_⟩, hnone, ?_, ?_⟩
    · subst hturns
      exact hlook.loses hremoves
    · intro mid hrests
      exact .tells (hold_run htelling hrests)
    · intro mid order' s' hnext
      exact hremoves.installs_before hnext
  · intro t event htells
    obtain ⟨order, hgives, hevent⟩ := tells_iff.mp htells
    rcases hgives.effect with ⟨-, rfl, hhold, -, hkept⟩ | ⟨hne, -⟩ | ⟨hfalse, -⟩
    · rcases removed_run hhold with ⟨hstart, -⟩ | ⟨first, mid, s, hturns, hrests, hremoves⟩
      · cases hstart
      · refine ⟨first, mid, order, s, hturns, hrests, hremoves, hevent, ?_⟩
        intro s' hs'
        have hbefore : (start.run turns).gateway.current = some s' := hkept.symm.trans hs'
        rw [hturns, run_append, run_cons] at hbefore
        rw [run_concat]
        refine (current_run hbefore).resolve_left ?_
        intro hafter
        cases hremoves.step.2.symm.trans hafter
    · exact absurd rfl hne
    · cases hfalse

/-- A login comes between the look and the removal of a logout: the logout removes the session that
it has not seen, and tells that the session has been ended. -/
theorem login_lost_to_logout :
    let start := new ⟨"http://[::1]"⟩ (Cell.mk (some ⟨"A1", some "R1", none⟩))
    let mid : List (Turn Cell) := [.act (.signIn ⟨"B1", some "S1", none⟩)]
    let d := start.run (.act .signOut :: mid)
    d.Loses .goOn ⟨"B1", some "S1", none⟩ ∧
      (start.run [.act .signOut]).Happened mid
        (fun e t => e.Installs t ⟨"B1", some "S1", none⟩) ∧
      (d.step .goOn).Tells .goOn .signedOut ∧
      ((d.step .goOn).step .goOn).gateway.current = none := by
  intro start mid d
  have hloses : d.Loses .goOn ⟨"B1", some "S1", none⟩ := ⟨rfl, rfl⟩
  have hremoves : d.Removes ⟨.user, none, .signedOut⟩ ⟨"A1", some "R1", none⟩ := ⟨rfl, rfl⟩
  obtain ⟨-, -, -, -, -, hremoved, -⟩ := one_event_per_ended_session ⟨"http://[::1]"⟩
    (Cell.mk (some ⟨"A1", some "R1", none⟩)) (.act .signOut :: mid)
  obtain ⟨-, -, htells, -⟩ := hremoved _ _ hremoves
  refine ⟨hloses, ⟨[], _, [], rfl, rfl, .inl ⟨_, rfl, .inl rfl⟩⟩, ?_, rfl⟩
  exact tells_iff.mpr ⟨_, htells [] List.not_mem_nil, rfl⟩

/-- A logout finds no session, and a login comes before the logout clears the store all the same: the
new session is lost, the logout says that there was none to end, and nothing is told. -/
theorem login_lost_silently :
    let d := (new ⟨"http://[::1]"⟩ (Cell.mk none)).run
      [.act .signOut, .act (.signIn ⟨"B1", some "S1", none⟩)]
    d.Loses .goOn ⟨"B1", some "S1", none⟩ ∧
      d.Gives .goOn ⟨.user, none, .signedOut⟩ (.ok false) ∧
      (d.step .goOn).gateway.invalidator.feed.events = [] ∧ (d.step .goOn).hold.isNone = true := by
  intro d
  exact ⟨⟨rfl, rfl⟩, .clears rfl rfl, rfl, rfl⟩

end Interleaved

end BearerClient
