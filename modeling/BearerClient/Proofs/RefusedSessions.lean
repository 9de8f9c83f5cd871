import BearerClient.Proofs.Refusals
import BearerClient.Proofs.Removals

/-!
# Only sessions that were refused are given up

Apart from a logout, the order to end a session is given over a token that was refused earlier, and
it is given up at once if another session is seen (`only_refused_sessions_end`). That is about the
session that is seen: a session that is put in place after the look is lost to an order that was not
meant for it, as in `login_lost_to_refusal`.

Whatever is carried as refused was refused, also if others come between the steps of an ending
(`warranted_run`), since these steps change of the gateway only the lock and the store and whoever
goes on in the end carries nothing any more.
-/

namespace BearerClient

/-- The access token that an attempt was sent under. -/
def Notice.token? : Notice → Option String
  | .attempt _ token _ => some token
  | _ => none

namespace Gateway

variable {σ : Type}

/-- Someone who gives up a session because its token was refused: a cycle has failed that was
started over the token, or a request carries the token and is about to end as expired. -/
inductive GivesUp (g : Gateway σ) : Asker → String → Prop where
  /-- A cycle has failed. -/
  | cycle {cycle : Cycle} {e : RefreshError}
      (hcycle : g.coordinator.cycle? cycle.number = some cycle) (hstage : cycle.stage = .failing e) :
      GivesUp g (.cycle cycle.number e) cycle.rejected
  /-- A request ends as expired. -/
  | request {id : CallId} {d : Descriptor} {shape : Shape} {token reason : String}
      (hcall : g.calls[id]? = some ⟨.request d shape, .expiring token reason⟩) :
      GivesUp g (.caller id) token

theorem Orders.phase?_of_caller {g : Gateway σ} {a : Action σ} {order : EndOrder}
    (h : g.Orders a order) {id : CallId} (hasker : order.asker = .caller id) :
    ∃ token reason, g.phase? id = some (.expiring token reason) := by
  cases h with
  | caller hphase =>
    obtain rfl := Asker.caller.inj hasker
    exact ⟨_, _, hphase⟩
  | _ => cases hasker

/-- An order of those who use the gateway as it is meant is that of a logout, or it is given because
its token was refused. -/
theorem Orders.givesUp {g : Gateway σ} {a : Action σ} {order : EndOrder} (h : g.Orders a order)
    {refused : String → Prop} (hg : Justified g refused) (hasker : order.asker ≠ .outsider) :
    order = ⟨.user, none, .signedOut⟩ ∨
      ∃ token, order.rejected = some token ∧ refused token ∧ g.GivesUp order.asker token := by
  cases h with
  | user => exact .inl rfl
  | outsider => exact absurd rfl hasker
  | @caller id token reason hphase =>
    obtain ⟨⟨purpose, phase⟩, hcall, rfl⟩ := Option.map_eq_some_iff.mp hphase
    refine .inr ⟨token, rfl, hg.callers id _ token hphase rfl, ?_⟩
    have hmeant := hg.meant id purpose (purpose?_of_calls hcall)
    cases purpose with
    | request d shape => exact .request hcall
    | token => exact hmeant.elim
  | @cycle cycle e hcycle hstage =>
    exact .inr ⟨cycle.rejected, rfl, hg.cycles cycle (List.mem_of_find?_eq_some hcycle),
      .cycle hcycle hstage⟩

theorem Justified.leftBy {g : Gateway σ} {refused : String → Prop} (h : Justified g refused)
    (i : Invalidator) (store : σ) : Justified (g.leftBy i store) refused :=
  ⟨h.callers, h.cycles, h.sent, h.bears, h.meant⟩

theorem Justified.conclude {g : Gateway σ} {refused : String → Prop} (h : Justified g refused)
    (outcome : Outcome Bool) (asker : Asker) : Justified (g.conclude outcome asker) refused where
  callers id phase token hphase hrefused := by
    rcases phase?_conclude g outcome asker id with hsame | ⟨-, hended⟩
    · exact h.callers id phase token (hsame.symm.trans hphase) hrefused
    · obtain rfl := Option.some.inj (hended.symm.trans hphase)
      cases hrefused
  cycles cycle hmem := by
    obtain ⟨old, hold, -, hrejected⟩ := mem_cycles_conclude hmem
    rw [← hrejected]
    exact h.cycles old hold
  sent id phase token request hphase hattempt := by
    rcases phase?_conclude g outcome asker id with hsame | ⟨-, hended⟩
    · exact mem_log_conclude (h.sent id phase token request (hsame.symm.trans hphase) hattempt)
    · obtain rfl := Option.some.inj (hended.symm.trans hphase)
      cases hattempt
  bears id token request hmem := h.bears id token request (attempt_mem_conclude hmem)
  meant id purpose hpurpose := h.meant id purpose ((purpose?_conclude id).symm.trans hpurpose)

end Gateway

namespace Interleaved

open Gateway

variable {σ : Type}

/-! ## The tokens that are carried -/

/-- A turn in which the backend refuses the token of an attempt that was sent under it. -/
def Refuses (d : Interleaved σ) (t : Turn σ) (token : String) : Prop :=
  ∃ a, t = .act a ∧ d.gateway.Refuses a token

variable [Store σ]

/-- Whatever is carried as refused was refused, and nobody past the gateway has the lock. -/
structure Warranted (d : Interleaved σ) (refused : String → Prop) : Prop where
  /-- Whoever has the lock stands by its order. -/
  stands : Stands d
  /-- Whatever is carried as refused was refused. -/
  justified : Justified d.gateway refused
  /-- Nobody past the gateway has the lock. -/
  asked : ∀ hold, d.hold = some hold → hold.order.asker ≠ .outsider

theorem Warranted.step [LawfulStore σ] {d : Interleaved σ} {refused : String → Prop}
    (h : d.Warranted refused) {t : Turn σ} (ht : ∀ a, t = .act a → a.IsOfGateway) :
    (d.step t).Warranted fun token => refused token ∨ d.Refuses t token := by
  refine ⟨h.stands.step t, ?_, ?_⟩
  · have hhappens := happens_step d t
    have hkept : Justified d.gateway fun token => refused token ∨ d.Refuses t token :=
      h.justified.mono fun _ => Or.inl
    generalize d.step t = d' at hhappens
    cases hhappens with
    | acts =>
      refine (h.justified.move h.stands.order (ht _ rfl) (move_step _ _)).mono ?_
      exact fun token => Or.imp_right fun hrefuses => ⟨_, rfl, hrefuses⟩
    | waits => exact hkept
    | rests => exact hkept
    | looks => exact hkept.leftBy _ _
    | removes => exact hkept.leftBy _ _
    | concludes i store => exact (hkept.leftBy i store).conclude _ _
  · have hhappens := happens_step d t
    generalize d.step t = d' at hhappens
    cases hhappens with
    | acts => exact h.asked
    | waits => exact h.asked
    | rests => exact h.asked
    | looks _ horder =>
      rintro _ ⟨rfl⟩
      have hmeant := ht _ rfl
      cases endOrder?_eq_some.mp horder with
      | outsider => exact hmeant.elim
      | _ => exact fun hasker => by cases hasker
    | removes hhold =>
      rintro _ ⟨rfl⟩ hasker
      exact h.asked _ hhold hasker
    | concludes => exact fun _ hhold => by cases hhold

/-- In a run of those who use the gateway as it is meant, whatever is carried as refused was refused
in the run. -/
theorem warranted_run [LawfulStore σ] (root : ApiRoot) (store : σ) {turns : List (Turn σ)}
    (hturns : ∀ a, .act a ∈ turns → a.IsOfGateway) :
    ((new root store).run turns).Warranted fun token =>
      (new root store).Happened turns fun e t => e.Refuses t token := by
  induction turns using List.reverseRecOn with
  | nil => exact ⟨stands_new root store, justified_new root store _, fun _ hhold => by cases hhold⟩
  | append_singleton before t ih =>
    have hbefore := ih fun a ha => hturns a (List.mem_append_left _ ha)
    have ht : ∀ a, t = .act a → a.IsOfGateway := by
      rintro a rfl
      exact hturns a (List.mem_append_right _ (List.mem_singleton_self _))
    obtain ⟨hstands, hjustified, hasked⟩ := hbefore.step ht
    rw [run_concat]
    exact ⟨hstands, hjustified.mono fun token => happened_concat.mpr, hasked⟩

/-! ## Requests that end the session -/

/-- A request keeps its answer. -/
theorem ended_step {d : Interleaved σ} (hstands : Stands d) {id : CallId} {answer : Answer}
    (hended : d.gateway.phase? id = some (.ended answer)) (t : Turn σ) :
    (d.step t).gateway.phase? id = some (.ended answer) := by
  have hhappens := happens_step d t
  generalize d.step t = d' at hhappens
  cases hhappens with
  | @acts a => exact ended_run hstands.order hended [a]
  | waits => exact hended
  | rests => exact hended
  | looks => exact hended
  | removes => exact hended
  | @concludes _ order outcome i store hgives =>
    rcases phase?_conclude (d.gateway.leftBy i store) outcome order.asker id with
      hsame | ⟨hasker, -⟩
    · exact hsame.trans hended
    · -- Whoever has given an order has no answer yet.
      obtain ⟨a, horder⟩ := hgives.orders hstands
      obtain ⟨token, reason, hphase⟩ := horder.phase?_of_caller hasker
      cases hended.symm.trans hphase

/-- A request has its answer when the order that it has given is done with. -/
theorem Gives.phase?_of_caller {d : Interleaved σ} (hstands : Stands d) {t : Turn σ}
    {order : EndOrder} {outcome : Outcome Bool} (h : d.Gives t order outcome) {id : CallId}
    (hasker : order.asker = .caller id) :
    (d.step t).gateway.phase? id = some (.ended (expiryAnswer outcome)) := by
  obtain ⟨a, horder⟩ := h.orders hstands
  obtain ⟨token, reason, hphase⟩ := horder.phase?_of_caller hasker
  obtain ⟨i, store, hstep⟩ := h.step
  rw [hstep, hasker]
  exact phase?_conclude_self ((phase?_leftBy d.gateway i store id).trans hphase)

/-- The session of a request is gone, and the request ends as expired, or has done so. -/
def Expires (d : Interleaved σ) (id : CallId) : Prop :=
  (∃ order, d.hold = some ⟨order, .telling⟩ ∧ order.asker = .caller id) ∨
    d.gateway.phase? id = some (.ended (.payload (.error .sessionExpired)))

/-- A request that ends as expired has done so after the next turn of whoever has the lock. -/
theorem Expires.ended {d : Interleaved σ} (hstands : Stands d) {id : CallId} (h : d.Expires id) :
    (d.step .goOn).gateway.phase? id = some (.ended (.payload (.error .sessionExpired))) := by
  rcases h with ⟨order, hhold, hasker⟩ | hended
  · exact (Gives.tells hhold).phase?_of_caller hstands hasker
  · exact ended_step hstands hended .goOn

theorem Expires.run {d : Interleaved σ} (hstands : Stands d) {id : CallId} (h : d.Expires id)
    (turns : List (Turn σ)) : Stands (d.run turns) ∧ (d.run turns).Expires id := by
  induction turns using List.reverseRecOn with
  | nil => exact ⟨hstands, h⟩
  | append_singleton before t ih =>
    obtain ⟨hstands', hexpires⟩ := ih
    rw [run_concat]
    refine ⟨hstands'.step t, ?_⟩
    cases t with
    | goOn => exact .inr (hexpires.ended hstands')
    | act a =>
      rcases hexpires with ⟨order, hhold, hasker⟩ | hended
      · have hrests : .goOn ∉ [(.act a : Turn σ)] := by simp
        exact .inl ⟨order, hold_run hhold hrests, hasker⟩
      · exact .inr (ended_step hstands' hended _)

omit [Store σ] in
/-- A request that ends as expired gets no other answer. -/
theorem Expires.answer_eq {d : Interleaved σ} (hstands : Stands d) {id : CallId}
    (h : d.Expires id) {answer : Answer} (hended : d.gateway.phase? id = some (.ended answer)) :
    answer = .payload (.error .sessionExpired) := by
  rcases h with ⟨order, hhold, hasker⟩ | hexpired
  · obtain ⟨a, horder⟩ := hstands.given _ hhold
    obtain ⟨token, reason, hphase⟩ := horder.phase?_of_caller hasker
    cases hended.symm.trans hphase
  · exact Phase.ended.inj (Option.some.inj (hended.symm.trans hexpired))

/-- A request has ended as expired after the next turn of whoever has the lock, at the latest. -/
def EndsExpired (d : Interleaved σ) (id : CallId) : Prop :=
  ∀ rest, ((d.run rest).step .goOn).gateway.phase? id =
    some (.ended (.payload (.error .sessionExpired)))

theorem Expires.endsExpired {d : Interleaved σ} (hstands : Stands d) {id : CallId}
    (h : d.Expires id) : d.EndsExpired id := by
  intro rest
  obtain ⟨hstands', hexpires⟩ := h.run hstands rest
  exact hexpires.ended hstands'

/-- A turn of a request's own, or one in which its order is carried out. -/
def IsBy (d : Interleaved σ) (t : Turn σ) (id : CallId) : Prop :=
  (∃ a, t = .act a ∧ a.IsBy id) ∨
    t = .goOn ∧ ∃ hold, d.hold = some hold ∧ hold.order.asker = .caller id

/-- What is known of an order to end a session that is not that of a logout: it is over a token that
was refused earlier in the run, and it is given by a cycle that has failed over the token or by a
request that carries it. -/
structure IsOverRefusal (start : Interleaved σ) (before : List (Turn σ)) (order : EndOrder)
    (token : String) : Prop where
  /-- The order is over the token. -/
  rejects : order.rejected = some token
  /-- The token was refused. -/
  refused : start.Happened before fun e t => e.Refuses t token
  /-- The order is given because of that. -/
  givesUp : (start.run before).gateway.GivesUp order.asker token

theorem Warranted.isOverRefusal {start : Interleaved σ} {before : List (Turn σ)}
    (h : (start.run before).Warranted fun token => start.Happened before fun e t => e.Refuses t token)
    {order : EndOrder} {progress : Holding}
    (hhold : (start.run before).hold = some ⟨order, progress⟩) :
    order = ⟨.user, none, .signedOut⟩ ∨ ∃ token, start.IsOverRefusal before order token := by
  obtain ⟨a, horder⟩ := h.stands.given _ hhold
  rcases horder.givesUp h.justified (h.asked _ hhold) with
    hlogout | ⟨token, hover, hrefused, hgivesUp⟩
  · exact .inl hlogout
  · exact .inr ⟨token, hover, hrefused, hgivesUp⟩

variable [LawfulStore σ]

/-- An action that puts no session in place and is not from outside is quiet. -/
theorem quiet_of_act {d : Interleaved σ} {a : Action σ} (hputs : ∀ s, ¬ d.gateway.Puts a s)
    (hinside : ∀ change, a ≠ .disturb change) : d.Quiet (.act a) := by
  cases does_step d (.act a) with
  | nothing hquiet => exact hquiet
  | installs hinstalls =>
    rcases hinstalls.2 with ⟨b, hb, hputs'⟩ | ⟨change, hchange⟩
    · obtain rfl := Turn.act.inj hb
      exact absurd hputs' (hputs _)
    · exact absurd (Turn.act.inj hchange) (hinside change)
  | disturbs hdisturbed =>
    obtain ⟨change, hchange⟩ := hdisturbed
    exact absurd (Turn.act.inj hchange) (hinside change)

/-- A refusal by itself leaves the session and tells nothing. -/
theorem Refuses.quiet {d : Interleaved σ} {t : Turn σ} {token : String} (h : d.Refuses t token) :
    d.Quiet t := by
  obtain ⟨-, rfl, id, delivery, -, -, -, rfl, -⟩ := h
  refine quiet_of_act ?_ (by simp)
  rintro s (hlogin | ⟨cycle, hcycle, -⟩)
  · cases hlogin
  · cases hcycle

/-- A request that loses a session ends as expired. -/
theorem Loses.expires {d : Interleaved σ} (hstands : Stands d) {s : Session}
    (h : d.Loses .goOn s) {order : EndOrder} {progress : Holding}
    (hhold : d.hold = some ⟨order, progress⟩) {id : CallId} (hasker : order.asker = .caller id) :
    (d.step .goOn).Expires id := by
  rcases h.cases with ⟨change, hchange⟩ | ⟨-, order', seen, hhold', hways⟩
  · cases hchange
  · obtain ⟨rfl, -⟩ := Hold.mk.inj (Option.some.inj (hhold.symm.trans hhold'))
    rcases hways with ⟨s', -, hremoves⟩ | ⟨-, hgives⟩
    · exact .inl ⟨order, hremoves.step.1, hasker⟩
    · exact .inr (hgives.phase?_of_caller hstands hasker)

/-- A request's own turn leaves the session and tells nothing, unless the request ends as expired. -/
theorem IsBy.quiet_or {d : Interleaved σ} (hstands : Stands d) {t : Turn σ} {id : CallId}
    (h : d.IsBy t id) : d.Quiet t ∨ (d.step t).Expires id := by
  rcases h with ⟨a, rfl, hby⟩ | ⟨rfl, hold, hhold, hasker⟩
  · left
    refine quiet_of_act ?_ ?_
    · rintro s (rfl | ⟨cycle, rfl, -⟩)
      · exact hby.elim
      · exact hby.elim
    · rintro change rfl
      exact hby.elim
  · cases does_step d .goOn with
    | nothing hquiet => exact .inl hquiet
    | installs hinstalls =>
      rcases hinstalls.2 with ⟨a, ha, -⟩ | ⟨change, hchange⟩
      · cases ha
      · cases hchange
    | disturbs hdisturbed =>
      obtain ⟨change, hchange⟩ := hdisturbed
      cases hchange
    | @removes order s hremoves =>
      obtain rfl := Option.some.inj (hhold.symm.trans hremoves.1)
      exact .inr (.inl ⟨order, hremoves.step.1, hasker⟩)
    | discards hhold' hgives =>
      obtain rfl := Option.some.inj (hhold.symm.trans hhold')
      exact .inr (.inr (hgives.phase?_of_caller hstands hasker))
    | tells hhold' =>
      obtain rfl := Option.some.inj (hhold.symm.trans hhold')
      exact .inr (.inr ((Gives.tells hhold').phase?_of_caller hstands hasker))

/-- An order over a token that the session does not hold is over at once. -/
theorem over_of_other_token {d : Interleaved σ} (hfree : d.hold = none) {a : Action σ}
    {order : EndOrder} (horder : d.gateway.endOrder? a = some order) {token : String}
    (hover : order.rejected = some token) {s : Session} (hs : d.gateway.current = some s)
    (hother : s.accessToken ≠ token) : (d.step (.act a)).hold = none := by
  rw [step_of_order hfree horder]
  unfold look
  have hlook := d.gateway.invalidator.look_cases order.rejected d.gateway.store
  generalize d.gateway.invalidator.look order.rejected d.gateway.store = result at hlook ⊢
  obtain ⟨look, i, store⟩ := result
  cases look with
  | stops outcome => rfl
  | found seen =>
    rcases hlook with ⟨outcome, hlook, -⟩ | ⟨hlook, -⟩ | ⟨-, hmay⟩
    · cases hlook
    · cases hlook
    · have hsame := hmay s hs
      rw [hover] at hsame
      exact absurd (by simpa using hsame : token = s.accessToken).symm hother

/-- In every run of those who use a gateway as it is meant, whatever the store does: a session that
is lost, other than from outside, is lost to a logout or to an order over a token that was refused
earlier in the run to an attempt sent under it, by a cycle that has failed over that token or by a
request that carries it and ends as expired. The session has that token, or it has been put in place
after the look of whoever had the lock then. An event other than that of a logout is told only after
the removal of a session that was seen with such a token.

The refusal itself changes nothing, and an order over a token that the session in the store does not
hold is over at once and changes nothing. A request that gets any other answer than that the session
has expired removes no session and tells no event by its own turns. -/
theorem only_refused_sessions_end (root : ApiRoot) (store : σ) (turns : List (Turn σ))
    (hturns : ∀ a, .act a ∈ turns → a.IsOfGateway) :
    let start := new root store
    (∀ before t later s, turns = before ++ t :: later → (start.run before).Loses t s →
      ¬ IsDisturbed t → ∃ order seen first a mid, before = first ++ .act a :: mid ∧
        start.Looked first a mid order seen ∧ (start.run before).hold = some ⟨order, .clearing seen⟩ ∧
        (order = ⟨.user, none, .signedOut⟩ ∨ ∃ token, start.IsOverRefusal before order token ∧
          (∀ id, order.asker = .caller id → ((start.run before).step t).EndsExpired id) ∧
          (s.accessToken = token ∨
            (start.run (first ++ [.act a])).Happened mid fun e u => e.Installs u s))) ∧
    (∀ before t later event, turns = before ++ t :: later → (start.run before).Tells t event →
      event = .signedOut ∨ ∃ first mid order s token, before = first ++ .goOn :: mid ∧
        .goOn ∉ mid ∧ (start.run first).Removes order s ∧ order.event = event ∧
        start.IsOverRefusal first order token ∧ s.accessToken = token) ∧
    (∀ before t later token, turns = before ++ t :: later → (start.run before).Refuses t token →
      (start.run before).Quiet t) ∧
    (∀ before a later order token s, turns = before ++ .act a :: later →
      (start.run before).hold = none → (start.run before).gateway.endOrder? a = some order →
      order.rejected = some token → (start.run before).gateway.current = some s →
      s.accessToken ≠ token →
      (start.run before).Quiet (.act a) ∧ ((start.run before).step (.act a)).hold = none) ∧
    ∀ before t later id answer, turns = before ++ t :: later → (start.run before).IsBy t id →
      (start.run turns).gateway.phase? id = some (.ended answer) →
      answer ≠ .payload (.error .sessionExpired) → (start.run before).Quiet t := by
  intro start
  have hwarranted : ∀ before later, turns = before ++ later →
      (start.run before).Warranted fun token =>
        start.Happened before fun e t => e.Refuses t token := by
    rintro before later rfl
    exact warranted_run root store fun a ha => hturns a (List.mem_append_left _ ha)
  refine ⟨?_, ?_, ?_, ?_, ?_⟩
  · intro before t later s hrun hloses hinside
    have hbefore := hwarranted before (t :: later) hrun
    rcases hloses.cases with hdisturbed | ⟨rfl, order, seen, hhold, -⟩
    · exact absurd hdisturbed hinside
    rcases looked_run hhold with ⟨hstart, -⟩ | ⟨first, a, mid, hsplit, hlooked⟩
    · cases hstart
    refine ⟨order, seen, first, a, mid, hsplit, hlooked, hhold, ?_⟩
    refine (hbefore.isOverRefusal hhold).imp_right ?_
    rintro ⟨token, hover⟩
    refine ⟨token, hover, ?_, ?_⟩
    · intro id hasker
      exact (hloses.expires hbefore.stands hhold hasker).endsExpired (hbefore.stands.step .goOn)
    · rcases hlooked.current_cases (hsplit ▸ hloses.1) with hseen | hinstalled
      · -- The order may end only a session that holds its token.
        have hsame := hlooked.may s hseen
        rw [hover.rejects] at hsame
        exact .inl (by simpa using hsame : token = s.accessToken).symm
      · exact .inr hinstalled
  · intro before t later event hrun htells
    obtain ⟨order, hgives, hevent⟩ := tells_iff.mp htells
    rcases hgives.effect with ⟨-, rfl, hhold, -⟩ | ⟨hne, -⟩ | ⟨hfalse, -⟩
    · rcases removed_run hhold with ⟨hstart, -⟩ | ⟨first, mid, s, rfl, hrests, hremoves⟩
      · cases hstart
      have hfirst := hwarranted first (.goOn :: mid ++ .goOn :: later) (by simpa using hrun)
      rcases hfirst.isOverRefusal hremoves.1 with rfl | ⟨token, hover⟩
      · exact .inl hevent.symm
      rcases looked_run hremoves.1 with ⟨hstart, -⟩ | ⟨before, a, rest, -, hlooked⟩
      · cases hstart
      have hsame := hlooked.may s rfl
      rw [hover.rejects] at hsame
      exact .inr ⟨first, mid, order, s, token, rfl, hrests, hremoves, hevent, hover,
        (by simpa using hsame : token = s.accessToken).symm⟩
    · exact absurd rfl hne
    · cases hfalse
  · intro before t later token hrun hrefuses
    exact hrefuses.quiet
  · intro before a later order token s hrun hfree horder hover hs hother
    exact ⟨quiet_of_order horder, over_of_other_token hfree horder hover hs hother⟩
  · intro before t later id answer hrun hby hended hanswer
    have hstands := (hwarranted before (t :: later) hrun).stands
    refine (hby.quiet_or hstands).resolve_right ?_
    intro hexpires
    obtain ⟨hstands', hexpires'⟩ := hexpires.run (hstands.step t) later
    rw [hrun, run_append, run_cons] at hended
    exact hanswer (hexpires'.answer_eq hstands' hended)

/-- A request is refused under a session that cannot be refreshed, and the cycle that it starts
removes the session. Then somebody logs in, and the request, which ends as expired, leaves the new
session alone. -/
theorem only_refused_sessions_end_before_login :
    let start := new ⟨"http://[::1]"⟩ (Cell.mk (some ⟨"A1", none, none⟩))
    let before : List (Turn Cell) :=
      [.act (.start (.request ⟨.get, "/orders", [], none, defaultTimeoutMs⟩ .value)),
        .act (.advance 0), .act (.deliver 0 (.response ⟨401, .empty⟩)), .act (.advance 0),
        .act (.advance 0), .act (.advance 0), .act (.advanceCycle 0), .act (.advanceCycle 0)]
    let later : List (Turn Cell) :=
      [.goOn, .act (.signIn ⟨"B1", none, none⟩), .act (.advanceCycle 0), .act (.advance 0),
        .act (.advance 0)]
    (∀ a, .act a ∈ before ++ .goOn :: later → a.IsOfGateway) ∧
      (start.run before).Loses .goOn ⟨"A1", none, none⟩ ∧
      start.Happened before (fun e t => e.Refuses t "A1") ∧
      (start.run (before ++ .goOn :: later)).hold.isNone = true ∧
      (start.run (before ++ .goOn :: later)).gateway.current = some ⟨"B1", none, none⟩ := by
  intro start before later
  have hturns : ∀ a, .act a ∈ before ++ .goOn :: later → a.IsOfGateway := by
    simp [before, later, Action.IsOfGateway, Purpose.IsOfGateway, Descriptor.LeavesAuthorization]
  have hloses : (start.run before).Loses .goOn ⟨"A1", none, none⟩ := by
    constructor
    · decide +kernel
    · decide +kernel
  have hrejected : (start.run before).hold.map (·.order.rejected) = some (some "A1") := by
    decide +kernel
  obtain ⟨hlost, -⟩ := only_refused_sessions_end ⟨"http://[::1]"⟩
    (Cell.mk (some ⟨"A1", none, none⟩)) (before ++ .goOn :: later) hturns
  obtain ⟨order, seen, first, a, mid, -, -, hhold, hways⟩ := hlost before .goOn later _ rfl hloses
    (by simp [IsDisturbed])
  have hover : order.rejected = some "A1" := by
    rw [hhold] at hrejected
    exact Option.some.inj hrejected
  refine ⟨hturns, hloses, ?_, ?_, ?_⟩
  · rcases hways with rfl | ⟨token, hrefusal, -⟩
    · cases hover
    · obtain rfl := Option.some.inj (hrefusal.rejects.symm.trans hover)
      exact hrefusal.refused
  · decide +kernel
  · decide +kernel

/-- A login comes between the look and the removal of a cycle that has failed over `A1`: the session
of the login is lost, and said to have expired, although no attempt was ever sent under its token. -/
theorem login_lost_to_refusal :
    let start := new ⟨"http://[::1]"⟩ (Cell.mk (some ⟨"A1", none, none⟩))
    let turns : List (Turn Cell) :=
      [.act (.start (.request ⟨.get, "/orders", [], none, defaultTimeoutMs⟩ .value)),
        .act (.advance 0), .act (.deliver 0 (.response ⟨401, .empty⟩)), .act (.advance 0),
        .act (.advance 0), .act (.advance 0), .act (.advanceCycle 0), .act (.advanceCycle 0),
        .act (.signIn ⟨"B1", some "S1", none⟩)]
    let d := start.run turns
    (∀ a, .act a ∈ turns → a.IsOfGateway) ∧
      d.hold.map (·.order.rejected) = some (some "A1") ∧
      d.Loses .goOn ⟨"B1", some "S1", none⟩ ∧
      d.gateway.log.filterMap Notice.token? = ["A1"] ∧
      ((d.step .goOn).step .goOn).gateway.invalidator.feed.events =
        [.expired "session has no refresh token"] ∧
      ((d.step .goOn).step .goOn).gateway.current = none := by
  intro start turns d
  have hturns : ∀ a, .act a ∈ turns → a.IsOfGateway := by
    simp [turns, Action.IsOfGateway, Purpose.IsOfGateway, Descriptor.LeavesAuthorization]
  refine ⟨hturns, ?_, ⟨?_, ?_⟩, ?_, ?_, ?_⟩
  · decide +kernel
  · decide +kernel
  · decide +kernel
  · decide +kernel
  · decide +kernel
  · decide +kernel

end Interleaved

end BearerClient
