import BearerClient.Proofs.Passages
import BearerClient.Proofs.Past
import Mathlib.Logic.Relation

/-!
# Requests and logins

A request is sent first under the session that it reads, and after a refusal under the token that it
is told. Nothing in a gateway says which login a token belongs to: whoever asks for a fresh token
gets the one in the store, if that is another one, or the result of the cycle that runs. So a login
that comes while a request is at work may cross it (`retried_under_new_login`,
`retried_under_old_login`).

The main statement, `one_login_per_request`, says when no login does: if none has overtaken a cycle
that runs when the request starts, and none comes while the request could still pick up what the
login brings. Until a login comes, everything in the gateway descends from the session of the
request (`Within`); from then on the request is bound to a result that does (`Determined`).
-/

namespace BearerClient

/-- Whether a notice says that a caller has sent an attempt under a token. -/
def Notice.isAttemptUnder (id : CallId) (token : String) : Notice → Bool
  | .attempt sender sent _ => sender = id && sent = token
  | _ => false

/-- Whether the task of a cycle holds a session or a token in the stage. -/
def Stage.carries : Stage → Bool
  | .exchanging _ _ | .storing _ | .settling (.ok _) => true
  | _ => false

/-- The session that the task of a cycle has read and exchanges the refresh token of. -/
def Stage.exchanged? : Stage → Option Session
  | .exchanging s _ => some s
  | _ => none

/-- What the task of a cycle holds in the stage is good. -/
def Stage.Gives (Good : Session → Prop) : Stage → Prop
  | .exchanging s _ | .storing s => Good s
  | .settling (.ok token) => ∃ s, Good s ∧ s.accessToken = token
  | _ => True

/-- What a caller in the phase has read or been told is good. -/
def Phase.Gives (Good : Session → Prop) : Phase → Prop
  | .asking _ (.seen _ (some s)) => Good s
  | .asking _ (.told (.ok token)) => ∃ s, Good s ∧ s.accessToken = token
  | _ => True

/-- Whether a caller in the phase goes on with a result that no login changes any more: it has been
told one, or it queues on a cycle that has read its session. -/
def Phase.isBound (c : Coordinator) : Phase → Bool
  | .asking _ (.queued number) =>
    c.cycles.any fun cycle => cycle.number = number && !(cycle.stage matches .reading)
  | .asking _ (.told _) | .second _ _ | .expiring _ _ | .ended _ | .abandoned => true
  | _ => false

theorem Stage.Gives.mono {Good Good' : Session → Prop} (himp : ∀ s, Good s → Good' s)
    {stage : Stage} (h : stage.Gives Good) : stage.Gives Good' := by
  match stage with
  | .exchanging s _ => exact himp s h
  | .storing s => exact himp s h
  | .settling (.ok token) =>
    obtain ⟨s, hs, htoken⟩ := h
    exact ⟨s, himp s hs, htoken⟩
  | .settling (.error _) => trivial
  | .reading => trivial
  | .failing _ => trivial

theorem Stage.gives_of_not_carries {Good : Session → Prop} {stage : Stage}
    (h : ¬ stage.carries = true) : stage.Gives Good := by
  match stage with
  | .exchanging s _ => exact absurd rfl h
  | .storing s => exact absurd rfl h
  | .settling (.ok token) => exact absurd rfl h
  | .settling (.error _) => trivial
  | .reading => trivial
  | .failing _ => trivial

namespace Gateway

variable {σ : Type} [Store σ]

/-! ## Lineage -/

/-- A step in which a cycle gets tokens for the session that it has read, which make it another
one. -/
def Renews (g : Gateway σ) (a : Action σ) (s s' : Session) : Prop :=
  ∃ cycle delivery request tokens, Answers cycle.number a delivery ∧
    g.coordinator.cycle? cycle.number = some cycle ∧ cycle.stage = .exchanging s request ∧
    delivery.tokens request.url = .ok tokens ∧ s' = tokens.renew s

/-- A session was renewed in a run, and became another one. -/
def RenewedIn (g : Gateway σ) (actions : List (Action σ)) (s s' : Session) : Prop :=
  g.Happened actions fun h a => h.Renews a s s'

/-- The second session comes from the first one through the refresh cycles of a run. -/
def DescendsIn (g : Gateway σ) (actions : List (Action σ)) : Session → Session → Prop :=
  Relation.ReflTransGen (g.RenewedIn actions)

theorem DescendsIn.append {g : Gateway σ} {before : List (Action σ)} {s s' : Session}
    (h : g.DescendsIn before s s') (later : List (Action σ)) :
    g.DescendsIn (before ++ later) s s' :=
  Relation.ReflTransGen.mono (fun _ _ hrenewed => Happened.append hrenewed later) _ _ h

/-- A session that is never renewed has no descendants but itself. -/
theorem DescendsIn.eq {g : Gateway σ} {actions : List (Action σ)} {s s' : Session}
    (h : g.DescendsIn actions s s') (hnever : ∀ after, ¬ g.RenewedIn actions s after) : s' = s := by
  rcases Relation.ReflTransGen.cases_head h with rfl | ⟨after, hrenewed, -⟩
  · rfl
  · exact absurd hrenewed (hnever after)

/-! ## What becomes of a stage -/

/-- The task of a cycle after a move is in the stage in which it was, has just begun or failed, or
has gone on. -/
theorem Move.stage_cases {g g' : Gateway σ} {a : Action σ} (h : Move g a g') (horder : Orderly g)
    {cycle' : Cycle} (hmem : cycle' ∈ g'.coordinator.cycles) :
    cycle' ∈ g.coordinator.cycles ∨ (g.coordinator.cycles = [] ∧ cycle'.stage = .reading) ∨
    (∃ e, cycle'.stage = .settling (.error e)) ∨
    ∃ cycle stage store notices, g.coordinator.cycle? cycle.number = some cycle ∧
      Work g cycle a stage store notices ∧ g' = g.worked cycle.number stage store notices ∧
      cycle' = { cycle with stage := stage } := by
  cases h with
  | begins _ hidle =>
    rw [coordinatedBy_coordinator, horder.coordinator.cycles_start hidle,
      List.mem_singleton] at hmem
    subst hmem
    exact .inr (.inl ⟨(horder.coordinator.idle hidle).1, rfl⟩)
  | @works _ cycle stage store notices hcycle hwork =>
    rw [worked_coordinator, horder.coordinator.cycles_setStage hcycle, List.mem_singleton] at hmem
    exact .inr (.inr (.inr ⟨cycle, stage, store, notices, hcycle, hwork, rfl, hmem⟩))
  | @fails cycle e result hcycle hstage hresult =>
    have hmem' : cycle' ∈ (g.coordinator.setStage cycle.number (.settling result)).cycles := hmem
    rw [horder.coordinator.cycles_setStage hcycle, List.mem_singleton] at hmem'
    subst hmem' hresult
    refine .inr (.inr (.inl ?_))
    split
    · exact ⟨.aborted, rfl⟩
    · exact ⟨e, rfl⟩
  | settles hcycle =>
    rw [settle_coordinator, horder.coordinator.cycles_settle hcycle] at hmem
    exact absurd hmem List.not_mem_nil
  | touches htouch =>
    obtain ⟨-, hcoordinator, -, -⟩ := htouch.frame
    rw [hcoordinator] at hmem
    exact .inl hmem
  | _ => exact .inl hmem

variable [LawfulStore σ]

/-- What the task of a cycle holds after it has gone on is good, if what it held before was, and
what it may have read, and if renewing keeps a session good. -/
theorem Work.stage_gives {Good : Session → Prop} {g : Gateway σ} {cycle : Cycle} {a : Action σ}
    {stage : Stage} {store : σ} {notices : List Notice} (h : Work g cycle a stage store notices)
    (hcycle : g.coordinator.cycle? cycle.number = some cycle)
    (hread : cycle.stage = .reading → ∀ s, g.current = some s → Good s)
    (hrenew : ∀ s s', Good s → g.Renews a s s' → Good s')
    (hbefore : cycle.stage.Gives Good) : stage.Gives Good := by
  cases h with
  | @sends session _ _ _ hstage hget =>
    exact hread hstage session (LawfulStore.get_ok g.store _ hget)
  | @receives _ delivery session request tokens hstage ha htokens =>
    rw [hstage] at hbefore
    exact hrenew session _ hbefore
      ⟨cycle, delivery, request, tokens, ha, hcycle, hstage, htokens, rfl⟩
  | @stores renewed hstage =>
    rw [hstage] at hbefore
    exact ⟨renewed, hbefore, rfl⟩
  | _ => trivial

/-! ## Cycles that no login has overtaken -/

/-- A session came from outside while the cycle held a session or a token of its own. -/
def Overtaken (g : Gateway σ) (actions : List (Action σ)) (number : Nat) : Prop :=
  g.Happened actions fun h a => ¬ a.IsSteady ∧
    ∃ cycle ∈ h.coordinator.cycles, cycle.number = number ∧ cycle.stage.carries = true

/-- What a cycle holds descends from the session that is held, unless a login has overtaken it. -/
theorem gives_of_not_overtaken {root : ApiRoot} {store : σ} {actions : List (Action σ)}
    {cycle : Cycle} {s : Session}
    (hmem : cycle ∈ ((Gateway.new root store).run actions).coordinator.cycles)
    (hnot : ¬ (Gateway.new root store).Overtaken actions cycle.number)
    (hs : ((Gateway.new root store).run actions).current = some s) :
    cycle.stage.Gives ((Gateway.new root store).DescendsIn actions s) := by
  induction actions using List.reverseRecOn generalizing cycle s with
  | nil => exact absurd hmem List.not_mem_nil
  | append_singleton before a ih =>
    rw [run_concat] at hmem hs
    have horder : Orderly ((Gateway.new root store).run before) :=
      (orderly_new root store).run before
    have hmove := move_step ((Gateway.new root store).run before) a
    have hnot' : ¬ (Gateway.new root store).Overtaken before cycle.number :=
      fun hovertaken => hnot (hovertaken.concat a)
    rcases hmove.stage_cases horder hmem with
      hold | ⟨-, hstage⟩ | ⟨e, hstage⟩ | ⟨old, stage, after, notices, hcycle, hwork, hworked, rfl⟩
    · -- A task that stands still is left behind only by a login, which then overtakes it.
      by_cases hsteady : a.IsSteady
      · rcases hmove.current_cases hsteady with
          hkept | hnone | ⟨old, renewed, hcycle, -, -, hstored, hcoordinator⟩
        · exact (ih hold hnot' (hkept.symm.trans hs)).mono fun s' h => h.append [a]
        · cases hnone.symm.trans hs
        · obtain rfl : renewed = s := Option.some.inj (hstored.symm.trans hs)
          rw [hcoordinator, horder.coordinator.cycles_setStage hcycle, List.mem_singleton] at hmem
          rw [hmem]
          exact ⟨renewed, .refl, rfl⟩
      · refine Stage.gives_of_not_carries ?_
        intro hcarries
        exact hnot (happened_concat.mpr (.inr ⟨hsteady, cycle, hold, rfl, hcarries⟩))
    · rw [hstage]
      trivial
    · rw [hstage]
      trivial
    · rw [hworked] at hs
      rcases hwork.held_cases with hkept | ⟨renewed, -, -, -, rfl, hstored⟩
      · have hs' : ((Gateway.new root store).run before).current = some s := hkept.symm.trans hs
        have hbefore := ih (List.mem_of_find?_eq_some hcycle) hnot' hs'
        refine hwork.stage_gives hcycle ?_ ?_ (hbefore.mono fun s' h => h.append [a])
        · intro _ s' hread
          obtain rfl : s = s' := Option.some.inj (hs'.symm.trans hread)
          exact .refl
        · intro s' s'' hdescends hrenews
          exact hdescends.tail (happened_concat.mpr (.inr hrenews))
      · obtain rfl : renewed = s := Option.some.inj (hstored.symm.trans hs)
        exact ⟨renewed, .refl, rfl⟩

/-! ## Until a login comes -/

/-- Everything that a request may come by is good. -/
structure Within (Good : Session → Prop) (g : Gateway σ) (id : CallId) : Prop where
  /-- The session that is held. -/
  held : ∀ s, g.current = some s → Good s
  /-- What the tasks of the cycles hold. -/
  cycles : ∀ cycle ∈ g.coordinator.cycles, cycle.stage.Gives Good
  /-- What the caller has read or been told. -/
  caller : ∀ phase, g.phase? id = some phase → phase.Gives Good
  /-- The tokens that the caller has used. -/
  attempts : ∀ token request, .attempt id token request ∈ g.log →
    ∃ s, Good s ∧ s.accessToken = token

omit [LawfulStore σ] in
theorem Attempted.phase_gives {Good : Session → Prop} {root : ApiRoot} {id : CallId} {d : Descriptor}
    {token : String} {next : Request → Phase} {phase : Phase} {notices : List Notice}
    (h : Attempted root id d token next phase notices)
    (hnext : ∀ request, (next request).Gives Good) : phase.Gives Good := by
  cases h with
  | sent => exact hnext _
  | unbuilt => trivial
  | unaddressed => trivial

/-- What a caller comes by when it goes on is good, if the session is. -/
theorem Walk.phase_gives {Good : Session → Prop} {g : Gateway σ} {id : CallId} {call : Call}
    {a : Action σ} {phase : Phase} {store : σ} {notices : List Notice}
    (h : Walk g id call a phase store notices) (hheld : ∀ s, g.current = some s → Good s)
    (hbefore : call.phase.Gives Good) : phase.Gives Good := by
  cases h with
  | opens _ hattempt => exact hattempt.phase_gives fun _ => trivial
  | retries hattempt => exact hattempt.phase_gives fun _ => trivial
  | @reads _ _ _ current hget =>
    cases current with
    | none => trivial
    | some s => exact hheld s (LawfulStore.get_ok g.store _ hget)
  | @reuses _ _ _ session => exact ⟨session, hbefore, rfl⟩
  | _ => trivial

/-- A move that brings no session from outside keeps everything good, if renewing does. -/
theorem Move.within {Good : Session → Prop} {g g' : Gateway σ} {a : Action σ} (h : Move g a g')
    (horder : Orderly g) (hsteady : a.IsSteady)
    (hrenew : ∀ s s', Good s → g.Renews a s s' → Good s') {id : CallId} (hg : Within Good g id) :
    Within Good g' id where
  held := by
    intro s hs
    rcases h.current_cases hsteady with
      hkept | hnone | ⟨cycle, renewed, hcycle, hstage, -, hstored, -⟩
    · exact hg.held s (hkept.symm.trans hs)
    · cases hnone.symm.trans hs
    · obtain rfl : renewed = s := Option.some.inj (hstored.symm.trans hs)
      have hgood := hg.cycles cycle (List.mem_of_find?_eq_some hcycle)
      rw [hstage] at hgood
      exact hgood
  cycles := by
    intro cycle' hmem
    rcases h.stage_cases horder hmem with
      hold | ⟨-, hstage⟩ | ⟨e, hstage⟩ | ⟨cycle, stage, _, _, hcycle, hwork, -, rfl⟩
    · exact hg.cycles cycle' hold
    · rw [hstage]
      trivial
    · rw [hstage]
      trivial
    · exact hwork.stage_gives hcycle (fun _ => hg.held) hrenew
        (hg.cycles cycle (List.mem_of_find?_eq_some hcycle))
  caller := by
    intro phase hphase
    rcases h.phase_cases horder hphase with ⟨purpose, -, rfl⟩ | ⟨before, hbefore, hpassage⟩
    · cases purpose with
      | request => trivial
      | token => trivial
    · have hgood := hg.caller before hbefore
      cases hpassage with
      | stays => exact hgood
      | walks hwalk => exact hwalk.phase_gives hg.held hgood
      | queues => trivial
      | ends => trivial
      | @hears cycle _ result hcycle hstage =>
        have hgives := hg.cycles cycle (List.mem_of_find?_eq_some hcycle)
        rw [hstage] at hgives
        cases result with
        | ok token => exact hgives
        | error e => trivial
  attempts := by
    intro token request hmem
    rcases h.attempt_cases hmem with
      hsent | ⟨d, shape, phase, hcall, -, ⟨-, s, hget, rfl⟩ | ⟨rejected, rfl⟩, -⟩
    · exact hg.attempts token request hsent
    · exact ⟨s, hg.held s (LawfulStore.get_ok g.store _ hget), rfl⟩
    · exact hg.caller _ (phase?_of_calls hcall)

/-! ## From then on -/

/-- Whether a caller goes on with a result that no login changes any more. -/
def isBound (g : Gateway σ) (id : CallId) : Bool :=
  (g.phase? id).any fun phase => phase.isBound g.coordinator

omit [Store σ] [LawfulStore σ] in
theorem isBound_eq_true {g : Gateway σ} {id : CallId} : g.isBound id = true ↔
    ∃ phase, g.phase? id = some phase ∧ phase.isBound g.coordinator = true := by
  unfold isBound
  cases g.phase? id with
  | none => simp
  | some phase => simp

omit [Store σ] [LawfulStore σ] in
/-- Whoever queues and is bound queues on a cycle that has read its session. -/
theorem Phase.isBound_queued {c : Coordinator} {rejected : String} {number : Nat} :
    (Phase.asking rejected (.queued number)).isBound c = true ↔
      ∃ cycle ∈ c.cycles, cycle.number = number ∧ cycle.stage ≠ .reading := by
  have hstage : ∀ stage : Stage, (!(stage matches .reading)) = true ↔ stage ≠ .reading := by
    intro stage
    cases stage with
    | reading => simp
    | _ => simp
  simp only [Phase.isBound, List.any_eq_true, Bool.and_eq_true, decide_eq_true_eq, hstage]

/-- The result that a request goes on with is good, and so are the tokens that it has used. -/
structure Determined (Good : Session → Prop) (g : Gateway σ) (id : CallId) : Prop where
  /-- The request goes on with a result that no login changes, and what it has been told is good. -/
  caller : ∃ phase, g.phase? id = some phase ∧ phase.isBound g.coordinator = true ∧
    phase.Gives Good
  /-- What the task holds of the cycle on which the request queues. -/
  cycle : ∀ cycle ∈ g.coordinator.cycles, g.waitsOn id = some cycle.number →
    cycle.stage.Gives Good
  /-- The tokens that the caller has used. -/
  attempts : ∀ token request, .attempt id token request ∈ g.log →
    ∃ s, Good s ∧ s.accessToken = token

theorem Within.determined {Good : Session → Prop} {g : Gateway σ} {id : CallId}
    (hg : Within Good g id) (hbound : g.isBound id = true) : Determined Good g id where
  caller := by
    obtain ⟨phase, hphase, hbound⟩ := isBound_eq_true.mp hbound
    exact ⟨phase, hphase, hbound, hg.caller phase hphase⟩
  cycle cycle hmem _ := hg.cycles cycle hmem
  attempts := hg.attempts

omit [Store σ] [LawfulStore σ] in
/-- Two tasks that are alive under one number are one task. -/
theorem Orderly.eq_of_number {g : Gateway σ} (horder : Orderly g) {cycle cycle' : Cycle}
    (hmem : cycle ∈ g.coordinator.cycles) (hmem' : cycle' ∈ g.coordinator.cycles)
    (hnumber : cycle.number = cycle'.number) : cycle = cycle' := by
  have hcycle := horder.coordinator.cycle?_of_mem hmem
  rw [hnumber, horder.coordinator.cycle?_of_mem hmem'] at hcycle
  exact (Option.some.inj hcycle).symm

omit [LawfulStore σ] in
/-- A caller that stays where it is stays bound. -/
theorem Move.isBound {g g' : Gateway σ} {a : Action σ} (h : Move g a g') (horder : Orderly g)
    {id : CallId} {phase : Phase} (hphase' : g'.phase? id = some phase)
    (hbound : phase.isBound g.coordinator = true) : phase.isBound g'.coordinator = true := by
  match phase with
  | .asking rejected (.queued number) =>
    have horder' := h.orderly horder
    obtain ⟨cycle, hmem, hnumber, hread⟩ := Phase.isBound_queued.mp hbound
    obtain ⟨flight, hflight, hflightNumber, -⟩ :=
      horder'.waits id number (waitsOn_eq_some.mpr ⟨rejected, hphase'⟩)
    obtain ⟨cycle', hcycle', -⟩ := horder'.coordinator.cycle?_of_flight hflight
    have hmem' := List.mem_of_find?_eq_some hcycle'
    have hnumber' : cycle'.number = number := (number_of_cycle? hcycle').trans hflightNumber
    refine Phase.isBound_queued.mpr ⟨cycle', hmem', hnumber', ?_⟩
    rcases h.stage_cases horder hmem' with
      hold | ⟨hnone, -⟩ | ⟨e, hstage⟩ | ⟨_, stage, _, _, -, hwork, -, rfl⟩
    · obtain rfl := horder.eq_of_number hmem hold (hnumber.trans hnumber'.symm)
      exact hread
    · rw [hnone] at hmem
      exact absurd hmem List.not_mem_nil
    · rw [hstage]
      simp
    · exact hwork.stage_ne_reading
  | .asking _ (.told _) => rfl
  | .second _ _ => rfl
  | .expiring _ _ => rfl
  | .ended _ => rfl
  | .abandoned => rfl

omit [LawfulStore σ] in
/-- A caller that is bound stays so when it goes on, and uses what it has been told. -/
theorem Walk.isBound {Good : Session → Prop} {g : Gateway σ} {id : CallId} {call : Call}
    {a : Action σ} {phase : Phase} {store : σ} {notices : List Notice}
    (h : Walk g id call a phase store notices) {c : Coordinator}
    (hbound : call.phase.isBound c = true) :
    (∀ c', phase.isBound c' = true) ∧ phase.Gives Good := by
  cases h with
  | passesOn => exact ⟨fun _ => rfl, trivial⟩
  | retries hattempt =>
    cases hattempt with
    | sent => exact ⟨fun _ => rfl, trivial⟩
    | unbuilt => exact ⟨fun _ => rfl, trivial⟩
    | unaddressed => exact ⟨fun _ => rfl, trivial⟩
  | gives => exact ⟨fun _ => rfl, trivial⟩
  | isCutOff => exact ⟨fun _ => rfl, trivial⟩
  | isRejectedAgain => exact ⟨fun _ => rfl, trivial⟩
  | isAnswered => exact ⟨fun _ => rfl, trivial⟩
  | timesOut => exact ⟨fun _ => rfl, trivial⟩
  | isGivenUp => exact ⟨fun _ => rfl, trivial⟩
  | _ => cases hbound

omit [LawfulStore σ] in
/-- Whoever is bound and waits after a move waited for the same cycle before. -/
theorem Passage.waitsOn {g g' : Gateway σ} {a : Action σ} {id : CallId} {before after : Phase}
    (h : Passage g a g' id before after) {c : Coordinator} (hbound : before.isBound c = true) :
    after.waitsOn = none ∨ after.waitsOn = before.waitsOn := by
  cases h with
  | stays => exact .inr rfl
  | walks hwalk => exact .inl hwalk.waitsOn_eq_none
  | queues => cases hbound
  | ends => exact .inl rfl
  | hears => exact .inl rfl

omit [LawfulStore σ] in
/-- A request that is bound goes on with the result that it is bound to. -/
theorem Determined.caller_step {Good : Session → Prop} {g g' : Gateway σ} {a : Action σ}
    {id : CallId} (hg : Determined Good g id) (h : Move g a g') (horder : Orderly g) :
    ∃ phase, g'.phase? id = some phase ∧ phase.isBound g'.coordinator = true ∧
      phase.Gives Good := by
  obtain ⟨phase, hphase, hbound, hgood⟩ := hg.caller
  obtain ⟨phase', hphase', hpassage⟩ := h.passage horder hphase
  cases hpassage with
  | stays => exact ⟨phase, hphase', h.isBound horder hphase' hbound, hgood⟩
  | walks hwalk =>
    obtain ⟨hbound', hgood'⟩ := hwalk.isBound hbound
    exact ⟨phase', hphase', hbound' _, hgood'⟩
  | queues => cases hbound
  | ends => exact ⟨_, hphase', rfl, trivial⟩
  | @hears cycle rejected result hcycle hstage =>
    have hgives := hg.cycle cycle (List.mem_of_find?_eq_some hcycle)
      (waitsOn_eq_some.mpr ⟨rejected, hphase⟩)
    rw [hstage] at hgives
    refine ⟨_, hphase', rfl, ?_⟩
    cases result with
    | ok token => exact hgives
    | error e => trivial

/-- The cycle on which a bound request queues has read its session, so no login gets into it. -/
theorem Determined.cycle_step {Good : Session → Prop} {g g' : Gateway σ} {a : Action σ}
    {id : CallId} (hg : Determined Good g id) (h : Move g a g') (horder : Orderly g)
    (hrenew : ∀ s s', Good s → g.Renews a s s' → Good s') {cycle' : Cycle}
    (hmem' : cycle' ∈ g'.coordinator.cycles) (hwaits' : g'.waitsOn id = some cycle'.number) :
    cycle'.stage.Gives Good := by
  obtain ⟨phase, hphase, hbound, -⟩ := hg.caller
  obtain ⟨phase', hphase', hpassage⟩ := h.passage horder hphase
  have hwaits : g.waitsOn id = some cycle'.number := by
    rw [waitsOn, hphase', Option.bind_some] at hwaits'
    rw [waitsOn, hphase, Option.bind_some]
    rcases hpassage.waitsOn hbound with hnone | hkept
    · cases hnone.symm.trans hwaits'
    · exact hkept.symm.trans hwaits'
  rcases h.stage_cases horder hmem' with
    hold | ⟨-, hstage⟩ | ⟨e, hstage⟩ | ⟨cycle, stage, _, _, hcycle, hwork, -, rfl⟩
  · exact hg.cycle cycle' hold hwaits
  · rw [hstage]
    trivial
  · rw [hstage]
    trivial
  · have hmem := List.mem_of_find?_eq_some hcycle
    refine hwork.stage_gives hcycle ?_ hrenew (hg.cycle cycle hmem hwaits)
    intro hreading
    obtain ⟨rejected, hqueued⟩ := waitsOn_eq_some.mp hwaits
    obtain rfl := Option.some.inj (hphase.symm.trans hqueued)
    obtain ⟨read, hread, hnumber, hne⟩ := Phase.isBound_queued.mp hbound
    obtain rfl := horder.eq_of_number hread hmem hnumber
    exact absurd hreading hne

omit [LawfulStore σ] in
/-- A request that is bound takes no other token than the one that it was told. -/
theorem Determined.attempts_step {Good : Session → Prop} {g g' : Gateway σ} {a : Action σ}
    {id : CallId} (hg : Determined Good g id) (h : Move g a g') {token : String}
    {request : Request} (hmem : .attempt id token request ∈ g'.log) :
    ∃ s, Good s ∧ s.accessToken = token := by
  obtain ⟨phase, hphase, hbound, hgood⟩ := hg.caller
  rcases h.attempt_cases hmem with
    hsent | ⟨d, shape, phase, hcall, -, ⟨rfl, -⟩ | ⟨rejected, rfl⟩, -⟩
  · exact hg.attempts token request hsent
  · obtain rfl := Option.some.inj (hphase.symm.trans (phase?_of_calls hcall))
    cases hbound
  · obtain rfl := Option.some.inj (hphase.symm.trans (phase?_of_calls hcall))
    exact hgood

/-- Every move, a login too, leaves a request with the result that it is bound to. -/
theorem Move.determined {Good : Session → Prop} {g g' : Gateway σ} {a : Action σ}
    (h : Move g a g') (horder : Orderly g) (hrenew : ∀ s s', Good s → g.Renews a s s' → Good s')
    {id : CallId} (hg : Determined Good g id) : Determined Good g' id where
  caller := hg.caller_step h horder
  cycle _ hmem hwaits := hg.cycle_step h horder hrenew hmem hwaits
  attempts _ _ hmem := hg.attempts_step h hmem

/-- A request to which only good things are given at first uses good tokens in the whole run, if
renewing keeps a session good and no login comes before the request is bound. -/
theorem good_run {Good : Session → Prop} {g : Gateway σ} (horder : Orderly g) {id : CallId}
    {actions : List (Action σ)}
    (hrenew : ∀ before a later, actions = before ++ a :: later →
      ∀ s s', Good s → (g.run before).Renews a s s' → Good s')
    (hlogins : ∀ before a later, actions = before ++ a :: later → ¬ a.IsSteady →
      (g.run before).isBound id = true)
    (hg : Within Good g id ∨ Determined Good g id) :
    Within Good (g.run actions) id ∨ Determined Good (g.run actions) id := by
  -- The first login finds the request bound, and from there no other one matters.
  induction actions generalizing g with
  | nil => exact hg
  | cons a later ih =>
    have hmove := move_step g a
    have hrenew' := hrenew [] a later rfl
    refine ih (hmove.orderly horder) ?_ ?_ ?_
    · intro before b rest hlater
      exact hrenew (a :: before) b rest (by rw [hlater]; rfl)
    · intro before b rest hlater
      exact hlogins (a :: before) b rest (by rw [hlater]; rfl)
    · rcases hg with hwithin | hdetermined
      · by_cases hsteady : a.IsSteady
        · exact .inl (hmove.within horder hsteady hrenew' hwithin)
        · have hbound := hlogins [] a later rfl hsteady
          exact .inr (hmove.determined horder hrenew' (hwithin.determined hbound))
      · exact .inr (hmove.determined horder hrenew' hdetermined)

/-- A request that is about to read the session sends its first attempt under the token that it
reads. All its attempts carry access tokens of the login of that session, the token itself or one of
a session that comes from it through refresh cycles, on two conditions: no cycle still runs then
that a login has overtaken, and every login after that comes when the request has been told its
result already or queues on a cycle that has read its session. -/
theorem one_login_per_request (root : ApiRoot) (store : σ) (first rest : List (Action σ))
    (id : CallId)
    (hopening : ((Gateway.new root store).run first).phase? id = some .opening) :
    let g := Gateway.new root store
    let actions := first ++ .advance id :: rest
    (∀ token request, .attempt id token request ∈ (g.run (first ++ [.advance id])).log →
      ∃ s, (g.run first).current = some s ∧ s.accessToken = token) ∧
    ∀ s, (g.run first).current = some s →
      (∀ cycle ∈ (g.run first).coordinator.cycles, ¬ g.Overtaken first cycle.number) →
      (∀ before a later, rest = before ++ a :: later → ¬ a.IsSteady →
        (g.run (first ++ .advance id :: before)).isBound id = true) →
      ∀ token request, .attempt id token request ∈ (g.run actions).log →
        ∃ s', g.DescendsIn actions s s' ∧ s'.accessToken = token := by
  intro g actions
  have horder : Orderly (g.run first) := (orderly_new root store).run first
  have hunsent : ∀ token request, .attempt id token request ∉ (g.run first).log := by
    intro token request hmem
    obtain ⟨phase, hphase, hrank⟩ := exists_phase_of_attempt hmem
    obtain rfl := Option.some.inj (hopening.symm.trans hphase)
    exact absurd hrank (Nat.lt_irrefl 0)
  refine ⟨?_, ?_⟩
  · intro token request hmem
    rw [run_concat] at hmem
    rcases (move_step (g.run first) (.advance id)).attempt_cases hmem with
      hsent | ⟨d, shape, phase, hcall, -, ⟨-, s, hget, rfl⟩ | ⟨rejected, rfl⟩, -⟩
    · exact absurd hsent (hunsent token request)
    · exact ⟨s, LawfulStore.get_ok _ _ hget, rfl⟩
    · cases hopening.symm.trans (phase?_of_calls hcall)
  · intro s hs hcycles hlogins token request hmem
    have hstart : Within (g.DescendsIn actions s) (g.run first) id := by
      refine ⟨?_, ?_, ?_, fun token request hmem => absurd hmem (hunsent token request)⟩
      · intro s' hs'
        obtain rfl : s = s' := Option.some.inj (hs.symm.trans hs')
        exact .refl
      · intro cycle hcycle
        have hgives := gives_of_not_overtaken hcycle (hcycles cycle hcycle) hs
        exact hgives.mono fun s' h => h.append _
      · intro phase hphase
        obtain rfl := Option.some.inj (hopening.symm.trans hphase)
        trivial
    have hrenew : ∀ before a later, .advance id :: rest = before ++ a :: later →
        ∀ s' s'', g.DescendsIn actions s s' → ((g.run first).run before).Renews a s' s'' →
          g.DescendsIn actions s s'' := by
      intro before a later hsplit s' s'' hdescends hrenews
      rw [← run_append] at hrenews
      exact hdescends.tail ⟨first ++ before, a, later, by simp [actions, hsplit], hrenews⟩
    have hbound : ∀ before a later, .advance id :: rest = before ++ a :: later → ¬ a.IsSteady →
        ((g.run first).run before).isBound id = true := by
      intro before a later hsplit hlogin
      rw [← run_append]
      cases before with
      | nil =>
        obtain ⟨rfl, -⟩ := List.cons.inj hsplit
        exact absurd trivial hlogin
      | cons b before =>
        obtain ⟨rfl, hrest⟩ := List.cons.inj hsplit
        exact hlogins before a later hrest hlogin
    have hrun := good_run horder hrenew hbound (.inl hstart)
    rw [← run_append] at hrun
    rcases hrun with hwithin | hdetermined
    · exact hwithin.attempts token request hmem
    · exact hdetermined.attempts token request hmem

/-! ## Logins that cross a request, and one that does not -/

omit [Store σ] [LawfulStore σ] in
theorem exists_attempt {g : Gateway σ} {id : CallId} {token : String}
    (h : g.log.any (Notice.isAttemptUnder id token) = true) :
    ∃ request, .attempt id token request ∈ g.log := by
  obtain ⟨notice, hmem, hattempt⟩ := List.any_eq_true.mp h
  cases notice with
  | attempt sender sent request =>
    obtain ⟨rfl, rfl⟩ : sender = id ∧ sent = token := by
      simpa [Notice.isAttemptUnder] using hattempt
    exact ⟨request, hmem⟩
  | _ => cases hattempt

/-- A login comes while a refused request queues on a cycle that waits for the backend. The request
is sent again under the token that the cycle got for the old session. -/
theorem one_login_per_request_of_late_login :
    let g := Gateway.new ⟨"http://[::1]"⟩ (Cell.mk (some ⟨"A1", some "R1", none⟩))
    let first : List (Action Cell) :=
      [.start (.request ⟨.get, "/orders", [], none, defaultTimeoutMs⟩ .value)]
    let body := "\x7b\"data\":\x7b\"access_token\":\"A2\"\x7d\x7d"
    let rest : List (Action Cell) := [.deliver 0 (.response ⟨401, .empty⟩), .advance 0, .advance 0,
      .advance 0, .advanceCycle 0, .signIn ⟨"B1", some "S1", none⟩,
      .deliverRefresh 0 (.response ⟨200, body.toUTF8⟩), .advanceCycle 0, .advanceCycle 0, .advance 0]
    (g.run first).phase? 0 = some .opening ∧
      (∃ request, .attempt 0 "A2" request ∈ (g.run (first ++ .advance 0 :: rest)).log) ∧
      ∃ s', g.DescendsIn (first ++ .advance 0 :: rest) ⟨"A1", some "R1", none⟩ s' ∧
        s'.accessToken = "A2" := by
  intro g first body rest
  have hopening : (g.run first).phase? 0 = some .opening := rfl
  obtain ⟨request, hretried⟩ : ∃ request,
      .attempt 0 "A2" request ∈ (g.run (first ++ .advance 0 :: rest)).log :=
    exists_attempt (by decide +kernel)
  have hlogins : ∀ before a later, rest = before ++ a :: later → ¬ a.IsSteady →
      (g.run (first ++ .advance 0 :: before)).isBound 0 = true := by
    intro before a later hsplit hlogin
    have hmem : a ∈ rest := by simp [hsplit]
    obtain rfl : a = .signIn ⟨"B1", some "S1", none⟩ := by
      simp only [rest, List.mem_cons, List.not_mem_nil, or_false] at hmem
      rcases hmem with rfl | rfl | rfl | rfl | rfl | rfl | rfl | rfl | rfl | rfl
      all_goals first | rfl | exact absurd trivial hlogin
    obtain rfl := eq_take_of_place (fun a => a matches .signIn _) 5 (by decide) hsplit rfl
    decide +kernel
  obtain ⟨-, htokens⟩ := one_login_per_request ⟨"http://[::1]"⟩
    (Cell.mk (some ⟨"A1", some "R1", none⟩)) first rest 0 hopening
  exact ⟨hopening, ⟨request, hretried⟩, htokens ⟨"A1", some "R1", none⟩ rfl
    (fun _ hcycle => absurd hcycle List.not_mem_nil) hlogins "A2" request hretried⟩

/-- A login comes after a request was refused and before it reads the session again. The request is
sent again under the token of the new login. -/
theorem retried_under_new_login :
    let g := Gateway.new ⟨"http://[::1]"⟩ (Cell.mk (some ⟨"A1", some "R1", none⟩))
    let first : List (Action Cell) :=
      [.start (.request ⟨.get, "/orders", [], none, defaultTimeoutMs⟩ .value)]
    let rest : List (Action Cell) := [.deliver 0 (.response ⟨401, .empty⟩),
      .signIn ⟨"B1", some "S1", none⟩, .advance 0, .advance 0, .advance 0, .advance 0]
    (g.run first).phase? 0 = some .opening ∧
      (g.run first).current = some ⟨"A1", some "R1", none⟩ ∧
      (∃ request, .attempt 0 "B1" request ∈ (g.run (first ++ .advance 0 :: rest)).log) ∧
      ¬ ∃ s', g.DescendsIn (first ++ .advance 0 :: rest) ⟨"A1", some "R1", none⟩ s' ∧
        s'.accessToken = "B1" := by
  intro g first rest
  refine ⟨rfl, rfl, exists_attempt (by decide +kernel), ?_⟩
  rintro ⟨s', hdescends, htoken⟩
  -- No cycle is answered in the run, so nothing is renewed.
  obtain rfl := hdescends.eq (by
    rintro after ⟨before, a, later, hsplit, cycle, delivery, -, -, hanswers, -⟩
    have hmem : a ∈ first ++ .advance 0 :: rest := by simp [hsplit]
    rcases hanswers with rfl | ⟨rfl, -⟩
    · simp [first, rest] at hmem
    · simp [first, rest] at hmem)
  revert htoken
  decide

/-- A login comes while a cycle waits for the backend. A request that starts under the new login and
is refused joins the cycle, and is sent again under the token that the cycle got for the old
session. -/
theorem retried_under_old_login :
    let g := Gateway.new ⟨"http://[::1]"⟩ (Cell.mk (some ⟨"A1", some "R1", none⟩))
    let first : List (Action Cell) := [.start (.token "A1"), .advance 0, .advance 0, .advance 0,
      .advanceCycle 0, .signIn ⟨"B1", some "S1", none⟩,
      .start (.request ⟨.get, "/orders", [], none, defaultTimeoutMs⟩ .value)]
    let body := "\x7b\"data\":\x7b\"access_token\":\"A2\"\x7d\x7d"
    let rest : List (Action Cell) := [.deliver 1 (.response ⟨401, .empty⟩), .advance 1, .advance 1,
      .advance 1, .deliverRefresh 0 (.response ⟨200, body.toUTF8⟩), .advanceCycle 0,
      .advanceCycle 0, .advance 1]
    (g.run first).phase? 1 = some .opening ∧
      (g.run first).current = some ⟨"B1", some "S1", none⟩ ∧
      (∃ request, .attempt 1 "A2" request ∈ (g.run (first ++ .advance 1 :: rest)).log) ∧
      ¬ ∃ s', g.DescendsIn (first ++ .advance 1 :: rest) ⟨"B1", some "S1", none⟩ s' ∧
        s'.accessToken = "A2" := by
  intro g first body rest
  have hopening : (g.run first).phase? 1 = some .opening := by
    rw [show first = first.take 6 ++ [first[6]] from rfl, run_concat]
    exact (phase?_start _ _ 1).trans (if_pos (by decide +kernel))
  refine ⟨hopening, by decide +kernel, exists_attempt (by decide +kernel), ?_⟩
  rintro ⟨s', hdescends, htoken⟩
  -- The only cycle that is answered has read the old session.
  have hold : ((g.run ((first ++ .advance 1 :: rest).take 12)).coordinator.cycles.all fun cycle =>
      cycle.stage.exchanged?.all (·.accessToken = "A1")) = true := by decide +kernel
  obtain rfl := hdescends.eq (by
    rintro after ⟨before, a, later, hsplit, cycle, delivery, request, -, hanswers, hcycle, hstage, -⟩
    have hmem : a ∈ first ++ .advance 1 :: rest := by simp [hsplit]
    rcases hanswers with rfl | ⟨rfl, -⟩
    · obtain rfl := eq_take_of_place Action.isRefreshReply 12 (by decide) hsplit rfl
      have hmem' := List.mem_of_find?_eq_some hcycle
      have htoken := List.all_eq_true.mp hold cycle hmem'
      simp only [hstage, Stage.exchanged?, Option.all_some] at htoken
      exact absurd (of_decide_eq_true htoken) (by decide)
    · simp [first, rest] at hmem)
  revert htoken
  decide

end Gateway

end BearerClient
