import BearerClient.Proofs.Passages

/-!
# Everyone in the queue

A caller takes one place in the queue of one cycle. `KeepsQueue` accounts for the places: one for
the caller that started the cycle, one for each that joined it, and each of them held by someone who
still waits or has given up. So a settlement tells its one result to everyone who waits, and a
caller that has left the queue never waits again. The main statement is `waiters_served`.
-/

namespace BearerClient

/-- Whether a notice says that a caller joined a certain cycle. -/
def Notice.isJoinOf (number : Nat) : Notice → Bool
  | .joined _ cycle _ => cycle = number
  | _ => false

/-- The phases of a caller that has been told a result: it holds that result, has passed it on, has
sent its second attempt with the token of the result, or is past that. -/
def Phase.Follows (result : Except RefreshError String) : Phase → Prop
  | .asking _ (.told told) => told = result
  | .ended (.token told) => told = result
  | .second token _ => result = .ok token
  | .opening | .first _ _ | .asking _ _ => False
  | .expiring _ _ | .ended _ | .abandoned => True

namespace Gateway

variable {σ : Type}

/-- How many callers have joined a cycle. -/
def joins (g : Gateway σ) (number : Nat) : Nat := g.log.countP (Notice.isJoinOf number)

/-- Whether a caller has given up what it waited for. -/
def HasGivenUp (g : Gateway σ) (id : CallId) : Prop :=
  ∃ phase, g.phase? id = some phase ∧ phase.isGivenUp = true

/-- The places in the queue of the flight are accounted for. -/
structure KeepsQueue (g : Gateway σ) : Prop where
  /-- There is a place for the first caller and for each that joined. -/
  places : ∀ flight, g.coordinator.flight = some flight →
    flight.queue.length = g.joins flight.cycle + 1
  /-- Nobody has joined a cycle that has not started. -/
  unjoined : ∀ number, g.coordinator.started ≤ number → g.joins number = 0
  /-- Nobody has two places. -/
  nodup : ∀ flight, g.coordinator.flight = some flight → flight.queue.Nodup
  /-- Whoever has a place waits or has given up. -/
  holders : ∀ flight, g.coordinator.flight = some flight → ∀ id ∈ flight.queue,
    g.waitsOn id = some flight.cycle ∨ g.HasGivenUp id

theorem keepsQueue_new (root : ApiRoot) (store : σ) : KeepsQueue (.new root store) :=
  ⟨fun _ h => (by cases h), fun _ _ => rfl, fun _ h => (by cases h), fun _ h => (by cases h)⟩

/-- A caller that waits or has given up is not on its way to the lock. -/
theorem KeepsQueue.not_mem_of_phase {g : Gateway σ} (hg : KeepsQueue g) {flight : Flight}
    (hflight : g.coordinator.flight = some flight) {id : CallId} {phase : Phase}
    (hphase : g.phase? id = some phase) (hwaits : phase.waitsOn = none)
    (hgiven : phase.isGivenUp = false) : id ∉ flight.queue := by
  intro hmem
  rcases hg.holders flight hflight id hmem with h | ⟨phase', hphase', hgiven'⟩
  · rw [waitsOn, hphase, Option.bind_some, hwaits] at h
    cases h
  · rw [hphase] at hphase'
    obtain rfl := Option.some.inj hphase'
    rw [hgiven] at hgiven'
    cases hgiven'

/-- Accounts stay right when nobody joins, and everyone with a place stays there or gives up. -/
theorem KeepsQueue.of_quiet {g g' : Gateway σ} (hg : KeepsQueue g)
    (hflight : g'.coordinator.flight = g.coordinator.flight)
    (hstarted : g'.coordinator.started = g.coordinator.started) (notices : List Notice)
    (hlog : g'.log = notices ++ g.log)
    (hquiet : ∀ notice ∈ notices, ∀ number, notice.isJoinOf number = false)
    (hholders : ∀ flight, g.coordinator.flight = some flight → ∀ id ∈ flight.queue,
      g'.phase? id = g.phase? id ∨ g'.HasGivenUp id) : KeepsQueue g' := by
  have hjoins : ∀ number, g'.joins number = g.joins number := by
    intro number
    have hzero : notices.countP (Notice.isJoinOf number) = 0 :=
      List.countP_eq_zero.mpr fun notice hmem => by simp [hquiet notice hmem number]
    simp only [joins, hlog, List.countP_append, hzero, Nat.zero_add]
  refine ⟨?_, ?_, ?_, ?_⟩
  · intro flight h
    rw [hjoins]
    exact hg.places flight (hflight ▸ h)
  · intro number h
    rw [hjoins]
    exact hg.unjoined number (hstarted ▸ h)
  · intro flight h
    exact hg.nodup flight (hflight ▸ h)
  · intro flight h id hmem
    rw [hflight] at h
    rcases hholders flight h id hmem with hsame | hgiven
    · rw [waitsOn, HasGivenUp, hsame]
      exact hg.holders flight h id hmem
    · exact .inr hgiven

variable [Store σ]

/-- A caller that waits for a cycle can only give up by itself. -/
theorem Walk.isGivenUp_of_waitsOn {g : Gateway σ} {id : CallId} {call : Call} {a : Action σ}
    {phase : Phase} {store : σ} {notices : List Notice} (h : Walk g id call a phase store notices)
    {number : Nat} (hwaits : call.phase.waitsOn = some number) : phase.isGivenUp = true := by
  cases h with
  | timesOut _ hanswer =>
    subst hanswer
    rfl
  | isGivenUp => rfl
  | @isCutOff _ _ phase _ _ _ _ hphase =>
    cases phase <;> simp [Call.outstanding?, Phase.waitsOn] at hphase hwaits
  | @isAnswered _ _ phase _ _ _ _ hphase =>
    cases phase <;> simp [Call.outstanding?, Phase.waitsOn] at hphase hwaits
  | _ => cases hwaits

theorem Walk.isGivenUp_eq_false {g : Gateway σ} {id : CallId} {call : Call} {a : Action σ}
    {phase : Phase} {store : σ} {notices : List Notice} (h : Walk g id call a phase store notices) :
    call.phase.isGivenUp = false := by
  cases h with
  | @isCutOff _ _ phase _ _ _ _ hphase => cases phase <;> simp [Call.outstanding?] at hphase <;> rfl
  | @isAnswered _ _ phase _ _ _ _ hphase =>
    cases phase <;> simp [Call.outstanding?] at hphase <;> rfl
  | @timesOut _ _ phase _ hwaits => cases phase <;> simp [Call.isWaiting] at hwaits <;> rfl
  | @isGivenUp call hwaits =>
    obtain ⟨purpose, phase⟩ := call
    cases phase <;> simp [Call.isWaiting] at hwaits <;> rfl
  | _ => rfl

/-- Whoever walks leaves its place in the queue by giving up. -/
theorem KeepsQueue.moved {g : Gateway σ} (hg : KeepsQueue g) {id : CallId} {call : Call}
    {a : Action σ} {phase : Phase} {store : σ} {notices : List Notice}
    (hcall : g.calls[id]? = some call) (hwalk : Walk g id call a phase store notices) :
    KeepsQueue (g.moved id phase store notices) := by
  refine hg.of_quiet rfl rfl notices rfl ?_ ?_
  · intro notice hmem number
    have hconcerns := hwalk.concernsCall notice hmem
    cases notice <;> first | rfl | cases hconcerns
  · intro flight hflight other hmem
    rw [phase?_moved hcall]
    by_cases hother : other = id
    · subst hother
      right
      refine ⟨phase, by rw [phase?_moved hcall, if_pos rfl], ?_⟩
      have hphase := phase?_of_calls hcall
      rcases hg.holders flight hflight other hmem with hwaits | ⟨before, hbefore, hgiven⟩
      · rw [waitsOn, hphase, Option.bind_some] at hwaits
        exact hwalk.isGivenUp_of_waitsOn hwaits
      · rw [hphase] at hbefore
        obtain rfl := Option.some.inj hbefore
        rw [hwalk.isGivenUp_eq_false] at hgiven
        cases hgiven
    · exact .inl (if_neg hother)

omit [Store σ] in
/-- A caller that joins gets a place of its own at the end. -/
theorem KeepsQueue.joins {g : Gateway σ} (hg : KeepsQueue g) (horder : Orderly g) {id : CallId}
    {purpose : Purpose} {rejected : String} {settled : Nat} {current : Option Session}
    {flight : Flight}
    (hcall : g.calls[id]? = some ⟨purpose, .asking rejected (.seen settled current)⟩)
    (hflight : g.coordinator.flight = some flight) :
    KeepsQueue ((g.moved id (.asking rejected (.queued flight.cycle)) g.store
      [.joined id flight.cycle (flight.queue.length + 1)]).coordinatedBy
        (g.coordinator.join id)) := by
  have hafter : (g.coordinator.join id).flight =
      some { flight with queue := flight.queue ++ [id] } := by
    simp [Coordinator.join, hflight]
  -- The caller is still on its way to the lock, so it has no place yet.
  have hnew : id ∉ flight.queue := hg.not_mem_of_phase hflight (phase?_of_calls hcall) rfl rfl
  have hjoins : ∀ number, ((g.moved id (.asking rejected (.queued flight.cycle)) g.store
      [.joined id flight.cycle (flight.queue.length + 1)]).coordinatedBy
        (g.coordinator.join id)).joins number =
      (if flight.cycle = number then 1 else 0) + g.joins number := by
    intro number
    simp only [Gateway.joins, coordinatedBy_log, moved_log, List.countP_append,
      List.countP_singleton, Notice.isJoinOf, decide_eq_true_eq]
  obtain ⟨-, -, -, -, hstarted⟩ := horder.coordinator.running flight hflight
  constructor
  · intro flight' h
    obtain rfl := Option.some.inj (hafter.symm.trans h)
    rw [hjoins, if_pos rfl, List.length_append, hg.places flight hflight, List.length_singleton]
    change g.joins flight.cycle + 1 + 1 = 1 + g.joins flight.cycle + 1
    omega
  · intro number hnumber
    have hle : g.coordinator.started ≤ number := hnumber
    rw [hjoins, if_neg (by omega), hg.unjoined number hle]
  · intro flight' h
    obtain rfl := Option.some.inj (hafter.symm.trans h)
    rw [List.nodup_append]
    refine ⟨hg.nodup flight hflight, by simp, ?_⟩
    intro other hother last hlast
    rw [List.mem_singleton] at hlast
    rintro rfl
    exact hnew (hlast ▸ hother)
  · intro flight' h other hother
    obtain rfl := Option.some.inj (hafter.symm.trans h)
    rw [waitsOn_coordinatedBy, waitsOn_moved hcall, HasGivenUp, phase?_coordinatedBy,
      phase?_moved hcall]
    rcases List.mem_append.mp hother with hmem | hmem
    · have hne : other ≠ id := by
        rintro rfl
        exact hnew hmem
      rw [if_neg hne, if_neg hne]
      exact hg.holders flight hflight other hmem
    · rw [List.mem_singleton] at hmem
      rw [if_pos hmem]
      exact .inl rfl

omit [Store σ] in
/-- A caller that starts a cycle has the only place. -/
theorem KeepsQueue.begins {g : Gateway σ} (hg : KeepsQueue g) {id : CallId} {call : Call}
    {rejected : String} (hcall : g.calls[id]? = some call) :
    KeepsQueue ((g.moved id (.asking rejected (.queued g.coordinator.started)) g.store
      []).coordinatedBy (g.coordinator.start id rejected)) := by
  constructor
  · intro flight h
    obtain rfl := Option.some.inj h
    have hzero : g.joins g.coordinator.started = 0 := hg.unjoined _ (Nat.le_refl _)
    simpa [Gateway.joins] using hzero
  · intro number hnumber
    have hle : g.coordinator.started + 1 ≤ number := hnumber
    exact hg.unjoined number (by omega)
  · intro flight h
    obtain rfl := Option.some.inj h
    simp
  · intro flight h other hmem
    obtain rfl := Option.some.inj h
    rw [List.mem_singleton] at hmem
    rw [waitsOn_coordinatedBy, waitsOn_moved hcall, if_pos hmem]
    exact .inl rfl

theorem Move.keepsQueue {g g' : Gateway σ} {a : Action σ} (h : Move g a g') (horder : Orderly g)
    (hg : KeepsQueue g) : KeepsQueue g' := by
  cases h with
  | idles => exact hg
  | comes purpose =>
    refine hg.of_quiet rfl rfl [] rfl (by simp) fun flight hflight id hmem => .inl ?_
    rw [phase?_start, if_neg]
    rintro rfl
    have hnone : g.phase? g.calls.length = none := by simp [phase?]
    rcases hg.holders flight hflight _ hmem with hwaits | ⟨phase, hphase, -⟩
    · rw [waitsOn, hnone] at hwaits
      cases hwaits
    · rw [hnone] at hphase
      cases hphase
  | walks hcall hwalk => exact hg.moved hcall hwalk
  | joins hcall hflight => exact hg.joins horder hcall hflight
  | begins hcall => exact hg.begins hcall
  | @expires id _ token reason _ hcall =>
    refine hg.of_quiet rfl rfl [_] rfl (by simp [Notice.isJoinOf]) ?_
    intro flight hflight other hmem
    have hnot := hg.not_mem_of_phase hflight (phase?_of_calls hcall) rfl rfl
    have hne : other ≠ id := by
      rintro rfl
      exact hnot hmem
    left
    rw [phase?_moved (by exact hcall), if_neg hne]
    rfl
  | works hcycle hwork =>
    refine hg.of_quiet rfl rfl _ (worked_log ..) ?_ fun _ _ _ _ => .inl rfl
    cases hwork <;> simp [Notice.isJoinOf]
  | fails => exact hg.of_quiet rfl rfl [] rfl (by simp) fun _ _ _ _ => .inl rfl
  | @settles cycle result =>
    have hnone : (g.settle cycle.number result).coordinator.flight = none := by
      simp [Coordinator.settle]
    refine ⟨?_, ?_, ?_, ?_⟩
    · intro flight h
      rw [hnone] at h
      cases h
    · intro number hnumber
      rw [settle_coordinator] at hnumber
      have hzero := hg.unjoined number hnumber
      simpa [Gateway.joins, Notice.isJoinOf] using hzero
    · intro flight h
      rw [hnone] at h
      cases h
    · intro flight h
      rw [hnone] at h
      cases h
  | touches htouch =>
    obtain ⟨-, hcoordinator, hcalls, hlog⟩ := htouch.frame
    refine hg.of_quiet (by rw [hcoordinator]) (by rw [hcoordinator]) [] hlog (by simp) ?_
    intro _ _ id _
    left
    rw [phase?, hcalls]
    rfl

/-! ## Settlements -/

/-- A step that settles a cycle, as it is noticed. -/
def Settles (g : Gateway σ) (a : Action σ) (number : Nat) (queue : List CallId)
    (result : Except RefreshError String) : Prop :=
  (g.step a).log = .settled number queue result :: g.log

omit [Store σ] in
/-- What is noticed first after a step was noticed in it. -/
theorem notices_eq_singleton (notices : List Notice) {log : List Notice} {notice : Notice}
    (h : notices ++ log = notice :: log) : notices = [notice] :=
  List.append_cancel_right (by simpa using h)

/-- Only the task of a cycle settles it, when it is about to tell its result. -/
theorem Move.eq_settle {g g' : Gateway σ} {a : Action σ} (h : Move g a g') {number : Nat}
    {queue : List CallId} {result : Except RefreshError String}
    (hlog : g'.log = .settled number queue result :: g.log) :
    ∃ cycle, g.coordinator.cycle? number = some cycle ∧ cycle.stage = .settling result ∧
      queue = g.coordinator.queue ∧ a = .advanceCycle number ∧ g' = g.settle number result := by
  cases h with
  | idles => exact absurd (notices_eq_singleton [] hlog) (by simp)
  | comes => exact absurd (notices_eq_singleton [] hlog) (by simp)
  | walks hcall hwalk =>
    have hnotices := notices_eq_singleton _ hlog
    have hconcerns := hwalk.concernsCall (.settled number queue result) (by simp [hnotices])
    cases hconcerns
  | joins => exact absurd (notices_eq_singleton [_] hlog) (by simp)
  | begins => exact absurd (notices_eq_singleton [] hlog) (by simp)
  | expires => exact absurd (notices_eq_singleton [_] hlog) (by simp)
  | works hcycle hwork =>
    have hnotices := notices_eq_singleton _ hlog
    cases hwork <;> cases hnotices
  | fails => exact absurd (notices_eq_singleton [] hlog) (by simp)
  | @settles cycle result' hcycle hstage =>
    rw [settle_log] at hlog
    obtain ⟨hnotice, -⟩ := List.cons.inj hlog
    cases hnotice
    exact ⟨cycle, hcycle, hstage, rfl, rfl, rfl⟩
  | touches htouch =>
    obtain ⟨-, -, -, hlog'⟩ := htouch.frame
    rw [hlog'] at hlog
    exact absurd (notices_eq_singleton [] hlog) (by simp)

/-- A step that settles a cycle is the one in which the task of the cycle tells its result. -/
theorem Settles.eq_settle {g : Gateway σ} {a : Action σ} {number : Nat} {queue : List CallId}
    {result : Except RefreshError String} (h : g.Settles a number queue result) :
    ∃ cycle, g.coordinator.cycle? number = some cycle ∧ cycle.stage = .settling result ∧
      queue = g.coordinator.queue ∧ a = .advanceCycle number ∧
      g.step a = g.settle number result :=
  (move_step g a).eq_settle h

/-- A cycle that settles is the one in flight, whose turn it is. -/
theorem Settles.flight {g : Gateway σ} {a : Action σ} {number : Nat} {queue : List CallId}
    {result : Except RefreshError String} (h : g.Settles a number queue result)
    (horder : Orderly g) : g.coordinator.flight = some ⟨number, queue⟩ ∧
      g.coordinator.settled = number := by
  obtain ⟨cycle, hcycle, -, hqueue, -⟩ := h.eq_settle
  obtain ⟨flight, hflight, hnumber, -, hsettled, -⟩ := horder.coordinator.flight_of_cycle? hcycle
  obtain ⟨number', queue'⟩ := flight
  have hqueue' : g.coordinator.queue = queue' := by simp [Coordinator.queue, hflight]
  subst hnumber
  exact ⟨by rw [hflight, hqueue, hqueue'], hsettled⟩

/-- A task that is about to tell a result keeps it until it has settled. -/
theorem Move.settling {g g' : Gateway σ} {a : Action σ} (h : Move g a g') (horder : Orderly g)
    {cycle : Cycle} {result : Except RefreshError String}
    (hcycle : g.coordinator.cycle? cycle.number = some cycle)
    (hstage : cycle.stage = .settling result) :
    g'.coordinator.cycle? cycle.number = some cycle ∨ cycle.number < g'.coordinator.settled := by
  obtain ⟨flight, hflight, hnumber, hcycles, hsettled, -⟩ :=
    horder.coordinator.flight_of_cycle? hcycle
  have honly : ∀ other, g.coordinator.cycle? other.number = some other → other = cycle := by
    intro other hother
    have hmem := List.mem_of_find?_eq_some hother
    rw [hcycles] at hmem
    exact List.mem_singleton.mp hmem
  cases h with
  | begins _ hidle =>
    rw [hflight] at hidle
    cases hidle
  | joins => exact .inl hcycle
  | works hother hwork =>
    obtain rfl := honly _ hother
    cases hwork <;> rename_i hother' _ <;> simp_all
  | fails hother hother' =>
    obtain rfl := honly _ hother
    rw [hstage] at hother'
    cases hother'
  | settles =>
    right
    rw [settle_coordinator]
    simp only [Coordinator.settle]
    omega
  | touches htouch =>
    obtain ⟨-, hcoordinator, -, -⟩ := htouch.frame
    rw [hcoordinator]
    exact .inl hcycle
  | _ => exact .inl hcycle

/-! ## The way of a waiting caller -/

/-- A caller that waits goes on waiting or gives up, until its cycle tells it the result. -/
theorem Move.waiter {g g' : Gateway σ} {a : Action σ} (h : Move g a g') (horder : Orderly g)
    {id : CallId} {number : Nat} (hwaits : g.waitsOn id = some number) :
    g'.waitsOn id = some number ∨ g'.HasGivenUp id ∨
      ∃ result, g' = g.settle number result ∧ g'.result? id = some result ∧
        number < g'.coordinator.settled := by
  obtain ⟨rejected, hphase⟩ := waitsOn_eq_some.mp hwaits
  obtain ⟨phase', hphase', hpassage⟩ := h.passage horder hphase
  generalize hbefore : Phase.asking rejected (.queued number) = before at hpassage
  cases hpassage with
  | stays =>
    subst hbefore
    exact .inl (waitsOn_eq_some.mpr ⟨rejected, hphase'⟩)
  | walks hwalk =>
    exact .inr (.inl ⟨phase', hphase', hwalk.isGivenUp_of_waitsOn (by rw [← hbefore]; rfl)⟩)
  | queues => cases hbefore
  | ends => cases hbefore
  | @hears cycle _ result hcycle _ hafter =>
    cases hbefore
    obtain ⟨-, -, -, -, hsettled, -⟩ := horder.coordinator.flight_of_cycle? hcycle
    refine .inr (.inr ⟨result, hafter, result?_eq_some.mpr ⟨rejected, hphase'⟩, ?_⟩)
    rw [hafter, settle_coordinator]
    simp only [Coordinator.settle]
    omega

theorem Move.hasGivenUp {g g' : Gateway σ} {a : Action σ} (h : Move g a g') (horder : Orderly g)
    {id : CallId} (hgiven : g.HasGivenUp id) : g'.HasGivenUp id := by
  obtain ⟨phase, hphase, hgiven⟩ := hgiven
  obtain ⟨phase', hphase', hpassage⟩ := h.passage horder hphase
  cases hpassage with
  | stays => exact ⟨phase, hphase', hgiven⟩
  | walks hwalk =>
    rw [hwalk.isGivenUp_eq_false] at hgiven
    cases hgiven
  | queues => cases hgiven
  | ends => cases hgiven
  | hears => cases hgiven

/-- What became of a caller that waited for a cycle: it still waits for it, has given up, or the
cycle has settled since. -/
def WaitsOrLeft (g : Gateway σ) (id : CallId) (number : Nat) : Prop :=
  g.waitsOn id = some number ∨ g.HasGivenUp id ∨ number < g.coordinator.settled

/-- A caller that waits for a cycle gets nothing else before that cycle settles. -/
theorem waitsOrLeft_run {g : Gateway σ} (horder : Orderly g) {id : CallId} {number : Nat}
    (hwaits : g.waitsOn id = some number) (actions : List (Action σ)) :
    (g.run actions).WaitsOrLeft id number := by
  refine (horder.run_keeps (P := fun g => g.WaitsOrLeft id number) (.inl hwaits) ?_ actions).2
  intro g a g' horder hleft hmove
  rcases hleft with hwaits | hgiven | hsettled
  · rcases hmove.waiter horder hwaits with hstill | hgiven | ⟨-, -, -, hsettled⟩
    · exact .inl hstill
    · exact .inr (.inl hgiven)
    · exact .inr (.inr hsettled)
  · exact .inr (.inl (hmove.hasGivenUp horder hgiven))
  · exact .inr (.inr (Nat.lt_of_lt_of_le hsettled (hmove.settled_le horder)))

/-- A caller that is sent on with the token of its result follows the result. -/
theorem Attempted.follows {root : ApiRoot} {id : CallId} {d : Descriptor} {token : String}
    {phase : Phase} {notices : List Notice}
    (h : Attempted root id d token (.second token) phase notices) :
    phase.Follows (.ok token) := by
  cases h with
  | sent => exact rfl
  | unbuilt _ hanswer =>
    subst hanswer
    trivial
  | unaddressed _ _ hanswer =>
    subst hanswer
    trivial

/-- A caller that has been told a result goes on with it. -/
theorem Walk.follows {g : Gateway σ} {id : CallId} {call : Call} {a : Action σ} {phase : Phase}
    {store : σ} {notices : List Notice} (h : Walk g id call a phase store notices)
    {result : Except RefreshError String} (hbefore : call.phase.Follows result) :
    phase.Follows result := by
  cases h with
  | passesOn hanswer =>
    subst hanswer
    exact hbefore
  | retries hattempt =>
    obtain rfl : Except.ok _ = result := hbefore
    exact hattempt.follows
  | gives => trivial
  | isCutOff _ _ hanswer =>
    subst hanswer
    trivial
  | isRejectedAgain => trivial
  | isAnswered _ _ _ hanswer =>
    subst hanswer
    trivial
  | timesOut _ hanswer =>
    subst hanswer
    trivial
  | isGivenUp => trivial
  | _ => exact hbefore.elim

/-- Once a caller has been told a result it never waits again, and uses no other result. -/
theorem follows_run {g : Gateway σ} (horder : Orderly g) {id : CallId}
    {result : Except RefreshError String} (htold : g.result? id = some result)
    (actions : List (Action σ)) :
    ∃ phase, (g.run actions).phase? id = some phase ∧ phase.Follows result := by
  obtain ⟨rejected, hphase⟩ := result?_eq_some.mp htold
  refine (horder.run_keeps (P := fun g => ∃ phase, g.phase? id = some phase ∧
    phase.Follows result) ⟨_, hphase, rfl⟩ ?_ actions).2
  intro g a g' horder ⟨phase, hphase, hfollows⟩ hmove
  -- A caller with a result neither comes to the lock nor waits, so two of the passages are closed.
  obtain ⟨phase', hphase', hpassage⟩ := hmove.passage horder hphase
  refine ⟨phase', hphase', ?_⟩
  cases hpassage with
  | stays => exact hfollows
  | walks hwalk => exact hwalk.follows hfollows
  | queues => exact hfollows.elim
  | ends hanswer =>
    rcases hanswer with rfl | rfl
    · trivial
    · trivial
  | hears => exact hfollows.elim

/-! ## A task that breaks down -/

/-- The task of a cycle breaks down over its next call of the store. -/
def BreaksDown (g : Gateway σ) (cycle : Cycle) : Prop :=
  match cycle.stage with
  | .reading => (Store.get g.store).1 = .panicked
  | .storing renewed => (Store.set renewed g.store).1 = .panicked
  | .failing e => (g.invalidate cycle.rejected e.message).1 = .panicked
  | .exchanging _ _ | .settling _ => False

/-- A task that breaks down is left with the result that it was aborted. -/
theorem cycle?_of_breaksDown {g : Gateway σ} {cycle : Cycle}
    (hcycle : g.coordinator.cycle? cycle.number = some cycle) (hbreaks : g.BreaksDown cycle) :
    (g.step (.advanceCycle cycle.number)).coordinator.cycle? cycle.number =
      some { cycle with stage := .settling (.error .aborted) } := by
  have hset : ((g.coordinator.setStage cycle.number (.settling (.error .aborted))).cycle?
      cycle.number) = some { cycle with stage := .settling (.error .aborted) } :=
    Coordinator.cycle?_setStage_self hcycle _
  obtain ⟨number, rejected, stage⟩ := cycle
  cases stage with
  | reading =>
    have hget : (Store.get g.store).1 = .panicked := hbreaks
    simp only [step, advanceCycle, hcycle, beginExchange, hget]
    exact hset
  | storing renewed =>
    have hset' : (Store.set renewed g.store).1 = .panicked := hbreaks
    simp only [step, advanceCycle, hcycle, storeRenewed, hset']
    exact hset
  | failing e =>
    have hinv : (g.invalidate rejected e.message).1 = .panicked := hbreaks
    obtain ⟨result, hresult, hends⟩ := g.endFailed_eq number rejected e
    rw [if_pos hinv] at hresult
    subst hresult
    simp only [step, advanceCycle, hcycle]
    rw [hends]
    exact hset
  | exchanging => exact hbreaks.elim
  | settling => exact hbreaks.elim

/-- A cycle that is about to tell a result settles with no other. -/
theorem Settles.result_eq {g : Gateway σ} (horder : Orderly g) {number : Nat} {cycle : Cycle}
    {result : Except RefreshError String} (hcycle : g.coordinator.cycle? number = some cycle)
    (hstage : cycle.stage = .settling result) {later : List (Action σ)} {a : Action σ}
    {queue : List CallId} {told : Except RefreshError String}
    (h : (g.run later).Settles a number queue told) : told = result := by
  obtain rfl := number_of_cycle? hcycle
  have hrun : Orderly (g.run later) ∧
      ((g.run later).coordinator.cycle? cycle.number = some cycle ∨
        cycle.number < (g.run later).coordinator.settled) := by
    refine horder.run_keeps (P := fun g => g.coordinator.cycle? cycle.number = some cycle ∨
      cycle.number < g.coordinator.settled) (.inl hcycle) ?_ later
    intro g a g' horder halive hmove
    rcases halive with hcycle | hsettled
    · exact hmove.settling horder hcycle hstage
    · exact .inr (Nat.lt_of_lt_of_le hsettled (hmove.settled_le horder))
  obtain ⟨hlater, halive⟩ := hrun
  obtain ⟨cycle', hcycle', hstage', -⟩ := h.eq_settle
  rcases halive with halive | hsettled
  · rw [halive] at hcycle'
    obtain rfl := Option.some.inj hcycle'
    rw [hstage] at hstage'
    exact (Stage.settling.inj hstage').symm
  · obtain ⟨-, hnumber⟩ := h.flight hlater
    omega

/-! ## Everyone is served -/

/-- A settlement tells its result to those who wait for the cycle, and to nobody else. -/
theorem Settles.phase? {g : Gateway σ} {a : Action σ} {number : Nat} {queue : List CallId}
    {result : Except RefreshError String} (h : g.Settles a number queue result)
    (hqueue : KeepsQueue g) (horder : Orderly g) :
    (∀ id, g.waitsOn id = some number → id ∈ queue ∧ (g.step a).result? id = some result) ∧
    ∀ id, g.waitsOn id ≠ some number → (g.step a).phase? id = g.phase? id := by
  obtain ⟨hflight, -⟩ := h.flight horder
  obtain ⟨-, -, -, hqueueEq, -, hstep⟩ := h.eq_settle
  rw [hstep]
  constructor
  · intro id hwaits
    obtain ⟨flight, hflight', -, hmem⟩ := horder.waits id number hwaits
    obtain rfl := Option.some.inj (hflight.symm.trans hflight')
    refine ⟨hmem, ?_⟩
    obtain ⟨rejected, hphase⟩ := waitsOn_eq_some.mp hwaits
    rw [Gateway.result?, phase?_settle, ← hqueueEq, if_pos hmem, hphase]
    rfl
  · intro id hwaits
    rw [phase?_settle, ← hqueueEq]
    split
    · rename_i hmem
      rcases hqueue.holders _ hflight id hmem with hwaits' | ⟨phase, hphase, hgiven⟩
      · exact absurd hwaits' hwaits
      · rw [hphase, Option.map_some]
        unfold Phase.hear
        split
        · cases hgiven
        · rfl
    · rfl

omit [Store σ] in
/-- Nobody waits for a cycle that has settled. -/
theorem Orderly.waitsOn_ne {g : Gateway σ} (horder : Orderly g) {number : Nat}
    (hsettled : number < g.coordinator.settled) (id : CallId) : g.waitsOn id ≠ some number := by
  intro hwaits
  obtain ⟨flight, hflight, hnumber, -⟩ := horder.waits id number hwaits
  obtain ⟨-, -, -, hcount, -⟩ := horder.coordinator.running flight hflight
  omega

/-- After a settlement nobody ever waits for the cycle, and it does not settle again. -/
theorem Settles.final {g : Gateway σ} {a : Action σ} {number : Nat} {queue : List CallId}
    {result : Except RefreshError String} (h : g.Settles a number queue result)
    (horder : Orderly g) (later : List (Action σ)) :
    (∀ id, ((g.step a).run later).waitsOn id ≠ some number) ∧
    ∀ b queue' result', ¬ ((g.step a).run later).Settles b number queue' result' := by
  have hafter : Orderly (g.step a) := (move_step g a).orderly horder
  have hsettled : number < (g.step a).coordinator.settled := by
    obtain ⟨-, hnumber⟩ := h.flight horder
    obtain ⟨-, -, -, -, -, hstep⟩ := h.eq_settle
    rw [hstep, settle_coordinator]
    simp only [Coordinator.settle]
    omega
  have hrun : Orderly ((g.step a).run later) ∧
      number < ((g.step a).run later).coordinator.settled :=
    hafter.run_keeps (P := fun g => number < g.coordinator.settled) hsettled
      (fun _ _ _ horder hsettled hmove =>
        Nat.lt_of_lt_of_le hsettled (hmove.settled_le horder)) later
  refine ⟨hrun.1.waitsOn_ne hrun.2, ?_⟩
  intro b queue' result' hagain
  obtain ⟨-, hnumber⟩ := hagain.flight hrun.1
  omega

theorem keepsQueue_run (root : ApiRoot) (store : σ) (actions : List (Action σ)) :
    KeepsQueue ((Gateway.new root store).run actions) :=
  ((orderly_new root store).run_keeps (keepsQueue_new root store)
    (fun _ _ _ horder hqueue hmove => hmove.keepsQueue horder hqueue) actions).2

/-- In every state that a gateway can reach, whatever its store does: a cycle settles once, with a
queue of its first caller and all that joined, and its one result is told to all of them that have
not given up and to nobody else; nobody waits for it any more. A caller that waits for a cycle gets
no result but of this cycle, and then no second one. The result of a task that breaks down is that
it was aborted. -/
theorem waiters_served (root : ApiRoot) (store : σ) (before : List (Action σ)) :
    let g := (Gateway.new root store).run before
    (∀ a number queue result, g.Settles a number queue result →
      queue.length = g.joins number + 1 ∧ queue.Nodup ∧
      (∀ id ∈ queue, g.waitsOn id = some number ∨ g.HasGivenUp id) ∧
      (∀ id, g.waitsOn id = some number → id ∈ queue ∧ (g.step a).result? id = some result) ∧
      (∀ id, g.waitsOn id ≠ some number → (g.step a).phase? id = g.phase? id) ∧
      ∀ later, (∀ id, ((g.step a).run later).waitsOn id ≠ some number) ∧
        ∀ b queue' result', ¬ ((g.step a).run later).Settles b number queue' result') ∧
    (∀ id number, g.waitsOn id = some number → ∀ later a queue result,
      (g.run later).Settles a number queue result →
      (g.run later).waitsOn id = some number ∨ (g.run later).HasGivenUp id) ∧
    (∀ id number, g.waitsOn id = some number → ∀ a result, (g.step a).result? id = some result →
      ∃ queue, g.Settles a number queue result) ∧
    (∀ id result, g.result? id = some result → ∀ later,
      ∃ phase, (g.run later).phase? id = some phase ∧ phase.Follows result) ∧
    ∀ cycle ∈ g.coordinator.cycles, g.BreaksDown cycle → ∀ later a queue result,
      ((g.step (.advanceCycle cycle.number)).run later).Settles a cycle.number queue result →
      result = .error .aborted := by
  intro g
  have horder : Orderly g := (sound_run root store before).order
  have hqueue : KeepsQueue g := keepsQueue_run root store before
  refine ⟨?_, ?_, ?_, fun id result htold => follows_run horder htold, ?_⟩
  · intro a number queue result h
    obtain ⟨hflight, -⟩ := h.flight horder
    obtain ⟨htold, hothers⟩ := h.phase? hqueue horder
    exact ⟨hqueue.places _ hflight, hqueue.nodup _ hflight, hqueue.holders _ hflight, htold,
      hothers, h.final horder⟩
  · intro id number hwaits later a queue result h
    rcases waitsOrLeft_run horder hwaits later with hstill | hgiven | hsettled
    · exact .inl hstill
    · exact .inr hgiven
    · obtain ⟨-, hnumber⟩ := h.flight (horder.run later)
      omega
  · intro id number hwaits a result htold
    obtain ⟨rejected, htold'⟩ := result?_eq_some.mp htold
    rcases (move_step g a).waiter horder hwaits with hstill | ⟨phase, hphase, hgiven⟩ | hsettles
    · obtain ⟨_, hstill⟩ := waitsOn_eq_some.mp hstill
      rw [htold'] at hstill
      cases hstill
    · rw [htold'] at hphase
      obtain rfl := Option.some.inj hphase
      cases hgiven
    · obtain ⟨result', hstep, htold'', -⟩ := hsettles
      rw [htold] at htold''
      obtain rfl := Option.some.inj htold''
      exact ⟨g.coordinator.queue, by rw [Settles, hstep, settle_log]⟩
  · intro cycle hmem hbreaks later a queue result h
    have hcycle := horder.coordinator.cycle?_of_mem hmem
    have hafter : Orderly (g.step (.advanceCycle cycle.number)) :=
      (move_step g _).orderly horder
    exact h.result_eq hafter (cycle?_of_breaksDown hcycle hbreaks) rfl

/-- Three callers share a cycle, the last of them gives up, and the task breaks down over reading
the session: the two that wait are told that the cycle was aborted. -/
theorem waiters_served_of_broken_task :
    let g := (Gateway.new ⟨"http://[::1]"⟩ (Rigged.mk (Cell.mk (some ⟨"A1", some "R1", none⟩))
      [⟨.get, 3, 1, "store broken", true⟩])).run
      [.start (.token "A1"), .start (.token "A1"), .start (.token "A1"), .advance 0, .advance 0,
        .advance 0, .advance 1, .advance 1, .advance 1, .advance 2, .advance 2, .advance 2,
        .abandon 2, .advanceCycle 0]
    g.Settles (.advanceCycle 0) 0 [0, 1, 2] (.error .aborted) ∧ g.joins 0 = 2 ∧
      (∀ id ∈ [0, 1], g.waitsOn id = some 0 ∧
        (g.step (.advanceCycle 0)).result? id = some (.error .aborted)) ∧
      g.waitsOn 2 ≠ some 0 ∧ (g.step (.advanceCycle 0)).phase? 2 = g.phase? 2 := by
  intro g
  have hsettles : g.Settles (.advanceCycle 0) 0 [0, 1, 2] (.error .aborted) := rfl
  have hwaits : ∀ id ∈ [0, 1], g.waitsOn id = some 0 := by decide +kernel
  have hgiven : g.waitsOn 2 ≠ some 0 := by decide +kernel
  obtain ⟨hserved, -⟩ := waiters_served ⟨"http://[::1]"⟩
    (Rigged.mk (Cell.mk (some ⟨"A1", some "R1", none⟩)) [⟨.get, 3, 1, "store broken", true⟩])
    [.start (.token "A1"), .start (.token "A1"), .start (.token "A1"), .advance 0, .advance 0,
      .advance 0, .advance 1, .advance 1, .advance 1, .advance 2, .advance 2, .advance 2,
      .abandon 2, .advanceCycle 0]
  obtain ⟨hlength, -, -, htold, hothers, -⟩ := hserved _ _ _ _ hsettles
  have hjoins : [0, 1, 2].length = g.joins 0 + 1 := hlength
  exact ⟨hsettles, (Nat.succ.inj hjoins).symm,
    fun id hmem => ⟨hwaits id hmem, (htold id (hwaits id hmem)).2⟩, hgiven, hothers 2 hgiven⟩

end Gateway

end BearerClient
