import BearerClient.Proofs.Callers

/-!
# Single flight

At most one refresh cycle runs at a time, and no way for it to end leaves the coordinator behind in
the belief that it still runs. `Coordinator.IsOrderly` ties the queue to the task and to the two
counts; `Orderly` adds the callers and the notices. Every move keeps both, whatever the store does.
-/

namespace BearerClient

/-! ## The state that the callers share -/

/-- The coordinator waits for the only task there is, or there is no task. -/
structure Coordinator.IsOrderly (c : Coordinator) : Prop where
  /-- Without a flight nothing is running, and everything that was started is settled. -/
  idle : c.flight = none → c.cycles = [] ∧ c.started = c.settled
  /-- A flight belongs to the only task, which is the last one that was started. -/
  running : ∀ flight, c.flight = some flight →
    ∃ cycle, c.cycles = [cycle] ∧ cycle.number = flight.cycle ∧ c.settled = flight.cycle ∧
      c.started = flight.cycle + 1

namespace Coordinator

theorem isOrderly_idle : Coordinator.idle.IsOrderly :=
  ⟨fun _ => ⟨rfl, rfl⟩, fun flight h => by cases h⟩

variable {c : Coordinator}

/-- A task that is alive is the one in flight. -/
theorem IsOrderly.flight_of_cycle? (h : c.IsOrderly) {number : Nat} {cycle : Cycle}
    (hcycle : c.cycle? number = some cycle) :
    ∃ flight, c.flight = some flight ∧ flight.cycle = number ∧ c.cycles = [cycle] ∧
      c.settled = number ∧ c.started = number + 1 := by
  have hnumber : cycle.number = number := Gateway.number_of_cycle? hcycle
  have hmem : cycle ∈ c.cycles := List.mem_of_find?_eq_some hcycle
  cases hflight : c.flight with
  | none =>
    rw [(h.idle hflight).1] at hmem
    exact absurd hmem List.not_mem_nil
  | some flight =>
    obtain ⟨only, hcycles, honly, hsettled, hstarted⟩ := h.running flight hflight
    rw [hcycles] at hmem
    obtain rfl : cycle = only := List.mem_singleton.mp hmem
    have hflightNumber : flight.cycle = number := honly.symm.trans hnumber
    exact ⟨flight, rfl, hflightNumber, hcycles, hsettled.trans hflightNumber,
      by rw [hstarted, hflightNumber]⟩

theorem IsOrderly.flight_ne_none (h : c.IsOrderly) {number : Nat} {cycle : Cycle}
    (hcycle : c.cycle? number = some cycle) : c.flight ≠ none := by
  obtain ⟨flight, hflight, -⟩ := h.flight_of_cycle? hcycle
  rw [hflight]
  simp

theorem IsOrderly.cycle?_of_flight (h : c.IsOrderly) {flight : Flight}
    (hflight : c.flight = some flight) :
    ∃ cycle, c.cycle? flight.cycle = some cycle ∧ c.cycles = [cycle] := by
  obtain ⟨cycle, hcycles, hnumber, -, -⟩ := h.running flight hflight
  exact ⟨cycle, by simp [cycle?, hcycles, hnumber], hcycles⟩

/-- Nothing is running, or the one task of the flight is. -/
theorem IsOrderly.cases (h : c.IsOrderly) :
    (c.flight = none ∧ c.cycles = [] ∧ c.started = c.settled) ∨
    ∃ flight cycle, c.flight = some flight ∧ c.cycles = [cycle] ∧ cycle.number = flight.cycle ∧
      c.settled = flight.cycle ∧ c.started = flight.cycle + 1 := by
  cases hflight : c.flight with
  | none => exact .inl ⟨rfl, h.idle hflight⟩
  | some flight =>
    obtain ⟨cycle, hcycle⟩ := h.running flight hflight
    exact .inr ⟨flight, cycle, rfl, hcycle⟩

/-- A task that is alive is found under its number. -/
theorem IsOrderly.cycle?_of_mem (h : c.IsOrderly) {cycle : Cycle} (hmem : cycle ∈ c.cycles) :
    c.cycle? cycle.number = some cycle := by
  rcases h.cases with ⟨-, hcycles, -⟩ | ⟨_, only, -, hcycles, -⟩
  · rw [hcycles] at hmem
    cases hmem
  · rw [hcycles, List.mem_singleton] at hmem
    subst hmem
    simp [cycle?, hcycles]

theorem IsOrderly.join (h : c.IsOrderly) (id : CallId) : (c.join id).IsOrderly := by
  constructor
  · intro hflight
    exact h.idle (by simpa [Coordinator.join] using hflight)
  · intro flight hflight
    obtain ⟨before, hbefore, rfl⟩ : ∃ before, c.flight = some before ∧
        { before with queue := before.queue ++ [id] } = flight := by
      simpa [Coordinator.join] using hflight
    exact h.running before hbefore

theorem IsOrderly.start (h : c.IsOrderly) (hidle : c.flight = none) (id : CallId)
    (rejected : String) : (c.start id rejected).IsOrderly := by
  obtain ⟨hcycles, hcounts⟩ := h.idle hidle
  constructor
  · intro hflight
    simp [Coordinator.start] at hflight
  · intro flight hflight
    obtain rfl : (⟨c.started, [id]⟩ : Flight) = flight := by
      simpa [Coordinator.start] using hflight
    exact ⟨⟨c.started, rejected, .reading⟩, by simp [Coordinator.start, hcycles], rfl, hcounts.symm,
      rfl⟩

/-- The number of a task stays when the task goes on. -/
theorem IsOrderly.setStage (h : c.IsOrderly) (number : Nat) (stage : Stage) :
    (c.setStage number stage).IsOrderly := by
  constructor
  · intro hflight
    obtain ⟨hcycles, hcounts⟩ := h.idle hflight
    exact ⟨by simp [Coordinator.setStage, hcycles], hcounts⟩
  · intro flight hflight
    obtain ⟨cycle, hcycles, hnumber, hsettled, hstarted⟩ := h.running flight hflight
    refine ⟨if cycle.number = number then { cycle with stage := stage } else cycle,
      by simp [Coordinator.setStage, hcycles], ?_, hsettled, hstarted⟩
    split
    · exact hnumber
    · exact hnumber

theorem IsOrderly.settle (h : c.IsOrderly) {number : Nat} {cycle : Cycle}
    (hcycle : c.cycle? number = some cycle) : (c.settle number).IsOrderly := by
  obtain ⟨flight, hflight, -, hcycles, hsettled, hstarted⟩ := h.flight_of_cycle? hcycle
  have hnumber : cycle.number = number := Gateway.number_of_cycle? hcycle
  constructor
  · intro _
    exact ⟨by simp [Coordinator.settle, hcycles, hnumber],
      by simp [Coordinator.settle, hsettled, hstarted]⟩
  · intro flight' hflight'
    simp [Coordinator.settle] at hflight'

/-- A task that goes on is found in its new stage, and any other as it was. -/
theorem cycle?_setStage (c : Coordinator) (number other : Nat) (stage : Stage) :
    (c.setStage number stage).cycle? other = (c.cycle? other).map fun cycle =>
      if cycle.number = number then { cycle with stage := stage } else cycle := by
  unfold cycle? Coordinator.setStage
  rw [List.find?_map]
  have hnumber : (fun cycle : Cycle => Decidable.decide (cycle.number = other)) ∘
      (fun cycle => if cycle.number = number then { cycle with stage := stage } else cycle) =
      fun cycle => Decidable.decide (cycle.number = other) := by
    funext cycle
    simp only [Function.comp_apply]
    split <;> rfl
  rw [hnumber]

theorem cycle?_setStage_self {number : Nat} {cycle : Cycle} (hcycle : c.cycle? number = some cycle)
    (stage : Stage) :
    (c.setStage number stage).cycle? number = some { cycle with stage := stage } := by
  have hnumber : cycle.number = number := Gateway.number_of_cycle? hcycle
  rw [cycle?_setStage, hcycle, Option.map_some, if_pos hnumber]

/-- A task that is about to read after a task has gone on to another stage was so before. -/
theorem reading_of_setStage {number other : Nat} {stage : Stage} (hstage : stage ≠ .reading)
    (h : ∀ cycle, (c.setStage number stage).cycle? other = some cycle → cycle.stage = .reading)
    {cycle : Cycle} (hcycle : c.cycle? other = some cycle) : cycle.stage = .reading := by
  have hafter := h (if cycle.number = number then { cycle with stage := stage } else cycle)
    (by rw [cycle?_setStage, hcycle, Option.map_some])
  split at hafter
  · exact absurd hafter hstage
  · exact hafter

/-- A cycle that starts while nothing runs is the only task. -/
theorem IsOrderly.cycles_start (h : c.IsOrderly) (hidle : c.flight = none) (id : CallId)
    (rejected : String) : (c.start id rejected).cycles = [⟨c.started, rejected, .reading⟩] := by
  simp [Coordinator.start, (h.idle hidle).1]

/-- A task that goes on is the only one. -/
theorem IsOrderly.cycles_setStage (h : c.IsOrderly) {cycle : Cycle}
    (hcycle : c.cycle? cycle.number = some cycle) (stage : Stage) :
    (c.setStage cycle.number stage).cycles = [{ cycle with stage := stage }] := by
  obtain ⟨-, -, -, hcycles, -⟩ := h.flight_of_cycle? hcycle
  simp [Coordinator.setStage, hcycles]

theorem IsOrderly.cycles_settle (h : c.IsOrderly) {number : Nat} {cycle : Cycle}
    (hcycle : c.cycle? number = some cycle) : (c.settle number).cycles = [] := by
  obtain ⟨-, -, -, hcycles, -, -⟩ := h.flight_of_cycle? hcycle
  have hnumber : cycle.number = number := Gateway.number_of_cycle? hcycle
  simp [Coordinator.settle, hcycles, hnumber]

end Coordinator

/-- How many steps and answers the task of a cycle still needs at the most. -/
def Stage.turns : Stage → Nat
  | .reading => 5
  | .exchanging _ _ => 4
  | .storing _ => 3
  | .failing _ => 2
  | .settling _ => 1

/-- The requests that wait for an answer. -/
def Coordinator.outstanding (c : Coordinator) : List Request :=
  c.cycles.filterMap Cycle.outstanding?

theorem Stage.turns_le (stage : Stage) : stage.turns ≤ 5 := by
  cases stage <;> simp [Stage.turns]

/-! ## What is counted -/

/-- Whether a notice says that a cycle settled. -/
def Notice.isSettlement : Notice → Bool
  | .settled _ _ _ => true
  | _ => false

/-- Whether a notice says that a certain cycle settled. -/
def Notice.isSettlementOf (number : Nat) : Notice → Bool
  | .settled cycle _ _ => cycle = number
  | _ => false

/-- Whether a notice says that the request of a cycle was sent. -/
def Notice.isExchangeOf (number : Nat) : Notice → Bool
  | .exchange cycle _ _ => cycle = number
  | _ => false

namespace Gateway

variable {σ : Type}

/-- How many cycles have settled. -/
def settlements (g : Gateway σ) : Nat := g.log.countP Notice.isSettlement

/-- How many times a cycle has settled. -/
def settlementsOf (g : Gateway σ) (number : Nat) : Nat :=
  g.log.countP (Notice.isSettlementOf number)

/-- How many requests a cycle has sent. -/
def exchanges (g : Gateway σ) (number : Nat) : Nat := g.log.countP (Notice.isExchangeOf number)

/-! ## The callers in the queue -/

/-- The coordinator is orderly, and whoever waits for a cycle is in the queue of the flight. -/
structure Orderly (g : Gateway σ) : Prop where
  /-- The coordinator is orderly. -/
  coordinator : g.coordinator.IsOrderly
  /-- Whoever waits for a cycle is in the queue of the flight. -/
  waits : ∀ id number, g.waitsOn id = some number →
    ∃ flight, g.coordinator.flight = some flight ∧ flight.cycle = number ∧ id ∈ flight.queue

theorem orderly_new (root : ApiRoot) (store : σ) : Orderly (.new root store) :=
  ⟨Coordinator.isOrderly_idle, fun _ _ h => by simp [waitsOn, phase?, Gateway.new] at h⟩

variable [Store σ]

theorem Move.orderly {g g' : Gateway σ} {a : Action σ} (h : Move g a g') (hg : Orderly g) :
    Orderly g' := by
  cases h with
  | idles => exact hg
  | comes purpose =>
    refine ⟨hg.coordinator, ?_⟩
    intro id number hid
    rw [waitsOn_start] at hid
    exact hg.waits id number hid
  | walks hcall hwalk =>
    refine ⟨hg.coordinator, ?_⟩
    intro id number hid
    rw [waitsOn_moved hcall, hwalk.waitsOn_eq_none] at hid
    split at hid
    · cases hid
    · exact hg.waits id number hid
  | @joins joiner _ _ _ _ flight hcall hflight =>
    refine ⟨hg.coordinator.join joiner, ?_⟩
    intro id number hid
    have hjoined : (g.coordinator.join joiner).flight =
        some { flight with queue := flight.queue ++ [joiner] } := by
      simp [Coordinator.join, hflight]
    refine ⟨_, hjoined, ?_⟩
    rw [waitsOn_coordinatedBy, waitsOn_moved hcall] at hid
    split at hid
    · rename_i hjoiner
      exact ⟨Option.some.inj hid, by simp [hjoiner]⟩
    · obtain ⟨flight', hflight', hnumber, hmem⟩ := hg.waits id number hid
      obtain rfl : flight = flight' := Option.some.inj (hflight.symm.trans hflight')
      exact ⟨hnumber, List.mem_append_left _ hmem⟩
  | @begins starter _ rejected _ hcall hidle =>
    refine ⟨hg.coordinator.start hidle starter rejected, ?_⟩
    intro id number hid
    rw [waitsOn_coordinatedBy, waitsOn_moved hcall] at hid
    split at hid
    · rename_i hstarter
      exact ⟨_, rfl, Option.some.inj hid, by simp [hstarter]⟩
    · obtain ⟨flight, hflight, -⟩ := hg.waits id number hid
      rw [hidle] at hflight
      cases hflight
  | expires hcall =>
    refine ⟨hg.coordinator, ?_⟩
    intro id number hid
    rw [waitsOn_moved (by exact hcall)] at hid
    split at hid
    · cases hid
    · exact hg.waits id number hid
  | works => exact ⟨hg.coordinator.setStage _ _, hg.waits⟩
  | fails => exact ⟨hg.coordinator.setStage _ _, hg.waits⟩
  | settles hcycle =>
    obtain ⟨flight, hflight, -⟩ := hg.coordinator.flight_of_cycle? hcycle
    refine ⟨by simpa using hg.coordinator.settle hcycle, ?_⟩
    intro id number hid
    have hqueue : g.coordinator.queue = flight.queue := by simp [Coordinator.queue, hflight]
    rw [waitsOn_settle, hqueue] at hid
    split at hid
    · cases hid
    -- Whoever waits has a place in the queue, and so has heard the result.
    · rename_i hmem
      obtain ⟨flight', hflight', -, hmem'⟩ := hg.waits id number hid
      obtain rfl : flight = flight' := Option.some.inj (hflight.symm.trans hflight')
      exact absurd hmem' hmem
  | touches htouch =>
    obtain ⟨-, hcoordinator, hcalls, -⟩ := htouch.frame
    constructor
    · rw [hcoordinator]
      exact hg.coordinator
    · intro id number hid
      rw [hcoordinator]
      rw [waitsOn_of_calls hcalls] at hid
      exact hg.waits id number hid

/-- What every move of an orderly gateway keeps holds after every run, and the order with it. -/
theorem Orderly.run_keeps {P : Gateway σ → Prop} {g : Gateway σ} (horder : Orderly g) (hg : P g)
    (hmove : ∀ g a g', Orderly g → P g → Move g a g' → P g') (actions : List (Action σ)) :
    Orderly (g.run actions) ∧ P (g.run actions) :=
  Gateway.run_keeps (P := fun g => Orderly g ∧ P g)
    (fun g a g' ⟨horder, hg⟩ h => ⟨h.orderly horder, hmove g a g' horder hg h⟩) ⟨horder, hg⟩ actions

theorem Orderly.run {g : Gateway σ} (horder : Orderly g) (actions : List (Action σ)) :
    Orderly (g.run actions) :=
  Gateway.run_keeps (fun _ _ _ horder h => h.orderly horder) horder actions

/-! ## The exchanges -/

/-- A cycle sends its request after it has read the session, and once. -/
structure SendsOnce (g : Gateway σ) : Prop where
  /-- No cycle has sent two requests. -/
  once : ∀ number, g.exchanges number ≤ 1
  /-- A cycle that has not started, or has not read the session yet, has sent none. -/
  unsent : ∀ number, g.coordinator.settled ≤ number →
    (∀ cycle, g.coordinator.cycle? number = some cycle → cycle.stage = .reading) →
    g.exchanges number = 0
  /-- The requests are those of the refresh exchange. -/
  requests : ∀ number refreshToken request, .exchange number refreshToken request ∈ g.log →
    ∃ url, g.root.refreshUrl = .ok url ∧ request = Request.refresh url refreshToken

omit [Store σ] in
theorem sendsOnce_new (root : ApiRoot) (store : σ) : SendsOnce (.new root store) :=
  ⟨fun _ => Nat.zero_le _, fun _ _ _ => rfl, fun _ _ _ h => by simp [Gateway.new] at h⟩

omit [Store σ] in
/-- A gateway in which no request was sent meanwhile, and in which no more cycles are about to read,
has still sent each request once. -/
theorem SendsOnce.of_quiet {g g' : Gateway σ} (hg : SendsOnce g) (hroot : g'.root = g.root)
    (notices : List Notice) (hlog : g'.log = notices ++ g.log)
    (hquiet : ∀ notice ∈ notices, ∀ number, notice.isExchangeOf number = false)
    (hreading : ∀ number, g'.coordinator.settled ≤ number →
      (∀ cycle, g'.coordinator.cycle? number = some cycle → cycle.stage = .reading) →
      g.coordinator.settled ≤ number ∧
        ∀ cycle, g.coordinator.cycle? number = some cycle → cycle.stage = .reading) :
    SendsOnce g' := by
  have hcount : ∀ number, g'.exchanges number = g.exchanges number := by
    intro number
    have hzero : notices.countP (Notice.isExchangeOf number) = 0 :=
      List.countP_eq_zero.mpr fun notice hmem => by simp [hquiet notice hmem number]
    simp only [exchanges, hlog, List.countP_append, hzero, Nat.zero_add]
  refine ⟨?_, ?_, ?_⟩
  · intro number
    rw [hcount]
    exact hg.once number
  · intro number hsettled hcycle
    obtain ⟨hsettled', hcycle'⟩ := hreading number hsettled hcycle
    rw [hcount]
    exact hg.unsent number hsettled' hcycle'
  · intro number refreshToken request h
    rw [hroot]
    rw [hlog, List.mem_append] at h
    rcases h with h | h
    · have hfalse := hquiet _ h number
      simp [Notice.isExchangeOf] at hfalse
    · exact hg.requests number refreshToken request h

/-- No task comes back to reading the session. -/
theorem Work.stage_ne_reading {g : Gateway σ} {cycle : Cycle} {a : Action σ} {stage : Stage}
    {store : σ} {notices : List Notice} (h : Work g cycle a stage store notices) :
    stage ≠ .reading := by
  cases h <;> simp

omit [Store σ] in
/-- A cycle that sends its request has not sent one before. -/
theorem SendsOnce.send {g : Gateway σ} (hg : SendsOnce g) (horder : Orderly g) {cycle : Cycle}
    (hcycle : g.coordinator.cycle? cycle.number = some cycle) (hstage : cycle.stage = .reading)
    {session : Session} {refreshToken : String} {url : Url} {request : Request} (store : σ)
    (hurl : g.root.refreshUrl = .ok url) (hrequest : request = Request.refresh url refreshToken) :
    SendsOnce (g.worked cycle.number (.exchanging session request) store
      [.exchange cycle.number refreshToken request]) := by
  have hcount : ∀ number, (g.worked cycle.number (.exchanging session request) store
      [.exchange cycle.number refreshToken request]).exchanges number =
      (if cycle.number = number then 1 else 0) + g.exchanges number := by
    intro number
    simp only [exchanges, worked_log, List.countP_append, List.countP_singleton,
      Notice.isExchangeOf, decide_eq_true_eq]
  refine ⟨?_, ?_, ?_⟩
  · intro number
    rw [hcount]
    split
    -- The task is about to read and its cycle is not settled, so it has not sent before.
    · rename_i hnumber
      obtain ⟨-, -, -, -, hsettled, -⟩ := horder.coordinator.flight_of_cycle? hcycle
      have hunsent : g.exchanges number = 0 := by
        refine hg.unsent number (by omega) ?_
        intro other hother
        rw [← hnumber, hcycle] at hother
        obtain rfl := Option.some.inj hother
        exact hstage
      omega
    · have := hg.once number
      omega
  · intro number hsettled hreads
    rw [hcount]
    have hne : cycle.number ≠ number := by
      rintro rfl
      have hafter := hreads { cycle with stage := .exchanging session request }
        (Coordinator.cycle?_setStage_self hcycle _)
      cases hafter
    rw [if_neg hne, Nat.zero_add]
    exact hg.unsent number hsettled fun other hother =>
      Coordinator.reading_of_setStage (by simp) hreads hother
  · intro number refreshToken' request' h
    rw [worked_log, List.mem_append, List.mem_singleton] at h
    rcases h with h | h
    · cases h
      exact ⟨url, hurl, hrequest⟩
    · exact hg.requests number refreshToken' request' h

theorem Move.sendsOnce {g g' : Gateway σ} {a : Action σ} (h : Move g a g') (horder : Orderly g)
    (hg : SendsOnce g) : SendsOnce g' := by
  cases h with
  | idles => exact hg
  | comes purpose => exact hg.of_quiet rfl [] rfl (by simp) fun _ h1 h2 => ⟨h1, h2⟩
  | walks hcall hwalk =>
    refine hg.of_quiet rfl _ (moved_log ..) ?_ fun _ h1 h2 => ⟨h1, h2⟩
    intro notice hmem number
    have hconcerns := hwalk.concernsCall notice hmem
    cases notice <;> first | rfl | cases hconcerns
  | joins =>
    exact hg.of_quiet rfl [_] rfl (by simp [Notice.isExchangeOf]) fun _ h1 h2 => ⟨h1, h2⟩
  | begins hcall hidle =>
    refine hg.of_quiet rfl [] rfl (by simp) fun number hsettled _ => ⟨hsettled, ?_⟩
    intro cycle hcycle
    obtain ⟨flight, hflight, -⟩ := horder.coordinator.flight_of_cycle? hcycle
    rw [hidle] at hflight
    cases hflight
  | expires =>
    exact hg.of_quiet rfl [_] rfl (by simp [Notice.isExchangeOf]) fun _ h1 h2 => ⟨h1, h2⟩
  | works hcycle hwork =>
    have hne := hwork.stage_ne_reading
    cases hwork with
    | sends hstage _ _ hurl hrequest => exact hg.send horder hcycle hstage _ hurl hrequest
    | _ =>
      exact hg.of_quiet rfl [] rfl (by simp) fun _ h1 h2 =>
        ⟨h1, fun _ => Coordinator.reading_of_setStage hne h2⟩
  | fails =>
    exact hg.of_quiet rfl [] rfl (by simp) fun _ h1 h2 =>
      ⟨h1, fun _ => Coordinator.reading_of_setStage (by simp) h2⟩
  | settles hcycle =>
    refine hg.of_quiet (settle_root ..) [_] (settle_log ..) (by simp [Notice.isExchangeOf]) ?_
    intro number hsettled _
    rw [settle_coordinator] at hsettled
    have hlt : g.coordinator.settled < number := hsettled
    refine ⟨Nat.le_of_lt hlt, ?_⟩
    intro cycle hcycle
    obtain ⟨-, -, -, -, hsettled', -⟩ := horder.coordinator.flight_of_cycle? hcycle
    omega
  | touches htouch =>
    obtain ⟨hroot, hcoordinator, -, hlog⟩ := htouch.frame
    refine hg.of_quiet hroot [] hlog (by simp) ?_
    intro number h1 h2
    rw [hcoordinator] at h1 h2
    exact ⟨h1, h2⟩

/-! ## The settlements -/

/-- A move settles nothing, or it settles the cycle whose turn it is and nothing else happens. -/
theorem Move.settled_cases {g g' : Gateway σ} {a : Action σ} (h : Move g a g') (hg : Orderly g) :
    (g'.coordinator.settled = g.coordinator.settled ∧ ∃ notices, g'.log = notices ++ g.log ∧
      ∀ notice ∈ notices, notice.isSettlement = false) ∨
    ∃ queue result, g'.coordinator.settled = g.coordinator.settled + 1 ∧
      g'.log = .settled g.coordinator.settled queue result :: g.log := by
  cases h with
  | idles => exact .inl ⟨rfl, [], rfl, by simp⟩
  | comes => exact .inl ⟨rfl, [], rfl, by simp⟩
  | walks hcall hwalk =>
    refine .inl ⟨rfl, _, moved_log .., ?_⟩
    intro notice hmem
    have hconcerns := hwalk.concernsCall notice hmem
    cases notice <;> first | rfl | cases hconcerns
  | joins => exact .inl ⟨rfl, [_], rfl, by simp [Notice.isSettlement]⟩
  | begins => exact .inl ⟨rfl, [], rfl, by simp⟩
  | expires => exact .inl ⟨rfl, [_], rfl, by simp [Notice.isSettlement]⟩
  | works hcycle hwork =>
    refine .inl ⟨rfl, _, worked_log .., ?_⟩
    cases hwork <;> simp [Notice.isSettlement]
  | fails => exact .inl ⟨rfl, [], rfl, by simp⟩
  | @settles cycle result hcycle =>
    obtain ⟨-, -, -, -, hsettled, -⟩ := hg.coordinator.flight_of_cycle? hcycle
    refine .inr ⟨g.coordinator.queue, result, by simp [Coordinator.settle], ?_⟩
    rw [settle_log, hsettled]
  | touches htouch =>
    obtain ⟨-, hcoordinator, -, hlog⟩ := htouch.frame
    exact .inl ⟨by rw [hcoordinator], [], by simpa using hlog, by simp⟩

/-- The count of settled cycles never falls. -/
theorem Move.settled_le {g g' : Gateway σ} {a : Action σ} (h : Move g a g') (horder : Orderly g) :
    g.coordinator.settled ≤ g'.coordinator.settled := by
  rcases h.settled_cases horder with ⟨hsettled, -⟩ | ⟨-, -, hsettled, -⟩
  · omega
  · omega

/-- The coordinator counts the settlements that are noticed, of which each cycle has its own. -/
structure CountsSettlements (g : Gateway σ) : Prop where
  /-- The count is the number of settlements. -/
  all : g.settlements = g.coordinator.settled
  /-- Each cycle up to the count has settled once. -/
  each : ∀ number, g.settlementsOf number = if number < g.coordinator.settled then 1 else 0

omit [Store σ] in
theorem countsSettlements_new (root : ApiRoot) (store : σ) :
    CountsSettlements (.new root store) :=
  ⟨rfl, fun _ => rfl⟩

omit [Store σ] in
theorem isSettlementOf_eq_false {notice : Notice} (h : notice.isSettlement = false)
    (number : Nat) : notice.isSettlementOf number = false := by
  cases notice <;> first | rfl | cases h

theorem Move.countsSettlements {g g' : Gateway σ} {a : Action σ} (h : Move g a g')
    (horder : Orderly g) (hg : CountsSettlements g) : CountsSettlements g' := by
  rcases h.settled_cases horder with
    ⟨hsettled, notices, hlog, hquiet⟩ | ⟨queue, result, hsettled, hlog⟩
  · have hall : notices.countP Notice.isSettlement = 0 :=
      List.countP_eq_zero.mpr fun notice hmem => by simp [hquiet notice hmem]
    have heach : ∀ number, notices.countP (Notice.isSettlementOf number) = 0 := fun number =>
      List.countP_eq_zero.mpr fun notice hmem => by
        simp [isSettlementOf_eq_false (hquiet notice hmem) number]
    constructor
    · rw [settlements, hlog, List.countP_append, hall, Nat.zero_add, hsettled]
      exact hg.all
    · intro number
      rw [settlementsOf, hlog, List.countP_append, heach, Nat.zero_add, hsettled]
      exact hg.each number
  · constructor
    · rw [settlements, hlog, hsettled, List.countP_cons_of_pos rfl]
      exact congrArg (· + 1) hg.all
    · intro number
      have hbefore : g.log.countP (Notice.isSettlementOf number) =
          if number < g.coordinator.settled then 1 else 0 := hg.each number
      rw [settlementsOf, hlog, hsettled, List.countP_cons, hbefore]
      simp only [Notice.isSettlementOf, decide_eq_true_eq]
      split <;> split <;> split <;> omega

/-! ## No cycle gets stuck -/

/-- How many steps and answers the task of a cycle still needs at the most, until it is settled. -/
def turnsLeft (g : Gateway σ) (number : Nat) : Nat :=
  ((g.coordinator.cycle? number).map fun cycle => cycle.stage.turns).getD 0

omit [Store σ] in
theorem turnsLeft_of_cycle? {g : Gateway σ} {number : Nat} {cycle : Cycle}
    (hcycle : g.coordinator.cycle? number = some cycle) :
    g.turnsLeft number = cycle.stage.turns := by
  simp [turnsLeft, hcycle]

omit [Store σ] in
theorem turnsLeft_setStage {g g' : Gateway σ} {number : Nat} {cycle : Cycle} {stage : Stage}
    (hcycle : g.coordinator.cycle? number = some cycle)
    (hg' : g'.coordinator = g.coordinator.setStage number stage) :
    g'.turnsLeft number = stage.turns := by
  simp [turnsLeft, hg', Coordinator.cycle?_setStage_self hcycle]

/-- Every stage that a task goes on to is nearer to its end. -/
theorem Work.turns_lt {g : Gateway σ} {cycle : Cycle} {a : Action σ} {stage : Stage}
    {store : σ} {notices : List Notice} (h : Work g cycle a stage store notices) :
    stage.turns < cycle.stage.turns := by
  cases h <;> rename_i hstage _ <;> simp_all [Stage.turns]

omit [Store σ] in
theorem turnsLeft_setStage_le {g g' : Gateway σ} {cycle : Cycle} {stage : Stage}
    (hcycle : g.coordinator.cycle? cycle.number = some cycle)
    (hg' : g'.coordinator = g.coordinator.setStage cycle.number stage)
    (hstage : stage.turns ≤ cycle.stage.turns) (number : Nat) :
    g'.turnsLeft number ≤ g.turnsLeft number := by
  by_cases hnumber : number = cycle.number
  · subst hnumber
    rw [turnsLeft_setStage hcycle hg', turnsLeft_of_cycle? hcycle]
    exact hstage
  · cases hother : g.coordinator.cycle? number with
    | none => simp [turnsLeft, hg', Coordinator.cycle?_setStage, hother]
    | some other =>
      have hne : other.number ≠ cycle.number := by
        rw [number_of_cycle? hother]
        exact hnumber
      simp [turnsLeft, hg', Coordinator.cycle?_setStage, hother, hne]

/-- No move sets a cycle back that has been started. -/
theorem Move.turnsLeft_le {g g' : Gateway σ} {a : Action σ} (h : Move g a g') (hg : Orderly g)
    {number : Nat} (hnumber : number < g.coordinator.started) :
    g'.turnsLeft number ≤ g.turnsLeft number := by
  cases h with
  | @begins id _ rejected _ hcall hidle =>
    have hnone : (g.coordinator.start id rejected).cycle? number = none := by
      simp [Coordinator.cycle?, hg.coordinator.cycles_start hidle, Nat.ne_of_gt hnumber]
    simp [turnsLeft, hnone]
  | works hcycle hwork =>
    exact turnsLeft_setStage_le hcycle rfl (Nat.le_of_lt hwork.turns_lt) number
  | fails hcycle hstage =>
    exact turnsLeft_setStage_le hcycle rfl (by simp [hstage, Stage.turns]) number
  | @settles cycle _ hcycle =>
    have hnone : (g.coordinator.settle cycle.number).cycle? number = none := by
      simp [Coordinator.cycle?, hg.coordinator.cycles_settle hcycle]
    simp [turnsLeft, hnone]
  | touches htouch =>
    obtain ⟨-, hcoordinator, -, -⟩ := htouch.frame
    simp [turnsLeft, hcoordinator]
  | _ => exact Nat.le_refl _

theorem Move.started_le {g g' : Gateway σ} {a : Action σ} (h : Move g a g') :
    g.coordinator.started ≤ g'.coordinator.started := by
  cases h with
  | begins => exact Nat.le_succ _
  | settles => simp [Coordinator.settle]
  | touches htouch =>
    obtain ⟨-, hcoordinator, -, -⟩ := htouch.frame
    exact Nat.le_of_eq (by rw [hcoordinator])
  | _ => exact Nat.le_refl _

theorem beginExchange_coordinator (g : Gateway σ) (number : Nat) :
    ∃ stage : Stage, stage.turns < 5 ∧
      (g.beginExchange number).coordinator = g.coordinator.setStage number stage := by
  unfold beginExchange
  rcases Store.get g.store with ⟨outcome, store⟩
  match outcome with
  | .panicked => exact ⟨_, by simp [Stage.turns], rfl⟩
  | .failed message => exact ⟨_, by simp [Stage.turns], rfl⟩
  | .ok none => exact ⟨_, by simp [Stage.turns], rfl⟩
  | .ok (some session) =>
    simp only
    split
    · exact ⟨_, by simp [Stage.turns], rfl⟩
    · split
      · exact ⟨_, by simp [Stage.turns], rfl⟩
      · exact ⟨_, by simp [Stage.turns], rfl⟩

theorem storeRenewed_coordinator (g : Gateway σ) (number : Nat) (renewed : Session) :
    ∃ stage : Stage, stage.turns < 3 ∧
      (g.storeRenewed number renewed).coordinator = g.coordinator.setStage number stage := by
  unfold storeRenewed
  rcases Store.set renewed g.store with ⟨outcome, store⟩
  match outcome with
  | .ok () => exact ⟨_, by simp [Stage.turns], rfl⟩
  | .failed message => exact ⟨_, by simp [Stage.turns], rfl⟩
  | .panicked => exact ⟨_, by simp [Stage.turns], rfl⟩

theorem endFailed_coordinator (g : Gateway σ) (number : Nat) (rejected : String)
    (e : RefreshError) : ∃ stage : Stage, stage.turns < 2 ∧
      (g.endFailed number rejected e).coordinator = g.coordinator.setStage number stage := by
  obtain ⟨result, -, hends⟩ := g.endFailed_eq number rejected e
  refine ⟨.settling result, by simp [Stage.turns], ?_⟩
  rw [hends]
  rfl

/-- A turn brings a cycle nearer to its end, unless it waits for an answer. -/
theorem turnsLeft_advanceCycle {g : Gateway σ} (hg : Orderly g) {number : Nat}
    (hturns : g.turnsLeft number ≠ 4) :
    (g.step (.advanceCycle number)).turnsLeft number ≤ g.turnsLeft number - 1 := by
  simp only [step, advanceCycle]
  split
  · rename_i hcycle
    simp [turnsLeft, hcycle]
  · rename_i cycle hcycle
    rw [turnsLeft_of_cycle? hcycle] at hturns ⊢
    split
    · rename_i hstage
      obtain ⟨stage, hlt, hcoordinator⟩ := beginExchange_coordinator g number
      rw [turnsLeft_setStage hcycle hcoordinator, hstage]
      exact Nat.le_pred_of_lt hlt
    · rename_i session request hstage
      simp [hstage, Stage.turns] at hturns
    · rename_i renewed hstage
      obtain ⟨stage, hlt, hcoordinator⟩ := storeRenewed_coordinator g number renewed
      rw [turnsLeft_setStage hcycle hcoordinator, hstage]
      exact Nat.le_pred_of_lt hlt
    · rename_i e hstage
      obtain ⟨stage, hlt, hcoordinator⟩ := endFailed_coordinator g number cycle.rejected e
      rw [turnsLeft_setStage hcycle hcoordinator, hstage]
      exact Nat.le_pred_of_lt hlt
    · rename_i result hstage
      have hnumber := number_of_cycle? hcycle
      have hnone : (g.coordinator.settle number).cycle? number = none := by
        simp [Coordinator.cycle?, hg.coordinator.cycles_settle hcycle]
      simp [turnsLeft, hnone]

/-- An answer, or the time limit, brings a cycle on that waits for one. -/
theorem turnsLeft_answer {g : Gateway σ} {number : Nat} {a : Action σ} {delivery : Delivery}
    (ha : Answers number a delivery) (hturns : g.turnsLeft number = 4) :
    (g.step a).turnsLeft number ≤ 3 := by
  have hstep : g.step a = g.deliverRefresh number delivery := by
    rcases ha with rfl | ⟨rfl, rfl⟩
    · rfl
    · rfl
  rw [hstep]
  cases hcycle : g.coordinator.cycle? number with
  | none => simp [turnsLeft, hcycle] at hturns
  | some cycle =>
    obtain ⟨number', rejected, stage⟩ := cycle
    rw [turnsLeft_of_cycle? hcycle] at hturns
    match stage with
    | .exchanging session request =>
      unfold deliverRefresh
      simp only [hcycle]
      split
      · rw [turnsLeft_setStage hcycle rfl]
        simp [Stage.turns]
      · rw [turnsLeft_setStage hcycle rfl]
        simp [Stage.turns]
    | .reading => simp [Stage.turns] at hturns
    | .storing _ => simp [Stage.turns] at hturns
    | .failing _ => simp [Stage.turns] at hturns
    | .settling _ => simp [Stage.turns] at hturns

/-- A run in which the task of a cycle gets five turns among everything else that happens: one of
its own, an answer or the time limit of its exchange, and three more of its own. -/
def Course (number : Nat) (actions : List (Action σ)) : Prop :=
  ∃ a delivery, Answers number a delivery ∧
    [.advanceCycle number, a, .advanceCycle number, .advanceCycle number,
      .advanceCycle number].Sublist actions

/-- A cycle that has been started and needs at most so many turns until it is settled. -/
structure Nears (g : Gateway σ) (number turns : Nat) : Prop where
  /-- The gateway is in order. -/
  order : Orderly g
  /-- The cycle has been started. -/
  begun : number < g.coordinator.started
  /-- The cycle needs at most so many turns. -/
  turns_le : g.turnsLeft number ≤ turns

/-- No move takes a cycle away from its end. -/
theorem Move.nears {g g' : Gateway σ} {a : Action σ} (h : Move g a g') {number turns : Nat}
    (hg : Nears g number turns) : Nears g' number turns :=
  ⟨h.orderly hg.order, Nat.lt_of_lt_of_le hg.begun h.started_le,
    Nat.le_trans (h.turnsLeft_le hg.order hg.begun) hg.turns_le⟩

theorem Nears.run {g : Gateway σ} {number turns : Nat} (hg : Nears g number turns)
    (actions : List (Action σ)) : Nears (g.run actions) number turns :=
  run_keeps (fun _ _ _ h hmove => hmove.nears h) hg actions

/-- A run that contains an action which brings a cycle nearer to its end does so. -/
theorem Nears.run_of_sublist {g : Gateway σ} {number turns fewer : Nat} {a : Action σ}
    {rest actions : List (Action σ)} (hg : Nears g number turns)
    (hstep : ∀ g' : Gateway σ, Nears g' number turns → (g'.step a).turnsLeft number ≤ fewer)
    (hactions : (a :: rest).Sublist actions) :
    ∃ g' later, Nears g' number fewer ∧ rest.Sublist later ∧ g.run actions = g'.run later := by
  obtain ⟨first, second, rfl, hmem, hrest⟩ := List.cons_sublist_iff.mp hactions
  obtain ⟨before, after, rfl⟩ := List.append_of_mem hmem
  have hbefore : Nears (g.run before) number turns := hg.run before
  -- The turns before the action and after it keep the bound, and the action itself lowers it.
  have hmove := move_step (g.run before) a
  have hafter := hmove.nears hbefore
  refine ⟨(g.run before).step a, after ++ second,
    ⟨hafter.order, hafter.begun, hstep _ hbefore⟩, hrest.trans (List.sublist_append_right _ _), ?_⟩
  simp [run_append]

/-- A turn of its own brings a cycle nearer to its end, unless it may wait for an answer. -/
theorem Nears.advanceCycle {g : Gateway σ} {number turns : Nat} (hg : Nears g number (turns + 1))
    (hturns : turns ≠ 3) : (g.step (.advanceCycle number)).turnsLeft number ≤ turns := by
  have hle := hg.turns_le
  by_cases hwaits : g.turnsLeft number = 4
  · have hkept := (move_step g (.advanceCycle number)).turnsLeft_le hg.order hg.begun
    omega
  · have hless := turnsLeft_advanceCycle hg.order hwaits
    omega

theorem Nears.answer {g : Gateway σ} {number : Nat} {a : Action σ} {delivery : Delivery}
    (hg : Nears g number 4) (ha : Answers number a delivery) :
    (g.step a).turnsLeft number ≤ 3 := by
  have hle := hg.turns_le
  by_cases hwaits : g.turnsLeft number = 4
  · exact turnsLeft_answer ha hwaits
  · have hkept := (move_step g a).turnsLeft_le hg.order hg.begun
    omega

/-- A cycle that gets its turns is over after them. -/
theorem Nears.run_course {g : Gateway σ} {number : Nat} {actions : List (Action σ)}
    (hg : Nears g number 5) (hactions : Course number actions) :
    Nears (g.run actions) number 0 := by
  obtain ⟨a, delivery, ha, hactions⟩ := hactions
  obtain ⟨g₁, rest₁, h₁, hrest₁, hrun₁⟩ :=
    hg.run_of_sublist (fun g' hg' => hg'.advanceCycle (by decide)) hactions
  obtain ⟨g₂, rest₂, h₂, hrest₂, hrun₂⟩ := h₁.run_of_sublist (fun g' hg' => hg'.answer ha) hrest₁
  obtain ⟨g₃, rest₃, h₃, hrest₃, hrun₃⟩ :=
    h₂.run_of_sublist (fun g' hg' => hg'.advanceCycle (by decide)) hrest₂
  obtain ⟨g₄, rest₄, h₄, hrest₄, hrun₄⟩ :=
    h₃.run_of_sublist (fun g' hg' => hg'.advanceCycle (by decide)) hrest₃
  obtain ⟨g₅, rest₅, h₅, -, hrun₅⟩ :=
    h₄.run_of_sublist (fun g' hg' => hg'.advanceCycle (by decide)) hrest₄
  rw [hrun₁, hrun₂, hrun₃, hrun₄, hrun₅]
  exact h₅.run rest₅

/-! ## Single flight -/

/-- What every gateway in use keeps. -/
structure Sound (g : Gateway σ) : Prop where
  /-- The queue belongs to the only task. -/
  order : Orderly g
  /-- No cycle sends twice. -/
  sends : SendsOnce g
  /-- The settlements are counted. -/
  counts : CountsSettlements g

theorem sound_run (root : ApiRoot) (store : σ) (actions : List (Action σ)) :
    Sound ((Gateway.new root store).run actions) :=
  run_keeps
    (fun _ _ _ hg h => ⟨h.orderly hg.order, h.sendsOnce hg.order hg.sends,
      h.countsSettlements hg.order hg.counts⟩)
    ⟨orderly_new root store, sendsOnce_new root store, countsSettlements_new root store⟩ actions

theorem Move.root_eq {g g' : Gateway σ} {a : Action σ} (h : Move g a g') : g'.root = g.root := by
  cases h with
  | settles => exact settle_root ..
  | touches htouch => exact htouch.frame.1
  | _ => rfl

theorem root_run (g : Gateway σ) (actions : List (Action σ)) : (g.run actions).root = g.root :=
  run_keeps (fun _ _ _ hg h => h.root_eq.trans hg) rfl actions

omit [Store σ] in
/-- A cycle that has started and needs no turn any more is settled, and not in flight. -/
theorem Nears.settled {g : Gateway σ} {number : Nat} (hg : Nears g number 0) :
    number < g.coordinator.settled ∧ g.coordinator.cycle? number = none ∧
      ∀ flight, g.coordinator.flight = some flight → flight.cycle ≠ number := by
  have hbegun := hg.begun
  have hnone : g.coordinator.cycle? number = none := by
    cases hcycle : g.coordinator.cycle? number with
    | none => rfl
    | some cycle =>
      have hturns := hg.turns_le
      rw [turnsLeft_of_cycle? hcycle] at hturns
      cases hstage : cycle.stage <;> simp [hstage, Stage.turns] at hturns
  cases hflight : g.coordinator.flight with
  | none =>
    obtain ⟨-, hcounts⟩ := hg.order.coordinator.idle hflight
    exact ⟨by omega, hnone, fun _ h => by cases h⟩
  | some flight =>
    obtain ⟨cycle, hcycle, -⟩ := hg.order.coordinator.cycle?_of_flight hflight
    obtain ⟨-, -, -, hsettled, hstarted⟩ := hg.order.coordinator.running flight hflight
    have hne : flight.cycle ≠ number := by
      rintro rfl
      rw [hnone] at hcycle
      cases hcycle
    refine ⟨by omega, hnone, ?_⟩
    intro flight' hflight'
    rw [← Option.some.inj hflight']
    exact hne

/-- A cycle that gets its turns is settled after them, once, and not in flight any more. -/
theorem settled_of_course (root : ApiRoot) (store : σ) (before later : List (Action σ))
    {cycle : Cycle} (hmem : cycle ∈ ((Gateway.new root store).run before).coordinator.cycles)
    (hlater : Course cycle.number later) :
    let g := ((Gateway.new root store).run before).run later
    g.settlementsOf cycle.number = 1 ∧ g.coordinator.cycle? cycle.number = none ∧
      ∀ flight, g.coordinator.flight = some flight → flight.cycle ≠ cycle.number := by
  intro g
  have hbefore := (sound_run root store before).order
  have hg : Sound g := by
    have hrun := sound_run root store (before ++ later)
    rwa [run_append] at hrun
  have hnears : Nears ((Gateway.new root store).run before) cycle.number 5 := by
    rcases hbefore.coordinator.cases with
      ⟨-, hcycles, -⟩ | ⟨flight, only, -, hcycles, honly, -, hstarted⟩
    · rw [hcycles] at hmem
      cases hmem
    · rw [hcycles, List.mem_singleton] at hmem
      subst hmem
      have hcycle : ((Gateway.new root store).run before).coordinator.cycle? cycle.number =
          some cycle := by
        simp [Coordinator.cycle?, hcycles]
      refine ⟨hbefore, by omega, ?_⟩
      rw [turnsLeft_of_cycle? hcycle]
      exact cycle.stage.turns_le
  obtain ⟨hlt, hnone, hflights⟩ := (hnears.run_course hlater).settled
  exact ⟨by rw [hg.counts.each, if_pos hlt], hnone, hflights⟩

/-- In every state that a gateway can reach, whatever its store does, at most one exchange is
outstanding, there is a task exactly while a flight is on, the starts are the settlements and the
flight, nobody waits without a flight, each cycle has sent its one request at most once, and a cycle
that gets its turns is settled in the end. -/
theorem single_flight (root : ApiRoot) (store : σ) (actions : List (Action σ)) :
    let g := (Gateway.new root store).run actions
    g.coordinator.outstanding.length ≤ 1 ∧
    (g.coordinator.isRefreshing = true ↔ ∃ cycle, g.coordinator.cycles = [cycle]) ∧
    (g.coordinator.isRefreshing = false ↔ g.coordinator.cycles = []) ∧
    g.coordinator.started = g.settlements + (if g.coordinator.isRefreshing then 1 else 0) ∧
    (g.coordinator.isRefreshing = false → ∀ id, g.waitsOn id = none) ∧
    (∀ number, g.exchanges number ≤ 1) ∧
    (∀ number refreshToken request, .exchange number refreshToken request ∈ g.log →
      ∃ url, root.refreshUrl = .ok url ∧ request = Request.refresh url refreshToken) ∧
    ∀ cycle ∈ g.coordinator.cycles, ∀ later, Course cycle.number later →
      (g.run later).settlementsOf cycle.number = 1 ∧
      (g.run later).coordinator.cycle? cycle.number = none ∧
      ∀ flight, (g.run later).coordinator.flight = some flight → flight.cycle ≠ cycle.number := by
  intro g
  have hg : Sound g := sound_run root store actions
  have hroot : g.root = root := root_run _ actions
  have hsettled : g.settlements = g.coordinator.settled := hg.counts.all
  have hsends : (∀ number, g.exchanges number ≤ 1) ∧
      ∀ number refreshToken request, .exchange number refreshToken request ∈ g.log →
        ∃ url, root.refreshUrl = .ok url ∧ request = Request.refresh url refreshToken :=
    ⟨hg.sends.once, hroot ▸ hg.sends.requests⟩
  have hcourse := fun (cycle : Cycle) (hmem : cycle ∈ g.coordinator.cycles) later =>
    settled_of_course root store actions later hmem
  rcases hg.order.coordinator.cases with
    ⟨hflight, hcycles, hcounts⟩ | ⟨flight, cycle, hflight, hcycles, -, hcount, hstarted⟩
  · have hidle : g.coordinator.isRefreshing = false := by simp [Coordinator.isRefreshing, hflight]
    refine ⟨by simp [Coordinator.outstanding, hcycles], by simp [hidle, hcycles],
      by simp [hidle, hcycles], by simp [hidle, hsettled, hcounts], ?_, hsends.1,
      hsends.2, hcourse⟩
    intro _ id
    cases hwaits : g.waitsOn id with
    | none => rfl
    | some number =>
      obtain ⟨flight, hsome, -⟩ := hg.order.waits id number hwaits
      rw [hflight] at hsome
      cases hsome
  · have hrunning : g.coordinator.isRefreshing = true := by simp [Coordinator.isRefreshing, hflight]
    have hone : g.coordinator.outstanding.length ≤ 1 := by
      rw [Coordinator.outstanding, hcycles]
      exact List.length_filterMap_le _ _
    refine ⟨hone, by simp [hrunning, hcycles], by simp [hrunning, hcycles], ?_,
      fun hidle => by simp [hrunning] at hidle, hsends.1, hsends.2, hcourse⟩
    rw [hrunning, hsettled, hcount, hstarted]
    rfl

/-- A caller starts a cycle, whose request breaks off at its time limit: the cycle is settled. -/
theorem single_flight_of_one_caller :
    let g := (Gateway.new ⟨"http://[::1]"⟩ (Cell.mk (some ⟨"A1", some "R1", none⟩))).run
      [.start (.token "A1"), .advance 0, .advance 0, .advance 0]
    let later : List (Action Cell) := [.advanceCycle 0, .expireRefresh 0, .advanceCycle 0,
      .advanceCycle 0, .advanceCycle 0]
    (⟨0, "A1", .reading⟩ : Cycle) ∈ g.coordinator.cycles ∧ Course 0 later ∧
      (g.run later).settlementsOf 0 = 1 := by
  intro g later
  have hmem : (⟨0, "A1", .reading⟩ : Cycle) ∈ g.coordinator.cycles := List.mem_singleton.mpr rfl
  have hlater : Course 0 later := ⟨.expireRefresh 0, .dropped, .inr ⟨rfl, rfl⟩, List.Sublist.refl _⟩
  obtain ⟨-, -, -, -, -, -, -, hcourse⟩ :=
    single_flight ⟨"http://[::1]"⟩ (Cell.mk (some ⟨"A1", some "R1", none⟩))
      [.start (.token "A1"), .advance 0, .advance 0, .advance 0]
  exact ⟨hmem, hlater, (hcourse _ hmem later hlater).1⟩

end Gateway

end BearerClient
