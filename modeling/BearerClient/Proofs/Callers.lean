import BearerClient.Proofs.Moves

/-!
# Callers on their way

A caller goes through its phases in one direction: it may look at the store again and again before
it takes the lock for good, but it queues at most once, is told at most one result, and does not
come back from there. This module says what the moves do to the phases of all callers.
-/

namespace BearerClient

/-- The cycle that a caller in the phase waits for. -/
def Phase.waitsOn : Phase → Option Nat
  | .asking _ (.queued cycle) => some cycle
  | _ => none

/-- The result that a caller in the phase has been told. -/
def Phase.result? : Phase → Option (Except RefreshError String)
  | .asking _ (.told result) => some result
  | _ => none

/-- How far a phase is on the way of a caller. -/
def Phase.rank : Phase → Nat
  | .opening => 0
  | .first _ _ => 1
  | .asking _ (.queued _) => 3
  | .asking _ (.told _) => 4
  | .asking _ _ => 2
  | .second _ _ => 5
  | .expiring _ _ => 6
  | .ended _ | .abandoned => 7

/-- The phase of a caller after a cycle has told its result to it. -/
def Phase.hear (result : Except RefreshError String) : Phase → Phase
  | .asking rejected (.queued _) => .asking rejected (.told result)
  | phase => phase

/-- The ends of a caller that did not wait for the result of a cycle. -/
def Phase.isGivenUp : Phase → Bool
  | .abandoned | .ended (.payload (.error (.timeout _))) => true
  | _ => false

@[simp] theorem Phase.hear_hear (result : Except RefreshError String) (phase : Phase) :
    (phase.hear result).hear result = phase.hear result := by
  cases phase with
  | asking rejected progress => cases progress <;> rfl
  | _ => rfl

/-- Whoever has heard a result does not wait. -/
theorem Phase.waitsOn_hear (result : Except RefreshError String) (phase : Phase) :
    (phase.hear result).waitsOn = none := by
  cases phase with
  | asking rejected progress => cases progress <;> rfl
  | _ => rfl

theorem Phase.waitsOn_eq_some {phase : Phase} {cycle : Nat} :
    phase.waitsOn = some cycle ↔ ∃ rejected, phase = .asking rejected (.queued cycle) := by
  unfold waitsOn
  split <;> simp_all

theorem Phase.result?_eq_some {phase : Phase} {result : Except RefreshError String} :
    phase.result? = some result ↔ ∃ rejected, phase = .asking rejected (.told result) := by
  unfold result?
  split <;> simp_all

namespace Gateway

variable {σ : Type}

/-- The cycle that a caller waits for. -/
def waitsOn (g : Gateway σ) (id : CallId) : Option Nat := (g.phase? id).bind Phase.waitsOn

/-- The result that a caller has been told and has not used yet. -/
def result? (g : Gateway σ) (id : CallId) : Option (Except RefreshError String) :=
  (g.phase? id).bind Phase.result?

theorem waitsOn_eq_some {g : Gateway σ} {id : CallId} {cycle : Nat} :
    g.waitsOn id = some cycle ↔
      ∃ rejected, g.phase? id = some (.asking rejected (.queued cycle)) := by
  simp only [waitsOn, Option.bind_eq_some_iff, Phase.waitsOn_eq_some]
  constructor
  · rintro ⟨phase, hphase, rejected, rfl⟩
    exact ⟨rejected, hphase⟩
  · rintro ⟨rejected, hphase⟩
    exact ⟨_, hphase, rejected, rfl⟩

theorem result?_eq_some {g : Gateway σ} {id : CallId} {result : Except RefreshError String} :
    g.result? id = some result ↔
      ∃ rejected, g.phase? id = some (.asking rejected (.told result)) := by
  simp only [Gateway.result?, Option.bind_eq_some_iff, Phase.result?_eq_some]
  constructor
  · rintro ⟨phase, hphase, rejected, rfl⟩
    exact ⟨rejected, hphase⟩
  · rintro ⟨rejected, hphase⟩
    exact ⟨_, hphase, rejected, rfl⟩

/-! ## What the moves do to the phases -/

@[simp] theorem phase?_note (notice : Notice) (g : Gateway σ) (id : CallId) :
    (g.note notice).phase? id = g.phase? id := rfl

@[simp] theorem phase?_coordinatedBy (c : Coordinator) (g : Gateway σ) (id : CallId) :
    (g.coordinatedBy c).phase? id = g.phase? id := rfl

@[simp] theorem waitsOn_coordinatedBy (c : Coordinator) (g : Gateway σ) (id : CallId) :
    (g.coordinatedBy c).waitsOn id = g.waitsOn id := rfl

theorem phase?_of_calls {g : Gateway σ} {id : CallId} {call : Call}
    (hcall : g.calls[id]? = some call) : g.phase? id = some call.phase := by
  simp [phase?, hcall]

/-- Only the caller that goes on changes its phase. -/
theorem phase?_moved {g : Gateway σ} {id : CallId} {call : Call}
    (hcall : g.calls[id]? = some call) (phase : Phase) (store : σ) (notices : List Notice)
    (other : CallId) : (g.moved id phase store notices).phase? other =
      if other = id then some phase else g.phase? other := by
  simp only [phase?, moved_calls, List.getElem?_modify]
  by_cases hid : other = id
  · subst hid
    simp [hcall]
  · have hid' : ¬ id = other := fun h => hid h.symm
    simp [hid, hid']

theorem phase?_start (g : Gateway σ) (purpose : Purpose) (id : CallId) :
    (g.start purpose).phase? id =
      if id = g.calls.length then some (Call.new purpose).phase else g.phase? id := by
  simp only [phase?, start, List.getElem?_append]
  by_cases hid : id = g.calls.length
  · simp [hid]
  · by_cases hlt : id < g.calls.length
    · simp [hid, hlt]
    · have hge : g.calls.length ≤ id := Nat.le_of_not_lt hlt
      have hgt : g.calls.length < id := Nat.lt_of_le_of_ne hge (Ne.symm hid)
      have hpos : id - g.calls.length ≠ 0 := Nat.sub_ne_zero_of_lt hgt
      simp [hid, hlt, hpos]

theorem waitsOn_of_calls {g g' : Gateway σ} (h : g'.calls = g.calls) (id : CallId) :
    g'.waitsOn id = g.waitsOn id := by
  simp [waitsOn, phase?, h]

theorem waitsOn_moved {g : Gateway σ} {id : CallId} {call : Call}
    (hcall : g.calls[id]? = some call) (phase : Phase) (store : σ) (notices : List Notice)
    (other : CallId) : (g.moved id phase store notices).waitsOn other =
      if other = id then phase.waitsOn else g.waitsOn other := by
  unfold waitsOn
  rw [phase?_moved hcall]
  split <;> rfl

theorem waitsOn_start (g : Gateway σ) (purpose : Purpose) (id : CallId) :
    (g.start purpose).waitsOn id = g.waitsOn id := by
  unfold waitsOn
  rw [phase?_start]
  split
  · rename_i hid
    have hnone : g.phase? id = none := by simp [phase?, hid]
    rw [hnone]
    cases purpose <;> rfl
  · rfl

/-- One caller in the queue is told the result. -/
theorem phase?_tell (result : Except RefreshError String) (g : Gateway σ) (id other : CallId) :
    (g.tell result id).phase? other =
      if other = id then (g.phase? id).map (Phase.hear result) else g.phase? other := by
  unfold tell
  split
  · rename_i purpose rejected cycle hcall
    have hmoved := phase?_moved hcall (.asking rejected (.told result)) g.store [] other
    rw [phase?_of_calls hcall]
    exact hmoved
  · rename_i hcall
    by_cases hid : other = id
    · subst hid
      simp only [if_true]
      cases hphase : g.calls[other]? with
      | none => simp [phase?, hphase]
      | some call =>
        obtain ⟨purpose, phase⟩ := call
        rw [phase?_of_calls hphase]
        simp only [Option.map_some, Option.some.injEq]
        unfold Phase.hear
        split
        · rename_i rejected cycle
          exact absurd hphase (hcall purpose rejected cycle)
        · rfl
    · simp [hid]

/-- Telling the queue changes nothing but the callers. -/
theorem foldl_tell (result : Except RefreshError String) (queue : List CallId) (g : Gateway σ) :
    queue.foldl (tell result) g = { g with calls := (queue.foldl (tell result) g).calls } := by
  induction queue generalizing g with
  | nil => rfl
  | cons id queue ih =>
    have htell : g.tell result id = { g with calls := (g.tell result id).calls } := by
      unfold tell
      split <;> rfl
    rw [List.foldl_cons, ih, htell]

/-- Everyone in the queue is told the result. -/
theorem phase?_foldl_tell (result : Except RefreshError String) (queue : List CallId)
    (g : Gateway σ) (id : CallId) : (queue.foldl (tell result) g).phase? id =
      if id ∈ queue then (g.phase? id).map (Phase.hear result) else g.phase? id := by
  induction queue generalizing g with
  | nil => simp
  | cons head queue ih =>
    rw [List.foldl_cons, ih, phase?_tell]
    by_cases hhead : id = head
    · subst hhead
      by_cases hmem : id ∈ queue
      · simp [hmem, Option.map_map, Function.comp_def]
      · simp [hmem]
    · by_cases hmem : id ∈ queue
      · simp [hhead, hmem]
      · simp [hhead, hmem]

section Settle

variable (number : Nat) (result : Except RefreshError String) (g : Gateway σ)

theorem settle_eq : g.settle number result =
    { g with
      coordinator := g.coordinator.settle number
      calls := (g.settle number result).calls
      log := .settled number g.coordinator.queue result :: g.log } := by
  unfold settle
  simp only [note]
  rw [foldl_tell]

@[simp] theorem settle_root : (g.settle number result).root = g.root := by rw [settle_eq]

@[simp] theorem settle_store : (g.settle number result).store = g.store := by rw [settle_eq]

@[simp] theorem settle_invalidator : (g.settle number result).invalidator = g.invalidator := by
  rw [settle_eq]

@[simp] theorem settle_coordinator :
    (g.settle number result).coordinator = g.coordinator.settle number := by rw [settle_eq]

@[simp] theorem settle_log : (g.settle number result).log =
    .settled number g.coordinator.queue result :: g.log := by rw [settle_eq]

/-- A settlement tells the result to the queue, and leaves everyone else. -/
theorem phase?_settle (id : CallId) : (g.settle number result).phase? id =
    if id ∈ g.coordinator.queue then (g.phase? id).map (Phase.hear result) else g.phase? id := by
  unfold settle
  rw [phase?_note, phase?_foldl_tell]
  rfl

/-- After a settlement nobody in the queue waits. -/
theorem waitsOn_settle (id : CallId) : (g.settle number result).waitsOn id =
    if id ∈ g.coordinator.queue then none else g.waitsOn id := by
  unfold waitsOn
  rw [phase?_settle]
  split
  · cases g.phase? id with
    | none => rfl
    | some phase => exact Phase.waitsOn_hear result phase
  · rfl

end Settle

/-! ## The way of a caller -/

variable [Store σ]

theorem Attempted.waitsOn_eq_none {root : ApiRoot} {id : CallId} {d : Descriptor} {token : String}
    {next : Request → Phase} {phase : Phase} {notices : List Notice}
    (h : Attempted root id d token next phase notices)
    (hnext : ∀ request, (next request).waitsOn = none) : phase.waitsOn = none := by
  cases h with
  | sent => exact hnext _
  | unbuilt => rfl
  | unaddressed => rfl

/-- Nobody gets into a queue by walking. -/
theorem Walk.waitsOn_eq_none {g : Gateway σ} {id : CallId} {call : Call} {a : Action σ}
    {phase : Phase} {store : σ} {notices : List Notice}
    (h : Walk g id call a phase store notices) : phase.waitsOn = none := by
  cases h with
  | opens _ hattempt => exact hattempt.waitsOn_eq_none fun _ => rfl
  | retries hattempt => exact hattempt.waitsOn_eq_none fun _ => rfl
  | _ => rfl

/-- An attempt brings its caller at least as far as the phase in which it is sent. -/
theorem Attempted.le_rank {root : ApiRoot} {id : CallId} {d : Descriptor} {token : String}
    {next : Request → Phase} {phase : Phase} {notices : List Notice} {rank : Nat}
    (h : Attempted root id d token next phase notices)
    (hnext : ∀ request, (next request).rank = rank) (hrank : rank ≤ 7) : rank ≤ phase.rank := by
  cases h with
  | sent => exact Nat.le_of_eq (hnext _).symm
  | unbuilt => exact hrank
  | unaddressed => exact hrank

theorem Phase.rank_le (phase : Phase) : phase.rank ≤ 7 := by
  unfold Phase.rank
  split <;> omega

/-- Walking never leads back. -/
theorem Walk.rank_le {g : Gateway σ} {id : CallId} {call : Call} {a : Action σ}
    {phase : Phase} {store : σ} {notices : List Notice}
    (h : Walk g id call a phase store notices) : call.phase.rank ≤ phase.rank := by
  cases h with
  | opens _ hattempt => exact Nat.zero_le _
  | retries hattempt =>
    have hrank : 5 ≤ phase.rank := hattempt.le_rank (fun _ => rfl) (by decide)
    exact Nat.le_trans (by simp [Phase.rank]) hrank
  | isCutOff => exact Phase.rank_le _
  | isAnswered => exact Phase.rank_le _
  | timesOut => exact Phase.rank_le _
  | isGivenUp => exact Phase.rank_le _
  | _ => simp [Phase.rank]

end Gateway

end BearerClient
