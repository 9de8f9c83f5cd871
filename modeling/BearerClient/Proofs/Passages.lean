import BearerClient.Proofs.SingleFlight
import Mathlib.Data.List.Induction

/-!
# The passages of one caller

What a move may do to the phase of one caller, whoever makes the move. Most moves leave the caller
where it is; the caller itself goes on, or the cycle that it waits for tells its result. The main
statement is `Move.passage`.
-/

namespace BearerClient

/-- The attempt that a caller in the phase waits for the answer to. -/
def Phase.attempt? : Phase → Option (String × Request)
  | .first token request | .second token request => some (token, request)
  | _ => none

namespace Gateway

variable {σ : Type} [Store σ]

/-- What a move may do to the phase of one caller. -/
inductive Passage (g : Gateway σ) (a : Action σ) (g' : Gateway σ) (id : CallId) :
    Phase → Phase → Prop where
  /-- The caller stays where it is. -/
  | stays (phase : Phase) : Passage g a g' id phase phase
  /-- The caller goes on by itself or with an answer, and this is all that happens. -/
  | walks {call : Call} {phase : Phase} {store : σ} {notices : List Notice}
      (hwalk : Walk g id call a phase store notices) (hcall : g.calls[id]? = some call)
      (hafter : g' = g.moved id phase store notices) : Passage g a g' id call.phase phase
  /-- The caller gets a place in the queue of a cycle. -/
  | queues {rejected : String} {settled : Nat} {current : Option Session} (cycle : Nat) :
      Passage g a g' id (.asking rejected (.seen settled current))
        (.asking rejected (.queued cycle))
  /-- The caller ends the session, and ends with it. -/
  | ends {token reason : String} {answer : Answer}
      (hanswer : answer = .panicked ∨ answer = .payload (.error .sessionExpired))
      (hby : a = .advance id) :
      Passage g a g' id (.expiring token reason) (.ended answer)
  /-- The cycle that the caller waits for tells its result. -/
  | hears {cycle : Cycle} {rejected : String} {result : Except RefreshError String}
      (hcycle : g.coordinator.cycle? cycle.number = some cycle)
      (hstage : cycle.stage = .settling result) (hafter : g' = g.settle cycle.number result) :
      Passage g a g' id (.asking rejected (.queued cycle.number)) (.asking rejected (.told result))

/-- A caller that queues gets a place; the others stay where they are. -/
theorem passage_of_queues {g g' : Gateway σ} {a : Action σ} {id : CallId} {purpose : Purpose}
    {rejected : String} {settled : Nat} {current : Option Session}
    (hcall : g.calls[id]? = some ⟨purpose, .asking rejected (.seen settled current)⟩)
    (cycle : Nat) (notices : List Notice)
    (hafter : ∀ other, g'.phase? other =
      (g.moved id (.asking rejected (.queued cycle)) g.store notices).phase? other)
    {other : CallId} {phase : Phase} (hphase : g.phase? other = some phase) :
    ∃ phase', g'.phase? other = some phase' ∧ Passage g a g' other phase phase' := by
  rw [hafter, phase?_moved hcall]
  by_cases hother : other = id
  · subst hother
    rw [phase?_of_calls hcall] at hphase
    obtain rfl := Option.some.inj hphase
    exact ⟨_, if_pos rfl, .queues cycle⟩
  · exact ⟨phase, by rw [if_neg hother, hphase], .stays phase⟩

/-- Every move takes a caller from its phase to one of those that it may go to. -/
theorem Move.passage {g g' : Gateway σ} {a : Action σ} (h : Move g a g') (horder : Orderly g)
    {id : CallId} {phase : Phase} (hphase : g.phase? id = some phase) :
    ∃ phase', g'.phase? id = some phase' ∧ Passage g a g' id phase phase' := by
  cases h with
  | idles => exact ⟨phase, hphase, .stays phase⟩
  | comes purpose =>
    have hne : id ≠ g.calls.length := by
      rintro rfl
      simp [phase?] at hphase
    exact ⟨phase, by rw [phase?_start, if_neg hne, hphase], .stays phase⟩
  | @walks _ walker _ after _ _ hcall hwalk =>
    rw [phase?_moved hcall]
    by_cases hid : id = walker
    · subst hid
      rw [phase?_of_calls hcall] at hphase
      obtain rfl := Option.some.inj hphase
      exact ⟨after, if_pos rfl, .walks hwalk hcall rfl⟩
    · exact ⟨phase, by rw [if_neg hid, hphase], .stays phase⟩
  | joins hcall hflight =>
    exact passage_of_queues hcall _ _ (phase?_coordinatedBy _ _) hphase
  | begins hcall => exact passage_of_queues hcall _ _ (phase?_coordinatedBy _ _) hphase
  | @expires ender _ token reason answer hcall hanswer =>
    have hphases : g.phase? id = (g.invalidate token reason).2.phase? id := rfl
    rw [phase?_moved (by exact hcall)]
    by_cases hid : id = ender
    · subst hid
      rw [phase?_of_calls hcall] at hphase
      obtain rfl := Option.some.inj hphase
      refine ⟨_, if_pos rfl, .ends ?_ rfl⟩
      rw [hanswer]
      split
      · exact .inl rfl
      · exact .inr rfl
    · exact ⟨phase, by rw [if_neg hid, ← hphases, hphase], .stays phase⟩
  | works => exact ⟨phase, hphase, .stays phase⟩
  | fails => exact ⟨phase, hphase, .stays phase⟩
  | @settles cycle result hcycle hstage =>
    rw [phase?_settle]
    cases hwaits : phase.waitsOn with
    | none =>
      have hhear : phase.hear result = phase := by
        unfold Phase.hear
        split
        · cases hwaits
        · rfl
      refine ⟨phase, ?_, .stays phase⟩
      split
      · rw [hphase, Option.map_some, hhear]
      · exact hphase
    | some number =>
      obtain ⟨rejected, rfl⟩ := Phase.waitsOn_eq_some.mp hwaits
      obtain ⟨flight, hflight, hnumber, hmem⟩ :=
        horder.waits id number (waitsOn_eq_some.mpr ⟨rejected, hphase⟩)
      obtain ⟨flight', hflight', hnumber', -⟩ := horder.coordinator.flight_of_cycle? hcycle
      obtain rfl : flight = flight' := Option.some.inj (hflight.symm.trans hflight')
      have hqueue : id ∈ g.coordinator.queue := by simpa [Coordinator.queue, hflight] using hmem
      obtain rfl : cycle.number = number := hnumber'.symm.trans hnumber
      refine ⟨.asking rejected (.told result), ?_, .hears hcycle hstage rfl⟩
      rw [if_pos hqueue, hphase]
      rfl
  | touches htouch =>
    obtain ⟨-, -, hcalls, -⟩ := htouch.frame
    exact ⟨phase, by rw [phase?, hcalls]; exact hphase, .stays phase⟩

omit [Store σ] in
/-- A caller that goes on does not bring another one. -/
theorem phase?_moved_eq_none {g : Gateway σ} {walker id : CallId} {call : Call}
    (hcall : g.calls[walker]? = some call) (hbefore : g.phase? id = none) (phase : Phase)
    (store : σ) (notices : List Notice) :
    (g.moved walker phase store notices).phase? id = none := by
  have hne : id ≠ walker := by
    rintro rfl
    rw [phase?_of_calls hcall] at hbefore
    cases hbefore
  rw [phase?_moved hcall, if_neg hne, hbefore]

/-- Whoever was not there before a move is not there after it, or has just come. -/
theorem Move.newcomer {g g' : Gateway σ} {a : Action σ} (h : Move g a g') {id : CallId}
    {phase : Phase} (hbefore : g.phase? id = none) (hafter : g'.phase? id = some phase) :
    ∃ purpose, a = .start purpose ∧ phase = (Call.new purpose).phase := by
  have hnone : g'.phase? id = none →
      ∃ purpose, a = .start purpose ∧ phase = (Call.new purpose).phase := by
    intro hnone
    rw [hnone] at hafter
    cases hafter
  cases h with
  | idles => exact hnone hbefore
  | comes purpose =>
    rw [phase?_start] at hafter
    split at hafter
    · exact ⟨purpose, rfl, (Option.some.inj hafter).symm⟩
    · rw [hbefore] at hafter
      cases hafter
  | walks hcall => exact hnone (phase?_moved_eq_none hcall hbefore _ _ _)
  | joins hcall =>
    rw [phase?_coordinatedBy] at hafter hnone
    exact hnone (phase?_moved_eq_none hcall hbefore _ _ _)
  | begins hcall =>
    rw [phase?_coordinatedBy] at hafter hnone
    exact hnone (phase?_moved_eq_none hcall hbefore _ _ _)
  | @expires ender _ token reason _ hcall =>
    have hcall' : (g.invalidate token reason).2.calls[ender]? = some _ := hcall
    exact hnone (phase?_moved_eq_none hcall' hbefore _ _ _)
  | works => exact hnone hbefore
  | fails => exact hnone hbefore
  | settles =>
    refine hnone ?_
    rw [phase?_settle, hbefore]
    split
    · rfl
    · rfl
  | touches htouch =>
    obtain ⟨-, -, hcalls, -⟩ := htouch.frame
    exact hnone (by rw [phase?, hcalls]; exact hbefore)

/-- A caller that is there after a move has just come, or has made a passage. -/
theorem Move.phase_cases {g g' : Gateway σ} {a : Action σ} (h : Move g a g') (horder : Orderly g)
    {id : CallId} {phase : Phase} (hphase : g'.phase? id = some phase) :
    (∃ purpose, a = .start purpose ∧ phase = (Call.new purpose).phase) ∨
      ∃ before, g.phase? id = some before ∧ Passage g a g' id before phase := by
  cases hbefore : g.phase? id with
  | none => exact .inl (h.newcomer hbefore hphase)
  | some before =>
    obtain ⟨phase', hphase', hpassage⟩ := h.passage horder hbefore
    obtain rfl := Option.some.inj (hphase.symm.trans hphase')
    exact .inr ⟨before, rfl, hpassage⟩

/-! ## Callers that have their answer -/

/-- Only a caller without an answer goes on. -/
theorem Walk.rank_lt {g : Gateway σ} {id : CallId} {call : Call} {a : Action σ} {phase : Phase}
    {store : σ} {notices : List Notice} (h : Walk g id call a phase store notices) :
    call.phase.rank < 7 := by
  have hwaiting : ∀ call : Call, call.isWaiting = true → call.phase.rank < 7 := by
    intro call hwaits
    unfold Call.isWaiting at hwaits
    split at hwaits
    · rename_i hphase
      simp [hphase, Phase.rank]
    · rename_i hphase
      simp [hphase, Phase.rank]
    · rename_i hphase
      simp [hphase, Phase.rank]
    · cases hwaits
  have houtstanding : ∀ (call : Call) (request : Request), call.outstanding? = some request →
      call.phase.rank < 7 := by
    intro call request hrequest
    unfold Call.outstanding? at hrequest
    split at hrequest
    · rename_i hphase
      simp [hphase, Phase.rank]
    · rename_i hphase
      simp [hphase, Phase.rank]
    · cases hrequest
  cases h with
  | isCutOff hphase => exact houtstanding _ _ hphase
  | isAnswered hphase => exact houtstanding _ _ hphase
  | timesOut hwaits => exact hwaiting _ hwaits
  | isGivenUp hwaits => exact hwaiting _ hwaits
  | _ => simp [Phase.rank]

/-- Nobody goes back. -/
theorem Passage.rank_le {g g' : Gateway σ} {a : Action σ} {id : CallId} {before after : Phase}
    (h : Passage g a g' id before after) : before.rank ≤ after.rank := by
  cases h with
  | stays => exact Nat.le_refl _
  | walks hwalk => exact hwalk.rank_le
  | queues => simp [Phase.rank]
  | ends => simp [Phase.rank]
  | hears => simp [Phase.rank]

/-- A caller keeps its answer. -/
theorem ended_run {g : Gateway σ} (horder : Orderly g) {id : CallId} {answer : Answer}
    (hended : g.phase? id = some (.ended answer)) (actions : List (Action σ)) :
    (g.run actions).phase? id = some (.ended answer) := by
  refine (horder.run_keeps (P := fun g => g.phase? id = some (.ended answer)) hended ?_ actions).2
  intro g a g' horder hended hmove
  obtain ⟨phase', hphase', hpassage⟩ := hmove.passage horder hended
  generalize hbefore : Phase.ended answer = before at hpassage
  rw [hphase']
  cases hpassage with
  | stays => rfl
  | walks hwalk =>
    have hlt := hwalk.rank_lt
    rw [← hbefore] at hlt
    exact absurd hlt (Nat.lt_irrefl 7)
  | queues => cases hbefore
  | ends => cases hbefore
  | hears => cases hbefore

/-! ## What a caller is after -/

/-- What a caller is after, if there is such a caller. -/
def purpose? (g : Gateway σ) (id : CallId) : Option Purpose := g.calls[id]?.map Call.purpose

omit [Store σ] in
theorem purpose?_of_calls {g : Gateway σ} {id : CallId} {call : Call}
    (hcall : g.calls[id]? = some call) : g.purpose? id = some call.purpose := by
  simp [purpose?, hcall]

omit [Store σ] in
theorem calls_of_phase? {g : Gateway σ} {id : CallId} {purpose : Purpose} {phase : Phase}
    (hphase : g.phase? id = some phase) (hpurpose : g.purpose? id = some purpose) :
    g.calls[id]? = some ⟨purpose, phase⟩ := by
  obtain ⟨call, hcall, rfl⟩ := Option.map_eq_some_iff.mp hphase
  obtain rfl : call.purpose = purpose :=
    Option.some.inj ((purpose?_of_calls hcall).symm.trans hpurpose)
  exact hcall

omit [Store σ] in
/-- A caller that goes on is after the same as before. -/
theorem purpose?_setPhase (g : Gateway σ) (id : CallId) (phase : Phase) (other : CallId) :
    (g.setPhase id phase).purpose? other = g.purpose? other := by
  simp only [purpose?, setPhase, List.getElem?_modify]
  cases g.calls[other]? with
  | none => rfl
  | some call => by_cases hid : id = other <;> simp [hid]

omit [Store σ] in
theorem purpose?_foldl_tell (result : Except RefreshError String) (queue : List CallId)
    (g : Gateway σ) (id : CallId) : (queue.foldl (tell result) g).purpose? id = g.purpose? id := by
  induction queue generalizing g with
  | nil => rfl
  | cons head queue ih =>
    rw [List.foldl_cons, ih]
    unfold tell
    split
    · exact purpose?_setPhase ..
    · rfl

omit [Store σ] in
theorem purpose?_start (g : Gateway σ) (purpose : Purpose) (id : CallId) :
    (g.start purpose).purpose? id =
      if id = g.calls.length then some purpose else g.purpose? id := by
  simp only [purpose?, start, List.getElem?_append]
  by_cases hlt : id < g.calls.length
  · have hne : id ≠ g.calls.length := Nat.ne_of_lt hlt
    simp [hlt, hne]
  · by_cases heq : id = g.calls.length
    · simp [heq, Call.new]
    · have hgt : g.calls.length < id := Nat.lt_of_le_of_ne (Nat.le_of_not_lt hlt) (Ne.symm heq)
      have hpos : id - g.calls.length ≠ 0 := Nat.sub_ne_zero_of_lt hgt
      simp [hlt, heq, hpos]

/-- A caller is after what it was after before the move, or it has just come. -/
theorem Move.purpose_cases {g g' : Gateway σ} {a : Action σ} (h : Move g a g') {id : CallId}
    {purpose : Purpose} (hafter : g'.purpose? id = some purpose) :
    g.purpose? id = some purpose ∨ a = .start purpose := by
  cases h with
  | comes came =>
    rw [purpose?_start] at hafter
    split at hafter
    · obtain rfl := Option.some.inj hafter
      exact .inr rfl
    · exact .inl hafter
  | @walks _ walker _ phase => exact .inl ((purpose?_setPhase g walker phase id).symm.trans hafter)
  | @joins joiner _ rejected _ _ flight =>
    exact .inl ((purpose?_setPhase g joiner (.asking rejected (.queued flight.cycle)) id).symm.trans
      hafter)
  | @begins starter _ rejected =>
    exact .inl ((purpose?_setPhase g starter
      (.asking rejected (.queued g.coordinator.started)) id).symm.trans hafter)
  | @expires ender _ token reason answer =>
    exact .inl ((purpose?_setPhase g ender (.ended answer) id).symm.trans hafter)
  | @settles cycle result =>
    have hsame : (g.settle cycle.number result).purpose? id = g.purpose? id :=
      purpose?_foldl_tell result g.coordinator.queue _ id
    exact .inl (hsame.symm.trans hafter)
  | touches htouch =>
    obtain ⟨-, -, hcalls, -⟩ := htouch.frame
    rw [purpose?, hcalls] at hafter
    exact .inl hafter
  | _ => exact .inl hafter

/-- Whoever is at work in a gateway has come to it. -/
theorem start_mem_of_purpose? {root : ApiRoot} {store : σ} {actions : List (Action σ)} {id : CallId}
    {purpose : Purpose}
    (h : ((Gateway.new root store).run actions).purpose? id = some purpose) :
    .start purpose ∈ actions := by
  induction actions using List.reverseRecOn with
  | nil => simp [purpose?, Gateway.new] at h
  | append_singleton before a ih =>
    rw [run_concat] at h
    rcases (move_step _ a).purpose_cases h with hbefore | rfl
    · exact List.mem_append_left _ (ih hbefore)
    · simp

/-! ## Attempts -/

/-- What has happened is not forgotten. -/
theorem Move.mem_log {g g' : Gateway σ} {a : Action σ} (h : Move g a g') {notice : Notice}
    (hmem : notice ∈ g.log) : notice ∈ g'.log := by
  cases h with
  | walks => exact List.mem_append_right _ hmem
  | joins => exact List.mem_cons_of_mem _ hmem
  | expires => exact List.mem_cons_of_mem _ hmem
  | works => exact List.mem_append_right _ hmem
  | settles =>
    rw [settle_log]
    exact List.mem_cons_of_mem _ hmem
  | touches htouch =>
    obtain ⟨-, -, -, hlog⟩ := htouch.frame
    rw [hlog]
    exact hmem
  | _ => exact hmem

/-- An attempt that has been sent was sent before, or by a request that has just read the session or
been told a token, and that waits for the answer now. -/
theorem Move.attempt_cases {g g' : Gateway σ} {a : Action σ} (h : Move g a g') {id : CallId}
    {token : String} {request : Request} (hmem : .attempt id token request ∈ g'.log) :
    .attempt id token request ∈ g.log ∨
      ∃ d shape phase, g.calls[id]? = some ⟨.request d shape, phase⟩ ∧
        Request.build g.root d token = .ok request ∧
        ((phase = .opening ∧ ∃ s, (Store.get g.store).1 = .ok (some s) ∧ token = s.accessToken) ∨
          ∃ rejected, phase = .asking rejected (.told (.ok token))) ∧
        ∃ after, g'.phase? id = some after ∧ after.attempt? = some (token, request) := by
  have hsent : ∀ {walker : CallId} {d : Descriptor} {sent : String} {next : Request → Phase}
      {phase : Phase} {notices : List Notice},
      Attempted g.root walker d sent next phase notices →
      .attempt id token request ∈ notices →
      walker = id ∧ sent = token ∧ Request.build g.root d token = .ok request ∧
        phase = next request := by
    intro walker d sent next phase notices hattempt hnotice
    cases hattempt with
    | sent hbuild =>
      obtain ⟨rfl, rfl, rfl⟩ : _ ∧ _ ∧ _ := by simpa using hnotice
      exact ⟨rfl, rfl, hbuild, rfl⟩
    | unbuilt => simp at hnotice
    | unaddressed => simp at hnotice
  cases h with
  | walks hcall hwalk =>
    rw [moved_log, List.mem_append] at hmem
    rcases hmem with hnotice | hbefore
    · cases hwalk with
      | @opens d shape session _ _ hget hattempt =>
        obtain ⟨rfl, rfl, hbuild, rfl⟩ := hsent hattempt hnotice
        exact .inr ⟨d, shape, _, hcall, hbuild, .inl ⟨rfl, session, hget, rfl⟩, _,
          (phase?_moved hcall _ _ _ _).trans (if_pos rfl), rfl⟩
      | @retries d shape rejected _ _ _ hattempt =>
        obtain ⟨rfl, rfl, hbuild, rfl⟩ := hsent hattempt hnotice
        exact .inr ⟨d, shape, _, hcall, hbuild, .inr ⟨rejected, rfl⟩, _,
          (phase?_moved hcall _ _ _ _).trans (if_pos rfl), rfl⟩
      | _ => simp at hnotice
    · exact .inl hbefore
  | joins => exact .inl (List.mem_of_ne_of_mem (by simp) hmem)
  | expires => exact .inl (List.mem_of_ne_of_mem (by simp) hmem)
  | works hcycle hwork =>
    rw [worked_log, List.mem_append] at hmem
    rcases hmem with hnotice | hbefore
    · cases hwork <;> simp at hnotice
    · exact .inl hbefore
  | settles =>
    rw [settle_log] at hmem
    exact .inl (List.mem_of_ne_of_mem (by simp) hmem)
  | touches htouch =>
    obtain ⟨-, -, -, hlog⟩ := htouch.frame
    rw [hlog] at hmem
    exact .inl hmem
  | _ => exact .inl hmem

/-- Whoever has sent an attempt has read the session. -/
theorem exists_phase_of_attempt {root : ApiRoot} {store : σ} {actions : List (Action σ)}
    {id : CallId} {token : String} {request : Request}
    (hmem : .attempt id token request ∈ ((Gateway.new root store).run actions).log) :
    ∃ phase, ((Gateway.new root store).run actions).phase? id = some phase ∧ 0 < phase.rank := by
  induction actions using List.reverseRecOn with
  | nil => exact absurd hmem List.not_mem_nil
  | append_singleton before a ih =>
    rw [run_concat] at hmem ⊢
    have horder : Orderly ((Gateway.new root store).run before) :=
      (orderly_new root store).run before
    have hmove := move_step ((Gateway.new root store).run before) a
    rcases hmove.attempt_cases hmem with hsent | ⟨-, -, -, -, -, -, after, hafter, hattempt⟩
    · obtain ⟨phase, hphase, hrank⟩ := ih hsent
      obtain ⟨after, hafter, hpassage⟩ := hmove.passage horder hphase
      exact ⟨after, hafter, Nat.lt_of_lt_of_le hrank hpassage.rank_le⟩
    · refine ⟨after, hafter, ?_⟩
      cases after with
      | first => simp [Phase.rank]
      | second => simp [Phase.rank]
      | _ => cases hattempt

end Gateway

end BearerClient
