import BearerClient.Proofs.ExchangeRequest
import BearerClient.Proofs.Passages
import BearerClient.Proofs.Past

/-!
# One refresh for each session version

Every access token stands for one version of the session. While nobody logs in, a version is
refreshed by one cycle at the most, however the steps of its callers and of the cycle come, and the
request of that cycle carries the refresh token of the version. The store is read outside the lock,
so the reason is in what a caller knows that finds nothing running and no settlement since it began:
what it has read is still there or gone, and has not been refreshed (`IsFresh`).

The invariant speaks of the gateway and of its `Past`. The main statement is
`one_refresh_per_version`.
-/

namespace BearerClient

/-- Whether a notice says that a certain refresh token was sent. -/
def Notice.isSendingOf (refreshToken : String) : Notice → Bool
  | .exchange _ sent _ => sent = refreshToken
  | _ => false

namespace Gateway

variable {σ : Type} [Store σ] [LawfulStore σ]

/-! ## What a step adds to the past -/

/-- A step in which the backend answers a refresh exchange with tokens. -/
def Issues (g : Gateway σ) (a : Action σ) (tokens : Tokens) : Prop :=
  ∃ number delivery cycle session request, Answers number a delivery ∧
    g.coordinator.cycle? number = some cycle ∧ cycle.stage = .exchanging session request ∧
    delivery.tokens request.url = .ok tokens

/-- A move that leaves nothing running either found nothing running and put no session in place, or
ended the cycle that ran. -/
theorem Move.idle_cases {g g' : Gateway σ} {a : Action σ} (h : Move g a g') (horder : Orderly g)
    (hsteady : a.IsSteady) (hidle : g'.coordinator.flight = none) :
    (g.coordinator.flight = none ∧ g'.coordinator.settled = g.coordinator.settled ∧
      (g'.current = g.current ∨ g'.current = none)) ∨
    ∃ cycle ∈ g.coordinator.cycles, ∃ result, cycle.stage = .settling result ∧
      g'.coordinator.settled = g.coordinator.settled + 1 ∧ g'.current = g.current := by
  have hcurrent : g.coordinator.flight = none → g'.current = g.current ∨ g'.current = none := by
    intro hnone
    rcases h.current_cases hsteady with hkept | hgone | ⟨cycle, -, hcycle, -⟩
    · exact .inl hkept
    · exact .inr hgone
    · exact absurd hnone (horder.coordinator.flight_ne_none hcycle)
  cases h with
  | joins _ hflight => simp [Coordinator.join, hflight] at hidle
  | begins => cases hidle
  | works hcycle => exact absurd hidle (horder.coordinator.flight_ne_none hcycle)
  | fails hcycle => exact absurd hidle (horder.coordinator.flight_ne_none hcycle)
  | @settles cycle result hcycle hstage =>
    refine .inr ⟨cycle, List.mem_of_find?_eq_some hcycle, result, hstage, ?_, ?_⟩
    · rw [settle_coordinator]
      rfl
    · rw [current, settle_store]
      rfl
  | touches htouch =>
    obtain ⟨-, hcoordinator, -, -⟩ := htouch.frame
    rw [hcoordinator] at hidle
    exact .inl ⟨hidle, by rw [hcoordinator], hcurrent hidle⟩
  | _ => exact .inl ⟨hidle, rfl, hcurrent hidle⟩

/-! ## Sessions with keys of their own -/

/-- The sessions so far differ in a key, and a session that is about to be stored has a new one. -/
structure Keyed (key : Session → Option String) (past : Past) (g : Gateway σ) : Prop where
  /-- The past includes the present. -/
  present : ∀ s, g.current = some s → past.sessions s
  /-- Sessions with the same key are the same. -/
  distinct : ∀ s s' value, past.sessions s → past.sessions s' → key s = some value →
    key s' = some value → s = s'
  /-- The key of a session that is about to be stored is new. -/
  fresh : ∀ cycle ∈ g.coordinator.cycles, ∀ renewed, cycle.stage = .storing renewed →
    ∀ s value, past.sessions s → key renewed = some value → key s ≠ some value

omit [LawfulStore σ] in
/-- A task that is about to store a session was so before, or has just got tokens. -/
theorem Move.storing_cases {g g' : Gateway σ} {a : Action σ} (h : Move g a g')
    (horder : Orderly g) {cycle' : Cycle} (hmem : cycle' ∈ g'.coordinator.cycles)
    {renewed : Session} (hstoring : cycle'.stage = .storing renewed) :
    cycle' ∈ g.coordinator.cycles ∨
      ∃ tokens session, Issues g a tokens ∧ renewed = tokens.renew session := by
  have hset : ∀ (cycle : Cycle) (stage : Stage),
      g.coordinator.cycle? cycle.number = some cycle →
      cycle' ∈ (g.coordinator.setStage cycle.number stage).cycles →
      stage = .storing renewed := by
    intro cycle stage hcycle hmem
    rw [horder.coordinator.cycles_setStage hcycle, List.mem_singleton] at hmem
    subst hmem
    exact hstoring
  cases h with
  | begins _ hidle =>
    rw [coordinatedBy_coordinator, horder.coordinator.cycles_start hidle,
      List.mem_singleton] at hmem
    subst hmem
    cases hstoring
  | @works _ cycle stage _ _ hcycle hwork =>
    obtain rfl : stage = .storing renewed := hset cycle stage hcycle hmem
    cases hwork with
    | receives hstage ha htokens =>
      exact .inr ⟨_, _, ⟨_, _, _, _, _, ha, hcycle, hstage, htokens⟩, rfl⟩
  | @fails cycle _ result hcycle =>
    cases hset cycle (.settling result) hcycle hmem
  | settles hcycle =>
    rw [settle_coordinator, horder.coordinator.cycles_settle hcycle] at hmem
    exact absurd hmem List.not_mem_nil
  | touches htouch =>
    obtain ⟨-, hcoordinator, -, -⟩ := htouch.frame
    rw [hcoordinator] at hmem
    exact .inl hmem
  | _ => exact .inl hmem

/-- Every move keeps the keys apart, if the key of each session that the backend's tokens make is
new. -/
theorem Move.keyed {key : Session → Option String} {past : Past} {g g' : Gateway σ} {a : Action σ}
    (h : Move g a g') (horder : Orderly g) (hsteady : a.IsSteady) (hg : Keyed key past g)
    (hissues : ∀ tokens, Issues g a tokens → ∀ session s value, past.sessions s →
      key (tokens.renew session) = some value → key s ≠ some value) :
    Keyed key (past.upTo g') g' := by
  rcases or_assoc.mpr (h.current_cases hsteady) with
    hkept | ⟨cycle, stored, hcycle, hstage, -, hstored, hafter⟩
  -- Nothing new is held, so only a task that has just got tokens can bring a new key.
  · have hpast : ∀ s, (past.upTo g').sessions s → past.sessions s := by
      rintro s (hs | hs)
      · exact hs
      · rcases hkept with hsame | hnone
        · exact hg.present s (hsame ▸ hs)
        · rw [hnone] at hs
          cases hs
    refine ⟨fun s hs => .inr hs, ?_, ?_⟩
    · intro s s' value hs hs'
      exact hg.distinct s s' value (hpast s hs) (hpast s' hs')
    · intro cycle hmem renewed hstoring s value hs
      rcases h.storing_cases horder hmem hstoring with hbefore | ⟨tokens, session, hissue, rfl⟩
      · exact hg.fresh cycle hbefore renewed hstoring s value (hpast s hs)
      · exact hissues tokens hissue session s value (hpast s hs)
  -- The one task has stored its session, whose key was new, and no task is storing any more.
  · have hpast : ∀ s, (past.upTo g').sessions s → past.sessions s ∨ s = stored := by
      rintro s (hs | hs)
      · exact .inl hs
      · exact .inr (Option.some.inj (hs.symm.trans hstored))
    have hnew := hg.fresh cycle (List.mem_of_find?_eq_some hcycle) stored hstage
    refine ⟨fun s hs => .inr hs, ?_, ?_⟩
    · intro s s' value hs hs' hkey hkey'
      rcases hpast s hs with hs | rfl
      · rcases hpast s' hs' with hs' | rfl
        · exact hg.distinct s s' value hs hs' hkey hkey'
        · exact absurd hkey (hnew s value hs hkey')
      · rcases hpast s' hs' with hs' | rfl
        · exact absurd hkey' (hnew s' value hs' hkey)
        · rfl
    · intro cycle' hmem renewed hstoring
      rw [hafter, horder.coordinator.cycles_setStage hcycle, List.mem_singleton] at hmem
      subst hmem
      cases hstoring

/-! ## Versions -/

/-- What a caller knows in a phase. What it has read when nothing runs, and nothing has settled
since it began, has not been refreshed, and is what the store holds unless the session is gone. -/
def IsFresh (past : Past) (g : Gateway σ) : Phase → Prop
  | .asking _ (.counted settled) => settled ≤ g.coordinator.settled
  | .asking _ (.seen settled read) => settled ≤ g.coordinator.settled ∧
    ∀ s, read = some s → past.sessions s ∧
      (g.coordinator.flight = none → g.coordinator.settled = settled →
        (∀ number, ¬ past.cycles number s.accessToken) ∧ ∀ held, g.current = some held → held = s)
  | _ => True

/-- What holds of the session while a task is at work: until the task is about to tell its result,
the session has the refused token or is gone; from then on it has not been refreshed. -/
def IsAtWork (past : Past) (g : Gateway σ) (cycle : Cycle) : Prop :=
  match cycle.stage with
  | .settling _ => ∀ s, g.current = some s → ∀ number, ¬ past.cycles number s.accessToken
  | _ => ∀ s, g.current = some s → s.accessToken = cycle.rejected

/-- In the past, each version of the session was refreshed by one cycle at the most. -/
structure Past.IsUnique (past : Past) (started : Nat) : Prop where
  /-- The cycles have been started. -/
  started : ∀ number token, past.cycles number token → number < started
  /-- A token whose refusal started a cycle was the token of a session. -/
  known : ∀ number token, past.cycles number token → ∃ s, past.sessions s ∧ s.accessToken = token
  /-- A token was refused for one cycle. -/
  one_number : ∀ number number' token, past.cycles number token → past.cycles number' token →
    number = number'
  /-- A cycle was started over one token. -/
  one_token : ∀ number token token', past.cycles number token → past.cycles number token' →
    token = token'

/-- The session, the tasks and the callers fit the past. -/
structure Versions (past : Past) (g : Gateway σ) : Prop where
  /-- The past includes the cycles that run. -/
  running : ∀ cycle ∈ g.coordinator.cycles, past.cycles cycle.number cycle.rejected
  /-- Each version was refreshed by one cycle at the most. -/
  unique : past.IsUnique g.coordinator.started
  /-- While nothing runs, the session has not been refreshed. -/
  idle : g.coordinator.flight = none → ∀ s, g.current = some s →
    ∀ number, ¬ past.cycles number s.accessToken
  /-- The tasks are at work on the session. -/
  tasks : ∀ cycle ∈ g.coordinator.cycles, IsAtWork past g cycle
  /-- What the callers have read is fresh. -/
  callers : ∀ id phase, g.phase? id = some phase → IsFresh past g phase
  /-- Every request was sent for the session whose token was refused. -/
  sent : ∀ number refreshToken request, .exchange number refreshToken request ∈ g.log →
    ∃ s, past.sessions s ∧ past.cycles number s.accessToken ∧ s.refreshToken = some refreshToken

/-- The store spares the task of a cycle in its next step: no call breaks it down, and if it has
failed it does get rid of the session. -/
def Spares (g : Gateway σ) (cycle : Cycle) : Prop :=
  match cycle.stage with
  | .reading => (Store.get g.store).1 ≠ .panicked
  | .storing renewed => (Store.set renewed g.store).1 ≠ .panicked
  | .failing e => ∃ ended, (g.invalidate cycle.rejected e.message).1 = .ok ended
  | .exchanging _ _ | .settling _ => True

/-- A step adds to the cycles of the past only the one that it begins. -/
theorem Versions.cycles_of_not_begins {past : Past} {g g' : Gateway σ} (hg : Versions past g)
    (hcycles : ∀ cycle' ∈ g'.coordinator.cycles, ∃ cycle ∈ g.coordinator.cycles,
      cycle.number = cycle'.number ∧ cycle.rejected = cycle'.rejected) {number : Nat}
    {token : String} (h : (past.upTo g').cycles number token) : past.cycles number token := by
  rcases h with h | ⟨cycle', hmem, rfl, rfl⟩
  · exact h
  · obtain ⟨cycle, hcycle, hnumber, hrejected⟩ := hcycles cycle' hmem
    rw [← hnumber, ← hrejected]
    exact hg.running cycle hcycle

theorem cycles_of_idle {past : Past} {g' : Gateway σ} (horder : Orderly g')
    (hidle : g'.coordinator.flight = none) {number : Nat} {token : String}
    (h : (past.upTo g').cycles number token) : past.cycles number token := by
  rcases h with h | ⟨cycle, hmem, -⟩
  · exact h
  · rw [(horder.coordinator.idle hidle).1] at hmem
    exact absurd hmem List.not_mem_nil

/-- A move that leaves nothing running leaves a session that has not been refreshed. -/
theorem Versions.idle_step {past : Past} {g g' : Gateway σ} {a : Action σ} (hg : Versions past g)
    (h : Move g a g') (horder : Orderly g) (hsteady : a.IsSteady)
    (hidle : g'.coordinator.flight = none) {s : Session} (hs : g'.current = some s) (number : Nat) :
    ¬ (past.upTo g').cycles number s.accessToken := by
  intro hcycles
  have hpast := cycles_of_idle (h.orderly horder) hidle hcycles
  rcases h.idle_cases horder hsteady hidle with
    ⟨hbefore, -, hsame | hnone⟩ | ⟨cycle, hmem, result, hstage, -, hsame⟩
  · exact hg.idle hbefore s (hsame ▸ hs) number hpast
  · rw [hnone] at hs
    cases hs
  · have hwork := hg.tasks cycle hmem
    rw [IsAtWork, hstage] at hwork
    exact hwork s (hsame ▸ hs) number hpast

/-- What a caller knows stays true while it stays where it is. -/
theorem isFresh_step {past : Past} {g g' : Gateway σ} {a : Action σ} (h : Move g a g')
    (horder : Orderly g) (hsteady : a.IsSteady) {phase : Phase} (hfresh : IsFresh past g phase) :
    IsFresh (past.upTo g') g' phase := by
  have hle := h.settled_le horder
  unfold IsFresh at hfresh ⊢
  split
  · exact Nat.le_trans hfresh hle
  · obtain ⟨hcount, hread⟩ := hfresh
    refine ⟨Nat.le_trans hcount hle, ?_⟩
    intro s hs
    obtain ⟨hsession, hknown⟩ := hread s hs
    refine ⟨.inl hsession, ?_⟩
    intro hidle hsettled
    -- A move that ended a cycle has raised the count past the one the caller remembers.
    rcases h.idle_cases horder hsteady hidle with
      ⟨hbefore, hcount', hcurrent⟩ | ⟨_, _, _, _, hcount', _⟩
    · obtain ⟨hnever, honly⟩ := hknown hbefore (hcount'.symm.trans hsettled)
      refine ⟨fun number hcycles =>
        hnever number (cycles_of_idle (h.orderly horder) hidle hcycles), ?_⟩
      intro held hheld
      rcases hcurrent with hsame | hnone
      · exact honly held (hsame ▸ hheld)
      · rw [hnone] at hheld
        cases hheld
    · omega
  · trivial

theorem Attempted.isFresh {past : Past} {g : Gateway σ} {root : ApiRoot} {id : CallId}
    {d : Descriptor} {token : String} {next : Request → Phase} {phase : Phase}
    {notices : List Notice} (h : Attempted root id d token next phase notices)
    (hnext : ∀ request, IsFresh past g (next request)) : IsFresh past g phase := by
  cases h with
  | sent => exact hnext _
  | unbuilt => trivial
  | unaddressed => trivial

/-- What a caller learns when it goes on is fresh. -/
theorem Walk.isFresh {past : Past} {g : Gateway σ} (hg : Versions past g)
    (hpresent : ∀ s, g.current = some s → past.sessions s) {id : CallId} {call : Call}
    {a : Action σ} {phase : Phase} {store : σ} {notices : List Notice}
    (h : Walk g id call a phase store notices) (hbefore : IsFresh past g call.phase) :
    IsFresh past g phase := by
  cases h with
  | opens _ hattempt => exact hattempt.isFresh fun _ => trivial
  | retries hattempt => exact hattempt.isFresh fun _ => trivial
  | counts => exact Nat.le_refl _
  | @reads _ _ settled read hget =>
    have hheld : g.current = read := LawfulStore.get_ok g.store read hget
    refine ⟨hbefore, fun s hs => ⟨hpresent s (hheld.trans hs), ?_⟩⟩
    intro hidle _
    refine ⟨hg.idle hidle s (hheld.trans hs), ?_⟩
    intro held hcurrent
    exact Option.some.inj (hcurrent.symm.trans (hheld.trans hs))
  | _ => trivial

theorem Versions.callers_step {past : Past} {g g' : Gateway σ} {a : Action σ}
    (hg : Versions past g) (hpresent : ∀ s, g.current = some s → past.sessions s)
    (h : Move g a g') (horder : Orderly g) (hsteady : a.IsSteady) {id : CallId} {phase : Phase}
    (hphase : g'.phase? id = some phase) : IsFresh (past.upTo g') g' phase := by
  rcases h.phase_cases horder hphase with ⟨purpose, -, rfl⟩ | ⟨before, hbefore, hpassage⟩
  · cases purpose with
    | request => trivial
    | token => trivial
  · have hfresh := hg.callers id before hbefore
    cases hpassage with
    | stays => exact isFresh_step h horder hsteady hfresh
    | walks hwalk => exact isFresh_step h horder hsteady (hwalk.isFresh hg hpresent hfresh)
    | queues => trivial
    | ends => trivial
    | hears => trivial

/-- Until a task is about to tell its result, it is at work on the session whose token was
refused. -/
theorem isAtWork_of_ne {past : Past} {g : Gateway σ} {cycle : Cycle}
    (hstage : ∀ result, cycle.stage ≠ .settling result) :
    IsAtWork past g cycle ↔ ∀ s, g.current = some s → s.accessToken = cycle.rejected := by
  unfold IsAtWork
  split
  · rename_i result hsettling
    exact absurd hsettling (hstage result)
  · exact Iff.rfl

omit [LawfulStore σ] in
/-- A task that goes on was not about to tell its result. -/
theorem Work.stage_ne_settling {g : Gateway σ} {cycle : Cycle} {a : Action σ} {stage : Stage}
    {store : σ} {notices : List Notice} (h : Work g cycle a stage store notices)
    (result : Except RefreshError String) : cycle.stage ≠ .settling result := by
  cases h <;> simp_all

/-- A task stays at work on a session that is kept or removed. -/
theorem IsAtWork.of_kept {past past' : Past} {g g' : Gateway σ} {cycle : Cycle}
    (h : IsAtWork past g cycle) (hcurrent : g'.current = g.current ∨ g'.current = none)
    (hcycles : ∀ number token, past'.cycles number token → past.cycles number token) :
    IsAtWork past' g' cycle := by
  have hkept : ∀ s, g'.current = some s → g.current = some s := by
    intro s hs
    rcases hcurrent with hsame | hnone
    · exact hsame ▸ hs
    · rw [hnone] at hs
      cases hs
  unfold IsAtWork at h ⊢
  split
  · rename_i result hsettling
    rw [hsettling] at h
    exact fun s hs number hnumber => h s (hkept s hs) number (hcycles number _ hnumber)
  · rename_i hne
    exact fun s hs => (isAtWork_of_ne hne).mp h s (hkept s hs)

/-- A task that goes on and is spared stays at work on the session. -/
theorem Versions.works {past : Past} {g : Gateway σ} (hg : Versions past g)
    (hkeyed : Keyed (fun s => some s.accessToken) past g) {cycle : Cycle} {a : Action σ}
    {stage : Stage} {store : σ} {notices : List Notice}
    (hcycle : g.coordinator.cycle? cycle.number = some cycle) (hspared : Spares g cycle)
    (hwork : Work g cycle a stage store notices) :
    IsAtWork past (g.worked cycle.number stage store notices) { cycle with stage := stage } := by
  have hmem := List.mem_of_find?_eq_some hcycle
  have hbefore : ∀ s, g.current = some s → s.accessToken = cycle.rejected :=
    (isAtWork_of_ne hwork.stage_ne_settling).mp (hg.tasks cycle hmem)
  have hkept : (∀ result, stage ≠ .settling result) → held store = g.current →
      IsAtWork past (g.worked cycle.number stage store notices) { cycle with stage := stage } := by
    intro hstage hsame
    refine (isAtWork_of_ne hstage).mpr fun s hs => hbefore s ?_
    rw [← hsame]
    exact hs
  unfold Spares at hspared
  cases hwork with
  | breaksReading hstage hget =>
    rw [hstage] at hspared
    exact absurd hget hspared
  | breaksStoring hstage hset =>
    rw [hstage] at hspared
    exact absurd hset hspared
  | @stores renewed hstage hset =>
    intro s hs number hnumber
    have hstored : held (Store.set renewed g.store).2 = some renewed :=
      LawfulStore.held_set renewed g.store hset
    obtain rfl : renewed = s := Option.some.inj (hstored.symm.trans hs)
    -- The token is new, but a refused token was the token of a session before.
    obtain ⟨s', hs', htoken⟩ := hg.unique.known number _ hnumber
    exact hkeyed.fresh cycle hmem renewed hstage s' _ hs' rfl (congrArg some htoken)
  | @cannotStore renewed message hstage hset =>
    exact hkept (by simp) (LawfulStore.held_set_of_ne renewed g.store (by simp [hset]))
  | receives => exact hkept (by simp) rfl
  | receivesNone => exact hkept (by simp) rfl
  | _ => exact hkept (by simp) (LawfulStore.held_get g.store)

omit [LawfulStore σ] in
/-- A task that only gets an answer needs no store. -/
theorem Work.spares {g : Gateway σ} {cycle : Cycle} {a : Action σ} {stage : Stage} {store : σ}
    {notices : List Notice} (h : Work g cycle a stage store notices)
    (hspared : a = .advanceCycle cycle.number → Spares g cycle) : Spares g cycle := by
  cases h with
  | receives hstage =>
    rw [Spares, hstage]
    trivial
  | receivesNone hstage =>
    rw [Spares, hstage]
    trivial
  | _ => exact hspared rfl

/-- After a failed task has ended the session none is left. -/
theorem Versions.fails {past : Past} {g : Gateway σ} (hg : Versions past g) {cycle : Cycle}
    {e : RefreshError} (hcycle : g.coordinator.cycle? cycle.number = some cycle)
    (hstage : cycle.stage = .failing e) (hspared : Spares g cycle) :
    (g.invalidate cycle.rejected e.message).2.current = none := by
  have hwork := hg.tasks cycle (List.mem_of_find?_eq_some hcycle)
  rw [IsAtWork, hstage] at hwork
  rw [Spares, hstage] at hspared
  obtain ⟨ended, hok⟩ := hspared
  exact Invalidator.held_invalidate hok hwork

/-- After a move, the tasks are at work on the session. -/
theorem Versions.tasks_step {past : Past} {g g' : Gateway σ} {a : Action σ} (hg : Versions past g)
    (hkeyed : Keyed (fun s => some s.accessToken) past g) (h : Move g a g') (horder : Orderly g)
    (hsteady : a.IsSteady)
    (hspared : ∀ cycle ∈ g.coordinator.cycles, a = .advanceCycle cycle.number → Spares g cycle)
    {cycle' : Cycle} (hmem : cycle' ∈ g'.coordinator.cycles) :
    IsAtWork (past.upTo g') g' cycle' := by
  rcases h.begins_or horder with ⟨s, hbegins⟩ | ⟨-, hcycles⟩
  · rw [hbegins.cycles, List.mem_singleton] at hmem
    subst hmem
    refine (isAtWork_of_ne (by simp)).mpr ?_
    intro s' hs'
    -- What the caller has read is fresh, so it is the session that is held, if there is one.
    obtain ⟨id, purpose, hcall⟩ := hbegins.caller
    obtain ⟨-, hread⟩ := hg.callers id _ (phase?_of_calls hcall)
    obtain ⟨-, hknown⟩ := hread s rfl
    rw [(hknown hbegins.idle rfl).2 s' (hbegins.current ▸ hs')]
  · have hpast : ∀ number token, (past.upTo g').cycles number token → past.cycles number token :=
      fun _ _ => hg.cycles_of_not_begins hcycles
    cases h with
    | begins _ hidle =>
      obtain ⟨cycle, hcycle, -⟩ := hcycles cycle' hmem
      rw [(horder.coordinator.idle hidle).1] at hcycle
      exact absurd hcycle List.not_mem_nil
    | @works _ cycle _ _ _ hcycle hwork =>
      rw [worked_coordinator, horder.coordinator.cycles_setStage hcycle, List.mem_singleton] at hmem
      subst hmem
      have hspared' := hwork.spares (hspared cycle (List.mem_of_find?_eq_some hcycle))
      exact (hg.works hkeyed hcycle hspared' hwork).of_kept (.inl rfl) hpast
    | @fails cycle e result hcycle hstage =>
      have hmem' : cycle' ∈ (g.coordinator.setStage cycle.number (.settling result)).cycles := hmem
      rw [horder.coordinator.cycles_setStage hcycle, List.mem_singleton] at hmem'
      subst hmem'
      have hnone := hg.fails hcycle hstage
        (hspared cycle (List.mem_of_find?_eq_some hcycle) rfl)
      intro s hs
      cases hnone.symm.trans hs
    | settles hcycle =>
      rw [settle_coordinator, horder.coordinator.cycles_settle hcycle] at hmem
      exact absurd hmem List.not_mem_nil
    | touches htouch =>
      obtain ⟨-, hcoordinator, -, -⟩ := htouch.frame
      rw [hcoordinator] at hmem
      exact (hg.tasks cycle' hmem).of_kept (htouch.current_cases hsteady) hpast
    | walks _ hwalk => exact (hg.tasks cycle' hmem).of_kept (.inl hwalk.held_eq) hpast
    | @expires _ _ token reason =>
      exact (hg.tasks cycle' hmem).of_kept (g.current_invalidate token reason) hpast
    | _ => exact (hg.tasks cycle' hmem).of_kept (.inl rfl) hpast

/-- A request that has been sent was sent before, or by a task that has just read the session. -/
theorem Move.exchange_cases {g g' : Gateway σ} {a : Action σ} (h : Move g a g') {number : Nat}
    {refreshToken : String} {request : Request}
    (hmem : .exchange number refreshToken request ∈ g'.log) :
    .exchange number refreshToken request ∈ g.log ∨
      ∃ cycle s, g.coordinator.cycle? number = some cycle ∧ cycle.stage = .reading ∧
        g.current = some s ∧ s.refreshToken = some refreshToken := by
  cases h with
  | walks hcall hwalk =>
    rw [moved_log, List.mem_append] at hmem
    rcases hmem with hmem | hmem
    · cases hwalk.concernsCall _ hmem
    · exact .inl hmem
  | joins => exact .inl (List.mem_of_ne_of_mem (by simp) hmem)
  | expires => exact .inl (List.mem_of_ne_of_mem (by simp) hmem)
  | works hcycle hwork =>
    rw [worked_log, List.mem_append] at hmem
    rcases hmem with hmem | hmem
    · cases hwork with
      | sends hstage hget htoken =>
        obtain ⟨rfl, rfl, rfl⟩ : _ ∧ _ ∧ _ := by simpa using hmem
        exact .inr ⟨_, _, hcycle, hstage, LawfulStore.get_ok _ _ hget, htoken⟩
      | _ => exact absurd hmem List.not_mem_nil
    · exact .inl hmem
  | settles =>
    rw [settle_log] at hmem
    exact .inl (List.mem_of_ne_of_mem (by simp) hmem)
  | touches htouch =>
    obtain ⟨-, -, -, hlog⟩ := htouch.frame
    rw [hlog] at hmem
    exact .inl hmem
  | _ => exact .inl hmem

/-- After a move, every request was sent for the session whose token was refused. -/
theorem Versions.sent_step {past : Past} {g g' : Gateway σ} {a : Action σ} (hg : Versions past g)
    (hpresent : ∀ s, g.current = some s → past.sessions s) (h : Move g a g') {number : Nat}
    {refreshToken : String} {request : Request}
    (hmem : .exchange number refreshToken request ∈ g'.log) :
    ∃ s, past.sessions s ∧ past.cycles number s.accessToken ∧
      s.refreshToken = some refreshToken := by
  rcases h.exchange_cases hmem with hbefore | ⟨cycle, s, hcycle, hstage, hs, htoken⟩
  · exact hg.sent number refreshToken request hbefore
  · have hmem' := List.mem_of_find?_eq_some hcycle
    have haccess := (isAtWork_of_ne (by simp [hstage])).mp (hg.tasks cycle hmem') s hs
    refine ⟨s, hpresent s hs, ?_, htoken⟩
    rw [haccess, ← number_of_cycle? hcycle]
    exact hg.running cycle hmem'

/-- A past to which no cycle is added stays unique. -/
theorem Past.IsUnique.of_cycles {past past' : Past} {started : Nat} (h : past.IsUnique started)
    (hsessions : ∀ s, past.sessions s → past'.sessions s)
    (hcycles : ∀ number token, past'.cycles number token → past.cycles number token) :
    past'.IsUnique started := by
  refine ⟨fun number token hc => h.started number token (hcycles _ _ hc), ?_,
    fun number number' token hc hc' => h.one_number _ _ _ (hcycles _ _ hc) (hcycles _ _ hc'),
    fun number token token' hc hc' => h.one_token _ _ _ (hcycles _ _ hc) (hcycles _ _ hc')⟩
  intro number token hc
  obtain ⟨s, hs, htoken⟩ := h.known number token (hcycles _ _ hc)
  exact ⟨s, hsessions s hs, htoken⟩

/-- A past stays unique to which the first cycle over the token of a session is added. -/
theorem Past.IsUnique.begins {past past' : Past} {started : Nat} (h : past.IsUnique started)
    (hsessions : ∀ s, past.sessions s → past'.sessions s) {s : Session} (hs : past.sessions s)
    (hnever : ∀ number, ¬ past.cycles number s.accessToken)
    (hcycles : ∀ number token, past'.cycles number token →
      past.cycles number token ∨ number = started ∧ token = s.accessToken) :
    past'.IsUnique (started + 1) := by
  refine ⟨?_, ?_, ?_, ?_⟩
  · intro number token hc
    rcases hcycles number token hc with hc | ⟨rfl, -⟩
    · exact Nat.lt_succ_of_lt (h.started number token hc)
    · exact Nat.lt_succ_self _
  · intro number token hc
    rcases hcycles number token hc with hc | ⟨-, rfl⟩
    · obtain ⟨s', hs', htoken⟩ := h.known number token hc
      exact ⟨s', hsessions s' hs', htoken⟩
    · exact ⟨s, hsessions s hs, rfl⟩
  · intro number number' token hc hc'
    rcases hcycles number token hc with hc | ⟨rfl, rfl⟩
    · rcases hcycles number' token hc' with hc' | ⟨rfl, rfl⟩
      · exact h.one_number number number' token hc hc'
      · exact absurd hc (hnever number)
    · rcases hcycles number' _ hc' with hc' | ⟨rfl, -⟩
      · exact absurd hc' (hnever number')
      · rfl
  · intro number token token' hc hc'
    rcases hcycles number token hc with hc | ⟨rfl, rfl⟩
    · rcases hcycles number token' hc' with hc' | ⟨rfl, rfl⟩
      · exact h.one_token number token token' hc hc'
      · exact absurd (h.started _ token hc) (Nat.lt_irrefl _)
    · rcases hcycles _ token' hc' with hc' | ⟨-, rfl⟩
      · exact absurd (h.started _ token' hc') (Nat.lt_irrefl _)
      · rfl

/-- After a move, each version was refreshed by one cycle at the most. -/
theorem Versions.unique_step {past : Past} {g g' : Gateway σ} {a : Action σ} (hg : Versions past g)
    (h : Move g a g') (horder : Orderly g) : (past.upTo g').IsUnique g'.coordinator.started := by
  have hsessions : ∀ s, past.sessions s → (past.upTo g').sessions s := fun _ hs => .inl hs
  rcases h.begins_or horder with ⟨s, hbegins⟩ | ⟨hstarted, hcycles⟩
  · obtain ⟨id, purpose, hcall⟩ := hbegins.caller
    obtain ⟨-, hread⟩ := hg.callers id _ (phase?_of_calls hcall)
    obtain ⟨hs, hknown⟩ := hread s rfl
    obtain ⟨hnever, -⟩ := hknown hbegins.idle rfl
    rw [hbegins.started]
    refine hg.unique.begins hsessions hs hnever ?_
    rintro number token (hc | ⟨cycle, hmem, rfl, rfl⟩)
    · exact .inl hc
    · rw [hbegins.cycles, List.mem_singleton] at hmem
      subst hmem
      exact .inr ⟨rfl, rfl⟩
  · rw [hstarted]
    exact hg.unique.of_cycles hsessions fun _ _ => hg.cycles_of_not_begins hcycles

/-- Every move keeps the session, the tasks and the callers fitting the past, if the task whose turn
it is is spared. -/
theorem Move.versions {past : Past} {g g' : Gateway σ} {a : Action σ} (h : Move g a g')
    (horder : Orderly g) (hsteady : a.IsSteady)
    (hkeyed : Keyed (fun s => some s.accessToken) past g)
    (hspared : ∀ cycle ∈ g.coordinator.cycles, a = .advanceCycle cycle.number → Spares g cycle)
    (hg : Versions past g) : Versions (past.upTo g') g' := by
  refine ⟨fun cycle hmem => .inr ⟨cycle, hmem, rfl, rfl⟩, hg.unique_step h horder,
    fun hidle s hs number => hg.idle_step h horder hsteady hidle hs number,
    fun cycle hmem => hg.tasks_step hkeyed h horder hsteady hspared hmem,
    fun id phase hphase => hg.callers_step hkeyed.present h horder hsteady hphase, ?_⟩
  intro number refreshToken request hmem
  obtain ⟨s, hs, hc, htoken⟩ := hg.sent_step hkeyed.present h hmem
  exact ⟨s, .inl hs, .inl hc, htoken⟩

/-! ## Stores that never fail -/

/-- A store whose operations never fail. -/
structure IsReliable (σ : Type) [Store σ] : Prop where
  /-- Reading gives something. -/
  get : ∀ store : σ, ∃ session, (Store.get store).1 = .ok session
  /-- Replacing succeeds. -/
  set : ∀ (session : Session) (store : σ), (Store.set session store).1 = .ok ()
  /-- Removing succeeds. -/
  clear : ∀ store : σ, (Store.clear store).1 = .ok ()

theorem isReliable_cell : IsReliable Cell :=
  ⟨fun cell => ⟨cell.session, rfl⟩, fun _ _ => rfl, fun _ => rfl⟩

section Reliable

omit [LawfulStore σ]

/-- In a store that never fails, ending a session succeeds as long as the lock is usable, and leaves
it usable. -/
theorem IsReliable.endSession (h : IsReliable σ) (rejected : Option String) (event : SessionEvent)
    {i : Invalidator} (hi : i.poisoned = false) (store : σ) :
    (∃ ended, (i.endSession rejected event store).1 = .ok ended) ∧
      (i.endSession rejected event store).2.1.poisoned = false := by
  obtain ⟨session, hget⟩ := h.get store
  exact Invalidator.endSession_of_serves hi hget (h.clear _) rejected event

theorem IsReliable.poisoned_step (h : IsReliable σ) {g g' : Gateway σ} {a : Action σ}
    (hmove : Move g a g') (hg : g.invalidator.poisoned = false) :
    g'.invalidator.poisoned = false := by
  cases hmove with
  | expires => exact (h.endSession _ _ hg g.store).2
  | fails => exact (h.endSession _ _ hg g.store).2
  | settles =>
    rw [settle_invalidator]
    exact hg
  | touches htouch =>
    cases htouch with
    | signsIn => exact hg
    | signsOut => exact (h.endSession _ _ hg g.store).2
    | invalidates => exact (h.endSession _ _ hg g.store).2
    | disturbs => exact hg
  | _ => exact hg

/-- A store that never fails spares every task. -/
theorem IsReliable.spares (h : IsReliable σ) (root : ApiRoot) (store : σ)
    (actions : List (Action σ)) (cycle : Cycle) :
    Spares ((Gateway.new root store).run actions) cycle := by
  have hpoisoned : ((Gateway.new root store).run actions).invalidator.poisoned = false :=
    run_keeps (P := fun g => g.invalidator.poisoned = false)
      (fun _ _ _ hg hmove => h.poisoned_step hmove hg) rfl actions
  unfold Spares
  split
  · obtain ⟨session, hget⟩ := h.get ((Gateway.new root store).run actions).store
    simp [hget]
  · simp [h.set]
  · exact (h.endSession _ _ hpoisoned _).1
  · trivial
  · trivial

end Reliable

/-! ## Runs without logins -/

/-- A run in which nobody logs in, the store spares the tasks, and the backend issues only access
tokens that the store has not held before. -/
structure IsOrdinary (g : Gateway σ) (actions : List (Action σ)) : Prop where
  /-- No session comes from outside. -/
  steady : ∀ a ∈ actions, a.IsSteady
  /-- The store spares the tasks. -/
  spared : ∀ before a later, actions = before ++ a :: later →
    ∀ cycle ∈ (g.run before).coordinator.cycles, a = .advanceCycle cycle.number →
      Spares (g.run before) cycle
  /-- The issued access tokens are new. -/
  fresh : ∀ before a later, actions = before ++ a :: later → ∀ tokens,
    Issues (g.run before) a tokens → ∀ s, g.HeldIn before s → s.accessToken ≠ tokens.accessToken

/-- At the start of a run there is one session at the most. -/
theorem keyed_start (key : Session → Option String) (root : ApiRoot) (store : σ) :
    Keyed key ((Gateway.new root store).pastOf []) (.new root store) := by
  refine ⟨fun s hs => sessions_pastOf_nil.mpr hs, ?_, ?_⟩
  · intro s s' value hs hs' _ _
    have hcurrent := sessions_pastOf_nil.mp hs
    have hcurrent' := sessions_pastOf_nil.mp hs'
    exact Option.some.inj (hcurrent.symm.trans hcurrent')
  · intro cycle hmem
    exact absurd hmem List.not_mem_nil

theorem versions_start (root : ApiRoot) (store : σ) :
    Versions ((Gateway.new root store).pastOf []) (.new root store) := by
  have hnever : ∀ number token, ¬ ((Gateway.new root store).pastOf []).cycles number token := by
    intro number token h
    obtain ⟨cycle, hmem, -⟩ := cycles_pastOf_nil.mp h
    exact absurd hmem List.not_mem_nil
  refine ⟨fun cycle hmem => absurd hmem List.not_mem_nil,
    ⟨fun number token h => absurd h (hnever _ _), fun number token h => absurd h (hnever _ _),
      fun number _ token h => absurd h (hnever _ _), fun number token _ h => absurd h (hnever _ _)⟩,
    fun _ s _ number => hnever _ _, fun cycle hmem => absurd hmem List.not_mem_nil,
    ?_, fun _ _ _ hmem => absurd hmem List.not_mem_nil⟩
  intro id phase hphase
  simp [phase?, Gateway.new] at hphase

/-- Along a run without logins the sessions keep a key apart that is new whenever tokens are
issued. -/
theorem keyed_run (key : Session → Option String) {root : ApiRoot} {store : σ}
    {actions : List (Action σ)} (hsteady : ∀ a ∈ actions, a.IsSteady)
    (hissues : ∀ before a later, actions = before ++ a :: later → ∀ tokens,
      Issues ((Gateway.new root store).run before) a tokens → ∀ session s value,
        (Gateway.new root store).HeldIn before s → key (tokens.renew session) = some value →
          key s ≠ some value) :
    Keyed key ((Gateway.new root store).pastOf actions) ((Gateway.new root store).run actions) := by
  refine run_past (keyed_start key root store) ?_
  intro before a later hactions hkeyed
  have hmem : a ∈ actions := by simp [hactions]
  exact (move_step _ a).keyed ((orderly_new root store).run before) (hsteady a hmem) hkeyed
    (hissues before a later hactions)

/-- Along an ordinary run, each access token is the token of one session. -/
theorem IsOrdinary.keyed {root : ApiRoot} {store : σ} {actions : List (Action σ)}
    (h : IsOrdinary (.new root store) actions) :
    Keyed (fun s => some s.accessToken) ((Gateway.new root store).pastOf actions)
      ((Gateway.new root store).run actions) := by
  refine keyed_run _ h.steady ?_
  intro before a later hactions tokens hissues session s value hs hnew
  have hne := h.fresh before a later hactions tokens hissues s hs
  have hvalue : tokens.accessToken = value := Option.some.inj hnew
  rw [← hvalue]
  exact fun hsame => hne (Option.some.inj hsame)

/-- An ordinary run does not get less ordinary when it is cut off. -/
theorem IsOrdinary.take {g : Gateway σ} {before later : List (Action σ)}
    (h : IsOrdinary g (before ++ later)) : IsOrdinary g before := by
  have hsplit : ∀ {first a rest}, before = first ++ a :: rest →
      before ++ later = first ++ a :: (rest ++ later) := by
    rintro first a rest rfl
    simp
  exact ⟨fun a ha => h.steady a (List.mem_append_left _ ha),
    fun first a rest hfirst => h.spared first a _ (hsplit hfirst),
    fun first a rest hfirst => h.fresh first a _ (hsplit hfirst)⟩

/-- Along an ordinary run, the session, the tasks and the callers fit the past. -/
theorem IsOrdinary.versions {root : ApiRoot} {store : σ} {actions : List (Action σ)}
    (h : IsOrdinary (.new root store) actions) :
    Versions ((Gateway.new root store).pastOf actions) ((Gateway.new root store).run actions) := by
  refine run_past (versions_start root store) ?_
  intro before a later hactions hversions
  have hmem : a ∈ actions := by simp [hactions]
  have hbefore : IsOrdinary (.new root store) before := by
    rw [hactions] at h
    exact h.take
  exact (move_step _ a).versions ((orderly_new root store).run before) (h.steady a hmem)
    hbefore.keyed (h.spared before a later hactions) hversions

/-- If the backend gives a new refresh token with every access token, no refresh token is sent
twice. -/
theorem IsOrdinary.sendings_le {root : ApiRoot} {store : σ} {actions : List (Action σ)}
    (h : IsOrdinary (.new root store) actions)
    (hrotates : ∀ before a later, actions = before ++ a :: later → ∀ tokens,
      Issues ((Gateway.new root store).run before) a tokens →
      ∃ refreshToken, tokens.refreshToken = some refreshToken ∧
        ∀ s, (Gateway.new root store).HeldIn before s → s.refreshToken ≠ some refreshToken)
    (refreshToken : String) :
    ((Gateway.new root store).run actions).log.countP (Notice.isSendingOf refreshToken) ≤ 1 := by
  have hversions := h.versions
  have hkeyed := keyed_run Session.refreshToken h.steady
    fun before a later hactions tokens hissues session s value hs hnew => by
      obtain ⟨refreshToken, htoken, hne⟩ := hrotates before a later hactions tokens hissues
      have hvalue : refreshToken = value := by simpa [Tokens.renew, htoken] using hnew
      rw [← hvalue]
      exact hne s hs
  have honce : ∀ number, ((Gateway.new root store).run actions).exchanges number ≤ 1 :=
    (sound_run root store actions).sends.once
  by_cases hsent : ∃ number request, Notice.exchange number refreshToken request ∈
      ((Gateway.new root store).run actions).log
  · obtain ⟨number, request, hmem⟩ := hsent
    obtain ⟨s, hs, hcycle, htoken⟩ := hversions.sent number refreshToken request hmem
    refine Nat.le_trans (List.countP_mono_left ?_) (honce number)
    intro notice hnotice hsending
    cases notice with
    | exchange number' refreshToken' request' =>
      obtain rfl : refreshToken' = refreshToken := of_decide_eq_true hsending
      obtain ⟨s', hs', hcycle', htoken'⟩ := hversions.sent number' refreshToken' request' hnotice
      obtain rfl : s = s' := hkeyed.distinct s s' refreshToken' hs hs' htoken htoken'
      exact decide_eq_true (hversions.unique.one_number number' number _ hcycle' hcycle)
    | _ => cases hsending
  · rw [List.countP_eq_zero.mpr]
    · exact Nat.zero_le 1
    · intro notice hnotice hsending
      cases notice with
      | exchange number' refreshToken' request' =>
        obtain rfl : refreshToken' = refreshToken := of_decide_eq_true hsending
        exact hsent ⟨number', request', hnotice⟩
      | _ => cases hsending

/-- Along a run in which nobody logs in, the store spares the tasks and the backend issues only
access tokens that the store has not held before: at most one cycle is started for callers whose
token was refused, however often and in whatever order it is refused; the request of that cycle
posts the refresh token that was stored together with the token, and nothing else. So if the backend
gives a new refresh token with every access token, no refresh token is sent twice. -/
theorem one_refresh_per_version (root : ApiRoot) (store : σ) (actions : List (Action σ))
    (h : IsOrdinary (.new root store) actions) :
    let g := Gateway.new root store
    (∀ number number' token, g.RanIn actions number token → g.RanIn actions number' token →
      number = number') ∧
    (∀ number refreshToken request, .exchange number refreshToken request ∈ (g.run actions).log →
      (∃ url, root.refreshUrl = .ok url ∧ request = Request.refresh url refreshToken) ∧
      request.Exchanges refreshToken ∧
      ∃ token, g.RanIn actions number token ∧
        (∀ other, g.RanIn actions number other → other = token) ∧
        (∃ s, g.HeldIn actions s ∧ s.accessToken = token) ∧
        ∀ s, g.HeldIn actions s → s.accessToken = token → s.refreshToken = some refreshToken) ∧
    ((∀ before a later, actions = before ++ a :: later → ∀ tokens, Issues (g.run before) a tokens →
        ∃ refreshToken, tokens.refreshToken = some refreshToken ∧
          ∀ s, g.HeldIn before s → s.refreshToken ≠ some refreshToken) →
      ∀ refreshToken, (g.run actions).log.countP (Notice.isSendingOf refreshToken) ≤ 1) := by
  intro g
  have hversions := h.versions
  refine ⟨hversions.unique.one_number, ?_, h.sendings_le⟩
  intro number refreshToken request hmem
  have hroot : (g.run actions).root = root := root_run _ actions
  have hrequest := (sound_run root store actions).sends.requests number refreshToken request hmem
  rw [hroot] at hrequest
  have hexchanges : request.Exchanges refreshToken := by
    obtain ⟨url, -, rfl⟩ := hrequest
    exact Request.exchanges_refresh url refreshToken
  obtain ⟨s, hs, hcycle, htoken⟩ := hversions.sent number refreshToken request hmem
  refine ⟨hrequest, hexchanges, s.accessToken, hcycle,
    fun other hother => hversions.unique.one_token _ _ _ hother hcycle, ⟨s, hs, rfl⟩, ?_⟩
  intro s' hs' hsame
  obtain rfl : s' = s := h.keyed.distinct s' s _ hs' hs rfl (congrArg some hsame.symm)
  exact htoken

/-- Two callers whose token was refused: the second one stops between its reading of the session and
the lock while the cycle of the first one starts, stores new tokens and settles. No other cycle is
started over the token, and no refresh token is sent twice. -/
theorem one_refresh_of_two_callers :
    let g := Gateway.new ⟨"http://[::1]"⟩ (Cell.mk (some ⟨"A1", some "R1", none⟩))
    let body := "\x7b\"data\":\x7b\"access_token\":\"A2\",\"refresh_token\":\"R2\"\x7d\x7d"
    let actions : List (Action Cell) := [.start (.token "A1"), .start (.token "A1"), .advance 0,
      .advance 1, .advance 0, .advance 1, .advance 0, .advanceCycle 0,
      .deliverRefresh 0 (.response ⟨200, body.toUTF8⟩), .advanceCycle 0, .advanceCycle 0,
      .advance 1, .advance 1, .advance 1, .advance 1]
    IsOrdinary g actions ∧ g.RanIn actions 0 "A1" ∧
      (∀ number, g.RanIn actions number "A1" → number = 0) ∧
      (∀ refreshToken, (g.run actions).log.countP (Notice.isSendingOf refreshToken) ≤ 1) ∧
      (g.run actions).current = some ⟨"A2", some "R2", none⟩ := by
  intro g body actions
  have htokens : (Response.tokens ⟨200, body.toUTF8⟩).toOption =
      some ⟨"A2", some "R2", none, none⟩ := by decide +kernel
  -- Tokens are issued in one step only.
  have hissues : ∀ before a later, actions = before ++ a :: later → ∀ tokens,
      Issues (g.run before) a tokens →
        before = actions.take 8 ∧ tokens = ⟨"A2", some "R2", none, none⟩ := by
    rintro before a later hactions tokens ⟨number, delivery, cycle, session, request, ha, -, -, hok⟩
    have hmem : a ∈ actions := by simp [hactions]
    rcases ha with rfl | ⟨rfl, -⟩
    · have hdelivery : number = 0 ∧ delivery = .response ⟨200, body.toUTF8⟩ := by
        simpa [actions] using hmem
      obtain ⟨rfl, rfl⟩ := hdelivery
      have hbefore : before = actions.take 8 :=
        eq_take_of_place Action.isRefreshReply 8 (by decide) hactions rfl
      have hsome : (Response.tokens ⟨200, body.toUTF8⟩).toOption = some tokens := by
        rw [show Response.tokens ⟨200, body.toUTF8⟩ = .ok tokens from hok]
        rfl
      exact ⟨hbefore, Option.some.inj (hsome.symm.trans htokens)⟩
    · simp [actions] at hmem
  have hheld : ∀ s, g.HeldIn (actions.take 8) s → s = ⟨"A1", some "R1", none⟩ := by
    rintro s ⟨before, later, hsplit, hs⟩
    have hfirst : ∀ n, n ≤ 8 → (g.run (actions.take n)).current = some ⟨"A1", some "R1", none⟩ := by
      decide +kernel
    have hlength : before.length ≤ 8 := by
      have hle := congrArg List.length hsplit
      simp [actions] at hle
      omega
    have hbefore : before = actions.take before.length := by
      rw [← Nat.min_eq_left hlength, ← List.take_take, hsplit, List.take_left]
    rw [hbefore, hfirst before.length hlength] at hs
    exact (Option.some.inj hs).symm
  have hordinary : IsOrdinary g actions := by
    refine ⟨by simp [actions, Action.IsSteady], fun before _ _ _ cycle _ _ =>
      isReliable_cell.spares _ _ before cycle, ?_⟩
    intro before a later hactions tokens hissue s hs
    obtain ⟨rfl, rfl⟩ := hissues before a later hactions tokens hissue
    rw [hheld s hs]
    decide
  obtain ⟨hnumber, -, hsendings⟩ := one_refresh_per_version _ _ actions hordinary
  have hran : g.RanIn actions 0 "A1" := by
    refine ⟨actions.take 7, actions.drop 7, (List.take_append_drop 7 actions).symm,
      ⟨0, "A1", .reading⟩, ?_, rfl, rfl⟩
    exact List.mem_singleton.mpr rfl
  refine ⟨hordinary, hran, fun number h => hnumber number 0 "A1" h hran, hsendings ?_, ?_⟩
  · intro before a later hactions tokens hissue
    obtain ⟨rfl, rfl⟩ := hissues before a later hactions tokens hissue
    refine ⟨"R2", rfl, ?_⟩
    intro s hs
    rw [hheld s hs]
    decide
  · decide +kernel

end Gateway

end BearerClient
