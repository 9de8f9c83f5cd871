import BearerClient.Proofs.Past
import BearerClient.Proofs.Waiters
import Mathlib.Data.List.Nodup

/-!
# The rounds of a question

A caller that wants a token in place of a refused one goes round a loop: it looks at the count of
settled cycles, reads the session, takes the lock, and starts again if a cycle has settled since it
looked. Nothing in the loop itself says that it ends. But every repetition can be charged to the
cycle whose number the caller has in hand, which is the first one to settle after it looked, and no
two repetitions of a question are charged to the same cycle. So the loop goes round once more than
cycles settle meanwhile, at the most (`rounds_are_bounded`).

What a step does to a caller in the loop is listed in `RoundStep`, and the induction over a run is
made once, in `round_run`.
-/

namespace BearerClient

/-- How many of the three steps of a round a caller has taken, if it is in one. -/
def Asking.inRound? : Asking → Option Nat
  | .entering => some 0
  | .counted _ => some 1
  | .seen _ _ => some 2
  | _ => none

theorem Asking.inRound?_le {progress : Asking} {taken : Nat} (h : progress.inRound? = some taken) :
    taken ≤ 2 := by
  cases progress with
  | entering =>
    cases h
    decide
  | counted =>
    cases h
    decide
  | seen =>
    cases h
    decide
  | queued => cases h
  | told => cases h

/-- How many steps of a round a caller in the phase has taken, if it is in one. -/
def Phase.inRound? : Phase → Option Nat
  | .asking _ progress => progress.inRound?
  | _ => none

theorem Phase.inRound?_le {phase : Phase} {taken : Nat} (h : phase.inRound? = some taken) :
    taken ≤ 2 := by
  unfold Phase.inRound? at h
  split at h
  · exact Asking.inRound?_le h
  · cases h

theorem Phase.inRound?_of_rank {phase : Phase} (h : 3 ≤ phase.rank) : phase.inRound? = none := by
  cases phase with
  | asking rejected progress =>
    cases progress with
    | queued => rfl
    | told => rfl
    | _ => simp [rank] at h
  | _ => rfl

/-- The count of settled cycles that a caller in the phase has looked at in its round. -/
def Phase.inHand? : Phase → Option Nat
  | .asking _ (.counted settled) | .asking _ (.seen settled _) => some settled
  | _ => none

namespace Gateway

variable {σ : Type}

/-- How many steps of a round a caller has taken, if it is in one. -/
def inRound? (g : Gateway σ) (id : CallId) : Option Nat := (g.phase? id).bind Phase.inRound?

/-- The count of settled cycles that a caller has looked at in its round. -/
def inHand? (g : Gateway σ) (id : CallId) : Option Nat := (g.phase? id).bind Phase.inHand?

/-- How many places a caller has in the queue of the running cycle. -/
def placesOf (g : Gateway σ) (id : CallId) : Nat := g.coordinator.queue.count id

/-- Whether an action is a turn of a caller. -/
def Action.isTurnOf (id : CallId) : Action σ → Bool
  | .advance other => other = id
  | _ => false

theorem Action.isTurnOf_eq_true {id : CallId} {a : Action σ} :
    a.isTurnOf id = true ↔ a = .advance id := by
  cases a <;> simp [isTurnOf]

variable [Store σ]

/-! ## The steps of a run -/

/-- The steps of a run, each with the gateway before it. -/
def trail (g : Gateway σ) : List (Action σ) → List (Gateway σ × Action σ)
  | [] => []
  | a :: later => (g, a) :: (g.step a).trail later

theorem trail_append (g : Gateway σ) (before later : List (Action σ)) :
    g.trail (before ++ later) = g.trail before ++ (g.run before).trail later := by
  induction before generalizing g with
  | nil => rfl
  | cons a before ih => simp [trail, ih]

theorem countP_trail_concat (g : Gateway σ) (before : List (Action σ)) (a : Action σ)
    (kind : Gateway σ × Action σ → Bool) : (g.trail (before ++ [a])).countP kind =
      (g.trail before).countP kind + if kind (g.run before, a) then 1 else 0 := by
  rw [trail_append, List.countP_append, trail, trail, List.countP_singleton]

/-- A step in which a caller takes a turn in its round. -/
def takesTurn (id : CallId) (x : Gateway σ × Action σ) : Bool :=
  x.2.isTurnOf id && (x.1.inRound? id).isSome

/-- A step in which a caller reads the session in its round. -/
def readsSession (id : CallId) (x : Gateway σ × Action σ) : Bool :=
  x.2.isTurnOf id && x.1.inRound? id == some 1

/-- A step in which a caller with the lock starts another round. -/
def repeats (id : CallId) (x : Gateway σ × Action σ) : Bool :=
  x.1.inRound? id == some 2 && (x.1.step x.2).inRound? id == some 0

/-- A step in which a cycle settles while a caller is in a round. -/
def settlesMeanwhile (id : CallId) (x : Gateway σ × Action σ) : Bool :=
  (x.1.inRound? id).isSome && decide (x.1.settlements < (x.1.step x.2).settlements)

/-- A step in which a caller gets a place in the queue. -/
def takesPlace (id : CallId) (x : Gateway σ × Action σ) : Bool :=
  decide (x.1.placesOf id < (x.1.step x.2).placesOf id)

/-! ## The count of settled cycles -/

theorem CountsSettlements.settled_step {g : Gateway σ} (hcounts : CountsSettlements g)
    (horder : Orderly g) (a : Action σ) :
    (g.step a).coordinator.settled =
      g.coordinator.settled + if g.settlements < (g.step a).settlements then 1 else 0 := by
  have hmove := move_step g a
  have hbefore := hcounts.all
  have hafter := (hmove.countsSettlements horder hcounts).all
  rcases hmove.settled_cases horder with ⟨hsettled, -⟩ | ⟨queue, result, hsettled, -⟩
  · rw [if_neg (by omega), hsettled]
    rfl
  · rw [if_pos (by omega), hsettled]

/-- No cycle settles in the turn of a caller. -/
theorem settled_advance {g : Gateway σ} (horder : Orderly g) (id : CallId) :
    (g.step (.advance id)).coordinator.settled = g.coordinator.settled := by
  have hmove := move_step g (.advance id)
  rcases hmove.settled_cases horder with ⟨hsettled, -⟩ | ⟨queue, result, -, hlog⟩
  · exact hsettled
  · obtain ⟨_, -, -, -, haction, -⟩ := hmove.eq_settle hlog
    cases haction

theorem settled_le_run {g : Gateway σ} (horder : Orderly g) (actions : List (Action σ)) :
    g.coordinator.settled ≤ (g.run actions).coordinator.settled :=
  (horder.run_keeps (P := fun g' => g.coordinator.settled ≤ g'.coordinator.settled)
    (Nat.le_refl _) (fun _ _ _ horder hle hmove => Nat.le_trans hle (hmove.settled_le horder))
    actions).2

/-- A step that settles a certain cycle. -/
def SettlesCycle (number : Nat) (g : Gateway σ) (a : Action σ) : Prop :=
  ∃ queue result, g.Settles a number queue result

/-- When the count has come past a number, the cycle with this number has settled. -/
theorem happened_settlesCycle {g : Gateway σ} (horder : Orderly g) {number : Nat}
    (actions : List (Action σ)) (hbefore : g.coordinator.settled ≤ number)
    (hafter : number < (g.run actions).coordinator.settled) :
    g.Happened actions (SettlesCycle number) := by
  induction actions using List.reverseRecOn with
  | nil =>
    rw [run_nil] at hafter
    omega
  | append_singleton actions a ih =>
    rw [run_concat] at hafter
    by_cases hearly : number < (g.run actions).coordinator.settled
    · exact (ih hearly).concat a
    · refine happened_concat.mpr (.inr ?_)
      have hrun : Orderly (g.run actions) := horder.run actions
      rcases (move_step (g.run actions) a).settled_cases hrun with
        ⟨hsettled, -⟩ | ⟨queue, result, hsettled, hlog⟩
      · omega
      · obtain rfl : (g.run actions).coordinator.settled = number := by omega
        exact ⟨queue, result, hlog⟩

/-! ## What a step does to a caller in a round -/

/-- What a step does to a caller in a round: how far the caller has come before the step, and in
which phase it is after it. -/
inductive RoundStep (g : Gateway σ) (id : CallId) (rejected : String) (a : Action σ) :
    Asking → Phase → Prop where
  /-- The step is a turn of someone else, and the caller stays where it is. -/
  | stays {progress : Asking} (hother : a ≠ .advance id) :
      RoundStep g id rejected a progress (.asking rejected progress)
  /-- The caller looks at the count of settled cycles. -/
  | looks (ha : a = .advance id) :
      RoundStep g id rejected a .entering (.asking rejected (.counted g.coordinator.settled))
  /-- The caller reads the session. -/
  | reads {settled : Nat} {current : Option Session} (ha : a = .advance id) :
      RoundStep g id rejected a (.counted settled) (.asking rejected (.seen settled current))
  /-- The caller has the lock, and a cycle has settled since it looked. -/
  | repeats {settled : Nat} {current : Option Session} (ha : a = .advance id)
      (hsettled : g.coordinator.settled ≠ settled) :
      RoundStep g id rejected a (.seen settled current) (.asking rejected .entering)
  /-- The caller leaves the loop with a result. -/
  | returns {progress : Asking} {result : Except RefreshError String} (ha : a = .advance id) :
      RoundStep g id rejected a progress (.asking rejected (.told result))
  /-- The caller leaves the loop to wait for a cycle. -/
  | queues {settled : Nat} {current : Option Session} (cycle : Nat) :
      RoundStep g id rejected a (.seen settled current) (.asking rejected (.queued cycle))
  /-- The caller breaks down over reading the session. -/
  | breaksDown {settled : Nat} (hget : (Store.get g.store).1 = .panicked) :
      RoundStep g id rejected a (.counted settled) (.ended .panicked)

/-- A turn of its own takes a caller in a round on, and the store is asked for the session if the
caller has looked at the count, and otherwise left alone. -/
theorem advance_of_round {g : Gateway σ} {id : CallId} {rejected : String} {progress : Asking}
    {taken : Nat} (hphase : g.phase? id = some (.asking rejected progress))
    (htaken : progress.inRound? = some taken) :
    (g.step (.advance id)).phase? id ≠ some (.asking rejected progress) ∧
      (g.step (.advance id)).store = if taken = 1 then (Store.get g.store).2 else g.store := by
  obtain ⟨⟨purpose, phase⟩, hcall, hasking⟩ := Option.map_eq_some_iff.mp hphase
  obtain rfl : phase = .asking rejected progress := hasking
  have hset : ∀ (g' : Gateway σ) (after : Phase), g'.calls = g.calls →
      after ≠ .asking rejected progress →
      (g'.setPhase id after).phase? id ≠ some (.asking rejected progress) := by
    intro g' after hcalls hne
    simpa [phase?, setPhase, hcalls, hcall] using hne
  cases progress with
  | entering =>
    cases htaken
    simp only [step, advance, hcall]
    exact ⟨hset g _ rfl (by simp), rfl⟩
  | counted settled =>
    cases htaken
    simp only [step, advance, hcall, readFor]
    split
    · exact ⟨hset { g with store := (Store.get g.store).2 } _ rfl (by simp), rfl⟩
    · exact ⟨hset { g with store := (Store.get g.store).2 } _ rfl (by simp), rfl⟩
    · exact ⟨hset { g with store := (Store.get g.store).2 } _ rfl (by simp), rfl⟩
  | seen settled current =>
    cases htaken
    simp only [step, advance, hcall, decideFor]
    split
    · exact ⟨hset { g with coordinator := g.coordinator.join id } _ rfl (by simp), rfl⟩
    · exact ⟨hset g _ rfl (by simp), rfl⟩
    · exact ⟨hset g _ rfl (by simp), rfl⟩
    · exact ⟨hset { g with coordinator := g.coordinator.start id rejected } _ rfl (by simp), rfl⟩
  | queued => cases htaken
  | told => cases htaken

theorem roundStep {g : Gateway σ} (horder : Orderly g) {id : CallId} {rejected : String}
    {progress : Asking} (hphase : g.phase? id = some (.asking rejected progress))
    (hround : progress.inRound?.isSome = true) (a : Action σ) :
    ∃ after, (g.step a).phase? id = some after ∧ RoundStep g id rejected a progress after := by
  obtain ⟨after, hafter, hpassage⟩ := (move_step g a).passage horder hphase
  refine ⟨after, hafter, ?_⟩
  generalize hbefore : Phase.asking rejected progress = before at hpassage
  cases hpassage with
  | stays =>
    subst hbefore
    refine .stays ?_
    rintro rfl
    obtain ⟨taken, htaken⟩ := Option.isSome_iff_exists.mp hround
    obtain ⟨hne, -⟩ := advance_of_round hphase htaken
    exact hne hafter
  | @walks call _ _ _ hwalk =>
    cases hwalk with
    | counts =>
      cases hbefore
      exact .looks rfl
    | reads =>
      cases hbefore
      exact .reads rfl
    | cannotRead =>
      cases hbefore
      exact .returns rfl
    | breaksReading hget =>
      cases hbefore
      exact .breaksDown hget
    | looksAgain _ hsettled =>
      cases hbefore
      exact .repeats rfl hsettled
    | isRefused =>
      cases hbefore
      exact .returns rfl
    | reuses =>
      cases hbefore
      exact .returns rfl
    | passesOn =>
      cases hbefore
      cases hround
    | retries =>
      cases hbefore
      cases hround
    | gives =>
      cases hbefore
      cases hround
    -- Only those who wait for an answer or in a queue are answered, time out or are given up.
    | isCutOff hrequest =>
      subst hbefore
      cases hrequest
    | isAnswered hrequest =>
      subst hbefore
      cases hrequest
    | timesOut hwaits =>
      subst hbefore
      cases progress with
      | queued => cases hround
      | _ => cases hwaits
    | isGivenUp hwaits =>
      obtain ⟨purpose, phase⟩ := call
      subst hbefore
      cases progress with
      | queued => cases hround
      | _ => cases hwaits
    | _ => cases hbefore
  | queues cycle =>
    cases hbefore
    exact .queues cycle
  | ends => cases hbefore
  | hears =>
    cases hbefore
    cases hround

/-! ## Places in the queue -/

omit [Store σ] in
/-- A caller that neither waits nor has given up has no place. -/
theorem KeepsQueue.placesOf_eq_zero {g : Gateway σ} (hqueue : KeepsQueue g) {id : CallId}
    {phase : Phase} (hphase : g.phase? id = some phase) (hwaits : phase.waitsOn = none)
    (hgiven : phase.isGivenUp = false) : g.placesOf id = 0 := by
  cases hflight : g.coordinator.flight with
  | none => simp [placesOf, Coordinator.queue, hflight]
  | some flight =>
    have hnot : id ∉ flight.queue := hqueue.not_mem_of_phase hflight hphase hwaits hgiven
    simpa [placesOf, Coordinator.queue, hflight] using List.count_eq_zero.mpr hnot

omit [Store σ] in
/-- A caller that waits for a cycle has one place, in the queue of that cycle. -/
theorem KeepsQueue.placesOf_eq_one {g : Gateway σ} (hqueue : KeepsQueue g) (horder : Orderly g)
    {id : CallId} {rejected : String} {cycle : Nat}
    (hphase : g.phase? id = some (.asking rejected (.queued cycle))) :
    ∃ flight, g.coordinator.flight = some flight ∧ flight.cycle = cycle ∧ g.placesOf id = 1 := by
  obtain ⟨flight, hflight, hcycle, hmem⟩ :=
    horder.waits id cycle (waitsOn_eq_some.mpr ⟨rejected, hphase⟩)
  have hcount : flight.queue.count id = 1 :=
    List.count_eq_one_of_mem (hqueue.nodup flight hflight) hmem
  exact ⟨flight, hflight, hcycle, by simpa [placesOf, Coordinator.queue, hflight] using hcount⟩

/-- Only a caller in a round gets a place. -/
theorem Move.placesOf_le {g g' : Gateway σ} {a : Action σ} (h : Move g a g') {id : CallId}
    (hround : g.inRound? id = none) : g'.placesOf id ≤ g.placesOf id := by
  have hne : ∀ {other purpose rejected settled current},
      g.calls[other]? = some ⟨purpose, .asking rejected (.seen settled current)⟩ → other ≠ id := by
    rintro other purpose rejected settled current hcall rfl
    rw [inRound?, phase?_of_calls hcall] at hround
    cases hround
  cases h with
  | @joins joiner _ _ _ _ flight hcall hflight =>
    have hother : joiner ≠ id := hne hcall
    simp [placesOf, Coordinator.queue, Coordinator.join, hflight, hother]
  | @begins starter _ _ _ hcall =>
    have hother : starter ≠ id := hne hcall
    simp [placesOf, Coordinator.queue, Coordinator.start, hother]
  | settles => simp [placesOf, Coordinator.queue, Coordinator.settle]
  | touches htouch =>
    obtain ⟨-, hcoordinator, -, -⟩ := htouch.frame
    simp [placesOf, hcoordinator]
  | _ => exact Nat.le_refl _

/-! ## A question from its first round on -/

/-- What is used here of a gateway in use. -/
structure Regular (g : Gateway σ) : Prop where
  /-- The queue belongs to the only task. -/
  order : Orderly g
  /-- The settlements are counted. -/
  counts : CountsSettlements g
  /-- The places in the queue are accounted for. -/
  queue : KeepsQueue g

theorem Regular.run {g : Gateway σ} (hg : Regular g) (actions : List (Action σ)) :
    Regular (g.run actions) :=
  run_keeps (fun _ _ _ hg h => ⟨h.orderly hg.order, h.countsSettlements hg.order hg.counts,
    h.keepsQueue hg.order hg.queue⟩) hg actions

theorem regular_run (root : ApiRoot) (store : σ) (actions : List (Action σ)) :
    Regular ((Gateway.new root store).run actions) :=
  Regular.run ⟨orderly_new root store, countsSettlements_new root store,
    keepsQueue_new root store⟩ actions

theorem RoundStep.cases_after {g : Gateway σ} {id : CallId} {rejected : String} {a : Action σ}
    {progress : Asking} {after : Phase} (h : RoundStep g id rejected a progress after)
    (hround : progress.inRound?.isSome = true) :
    3 ≤ after.rank ∨ ∃ progress', after = .asking rejected progress' ∧
      progress'.inRound?.isSome = true := by
  cases h with
  | stays => exact .inr ⟨_, rfl, hround⟩
  | looks => exact .inr ⟨_, rfl, rfl⟩
  | reads => exact .inr ⟨_, rfl, rfl⟩
  | repeats => exact .inr ⟨_, rfl, rfl⟩
  | returns => exact .inl (by simp [Phase.rank])
  | queues => exact .inl (by simp [Phase.rank])
  | breaksDown => exact .inl (by simp [Phase.rank])

section Question

variable {g : Gateway σ} {id : CallId} {rejected : String}

/-- What holds of a caller that begins a question, is kept by every step of its rounds, and is kept
when it has left the loop, holds after every run. -/
theorem round_run (hg : Regular g) (hasks : g.phase? id = some (.asking rejected .entering))
    {P : List (Action σ) → Phase → Prop} (hstart : P [] (.asking rejected .entering))
    (hround : ∀ first a progress after, progress.inRound?.isSome = true →
      (g.run first).phase? id = some (.asking rejected progress) →
      ((g.run first).step a).phase? id = some after →
      RoundStep (g.run first) id rejected a progress after →
      P first (.asking rejected progress) → P (first ++ [a]) after)
    (hleft : ∀ first a phase after, 3 ≤ phase.rank → 3 ≤ after.rank →
      (g.run first).phase? id = some phase → P first phase → P (first ++ [a]) after)
    (during : List (Action σ)) :
    ∃ phase, (g.run during).phase? id = some phase ∧ P during phase ∧
      (3 ≤ phase.rank ∨ ∃ progress, phase = .asking rejected progress ∧
        progress.inRound?.isSome = true) := by
  induction during using List.reverseRecOn with
  | nil => exact ⟨_, hasks, hstart, .inr ⟨_, rfl, rfl⟩⟩
  | append_singleton during a ih =>
    obtain ⟨phase, hphase, hP, hplace⟩ := ih
    have hrun : Regular (g.run during) := hg.run during
    rw [run_concat]
    rcases hplace with hrank | ⟨progress, rfl, hprogress⟩
    · obtain ⟨after, hafter, hpassage⟩ := (move_step _ a).passage hrun.order hphase
      have hrank' : 3 ≤ after.rank := Nat.le_trans hrank hpassage.rank_le
      exact ⟨after, hafter, hleft during a phase after hrank hrank' hphase hP, .inl hrank'⟩
    · obtain ⟨after, hafter, hstep⟩ := roundStep hrun.order hphase hprogress a
      exact ⟨after, hafter, hround during a progress after hprogress hphase hafter hstep hP,
        hstep.cases_after hprogress⟩

/-- A caller that has begun a question is in a round, or has left the loop. -/
theorem phase?_run (hg : Regular g) (hasks : g.phase? id = some (.asking rejected .entering))
    (during : List (Action σ)) :
    ∃ phase, (g.run during).phase? id = some phase ∧
      (3 ≤ phase.rank ∨ ∃ progress, phase = .asking rejected progress ∧
        progress.inRound?.isSome = true) := by
  obtain ⟨phase, hphase, -, hplace⟩ := round_run hg hasks (P := fun _ _ => True) trivial
    (fun _ _ _ _ _ _ _ _ _ => trivial) (fun _ _ _ _ _ _ _ _ => trivial) during
  exact ⟨phase, hphase, hplace⟩

/-- A caller that is in a round is there over its question. -/
theorem phase?_of_inRound (hg : Regular g)
    (hasks : g.phase? id = some (.asking rejected .entering)) {during : List (Action σ)}
    {taken : Nat} (hround : (g.run during).inRound? id = some taken) :
    ∃ progress, (g.run during).phase? id = some (.asking rejected progress) ∧
      progress.inRound? = some taken := by
  obtain ⟨phase, hphase, hplace⟩ := phase?_run hg hasks during
  rw [inRound?, hphase, Option.bind_some] at hround
  rcases hplace with hrank | ⟨progress, rfl, -⟩
  · rw [Phase.inRound?_of_rank hrank] at hround
    cases hround
  · exact ⟨progress, hphase, hround⟩

/-! ## The settlement that a repetition is charged to -/

/-- A round that a caller is in after the steps `earlier`, its look at the count, and the steps
`since`: the count was `number` when it looked, and it has it in hand since. -/
structure IsRound (g : Gateway σ) (id : CallId) (earlier since : List (Action σ)) (number : Nat) :
    Prop where
  /-- It was at the start of the round, -/
  starts : (g.run earlier).inRound? id = some 0
  /-- and looked at the count. -/
  looks : (g.run earlier).coordinator.settled = number
  /-- It has the count in hand since. -/
  holds : ∀ later rest, since = later ++ rest →
    (g.run (earlier ++ .advance id :: later)).inHand? id = some number

theorem IsRound.concat {earlier since : List (Action σ)} {number : Nat}
    (h : IsRound g id earlier since number) {a : Action σ}
    (hhand : (g.run (earlier ++ .advance id :: (since ++ [a]))).inHand? id = some number) :
    IsRound g id earlier (since ++ [a]) number where
  starts := h.starts
  looks := h.looks
  holds := by
    intro later rest hsince
    rcases List.eq_nil_or_concat rest with rfl | ⟨rest', last, rfl⟩
    · rw [List.append_nil] at hsince
      rw [← hsince]
      exact hhand
    · rw [List.concat_eq_append, ← List.append_assoc] at hsince
      obtain ⟨hbefore, -⟩ := List.append_inj' hsince rfl
      exact h.holds later rest' hbefore

/-- A caller with a count in hand is in the round in which it looked at it. -/
theorem exists_isRound (hg : Regular g) (hasks : g.phase? id = some (.asking rejected .entering))
    (first : List (Action σ)) {number : Nat} (hhand : (g.run first).inHand? id = some number) :
    ∃ earlier since, first = earlier ++ .advance id :: since ∧
      g.IsRound id earlier since number := by
  have hrun := round_run hg hasks (P := fun first phase => ∀ number, phase.inHand? = some number →
    ∃ earlier since, first = earlier ++ .advance id :: since ∧ g.IsRound id earlier since number)
    (fun number hhand => by cases hhand) ?_ ?_ first
  · obtain ⟨phase, hphase, hrounds, -⟩ := hrun
    rw [inHand?, hphase] at hhand
    exact hrounds number hhand
  · intro first a progress after hprogress hphase hafter hstep hrounds number hhand
    have hhand' : (g.run (first ++ [a])).inHand? id = some number := by
      rw [run_concat, inHand?, hafter]
      exact hhand
    -- A caller that had the count in hand before the step is still in the same round.
    have hsame : Phase.inHand? (.asking rejected progress) = some number →
        ∃ earlier since, first ++ [a] = earlier ++ .advance id :: since ∧
          g.IsRound id earlier since number := by
      intro hbefore
      obtain ⟨earlier, since, rfl, hisRound⟩ := hrounds number hbefore
      refine ⟨earlier, since ++ [a], by simp, hisRound.concat ?_⟩
      simpa using hhand'
    cases hstep with
    | stays => exact hsame hhand
    | reads => exact hsame hhand
    | looks ha =>
      subst ha
      obtain rfl : (g.run first).coordinator.settled = number := Option.some.inj hhand
      refine ⟨first, [], rfl, ⟨by rw [inRound?, hphase]; rfl, rfl, ?_⟩⟩
      intro later rest hsince
      obtain ⟨rfl, -⟩ := List.append_eq_nil_iff.mp hsince.symm
      exact hhand'
    | repeats => cases hhand
    | returns => cases hhand
    | queues => cases hhand
    | breaksDown => cases hhand
  · intro first a phase after _ hrank _ _ number hhand
    unfold Phase.inHand? at hhand
    split at hhand
    · simp [Phase.rank] at hrank
    · simp [Phase.rank] at hrank
    · cases hhand

/-- The caller starts another round in the step that follows the steps `first` of a run. -/
def RepeatsAfter (g : Gateway σ) (id : CallId) (during first : List (Action σ)) : Prop :=
  ∃ a later, during = first ++ a :: later ∧ repeats id (g.run first, a) = true

/-- Whoever starts another round has a count in hand that is out of date. -/
theorem inHand?_of_repeats (hg : Regular g)
    (hasks : g.phase? id = some (.asking rejected .entering)) {first : List (Action σ)}
    {a : Action σ} (h : repeats id (g.run first, a) = true) :
    (g.run (first ++ [a])).phase? id = some (.asking rejected .entering) ∧
      ∃ number, (g.run first).inHand? id = some number ∧
        number ≠ (g.run first).coordinator.settled := by
  simp only [repeats, Bool.and_eq_true, beq_iff_eq] at h
  obtain ⟨hbefore, hafter⟩ := h
  obtain ⟨progress, hphase, htaken⟩ := phase?_of_inRound hg hasks hbefore
  have hprogress : progress.inRound?.isSome = true := by rw [htaken]; rfl
  obtain ⟨after, hphase', hstep⟩ := roundStep (hg.run first).order hphase hprogress a
  rw [inRound?, hphase', Option.bind_some] at hafter
  cases hstep with
  | stays => exact absurd (htaken.symm.trans hafter) (by decide)
  | repeats ha hsettled =>
    refine ⟨by rw [run_concat]; exact hphase', _, ?_, hsettled.symm⟩
    rw [inHand?, hphase]
    rfl
  | looks => cases hafter
  | reads => cases hafter
  | returns => cases hafter
  | queues => cases hafter
  | breaksDown => cases hafter

/-- Before a step in which the caller starts another round, the cycle has settled whose number it
has in hand. -/
theorem charged (hg : Regular g) (hasks : g.phase? id = some (.asking rejected .entering))
    {first : List (Action σ)} {a : Action σ} (h : repeats id (g.run first, a) = true) :
    ∃ number earlier since, (g.run first).inHand? id = some number ∧
      number < (g.run first).coordinator.settled ∧ first = earlier ++ .advance id :: since ∧
      g.IsRound id earlier since number ∧
      (g.run (earlier ++ [.advance id])).Happened since (SettlesCycle number) := by
  obtain ⟨-, number, hhand, hne⟩ := inHand?_of_repeats hg hasks h
  obtain ⟨earlier, since, rfl, hisRound⟩ := exists_isRound hg hasks first hhand
  have hlooked : (g.run (earlier ++ [.advance id])).coordinator.settled = number := by
    rw [run_concat, settled_advance (hg.run earlier).order]
    exact hisRound.looks
  have hsplit : g.run (earlier ++ .advance id :: since) =
      (g.run (earlier ++ [.advance id])).run since := by
    rw [← run_append, List.append_assoc]
    rfl
  have horder : Orderly (g.run (earlier ++ [.advance id])) := (hg.run _).order
  have hle := settled_le_run horder since
  rw [← hsplit, hlooked] at hle
  have hlt : number < (g.run (earlier ++ .advance id :: since)).coordinator.settled :=
    Nat.lt_of_le_of_ne hle hne
  refine ⟨number, earlier, since, hhand, hlt, rfl, hisRound, ?_⟩
  exact happened_settlesCycle horder since (Nat.le_of_eq hlooked) (by rw [← hsplit]; exact hlt)

/-- After a repetition the caller has a higher count in hand than before. -/
theorem charged_lt (hg : Regular g) (hasks : g.phase? id = some (.asking rejected .entering))
    {first between : List (Action σ)} {a : Action σ} {number number' : Nat}
    (h : repeats id (g.run first, a) = true) (hhand : (g.run first).inHand? id = some number)
    (hhand' : (g.run (first ++ a :: between)).inHand? id = some number') : number < number' := by
  obtain ⟨hagain, -⟩ := inHand?_of_repeats hg hasks h
  obtain ⟨_, -, -, hhand'', hlt, -⟩ := charged hg hasks h
  obtain rfl := Option.some.inj (hhand.symm.trans hhand'')
  -- The caller is at the start of a round after the first repetition, and looks after that.
  have hsplit : g.run (first ++ a :: between) = (g.run (first ++ [a])).run between := by
    rw [← run_append, List.append_assoc]
    rfl
  rw [hsplit] at hhand'
  have hafter : Regular (g.run (first ++ [a])) := hg.run _
  obtain ⟨earlier, since, -, hisRound⟩ := exists_isRound hafter hagain between hhand'
  have hlooked := hisRound.looks
  have hle := settled_le_run hafter.order earlier
  have hstep : (g.run first).coordinator.settled ≤ (g.run (first ++ [a])).coordinator.settled := by
    rw [run_concat]
    exact (move_step (g.run first) a).settled_le (hg.run first).order
  omega

/-- Two repetitions that are charged to the same cycle are the same one. -/
theorem eq_of_charged (hg : Regular g) (hasks : g.phase? id = some (.asking rejected .entering))
    {during first first' : List (Action σ)} (h : g.RepeatsAfter id during first)
    (h' : g.RepeatsAfter id during first')
    (hsame : (g.run first).inHand? id = (g.run first').inHand? id) : first = first' := by
  -- Of two repetitions at different places one comes first.
  have hlater : ∀ {first first' later later' : List (Action σ)} {a b : Action σ},
      first ++ a :: later = first' ++ b :: later' → repeats id (g.run first, a) = true →
      (g.run first).inHand? id = (g.run first').inHand? id → first.length ≤ first'.length →
      first = first' := by
    intro first first' later later' a b hactions hrepeats hsame hle
    obtain ⟨between, rfl⟩ : first <+: first' :=
      List.prefix_of_prefix_length_le (List.prefix_append first (a :: later))
        (hactions ▸ List.prefix_append first' (b :: later')) hle
    cases between with
    | nil => simp
    | cons c between =>
      rw [List.append_assoc, List.append_cancel_left_eq, List.cons_append] at hactions
      obtain ⟨rfl, -⟩ := List.cons.inj hactions
      obtain ⟨-, number, hhand, -⟩ := inHand?_of_repeats hg hasks hrepeats
      have hlt := charged_lt hg hasks hrepeats hhand (hsame ▸ hhand)
      omega
  obtain ⟨a, later, hduring, hrepeats⟩ := h
  obtain ⟨b, later', hduring', hrepeats'⟩ := h'
  rcases Nat.le_total first.length first'.length with hle | hle
  · exact hlater (hduring.symm.trans hduring') hrepeats hsame hle
  · exact (hlater (hduring'.symm.trans hduring) hrepeats' hsame.symm hle).symm

/-! ## What the rounds cost -/

/-- What is counted in a run about the rounds of a caller. -/
structure Tally where
  /-- The turns that it takes in its rounds. -/
  turns : Nat
  /-- How often it reads the session in them. -/
  reads : Nat
  /-- How often it starts another round. -/
  repetitions : Nat
  /-- How many cycles settle while it is in a round. -/
  settlements : Nat
  /-- How often it gets a place in a queue. -/
  places : Nat

/-- What a run costs a caller. -/
def tally (g : Gateway σ) (id : CallId) (during : List (Action σ)) : Tally where
  turns := (g.trail during).countP (takesTurn id)
  reads := (g.trail during).countP (readsSession id)
  repetitions := (g.trail during).countP (repeats id)
  settlements := (g.trail during).countP (settlesMeanwhile id)
  places := (g.trail during).countP (takesPlace id)

/-- The rounds of a caller that is still in one, when `count` cycles are settled: it has taken
`taken` steps of its round, with the count `hand` in hand. -/
structure Tally.IsOpen (t : Tally) (count taken hand : Nat) : Prop where
  /-- Each round before took three turns. -/
  turns : t.turns = 3 * t.repetitions + taken
  /-- In each of them the session was read once. -/
  reads : t.reads = t.repetitions + taken / 2
  /-- The count has not fallen since the caller looked at it. -/
  hand_le : hand ≤ count
  /-- The settlements since then are not used up by the repetitions. -/
  settlements : t.repetitions + (count - hand) ≤ t.settlements
  /-- The caller has got no place. -/
  places : t.places = 0

/-- The rounds of a caller are bounded. -/
structure Tally.IsBounded (t : Tally) : Prop where
  /-- There are three turns in each round. -/
  turns : t.turns ≤ 3 * (t.repetitions + 1)
  /-- In each round the session is read once. -/
  reads : t.reads ≤ t.repetitions + 1
  /-- For each repetition a cycle has settled. -/
  repetitions : t.repetitions ≤ t.settlements

/-- What the rounds of a caller in the phase have cost. -/
def Tally.Balances (t : Tally) (count : Nat) (phase : Phase) : Prop :=
  match phase.inRound? with
  | some taken => t.IsOpen count taken (phase.inHand?.getD count)
  | none => t.IsBounded

theorem Tally.IsOpen.isBounded {t : Tally} {count taken hand : Nat} (h : t.IsOpen count taken hand)
    (htaken : taken ≤ 2) : t.IsBounded := by
  obtain ⟨hturns, hreads, hhand, hsettlements, -⟩ := h
  exact ⟨by omega, by omega, by omega⟩

/-- Settlements pay for rounds that are still to come. -/
theorem Tally.IsOpen.settle {t : Tally} {count taken : Nat} {hand : Option Nat}
    (h : t.IsOpen count taken (hand.getD count)) (settled : Nat) :
    { t with settlements := t.settlements + settled }.IsOpen (count + settled) taken
      (hand.getD (count + settled)) := by
  obtain ⟨hturns, hreads, hhand, hsettlements, hplaces⟩ := h
  cases hand with
  | none =>
    simp only [Option.getD_none] at hsettlements ⊢
    exact ⟨hturns, hreads, Nat.le_refl _, by dsimp only; omega, hplaces⟩
  | some number =>
    simp only [Option.getD_some] at hhand hsettlements ⊢
    exact ⟨hturns, hreads, by omega, by dsimp only; omega, hplaces⟩

theorem tally_concat (g : Gateway σ) (id : CallId) (during : List (Action σ)) (a : Action σ) :
    let x := (g.run during, a)
    let t := g.tally id during
    g.tally id (during ++ [a]) =
      { turns := t.turns + if takesTurn id x then 1 else 0
        reads := t.reads + if readsSession id x then 1 else 0
        repetitions := t.repetitions + if repeats id x then 1 else 0
        settlements := t.settlements + if settlesMeanwhile id x then 1 else 0
        places := t.places + if takesPlace id x then 1 else 0 } := by
  simp only [tally, countP_trail_concat]

/-- A step of a caller that is in no round costs it no round. -/
theorem Tally.IsBounded.concat {during : List (Action σ)} (h : (g.tally id during).IsBounded)
    (hround : (g.run during).inRound? id = none) (a : Action σ) :
    (g.tally id (during ++ [a])).IsBounded := by
  have hturn : takesTurn id (g.run during, a) = false := by simp [takesTurn, hround]
  have hread : readsSession id (g.run during, a) = false := by simp [readsSession, hround]
  have hrepeat : repeats id (g.run during, a) = false := by simp [repeats, hround]
  have hsettle : settlesMeanwhile id (g.run during, a) = false := by
    simp [settlesMeanwhile, hround]
  rw [tally_concat, hturn, hread, hrepeat, hsettle]
  exact ⟨h.turns, h.reads, h.repetitions⟩

/-- No place is got in a step after which the caller neither waits nor has given up. -/
theorem takesPlace_eq_false (hg : Regular g) {a : Action σ} {after : Phase}
    (hafter : (g.step a).phase? id = some after) (hwaits : after.waitsOn = none)
    (hgiven : after.isGivenUp = false) : takesPlace id (g, a) = false := by
  have hrun : Regular (g.run [a]) := hg.run [a]
  have hzero : (g.step a).placesOf id = 0 := hrun.queue.placesOf_eq_zero hafter hwaits hgiven
  simp [takesPlace, hzero]

/-- In a turn of its own a caller goes on in its rounds, and no cycle settles. -/
theorem tally_advance (hg : Regular g) {during : List (Action σ)} {taken : Nat} {after : Phase}
    (hround : (g.run during).inRound? id = some taken)
    (hafter : ((g.run during).step (.advance id)).phase? id = some after)
    (hwaits : after.waitsOn = none) (hgiven : after.isGivenUp = false) :
    let t := g.tally id during
    g.tally id (during ++ [.advance id]) =
      { t with
        turns := t.turns + 1
        reads := t.reads + if taken = 1 then 1 else 0
        repetitions := t.repetitions + if taken = 2 ∧ after.inRound? = some 0 then 1 else 0 } := by
  have hrun : Regular (g.run during) := hg.run during
  have hround' : ((g.run during).step (.advance id)).inRound? id = after.inRound? := by
    rw [inRound?, hafter]
    rfl
  have hown : Action.isTurnOf id (.advance id : Action σ) = true := Action.isTurnOf_eq_true.mpr rfl
  have hsettle : settlesMeanwhile id (g.run during, .advance id) = false := by
    have hcount := hrun.counts.settled_step hrun.order (.advance id)
    rw [settled_advance hrun.order] at hcount
    have hnot : ¬ (g.run during).settlements < ((g.run during).step (.advance id)).settlements := by
      intro hlt
      rw [if_pos hlt] at hcount
      omega
    simp [settlesMeanwhile, hnot]
  have hplace := takesPlace_eq_false hrun hafter hwaits hgiven
  rw [tally_concat, hsettle, hplace]
  simp [takesTurn, readsSession, repeats, hround, hround', hown]

/-- While someone else takes a step and the caller stays in its round, only settlements count. -/
theorem tally_concat_of_stays (hg : Regular g) {during : List (Action σ)} {a : Action σ}
    {progress : Asking} (hprogress : progress.inRound?.isSome = true) (hother : a ≠ .advance id)
    (hphase : (g.run during).phase? id = some (.asking rejected progress))
    (hafter : ((g.run during).step a).phase? id = some (.asking rejected progress)) :
    let t := g.tally id during
    ∃ settled, g.tally id (during ++ [a]) = { t with settlements := t.settlements + settled } ∧
      ((g.run during).step a).coordinator.settled =
        (g.run during).coordinator.settled + settled := by
  have hrun : Regular (g.run during) := hg.run during
  have hround : (g.run during).inRound? id = progress.inRound? := by
    rw [inRound?, hphase]
    rfl
  have hround' : ((g.run during).step a).inRound? id = progress.inRound? := by
    rw [inRound?, hafter]
    rfl
  have hno : a.isTurnOf id = false := by
    rw [Bool.eq_false_iff]
    exact fun hown => hother (Action.isTurnOf_eq_true.mp hown)
  have hplace : takesPlace id (g.run during, a) = false := by
    cases progress with
    | queued => cases hprogress
    | _ => exact takesPlace_eq_false hrun hafter rfl rfl
  have hrepeat : repeats id (g.run during, a) = false := by
    unfold repeats
    rw [hround, hround']
    cases progress <;> rfl
  have hcount := hrun.counts.settled_step hrun.order a
  have hsettle : settlesMeanwhile id (g.run during, a) =
      decide ((g.run during).settlements < ((g.run during).step a).settlements) := by
    simp [settlesMeanwhile, hround, hprogress]
  refine ⟨_, ?_, hcount⟩
  rw [tally_concat, hsettle, hplace, hrepeat]
  simp [takesTurn, readsSession, hno]

/-- A caller that leaves the loop has paid for its last round. -/
theorem Tally.IsOpen.concat_of_leaves {during : List (Action σ)} {a : Action σ}
    {count taken hand : Nat} (h : (g.tally id during).IsOpen count taken hand) (htaken : taken ≤ 2)
    (hround : (g.run during).inRound? id = some taken)
    (hleaves : ((g.run during).step a).inRound? id = none) :
    (g.tally id (during ++ [a])).IsBounded := by
  obtain ⟨hturns, hreads, -, hsettlements, -⟩ := h
  have hrepeat : repeats id (g.run during, a) = false := by simp [repeats, hleaves]
  have hread : readsSession id (g.run during, a) = true → taken = 1 := by
    intro hread
    simp only [readsSession, hround, Bool.and_eq_true, beq_iff_eq, Option.some.injEq] at hread
    exact hread.2
  rw [tally_concat, hrepeat]
  refine ⟨?_, ?_, ?_⟩
  · show _ + (if _ then 1 else 0) ≤ 3 * ((g.tally id during).repetitions + 0 + 1)
    split <;> omega
  · show _ + (if _ then 1 else 0) ≤ (g.tally id during).repetitions + 0 + 1
    split
    · have := hread ‹_›
      omega
    · omega
  · show (g.tally id during).repetitions + 0 ≤ _ + _
    omega

/-- What a step costs a caller in a round. -/
theorem Tally.balances_concat (hg : Regular g) {during : List (Action σ)} {a : Action σ}
    {progress : Asking} {after : Phase} (hprogress : progress.inRound?.isSome = true)
    (hphase : (g.run during).phase? id = some (.asking rejected progress))
    (hafter : ((g.run during).step a).phase? id = some after)
    (hstep : RoundStep (g.run during) id rejected a progress after)
    (h : (g.tally id during).Balances (g.run during).coordinator.settled
      (.asking rejected progress)) :
    (g.tally id (during ++ [a])).Balances ((g.run during).step a).coordinator.settled after := by
  obtain ⟨taken, htaken⟩ := Option.isSome_iff_exists.mp hprogress
  have hround : (g.run during).inRound? id = some taken := by
    rw [inRound?, hphase]
    exact htaken
  have horder : Orderly (g.run during) := (hg.run during).order
  rw [Balances, Phase.inRound?, htaken] at h
  have hleaves : after.inRound? = none → (g.tally id (during ++ [a])).IsBounded := by
    intro hnone
    refine h.concat_of_leaves (Asking.inRound?_le htaken) hround ?_
    rw [inRound?, hafter]
    exact hnone
  cases hstep with
  | stays hother =>
    obtain ⟨settled, htally, hcount⟩ := tally_concat_of_stays hg hprogress hother hphase hafter
    rw [Balances, Phase.inRound?, htaken, htally, hcount]
    exact h.settle settled
  | looks ha =>
    cases htaken
    subst ha
    rw [tally_advance hg hround hafter rfl rfl, settled_advance horder]
    exact ⟨by simpa using h.turns, h.reads, Nat.le_refl _, h.settlements, h.places⟩
  | reads ha =>
    cases htaken
    subst ha
    rw [tally_advance hg hround hafter rfl rfl, settled_advance horder]
    exact ⟨by simpa using h.turns, by simpa using h.reads, h.hand_le, h.settlements, h.places⟩
  | @repeats number current ha hsettled =>
    cases htaken
    subst ha
    rw [tally_advance hg hround hafter rfl rfl, settled_advance horder]
    obtain ⟨hturns, hreads, hhand, hsettlements, hplaces⟩ := h
    -- The count in hand is out of date, so a settlement is left to pay for the repetition.
    have hhand' : number ≤ (g.run during).coordinator.settled := hhand
    have hlt : number < (g.run during).coordinator.settled :=
      Nat.lt_of_le_of_ne hhand' (Ne.symm hsettled)
    have hpaid : (g.tally id during).repetitions +
        ((g.run during).coordinator.settled - number) ≤ (g.tally id during).settlements :=
      hsettlements
    have hstart : 2 = 2 ∧ (Phase.asking rejected .entering).inRound? = some 0 := ⟨rfl, rfl⟩
    rw [if_neg (by decide), if_pos hstart]
    refine ⟨?_, ?_, Nat.le_refl _, ?_, hplaces⟩
    · show (g.tally id during).turns + 1 = 3 * ((g.tally id during).repetitions + 1) + 0
      omega
    · show (g.tally id during).reads + 0 = (g.tally id during).repetitions + 1 + 0 / 2
      omega
    · show (g.tally id during).repetitions + 1 + ((g.run during).coordinator.settled -
        (g.run during).coordinator.settled) ≤ (g.tally id during).settlements
      omega
  | returns => exact hleaves rfl
  | queues => exact hleaves rfl
  | breaksDown => exact hleaves rfl

/-- In every run a caller's rounds are paid for by settlements, and it has got no place while it is
still in one. -/
theorem tally_run (hg : Regular g) (hasks : g.phase? id = some (.asking rejected .entering))
    (during : List (Action σ)) :
    (g.tally id during).IsBounded ∧
      ((g.run during).inRound? id ≠ none → (g.tally id during).places = 0) := by
  have hrun := round_run hg hasks (P := fun during phase =>
    (g.tally id during).Balances (g.run during).coordinator.settled phase) ?_ ?_ ?_ during
  · obtain ⟨phase, hphase, hbalances, -⟩ := hrun
    have hround : (g.run during).inRound? id = phase.inRound? := by
      rw [inRound?, hphase]
      rfl
    rw [hround]
    unfold Tally.Balances at hbalances
    split at hbalances
    · rename_i taken htaken
      exact ⟨hbalances.isBounded (Phase.inRound?_le htaken), fun _ => hbalances.places⟩
    · rename_i hnone
      exact ⟨hbalances, fun hsome => absurd hnone hsome⟩
  · refine ⟨rfl, rfl, Nat.le_refl _, ?_, rfl⟩
    show 0 + (g.coordinator.settled - g.coordinator.settled) ≤ 0
    omega
  · intro first a progress after hprogress hphase hafter hstep hbalances
    rw [run_concat]
    exact Tally.balances_concat hg hprogress hphase hafter hstep hbalances
  · intro first a phase after hrank hrank' hphase hbalances
    rw [Tally.Balances, Phase.inRound?_of_rank hrank] at hbalances
    rw [Tally.Balances, Phase.inRound?_of_rank hrank']
    refine hbalances.concat ?_ a
    rw [inRound?, hphase]
    exact Phase.inRound?_of_rank hrank

/-! ## Leaving the loop -/

/-- A caller that has left the loop gets no place any more. -/
theorem takesPlace_trail_eq_zero (hg : Regular g) {phase : Phase}
    (hphase : g.phase? id = some phase) (hrank : 3 ≤ phase.rank) (later : List (Action σ)) :
    (g.trail later).countP (takesPlace id) = 0 := by
  induction later generalizing g phase with
  | nil => rfl
  | cons a later ih =>
    have hmove := move_step g a
    have hround : g.inRound? id = none := by
      rw [inRound?, hphase]
      exact Phase.inRound?_of_rank hrank
    have hplace : takesPlace id (g, a) = false := by
      have hle : (g.step a).placesOf id ≤ g.placesOf id := hmove.placesOf_le hround
      simpa [takesPlace] using hle
    obtain ⟨after, hafter, hpassage⟩ := hmove.passage hg.order hphase
    have hrest := ih (hg.run [a]) hafter (Nat.le_trans hrank hpassage.rank_le)
    rw [trail, List.countP_cons_of_neg (by simp [hplace])]
    exact hrest

/-- How a caller leaves the loop in a step, and how many places it has got then: it returns with a
result, or it has one place in the queue of one cycle, which runs then, or reading the session has
broken it down. -/
inductive Leaves (g g' : Gateway σ) (id : CallId) (rejected : String) : Nat → Prop where
  /-- The caller returns. -/
  | returns {result : Except RefreshError String}
      (htold : g'.phase? id = some (.asking rejected (.told result)))
      (hplace : g'.placesOf id = 0) : Leaves g g' id rejected 0
  /-- The caller is in the queue. -/
  | queues {flight : Flight} (hflight : g'.coordinator.flight = some flight)
      (hqueued : g'.phase? id = some (.asking rejected (.queued flight.cycle)))
      (hplace : g'.placesOf id = 1) : Leaves g g' id rejected 1
  /-- The store has broken down. -/
  | breaksDown (hget : (Store.get g.store).1 = .panicked)
      (hended : g'.phase? id = some (.ended .panicked)) (hplace : g'.placesOf id = 0) :
      Leaves g g' id rejected 0

/-- A caller leaves the loop in one of three ways, and this decides how many places it ever gets. -/
theorem leaves_of_step (hg : Regular g) (hasks : g.phase? id = some (.asking rejected .entering))
    {first : List (Action σ)} {a : Action σ} (hround : (g.run first).inRound? id ≠ none)
    (hleft : (g.run (first ++ [a])).inRound? id = none) (later : List (Action σ)) :
    ∃ places, Leaves (g.run first) (g.run (first ++ [a])) id rejected places ∧
      (g.tally id (first ++ a :: later)).places = places := by
  have hrun : Regular (g.run first) := hg.run first
  have hrun' : Regular (g.run (first ++ [a])) := hg.run _
  obtain ⟨-, hnone⟩ := tally_run hg hasks first
  obtain ⟨taken, htaken⟩ := Option.ne_none_iff_exists'.mp hround
  obtain ⟨progress, hphase, htaken⟩ := phase?_of_inRound hg hasks htaken
  have hprogress : progress.inRound?.isSome = true := by rw [htaken]; rfl
  obtain ⟨after, hafter, hstep⟩ := roundStep hrun.order hphase hprogress a
  have hafter' : (g.run (first ++ [a])).phase? id = some after := by
    rw [run_concat]
    exact hafter
  rw [inRound?, hafter', Option.bind_some] at hleft
  have hbefore : (g.run first).placesOf id = 0 := by
    cases progress with
    | queued => cases hprogress
    | told => cases hprogress
    | _ => exact hrun.queue.placesOf_eq_zero hphase rfl rfl
  -- All the places that the caller ever gets are got in this step.
  have hplaces : 3 ≤ after.rank → (g.tally id (first ++ a :: later)).places =
      if 0 < (g.run (first ++ [a])).placesOf id then 1 else 0 := by
    intro hrank
    have hrest := takesPlace_trail_eq_zero hrun' hafter' hrank later
    have hsplit : first ++ a :: later = (first ++ [a]) ++ later := by simp
    have hearlier : (g.trail first).countP (takesPlace id) = 0 := hnone hround
    show (g.trail (first ++ a :: later)).countP (takesPlace id) = _
    rw [hsplit, trail_append, List.countP_append, hrest, countP_trail_concat, hearlier]
    simp [takesPlace, hbefore, run_concat]
  cases hstep with
  | stays =>
    rw [Phase.inRound?] at hleft
    rw [hleft] at hprogress
    cases hprogress
  | looks => cases hleft
  | reads => cases hleft
  | repeats => cases hleft
  | returns =>
    have hzero := hrun'.queue.placesOf_eq_zero hafter' rfl rfl
    refine ⟨0, .returns hafter' hzero, ?_⟩
    rw [hplaces (by simp [Phase.rank]), hzero]
    rfl
  | queues cycle =>
    obtain ⟨flight, hflight, rfl, hone⟩ := hrun'.queue.placesOf_eq_one hrun'.order hafter'
    refine ⟨1, .queues hflight hafter' hone, ?_⟩
    rw [hplaces (by simp [Phase.rank]), hone]
    rfl
  | breaksDown hget =>
    have hzero := hrun'.queue.placesOf_eq_zero hafter' rfl rfl
    refine ⟨0, .breaksDown hget hafter' hzero, ?_⟩
    rw [hplaces (by simp [Phase.rank]), hzero]
    rfl

end Question

/-- Whatever its store does and whoever else is at work, a caller that asks for a token in place of
a refused one goes round its loop once more than cycles settle meanwhile, at the most. Each
repetition is charged to a cycle that settles between the look at the count and the lock of the same
round, and no two to the same one. In a round the store is asked once, for the session. As long as
the caller is in the loop it has got no place in a queue; when it has left, it has returned and
never gets one, or has got the one that it ever gets. -/
theorem rounds_are_bounded (root : ApiRoot) (store : σ) (before during : List (Action σ))
    (id : CallId) (rejected : String)
    (hasks : ((Gateway.new root store).run before).phase? id =
      some (.asking rejected .entering)) :
    let g := (Gateway.new root store).run before
    let t := g.tally id during
    (∃ cycleOf : List (Action σ) → Nat,
      (∀ first, g.RepeatsAfter id during first → ∃ earlier since,
        first = earlier ++ .advance id :: since ∧ g.IsRound id earlier since (cycleOf first) ∧
        (g.run (earlier ++ [.advance id])).Happened since (SettlesCycle (cycleOf first))) ∧
      ∀ first first', g.RepeatsAfter id during first → g.RepeatsAfter id during first' →
        cycleOf first = cycleOf first' → first = first') ∧
    (∀ first taken, (g.run first).inRound? id = some taken →
      ((g.run first).step (.advance id)).store =
        if taken = 1 then (Store.get (g.run first).store).2 else (g.run first).store) ∧
    t.reads ≤ t.settlements + 1 ∧ t.repetitions ≤ t.settlements ∧
    t.turns ≤ 3 * (t.settlements + 1) ∧
    ((g.run during).inRound? id ≠ none → t.places = 0) ∧
    ∀ first a later, during = first ++ a :: later → (g.run first).inRound? id ≠ none →
      (g.run (first ++ [a])).inRound? id = none →
      ∃ places, Leaves (g.run first) (g.run (first ++ [a])) id rejected places ∧
        t.places = places := by
  intro g t
  have hg : Regular g := regular_run root store before
  obtain ⟨⟨hturns, hreads, hrepetitions⟩, hplaces⟩ := tally_run hg hasks during
  have hhand : ∀ first, g.RepeatsAfter id during first →
      (g.run first).inHand? id = some (((g.run first).inHand? id).getD 0) := by
    rintro first ⟨a, later, -, hrepeats⟩
    obtain ⟨-, number, hhand, -⟩ := inHand?_of_repeats hg hasks hrepeats
    rw [hhand]
    rfl
  have hreads' : t.reads ≤ t.settlements + 1 := Nat.le_trans hreads (Nat.succ_le_succ hrepetitions)
  have hturns' : t.turns ≤ 3 * (t.settlements + 1) :=
    Nat.le_trans hturns (Nat.mul_le_mul_left 3 (Nat.succ_le_succ hrepetitions))
  refine ⟨⟨fun first => ((g.run first).inHand? id).getD 0, ?_, ?_⟩, ?_, hreads', hrepetitions,
    hturns', hplaces, ?_⟩
  · rintro first ⟨a, later, -, hrepeats⟩
    obtain ⟨number, earlier, since, hhand, -, hfirst, hisRound, hsettles⟩ :=
      charged hg hasks hrepeats
    have hnumber : ((g.run first).inHand? id).getD 0 = number := by
      rw [hhand]
      rfl
    refine ⟨earlier, since, hfirst, ?_, ?_⟩
    · simpa only [hnumber] using hisRound
    · simpa only [hnumber] using hsettles
  · intro first first' h h' hsame
    refine eq_of_charged hg hasks h h' ?_
    rw [hhand first h, hhand first' h']
    exact congrArg some hsame
  · intro first taken hround
    obtain ⟨progress, hphase, htaken⟩ := phase?_of_inRound hg hasks hround
    exact (advance_of_round hphase htaken).2
  · rintro first a later rfl hround hleft
    exact leaves_of_step hg hasks hround hleft later

/-- A caller has read the session when a cycle of another one fails. It starts another round, finds
a session with the refused token, and starts a cycle itself: two readings and one place. -/
theorem rounds_are_bounded_of_failed_cycle :
    let g := (Gateway.new ⟨"http://[::1]"⟩ (Cell.mk (some ⟨"A1", some "R1", none⟩))).run
      [.start (.token "A1"), .start (.token "A1")]
    let first : List (Action Cell) := [.advance 1, .advance 1, .advance 0, .advance 0, .advance 0,
      .advanceCycle 0, .expireRefresh 0, .advanceCycle 0, .advanceCycle 0]
    let during := first ++ [.advance 1, .signIn ⟨"A1", some "R2", none⟩, .advance 1, .advance 1,
      .advance 1]
    let t := g.tally 1 during
    g.phase? 1 = some (.asking "A1" .entering) ∧
      (∃ number earlier since, first = earlier ++ .advance 1 :: since ∧
        g.IsRound 1 earlier since number ∧
        (g.run (earlier ++ [.advance 1])).Happened since (SettlesCycle number)) ∧
      t.repetitions = 1 ∧ t.settlements = 1 ∧ t.reads = 2 ∧ t.reads ≤ t.settlements + 1 ∧
      ∃ places, Leaves (g.run (during.take 13)) (g.run during) 1 "A1" places ∧
        t.places = places ∧ places = 1 := by
  intro g first during t
  have hasks : g.phase? 1 = some (.asking "A1" .entering) := rfl
  obtain ⟨⟨cycleOf, hcharged, -⟩, -, hreads, -, -, -, hleaves⟩ :=
    rounds_are_bounded ⟨"http://[::1]"⟩ (Cell.mk (some ⟨"A1", some "R1", none⟩))
      [.start (.token "A1"), .start (.token "A1")] during 1 "A1" hasks
  have hrepeats : g.RepeatsAfter 1 during first := ⟨_, _, rfl, by decide +kernel⟩
  obtain ⟨places, hleft, hplaces⟩ := hleaves (during.take 13) (.advance 1) [] rfl
    (by decide +kernel) (by decide +kernel)
  refine ⟨hasks, ⟨cycleOf first, hcharged first hrepeats⟩, by decide +kernel, by decide +kernel,
    by decide +kernel, hreads, places, hleft, hplaces, ?_⟩
  rw [← hplaces]
  decide +kernel

end Gateway

end BearerClient
