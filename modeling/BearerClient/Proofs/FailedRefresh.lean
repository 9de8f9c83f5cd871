import BearerClient.Proofs.Retries
import BearerClient.Proofs.SessionVersions
import BearerClient.Proofs.Waiters

/-!
# A failed refresh ends everything once

Many requests are refused under the same session, and the refresh fails. `Fate` is how far that has
come: nothing is running yet, a cycle is under way, it has ended the session, or it has told its
failure to everyone. Each step keeps it (`Doomed.step`), since whoever is late finds the session
gone and the cycle settled. That each refused request comes to its end is shown by counting the
turns that it still needs (`Needs`).

The main statement is `failed_refresh_ends_all`.
-/

namespace BearerClient

/-- The status of the answer to an attempt, if there is a complete one. -/
def Incident.status? : Incident → Option Nat
  | .answered (.ok response) => some response.status
  | _ => none

theorem Incident.status?_eq_some {incident : Incident} {status : Nat}
    (h : incident.status? = some status) :
    ∃ response, incident = .answered (.ok response) ∧ response.status = status := by
  unfold status? at h
  split at h
  · exact ⟨_, rfl, Option.some.inj h⟩
  · cases h

/-- Whoever looks again has learned that a cycle has settled meanwhile. -/
theorem Coordinator.settled_ne_of_again {c : Coordinator} {rejected : String} {settled : Nat}
    {read : Option Session} (h : c.decide rejected settled read = .again) : c.settled ≠ settled := by
  rintro rfl
  unfold decide at h
  split at h
  · cases h
  · rw [if_neg (by simp)] at h
    cases read with
    | none => cases h
    | some session =>
      simp only at h
      split at h
      · cases h
      · cases h

/-- Whether the task of a cycle has neither got tokens nor come to an end. -/
def Stage.IsUnfinished : Stage → Prop
  | .reading | .exchanging _ _ | .failing _ => True
  | .storing _ | .settling _ => False

/-- Whether a notice says that the request of a cycle was sent. -/
def Notice.isExchange : Notice → Bool
  | .exchange _ _ _ => true
  | _ => false

/-! ## What the callers know -/

/-- What a caller may know on its way to a fresh token, if the refresh of the session `s` fails,
`settled` cycles are settled and the store holds `current`. -/
def Asking.Fits (s : Session) (settled : Nat) (current : Option Session) : Asking → Prop
  | .entering | .queued _ => True
  | .counted count => count ≤ settled
  | .seen count read => count ≤ settled ∧ (read = some s ∧ count = 0 ∨ read = none ∧ current = none)
  | .told result => 1 ≤ settled ∧ ∃ e, result = .error e

/-- Where a caller may be, if the refresh of the session `s` fails. -/
def Phase.Fits (s : Session) (settled : Nat) (current : Option Session) : Phase → Prop
  | .first token _ => token = s.accessToken
  | .asking rejected progress => rejected = s.accessToken ∧ progress.Fits s settled current
  | .second _ _ => False
  | .expiring token _ => token = s.accessToken ∧ 1 ≤ settled
  | .opening | .ended _ | .abandoned => True

/-- What a caller may meet, if the refresh of the session `s` fails. -/
def Incident.Fits (s : Session) : Incident → Prop
  | .opens (some found) => found = s
  | .told (.ok _) | .breaksDown => False
  | _ => True

theorem Phase.Fits.mono {s : Session} {settled settled' : Nat} {current current' : Option Session}
    {phase : Phase} (h : phase.Fits s settled current) (hsettled : settled ≤ settled')
    (hcurrent : current = none → current' = none) : phase.Fits s settled' current' := by
  cases phase with
  | asking rejected progress =>
    obtain ⟨hrejected, hprogress⟩ := h
    refine ⟨hrejected, ?_⟩
    cases progress with
    | counted count => exact Nat.le_trans hprogress hsettled
    | seen count read =>
      obtain ⟨hcount, hread | ⟨hread, hnone⟩⟩ := hprogress
      · exact ⟨Nat.le_trans hcount hsettled, .inl hread⟩
      · exact ⟨Nat.le_trans hcount hsettled, .inr ⟨hread, hcurrent hnone⟩⟩
    | told result => exact ⟨Nat.le_trans hprogress.1 hsettled, hprogress.2⟩
    | _ => trivial
  | expiring token reason => exact ⟨h.1, Nat.le_trans h.2 hsettled⟩
  | _ => exact h

namespace Gateway

variable {σ : Type}

/-! ## Runs in which the refresh fails -/

variable [Store σ] [LawfulStore σ]

/-- An action of a request or of a cycle, or one that leaves the session alone. -/
def Action.IsOfRequest : Action σ → Prop
  | .start (.token _) | .signIn _ | .signOut | .invalidate _ _ => False
  | .disturb change => ∀ store, held (change store) = held store
  | _ => True

/-- A step of requests and cycles over a store that serves, in which no refresh succeeds. -/
structure IsVain (g : Gateway σ) (a : Action σ) : Prop where
  /-- Nobody logs in or out. -/
  request : a.IsOfRequest
  /-- The session can be read. -/
  reads : (Store.get g.store).1 = .ok g.current
  /-- The session can be removed. -/
  clears : (Store.clear (Store.get g.store).2).1 = .ok ()
  /-- The backend issues no tokens. -/
  barren : ∀ tokens, ¬ Issues g a tokens

theorem IsVain.invalidate {g : Gateway σ} {a : Action σ} (h : IsVain g a)
    (husable : g.invalidator.poisoned = false) (token reason : String) :
    (g.invalidate token reason).1 ≠ .panicked ∧
      (g.invalidate token reason).2.invalidator.poisoned = false := by
  obtain ⟨⟨ended, hok⟩, hkept⟩ := Invalidator.endSession_of_serves husable h.reads h.clears
    (some token) (.expired reason)
  refine ⟨?_, hkept⟩
  have hended : (g.invalidate token reason).1 = .ok ended := hok
  rw [hended]
  simp

/-- How far the refresh of the session `s` has come, which fails. -/
inductive Fate (s : Session) (g : Gateway σ) : Prop where
  /-- Nobody has started it yet. -/
  | untouched (hcurrent : g.current = some s) (hidle : g.coordinator.flight = none)
      (hsettled : g.coordinator.settled = 0) (hevents : g.invalidator.feed.events = [])
  /-- It is under way. -/
  | running {cycle : Cycle} (hcurrent : g.current = some s)
      (hcycles : g.coordinator.cycles = [cycle]) (hrejected : cycle.rejected = s.accessToken)
      (hstage : cycle.stage.IsUnfinished) (hsettled : g.coordinator.settled = 0)
      (hevents : g.invalidator.feed.events = [])
  /-- It has failed and has ended the session. -/
  | failed {cycle : Cycle} {e : RefreshError} (hcurrent : g.current = none)
      (hcycles : g.coordinator.cycles = [cycle]) (hstage : cycle.stage = .settling (.error e))
      (hsettled : g.coordinator.settled = 0)
      (hevents : g.invalidator.feed.events = [.expired e.message])
  /-- It has told its failure to everyone. -/
  | gone {queue : List CallId} {e : RefreshError} (hcurrent : g.current = none)
      (hidle : g.coordinator.flight = none) (hsettled : g.coordinator.settled = 1)
      (hevents : g.invalidator.feed.events = [.expired e.message])
      (htold : .settled 0 queue (.error e) ∈ g.log)

/-- A gateway in which the refresh of the session `s` fails. -/
structure Doomed (s : Session) (g : Gateway σ) : Prop where
  /-- The gateway is in order. -/
  order : Orderly g
  /-- Sessions can be ended. -/
  usable : g.invalidator.poisoned = false
  /-- The refresh has come so far. -/
  fate : Fate s g
  /-- Every caller is where it may be. -/
  callers : ∀ id phase, g.phase? id = some phase →
    phase.Fits s g.coordinator.settled g.current

theorem doomed_new {root : ApiRoot} {store : σ} {s : Session} (hs : held store = some s) :
    Doomed s (.new root store) where
  order := orderly_new root store
  usable := rfl
  fate := .untouched hs rfl rfl rfl
  callers _ _ h := by simp [phase?, Gateway.new] at h

section Fates

variable {s : Session} {g g' : Gateway σ}

/-- The session is the one that fails to be refreshed, or it is gone. -/
theorem Fate.current_cases (h : Fate s g) :
    g.current = some s ∧ g.coordinator.settled = 0 ∧ g.invalidator.feed.events = [] ∨
      g.current = none := by
  cases h with
  | untouched hcurrent _ hsettled hevents => exact .inl ⟨hcurrent, hsettled, hevents⟩
  | running hcurrent _ _ _ hsettled hevents => exact .inl ⟨hcurrent, hsettled, hevents⟩
  | failed hcurrent => exact .inr hcurrent
  | gone hcurrent => exact .inr hcurrent

/-- Nothing that concerns the refresh has changed. -/
theorem Fate.of_same (h : Fate s g) (hcurrent : g'.current = g.current)
    (hidle : g.coordinator.flight = none → g'.coordinator.flight = none)
    (hcycles : g'.coordinator.cycles = g.coordinator.cycles)
    (hsettled : g'.coordinator.settled = g.coordinator.settled)
    (hfeed : g'.invalidator.feed = g.invalidator.feed)
    (hlog : ∀ notice ∈ g.log, notice ∈ g'.log) : Fate s g' := by
  have hevents : g'.invalidator.feed.events = g.invalidator.feed.events := by rw [hfeed]
  cases h with
  | untouched h1 h2 h3 h4 =>
    exact .untouched (hcurrent.trans h1) (hidle h2) (hsettled.trans h3) (hevents.trans h4)
  | running h1 h2 h3 h4 h5 h6 =>
    exact .running (hcurrent.trans h1) (hcycles.trans h2) h3 h4 (hsettled.trans h5)
      (hevents.trans h6)
  | failed h1 h2 h3 h4 h5 =>
    exact .failed (hcurrent.trans h1) (hcycles.trans h2) h3 (hsettled.trans h4) (hevents.trans h5)
  | gone h1 h2 h3 h4 h5 =>
    exact .gone (hcurrent.trans h1) (hidle h2) (hsettled.trans h3) (hevents.trans h4) (hlog _ h5)

/-- The only task is under way, or about to tell its failure. -/
theorem Fate.of_cycle (h : Fate s g) (horder : Orderly g) {cycle : Cycle}
    (hcycle : g.coordinator.cycle? cycle.number = some cycle) :
    (g.current = some s ∧ cycle.rejected = s.accessToken ∧ cycle.stage.IsUnfinished ∧
        g.coordinator.settled = 0 ∧ g.invalidator.feed.events = []) ∨
      ∃ e, g.current = none ∧ cycle.stage = .settling (.error e) ∧ g.coordinator.settled = 0 ∧
        g.invalidator.feed.events = [.expired e.message] := by
  obtain ⟨flight, hflight, -, hcycles, -⟩ := horder.coordinator.flight_of_cycle? hcycle
  cases h with
  | untouched _ hidle =>
    rw [hidle] at hflight
    cases hflight
  | running hcurrent honly hrejected hstage hsettled hevents =>
    obtain rfl := List.singleton_inj.mp (hcycles.symm.trans honly)
    exact .inl ⟨hcurrent, hrejected, hstage, hsettled, hevents⟩
  | @failed _ e hcurrent honly hstage hsettled hevents =>
    obtain rfl := List.singleton_inj.mp (hcycles.symm.trans honly)
    exact .inr ⟨e, hcurrent, hstage, hsettled, hevents⟩
  | gone _ hidle =>
    rw [hidle] at hflight
    cases hflight

/-- While no cycle runs, nobody has started the refresh yet, or it has told its failure. -/
theorem Fate.of_idle (h : Fate s g) (horder : Orderly g) (hidle : g.coordinator.flight = none) :
    (g.current = some s ∧ g.coordinator.settled = 0 ∧ g.invalidator.feed.events = []) ∨
      g.current = none ∧ g.coordinator.settled = 1 := by
  have hnone : g.coordinator.cycles = [] := (horder.coordinator.idle hidle).1
  cases h with
  | untouched hcurrent _ hsettled hevents => exact .inl ⟨hcurrent, hsettled, hevents⟩
  | running _ hcycles => cases hnone.symm.trans hcycles
  | failed _ hcycles => cases hnone.symm.trans hcycles
  | gone hcurrent _ hsettled => exact .inr ⟨hcurrent, hsettled⟩

/-- A cycle that goes on in vain stays under way. -/
theorem Work.isUnfinished {cycle : Cycle} {a : Action σ} {stage : Stage} {store : σ}
    {notices : List Notice} (h : Work g cycle a stage store notices) (hvain : IsVain g a)
    (hcycle : g.coordinator.cycle? cycle.number = some cycle)
    (hstage : cycle.stage.IsUnfinished) : stage.IsUnfinished ∧ held store = g.current := by
  have hget := LawfulStore.held_get g.store
  have hstoring : ∀ renewed, cycle.stage ≠ .storing renewed := by
    intro renewed hstoring
    rw [hstoring] at hstage
    exact hstage
  cases h with
  | breaksReading _ hpanics =>
    rw [hvain.reads] at hpanics
    cases hpanics
  | cannotRead => exact ⟨trivial, hget⟩
  | findsNone => exact ⟨trivial, hget⟩
  | lacksToken => exact ⟨trivial, hget⟩
  | lacksAddress => exact ⟨trivial, hget⟩
  | sends => exact ⟨trivial, hget⟩
  | receives hexchanging ha htokens =>
    exact absurd ⟨_, _, cycle, _, _, ha, hcycle, hexchanging, htokens⟩ (hvain.barren _)
  | receivesNone => exact ⟨trivial, rfl⟩
  | stores hstage' => exact absurd hstage' (hstoring _)
  | cannotStore hstage' => exact absurd hstage' (hstoring _)
  | breaksStoring hstage' => exact absurd hstage' (hstoring _)

/-- A cycle that has failed ends the session and tells why. -/
theorem Fate.fails (h : Fate s g) (horder : Orderly g) {a : Action σ} (hvain : IsVain g a)
    (husable : g.invalidator.poisoned = false) {cycle : Cycle} {e : RefreshError}
    {result : Except RefreshError String}
    (hcycle : g.coordinator.cycle? cycle.number = some cycle) (hstage : cycle.stage = .failing e)
    (hresult : result = if (g.invalidate cycle.rejected e.message).1 = .panicked then
      .error .aborted else .error e) :
    Fate s ((g.invalidate cycle.rejected e.message).2.setStage cycle.number (.settling result)) := by
  rcases h.of_cycle horder hcycle with ⟨hcurrent, hrejected, -, hsettled, hevents⟩ | ⟨e', -, hstage', -⟩
  · obtain ⟨hwell, -⟩ := hvain.invalidate husable cycle.rejected e.message
    rw [if_neg hwell] at hresult
    subst hresult
    obtain ⟨⟨ended, hok⟩, -⟩ := Invalidator.endSession_of_serves husable hvain.reads hvain.clears
      (some cycle.rejected) (.expired e.message)
    rcases g.invalidator.endSession_cases (some cycle.rejected) (.expired e.message) g.store with
      ⟨-, -, -, -, hnone, hfeed⟩ | ⟨-, -, -, hother⟩ | ⟨-, -, hfailed⟩
    · refine .failed hnone (horder.coordinator.cycles_setStage hcycle _) rfl hsettled ?_
      have hpublished : (g.invalidate cycle.rejected e.message).2.invalidator.feed =
          g.invalidator.feed.publish (.expired e.message) := hfeed
      show (g.invalidate cycle.rejected e.message).2.invalidator.feed.events = _
      rw [hpublished, Feed.publish, hevents]
      rfl
    · have hne := hother s hcurrent
      simp [hrejected] at hne
    · exact absurd hok (hfailed ended)
  · rw [hstage] at hstage'
    cases hstage'

theorem Fate.step {a : Action σ} (h : Fate s g) (horder : Orderly g)
    (husable : g.invalidator.poisoned = false)
    (hcallers : ∀ id phase, g.phase? id = some phase →
      phase.Fits s g.coordinator.settled g.current)
    (hvain : IsVain g a) (hmove : Move g a g') : Fate s g' := by
  have hsame : ∀ notices, g'.current = g.current → g'.coordinator = g.coordinator →
      g'.invalidator.feed = g.invalidator.feed → g'.log = notices ++ g.log → Fate s g' := by
    intro notices hcurrent hcoordinator hfeed hlog
    refine h.of_same hcurrent ?_ (by rw [hcoordinator]) (by rw [hcoordinator]) hfeed ?_
    · rw [hcoordinator]
      exact fun hidle => hidle
    · rw [hlog]
      exact fun _ hmem => List.mem_append_right _ hmem
  cases hmove with
  | idles => exact h
  | comes => exact hsame [] rfl rfl rfl rfl
  | walks _ hwalk => exact hsame _ hwalk.held_eq rfl rfl rfl
  | joins _ hflight =>
    refine h.of_same rfl ?_ rfl rfl rfl fun _ hmem => List.mem_cons_of_mem _ hmem
    intro hidle
    rw [hidle] at hflight
    cases hflight
  | @begins id purpose rejected session hcall hidle htoken =>
    obtain ⟨hrejected, hcount, hread⟩ := hcallers id _ (phase?_of_calls hcall)
    rcases hread with ⟨-, hzero⟩ | ⟨hnone, -⟩
    · rcases h.of_idle horder hidle with ⟨hcurrent, hsettled, hevents⟩ | ⟨-, hsettled⟩
      · exact .running hcurrent (horder.coordinator.cycles_start hidle id rejected) hrejected
          trivial hsettled hevents
      · omega
    · cases hnone
  | @expires id purpose token reason answer hcall =>
    obtain ⟨-, hsettled⟩ := hcallers id _ (phase?_of_calls hcall)
    rcases h.current_cases with ⟨-, hzero, -⟩ | hnone
    · omega
    · rcases g.invalidator.endSession_cases (some token) (.expired reason) g.store with
        ⟨found, hfound, -⟩ | ⟨hkept, hfeed, -⟩ | ⟨hkept, hfeed, -⟩
      · cases hnone.symm.trans hfound
      · exact hsame [.finished id answer] hkept rfl hfeed rfl
      · exact hsame [.finished id answer] hkept rfl hfeed rfl
  | @works _ cycle stage _ _ hcycle hwork =>
    rcases h.of_cycle horder hcycle with
      ⟨hcurrent, hrejected, hunfinished, hsettled, hevents⟩ | ⟨e, -, hsettling, -⟩
    · obtain ⟨hstage, hheld⟩ := hwork.isUnfinished hvain hcycle hunfinished
      exact .running (hheld.trans hcurrent) (horder.coordinator.cycles_setStage hcycle stage)
        hrejected hstage hsettled hevents
    · exact absurd hsettling (hwork.stage_ne_settling _)
  | fails hcycle hstage hresult => exact h.fails horder hvain husable hcycle hstage hresult
  | @settles cycle result hcycle hstage =>
    rcases h.of_cycle horder hcycle with ⟨-, -, hunfinished, -⟩ | ⟨e, hnone, hfailed, hsettled, hevents⟩
    · rw [hstage] at hunfinished
      exact hunfinished.elim
    · obtain rfl : result = .error e := Stage.settling.inj (hstage.symm.trans hfailed)
      obtain ⟨-, -, -, -, hnumber, -⟩ := horder.coordinator.flight_of_cycle? hcycle
      have hzero : cycle.number = 0 := hnumber.symm.trans hsettled
      have hgone : (g.settle cycle.number (.error e)).current = none := by
        rw [current, settle_store]
        exact hnone
      have htold : .settled 0 g.coordinator.queue (.error e) ∈
          (g.settle cycle.number (.error e)).log := by
        rw [settle_log, hzero]
        exact List.mem_cons_self
      exact .gone hgone (by simp [Coordinator.settle]) (by simp [Coordinator.settle, hsettled])
        (by simpa using hevents) htold
  | touches htouch =>
    have hrequest := hvain.request
    cases htouch with
    | signsIn => exact hrequest.elim
    | signsOut => exact hrequest.elim
    | invalidates => exact hrequest.elim
    | disturbs change => exact hsame [] (hrequest g.store) rfl rfl rfl

/-- Once the session is gone it stays away. -/
theorem Fate.current_eq_none {a : Action σ} (h : Fate s g) (horder : Orderly g)
    (hvain : IsVain g a) (hmove : Move g a g') (hnone : g.current = none) : g'.current = none := by
  have hsteady : a.IsSteady := by
    have hrequest := hvain.request
    cases a with
    | signIn => exact hrequest.elim
    | disturb change => exact fun store => .inl (hrequest store)
    | _ => trivial
  rcases hmove.current_cases hsteady with hkept | hgone | ⟨cycle, renewed, hcycle, hstage, -⟩
  · exact hkept.trans hnone
  · exact hgone
  · rcases h.of_cycle horder hcycle with ⟨-, -, hunfinished, -⟩ | ⟨e, -, hsettling, -⟩
    · rw [hstage] at hunfinished
      exact hunfinished.elim
    · rw [hstage] at hsettling
      cases hsettling

theorem Attempted.fits {root : ApiRoot} {id : CallId} {d : Descriptor} {token : String}
    {phase : Phase} {notices : List Notice} {settled : Nat} {current : Option Session}
    (h : Attempted root id d token (.first token) phase notices) (htoken : token = s.accessToken) :
    phase.Fits s settled current := by
  cases h with
  | sent => exact htoken
  | unbuilt => trivial
  | unaddressed => trivial

/-- Whoever goes on in vain is where it may be. -/
theorem Walk.fits {id : CallId} {call : Call} {a : Action σ} {phase : Phase} {store : σ}
    {notices : List Notice} (h : Walk g id call a phase store notices) (hvain : IsVain g a)
    (hfate : Fate s g) (horder : Orderly g)
    (hcall : call.phase.Fits s g.coordinator.settled g.current) :
    phase.Fits s g.coordinator.settled g.current := by
  cases h with
  | @opens d shape session phase _ hget hattempt =>
    refine hattempt.fits ?_
    have hcurrent : g.current = some session := LawfulStore.get_ok g.store _ hget
    rcases hfate.current_cases with ⟨hs, -⟩ | hnone
    · rw [Option.some.inj (hcurrent.symm.trans hs)]
    · cases hnone.symm.trans hcurrent
  | counts => exact ⟨hcall.1, Nat.le_refl _⟩
  | @reads _ rejected settled read hget =>
    have hread : g.current = read := LawfulStore.get_ok g.store _ hget
    refine ⟨hcall.1, hcall.2, ?_⟩
    rcases hfate.current_cases with ⟨hs, hzero, -⟩ | hnone
    · have hcount : settled ≤ g.coordinator.settled := hcall.2
      exact .inl ⟨hread.symm.trans hs, by omega⟩
    · exact .inr ⟨hread.symm.trans hnone, hnone⟩
  | cannotRead hget =>
    rw [hvain.reads] at hget
    cases hget
  | looksAgain => exact ⟨hcall.1, trivial⟩
  | @isRefused _ rejected settled hidle hsettled =>
    obtain ⟨hrejected, -, ⟨hread, -⟩ | ⟨-, hnone⟩⟩ := hcall
    · cases hread
    · refine ⟨hrejected, ?_, .noSession, rfl⟩
      rcases hfate.of_idle horder hidle with ⟨hcurrent, -⟩ | ⟨-, hsettled⟩
      · cases hnone.symm.trans hcurrent
      · omega
  | reuses _ _ htoken =>
    obtain ⟨hrejected, -, ⟨hread, -⟩ | ⟨hread, -⟩⟩ := hcall
    · obtain rfl := Option.some.inj hread
      exact absurd hrejected.symm htoken
    · cases hread
  | retries =>
    obtain ⟨-, -, e, he⟩ := hcall
    cases he
  | gives => exact ⟨hcall.1, hcall.2.1⟩
  | isRejected => exact ⟨hcall, trivial⟩
  | isRejectedAgain => exact hcall.elim
  | _ => trivial

theorem Doomed.step {a : Action σ} (h : Doomed s g) (hvain : IsVain g a) :
    Doomed s (g.step a) := by
  have hmove := move_step g a
  have hfate := h.fate.step h.order h.usable h.callers hvain hmove
  have horder := hmove.orderly h.order
  refine ⟨horder, ?_, hfate, ?_⟩
  · have husable := fun token reason => (hvain.invalidate h.usable token reason).2
    have hrequest := hvain.request
    generalize g.step a = g' at hmove
    cases hmove with
    | expires => exact husable _ _
    | fails => exact husable _ _
    | settles =>
      rw [settle_invalidator]
      exact h.usable
    | touches htouch =>
      cases htouch with
      | signsIn => exact hrequest.elim
      | signsOut => exact hrequest.elim
      | invalidates => exact hrequest.elim
      | disturbs => exact h.usable
    | _ => exact h.usable
  · intro id phase hphase
    have hsettled := hmove.settled_le h.order
    have hgone := h.fate.current_eq_none h.order hvain hmove
    rcases hmove.phase_cases h.order hphase with ⟨purpose, rfl, rfl⟩ | ⟨before, hbefore, hpassage⟩
    · cases purpose with
      | request => trivial
      | token => exact hvain.request.elim
    · have hfits := h.callers id before hbefore
      cases hpassage with
      | stays => exact hfits.mono hsettled hgone
      | walks hwalk => exact (hwalk.fits hvain h.fate h.order hfits).mono hsettled hgone
      | queues => exact ⟨hfits.1, trivial⟩
      | ends => trivial
      | @hears cycle rejected result hcycle hstage hafter =>
        rcases h.fate.of_cycle h.order hcycle with ⟨-, -, hunfinished, -⟩ | ⟨e, -, hfailed, -⟩
        · rw [hstage] at hunfinished
          exact hunfinished.elim
        · refine ⟨hfits.1, ?_, e, Stage.settling.inj (hstage.symm.trans hfailed)⟩
          rw [hafter, settle_coordinator]
          exact Nat.le_add_left 1 _

theorem Doomed.run {actions : List (Action σ)} (h : Doomed s g) (hvain : g.Along actions IsVain) :
    Doomed s (g.run actions) := by
  induction actions generalizing g with
  | nil => exact h
  | cons a later ih => exact ih (h.step hvain.head) hvain.tail

/-! ## What the requests meet -/

theorem Doomed.meetsAlone_fits {a : Action σ} (h : Doomed s g) (hvain : IsVain g a) {phase : Phase}
    (hfits : phase.Fits s g.coordinator.settled g.current) {incident : Incident}
    (hmem : incident ∈ g.meetsAlone phase) : incident.Fits s := by
  unfold meetsAlone at hmem
  split at hmem
  · rw [hvain.reads] at hmem
    obtain rfl := List.mem_singleton.mp hmem
    rcases h.fate.current_cases with ⟨hcurrent, -⟩ | hcurrent
    · rw [hcurrent]
      rfl
    · rw [hcurrent]
      trivial
  · rw [hvain.reads] at hmem
    simp at hmem
  · obtain rfl := List.mem_singleton.mp hmem
    obtain ⟨-, -, e, rfl⟩ := hfits
    trivial
  · rename_i token reason
    rw [if_neg (hvain.invalidate h.usable token reason).1] at hmem
    obtain rfl := List.mem_singleton.mp hmem
    trivial
  · cases hmem

theorem Doomed.meets_fits {a : Action σ} (h : Doomed s g) (hvain : IsVain g a) {call : Call}
    (hfits : call.phase.Fits s g.coordinator.settled g.current) {incident : Incident}
    (hmem : incident ∈ g.meets call a) : incident.Fits s := by
  cases a with
  | advance => exact h.meetsAlone_fits hvain hfits hmem
  | deliver id delivery =>
    simp only [meets] at hmem
    split at hmem
    · obtain rfl := List.mem_singleton.mp hmem
      trivial
    · cases hmem
  | expire =>
    simp only [meets] at hmem
    split at hmem
    · obtain rfl := List.mem_singleton.mp hmem
      trivial
    · cases hmem
  | abandon =>
    simp only [meets] at hmem
    split at hmem
    · obtain rfl := List.mem_singleton.mp hmem
      trivial
    · cases hmem
  | _ => cases hmem

theorem Doomed.met_fits {a : Action σ} (h : Doomed s g) (hvain : IsVain g a) {id : CallId}
    {incident : Incident} (hmem : incident ∈ g.met id a) : incident.Fits s := by
  unfold met at hmem
  split at hmem
  · rename_i call hcall
    split at hmem
    · rcases List.mem_append.mp hmem with hmeets | hquestion
      · exact h.meets_fits hvain (h.callers id _ (phase?_of_calls hcall)) hmeets
      · cases hafter : (g.step a).phase? id with
        | none => simp [hafter] at hquestion
        | some after =>
          rw [hafter, Option.map_some, Option.getD_some] at hquestion
          obtain ⟨rejected, -, rfl, -⟩ := Phase.mem_question hquestion
          trivial
    · cases hmem
  · cases hmem

theorem Doomed.story_fits {actions : List (Action σ)} (h : Doomed s g)
    (hvain : g.Along actions IsVain) {id : CallId} {incident : Incident}
    (hmem : incident ∈ g.story id actions) : incident.Fits s := by
  induction actions generalizing g with
  | nil => cases hmem
  | cons a later ih =>
    rcases List.mem_append.mp hmem with hmet | hlater
    · exact h.met_fits hvain.head hmet
    · exact ih (h.step hvain.head) hvain.tail hlater

end Fates

end Gateway

section Stories

variable {root : ApiRoot} {d : Descriptor} {shape : Shape} {s : Session} {story : List Incident}
  {sent : List (String × Request)} {phase : Phase}

/-- A refused request whose refresh fails sends no second attempt, and ends as expired or gives
up. -/
theorem Recovers.of_fits {rejected : String} (h : Recovers root d shape rejected story sent phase)
    (hfits : ∀ incident ∈ story, incident.Fits s) :
    sent = [] ∧ ∀ answer, phase = .ended answer →
      answer = .payload (.error .sessionExpired) ∨
        answer = .payload (.error (.timeout d.timeoutMs)) := by
  cases h with
  | asks => exact ⟨rfl, fun _ h => by cases h⟩
  | timesOut => exact ⟨rfl, fun _ h => .inr (Phase.ended.inj h).symm⟩
  | isGivenUp => exact ⟨rfl, fun _ h => by cases h⟩
  | breaksDown => exact (hfits .breaksDown (by simp)).elim
  | fails hcloses =>
    refine ⟨rfl, ?_⟩
    cases hcloses with
    | expiring => exact fun _ h => by cases h
    | ends => exact fun _ h => .inl (Phase.ended.inj h).symm
    | breaksDown => exact (hfits .breaksDown (by simp)).elim
  | @retries token => exact (hfits (.told (.ok token)) (by simp)).elim
  | @isRejectedAgain token => exact (hfits (.told (.ok token)) (by simp)).elim

/-- A request whose refresh fails sends at most one attempt, under the token of the session. -/
theorem Proceeds.sent_of_fits (h : Proceeds root d shape story sent phase)
    (hfits : ∀ incident ∈ story, incident.Fits s) :
    sent = [] ∨ ∃ request, sent = [(s.accessToken, request)] := by
  cases h with
  | @tries found _ _ _ htries =>
    have hfound : found = s := hfits (.opens (some found)) (by simp)
    rcases htries.sent_cases with rfl | ⟨request, -, rfl⟩
    · exact .inl rfl
    · exact .inr ⟨request, by rw [hfound]⟩
  | @isRejected found request _ _ _ _ hsends hrefused hrecovers =>
    have hfound : found = s := hfits (.opens (some found)) (by simp)
    obtain ⟨rfl, -⟩ := hrecovers.of_fits fun incident hmem => hfits incident (by simp [hmem])
    exact .inr ⟨request, by rw [hfound]⟩
  | _ => exact .inl rfl

/-- A refused request whose refresh fails has asked for a fresh token. -/
theorem Proceeds.of_refused (h : Proceeds root d shape story sent phase)
    (hfits : ∀ incident ∈ story, incident.Fits s) {response : Response}
    (hmem : .answered (.ok response) ∈ story) (hrefused : response.status = 401) :
    .asks s.accessToken ∈ story ∧ ∀ answer, phase = .ended answer →
      answer = .payload (.error .sessionExpired) ∨
        answer = .payload (.error (.timeout d.timeoutMs)) := by
  cases h with
  | tries htries =>
    obtain hmem := List.mem_of_ne_of_mem (by simp) hmem
    exact absurd hrefused (htries.status_ne hmem)
  | @isRejected found _ _ _ _ _ _ _ hrecovers =>
    have hfound : found = s := hfits (.opens (some found)) (by simp)
    subst hfound
    exact ⟨by simp, (hrecovers.of_fits fun incident hmem => hfits incident (by simp [hmem])).2⟩
  | _ => simp at hmem

end Stories

/-! ## The turns of a refused request -/

/-- How many turns of its own a refused caller still needs at the most if the refresh fails and
`settled` cycles are settled. -/
def Phase.turns (settled : Nat) : Phase → Nat
  | .asking _ .entering => 5 + 3 * (1 - settled)
  | .asking _ (.counted count) => 4 + 3 * (1 - count)
  | .asking _ (.seen count _) => 3 + 3 * (1 - count)
  | .asking _ _ => 2
  | .expiring _ _ => 1
  | _ => 0

theorem Phase.turns_mono (phase : Phase) {settled settled' : Nat} (h : settled ≤ settled') :
    phase.turns settled' ≤ phase.turns settled := by
  unfold Phase.turns
  split <;> omega

/-- Whoever needs two turns at most has got past the lock. -/
theorem Phase.past_of_turns {phase : Phase} {settled : Nat} (hrank : 2 ≤ phase.rank)
    (hturns : phase.turns settled ≤ 2) : 3 ≤ phase.rank := by
  cases phase with
  | asking rejected progress =>
    cases progress with
    | queued => simp [rank]
    | told => simp [rank]
    | _ =>
      simp only [turns] at hturns
      omega
  | opening => simp [rank] at hrank
  | first => simp [rank] at hrank
  | _ => simp [rank]

namespace Gateway

variable {σ : Type} [Store σ] [LawfulStore σ] {s : Session} {g g' : Gateway σ} {id : CallId}

theorem Doomed.settled_le (h : Doomed s g) :
    g.coordinator.settled ≤ 1 ∧ g.coordinator.settled ≤ g.coordinator.started := by
  constructor
  · cases h.fate <;> omega
  · rcases h.order.coordinator.cases with ⟨-, -, hcounts⟩ | ⟨_, _, -, -, -, hsettled, hstarted⟩
    · omega
    · omega

/-- Once a cycle is settled, it is over. -/
theorem Doomed.over (h : Doomed s g) (hsettled : 1 ≤ g.coordinator.settled) :
    g.coordinator.flight = none ∧ ∃ (e : RefreshError) (queue : List CallId), g.current = none ∧
      g.invalidator.feed.events = [.expired e.message] ∧ .settled 0 queue (.error e) ∈ g.log := by
  cases h.fate with
  | gone hcurrent hidle _ hevents htold => exact ⟨hidle, _, _, hcurrent, hevents, htold⟩
  | untouched => omega
  | running => omega
  | failed => omega

/-- Once a cycle is settled, nobody waits. -/
theorem Doomed.waitsOn_eq_none (h : Doomed s g) (id : CallId)
    (hsettled : 1 ≤ g.coordinator.settled) : g.waitsOn id = none := by
  cases hwaits : g.waitsOn id with
  | none => rfl
  | some number =>
    obtain ⟨flight, hflight, -⟩ := h.order.waits id number hwaits
    rw [(h.over hsettled).1] at hflight
    cases hflight

/-- Nobody is taken away from its end. -/
theorem Passage.turns_le {a : Action σ} {before after : Phase} (h : Passage g a g' id before after)
    (hdoomed : Doomed s g) (hfits : before.Fits s g.coordinator.settled g.current)
    (hsettled : g.coordinator.settled ≤ g'.coordinator.settled) (hrank : 2 ≤ before.rank) :
    after.turns g'.coordinator.settled ≤ before.turns g.coordinator.settled := by
  refine Nat.le_trans (after.turns_mono hsettled) ?_
  cases h with
  | stays => exact Nat.le_refl _
  | walks hwalk =>
    obtain ⟨hle, -⟩ := hdoomed.settled_le
    cases hwalk with
    | looksAgain _ hne =>
      obtain ⟨-, hcount, -⟩ := hfits
      simp only [Phase.turns]
      omega
    | counts =>
      simp only [Phase.turns]
      omega
    | reads =>
      simp only [Phase.turns]
      omega
    | cannotRead =>
      simp only [Phase.turns]
      omega
    | isRefused =>
      simp only [Phase.turns]
      omega
    | reuses =>
      simp only [Phase.turns]
      omega
    | gives => simp [Phase.turns]
    | retries hattempt => cases hattempt <;> exact Nat.zero_le _
    | findsNone => simp [Phase.rank] at hrank
    | opens => simp [Phase.rank] at hrank
    | isRejected => simp [Phase.rank] at hrank
    | isRejectedAgain => exact hfits.elim
    | _ => exact Nat.zero_le _
  | queues =>
    simp only [Phase.turns]
    omega
  | ends => exact Nat.zero_le _
  | hears => exact Nat.le_refl _

/-- A caller on its way to the lock does not come to its end at once. -/
theorem Walk.rank_of_early {call : Call} {a : Action σ} {phase : Phase} {store : σ}
    {notices : List Notice} (h : Walk g id call a phase store notices) (hvain : IsVain g a)
    (hrank : call.phase.rank = 2) : phase.rank ≤ 4 := by
  cases h with
  | counts => simp [Phase.rank]
  | reads => simp [Phase.rank]
  | cannotRead => simp [Phase.rank]
  | looksAgain => simp [Phase.rank]
  | isRefused => simp [Phase.rank]
  | reuses => simp [Phase.rank]
  | breaksReading hget =>
    rw [hvain.reads] at hget
    cases hget
  | isCutOff hphase =>
    unfold Call.outstanding? at hphase
    split at hphase <;> simp_all [Phase.rank]
  | isAnswered hphase =>
    unfold Call.outstanding? at hphase
    split at hphase <;> simp_all [Phase.rank]
  | timesOut hwaits =>
    unfold Call.isWaiting at hwaits
    split at hwaits <;> simp_all [Phase.rank]
  | isGivenUp hwaits =>
    unfold Call.isWaiting at hwaits
    split at hwaits <;> simp_all [Phase.rank]
  | _ => simp [Phase.rank] at hrank

/-- A refused caller that needs at most so many turns of its own. It has not got past the lock
without a cycle. -/
def Needs (g : Gateway σ) (id : CallId) (turns : Nat) : Prop :=
  ∃ phase, g.phase? id = some phase ∧ 2 ≤ phase.rank ∧
    phase.turns g.coordinator.settled ≤ turns ∧ (3 ≤ phase.rank → 1 ≤ g.coordinator.started)

/-- Whoever has got past the lock has found a cycle there. -/
theorem Doomed.started_pos {a : Action σ} {before after : Phase} (h : Doomed s g)
    (hvain : IsVain g a) (hbefore : before.rank = 2) (hafter : (g.step a).phase? id = some after)
    (hpassage : Passage g a (g.step a) id before after) (hrank : 3 ≤ after.rank) :
    1 ≤ (g.step a).coordinator.started := by
  have hnext := h.step hvain
  have hfits := hnext.callers id after hafter
  obtain ⟨-, hstarted⟩ := hnext.settled_le
  have hle : after.rank ≤ 4 := by
    cases hpassage with
    | stays => omega
    | walks hwalk => exact hwalk.rank_of_early hvain hbefore
    | queues => simp [Phase.rank]
    | ends => simp [Phase.rank] at hbefore
    | hears => simp [Phase.rank]
  cases after with
  | asking rejected progress =>
    cases progress with
    | queued cycle =>
      obtain ⟨flight, hflight, -⟩ :=
        hnext.order.waits id cycle (waitsOn_eq_some.mpr ⟨rejected, hafter⟩)
      obtain ⟨-, -, -, -, hcount⟩ := hnext.order.coordinator.running flight hflight
      omega
    | told result =>
      obtain ⟨-, hsettled, -⟩ := hfits
      omega
    | _ => simp [Phase.rank] at hrank
  | second => exact hfits.elim
  | _ => simp [Phase.rank] at hrank hle

theorem Needs.step {a : Action σ} {turns : Nat} (h : g.Needs id turns) (hdoomed : Doomed s g)
    (hvain : IsVain g a) : (g.step a).Needs id turns := by
  obtain ⟨phase, hphase, hrank, hturns, hstarted⟩ := h
  have hmove := move_step g a
  obtain ⟨after, hafter, hpassage⟩ := hmove.passage hdoomed.order hphase
  refine ⟨after, hafter, Nat.le_trans hrank hpassage.rank_le, ?_, ?_⟩
  · have hle := hpassage.turns_le hdoomed (hdoomed.callers id phase hphase)
      (hmove.settled_le hdoomed.order) hrank
    exact Nat.le_trans hle hturns
  · intro hpast
    by_cases hearly : phase.rank = 2
    · exact hdoomed.started_pos hvain hearly hafter hpassage hpast
    · have hbefore := hstarted (by omega)
      exact Nat.le_trans hbefore hmove.started_le

/-- The caller needs fewer turns than that. -/
def IsNearer (settled turns : Nat) (id : CallId) (g : Gateway σ) : Prop :=
  ∃ phase, g.phase? id = some phase ∧ phase.turns settled < turns

section Nearer

omit [LawfulStore σ]

variable {call : Call} {settled turns : Nat}

omit [Store σ] in
theorem IsNearer.moved (hcall : g.calls[id]? = some call) {phase : Phase} (store : σ)
    (notices : List Notice) (hlt : phase.turns settled < turns) :
    IsNearer settled turns id (g.moved id phase store notices) :=
  ⟨phase, (phase?_moved hcall phase store notices id).trans (if_pos rfl), hlt⟩

theorem isNearer_readFor (hcall : g.calls[id]? = some call) {current : Option Session}
    (hreads : (Store.get g.store).1 = .ok current) (rejected : String) (count : Nat) :
    IsNearer settled (4 + 3 * (1 - count)) id (g.readFor id rejected count) := by
  unfold readFor
  generalize Store.get g.store = result at hreads
  obtain ⟨outcome, store⟩ := result
  obtain rfl : outcome = .ok current := hreads
  have hlt : (Phase.asking rejected (.seen count current)).turns settled < 4 + 3 * (1 - count) := by
    simp only [Phase.turns]
    omega
  exact IsNearer.moved (g := { g with store := store }) hcall store [] hlt

omit [Store σ] in
/-- Whoever looks again has looked before anything was settled, and does so once. -/
theorem isNearer_decideFor (hcall : g.calls[id]? = some call) (rejected : String) {count : Nat}
    (read : Option Session) (hcount : count ≤ g.coordinator.settled)
    (hsettled : g.coordinator.settled ≤ 1) :
    IsNearer g.coordinator.settled (3 + 3 * (1 - count)) id (g.decideFor id rejected count read) := by
  have hpast : ∀ progress, (∀ settled, (Phase.asking rejected progress).turns settled = 2) →
      (Phase.asking rejected progress).turns g.coordinator.settled < 3 + 3 * (1 - count) := by
    intro progress hturns
    rw [hturns]
    omega
  unfold decideFor
  cases hdecide : g.coordinator.decide rejected count read with
  | join =>
    simp only [hdecide]
    exact IsNearer.moved (g := { g with coordinator := g.coordinator.join id }) hcall g.store
      [.joined id _ _] (hpast (.queued _) fun _ => rfl)
  | again =>
    simp only [hdecide]
    have hne : g.coordinator.settled ≠ count := Coordinator.settled_ne_of_again hdecide
    refine IsNearer.moved hcall g.store [] ?_
    simp only [Phase.turns]
    omega
  | give result =>
    simp only [hdecide]
    exact IsNearer.moved hcall g.store [] (hpast (.told result) fun _ => rfl)
  | start =>
    simp only [hdecide]
    exact IsNearer.moved (g := { g with coordinator := g.coordinator.start id rejected }) hcall
      g.store [] (hpast (.queued _) fun _ => rfl)

omit [Store σ] in
theorem isNearer_useResult (hcall : g.calls[id]? = some call) (purpose : Purpose)
    (rejected : String) (e : RefreshError) :
    IsNearer settled 2 id (g.useResult id purpose rejected (.error e)) := by
  cases purpose with
  | request d shape => exact IsNearer.moved hcall g.store [] Nat.one_lt_two
  | token asked => exact IsNearer.moved hcall g.store [.finished id _] Nat.two_pos

theorem isNearer_expireSession (hcall : g.calls[id]? = some call) (token reason : String) :
    IsNearer settled 1 id (g.expireSession id token reason) := by
  have hcalls : (g.invalidate token reason).2.calls[id]? = some call := hcall
  obtain ⟨answer, -, hends⟩ := g.expireSession_eq id token reason
  rw [hends]
  exact IsNearer.moved hcalls _ _ Nat.one_pos

end Nearer

/-- A caller that can go on by itself comes nearer to its end by doing so. -/
theorem Doomed.turns_lt (h : Doomed s g) (hvain : IsVain g (.advance id)) {phase : Phase}
    (hphase : g.phase? id = some phase) (hwaits : phase.waitsOn = none)
    (hturns : 0 < phase.turns g.coordinator.settled) :
    IsNearer g.coordinator.settled (phase.turns g.coordinator.settled) id
      (g.step (.advance id)) := by
  obtain ⟨⟨purpose, phase⟩, hcall, rfl⟩ := Option.map_eq_some_iff.mp hphase
  have hfits := h.callers id _ hphase
  cases phase with
  | asking rejected progress =>
    cases progress with
    | entering =>
      simp only [Gateway.step, advance, hcall]
      refine IsNearer.moved hcall g.store [] ?_
      simp only [Phase.turns]
      omega
    | counted count =>
      simp only [Gateway.step, advance, hcall]
      exact isNearer_readFor hcall hvain.reads rejected count
    | seen count read =>
      obtain ⟨-, hcount, -⟩ := hfits
      simp only [Gateway.step, advance, hcall]
      exact isNearer_decideFor hcall rejected read hcount h.settled_le.1
    | queued cycle => cases hwaits
    | told result =>
      obtain ⟨-, -, e, rfl⟩ := hfits
      simp only [Gateway.step, advance, hcall]
      exact isNearer_useResult hcall purpose rejected e
  | expiring token reason =>
    simp only [Gateway.step, advance, hcall]
    exact isNearer_expireSession hcall token reason
  | _ => simp [Phase.turns] at hturns

/-- A turn of its own brings a refused caller nearer to its end, unless it waits for the cycle. -/
theorem Needs.advance {turns : Nat} (h : g.Needs id (turns + 1)) (hdoomed : Doomed s g)
    (hvain : IsVain g (.advance id)) (hturns : 2 ≤ turns ∨ 1 ≤ g.coordinator.settled) :
    (g.step (.advance id)).Needs id turns := by
  by_cases hfew : g.Needs id turns
  · exact hfew.step hdoomed hvain
  · obtain ⟨after, hafter, hrank, -, hstarted⟩ := h.step hdoomed hvain
    obtain ⟨phase, hphase, hearly, hbefore, hcycle⟩ := h
    have hmany : turns < phase.turns g.coordinator.settled := by
      refine Nat.lt_of_not_le fun hle => hfew ?_
      exact ⟨phase, hphase, hearly, hle, hcycle⟩
    refine ⟨after, hafter, hrank, ?_, hstarted⟩
    cases hwaits : phase.waitsOn with
    | some cycle =>
      obtain ⟨rejected, rfl⟩ := Phase.waitsOn_eq_some.mp hwaits
      simp only [Phase.turns] at hmany
      rcases hturns with hturns | hturns
      · omega
      · have hnone := hdoomed.waitsOn_eq_none id hturns
        rw [waitsOn, hphase] at hnone
        cases hnone
    | none =>
      obtain ⟨after', hafter', hlt⟩ := hdoomed.turns_lt hvain hphase hwaits (by omega)
      obtain rfl := Option.some.inj (hafter.symm.trans hafter')
      have hmono := after.turns_mono ((move_step g (.advance id)).settled_le hdoomed.order)
      omega

theorem Needs.run {actions : List (Action σ)} {turns : Nat} (h : g.Needs id turns)
    (hdoomed : Doomed s g) (hvain : g.Along actions IsVain) : (g.run actions).Needs id turns := by
  induction actions generalizing g with
  | nil => exact h
  | cons a later ih =>
    exact ih (h.step hdoomed hvain.head) (hdoomed.step hvain.head) hvain.tail

/-- A refused caller that gets turns of its own among everything else that happens. -/
theorem Needs.run_of_turns {actions : List (Action σ)} {turns : Nat} (count : Nat)
    (h : g.Needs id (turns + count)) (hdoomed : Doomed s g) (hvain : g.Along actions IsVain)
    (hturns : 2 ≤ turns ∨ 1 ≤ g.coordinator.settled)
    (hactions : (List.replicate count (.advance id)).Sublist actions) :
    (g.run actions).Needs id turns := by
  induction actions generalizing g count with
  | nil =>
    obtain rfl : count = 0 := by simpa using hactions
    exact h
  | cons a later ih =>
    have hnext := hdoomed.step hvain.head
    have hsettled := (move_step g a).settled_le hdoomed.order
    have hturns' : 2 ≤ turns ∨ 1 ≤ (g.step a).coordinator.settled := by omega
    cases count with
    | zero => exact (h.step hdoomed hvain.head).run hnext hvain.tail
    | succ count =>
      cases hactions with
      | cons _ hlater =>
        exact ih (count + 1) (h.step hdoomed hvain.head) hnext hvain.tail hturns' hlater
      | cons_cons _ hlater =>
        have hmore : 2 ≤ turns + count ∨ 1 ≤ g.coordinator.settled := by omega
        have hless : (g.step (.advance id)).Needs id (turns + count) :=
          Needs.advance h hdoomed hvain.head hmore
        exact ih count hless hnext hvain.tail hturns' hlater

omit [LawfulStore σ] in
/-- Asking is all that a caller meets without an answer to it. -/
theorem mem_question_of_asks {a : Action σ} {token : String} (h : .asks token ∈ g.met id a) :
    ∃ call after, g.calls[id]? = some call ∧ (g.step a).phase? id = some after ∧
      .asks token ∈ call.phase.question after := by
  unfold met at h
  split at h
  · rename_i call hcall
    split at h
    · rcases List.mem_append.mp h with hmeets | hquestion
      · unfold meets meetsAlone at hmeets
        repeat' split at hmeets
        all_goals simp at hmeets
      · cases hafter : (g.step a).phase? id with
        | none => simp [hafter] at hquestion
        | some after =>
          rw [hafter] at hquestion
          exact ⟨call, after, hcall, rfl, hquestion⟩
    · cases h
  · cases h

omit [LawfulStore σ] in
/-- Whoever begins to ask for a fresh token is about to look at the count of settled cycles. -/
theorem phase?_of_asks {a : Action σ} {token : String} (horder : Orderly g)
    (h : .asks token ∈ g.met id a) :
    ∃ rejected, (g.step a).phase? id = some (.asking rejected .entering) := by
  obtain ⟨call, after, hcall, hafter, hquestion⟩ := mem_question_of_asks h
  obtain ⟨after', hafter', hpassage⟩ :=
    (move_step g a).passage horder (phase?_of_calls hcall)
  obtain rfl := Option.some.inj (hafter.symm.trans hafter')
  obtain ⟨rejected, progress, -, rfl, hbefore⟩ := Phase.mem_question hquestion
  refine ⟨rejected, ?_⟩
  generalize hphase : call.phase = before at hbefore hpassage
  cases hpassage with
  | stays => exact absurd rfl (hbefore _ _)
  | walks hwalk =>
    cases hwalk with
    | isRejected => exact hafter
    | opens _ hattempt => cases hattempt
    | retries => exact absurd rfl (hbefore _ _)
    | counts => exact absurd rfl (hbefore _ _)
    | reads => exact absurd rfl (hbefore _ _)
    | cannotRead => exact absurd rfl (hbefore _ _)
    | looksAgain => exact absurd rfl (hbefore _ _)
    | isRefused => exact absurd rfl (hbefore _ _)
    | reuses => exact absurd rfl (hbefore _ _)
  | queues => exact absurd rfl (hbefore _ _)
  | hears => exact absurd rfl (hbefore _ _)

/-- Whoever asks for a fresh token needs at most eight turns of its own. -/
theorem needs_of_asks {actions : List (Action σ)} (h : Doomed s g)
    (hvain : g.Along actions IsVain) {token : String}
    (hmem : .asks token ∈ g.story id actions) : (g.run actions).Needs id 8 := by
  induction actions using List.reverseRecOn with
  | nil => cases hmem
  | append_singleton before a ih =>
    have hbefore : Doomed s (g.run before) := h.run hvain.left
    have hlast : IsVain (g.run before) a := hvain before a [] rfl
    rw [run_concat]
    rw [story_concat, List.mem_append] at hmem
    rcases hmem with hearlier | hmet
    · exact (ih hvain.left hearlier).step hbefore hlast
    · obtain ⟨rejected, hafter⟩ := phase?_of_asks hbefore.order hmet
      refine ⟨_, hafter, by simp [Phase.rank], ?_, fun hrank => by simp [Phase.rank] at hrank⟩
      simp only [Phase.turns]
      omega

/-- A run in which a refused request and the first cycle get their turns among everything else that
happens: six turns of the request, in which it gets to the lock, those of the cycle, and two turns
more of the request. -/
def TakesTurns (id : CallId) (actions : List (Action σ)) : Prop :=
  ∃ first course last, actions = first ++ course ++ last ∧
    (List.replicate 6 (.advance id)).Sublist first ∧ Course 0 course ∧
    (List.replicate 2 (.advance id)).Sublist last

/-- A refused request that gets its turns comes to its end, and the cycle does. -/
theorem Needs.ends {actions : List (Action σ)} (h : g.Needs id 8) (hdoomed : Doomed s g)
    (hvain : g.Along actions IsVain) (hactions : TakesTurns id actions) :
    (g.run actions).Needs id 0 ∧ 1 ≤ (g.run actions).coordinator.settled := by
  obtain ⟨first, course, last, rfl, hfirst, hcourse, hlast⟩ := hactions
  have hvain₁ : g.Along first IsVain := hvain.left.left
  have hvain₂ : (g.run first).Along course IsVain := hvain.left.right
  have hvain₃ : ((g.run first).run course).Along last IsVain := by
    have hright := hvain.right
    rwa [run_append] at hright
  have hdoomed₁ := hdoomed.run hvain₁
  have hdoomed₂ := hdoomed₁.run hvain₂
  have hdoomed₃ := hdoomed₂.run hvain₃
  rw [run_append, run_append]
  have hqueued : (g.run first).Needs id 2 := h.run_of_turns 6 hdoomed hvain₁ (.inl (by omega)) hfirst
  have hbegun : 0 < (g.run first).coordinator.started := by
    obtain ⟨phase, -, hrank, hturns, hstarted⟩ := hqueued
    exact hstarted (Phase.past_of_turns hrank hturns)
  have hnears : Nears (g.run first) 0 5 := by
    refine ⟨hdoomed₁.order, hbegun, ?_⟩
    unfold turnsLeft
    cases (g.run first).coordinator.cycle? 0 with
    | none => exact Nat.zero_le _
    | some cycle => exact cycle.stage.turns_le
  obtain ⟨hsettled, -⟩ := (hnears.run_course hcourse).settled
  have htold : ((g.run first).run course).Needs id 2 := hqueued.run hdoomed₁ hvain₂
  refine ⟨htold.run_of_turns 2 hdoomed₂ hvain₃ (.inr hsettled) hlast, ?_⟩
  exact Nat.le_trans hsettled (run_keeps (P := fun g' => Orderly g' ∧
    ((g.run first).run course).coordinator.settled ≤ g'.coordinator.settled)
    (fun _ _ _ hle hmove => ⟨hmove.orderly hle.1, Nat.le_trans hle.2 (hmove.settled_le hle.1)⟩)
    ⟨hdoomed₂.order, Nat.le_refl _⟩ last).2

/-- A refused request that needs no turn any more has its answer, or was given up. -/
theorem Needs.ended (h : g.Needs id 0) (hdoomed : Doomed s g) :
    ∃ phase, g.phase? id = some phase ∧ ((∃ answer, phase = .ended answer) ∨ phase = .abandoned) := by
  obtain ⟨phase, hphase, hrank, hturns, -⟩ := h
  have hfits := hdoomed.callers id phase hphase
  refine ⟨phase, hphase, ?_⟩
  cases phase with
  | ended answer => exact .inl ⟨answer, rfl⟩
  | abandoned => exact .inr rfl
  | second => exact hfits.elim
  | asking rejected progress =>
    exfalso
    cases progress <;> simp only [Phase.turns] at hturns <;> omega
  | expiring => simp [Phase.turns] at hturns
  | _ => simp [Phase.rank] at hrank

/-- A caller in a run of requests is a request. -/
theorem exists_request {root : ApiRoot} {store : σ} {actions : List (Action σ)}
    (hvain : (Gateway.new root store).Along actions IsVain) {id : CallId} {phase : Phase}
    (hphase : ((Gateway.new root store).run actions).phase? id = some phase) :
    ∃ d shape, ((Gateway.new root store).run actions).purpose? id = some (.request d shape) := by
  obtain ⟨⟨purpose, current⟩, hcall, -⟩ := Option.map_eq_some_iff.mp hphase
  have hpurpose := purpose?_of_calls hcall
  obtain ⟨before, later, hactions⟩ := List.append_of_mem (start_mem_of_purpose? hpurpose)
  have hrequest := (hvain before _ later hactions).request
  cases purpose with
  | request d shape => exact ⟨d, shape, hpurpose⟩
  | token => exact hrequest.elim

/-- In all there is one exchange at the most, if there is one cycle at the most. -/
theorem Doomed.exchanges_le (h : Doomed s g) (hsends : SendsOnce g) :
    g.log.countP Notice.isExchange ≤ 1 := by
  have hnone : ∀ number, 1 ≤ number → g.exchanges number = 0 := by
    intro number hnumber
    refine hsends.unsent number (Nat.le_trans h.settled_le.1 hnumber) ?_
    intro cycle hcycle
    exfalso
    obtain ⟨-, -, -, -, hsettled, -⟩ := h.order.coordinator.flight_of_cycle? hcycle
    have hidle : g.coordinator.flight ≠ none := h.order.coordinator.flight_ne_none hcycle
    exact hidle (h.over (by omega)).1
  have hzero : g.log.countP Notice.isExchange = g.exchanges 0 := by
    refine List.countP_congr ?_
    intro notice hmem
    cases notice with
    | exchange number refreshToken request =>
      have hnumber : number = 0 := by
        refine Nat.eq_zero_of_not_pos fun hpos => ?_
        have hcount := List.countP_eq_zero.mp (hnone number hpos) _ hmem
        simp [Notice.isExchangeOf] at hcount
      simp [Notice.isExchange, Notice.isExchangeOf, hnumber]
    | _ => simp [Notice.isExchange, Notice.isExchangeOf]
  rw [hzero]
  exact hsends.once 0

section Vain

variable {root : ApiRoot} {store : σ} {actions : List (Action σ)}

/-- Story, attempts and phase of a caller in a run of requests belong together. -/
theorem proceeds_of_vain (hvain : (Gateway.new root store).Along actions IsVain) {phase : Phase}
    (hphase : ((Gateway.new root store).run actions).phase? id = some phase) :
    ∃ d shape, Proceeds root d shape ((Gateway.new root store).story id actions)
      (((Gateway.new root store).run actions).attemptsOf id) phase := by
  obtain ⟨d, shape, hpurpose⟩ := exists_request hvain hphase
  obtain ⟨phase', hphase', hproceeds⟩ := proceeds_run hpurpose
  obtain rfl := Option.some.inj (hphase.symm.trans hphase')
  exact ⟨d, shape, hproceeds⟩

/-- A refused request in a vain run has asked for a fresh token, and gets no answer but that the
session has expired, or that its time is up. -/
theorem answer_of_refused (hs : held store = some s)
    (hvain : (Gateway.new root store).Along actions IsVain) {response : Response}
    (hmem : .answered (.ok response) ∈ (Gateway.new root store).story id actions)
    (hrefused : response.status = 401) :
    .asks s.accessToken ∈ (Gateway.new root store).story id actions ∧
      ∀ answer, ((Gateway.new root store).run actions).phase? id = some (.ended answer) →
        answer = .payload (.error .sessionExpired) ∨
          ∃ timeoutMs, answer = .payload (.error (.timeout timeoutMs)) := by
  cases hphase : ((Gateway.new root store).run actions).phase? id with
  | none =>
    rw [story_eq_nil hphase] at hmem
    cases hmem
  | some phase =>
    obtain ⟨d, shape, hproceeds⟩ := proceeds_of_vain hvain hphase
    obtain ⟨hasks, hanswer⟩ := hproceeds.of_refused
      (fun incident hmem => (doomed_new hs).story_fits hvain hmem) hmem hrefused
    refine ⟨hasks, ?_⟩
    intro answer hended
    rcases hanswer answer (Option.some.inj hended) with hexpired | htimeout
    · exact .inl hexpired
    · exact .inr ⟨d.timeoutMs, htimeout⟩

/-- A request that reads the session after it is gone sends nothing. -/
theorem anonymous_of_vain (hvain : (Gateway.new root store).Along actions IsVain)
    {before later : List (Action σ)} (hactions : actions = before ++ .advance id :: later)
    (hopening : ((Gateway.new root store).run before).phase? id = some .opening)
    (hnone : ((Gateway.new root store).run before).current = none) :
    ((Gateway.new root store).run actions).phase? id =
        some (.ended (.payload (.error .notAuthenticated))) ∧
      ((Gateway.new root store).run actions).attemptsOf id = [] := by
  subst hactions
  have hreads := (hvain before _ later rfl).reads
  obtain ⟨_, _, hbefore⟩ := proceeds_of_vain hvain.left hopening
  obtain ⟨⟨purpose, current⟩, hcall, rfl⟩ := Option.map_eq_some_iff.mp hopening
  obtain ⟨d, shape, hpurpose⟩ := exists_request hvain.left hopening
  have hhead : ((Gateway.new root store).story id (before ++ .advance id :: later)).head? =
      some (.opens none) := by
    rw [story_append, hbefore.of_opening.1]
    simp [story, met, hcall, meets, meetsAlone, hreads, hnone, Action.IsBy]
  have hlater : ((Gateway.new root store).run (before ++ .advance id :: later)).purpose? id =
      some (.request d shape) := by
    rw [run_append]
    exact purpose?_run ((orderly_new root store).run before) hpurpose _
  obtain ⟨phase, hphase, hproceeds⟩ := proceeds_run hlater
  obtain ⟨hsent, hended⟩ := hproceeds.conduct.anonymous hhead
  rw [hphase, hended]
  exact ⟨rfl, hsent⟩

end Vain

/-- Many requests start under the session `s`, nobody logs in or out, the store serves, and no
refresh succeeds. Then, whenever each request is refused: there is one exchange at the most. The
session stays until a cycle has failed, and then it is gone, with one event that gives the reason of
that failure. Every attempt is sent under the token of the session, and no request sends two. A
refused request gets no answer but that the session has expired, or that its time is up; it gets one,
unless it was given up, if it and the cycle get their turns, and then the session is gone. A request
that reads the session after that sends nothing and learns that nobody is logged in. -/
theorem failed_refresh_ends_all (root : ApiRoot) (store : σ) (s : Session)
    (hs : held store = some s) (actions : List (Action σ))
    (hvain : (Gateway.new root store).Along actions IsVain) :
    let g := Gateway.new root store
    let h := g.run actions
    h.log.countP Notice.isExchange ≤ 1 ∧
    ((h.current = some s ∧ h.invalidator.feed.events = []) ∨
      ∃ e : RefreshError, h.current = none ∧ h.invalidator.feed.events = [.expired e.message] ∧
        ((∃ cycle ∈ h.coordinator.cycles, cycle.stage = .settling (.error e)) ∨
          ∃ queue, .settled 0 queue (.error e) ∈ h.log)) ∧
    (∀ id, h.attemptsOf id = [] ∨ ∃ request, h.attemptsOf id = [(s.accessToken, request)]) ∧
    (∀ id response answer, .answered (.ok response) ∈ g.story id actions →
      response.status = 401 → h.phase? id = some (.ended answer) →
      answer = .payload (.error .sessionExpired) ∨
        ∃ timeoutMs, answer = .payload (.error (.timeout timeoutMs))) ∧
    (∀ id before later response, actions = before ++ later →
      .answered (.ok response) ∈ g.story id before → response.status = 401 →
      TakesTurns id later →
      (h.phase? id = some (.ended (.payload (.error .sessionExpired))) ∨ h.HasGivenUp id) ∧
        ∃ (e : RefreshError) (queue : List CallId), h.current = none ∧
          h.invalidator.feed.events = [.expired e.message] ∧ .settled 0 queue (.error e) ∈ h.log) ∧
    ∀ id before later, actions = before ++ .advance id :: later →
      (g.run before).phase? id = some .opening → (g.run before).current = none →
      h.phase? id = some (.ended (.payload (.error .notAuthenticated))) ∧
        h.attemptsOf id = [] := by
  intro g h
  have hdoomed : Doomed s h := (doomed_new hs).run hvain
  refine ⟨hdoomed.exchanges_le (sound_run root store actions).sends, ?_, ?_, ?_, ?_, ?_⟩
  · cases hdoomed.fate with
    | untouched hcurrent _ _ hevents => exact .inl ⟨hcurrent, hevents⟩
    | running hcurrent _ _ _ _ hevents => exact .inl ⟨hcurrent, hevents⟩
    | failed hcurrent hcycles hstage _ hevents =>
      exact .inr ⟨_, hcurrent, hevents, .inl ⟨_, by simp [hcycles], hstage⟩⟩
    | gone hcurrent _ _ hevents htold => exact .inr ⟨_, hcurrent, hevents, .inr ⟨_, htold⟩⟩
  · intro id
    cases hphase : h.phase? id with
    | none => exact .inl (attemptsOf_eq_nil hphase)
    | some phase =>
      obtain ⟨d, shape, hproceeds⟩ := proceeds_of_vain hvain hphase
      exact hproceeds.sent_of_fits fun incident hmem => (doomed_new hs).story_fits hvain hmem
  · intro id response answer hmem hstatus hended
    exact (answer_of_refused hs hvain hmem hstatus).2 answer hended
  · intro id before later response hactions hmem hstatus hturns
    subst hactions
    have hasks := (answer_of_refused hs hvain.left hmem hstatus).1
    have hneeds : (g.run before).Needs id 8 := needs_of_asks (doomed_new hs) hvain.left hasks
    obtain ⟨hnone, hsettled⟩ := hneeds.ends ((doomed_new hs).run hvain.left) hvain.right hturns
    rw [← run_append] at hnone hsettled
    have hanswer := answer_of_refused hs hvain
      (by rw [story_append]; exact List.mem_append_left _ hmem) hstatus
    constructor
    · obtain ⟨phase, hphase, ⟨answer, rfl⟩ | rfl⟩ := hnone.ended hdoomed
      · rcases hanswer.2 answer hphase with rfl | ⟨timeoutMs, rfl⟩
        · exact .inl hphase
        · exact .inr ⟨_, hphase, rfl⟩
      · exact .inr ⟨_, hphase, rfl⟩
    · exact (hdoomed.over hsettled).2
  · intro id before later hactions hopening hnone
    exact anonymous_of_vain hvain hactions hopening hnone

/-- Two requests under one session. The first one is refused and starts a cycle, whose request is
answered with 400; the second one is refused after that. The first one ends as expired, and there is
one event. -/
theorem failed_refresh_ends_both :
    let g := Gateway.new ⟨"http://[::1]"⟩ (Cell.mk (some ⟨"A1", some "R1", none⟩))
    let d : Descriptor := ⟨.get, "/orders", [], none, defaultTimeoutMs⟩
    let before : List (Action Cell) := [.start (.request d .value), .start (.request d .value),
      .advance 0, .advance 1, .deliver 0 (.response ⟨401, .empty⟩)]
    let course : List (Action Cell) := [.advanceCycle 0, .deliverRefresh 0 (.response ⟨400, .empty⟩),
      .advanceCycle 0, .advanceCycle 0, .advanceCycle 0]
    let last : List (Action Cell) := [.advance 0, .advance 0, .deliver 1 (.response ⟨401, .empty⟩),
      .advance 1, .advance 1, .advance 1, .advance 1, .advance 1]
    let later := List.replicate 6 (.advance 0) ++ course ++ last
    let actions := before ++ later
    g.Along actions IsVain ∧ (g.run actions).log.countP Notice.isExchange = 1 ∧
      (g.run actions).phase? 0 = some (.ended (.payload (.error .sessionExpired))) ∧
      ∃ e : RefreshError, (g.run actions).invalidator.feed.events = [.expired e.message] := by
  intro g d before course last later actions
  have hvain : g.Along actions IsVain := by
    intro first a rest hactions
    have hmem : a ∈ actions := by simp [hactions]
    refine ⟨?_, rfl, rfl, ?_⟩
    · have hall : ∀ b ∈ actions, b.IsOfRequest := by
        simp [actions, before, later, course, last, Action.IsOfRequest]
      exact hall a hmem
    · rintro tokens ⟨number, delivery, cycle, session, request, ha, -, -, hok⟩
      rcases ha with rfl | ⟨rfl, -⟩
      · obtain ⟨-, rfl⟩ : number = 0 ∧ delivery = .response ⟨400, .empty⟩ := by
          simpa [actions, before, later, course, last] using hmem
        cases hok
      · simp [actions, before, later, course, last] at hmem
  have hturns : TakesTurns 0 later := by
    refine ⟨_, course, last, rfl, List.Sublist.refl _, ?_, ?_⟩
    · exact ⟨_, _, .inl rfl, List.Sublist.refl _⟩
    · exact List.sublist_append_left (last.take 2) (last.drop 2)
  have hstory : (g.story 0 before).any (fun incident => incident.status? = some 401) = true := by
    decide +kernel
  obtain ⟨incident, hmem, hincident⟩ := List.any_eq_true.mp hstory
  obtain ⟨response, rfl, hrefused⟩ :=
    Incident.status?_eq_some (of_decide_eq_true hincident)
  obtain ⟨-, -, -, -, hends, -⟩ := failed_refresh_ends_all ⟨"http://[::1]"⟩
    (Cell.mk (some ⟨"A1", some "R1", none⟩)) ⟨"A1", some "R1", none⟩ rfl actions hvain
  have hfinal := hends 0 before later response (show actions = before ++ later from rfl) hmem
    hrefused hturns
  have hsent : (g.run actions).log.countP Notice.isExchange = 1 := by decide +kernel
  have hnot : ((g.run actions).phase? 0).any Phase.isGivenUp = false := by decide +kernel
  -- The run is not to be evaluated again.
  clear_value actions
  obtain ⟨hended | ⟨phase, hphase, hgiven⟩, e, -, -, hevents, -⟩ := hfinal
  · exact ⟨hvain, hsent, hended, e, hevents⟩
  · rw [hphase, Option.any_some, hgiven] at hnot
    cases hnot

end Gateway

end BearerClient
