import BearerClient.Proofs.Responses
import BearerClient.Proofs.SessionVersions
import BearerClient.Proofs.Waiters

/-!
# The chain of credentials

A refresh makes the next session out of the last one and of a reply, which may leave out the refresh
token and the tenant. If only refresh cycles change the session, it is what all the replies so far
have made of the initial one (`Session.after`), and this is the session whose refresh token the next
cycle sends. `Chained` says so for every stage of a cycle and is kept by every step; the main
statement is `credential_chain`.
-/

namespace BearerClient

/-! ## What a reply carries -/

/-- What a payload says about the tokens that are read from it. -/
structure Tokens.IsCarriedBy (tokens : Tokens) (data : Json) : Prop where
  /-- The access token is there. -/
  access : data.fieldOrNull "access_token" 0 = .str tokens.accessToken
  /-- The refresh token is there, or its field is absent or `null`. -/
  refresh : data.fieldOrNull "refresh_token" 1 = Json.ofString? tokens.refreshToken
  /-- The tenant is in the user's record, or one of the two fields is absent or `null`. -/
  tenant : (data.fieldOrNull "user" 3).fieldOrNull "tenant_id" 0 =
    Json.ofString? (tokens.user.bind TokenUser.tenantId)

theorem Tokens.IsReadFrom.isCarriedBy {data : Json} {tokens : Tokens}
    (h : tokens.IsReadFrom data) : tokens.IsCarriedBy data := by
  have htext : ∀ value field, Json.IsOptional (fun s v => v = .str s) value field →
      value = Json.ofString? field := by
    intro value field hfield
    cases field with
    | none => exact hfield
    | some s => exact hfield
  refine ⟨h.access, htext _ _ h.refresh, ?_⟩
  have huser := h.user
  cases hread : tokens.user with
  | none =>
    rw [hread] at huser
    rw [show data.fieldOrNull "user" 3 = .null from huser]
    rfl
  | some user =>
    rw [hread] at huser
    exact htext _ _ huser.tenant

/-- A response that gives tokens: it is successful, and its payload carries them. -/
structure Response.Grants (r : Response) (tokens : Tokens) : Prop where
  /-- The request was done. -/
  success : r.isSuccess = true
  /-- The payload carries the tokens. -/
  carried : ∃ envelope, Envelope.parse? r.body = some envelope ∧ tokens.IsCarriedBy envelope.data
  /-- There is an access token in them. -/
  present : tokens.accessToken ≠ ""

theorem Response.grants_of_tokens {r : Response} {tokens : Tokens} (h : r.tokens = .ok tokens) :
    r.Grants tokens := by
  obtain ⟨hstatus, hissued⟩ := tokens_eq_ok_iff.mp h
  have hread : tokens.IsReadFrom r.envelope.data := isReadFrom_memberOrNull_iff.mpr hissued.read
  have hparse := parse?_of_not_isGarbled (not_isGarbled_of_isIssuedIn hissued)
  exact ⟨isSuccess_iff.mpr hstatus, ⟨r.envelope, hparse, hread.isCarriedBy⟩, hissued.present⟩

/-! ## The session after some replies -/

namespace Session

/-- The session that replies have made of `initial`: the access token of the last one, and the last
refresh token and the last tenant that any of them carried. -/
def after (initial : Session) (replies : List Tokens) : Session where
  accessToken := (replies.getLast?.map Tokens.accessToken).getD initial.accessToken
  refreshToken := (replies.filterMap Tokens.refreshToken).getLast? <|> initial.refreshToken
  tenantId := (replies.filterMap fun tokens => tokens.user.bind TokenUser.tenantId).getLast? <|>
    initial.tenantId

/-- A list with one more optional item at its end: the last item is that one, if it is there. -/
theorem getLast?_filterMap_concat {α β : Type} (field : α → Option β) (xs : List α) (x : α) :
    ((xs ++ [x]).filterMap field).getLast? = (field x <|> (xs.filterMap field).getLast?) := by
  rw [List.filterMap_append]
  cases hx : field x with
  | none => simp [hx]
  | some value => simp [hx]

/-- Renewing the session is having one more reply. -/
theorem renew_after (initial : Session) (replies : List Tokens) (tokens : Tokens) :
    tokens.renew (initial.after replies) = initial.after (replies ++ [tokens]) := by
  unfold Tokens.renew after
  rw [getLast?_filterMap_concat, getLast?_filterMap_concat, List.getLast?_concat]
  cases tokens.refreshToken <;> cases tokens.user.bind TokenUser.tenantId <;> rfl

/-- The other session has a refresh token if this one has, and a tenant if this one has. -/
structure LosesNothing (s s' : Session) : Prop where
  /-- The refresh token is not lost. -/
  refresh : s.refreshToken.isSome = true → s'.refreshToken.isSome = true
  /-- The tenant is not lost. -/
  tenant : s.tenantId.isSome = true → s'.tenantId.isSome = true

theorem LosesNothing.refl (s : Session) : s.LosesNothing s := ⟨id, id⟩

theorem LosesNothing.trans {s s' s'' : Session} (h : s.LosesNothing s')
    (h' : s'.LosesNothing s'') : s.LosesNothing s'' :=
  ⟨h'.refresh ∘ h.refresh, h'.tenant ∘ h.tenant⟩

theorem losesNothing_renew (s : Session) (tokens : Tokens) : s.LosesNothing (tokens.renew s) := by
  unfold Tokens.renew
  constructor
  · intro hs
    cases tokens.refreshToken with
    | none => exact hs
    | some refreshToken => rfl
  · intro hs
    cases tokens.user.bind TokenUser.tenantId with
    | none => exact hs
    | some tenant => rfl

end Session

/-- The result that a cycle told. -/
def Notice.verdict? : Notice → Option (Except RefreshError String)
  | .settled _ _ result => some result
  | _ => none

namespace Gateway

variable {σ : Type}

/-- The results that cycles have told, in their order. -/
def verdicts (g : Gateway σ) : List (Except RefreshError String) :=
  (g.log.filterMap Notice.verdict?).reverse

/-- The tokens that a cycle receives in a step. -/
def received? (g : Gateway σ) : Action σ → Option Tokens
  | .deliverRefresh number d =>
    match g.coordinator.cycle? number with
    | some ⟨_, _, .exchanging _ request⟩ => (d.tokens request.url).toOption
    | _ => none
  | _ => none

theorem exists_of_received? {g : Gateway σ} {a : Action σ} {tokens : Tokens}
    (h : g.received? a = some tokens) : ∃ number d rejected session request,
      a = .deliverRefresh number d ∧ g.coordinator.cycle? number =
        some ⟨number, rejected, .exchanging session request⟩ ∧
      d.tokens request.url = .ok tokens := by
  unfold received? at h
  split at h
  · rename_i number d
    split at h
    · rename_i number' rejected session request hcycle
      obtain rfl : number' = number := number_of_cycle? hcycle
      refine ⟨number', d, rejected, session, request, rfl, hcycle, ?_⟩
      cases htokens : d.tokens request.url with
      | ok tokens' =>
        rw [htokens] at h
        rw [Option.some.inj h]
      | error e =>
        rw [htokens] at h
        cases h
    · cases h
  · cases h

/-- A cycle receives no tokens but those that a response to its request grants. -/
theorem grants_of_tokens {url : Url} {d : Delivery} {tokens : Tokens}
    (h : d.tokens url = .ok tokens) : ∃ r, d = .response r ∧ r.Grants tokens := by
  cases d with
  | response r => exact ⟨r, rfl, Response.grants_of_tokens h⟩
  | refused => cases h
  | dropped => cases h
  | cut => cases h

theorem verdicts_of_quiet {g g' : Gateway σ} (notices : List Notice)
    (hlog : g'.log = notices ++ g.log)
    (hquiet : ∀ notice ∈ notices, notice.isSettlement = false) : g'.verdicts = g.verdicts := by
  have hnone : notices.filterMap Notice.verdict? = [] := by
    rw [List.filterMap_eq_nil_iff]
    intro notice hmem
    have := hquiet notice hmem
    cases notice <;> first | rfl | cases this
  rw [verdicts, hlog, List.filterMap_append, hnone]
  rfl

theorem verdicts_of_settled {g g' : Gateway σ} {number : Nat} {queue : List CallId}
    {result : Except RefreshError String} (hlog : g'.log = .settled number queue result :: g.log) :
    g'.verdicts = g.verdicts ++ [result] := by
  rw [verdicts, hlog]
  simp [verdicts, Notice.verdict?]

section Replies

variable [Store σ]

/-- The tokens that cycles receive in a run, in their order. -/
def replies (g : Gateway σ) : List (Action σ) → List Tokens
  | [] => []
  | a :: later => (g.received? a).toList ++ (g.step a).replies later

/-- Every reply of a run is a response that grants its tokens. -/
theorem grants_of_mem_replies {g : Gateway σ} {actions : List (Action σ)} {tokens : Tokens}
    (h : tokens ∈ g.replies actions) :
    ∃ number r, .deliverRefresh number (.response r) ∈ actions ∧ r.Grants tokens := by
  induction actions generalizing g with
  | nil => cases h
  | cons a later ih =>
    rcases List.mem_append.mp h with hnow | hlater
    · obtain ⟨number, d, _, _, _, rfl, -, htokens⟩ :=
        exists_of_received? (Option.mem_toList.mp hnow)
      obtain ⟨r, rfl, hgrants⟩ := grants_of_tokens htokens
      exact ⟨number, r, List.mem_cons_self, hgrants⟩
    · obtain ⟨number, r, hmem, hgrants⟩ := ih hlater
      exact ⟨number, r, List.mem_cons_of_mem _ hmem, hgrants⟩

end Replies

/-! ## Runs in which only cycles change the session -/

section Chain

variable [Store σ]

/-- The next call of the store that the task of a cycle makes does not fail. -/
def Serves (g : Gateway σ) (cycle : Cycle) : Prop :=
  match cycle.stage with
  | .reading => ∃ read, (Store.get g.store).1 = .ok read
  | .storing renewed => (Store.set renewed g.store).1 = .ok ()
  | .failing e => ∃ ended, (g.invalidate cycle.rejected e.message).1 = .ok ended
  | .exchanging _ _ | .settling _ => True

variable [LawfulStore σ]

/-- A step of a run in which nothing but cycles changes the session, and in which no call of the
store fails that a cycle makes. -/
structure IsLeftToCycles (g : Gateway σ) (a : Action σ) : Prop where
  /-- Whatever is not a step of a cycle leaves the session as it is. -/
  alone : (∀ number, a ≠ .advanceCycle number) → (g.step a).current = g.current
  /-- The store serves the cycle that takes a step. -/
  serves : ∀ cycle, g.coordinator.cycle? cycle.number = some cycle →
    a = .advanceCycle cycle.number → g.Serves cycle

end Chain

end Gateway

/-- What holds of the session and of the results that cycles have told when every reply so far has
been stored and told: the session is the one that the replies have made, unless a cycle has failed
and the session is gone. -/
structure Rests (initial : Session) (replies : List Tokens) (current : Option Session)
    (verdicts : List (Except RefreshError String)) : Prop where
  /-- The cycles that succeeded told the access tokens of the replies. -/
  told : verdicts.filterMap Except.toOption = replies.map Tokens.accessToken
  /-- The session is the one that the replies have made. -/
  held : current = some (initial.after replies) ∨ current = none ∧ ∃ e, .error e ∈ verdicts

/-- What holds while the task of a cycle is in a stage: as long as its own reply is not stored, the
session is the one that the earlier replies have made. -/
def Stage.Links (initial : Session) (replies : List Tokens) (current : Option Session)
    (verdicts : List (Except RefreshError String)) : Stage → Prop
  | .reading | .failing _ => Rests initial replies current verdicts
  | .exchanging session _ => Rests initial replies current verdicts ∧ current = some session
  | .storing renewed => ∃ earlier tokens, replies = earlier ++ [tokens] ∧
      Rests initial earlier current verdicts ∧ current = some (initial.after earlier) ∧
      renewed = initial.after replies
  | .settling result => Rests initial replies current (verdicts ++ [result])

/-- A failed cycle that has not touched the session, or has removed it, leaves it in order. -/
theorem Rests.fails {initial : Session} {replies : List Tokens} {current current' : Option Session}
    {verdicts : List (Except RefreshError String)} (h : Rests initial replies current verdicts)
    (hcurrent : current' = current ∨ current' = none) (e : RefreshError) :
    Rests initial replies current' (verdicts ++ [.error e]) where
  told := by
    rw [List.filterMap_append, h.told]
    simp [Except.toOption]
  held := by
    rcases hcurrent with rfl | hnone
    · rcases h.held with hheld | ⟨hnone, e', he'⟩
      · exact .inl hheld
      · exact .inr ⟨hnone, e', List.mem_append_left _ he'⟩
    · exact .inr ⟨hnone, e, List.mem_append_right _ List.mem_cons_self⟩

/-- A cycle that has stored the session renewed with its reply tells the token of the reply. -/
theorem Rests.stores {initial : Session} {earlier : List Tokens} {tokens : Tokens}
    {current : Option Session} {verdicts : List (Except RefreshError String)}
    (h : Rests initial earlier current verdicts) :
    Rests initial (earlier ++ [tokens]) (some (initial.after (earlier ++ [tokens])))
      (verdicts ++ [.ok (initial.after (earlier ++ [tokens])).accessToken]) where
  told := by
    rw [List.filterMap_append, h.told]
    simp [Except.toOption, Session.after]
  held := .inl rfl

namespace Gateway

section Chain

variable [Store σ] [LawfulStore σ]

/-- What holds of a gateway after a run in which cycles received `replies`. -/
structure Chained (initial : Session) (replies : List Tokens) (g : Gateway σ) : Prop where
  /-- Nothing is running. -/
  idle : g.coordinator.cycles = [] → Rests initial replies g.current g.verdicts
  /-- A cycle is running. -/
  running : ∀ cycle ∈ g.coordinator.cycles, cycle.stage.Links initial replies g.current g.verdicts

variable {initial : Session} {replies : List Tokens} {g g' : Gateway σ}

theorem chained_new {root : ApiRoot} {store : σ} (hinitial : held store = some initial) :
    Chained initial [] (.new root store) where
  idle _ := ⟨rfl, .inl hinitial⟩
  running _ hmem := absurd hmem List.not_mem_nil

/-- The task that goes on is the only one, so the chain is in order if it is for the new stage. -/
theorem chained_of_setStage (horder : Orderly g) {cycle : Cycle}
    (hcycle : g.coordinator.cycle? cycle.number = some cycle) {stage : Stage}
    (hcoordinator : g'.coordinator = g.coordinator.setStage cycle.number stage)
    (hlinks : stage.Links initial replies g'.current g'.verdicts) : Chained initial replies g' := by
  have hcycles := horder.coordinator.cycles_setStage hcycle stage
  rw [← hcoordinator] at hcycles
  refine ⟨fun hnone => ?_, fun cycle' hmem => ?_⟩
  · rw [hcycles] at hnone
    cases hnone
  · rw [hcycles, List.mem_singleton] at hmem
    rw [hmem]
    exact hlinks

theorem Chained.of_same (h : Chained initial replies g)
    (hcycles : g'.coordinator.cycles = g.coordinator.cycles) (hcurrent : g'.current = g.current)
    (hverdicts : g'.verdicts = g.verdicts) : Chained initial replies g' := by
  refine ⟨fun hnone => ?_, fun cycle hmem => ?_⟩
  · rw [hcurrent, hverdicts]
    exact h.idle (hcycles.symm.trans hnone)
  · rw [hcurrent, hverdicts]
    exact h.running cycle (hcycles ▸ hmem)

/-- A cycle that receives tokens is about to store the session renewed with them. -/
theorem Chained.receive (h : Chained initial replies g) (horder : Orderly g) {a : Action σ}
    {tokens : Tokens} (hreceived : g.received? a = some tokens) :
    Chained initial (replies ++ [tokens]) (g.step a) := by
  obtain ⟨number, d, rejected, session, request, rfl, hcycle, htokens⟩ :=
    exists_of_received? hreceived
  have hstep : g.step (.deliverRefresh number d) =
      g.setStage number (.storing (tokens.renew session)) := by
    simp only [step, deliverRefresh, hcycle, htokens]
  obtain ⟨hrests, hcurrent⟩ := h.running _ (List.mem_of_find?_eq_some hcycle)
  obtain rfl : session = initial.after replies := by
    rcases hrests.held with hheld | ⟨hnone, -⟩
    · exact Option.some.inj (hcurrent.symm.trans hheld)
    · cases hcurrent.symm.trans hnone
  have hcycle' : g.coordinator.cycle? (Cycle.mk number rejected
      (.exchanging (initial.after replies) request)).number = some _ := hcycle
  rw [hstep]
  refine chained_of_setStage horder hcycle' rfl ?_
  exact ⟨replies, tokens, rfl, hrests, hcurrent, Session.renew_after initial replies tokens⟩

omit [Store σ] [LawfulStore σ] in
theorem received?_of_answers {a : Action σ} {d : Delivery} {cycle : Cycle} {session : Session}
    {request : Request} {tokens : Tokens} (ha : Answers cycle.number a d)
    (hcycle : g.coordinator.cycle? cycle.number = some cycle)
    (hstage : cycle.stage = .exchanging session request)
    (htokens : d.tokens request.url = .ok tokens) : g.received? a = some tokens := by
  rcases ha with rfl | ⟨-, rfl⟩
  · obtain ⟨number, rejected, stage⟩ := cycle
    subst hstage
    simp [received?, hcycle, htokens, Except.toOption]
  · cases htokens

/-- A task that goes on without a reply keeps the chain in order. -/
theorem Work.links {cycle : Cycle} {a : Action σ} {stage : Stage} {store : σ}
    {notices : List Notice} (h : Work g cycle a stage store notices)
    (hcycle : g.coordinator.cycle? cycle.number = some cycle) (hnone : g.received? a = none)
    (hserves : a = .advanceCycle cycle.number → g.Serves cycle)
    (hlinks : cycle.stage.Links initial replies g.current g.verdicts) :
    stage.Links initial replies (held store) g.verdicts := by
  have hkept : held (Store.get g.store).2 = g.current := LawfulStore.held_get g.store
  unfold Serves at hserves
  cases h with
  | breaksReading hstage hget =>
    rw [hstage] at hserves
    obtain ⟨read, hread⟩ := hserves rfl
    cases hget.symm.trans hread
  | cannotRead hstage hget =>
    rw [hstage] at hserves
    obtain ⟨read, hread⟩ := hserves rfl
    cases hget.symm.trans hread
  | findsNone hstage =>
    rw [hstage] at hlinks
    rw [hkept]
    exact hlinks
  | lacksToken hstage =>
    rw [hstage] at hlinks
    rw [hkept]
    exact hlinks
  | lacksAddress hstage =>
    rw [hstage] at hlinks
    rw [hkept]
    exact hlinks
  | sends hstage hget =>
    rw [hstage] at hlinks
    rw [hkept]
    exact ⟨hlinks, LawfulStore.get_ok g.store _ hget⟩
  | receives hstage ha htokens =>
    cases hnone.symm.trans (received?_of_answers ha hcycle hstage htokens)
  | receivesNone hstage =>
    rw [hstage] at hlinks
    exact hlinks.1
  | @stores renewed hstage hset =>
    rw [hstage] at hlinks
    obtain ⟨earlier, tokens, rfl, hrests, -, rfl⟩ := hlinks
    rw [LawfulStore.held_set _ g.store hset]
    exact hrests.stores
  | cannotStore hstage hset =>
    rw [hstage] at hserves
    cases hset.symm.trans (hserves rfl)
  | breaksStoring hstage hset =>
    rw [hstage] at hserves
    cases hset.symm.trans (hserves rfl)

/-- Every step without a reply keeps the chain in order. -/
theorem Move.chained {a : Action σ} (h : Move g a g') (horder : Orderly g)
    (hnone : g.received? a = none)
    (halone : (∀ number, a ≠ .advanceCycle number) → g'.current = g.current)
    (hserves : ∀ cycle, g.coordinator.cycle? cycle.number = some cycle →
      a = .advanceCycle cycle.number → g.Serves cycle)
    (hg : Chained initial replies g) : Chained initial replies g' := by
  cases h with
  | idles => exact hg
  | comes => exact hg.of_same rfl rfl rfl
  | walks hcall hwalk =>
    refine hg.of_same rfl hwalk.held_eq (verdicts_of_quiet _ (moved_log ..) ?_)
    intro notice hmem
    have hconcerns := hwalk.concernsCall notice hmem
    cases notice <;> first | rfl | cases hconcerns
  | joins =>
    exact hg.of_same rfl rfl
      (verdicts_of_quiet [_] rfl (by simp [Notice.isSettlement]))
  | begins _ hidle =>
    have hcycles := (horder.coordinator.idle hidle).1
    refine ⟨fun hnone => ?_, fun cycle hmem => ?_⟩
    · rw [coordinatedBy_coordinator, horder.coordinator.cycles_start hidle] at hnone
      cases hnone
    · rw [coordinatedBy_coordinator, horder.coordinator.cycles_start hidle,
        List.mem_singleton] at hmem
      rw [hmem]
      exact hg.idle hcycles
  | expires =>
    exact hg.of_same rfl (halone (by simp))
      (verdicts_of_quiet [_] rfl (by simp [Notice.isSettlement]))
  | @works _ cycle stage store notices hcycle hwork =>
    have hverdicts : (g.worked cycle.number stage store notices).verdicts = g.verdicts := by
      refine verdicts_of_quiet _ (worked_log ..) ?_
      cases hwork <;> simp [Notice.isSettlement]
    have hlinks := hg.running cycle (List.mem_of_find?_eq_some hcycle)
    refine chained_of_setStage horder hcycle rfl ?_
    rw [hverdicts]
    exact hwork.links hcycle hnone (hserves cycle hcycle) hlinks
  | @fails cycle e result hcycle hstage hresult =>
    have hlinks := hg.running cycle (List.mem_of_find?_eq_some hcycle)
    rw [hstage] at hlinks
    refine chained_of_setStage horder hcycle rfl ?_
    obtain ⟨e', rfl⟩ : ∃ e', result = .error e' := by
      rw [hresult]
      split
      · exact ⟨_, rfl⟩
      · exact ⟨_, rfl⟩
    exact Rests.fails hlinks (g.current_invalidate cycle.rejected e.message) e'
  | @settles cycle result hcycle hstage =>
    have hlinks := hg.running cycle (List.mem_of_find?_eq_some hcycle)
    rw [hstage] at hlinks
    have hcurrent : (g.settle cycle.number result).current = g.current := by
      rw [current, settle_store]
      rfl
    have hcycles : (g.settle cycle.number result).coordinator.cycles = [] := by
      rw [settle_coordinator, horder.coordinator.cycles_settle hcycle]
    refine ⟨fun _ => ?_, fun cycle' hmem => ?_⟩
    · rw [hcurrent, verdicts_of_settled (settle_log ..)]
      exact hlinks
    · rw [hcycles] at hmem
      cases hmem
  | touches htouch =>
    obtain ⟨-, hcoordinator, -, hlog⟩ := htouch.frame
    refine hg.of_same (by rw [hcoordinator]) (halone ?_) (by rw [verdicts, hlog]; rfl)
    intro number hadvance
    subst hadvance
    cases htouch

theorem Chained.step (h : Chained initial replies g) (horder : Orderly g) {a : Action σ}
    (ha : IsLeftToCycles g a) :
    Chained initial (replies ++ (g.received? a).toList) (g.step a) := by
  cases hreceived : g.received? a with
  | some tokens => exact h.receive horder hreceived
  | none =>
    rw [Option.toList_none, List.append_nil]
    exact (move_step g a).chained horder hreceived ha.alone ha.serves h

/-- After every run the session is the one that the replies have made. -/
theorem Chained.run {actions : List (Action σ)} (h : Chained initial replies g)
    (horder : Orderly g) (halong : g.Along actions IsLeftToCycles) :
    Chained initial (replies ++ g.replies actions) (g.run actions) := by
  induction actions generalizing g replies with
  | nil =>
    rw [Gateway.replies, List.append_nil]
    exact h
  | cons a later ih =>
    rw [Gateway.replies, ← List.append_assoc]
    exact ih (h.step horder halong.head) ((move_step g a).orderly horder) halong.tail

end Chain

/-! ## What a chain of refreshes never loses -/

section Chain

variable [Store σ] [LawfulStore σ] {initial : Session} {replies : List Tokens} {g : Gateway σ}

/-- A session that is held after a step is one that was held before, or was made of one that was
held before, and has lost nothing. -/
theorem Chained.losesNothing (h : Chained initial replies g) {a : Action σ}
    (ha : IsLeftToCycles g a) {s' : Session} (hs' : (g.step a).current = some s') :
    ∃ s, g.current = some s ∧ s.LosesNothing s' := by
  by_cases hcycle : ∃ number, a = .advanceCycle number
  · obtain ⟨number, rfl⟩ := hcycle
    rcases (move_step g (.advanceCycle number)).current_cases trivial with
      hkept | hnone | ⟨cycle, renewed, hcycle, hstage, -, hstored, -⟩
    · exact ⟨s', hkept.symm.trans hs', .refl s'⟩
    · cases hnone.symm.trans hs'
    · have hlinks := h.running cycle (List.mem_of_find?_eq_some hcycle)
      rw [hstage] at hlinks
      obtain ⟨earlier, tokens, rfl, -, hcurrent, rfl⟩ := hlinks
      obtain rfl := Option.some.inj (hstored.symm.trans hs')
      rw [← Session.renew_after]
      exact ⟨_, hcurrent, Session.losesNothing_renew _ tokens⟩
  · have hkept := ha.alone fun number hadvance => hcycle ⟨number, hadvance⟩
    exact ⟨s', hkept.symm.trans hs', .refl s'⟩

theorem Chained.losesNothing_run {actions : List (Action σ)} (h : Chained initial replies g)
    (horder : Orderly g) (halong : g.Along actions IsLeftToCycles) {s' : Session}
    (hs' : (g.run actions).current = some s') : ∃ s, g.current = some s ∧ s.LosesNothing s' := by
  induction actions generalizing g replies with
  | nil => exact ⟨s', hs', .refl s'⟩
  | cons a later ih =>
    obtain ⟨middle, hmiddle, hlater⟩ :=
      ih (h.step horder halong.head) ((move_step g a).orderly horder) halong.tail hs'
    obtain ⟨s, hs, hnow⟩ := h.losesNothing halong.head hmiddle
    exact ⟨s, hs, hnow.trans hlater⟩

/-- A session that a task is about to read is the one that the replies have made. -/
theorem Chained.eq_of_reading (h : Chained initial replies g) {cycle : Cycle}
    (hmem : cycle ∈ g.coordinator.cycles) (hstage : cycle.stage = .reading) {s : Session}
    (hs : g.current = some s) : s = initial.after replies := by
  have hlinks := h.running cycle hmem
  rw [hstage] at hlinks
  rcases hlinks.held with hheld | ⟨hnone, -⟩
  · exact Option.some.inj (hs.symm.trans hheld)
  · cases hnone.symm.trans hs

/-- An exchange that is sent in a step sends the refresh token of the session that the replies have
made. -/
theorem Chained.sends (h : Chained initial replies g) {a : Action σ} {number : Nat}
    {refreshToken : String} {request : Request}
    (hmem : .exchange number refreshToken request ∈ (g.step a).log)
    (hnew : .exchange number refreshToken request ∉ g.log) :
    (initial.after replies).refreshToken = some refreshToken := by
  rcases (move_step g a).exchange_cases hmem with hold | ⟨cycle, s, hcycle, hstage, hs, htoken⟩
  · exact absurd hold hnew
  · obtain rfl := h.eq_of_reading (List.mem_of_find?_eq_some hcycle) hstage hs
    exact htoken

/-- A task that reads a session with a refresh token sends it, if there is an address for it. -/
theorem log_of_reading {cycle : Cycle}
    (hcycle : g.coordinator.cycle? cycle.number = some cycle) (hstage : cycle.stage = .reading)
    (hserves : g.Serves cycle) {s : Session} (hs : g.current = some s) {refreshToken : String}
    (htoken : s.refreshToken = some refreshToken) {url : Url} (hurl : g.root.refreshUrl = .ok url) :
    (g.step (.advanceCycle cycle.number)).log =
      .exchange cycle.number refreshToken (Request.refresh url refreshToken) :: g.log := by
  rw [Serves, hstage] at hserves
  obtain ⟨read, hget⟩ := hserves
  obtain rfl : read = some s := (LawfulStore.get_ok g.store read hget).symm.trans hs
  simp only [step, advanceCycle, hcycle, hstage, beginExchange, hget, htoken, hurl]
  rfl

/-! ## A session without a refresh token -/

/-- A cycle that has no refresh token to send: it has not sent anything, and if it has told a result
it is that the token is missing. -/
structure IsDry (number : Nat) (g : Gateway σ) : Prop where
  /-- The cycle has been started. -/
  begun : number < g.coordinator.started
  /-- The cycle has not sent anything. -/
  unsent : ∀ refreshToken request, .exchange number refreshToken request ∉ g.log
  /-- It has told nothing else. -/
  verdict : ∀ queue result, .settled number queue result ∈ g.log →
    result = .error .missingRefreshToken
  /-- Its task has not read the session yet, or has failed for this reason. -/
  stage : ∀ cycle, g.coordinator.cycle? number = some cycle →
    (cycle.stage = .reading ∧ ∃ s, g.current = some s ∧ s.refreshToken = none) ∨
      cycle.stage = .failing .missingRefreshToken ∨
      cycle.stage = .settling (.error .missingRefreshToken)

/-- The task of a cycle without a refresh token stays one in every step. -/
theorem Move.dry_stage {g' : Gateway σ} {a : Action σ} (h : Move g a g') (horder : Orderly g)
    {number : Nat} (hg : IsDry number g)
    (halone : (∀ number, a ≠ .advanceCycle number) → g'.current = g.current)
    (hserves : ∀ cycle, g.coordinator.cycle? cycle.number = some cycle →
      a = .advanceCycle cycle.number → g.Serves cycle) {cycle' : Cycle}
    (hcycle' : g'.coordinator.cycle? number = some cycle') :
    (cycle'.stage = .reading ∧ ∃ s, g'.current = some s ∧ s.refreshToken = none) ∨
      cycle'.stage = .failing .missingRefreshToken ∨
      cycle'.stage = .settling (.error .missingRefreshToken) := by
  have hset : ∀ {cycle : Cycle} {stage : Stage},
      g.coordinator.cycle? cycle.number = some cycle →
      (g.coordinator.setStage cycle.number stage).cycle? number = some cycle' →
      cycle.number = number ∧ cycle'.stage = stage := by
    intro cycle stage hcycle hfound
    have hmem := List.mem_of_find?_eq_some hfound
    rw [horder.coordinator.cycles_setStage hcycle, List.mem_singleton] at hmem
    have hnumber := number_of_cycle? hfound
    rw [hmem] at hnumber
    exact ⟨hnumber, by rw [hmem]⟩
  cases h with
  | idles => exact hg.stage cycle' hcycle'
  | comes => exact hg.stage cycle' hcycle'
  | walks _ hwalk =>
    rw [current, moved_store, hwalk.held_eq]
    exact hg.stage cycle' hcycle'
  | joins => exact hg.stage cycle' hcycle'
  | begins _ hidle =>
    have hmem := List.mem_of_find?_eq_some hcycle'
    rw [coordinatedBy_coordinator, horder.coordinator.cycles_start hidle,
      List.mem_singleton] at hmem
    have hnumber := number_of_cycle? hcycle'
    rw [hmem] at hnumber
    exact absurd hnumber (Nat.ne_of_gt hg.begun)
  | expires =>
    rw [halone (by simp)]
    exact hg.stage cycle' hcycle'
  | @works _ cycle stage store _ hcycle hwork =>
    obtain ⟨rfl, hafter⟩ := hset hcycle hcycle'
    have hbefore := hg.stage cycle hcycle
    have hserves' := hserves cycle hcycle
    unfold Serves at hserves'
    rw [hafter]
    cases hwork with
    | breaksReading hstage hget =>
      rw [hstage] at hserves'
      obtain ⟨read, hread⟩ := hserves' rfl
      cases hget.symm.trans hread
    | cannotRead hstage hget =>
      rw [hstage] at hserves'
      obtain ⟨read, hread⟩ := hserves' rfl
      cases hget.symm.trans hread
    | findsNone hstage hget =>
      rcases hbefore with ⟨-, s, hs, -⟩ | hbefore | hbefore
      · cases (LawfulStore.get_ok g.store _ hget).symm.trans hs
      · cases hstage.symm.trans hbefore
      · cases hstage.symm.trans hbefore
    | lacksToken => exact .inr (.inl rfl)
    | lacksAddress hstage hget htoken =>
      rcases hbefore with ⟨-, s, hs, hnone⟩ | hbefore | hbefore
      · obtain rfl := Option.some.inj ((LawfulStore.get_ok g.store _ hget).symm.trans hs)
        cases hnone.symm.trans htoken
      · cases hstage.symm.trans hbefore
      · cases hstage.symm.trans hbefore
    | sends hstage hget htoken =>
      rcases hbefore with ⟨-, s, hs, hnone⟩ | hbefore | hbefore
      · obtain rfl := Option.some.inj ((LawfulStore.get_ok g.store _ hget).symm.trans hs)
        cases hnone.symm.trans htoken
      · cases hstage.symm.trans hbefore
      · cases hstage.symm.trans hbefore
    | receives hstage => simp [hstage] at hbefore
    | receivesNone hstage => simp [hstage] at hbefore
    | stores hstage => simp [hstage] at hbefore
    | cannotStore hstage => simp [hstage] at hbefore
    | breaksStoring hstage => simp [hstage] at hbefore
  | @fails cycle e result hcycle hstage hresult =>
    obtain ⟨rfl, hafter⟩ := hset hcycle hcycle'
    have hended := hserves cycle hcycle rfl
    rw [Serves, hstage] at hended
    obtain ⟨ended, hended⟩ := hended
    have hbefore := hg.stage cycle hcycle
    simp only [hstage, reduceCtorEq, false_and, Stage.failing.injEq, false_or, or_false] at hbefore
    rw [hafter, hresult, hended, if_neg (by simp), hbefore]
    exact .inr (.inr rfl)
  | settles hcycle =>
    have hmem := List.mem_of_find?_eq_some hcycle'
    rw [settle_coordinator, horder.coordinator.cycles_settle hcycle] at hmem
    cases hmem
  | touches htouch =>
    obtain ⟨-, hcoordinator, -, -⟩ := htouch.frame
    rw [hcoordinator] at hcycle'
    rw [halone]
    · exact hg.stage cycle' hcycle'
    · intro number' hadvance
      subst hadvance
      cases htouch

theorem IsDry.step {number : Nat} (h : IsDry number g) (horder : Orderly g) {a : Action σ}
    (ha : IsLeftToCycles g a) : IsDry number (g.step a) where
  begun := Nat.lt_of_lt_of_le h.begun (move_step g a).started_le
  unsent refreshToken request hmem := by
    rcases (move_step g a).exchange_cases hmem with hold | ⟨cycle, s, hcycle, hstage, hs, htoken⟩
    · exact h.unsent refreshToken request hold
    · rcases h.stage cycle hcycle with ⟨-, s', hs', hnone⟩ | hbefore | hbefore
      · obtain rfl := Option.some.inj (hs.symm.trans hs')
        cases hnone.symm.trans htoken
      · cases hstage.symm.trans hbefore
      · cases hstage.symm.trans hbefore
  verdict queue result hmem := by
    rcases (move_step g a).settled_cases horder with
      ⟨-, notices, hlog, hquiet⟩ | ⟨queue', result', -, hlog⟩
    · rw [hlog] at hmem
      rcases List.mem_append.mp hmem with hnew | hold
      · cases hquiet _ hnew
      · exact h.verdict queue result hold
    · rw [hlog] at hmem
      rcases List.mem_cons.mp hmem with hnew | hold
      · obtain ⟨rfl, rfl, rfl⟩ : _ ∧ _ ∧ _ := by simpa using hnew
        obtain ⟨cycle, hcycle, hstage, -⟩ := Settles.eq_settle hlog
        have hbefore := h.stage cycle hcycle
        simpa [hstage] using hbefore
      · exact h.verdict queue result hold
  stage _ hcycle' :=
    (move_step g a).dry_stage horder h ha.alone ha.serves hcycle'

theorem IsDry.run {number : Nat} {actions : List (Action σ)} (h : IsDry number g)
    (horder : Orderly g) (halong : g.Along actions IsLeftToCycles) :
    IsDry number (g.run actions) := by
  induction actions generalizing g with
  | nil => exact h
  | cons a later ih =>
    exact ih (h.step horder halong.head) ((move_step g a).orderly horder) halong.tail

omit [Store σ] [LawfulStore σ] in
/-- A cycle that is alive has not told a result. -/
theorem CountsSettlements.not_settled (hcounts : CountsSettlements g) (horder : Orderly g)
    {number : Nat} {cycle : Cycle} (hcycle : g.coordinator.cycle? number = some cycle)
    (queue : List CallId) (result : Except RefreshError String) :
    .settled number queue result ∉ g.log := by
  obtain ⟨-, -, -, -, hsettled, -⟩ := horder.coordinator.flight_of_cycle? hcycle
  have hnone : g.settlementsOf number = 0 := by
    rw [hcounts.each, if_neg (by omega)]
  intro hmem
  have hfalse := List.countP_eq_zero.mp hnone _ hmem
  simp [Notice.isSettlementOf] at hfalse

/-- A cycle that is about to read a session without a refresh token has none to send. -/
theorem isDry_of_reading (hsound : Sound g) {cycle : Cycle} (hmem : cycle ∈ g.coordinator.cycles)
    (hstage : cycle.stage = .reading) {s : Session} (hs : g.current = some s)
    (hnone : s.refreshToken = none) : IsDry cycle.number g := by
  have hcycle := hsound.order.coordinator.cycle?_of_mem hmem
  obtain ⟨-, -, -, -, hsettled, hstarted⟩ := hsound.order.coordinator.flight_of_cycle? hcycle
  have hreads : ∀ other, g.coordinator.cycle? cycle.number = some other →
      other.stage = .reading := by
    intro other hother
    obtain rfl := Option.some.inj (hcycle.symm.trans hother)
    exact hstage
  have hunsent := hsound.sends.unsent cycle.number (by omega) hreads
  refine ⟨by omega, ?_, ?_, ?_⟩
  · intro refreshToken request hsent
    have hfalse := List.countP_eq_zero.mp hunsent _ hsent
    simp [Notice.isExchangeOf] at hfalse
  · intro queue result hsettledNow
    exact absurd hsettledNow
      (hsound.counts.not_settled hsound.order hcycle queue result)
  · intro other hother
    exact .inl ⟨hreads other hother, s, hs, hnone⟩

/-! ## Cycles that fail -/

omit [LawfulStore σ] in
/-- A cycle that is about to tell a result tells no other. -/
theorem verdict_of_settling (hsound : Sound g) {number : Nat} {cycle : Cycle}
    {result : Except RefreshError String} (hcycle : g.coordinator.cycle? number = some cycle)
    (hstage : cycle.stage = .settling result) {later : List (Action σ)} {queue : List CallId}
    {told : Except RefreshError String} (hmem : .settled number queue told ∈ (g.run later).log) :
    told = result := by
  induction later using List.reverseRecOn with
  | nil => exact absurd hmem (hsound.counts.not_settled hsound.order hcycle queue told)
  | append_singleton before a ih =>
    rw [run_concat] at hmem
    rcases (move_step (g.run before) a).settled_cases (hsound.order.run before) with
      ⟨-, notices, hlog, hquiet⟩ | ⟨queue', result', -, hlog⟩
    · rw [hlog] at hmem
      rcases List.mem_append.mp hmem with hnew | hold
      · cases hquiet _ hnew
      · exact ih hold
    · rw [hlog] at hmem
      rcases List.mem_cons.mp hmem with hnew | hold
      · obtain ⟨rfl, rfl, rfl⟩ : _ ∧ _ ∧ _ := by simpa using hnew
        exact Settles.result_eq hsound.order hcycle hstage hlog
      · exact ih hold

/-- No step of a cycle that fails in the end puts a session in the store. -/
theorem current_of_failed {root : ApiRoot} {store : σ} {before later : List (Action σ)}
    {number : Nat} {queue : List CallId} {e : RefreshError}
    (hfailed : .settled number queue (.error e) ∈
      ((Gateway.new root store).run (before ++ .advanceCycle number :: later)).log) :
    let h := (Gateway.new root store).run before
    (h.step (.advanceCycle number)).current = h.current ∨
      (h.step (.advanceCycle number)).current = none := by
  intro h
  have hsound : Sound h := sound_run root store before
  rcases (move_step h (.advanceCycle number)).current_cases trivial with
    hkept | hnone | ⟨cycle, renewed, hcycle, -, -, -, hcoordinator⟩
  · exact .inl hkept
  · exact .inr hnone
  · cases hown : h.coordinator.cycle? number with
    | none =>
      have hstep : h.step (.advanceCycle number) = h := by simp [step, advanceCycle, hown]
      exact .inl (by rw [hstep])
    -- The one task has stored its session, so it tells its token and cannot have failed.
    | some own =>
      obtain ⟨-, -, -, hcycles, -⟩ := hsound.order.coordinator.flight_of_cycle? hown
      have hmem := List.mem_of_find?_eq_some hcycle
      rw [hcycles, List.mem_singleton] at hmem
      subst hmem
      obtain rfl := number_of_cycle? hown
      have hafter : (h.step (.advanceCycle cycle.number)).coordinator.cycle? cycle.number =
          some { cycle with stage := .settling (.ok renewed.accessToken) } := by
        rw [hcoordinator]
        exact Coordinator.cycle?_setStage_self hcycle _
      have hsound' : Sound (h.step (.advanceCycle cycle.number)) := by
        have hrun := sound_run root store (before ++ [.advanceCycle cycle.number])
        rwa [run_concat] at hrun
      rw [run_append, run_cons] at hfailed
      cases verdict_of_settling hsound' hafter rfl hfailed

/-! ## The chain of credentials -/

/-- For every initial session, and in every run in which nothing but refresh cycles changes the
session and no call of the store fails that a cycle makes:

* every reply is a successful response whose payload carries its tokens;
* when nothing is running, the cycles that succeeded have told the access tokens of the replies, one
  each and in order, and the session is the one that the replies have made of the initial one,
  unless a cycle has failed and the session is gone;
* the next exchange posts the refresh token of that session and nothing else, and a cycle that is
  about to read it does send it if there is an address for the exchange;
* a session that is held was held at every time before in a form of which no refresh token and no
  tenant is lost;
* a cycle that is about to read a session without a refresh token sends nothing, can settle only
  with the failure that the token is missing, and does so if it gets its turns;
* no step of a cycle that has failed has put a session in the store. -/
theorem credential_chain (root : ApiRoot) (store : σ) (initial : Session)
    (hinitial : held store = some initial) (actions : List (Action σ))
    (halong : (Gateway.new root store).Along actions IsLeftToCycles) :
    let g := (Gateway.new root store).run actions
    let replies := (Gateway.new root store).replies actions
    (∀ tokens ∈ replies, ∃ number r, .deliverRefresh number (.response r) ∈ actions ∧
      r.Grants tokens) ∧
    (g.coordinator.flight = none →
      g.verdicts.filterMap Except.toOption = replies.map Tokens.accessToken ∧
      (g.current = some (initial.after replies) ∨
        g.current = none ∧ ∃ e, .error e ∈ g.verdicts)) ∧
    (∀ a number refreshToken request, .exchange number refreshToken request ∈ (g.step a).log →
      .exchange number refreshToken request ∉ g.log →
      (initial.after replies).refreshToken = some refreshToken ∧ request.Exchanges refreshToken ∧
      ∃ url, root.refreshUrl = .ok url ∧ request = Request.refresh url refreshToken) ∧
    (∀ cycle ∈ g.coordinator.cycles, cycle.stage = .reading → g.Serves cycle →
      ∀ s, g.current = some s → s = initial.after replies ∧
      ∀ refreshToken url, s.refreshToken = some refreshToken → root.refreshUrl = .ok url →
        (Request.refresh url refreshToken).Exchanges refreshToken ∧
        (g.step (.advanceCycle cycle.number)).log =
          .exchange cycle.number refreshToken (Request.refresh url refreshToken) :: g.log) ∧
    (∀ before later s', actions = before ++ later → g.current = some s' →
      ∃ s, ((Gateway.new root store).run before).current = some s ∧ s.LosesNothing s') ∧
    (∀ cycle ∈ g.coordinator.cycles, cycle.stage = .reading →
      ∀ s, g.current = some s → s.refreshToken = none →
      ∀ later, g.Along later IsLeftToCycles →
        (∀ refreshToken request,
          .exchange cycle.number refreshToken request ∉ (g.run later).log) ∧
        (∀ queue result, .settled cycle.number queue result ∈ (g.run later).log →
          result = .error .missingRefreshToken) ∧
        (Course cycle.number later → (g.run later).settlementsOf cycle.number = 1)) ∧
    ∀ number queue e, .settled number queue (.error e) ∈ g.log →
      ∀ before later, actions = before ++ .advanceCycle number :: later →
        let h := (Gateway.new root store).run before
        (h.step (.advanceCycle number)).current = h.current ∨
          (h.step (.advanceCycle number)).current = none := by
  intro g replies
  have hnew : Orderly (Gateway.new root store) := orderly_new root store
  have hsound : Sound g := sound_run root store actions
  have hroot : g.root = root := root_run _ actions
  have hchain : Chained initial replies g := (chained_new hinitial).run hnew halong
  refine ⟨fun tokens hmem => grants_of_mem_replies hmem, ?_, ?_, ?_, ?_, ?_, ?_⟩
  · intro hidle
    have hrests := hchain.idle (hsound.order.coordinator.idle hidle).1
    exact ⟨hrests.told, hrests.held⟩
  · intro a number refreshToken request hmem hnewly
    have hsends := (sound_run root store (actions ++ [a])).sends
    rw [run_concat] at hsends
    obtain ⟨url, hurl, hrequest⟩ := hsends.requests number refreshToken request hmem
    rw [(move_step g a).root_eq, hroot] at hurl
    have hexchanges : request.Exchanges refreshToken := by
      rw [hrequest]
      exact Request.exchanges_refresh url refreshToken
    exact ⟨hchain.sends hmem hnewly, hexchanges, url, hurl, hrequest⟩
  · intro cycle hmem hstage hserves s hs
    refine ⟨hchain.eq_of_reading hmem hstage hs, ?_⟩
    intro refreshToken url htoken hurl
    refine ⟨Request.exchanges_refresh url refreshToken, ?_⟩
    exact log_of_reading (hsound.order.coordinator.cycle?_of_mem hmem) hstage hserves hs htoken
      (hroot ▸ hurl)
  · rintro before later s' rfl hs'
    have hbefore : Chained initial _ _ := (chained_new hinitial).run hnew halong.left
    have hs'' : (((Gateway.new root store).run before).run later).current = some s' := by
      rw [← run_append]
      exact hs'
    exact hbefore.losesNothing_run (hnew.run before) halong.right hs''
  · intro cycle hmem hstage s hs hnone later hlater
    have hdry := (isDry_of_reading hsound hmem hstage hs hnone).run hsound.order hlater
    exact ⟨hdry.unsent, hdry.verdict,
      fun hcourse => (settled_of_course root store actions later hmem hcourse).1⟩
  · rintro number queue e hfailed before later rfl
    exact current_of_failed hfailed

end Chain

/-- Two cycles refresh a session, one after the other. The first reply carries a refresh token and a
tenant, which are still there after the second one, which carries neither. -/
theorem credential_chain_of_two_cycles :
    let g := Gateway.new ⟨"http://[::1]"⟩ (Cell.mk (some ⟨"A1", some "R1", none⟩))
    let first := "\x7b\"data\":\x7b\"access_token\":\"A2\",\"refresh_token\":\"R2\"," ++
      "\"user\":\x7b\"tenant_id\":\"T2\"\x7d\x7d\x7d"
    let second := "\x7b\"data\":\x7b\"access_token\":\"A3\",\"refresh_token\":null\x7d\x7d"
    let cycle (id : CallId) (token body : String) : List (Action Cell) :=
      [.start (.token token), .advance id, .advance id, .advance id, .advanceCycle id,
        .deliverRefresh id (.response ⟨200, body.toUTF8⟩), .advanceCycle id, .advanceCycle id]
    let actions := cycle 0 "A1" first ++ cycle 1 "A2" second
    g.Along actions IsLeftToCycles ∧
      g.replies actions =
        [⟨"A2", some "R2", none, some ⟨some "T2"⟩⟩, ⟨"A3", none, none, none⟩] ∧
      (g.run actions).current = some ⟨"A3", some "R2", some "T2"⟩ := by
  intro g first second cycle actions
  have hsteps : ∀ n < actions.length, (g.run (actions.take n)).invalidator.poisoned = false ∧
      ((actions[n]?.any fun a => a matches .advanceCycle _) = true ∨
        (g.run (actions.take (n + 1))).current = (g.run (actions.take n)).current) := by
    decide +kernel
  have halong : g.Along actions IsLeftToCycles := by
    intro before a later hactions
    have hlength : before.length < actions.length := by simp [hactions]
    have hbefore : actions.take before.length = before := by simp [hactions]
    have hafter : actions.take (before.length + 1) = before ++ [a] := by
      rw [hactions, List.take_length_add_append]
      rfl
    have ha : actions[before.length]? = some a := by simp [hactions]
    obtain ⟨husable, hkept⟩ := hsteps before.length hlength
    rw [hbefore] at husable hkept
    rw [hafter, run_concat, ha] at hkept
    refine ⟨fun hother => ?_, fun cycle _ _ => ?_⟩
    · rcases hkept with hadvance | hkept
      · cases a with
        | advanceCycle number => exact absurd rfl (hother number)
        | _ => cases hadvance
      · exact hkept
    · unfold Serves
      split
      · exact ⟨_, rfl⟩
      · rfl
      · exact (Invalidator.endSession_of_serves husable rfl rfl _ _).1
      · trivial
      · trivial
  have hreplies : g.replies actions =
      [⟨"A2", some "R2", none, some ⟨some "T2"⟩⟩, ⟨"A3", none, none, none⟩] := by
    decide +kernel
  have hflight : (g.run actions).coordinator.flight = none := by decide +kernel
  have hsome : (g.run actions).current ≠ none := by decide +kernel
  -- The run is not to be evaluated again.
  clear_value actions
  obtain ⟨-, hidle, -⟩ := credential_chain ⟨"http://[::1]"⟩
    (Cell.mk (some ⟨"A1", some "R1", none⟩)) ⟨"A1", some "R1", none⟩ rfl actions halong
  obtain ⟨-, hcurrent | ⟨hnone, -⟩⟩ := hidle hflight
  · refine ⟨halong, hreplies, hcurrent.trans ?_⟩
    rw [hreplies]
    rfl
  · exact absurd hnone hsome

end Gateway

end BearerClient
