import BearerClient.Proofs.Scripts
import BearerClient.Proofs.Waiters

/-!
# The token that a question gets

A question for a fresh token ends in one of two ways. The caller finds another token in the store
and takes it; then it has read this token itself. Or it waits for a cycle, and gets the token that
the backend has issued to the cycle; then the cycle has stored this token before it told it. So the
token that a caller gets is one that the store has held since the caller asked, and if it is the
refused one, then the backend has issued it anew.

There is one exception: a caller that asks after a cycle has stored its token and before it tells
it, and after someone else has changed the session again (`token_of_ended_session`). No such thing
happens if a cycle that has stored its token tells it promptly, and so it does not happen while a
script is played. The main statement is `fresh_token_is_current`.
-/

namespace BearerClient

/-- The token that a caller in the phase has been told or has passed on. -/
def Phase.gotten? : Phase → Option String
  | .asking _ (.told (.ok token)) | .ended (.token (.ok token)) => some token
  | _ => none

/-- The access token that the task of a cycle has got. -/
def Stage.token? : Stage → Option String
  | .storing renewed => some renewed.accessToken
  | .settling (.ok token) => some token
  | _ => none

namespace Gateway

variable {σ : Type} [Store σ]

/-! ## Tokens in a run -/

/-- A step in which the backend issues an access token in reply to the exchange of a cycle. -/
def IssuesTo (number : Nat) (token : String) (g : Gateway σ) (a : Action σ) : Prop :=
  ∃ delivery cycle session request tokens, Answers number a delivery ∧
    g.coordinator.cycle? number = some cycle ∧ cycle.stage = .exchanging session request ∧
    delivery.tokens request.url = .ok tokens ∧ tokens.accessToken = token

/-- A step in which a cycle tells an access token. -/
def Concludes (number : Nat) (token : String) (g : Gateway σ) (a : Action σ) : Prop :=
  ∃ queue, g.Settles a number queue (.ok token)

/-- The backend issued a token in reply to the exchange of a cycle that settled with it in the last
part of a run. -/
def IssuedFor (g : Gateway σ) (before during : List (Action σ)) (token : String) : Prop :=
  ∃ number, g.Happened (before ++ during) (IssuesTo number token) ∧
    (g.run before).Happened during (Concludes number token)

/-- A caller asks for a token in place of a refused one, and gets one in the last part of a run. -/
structure Gets (g : Gateway σ) (before during : List (Action σ)) (id : CallId)
    (rejected token : String) : Prop where
  /-- The caller begins to ask. -/
  asks : (g.run before).phase? id = some (.asking rejected .entering)
  /-- In the end it has got the token. -/
  gets : ∃ phase, (g.run (before ++ during)).phase? id = some phase ∧ phase.gotten? = some token

/-! ## What a cycle tells -/

/-- What the task of a cycle has got it had before, or it has just been issued. -/
theorem Work.token_cases {g : Gateway σ} {cycle : Cycle} {a : Action σ} {stage : Stage} {store : σ}
    {notices : List Notice} (h : Work g cycle a stage store notices)
    (hcycle : g.coordinator.cycle? cycle.number = some cycle) {token : String}
    (htoken : stage.token? = some token) :
    cycle.stage.token? = some token ∨ IssuesTo cycle.number token g a := by
  cases h with
  | receives hstage ha htokens =>
    right
    exact ⟨_, cycle, _, _, _, ha, hcycle, hstage, htokens, Option.some.inj htoken⟩
  | stores hstage =>
    left
    rw [hstage]
    exact htoken
  | _ => cases htoken

/-- Whatever the task of a cycle has got was issued in reply to its exchange. -/
theorem issued_of_token? {root : ApiRoot} {store : σ} {actions : List (Action σ)} {cycle : Cycle}
    {token : String}
    (hmem : cycle ∈ ((Gateway.new root store).run actions).coordinator.cycles)
    (htoken : cycle.stage.token? = some token) :
    (Gateway.new root store).Happened actions (IssuesTo cycle.number token) := by
  induction actions using List.reverseRecOn generalizing cycle with
  | nil => exact absurd hmem List.not_mem_nil
  | append_singleton before a ih =>
    rw [run_concat] at hmem
    have horder : Orderly ((Gateway.new root store).run before) :=
      (orderly_new root store).run before
    rcases (move_step _ a).stage_cases horder hmem with
      hold | ⟨-, hstage⟩ | ⟨e, hstage⟩ | ⟨old, stage, _, _, hcycle, hwork, -, rfl⟩
    · exact (ih hold htoken).concat a
    · rw [hstage] at htoken
      cases htoken
    · rw [hstage] at htoken
      cases htoken
    · rcases hwork.token_cases hcycle htoken with hbefore | hissues
      · exact (ih (List.mem_of_find?_eq_some hcycle) hbefore).concat a
      · exact happened_concat.mpr (.inr hissues)

variable [LawfulStore σ]

/-- The store holds a session with the access token. -/
def HasToken (token : String) (g : Gateway σ) : Prop :=
  ∃ s, g.current = some s ∧ s.accessToken = token

/-- A cycle that has stored its token had done so before the move, or the token is held now. -/
theorem Move.stored_cases {g g' : Gateway σ} {a : Action σ} (h : Move g a g') (horder : Orderly g)
    {cycle : Cycle} {token : String} (hmem : cycle ∈ g'.coordinator.cycles)
    (hstored : cycle.stage.stored? = some token) :
    cycle ∈ g.coordinator.cycles ∨ g'.HasToken token := by
  rcases h.stage_cases horder hmem with
    hold | ⟨-, hstage⟩ | ⟨e, hstage⟩ | ⟨old, stage, _, _, hcycle, hwork, rfl, rfl⟩
  · exact .inl hold
  · rw [hstage] at hstored
    cases hstored
  · rw [hstage] at hstored
    cases hstored
  · right
    cases hwork with
    | @stores renewed hstage hset =>
      exact ⟨renewed, LawfulStore.held_set renewed g.store hset, Option.some.inj hstored⟩
    | _ => cases hstored

/-- A cycle that has stored its token had done so at the start of a run, or the token has been held
since. -/
theorem held_of_stored {g : Gateway σ} (horder : Orderly g) {during : List (Action σ)}
    {cycle : Cycle} {token : String} (hmem : cycle ∈ (g.run during).coordinator.cycles)
    (hstored : cycle.stage.stored? = some token) :
    cycle ∈ g.coordinator.cycles ∨ g.Sometime during (HasToken token) := by
  induction during using List.reverseRecOn with
  | nil => exact .inl hmem
  | append_singleton before a ih =>
    rw [run_concat] at hmem
    rcases (move_step _ a).stored_cases (horder.run before) hmem hstored with hold | hheld
    · rcases ih hold with hstart | hsince
      · exact .inl hstart
      · exact .inr (hsince.concat a)
    · exact .inr (sometime_concat.mpr (.inr hheld))

/-- As long as cycles that have stored their tokens tell them promptly, the token of such a cycle is
held. -/
theorem hasToken_of_stored {root : ApiRoot} {store : σ} {actions : List (Action σ)}
    (hprompt : (Gateway.new root store).Along actions SettlesPromptly) {cycle : Cycle}
    {token : String} (hmem : cycle ∈ ((Gateway.new root store).run actions).coordinator.cycles)
    (hstored : cycle.stage.stored? = some token) :
    ((Gateway.new root store).run actions).HasToken token := by
  induction actions using List.reverseRecOn with
  | nil => exact absurd hmem List.not_mem_nil
  | append_singleton before a ih =>
    rw [run_concat] at hmem ⊢
    have horder : Orderly ((Gateway.new root store).run before) :=
      (orderly_new root store).run before
    rcases (move_step _ a).stored_cases horder hmem hstored with hold | hheld
    · obtain ⟨s, hs, htoken⟩ := ih hprompt.left hold
      have hkept := hprompt before a [] rfl cycle hold (by rw [hstored]; rfl)
      exact ⟨s, hkept.trans hs, htoken⟩
    · exact hheld

/-! ## What a caller gets -/

/-- What may be said of the token that a caller gets who asked in place of `rejected` at the start of
the last part of a run. -/
structure IsFit (g : Gateway σ) (before during : List (Action σ)) (rejected token : String) :
    Prop where
  /-- It is another one, or issued anew. -/
  other : token ≠ rejected ∨ g.IssuedFor before during token
  /-- It has been held since the caller asked, or a cycle had stored it before and not told it. -/
  held : (g.run before).Sometime during (HasToken token) ∨
    ∃ cycle ∈ (g.run before).coordinator.cycles, cycle.stage.stored? = some token

/-- What a caller knows in a phase that asked in place of `rejected` at the start of the last part
of a run. -/
def Recalls (g : Gateway σ) (before during : List (Action σ)) (rejected : String) : Phase → Prop
  | .asking own (.seen _ (some s)) =>
    own = rejected ∧ (g.run before).Sometime during (HasToken s.accessToken)
  | .asking own (.told (.ok token)) => own = rejected ∧ g.IsFit before during rejected token
  | .asking own _ => own = rejected
  | .ended (.token (.ok token)) => g.IsFit before during rejected token
  | .opening | .first _ _ => False
  | _ => True

/-- What is fit stays so in a longer run. -/
theorem IsFit.concat {g : Gateway σ} {before during : List (Action σ)} {rejected token : String}
    (h : g.IsFit before during rejected token) (a : Action σ) :
    g.IsFit before (during ++ [a]) rejected token where
  other := by
    rcases h.other with hne | ⟨number, hissued, hconcludes⟩
    · exact .inl hne
    · rw [IssuedFor, ← List.append_assoc]
      exact .inr ⟨number, hissued.concat a, hconcludes.concat a⟩
  held := by
    rcases h.held with hsince | hstored
    · exact .inl (hsince.concat a)
    · exact .inr hstored

theorem Recalls.concat {g : Gateway σ} {before during : List (Action σ)} {rejected : String}
    {phase : Phase} (h : g.Recalls before during rejected phase) (a : Action σ) :
    g.Recalls before (during ++ [a]) rejected phase := by
  cases phase with
  | asking own progress =>
    cases progress with
    | seen settled read =>
      cases read with
      | some s => exact ⟨h.1, h.2.concat a⟩
      | none => exact h
    | told result =>
      cases result with
      | ok token => exact ⟨h.1, h.2.concat a⟩
      | error e => exact h
    | _ => exact h
  | ended answer =>
    cases answer with
    | token result =>
      cases result with
      | ok token => exact IsFit.concat h a
      | error e => trivial
    | _ => trivial
  | _ => exact h

theorem Recalls.own_eq {g : Gateway σ} {before during : List (Action σ)} {rejected own : String}
    {progress : Asking} (h : g.Recalls before during rejected (.asking own progress)) :
    own = rejected := by
  cases progress with
  | seen settled read =>
    cases read with
    | some s => exact h.1
    | none => exact h
  | told result =>
    cases result with
    | ok token => exact h.1
    | error e => exact h
  | _ => exact h

section Question

variable {root : ApiRoot} {store : σ} {before during : List (Action σ)} {id : CallId}
  {rejected : String}

/-- A caller that goes on by itself gets only what it has read. -/
theorem Recalls.walk {call : Call} {a : Action σ} {phase : Phase} {after : σ}
    {notices : List Notice}
    (h : (Gateway.new root store).Recalls before during rejected call.phase)
    (hwalk : Walk ((Gateway.new root store).run (before ++ during)) id call a phase after notices) :
    (Gateway.new root store).Recalls before (during ++ [a]) rejected phase := by
  cases hwalk with
  | @reads _ own settled read hget =>
    cases read with
    | none => exact h
    | some s =>
      have hheld : ((Gateway.new root store).run (before ++ during)).current = some s :=
        LawfulStore.get_ok _ _ hget
      rw [run_append] at hheld
      exact ⟨h, during, [_], rfl, s, hheld, rfl⟩
  | @reuses _ own settled s hidle hsettled htoken =>
    obtain ⟨rfl, hheld⟩ := h
    exact ⟨rfl, .inl htoken, .inl (hheld.concat _)⟩
  | @passesOn asked own result answer hanswer =>
    subst hanswer
    cases result with
    | ok token => exact h.2.concat _
    | error e => trivial
  | retries hattempt =>
    cases hattempt with
    | sent => trivial
    | unbuilt _ hanswer =>
      subst hanswer
      trivial
    | unaddressed _ _ hanswer =>
      subst hanswer
      trivial
  | isRejected => exact h.elim
  | opens => exact h.elim
  | findsNone => exact h.elim
  | cannotOpen => exact h.elim
  | breaksOpening => exact h.elim
  | counts => exact h
  | cannotRead => exact h
  | looksAgain => exact h.own_eq
  | isRefused => exact h
  | isCutOff _ _ hanswer =>
    subst hanswer
    trivial
  | isAnswered _ _ _ hanswer =>
    subst hanswer
    trivial
  | timesOut _ hanswer =>
    subst hanswer
    trivial
  | _ => trivial

/-- A caller that hears the result of a cycle gets what was issued to the cycle. -/
theorem Recalls.hear {cycle : Cycle} {a : Action σ} {token : String}
    (hcycle : ((Gateway.new root store).run (before ++ during)).coordinator.cycle? cycle.number =
      some cycle) (hstage : cycle.stage = .settling (.ok token))
    (hafter : ((Gateway.new root store).run (before ++ during)).step a =
      ((Gateway.new root store).run (before ++ during)).settle cycle.number (.ok token)) :
    (Gateway.new root store).IsFit before (during ++ [a]) rejected token where
  other := by
    have htoken : cycle.stage.token? = some token := by rw [hstage]; rfl
    have hissued := issued_of_token? (List.mem_of_find?_eq_some hcycle) htoken
    refine .inr ⟨cycle.number, ?_, ?_⟩
    · rw [← List.append_assoc]
      exact hissued.concat a
    · refine happened_concat.mpr (.inr ?_)
      rw [← run_append]
      exact ⟨_, by rw [Settles, hafter, settle_log]⟩
  held := by
    have hmem := List.mem_of_find?_eq_some hcycle
    rw [run_append] at hmem
    have hstored : cycle.stage.stored? = some token := by rw [hstage]; rfl
    rcases held_of_stored ((orderly_new root store).run before) hmem hstored with hstart | hsince
    · exact .inr ⟨cycle, hstart, hstored⟩
    · exact .inl (hsince.concat a)

theorem Recalls.step {a : Action σ} {phase phase' : Phase}
    (h : (Gateway.new root store).Recalls before during rejected phase)
    (hpassage : Passage ((Gateway.new root store).run (before ++ during)) a
      (((Gateway.new root store).run (before ++ during)).step a) id phase phase') :
    (Gateway.new root store).Recalls before (during ++ [a]) rejected phase' := by
  cases hpassage with
  | stays => exact h.concat a
  | walks hwalk => exact h.walk hwalk
  | queues => exact h.own_eq
  | ends hanswer => rcases hanswer with rfl | rfl <;> trivial
  | @hears cycle own result hcycle hstage hafter =>
    cases result with
    | ok token => exact ⟨h, Recalls.hear hcycle hstage hafter⟩
    | error e => exact h

/-- Whoever asks goes on to know of the token that it gets where it comes from. -/
theorem recalls_run (during : List (Action σ))
    (hasks : ((Gateway.new root store).run before).phase? id = some (.asking rejected .entering)) :
    ∃ phase, ((Gateway.new root store).run (before ++ during)).phase? id = some phase ∧
      (Gateway.new root store).Recalls before during rejected phase := by
  induction during using List.reverseRecOn with
  | nil =>
    rw [List.append_nil]
    exact ⟨.asking rejected .entering, hasks, rfl⟩
  | append_singleton during a ih =>
    obtain ⟨phase, hphase, hrecalls⟩ := ih
    have horder : Orderly ((Gateway.new root store).run (before ++ during)) :=
      (orderly_new root store).run _
    obtain ⟨phase', hphase', hpassage⟩ := (move_step _ a).passage horder hphase
    refine ⟨phase', ?_, hrecalls.step hpassage⟩
    rw [← List.append_assoc, run_concat]
    exact hphase'

theorem Gets.isFit {token : String}
    (h : (Gateway.new root store).Gets before during id rejected token) :
    (Gateway.new root store).IsFit before during rejected token := by
  obtain ⟨phase, hphase, hgotten⟩ := h.gets
  obtain ⟨phase', hphase', hrecalls⟩ := recalls_run during h.asks
  obtain rfl := Option.some.inj (hphase.symm.trans hphase')
  unfold Phase.gotten? at hgotten
  split at hgotten
  · obtain rfl := Option.some.inj hgotten
    exact hrecalls.2
  · obtain rfl := Option.some.inj hgotten
    exact hrecalls
  · cases hgotten

/-- As long as cycles that have stored their tokens tell them promptly, the token that a caller gets
has been held since it asked. -/
theorem Gets.held {token : String}
    (h : (Gateway.new root store).Gets before during id rejected token)
    (hprompt : (Gateway.new root store).Along (before ++ during) SettlesPromptly) :
    ((Gateway.new root store).run before).Sometime during (HasToken token) := by
  rcases h.isFit.held with hsince | ⟨cycle, hmem, hstored⟩
  · exact hsince
  · exact ⟨[], during, rfl, hasToken_of_stored hprompt.left hmem hstored⟩

end Question

/-- In every run, with logins, logouts, failures of the store and paused callers anywhere in it, the
token that a caller gets that asks for one is not the refused one, unless the backend has issued it
in reply to the exchange of a cycle that settled since the caller asked. And the store has held the
token since the caller asked, except in one case: a cycle was running then that had stored the token
before, and someone has changed the session between the cycle's storing and its telling
(`token_of_ended_session`). If nobody ever does that, the store has held the token since. While a
script is played nobody does; all that happens then is one run of the gateway. -/
theorem fresh_token_is_current (root : ApiRoot) (store : σ) :
    (∀ before during id rejected token, let g := Gateway.new root store
      g.Gets before during id rejected token →
      (token ≠ rejected ∨ g.IssuedFor before during token) ∧
      ((g.run before).Sometime during (HasToken token) ∨
        ¬ g.Along (before ++ during) SettlesPromptly ∧ g.Sometime before (HasToken token) ∧
        ∃ cycle ∈ (g.run before).coordinator.cycles, cycle.stage.stored? = some token) ∧
      (g.Along (before ++ during) SettlesPromptly →
        (g.run before).Sometime during (HasToken token))) ∧
    ∀ listener cues, let r := Rehearsal.new root listener store
      (r.after cues).gateway = r.gateway.run (r.trace cues) ∧
      ∀ before during later id rejected token, r.trace cues = before ++ during ++ later →
        r.gateway.Gets before during id rejected token →
        (r.gateway.run before).Sometime during (HasToken token) ∧
        (token ≠ rejected ∨ r.gateway.IssuedFor before during token) := by
  constructor
  · intro before during id rejected token g hgets
    refine ⟨hgets.isFit.other, ?_, hgets.held⟩
    by_cases hprompt : g.Along (before ++ during) SettlesPromptly
    · exact .inl (hgets.held hprompt)
    · rcases hgets.isFit.held with hsince | ⟨cycle, hmem, hstored⟩
      · exact .inl hsince
      · rcases held_of_stored (orderly_new root store) hmem hstored with hnone | hbefore
        · exact absurd hnone List.not_mem_nil
        · exact .inr ⟨hprompt, hbefore, cycle, hmem, hstored⟩
  · intro listener cues r
    have horder : Orderly r.gateway := orderly_new root (⟨store, []⟩ : Rigged σ)
    have hrests : IsWithin 0 r.gateway := fun _ hmem => absurd hmem List.not_mem_nil
    have hprompt := Rehearsal.settlesPromptly_trace horder hrests cues
    refine ⟨r.gateway_after cues, ?_⟩
    intro before during later id rejected token htrace hgets
    rw [htrace] at hprompt
    exact ⟨hgets.held hprompt.left, hgets.isFit.other⟩

/-- A caller whose token is refused starts a cycle, and the backend answers with a token: with another
one, and in a run without a script with the same one. -/
theorem fresh_token_is_current_of_one_caller :
    let root : ApiRoot := ⟨"http://[::1]"⟩
    let store := Cell.mk (some ⟨"A1", some "R1", none⟩)
    let listener := root.refreshUrl.toOption.bind Url.origin?
    let r := Rehearsal.new root listener store
    let another := "\x7b\"data\":\x7b\"access_token\":\"A2\"\x7d\x7d"
    let trace := r.trace [.ask "a" "A1" false, .replyRefresh ⟨200, another.toUTF8, .whole⟩]
    let g := Gateway.new root store
    let same := "\x7b\"data\":\x7b\"access_token\":\"A1\"\x7d\x7d"
    let during : List (Action Cell) := [.advance 0, .advance 0, .advance 0, .advanceCycle 0,
      .deliverRefresh 0 (.response ⟨200, same.toUTF8⟩), .advanceCycle 0, .advanceCycle 0]
    r.gateway.Gets (trace.take 1) (trace.drop 1) 0 "A1" "A2" ∧
      (r.gateway.run (trace.take 1)).Sometime (trace.drop 1) (HasToken "A2") ∧
      g.Gets [.start (.token "A1")] during 0 "A1" "A1" ∧
      g.IssuedFor [.start (.token "A1")] during "A1" := by
  intro root store listener r another trace g same during
  obtain ⟨hruns, hscripts⟩ := fresh_token_is_current root store
  have hfirst : trace.take 1 = [.start (.token "A1")] := rfl
  have hgotten : ((r.gateway.run trace).phase? 0).bind Phase.gotten? = some "A2" := by
    decide +kernel
  have hanother : r.gateway.Gets (trace.take 1) (trace.drop 1) 0 "A1" "A2" := by
    refine ⟨?_, ?_⟩
    · rw [hfirst]
      rfl
    · rw [List.take_append_drop]
      exact Option.bind_eq_some_iff.mp hgotten
  have hparts : trace = trace.take 1 ++ trace.drop 1 ++ [] := by
    rw [List.append_nil, List.take_append_drop]
  obtain ⟨hheld, -⟩ := (hscripts listener _).2 _ _ _ 0 "A1" "A2" hparts hanother
  have hgotten' : ((g.run (.start (.token "A1") :: during)).phase? 0).bind Phase.gotten? =
      some "A1" := by
    decide +kernel
  have hsame : g.Gets [.start (.token "A1")] during 0 "A1" "A1" :=
    ⟨rfl, Option.bind_eq_some_iff.mp hgotten'⟩
  obtain ⟨hne | hissued, -⟩ := hruns _ _ 0 "A1" "A1" hsame
  · exact absurd rfl hne
  · exact ⟨hanother, hheld, hsame, hissued⟩

/-- The user logs out after a cycle has stored its token and before it tells it. A caller that asks
after the logout gets the token, and there has been no session since it asked. -/
theorem token_of_ended_session :
    let g := Gateway.new ⟨"http://[::1]"⟩ (Cell.mk (some ⟨"A1", some "R1", none⟩))
    let body := "\x7b\"data\":\x7b\"access_token\":\"A2\"\x7d\x7d"
    let first : List (Action Cell) := [.start (.token "A1"), .advance 0, .advance 0, .advance 0,
      .advanceCycle 0, .deliverRefresh 0 (.response ⟨200, body.toUTF8⟩), .advanceCycle 0, .signOut]
    let before := first ++ [.start (.token "A1")]
    let during : List (Action Cell) := [.advance 1, .advance 1, .advance 1, .advanceCycle 0]
    g.Gets before during 1 "A1" "A2" ∧ ¬ (g.run before).Sometime during (HasToken "A2") := by
  intro g body first before during
  have hcalls : (g.run first).calls.length = 1 := by decide +kernel
  have hasks : (g.run before).phase? 1 = some (.asking "A1" .entering) := by
    rw [run_concat]
    exact (phase?_start _ _ _).trans (if_pos hcalls.symm)
  have hgotten : ((g.run (before ++ during)).phase? 1).bind Phase.gotten? = some "A2" := by
    decide +kernel
  have hnever : ∀ n ≤ 4, ((g.run before).run (during.take n)).current = none := by decide +kernel
  refine ⟨⟨hasks, Option.bind_eq_some_iff.mp hgotten⟩, ?_⟩
  rintro ⟨since, later, hsplit, s, hs, -⟩
  have hlength : since.length ≤ 4 := by
    have hle := congrArg List.length hsplit
    simp [during] at hle
    omega
  have hsince : during.take since.length = since := by rw [hsplit, List.take_left]
  have hnone := hnever since.length hlength
  rw [hsince, hs] at hnone
  cases hnone

end Gateway

end BearerClient
