import BearerClient.Proofs.HeldSession
import BearerClient.Proofs.Passages

/-!
# Refused tokens

A session is given up at three places because its token was refused, each time with a token that may
be stale by then: a failed cycle with the token it was started over, and a request with its first or
its second token. So the invariant (`Justified`) is about all tokens that a caller or a cycle
carries: each of them was refused to an attempt that was sent under it. Every move keeps it, and
adds to the refused tokens at most the one that is refused in the move (`Justified.move`).
-/

namespace BearerClient

/-! ## The header that carries the token -/

theorem Headers.get?_insert (headers : Headers) (name value other : String) :
    (headers.insert name value).get? other =
      if other = name then some value else headers.get? other := by
  unfold Headers.get?
  by_cases hother : other = name
  · subst hother
    rw [if_pos rfl]
    induction headers with
    | nil => simp [Headers.insert]
    | cons first rest ih =>
      obtain ⟨n, v⟩ := first
      by_cases hname : n = other
      · simp [Headers.insert, hname]
      · have hne : (other == n) = false := beq_eq_false_iff_ne.mpr (Ne.symm hname)
        simp [Headers.insert, List.lookup_cons, hname, hne, ih]
  · rw [if_neg hother]
    have hne : (other == name) = false := beq_eq_false_iff_ne.mpr hother
    induction headers with
    | nil => simp [Headers.insert, List.lookup_cons, hne]
    | cons first rest ih =>
      obtain ⟨n, v⟩ := first
      by_cases hname : n = name
      · simp [Headers.insert, List.lookup_cons, hname, hne]
      · simp [Headers.insert, List.lookup_cons, hname, ih]

/-- A header that the caller does not give keeps its value. -/
theorem Headers.get?_insertAll {headers after : Headers} {given : List (String × String)}
    {name : String} (h : headers.insertAll given = .ok after)
    (hgiven : ∀ header ∈ given, headerName? header.1 ≠ some name) :
    after.get? name = headers.get? name := by
  induction given generalizing headers with
  | nil =>
    obtain rfl := Except.ok.inj h
    rfl
  | cons first rest ih =>
    obtain ⟨n, value⟩ := first
    simp only [Headers.insertAll] at h
    split at h
    · cases h
    · rename_i lower hlower
      split at h
      · have hne : name ≠ lower := by
          rintro rfl
          exact hgiven _ List.mem_cons_self hlower
        rw [ih h fun header hmem => hgiven header (List.mem_cons_of_mem _ hmem),
          Headers.get?_insert, if_neg hne]
      · cases h

/-- A request that does not set the header that carries the access token. -/
def Descriptor.LeavesAuthorization (d : Descriptor) : Prop :=
  ∀ header ∈ d.headers, headerName? header.1 ≠ some "authorization"

theorem Request.authorization_build {root : ApiRoot} {d : Descriptor} {token : String}
    {request : Request} (hd : d.LeavesAuthorization)
    (h : Request.build root d token = .ok request) :
    request.headers.get? "authorization" = some (Request.bearer token) := by
  simp only [Request.build, bind, Except.bind] at h
  split at h
  · cases h
  · cases hinsert : (Request.defaultHeaders token).insertAll d.headers with
    | error message => simp [hinsert] at h
    | ok headers =>
      simp only [hinsert] at h
      split at h
      · cases h
      · obtain rfl := Except.ok.inj h
        rw [Headers.get?_insertAll hinsert hd]
        rfl

/-- A caller that uses the gateway as it is meant. -/
def Purpose.IsOfGateway : Purpose → Prop
  | .request d _ => d.LeavesAuthorization
  | .token _ => False

/-! ## The tokens that are carried -/

/-- The refused token that a caller in the phase carries. -/
def Phase.refused? : Phase → Option String
  | .asking rejected _ => some rejected
  | .expiring token _ => some token
  | _ => none

namespace Gateway

variable {σ : Type}

/-- A step in which the backend refuses the token of an attempt that was sent under it. -/
def Refuses (g : Gateway σ) (a : Action σ) (token : String) : Prop :=
  ∃ id delivery phase request response, a = .deliver id delivery ∧ g.phase? id = some phase ∧
    phase.attempt? = some (token, request) ∧ .attempt id token request ∈ g.log ∧
    request.headers.get? "authorization" = some (Request.bearer token) ∧
    delivery.response? request.url = .ok response ∧ response.status = 401

/-- An action of those who use the gateway as it is meant: their requests do not set the header that
carries the access token, and nobody asks past the gateway for a token or for the end of a
session. -/
def Action.IsOfGateway : Action σ → Prop
  | .start purpose => purpose.IsOfGateway
  | .invalidate _ _ => False
  | _ => True

/-- A step of the caller's own. -/
def Action.IsBy (id : CallId) : Action σ → Prop
  | .advance other | .deliver other _ | .expire other | .abandon other => other = id
  | _ => False

variable [Store σ]

theorem Attempted.refused?_eq_none {root : ApiRoot} {id : CallId} {d : Descriptor} {token : String}
    {next : Request → Phase} {phase : Phase} {notices : List Notice}
    (h : Attempted root id d token next phase notices)
    (hnext : ∀ request, (next request).refused? = none) : phase.refused? = none := by
  cases h with
  | sent => exact hnext _
  | unbuilt => rfl
  | unaddressed => rfl

/-- Whoever carries a refused token after walking carried it before, or it has just been refused. -/
theorem Walk.refused?_cases {g : Gateway σ} {id : CallId} {call : Call} {a : Action σ}
    {phase : Phase} {store : σ} {notices : List Notice}
    (h : Walk g id call a phase store notices) {token : String}
    (hrefused : phase.refused? = some token) :
    call.phase.refused? = some token ∨
      ∃ delivery request response, a = .deliver id delivery ∧
        call.phase.attempt? = some (token, request) ∧
        delivery.response? request.url = .ok response ∧ response.status = 401 := by
  cases h with
  | opens _ hattempt =>
    rw [hattempt.refused?_eq_none fun _ => rfl] at hrefused
    cases hrefused
  | retries hattempt =>
    rw [hattempt.refused?_eq_none fun _ => rfl] at hrefused
    cases hrefused
  | @isRejected _ _ _ request delivery response hresponse hunauthorized =>
    obtain rfl := Option.some.inj hrefused
    exact .inr ⟨delivery, request, response, rfl, rfl, hresponse, of_decide_eq_true hunauthorized⟩
  | @isRejectedAgain _ _ _ request delivery response hresponse hunauthorized =>
    obtain rfl := Option.some.inj hrefused
    exact .inr ⟨delivery, request, response, rfl, rfl, hresponse, of_decide_eq_true hunauthorized⟩
  | counts => exact .inl hrefused
  | reads => exact .inl hrefused
  | cannotRead => exact .inl hrefused
  | looksAgain => exact .inl hrefused
  | isRefused => exact .inl hrefused
  | reuses => exact .inl hrefused
  | gives => exact .inl hrefused
  | _ => cases hrefused

/-- Whoever waits for the answer to an attempt after walking has just sent it. -/
theorem Walk.attempt_mem {g : Gateway σ} {id : CallId} {call : Call} {a : Action σ}
    {phase : Phase} {store : σ} {notices : List Notice}
    (h : Walk g id call a phase store notices) {token : String} {request : Request}
    (hattempt : phase.attempt? = some (token, request)) : .attempt id token request ∈ notices := by
  cases h with
  | opens _ hsent =>
    cases hsent with
    | sent =>
      obtain ⟨rfl, rfl⟩ := Prod.mk.inj (Option.some.inj hattempt)
      exact List.mem_singleton_self _
    | _ => cases hattempt
  | retries hsent =>
    cases hsent with
    | sent =>
      obtain ⟨rfl, rfl⟩ := Prod.mk.inj (Option.some.inj hattempt)
      exact List.mem_singleton_self _
    | _ => cases hattempt
  | _ => cases hattempt

omit [Store σ] in
theorem Purpose.IsOfGateway.phase_new {purpose : Purpose} (h : purpose.IsOfGateway) :
    (Call.new purpose).phase = .opening := by
  cases purpose with
  | request => rfl
  | token => exact h.elim

/-- Whatever a gateway carries as refused was refused, if all its callers use it as it is meant. -/
structure Justified (g : Gateway σ) (refused : String → Prop) : Prop where
  /-- The tokens that the callers carry. -/
  callers : ∀ id phase token, g.phase? id = some phase → phase.refused? = some token → refused token
  /-- The tokens over which the cycles were started. -/
  cycles : ∀ cycle ∈ g.coordinator.cycles, refused cycle.rejected
  /-- Whoever waits for the answer to an attempt has sent it. -/
  sent : ∀ id phase token request, g.phase? id = some phase →
    phase.attempt? = some (token, request) → .attempt id token request ∈ g.log
  /-- Every attempt that was sent carries the token that it was sent under. -/
  bears : ∀ id token request, .attempt id token request ∈ g.log →
    request.headers.get? "authorization" = some (Request.bearer token)
  /-- The callers use the gateway as it is meant. -/
  meant : ∀ id purpose, g.purpose? id = some purpose → purpose.IsOfGateway

omit [Store σ] in
theorem justified_new (root : ApiRoot) (store : σ) (refused : String → Prop) :
    Justified (.new root store) refused where
  callers _ _ _ hphase := by simp [phase?, Gateway.new] at hphase
  cycles _ hmem := absurd hmem List.not_mem_nil
  sent _ _ _ _ hphase := by simp [phase?, Gateway.new] at hphase
  bears _ _ _ hmem := absurd hmem List.not_mem_nil
  meant _ _ hpurpose := by simp [purpose?, Gateway.new] at hpurpose

omit [Store σ] in
theorem Justified.mono {g : Gateway σ} {refused refused' : String → Prop}
    (h : Justified g refused) (hmono : ∀ token, refused token → refused' token) :
    Justified g refused' :=
  { h with
    callers := fun id phase token hphase hrefused =>
      hmono token (h.callers id phase token hphase hrefused)
    cycles := fun cycle hmem => hmono _ (h.cycles cycle hmem) }

theorem Justified.callers_move {g g' : Gateway σ} {refused : String → Prop}
    (h : Justified g refused) (horder : Orderly g) {a : Action σ} (ha : a.IsOfGateway)
    (hmove : Move g a g') {id : CallId} {phase : Phase} {token : String}
    (hphase : g'.phase? id = some phase) (hrefused : phase.refused? = some token) :
    refused token ∨ g.Refuses a token := by
  rcases hmove.phase_cases horder hphase with ⟨purpose, rfl, rfl⟩ | ⟨old, hbefore, hpassage⟩
  · rw [Purpose.IsOfGateway.phase_new ha] at hrefused
    cases hrefused
  · have hcarried := h.callers id old token hbefore
    cases hpassage with
    | stays => exact .inl (hcarried hrefused)
    | walks hwalk =>
      rcases hwalk.refused?_cases hrefused with
        hold | ⟨delivery, request, response, hdelivers, hattempt, hresponse, hstatus⟩
      · exact .inl (hcarried hold)
      · have hmem := h.sent id _ token request hbefore hattempt
        exact .inr ⟨id, delivery, _, request, response, hdelivers, hbefore, hattempt, hmem,
          h.bears id token request hmem, hresponse, hstatus⟩
    | queues => exact .inl (hcarried hrefused)
    | ends => cases hrefused
    | hears => exact .inl (hcarried hrefused)

theorem Justified.sent_move {g g' : Gateway σ} {refused : String → Prop}
    (h : Justified g refused) (horder : Orderly g) {a : Action σ} (ha : a.IsOfGateway)
    (hmove : Move g a g') {id : CallId} {phase : Phase} {token : String} {request : Request}
    (hphase : g'.phase? id = some phase) (hattempt : phase.attempt? = some (token, request)) :
    .attempt id token request ∈ g'.log := by
  rcases hmove.phase_cases horder hphase with ⟨purpose, rfl, rfl⟩ | ⟨old, hbefore, hpassage⟩
  · rw [Purpose.IsOfGateway.phase_new ha] at hattempt
    cases hattempt
  · cases hpassage with
    | stays => exact hmove.mem_log (h.sent id _ token request hbefore hattempt)
    | walks hwalk _ hafter =>
      rw [hafter]
      exact List.mem_append_left _ (hwalk.attempt_mem hattempt)
    | _ => cases hattempt

/-- A move of those who use the gateway as it is meant adds at most the token that is refused in
it. -/
theorem Justified.move [LawfulStore σ] {g g' : Gateway σ} {refused : String → Prop}
    (h : Justified g refused) (horder : Orderly g) {a : Action σ} (ha : a.IsOfGateway)
    (hmove : Move g a g') : Justified g' fun token => refused token ∨ g.Refuses a token where
  callers _ _ _ hphase hrefused := h.callers_move horder ha hmove hphase hrefused
  cycles cycle hmem := by
    left
    rcases hmove.begins_or horder with ⟨s, hbegins⟩ | ⟨-, hcycles⟩
    · obtain ⟨id, purpose, hcall⟩ := hbegins.caller
      rw [hbegins.cycles, List.mem_singleton] at hmem
      subst hmem
      exact h.callers id _ s.accessToken (phase?_of_calls hcall) rfl
    · obtain ⟨old, hold, -, hrejected⟩ := hcycles cycle hmem
      rw [← hrejected]
      exact h.cycles old hold
  sent _ _ _ _ hphase hattempt := h.sent_move horder ha hmove hphase hattempt
  bears id token request hmem := by
    rcases hmove.attempt_cases hmem with hsent | ⟨d, shape, phase, hcall, hbuild, -⟩
    · exact h.bears id token request hsent
    · exact Request.authorization_build (h.meant id _ (purpose?_of_calls hcall)) hbuild
  meant id purpose hpurpose := by
    rcases hmove.purpose_cases hpurpose with hbefore | rfl
    · exact h.meant id purpose hbefore
    · exact ha

end Gateway

end BearerClient
