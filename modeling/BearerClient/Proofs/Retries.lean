import BearerClient.Proofs.Stories

/-!
# One refresh, one retry

`Proceeds` says how story, attempts and phase of a request belong together in the end: a first
attempt, after a refusal the question for a fresh token, then a second attempt. So the story
determines what is sent and what the caller gets, whatever all others do meanwhile. Every turn
keeps it, and `Conduct` is what the caller sees of it.

The main statement is `one_refresh_one_retry`.
-/

namespace BearerClient

/-! ## Two requests under different tokens -/

namespace Headers

theorem insert_insert_self (headers : Headers) (name first second : String) :
    (headers.insert name first).insert name second = headers.insert name second := by
  induction headers with
  | nil => simp [insert]
  | cons head rest ih =>
    obtain ⟨n, v⟩ := head
    by_cases hname : n = name
    · simp [insert, hname]
    · simp [insert, hname, ih]

/-- A header that is there keeps its place, so its value may be given before or after another. -/
theorem insert_comm {headers : Headers} {name other : String} (hname : name ≠ other)
    (hthere : (headers.get? name).isSome = true) (value given : String) :
    (headers.insert name value).insert other given =
      (headers.insert other given).insert name value := by
  induction headers with
  | nil => simp [get?] at hthere
  | cons head rest ih =>
    obtain ⟨n, v⟩ := head
    by_cases hn : n = name
    · subst hn
      simp [insert, hname]
    · by_cases hother : n = other
      · subst hother
        simp [insert, hn]
      · have hne : (name == n) = false := beq_eq_false_iff_ne.mpr (Ne.symm hn)
        have hrest : (get? rest name).isSome = true := by
          simpa [get?, List.lookup_cons, hne] using hthere
        simp [insert, hn, hother, ih hrest]

/-- Headers that do not include `name` leave the value that it has. -/
theorem insertAll_insert {headers after : Headers} {given : List (String × String)} {name : String}
    (hgiven : ∀ header ∈ given, headerName? header.1 ≠ some name)
    (hthere : (headers.get? name).isSome = true) (value : String)
    (h : headers.insertAll given = .ok after) :
    (headers.insert name value).insertAll given = .ok (after.insert name value) := by
  induction given generalizing headers with
  | nil =>
    obtain rfl := Except.ok.inj h
    rfl
  | cons head rest ih =>
    obtain ⟨n, v⟩ := head
    have hrest : ∀ header ∈ rest, headerName? header.1 ≠ some name :=
      fun header hmem => hgiven header (List.mem_cons_of_mem _ hmem)
    simp only [insertAll] at h ⊢
    cases hlower : headerName? n with
    | none => simp [hlower] at h
    | some lower =>
      have hne : name ≠ lower := by
        rintro rfl
        exact hgiven _ List.mem_cons_self hlower
      simp only [hlower] at h ⊢
      by_cases hvalue : isHeaderValue v = true
      · rw [if_pos hvalue] at h ⊢
        rw [insert_comm hne hthere]
        refine ih hrest ?_ h
        rw [get?_insert, if_neg hne]
        exact hthere
      · simp [hvalue] at h

/-- Headers that include `name` override the value that it has. -/
theorem insertAll_insert_of_given {headers : Headers} {given : List (String × String)}
    {name : String} (hgiven : ∃ header ∈ given, headerName? header.1 = some name)
    (hthere : (headers.get? name).isSome = true) (value : String) :
    (headers.insert name value).insertAll given = headers.insertAll given := by
  induction given generalizing headers with
  | nil =>
    obtain ⟨header, hmem, -⟩ := hgiven
    cases hmem
  | cons head rest ih =>
    obtain ⟨n, v⟩ := head
    simp only [insertAll]
    cases hlower : headerName? n with
    | none => rfl
    | some lower =>
      simp only
      split
      · by_cases hname : name = lower
        · rw [← hname, insert_insert_self]
        · rw [insert_comm hname hthere]
          refine ih ?_ ?_
          · obtain ⟨header, hmem, hheader⟩ := hgiven
            rcases List.mem_cons.mp hmem with rfl | hmem
            · rw [hlower] at hheader
              exact absurd (Option.some.inj hheader).symm hname
            · exact ⟨header, hmem, hheader⟩
          · rw [get?_insert, if_neg hname]
            exact hthere
      · rfl

end Headers

namespace Request

theorem build_eq_ok {root : ApiRoot} {d : Descriptor} {token : String} {request : Request}
    (h : Request.build root d token = .ok request) :
    ∃ headers url, (defaultHeaders token).insertAll d.headers = .ok headers ∧
      root.url? d.path = some url ∧ request = ⟨d.method, url, headers, d.body.map Json.compact⟩ := by
  simp only [build, bind, Except.bind] at h
  split at h
  · cases h
  · cases hheaders : (defaultHeaders token).insertAll d.headers with
    | error message => simp [hheaders] at h
    | ok headers =>
      simp only [hheaders] at h
      cases hurl : root.url? d.path with
      | none => simp [hurl] at h
      | some url =>
        simp only [hurl] at h
        exact ⟨headers, url, rfl, rfl, (Except.ok.inj h).symm⟩

/-- Two requests that are the same except for the access token that they carry. -/
structure SameBut (d : Descriptor) (token : String) (first second : Request) : Prop where
  /-- The method is the same. -/
  method : second.method = first.method
  /-- The address is the same. -/
  url : second.url = first.url
  /-- The body is the same. -/
  body : second.body = first.body
  /-- The headers are the same except for the one that carries the token. -/
  headers : d.LeavesAuthorization →
    second.headers = first.headers.insert "authorization" (bearer token)
  /-- A caller that sets that header itself overrides the token in both. -/
  overridden : ¬ d.LeavesAuthorization → second.headers = first.headers

theorem sameBut_build {root : ApiRoot} {d : Descriptor} {token fresh : String}
    {first second : Request} (hfirst : Request.build root d token = .ok first)
    (hsecond : Request.build root d fresh = .ok second) : SameBut d fresh first second := by
  obtain ⟨headers, url, hheaders, hurl, rfl⟩ := build_eq_ok hfirst
  obtain ⟨headers', url', hheaders', hurl', rfl⟩ := build_eq_ok hsecond
  obtain rfl : url = url' := Option.some.inj (hurl.symm.trans hurl')
  have hdefault : defaultHeaders fresh =
      (defaultHeaders token).insert "authorization" (bearer fresh) := rfl
  have hthere : (Headers.get? (defaultHeaders token) "authorization").isSome = true := rfl
  rw [hdefault] at hheaders'
  refine ⟨rfl, rfl, rfl, ?_, ?_⟩
  · intro hleaves
    have hall := Headers.insertAll_insert hleaves hthere (bearer fresh) hheaders
    exact Except.ok.inj (hheaders'.symm.trans hall)
  · intro hsets
    have hgiven : ∃ header ∈ d.headers, headerName? header.1 = some "authorization" := by
      simpa [Descriptor.LeavesAuthorization] using hsets
    rw [Headers.insertAll_insert_of_given hgiven hthere, hheaders] at hheaders'
    exact (Except.ok.inj hheaders').symm

end Request

/-! ## The course of a request -/

/-- How a request goes on whose first attempt was refused. -/
inductive Recovers (root : ApiRoot) (d : Descriptor) (shape : Shape) (rejected : String) :
    List Incident → List (String × Request) → Phase → Prop where
  /-- It asks for a fresh token. -/
  | asks (progress : Asking) : Recovers root d shape rejected [] [] (.asking rejected progress)
  /-- Its time budget is used up. -/
  | timesOut : Recovers root d shape rejected [.timesOut] []
      (.ended (.payload (.error (.timeout d.timeoutMs))))
  /-- It is given up. -/
  | isGivenUp : Recovers root d shape rejected [.isGivenUp] [] .abandoned
  /-- It breaks down. -/
  | breaksDown : Recovers root d shape rejected [.breaksDown] [] (.ended .panicked)
  /-- There is no fresh token. -/
  | fails {e : RefreshError} {story : List Incident} {phase : Phase}
      (hcloses : Closes rejected e.message story phase) :
      Recovers root d shape rejected (.told (.error e) :: story) [] phase
  /-- There is one, and a second attempt goes out under it. -/
  | retries {token : String} {story : List Incident} {sent : List (String × Request)}
      {phase : Phase} (htries : Tries root d shape token (.second token) story sent phase) :
      Recovers root d shape rejected (.told (.ok token) :: story) sent phase
  /-- The second attempt is refused as well. -/
  | isRejectedAgain {token : String} {request : Request} {response : Response}
      {story : List Incident} {phase : Phase} (hsends : d.Sends root token request)
      (hrefused : response.isUnauthorized = true)
      (hcloses : Closes token Gateway.refusedAgain story phase) :
      Recovers root d shape rejected (.told (.ok token) :: .answered (.ok response) :: story)
        [(token, request)] phase

/-- How a request goes on from its start. -/
inductive Proceeds (root : ApiRoot) (d : Descriptor) (shape : Shape) :
    List Incident → List (String × Request) → Phase → Prop where
  /-- It is about to read the session. -/
  | opening : Proceeds root d shape [] [] .opening
  /-- It finds nobody logged in. -/
  | findsNone : Proceeds root d shape [.opens none] []
      (.ended (.payload (.error .notAuthenticated)))
  /-- It cannot read the session. -/
  | cannotOpen (message : String) : Proceeds root d shape [.cannotOpen message] []
      (.ended (.payload (.error (.internal message))))
  /-- It breaks down over reading the session. -/
  | breaksDown : Proceeds root d shape [.breaksDown] [] (.ended .panicked)
  /-- Its first attempt goes out under the access token of the session. -/
  | tries {s : Session} {story : List Incident} {sent : List (String × Request)} {phase : Phase}
      (htries : Tries root d shape s.accessToken (.first s.accessToken) story sent phase) :
      Proceeds root d shape (.opens (some s) :: story) sent phase
  /-- The first attempt is refused. -/
  | isRejected {s : Session} {request : Request} {response : Response} {story : List Incident}
      {sent : List (String × Request)} {phase : Phase}
      (hsends : d.Sends root s.accessToken request) (hrefused : response.isUnauthorized = true)
      (hrecovers : Recovers root d shape s.accessToken story sent phase) :
      Proceeds root d shape
        (.opens (some s) :: .answered (.ok response) :: .asks s.accessToken :: story)
        ((s.accessToken, request) :: sent) phase

/-! ## A whole request -/

section Whole

variable {root : ApiRoot} {d : Descriptor} {shape : Shape} {story : List Incident}
  {sent : List (String × Request)}

theorem Proceeds.of_opening (h : Proceeds root d shape story sent .opening) :
    story = [] ∧ sent = [] := by
  cases h with
  | opening => exact ⟨rfl, rfl⟩
  | tries htries => cases htries
  | isRejected _ _ hrecovers =>
    cases hrecovers with
    | fails hcloses => cases hcloses
    | retries htries => cases htries
    | isRejectedAgain _ _ hcloses => cases hcloses

theorem Proceeds.of_first {token : String} {request : Request}
    (h : Proceeds root d shape story sent (.first token request)) :
    ∃ s : Session, token = s.accessToken ∧ d.Sends root s.accessToken request ∧
      story = [.opens (some s)] ∧ sent = [(s.accessToken, request)] := by
  cases h with
  | @tries s _ _ _ htries =>
    cases htries with
    | sent hsends => exact ⟨s, rfl, hsends, rfl, rfl⟩
  | isRejected _ _ hrecovers =>
    cases hrecovers with
    | fails hcloses => cases hcloses
    | retries htries => cases htries
    | isRejectedAgain _ _ hcloses => cases hcloses

/-- The part of a story up to the question for a fresh token. -/
structure Descriptor.IsRefused (root : ApiRoot) (d : Descriptor) (s : Session) (request : Request)
    (response : Response) : Prop where
  /-- The first attempt was sent. -/
  sends : d.Sends root s.accessToken request
  /-- It was refused. -/
  refused : response.isUnauthorized = true

theorem Proceeds.of_asking {rejected : String} {progress : Asking}
    (h : Proceeds root d shape story sent (.asking rejected progress)) :
    ∃ (s : Session) (request : Request) (response : Response), rejected = s.accessToken ∧
      d.IsRefused root s request response ∧
      story = [.opens (some s), .answered (.ok response), .asks s.accessToken] ∧
      sent = [(s.accessToken, request)] := by
  cases h with
  | tries htries => cases htries
  | @isRejected s request response _ _ _ hsends hrefused hrecovers =>
    cases hrecovers with
    | asks => exact ⟨s, request, response, rfl, ⟨hsends, hrefused⟩, rfl, rfl⟩
    | fails hcloses => cases hcloses
    | retries htries => cases htries
    | isRejectedAgain _ _ hcloses => cases hcloses

theorem Proceeds.of_second {token : String} {request : Request}
    (h : Proceeds root d shape story sent (.second token request)) :
    ∃ (s : Session) (first : Request) (response : Response),
      d.IsRefused root s first response ∧ d.Sends root token request ∧
      story = [.opens (some s), .answered (.ok response), .asks s.accessToken, .told (.ok token)] ∧
      sent = [(s.accessToken, first), (token, request)] := by
  cases h with
  | tries htries => cases htries
  | @isRejected s first response _ _ _ hsends hrefused hrecovers =>
    cases hrecovers with
    | fails hcloses => cases hcloses
    | retries htries =>
      cases htries with
      | sent hagain => exact ⟨s, first, response, ⟨hsends, hrefused⟩, hagain, rfl, rfl⟩
    | isRejectedAgain _ _ hcloses => cases hcloses

/-- A request that is about to end the session goes on by ending it. -/
theorem Proceeds.closes {token reason : String} {incident : Incident} {phase : Phase}
    (h : Proceeds root d shape story sent (.expiring token reason))
    (hcloses : Closes token reason [incident] phase) :
    Proceeds root d shape (story ++ [incident]) sent phase := by
  cases h with
  | tries htries => cases htries
  | isRejected hsends hrefused hrecovers =>
    cases hrecovers with
    | fails hexpiring =>
      cases hexpiring with
      | expiring => exact .isRejected hsends hrefused (.fails hcloses)
    | retries htries => cases htries
    | isRejectedAgain hagain hrefusedAgain hexpiring =>
      cases hexpiring with
      | expiring => exact .isRejected hsends hrefused (.isRejectedAgain hagain hrefusedAgain hcloses)

/-- A request that waits for the answer to an attempt, and is over after what it meets next. -/
theorem Proceeds.over {phase after : Phase} {token : String} {request : Request}
    {incident : Incident} (h : Proceeds root d shape story sent phase)
    (hattempt : phase.attempt? = some (token, request))
    (htries : ∀ {token : String} {request : Request} {waiting : Request → Phase},
      d.Sends root token request →
      Tries root d shape token waiting [incident] [(token, request)] after) :
    Proceeds root d shape (story ++ [incident]) sent after := by
  cases phase with
  | first =>
    obtain ⟨s, rfl, hsends, rfl, rfl⟩ := h.of_first
    exact .tries (htries hsends)
  | second =>
    obtain ⟨s, first, response, hrefused, hsends, rfl, rfl⟩ := h.of_second
    exact .isRejected hrefused.sends hrefused.refused (.retries (htries hsends))
  | _ => cases hattempt

/-- A request whose wait is cut short. -/
theorem Proceeds.cutShort {phase after : Phase} {incident : Incident}
    (h : Proceeds root d shape story sent phase)
    (hwaits : Call.isWaiting ⟨.request d shape, phase⟩ = true)
    (htries : ∀ {token : String} {request : Request} {waiting : Request → Phase},
      d.Sends root token request →
      Tries root d shape token waiting [incident] [(token, request)] after)
    (hrecovers : ∀ rejected, Recovers root d shape rejected [incident] [] after) :
    Proceeds root d shape (story ++ [incident]) sent after := by
  cases phase with
  | first => exact h.over rfl htries
  | second => exact h.over rfl htries
  | asking rejected progress =>
    obtain ⟨s, request, response, rfl, hrefused, rfl, rfl⟩ := h.of_asking
    exact .isRejected hrefused.sends hrefused.refused (hrecovers _)
  | _ => cases hwaits

/-- Story, attempts and phase belong together after every turn. -/
theorem Proceeds.turn {phase phase' : Phase} {incidents : List Incident}
    {more : List (String × Request)} (h : Proceeds root d shape story sent phase)
    (hturn : Turn root d shape phase incidents more phase') :
    Proceeds root d shape (story ++ incidents) (sent ++ more) phase' := by
  cases hturn with
  | stays =>
    rw [List.append_nil, List.append_nil]
    exact h
  | findsNone =>
    obtain ⟨rfl, rfl⟩ := h.of_opening
    exact .findsNone
  | cannotOpen message =>
    obtain ⟨rfl, rfl⟩ := h.of_opening
    exact .cannotOpen message
  | breaksOpening =>
    obtain ⟨rfl, rfl⟩ := h.of_opening
    exact .breaksDown
  | opens htries =>
    obtain ⟨rfl, rfl⟩ := h.of_opening
    exact .tries htries
  | isCutOff hattempt e =>
    rw [List.append_nil]
    exact h.over hattempt fun hsends => .isCutOff hsends e
  | isAnswered hattempt haccepted =>
    rw [List.append_nil]
    exact h.over hattempt fun hsends => .isAnswered hsends haccepted
  | isRejected hunauthorized =>
    obtain ⟨s, rfl, hsends, rfl, rfl⟩ := h.of_first
    exact .isRejected hsends hunauthorized (.asks _)
  | asks rejected before after =>
    obtain ⟨s, request, response, rfl, hrefused, rfl, rfl⟩ := h.of_asking
    exact .isRejected hrefused.sends hrefused.refused (.asks after)
  | breaksAsking =>
    obtain ⟨s, request, response, rfl, hrefused, rfl, rfl⟩ := h.of_asking
    exact .isRejected hrefused.sends hrefused.refused .breaksDown
  | gives rejected progress e =>
    obtain ⟨s, request, response, rfl, hrefused, rfl, rfl⟩ := h.of_asking
    exact .isRejected hrefused.sends hrefused.refused (.fails .expiring)
  | retries htries =>
    obtain ⟨s, request, response, rfl, hrefused, rfl, rfl⟩ := h.of_asking
    exact .isRejected hrefused.sends hrefused.refused (.retries htries)
  | isRejectedAgain hunauthorized =>
    obtain ⟨s, first, response, hrefused, hsends, rfl, rfl⟩ := h.of_second
    exact .isRejected hrefused.sends hrefused.refused
      (.isRejectedAgain hsends hunauthorized .expiring)
  | closes hcloses =>
    rw [List.append_nil]
    exact h.closes hcloses
  | timesOut hwaits =>
    rw [List.append_nil]
    exact h.cutShort hwaits (fun hsends => .timesOut hsends) fun _ => .timesOut
  | isGivenUp hwaits =>
    rw [List.append_nil]
    exact h.cutShort hwaits (fun hsends => .isGivenUp hsends) fun _ => .isGivenUp

end Whole

namespace Gateway

variable {σ : Type} [Store σ]

/-- A caller is after the same all the time. -/
theorem purpose?_run {g : Gateway σ} (horder : Orderly g) {id : CallId} {purpose : Purpose}
    (h : g.purpose? id = some purpose) (actions : List (Action σ)) :
    (g.run actions).purpose? id = some purpose := by
  induction actions generalizing g with
  | nil => exact h
  | cons a actions ih =>
    refine ih ((move_step g a).orderly horder) ?_
    obtain ⟨call, hcall, rfl⟩ := Option.map_eq_some_iff.mp h
    obtain ⟨phase', hafter, -⟩ := (move_step g a).passage horder (phase?_of_calls hcall)
    obtain ⟨call', hcall', -⟩ := Option.map_eq_some_iff.mp hafter
    rcases (move_step g a).purpose_cases (purpose?_of_calls hcall') with hbefore | rfl
    · rw [purpose?_of_calls hcall', ← hbefore, h]
    · have hne : id ≠ g.calls.length := by
        rintro rfl
        simp at hcall
      exact (purpose?_start _ _ id).trans ((if_neg hne).trans h)

/-- Whoever has not come has sent nothing. -/
theorem attemptsOf_eq_nil {root : ApiRoot} {store : σ} {actions : List (Action σ)} {id : CallId}
    (h : ((Gateway.new root store).run actions).phase? id = none) :
    ((Gateway.new root store).run actions).attemptsOf id = [] := by
  unfold attemptsOf
  rw [List.filterMap_eq_nil_iff]
  intro notice hmem
  rw [List.mem_reverse] at hmem
  unfold Notice.attemptOf?
  split
  · rename_i caller token request
    rw [if_neg]
    rintro rfl
    obtain ⟨phase, hphase, -⟩ := exists_phase_of_attempt hmem
    rw [h] at hphase
    cases hphase
  · rfl

/-- Whoever has not come has met nothing. -/
theorem story_eq_nil {root : ApiRoot} {store : σ} {actions : List (Action σ)} {id : CallId}
    (h : ((Gateway.new root store).run actions).phase? id = none) :
    (Gateway.new root store).story id actions = [] := by
  induction actions using List.reverseRecOn with
  | nil => rfl
  | append_singleton before a ih =>
    rw [run_concat] at h
    cases hbefore : ((Gateway.new root store).run before).phase? id with
    | none =>
      have hcall : ((Gateway.new root store).run before).calls[id]? = none := by
        simpa [phase?] using hbefore
      rw [story_concat, ih hbefore, List.nil_append]
      simp only [met, hcall]
    | some phase =>
      obtain ⟨phase', hphase', -⟩ :=
        (move_step _ a).passage ((orderly_new root store).run before) hbefore
      rw [h] at hphase'
      cases hphase'

/-- In every run, story, attempts and phase of a request belong together. -/
theorem proceeds_run {root : ApiRoot} {store : σ} {actions : List (Action σ)} {id : CallId}
    {d : Descriptor} {shape : Shape}
    (h : ((Gateway.new root store).run actions).purpose? id = some (.request d shape)) :
    ∃ phase, ((Gateway.new root store).run actions).phase? id = some phase ∧
      Proceeds root d shape ((Gateway.new root store).story id actions)
        (((Gateway.new root store).run actions).attemptsOf id) phase := by
  induction actions using List.reverseRecOn with
  | nil => simp [purpose?, Gateway.new] at h
  | append_singleton before a ih =>
    rw [run_concat] at h ⊢
    rw [story_concat]
    have hcame : ((Gateway.new root store).run before).purpose? id = some (.request d shape) ∨
        id = ((Gateway.new root store).run before).calls.length ∧ a = .start (.request d shape) := by
      rcases (move_step _ a).purpose_cases h with hbefore | rfl
      · exact .inl hbefore
      · simp only [step, purpose?_start] at h
        split at h
        · rename_i hid
          exact .inr ⟨hid, rfl⟩
        · exact .inl h
    rcases hcame with hbefore | ⟨hid, rfl⟩
    · obtain ⟨phase, hphase, hproceeds⟩ := ih hbefore
      obtain ⟨sent, phase', hturn, hafter, hsent⟩ :=
        turns_step (calls_of_phase? hphase hbefore) a
      rw [root_run] at hturn
      refine ⟨phase', hafter, ?_⟩
      rw [hsent]
      exact hproceeds.turn hturn
    · have hnone : ((Gateway.new root store).run before).phase? id = none := by
        simp [phase?, hid]
      have hafter : (((Gateway.new root store).run before).step (.start (.request d shape))).phase? id =
          some .opening := (phase?_start _ _ id).trans (if_pos hid)
      refine ⟨.opening, hafter, ?_⟩
      have hsent : (((Gateway.new root store).run before).step
          (.start (.request d shape))).attemptsOf id = [] := attemptsOf_eq_nil hnone
      have hby : ¬ (Action.start (.request d shape) : Action σ).IsBy id := fun hby => hby
      rw [hsent, story_eq_nil hnone, met_of_others hby]
      exact .opening

end Gateway

/-! ## What the caller sees -/

/-- The answer to a request that cannot be sent under a token. -/
def Descriptor.unsent? (root : ApiRoot) (d : Descriptor) (token : String) : Option Answer :=
  match Request.build root d token with
  | .error message => some (.payload (.error (.internal message)))
  | .ok request =>
    if request.url.isSendable then none
    else some (.payload (.error (TransportError.unsupported request.url.text).toGatewayError))

/-- The answer that an incident gives a request, if it gives one. -/
def Incident.answer? (root : ApiRoot) (d : Descriptor) (shape : Shape) : Incident → Option Answer
  | .opens none => some (.payload (.error .notAuthenticated))
  | .opens (some s) => d.unsent? root s.accessToken
  | .cannotOpen message => some (.payload (.error (.internal message)))
  | .answered (.error e) => some (.payload (.error e.toGatewayError))
  | .answered (.ok response) =>
    if response.isUnauthorized then none else some (.payload (response.classify shape.decode))
  | .asks _ => none
  | .told (.ok token) => d.unsent? root token
  | .told (.error _) => none
  | .ends => some (.payload (.error .sessionExpired))
  | .timesOut => some (.payload (.error (.timeout d.timeoutMs)))
  | .isGivenUp => none
  | .breaksDown => some .panicked

/-- Whether a request in the phase ends as expired. -/
def Phase.IsExpired : Phase → Prop
  | .expiring _ _ | .ended (.payload (.error .sessionExpired)) => True
  | _ => False

/-- What a request does and gets, by its story. -/
structure Conduct (root : ApiRoot) (d : Descriptor) (shape : Shape) (story : List Incident)
    (sent : List (String × Request)) (phase : Phase) : Prop where
  /-- At most two attempts are sent. -/
  sent_le : sent.length ≤ 2
  /-- A fresh token is asked for at most once. -/
  asks_le : story.countP Incident.isAsking ≤ 1
  /-- Without a session nothing is sent. -/
  anonymous : story.head? = some (.opens none) →
    sent = [] ∧ phase = .ended (.payload (.error .notAuthenticated))
  /-- The first attempt goes out under the access token of the session that was read. -/
  first : ∀ token request rest, sent = (token, request) :: rest →
    Request.build root d token = .ok request ∧
      ∃ s, story.head? = some (.opens (some s)) ∧ token = s.accessToken
  /-- The second attempt goes out after a refusal of the first one, under the fresh token that the
  request was told, and is the same but for the token. -/
  second : ∀ token request fresh again rest,
    sent = (token, request) :: (fresh, again) :: rest →
    Request.SameBut d fresh request again ∧ rest = [] ∧
      ∃ s response more, story =
        .opens (some s) :: .answered (.ok response) :: .asks token :: .told (.ok fresh) :: more ∧
        token = s.accessToken ∧ response.status = 401
  /-- The request ends as expired if its first attempt was refused, and then there was no fresh
  token or the second attempt was refused too, and only then. -/
  expired : .breaksDown ∉ story → (phase.IsExpired ↔ ∃ s response rest,
    story = .opens (some s) :: .answered (.ok response) :: .asks s.accessToken :: rest ∧
      response.status = 401 ∧ ((∃ e, rest.head? = some (.told (.error e))) ∨
        ∃ fresh again, rest.take 2 = [.told (.ok fresh), .answered (.ok again)] ∧
          again.status = 401))
  /-- The answer is the one that the last incident gives. -/
  outcome : ∀ answer, phase = .ended answer ↔
    ∃ incident ∈ story, incident.answer? root d shape = some answer

section Conduct

variable {root : ApiRoot} {d : Descriptor} {shape : Shape} {token reason rejected : String}
  {waiting : Request → Phase} {story : List Incident} {sent : List (String × Request)}
  {phase : Phase}

theorem Descriptor.Sends.unsent? {request : Request} (h : d.Sends root token request) :
    d.unsent? root token = none := by
  simp [Descriptor.unsent?, h.build, h.isSendable]

theorem Tries.sent_cases (h : Tries root d shape token waiting story sent phase) :
    sent = [] ∨ ∃ request, Request.build root d token = .ok request ∧ sent = [(token, request)] := by
  cases h with
  | unbuilt => exact .inl rfl
  | unaddressed => exact .inl rfl
  | sent hsends => exact .inr ⟨_, hsends.build, rfl⟩
  | isCutOff hsends => exact .inr ⟨_, hsends.build, rfl⟩
  | isAnswered hsends => exact .inr ⟨_, hsends.build, rfl⟩
  | timesOut hsends => exact .inr ⟨_, hsends.build, rfl⟩
  | isGivenUp hsends => exact .inr ⟨_, hsends.build, rfl⟩

theorem Tries.isAsking_eq_false (h : Tries root d shape token waiting story sent phase) :
    ∀ incident ∈ story, incident.isAsking = false := by
  cases h <;> simp [Incident.isAsking]

theorem Closes.isAsking_eq_false (h : Closes token reason story phase) :
    ∀ incident ∈ story, incident.isAsking = false := by
  cases h <;> simp [Incident.isAsking]

theorem Recovers.isAsking_eq_false (h : Recovers root d shape rejected story sent phase) :
    ∀ incident ∈ story, incident.isAsking = false := by
  cases h with
  | fails hcloses => simpa [Incident.isAsking] using hcloses.isAsking_eq_false
  | retries htries => simpa [Incident.isAsking] using htries.isAsking_eq_false
  | isRejectedAgain _ _ hcloses => simpa [Incident.isAsking] using hcloses.isAsking_eq_false
  | _ => simp [Incident.isAsking]

/-- A request whose first attempt was refused sends another attempt only under a fresh token. -/
theorem Recovers.sent_cases (h : Recovers root d shape rejected story sent phase) :
    sent = [] ∨ ∃ fresh again more, story = .told (.ok fresh) :: more ∧
      Request.build root d fresh = .ok again ∧ sent = [(fresh, again)] := by
  cases h with
  | retries htries =>
    rcases htries.sent_cases with rfl | ⟨again, hbuild, rfl⟩
    · exact .inl rfl
    · exact .inr ⟨_, again, _, rfl, hbuild, rfl⟩
  | isRejectedAgain hsends => exact .inr ⟨_, _, _, rfl, hsends.build, rfl⟩
  | _ => exact .inl rfl

theorem Tries.outcome (h : Tries root d shape token waiting story sent phase)
    (hwaiting : ∀ request answer, waiting request ≠ .ended answer) (answer : Answer) :
    phase = .ended answer ↔ d.unsent? root token = some answer ∨
      ∃ incident ∈ story, incident.answer? root d shape = some answer := by
  cases h with
  | sent hsends => simp [hsends.unsent?, hwaiting]
  | unbuilt hbuild => simp [Descriptor.unsent?, hbuild]
  | unaddressed hbuild hsend => simp [Descriptor.unsent?, hbuild, hsend]
  | isCutOff hsends => simp [hsends.unsent?, Incident.answer?]
  | isAnswered hsends haccepted => simp [hsends.unsent?, Incident.answer?, haccepted]
  | timesOut hsends => simp [hsends.unsent?, Incident.answer?]
  | isGivenUp hsends => simp [hsends.unsent?, Incident.answer?]

theorem Closes.outcome (h : Closes token reason story phase) (root : ApiRoot) (d : Descriptor)
    (shape : Shape) (answer : Answer) :
    phase = .ended answer ↔ ∃ incident ∈ story, incident.answer? root d shape = some answer := by
  cases h <;> simp [Incident.answer?]

theorem Recovers.outcome (h : Recovers root d shape rejected story sent phase) (answer : Answer) :
    phase = .ended answer ↔ ∃ incident ∈ story, incident.answer? root d shape = some answer := by
  cases h with
  | fails hcloses =>
    rw [hcloses.outcome root d shape]
    simp [Incident.answer?]
  | retries htries =>
    rw [htries.outcome fun _ _ => by simp]
    simp [Incident.answer?]
  | isRejectedAgain hsends hrefused hcloses =>
    rw [hcloses.outcome root d shape]
    simp [Incident.answer?, hsends.unsent?, hrefused]
  | _ => simp [Incident.answer?]

theorem Proceeds.outcome (h : Proceeds root d shape story sent phase) (answer : Answer) :
    phase = .ended answer ↔ ∃ incident ∈ story, incident.answer? root d shape = some answer := by
  cases h with
  | tries htries =>
    rw [htries.outcome fun _ _ => by simp]
    simp [Incident.answer?]
  | isRejected hsends hrefused hrecovers =>
    rw [hrecovers.outcome]
    simp [Incident.answer?, hsends.unsent?, hrefused]
  | _ => simp [Incident.answer?]

theorem Response.classify_ne_sessionExpired {α : Type} (decode : Json.Decoder α)
    (response : Response) : response.classify decode ≠ .error .sessionExpired := by
  unfold Response.classify
  split
  · simp
  · split
    · simp
    · rename_i envelope _
      cases decode envelope.data <;> simp [Except.mapError]

theorem Phase.isExpired_payload {result : Except GatewayError Payload} :
    (Phase.ended (.payload result)).IsExpired ↔ result = .error .sessionExpired := by
  unfold IsExpired
  split <;> simp_all

theorem Tries.not_isExpired (h : Tries root d shape token waiting story sent phase)
    (hwaiting : ∀ request, ¬ (waiting request).IsExpired) : ¬ phase.IsExpired := by
  cases h with
  | sent => exact hwaiting _
  | isAnswered =>
    rw [Phase.isExpired_payload]
    exact Response.classify_ne_sessionExpired _ _
  | isGivenUp => exact fun h => h
  | _ => simp [Phase.isExpired_payload, TransportError.toGatewayError]

theorem Tries.status_ne (h : Tries root d shape token waiting story sent phase)
    {response : Response} (hmem : .answered (.ok response) ∈ story) : response.status ≠ 401 := by
  cases h with
  | isAnswered _ haccepted =>
    obtain rfl : response = _ := by simpa using hmem
    exact of_decide_eq_false haccepted
  | _ => simp at hmem

theorem Closes.isExpired (h : Closes token reason story phase) (hwell : .breaksDown ∉ story) :
    phase.IsExpired := by
  cases h with
  | expiring => trivial
  | ends => trivial
  | breaksDown => simp at hwell

/-- What makes a request expire whose first attempt was refused. -/
theorem Recovers.isExpired_iff (h : Recovers root d shape rejected story sent phase)
    (hwell : .breaksDown ∉ story) :
    phase.IsExpired ↔ (∃ e, story.head? = some (.told (.error e))) ∨
      ∃ fresh again, story.take 2 = [.told (.ok fresh), .answered (.ok again)] ∧
        again.status = 401 := by
  cases h with
  | asks => simp [Phase.IsExpired]
  | timesOut => simp [Phase.isExpired_payload]
  | isGivenUp => simp [Phase.IsExpired]
  | breaksDown => simp at hwell
  | fails hcloses =>
    have hexpired := hcloses.isExpired (by simpa using hwell)
    simp [hexpired]
  | @retries _ rest _ _ htries =>
    have hnot := htries.not_isExpired fun _ => fun h => h
    rw [iff_false_left hnot]
    rintro (⟨e, hhead⟩ | ⟨fresh, again, htake, hstatus⟩)
    · simp at hhead
    · have hmem : .answered (.ok again) ∈ rest.take 1 := by
        rw [(List.cons.inj htake).2]
        exact List.mem_singleton_self _
      exact htries.status_ne (List.mem_of_mem_take hmem) hstatus
  | isRejectedAgain hsends hrefused hcloses =>
    have hexpired := hcloses.isExpired (by simpa using hwell)
    have hstatus := of_decide_eq_true hrefused
    simp [hexpired, hstatus]

theorem Proceeds.isExpired_iff (h : Proceeds root d shape story sent phase)
    (hwell : .breaksDown ∉ story) :
    phase.IsExpired ↔ ∃ s response rest,
      story = .opens (some s) :: .answered (.ok response) :: .asks s.accessToken :: rest ∧
        response.status = 401 ∧ ((∃ e, rest.head? = some (.told (.error e))) ∨
          ∃ fresh again, rest.take 2 = [.told (.ok fresh), .answered (.ok again)] ∧
            again.status = 401) := by
  cases h with
  | opening => simp [Phase.IsExpired]
  | findsNone => simp [Phase.isExpired_payload]
  | cannotOpen => simp [Phase.isExpired_payload]
  | breaksDown => simp at hwell
  | @tries _ met _ _ htries =>
    have hnot := htries.not_isExpired fun _ => fun h => h
    rw [iff_false_left hnot]
    rintro ⟨s, response, rest, hstory, hstatus, -⟩
    have hmem : .answered (.ok response) ∈ met := by
      rw [(List.cons.inj hstory).2]
      exact List.mem_cons_self
    exact htries.status_ne hmem hstatus
  | @isRejected s _ response rest _ _ hsends hrefused hrecovers =>
    rw [hrecovers.isExpired_iff (by simpa using hwell)]
    constructor
    · intro hfailed
      exact ⟨s, response, rest, rfl, of_decide_eq_true hrefused, hfailed⟩
    · rintro ⟨s', response', rest', hstory, -, hfailed⟩
      simp only [List.cons.injEq] at hstory
      rw [hstory.2.2.2]
      exact hfailed

theorem Proceeds.conduct (h : Proceeds root d shape story sent phase) :
    Conduct root d shape story sent phase where
  sent_le := by
    cases h with
    | tries htries => rcases htries.sent_cases with rfl | ⟨_, -, rfl⟩ <;> simp
    | isRejected _ _ hrecovers =>
      rcases hrecovers.sent_cases with rfl | ⟨_, _, _, -, -, rfl⟩ <;> simp
    | _ => simp
  asks_le := by
    cases h with
    | tries htries =>
      rw [List.countP_eq_zero.mpr (by simpa [Incident.isAsking] using htries.isAsking_eq_false)]
      exact Nat.zero_le 1
    | isRejected _ _ hrecovers =>
      have hrest := List.countP_eq_zero.mpr (by simpa using hrecovers.isAsking_eq_false)
      simp [List.countP_cons, Incident.isAsking, hrest]
    | _ => simp [Incident.isAsking]
  anonymous := by
    intro hhead
    cases h with
    | findsNone => exact ⟨rfl, rfl⟩
    | _ => simp at hhead
  first := by
    intro token request rest hsent
    cases h with
    | @tries s _ _ _ htries =>
      rcases htries.sent_cases with rfl | ⟨request', hbuild, rfl⟩
      · cases hsent
      · cases hsent
        exact ⟨hbuild, s, rfl, rfl⟩
    | @isRejected s _ _ _ _ _ hsends =>
      cases hsent
      exact ⟨hsends.build, s, rfl, rfl⟩
    | _ => cases hsent
  second := by
    intro token request fresh again rest hsent
    cases h with
    | tries htries =>
      rcases htries.sent_cases with rfl | ⟨_, -, rfl⟩
      · cases hsent
      · cases hsent
    | @isRejected s _ response _ _ _ hsends hrefused hrecovers =>
      rcases hrecovers.sent_cases with rfl | ⟨fresh', again', more, rfl, hbuild, rfl⟩
      · cases hsent
      · cases hsent
        exact ⟨Request.sameBut_build hsends.build hbuild, rfl, s, response, more, rfl, rfl,
          of_decide_eq_true hrefused⟩
    | _ => cases hsent
  expired := h.isExpired_iff
  outcome := h.outcome

end Conduct

namespace Gateway

variable {σ : Type} [Store σ]

/-- A request that is about to end the session ends as expired in its next step, unless it breaks
down over that. -/
theorem ended_of_expiring {g : Gateway σ} {id : CallId} {d : Descriptor} {shape : Shape}
    {token reason : String}
    (hcall : g.calls[id]? = some ⟨.request d shape, .expiring token reason⟩)
    (hwell : (g.invalidate token reason).1 ≠ .panicked) :
    (g.step (.advance id)).phase? id = some (.ended (.payload (.error .sessionExpired))) := by
  obtain ⟨sent, phase', hturn, hafter, -⟩ := turns_step hcall (.advance id)
  have hmet : g.met id (.advance id) = .ends :: (Phase.expiring token reason).question phase' := by
    rw [met_of_calls hcall (show (Action.advance id).IsBy id from rfl) hafter]
    simp [meets, meetsAlone, hwell]
  rw [hmet] at hturn
  rw [hafter]
  generalize hincidents : Incident.ends :: (Phase.expiring token reason).question phase' = incidents
    at hturn
  cases hturn with
  | stays => cases hincidents
  | isCutOff hattempt => cases hattempt
  | isAnswered hattempt => cases hattempt
  | closes hcloses =>
    cases hcloses with
    | ends => rfl
    | breaksDown => simp at hincidents
  | timesOut hwaits => cases hwaits
  | isGivenUp hwaits => cases hwaits

/-- In every run, whatever the store and all others do: a request sends at most two attempts and
asks for a fresh token at most once, and what it sends and gets is determined by what it meets. -/
theorem one_refresh_one_retry (root : ApiRoot) (store : σ) (actions : List (Action σ)) (id : CallId)
    (d : Descriptor) (shape : Shape)
    (hrequest : ((Gateway.new root store).run actions).purpose? id = some (.request d shape)) :
    let g := Gateway.new root store
    let story := g.story id actions
    let sent := (g.run actions).attemptsOf id
    ∃ phase, (g.run actions).phase? id = some phase ∧
      Proceeds root d shape story sent phase ∧ Conduct root d shape story sent phase ∧
      ∀ token reason, phase = .expiring token reason →
        ((g.run actions).invalidate token reason).1 ≠ .panicked →
        (g.run (actions ++ [.advance id])).phase? id =
          some (.ended (.payload (.error .sessionExpired))) := by
  intro g story sent
  obtain ⟨phase, hphase, hproceeds⟩ := proceeds_run hrequest
  refine ⟨phase, hphase, hproceeds, hproceeds.conduct, ?_⟩
  rintro token reason rfl hwell
  obtain ⟨⟨purpose, current⟩, hcall, rfl⟩ := Option.map_eq_some_iff.mp hphase
  obtain rfl : purpose = .request d shape :=
    Option.some.inj ((purpose?_of_calls hcall).symm.trans hrequest)
  rw [run_concat]
  exact ended_of_expiring hcall hwell

/-- A request is refused, gets a fresh token, is refused again and ends as expired. -/
theorem one_refresh_one_retry_of_second_refusal :
    let g := Gateway.new ⟨"http://[::1]"⟩ (Cell.mk (some ⟨"A1", some "R1", none⟩))
    let d : Descriptor := ⟨.get, "/orders", [], none, defaultTimeoutMs⟩
    let body := "\x7b\"data\":\x7b\"access_token\":\"A2\"\x7d\x7d"
    let actions : List (Action Cell) := [.start (.request d .value), .advance 0,
      .deliver 0 (.response ⟨401, .empty⟩), .advance 0, .advance 0, .advance 0, .advanceCycle 0,
      .deliverRefresh 0 (.response ⟨200, body.toUTF8⟩), .advanceCycle 0, .advanceCycle 0,
      .advance 0, .deliver 0 (.response ⟨401, .empty⟩), .advance 0]
    (g.run actions).purpose? 0 = some (.request d .value) ∧
      ((g.run actions).attemptsOf 0).map Prod.fst = ["A1", "A2"] ∧
      (g.run actions).phase? 0 = some (.ended (.payload (.error .sessionExpired))) := by
  intro g d body actions
  have hstarted : (g.run (actions.take 1)).purpose? 0 = some (.request d .value) := rfl
  have hpurpose : (g.run actions).purpose? 0 = some (.request d .value) := by
    rw [← List.take_append_drop 1 actions, run_append]
    exact purpose?_run ((orderly_new _ _).run _) hstarted _
  obtain ⟨phase, hphase, -, hconduct, -⟩ := one_refresh_one_retry ⟨"http://[::1]"⟩
    (Cell.mk (some ⟨"A1", some "R1", none⟩)) actions 0 d .value hpurpose
  refine ⟨hpurpose, by decide +kernel, ?_⟩
  have hends : (g.story 0 actions).any (fun incident => incident matches .ends) = true := by
    decide +kernel
  obtain ⟨incident, hmem, hincident⟩ := List.any_eq_true.mp hends
  cases incident with
  | ends =>
    have hended := (hconduct.outcome (.payload (.error .sessionExpired))).mpr ⟨.ends, hmem, rfl⟩
    rw [hended] at hphase
    exact hphase
  | _ => cases hincident

end Gateway

end BearerClient
