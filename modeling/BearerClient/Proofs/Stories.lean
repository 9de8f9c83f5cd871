import BearerClient.Proofs.Refusals

/-!
# The story of a request

What a caller meets on its way is kept as a list of incidents, its story, and the attempts that
were sent for it are read off the notices. `Turn` lists what one step can do to a request, whoever
takes the step: what the request meets, which attempts are sent, and where it is then. The main
statement is `turns_step`.
-/

namespace BearerClient

/-! ## Stories -/

/-- What a caller meets on its way. -/
inductive Incident where
  /-- It reads the session that it will be sent under. -/
  | opens (found : Option Session)
  /-- It cannot read that session. -/
  | cannotOpen (message : String)
  /-- Its attempt is answered, or it is cut off. -/
  | answered (result : Except TransportError Response)
  /-- It asks for a token in place of a refused one. -/
  | asks (rejected : String)
  /-- It takes the result of its question. -/
  | told (result : Except RefreshError String)
  /-- It ends the session. -/
  | ends
  /-- The time budget of its wait is used up. -/
  | timesOut
  /-- It is given up. -/
  | isGivenUp
  /-- It breaks down over the store. -/
  | breaksDown

/-- Whether a caller asks for a fresh token. -/
def Incident.isAsking : Incident → Bool
  | .asks _ => true
  | _ => false

/-- The token that a caller gets for an attempt. -/
def Incident.token? : Incident → Option String
  | .opens (some s) => some s.accessToken
  | .told (.ok token) => some token
  | _ => none

/-- A caller that asks for a fresh token and did not before has just begun to. -/
def Phase.question : Phase → Phase → List Incident
  | .asking _ _, _ => []
  | _, .asking rejected _ => [.asks rejected]
  | _, _ => []

/-- Whoever begins to ask did not ask before. -/
theorem Phase.mem_question {before after : Phase} {incident : Incident}
    (h : incident ∈ before.question after) :
    ∃ rejected progress, incident = .asks rejected ∧ after = .asking rejected progress ∧
      ∀ rejected progress, before ≠ .asking rejected progress := by
  unfold question at h
  split at h
  · cases h
  · rename_i rejected progress hnot
    exact ⟨rejected, progress, List.mem_singleton.mp h, rfl, hnot⟩
  · cases h

theorem Phase.question_self (phase : Phase) : phase.question phase = [] := by
  cases phase <;> rfl

@[simp] theorem Phase.question_ended (phase : Phase) (answer : Answer) :
    phase.question (.ended answer) = [] := by
  cases phase <;> rfl

@[simp] theorem Phase.question_abandoned (phase : Phase) : phase.question .abandoned = [] := by
  cases phase <;> rfl

/-- The attempt of a caller that a notice is about. -/
def Notice.attemptOf? (id : CallId) : Notice → Option (String × Request)
  | .attempt caller token request => if caller = id then some (token, request) else none
  | _ => none

namespace Gateway

variable {σ : Type}

instance Action.decidableIsBy (id : CallId) : (a : Action σ) → Decidable (a.IsBy id)
  | .advance other | .deliver other _ | .expire other | .abandon other =>
    inferInstanceAs (Decidable (other = id))
  | .start _ | .advanceCycle _ | .deliverRefresh _ _ | .expireRefresh _ | .signIn _ | .signOut
  | .invalidate _ _ | .disturb _ => inferInstanceAs (Decidable False)

/-- The attempts that were sent for a caller, in their order. -/
def attemptsOf (g : Gateway σ) (id : CallId) : List (String × Request) :=
  g.log.reverse.filterMap (Notice.attemptOf? id)

variable [Store σ]

/-- What a caller meets that takes its next step by itself. -/
def meetsAlone (g : Gateway σ) : Phase → List Incident
  | .opening =>
    match (Store.get g.store).1 with
    | .ok found => [.opens found]
    | .failed message => [.cannotOpen message]
    | .panicked => [.breaksDown]
  | .asking _ (.counted _) => if (Store.get g.store).1 = .panicked then [.breaksDown] else []
  | .asking _ (.told result) => [.told result]
  | .expiring token reason =>
    if (g.invalidate token reason).1 = .panicked then [.breaksDown] else [.ends]
  | _ => []

/-- What a caller meets in a step of its own. -/
def meets (g : Gateway σ) (call : Call) : Action σ → List Incident
  | .advance _ => g.meetsAlone call.phase
  | .deliver _ d =>
    match call.phase.attempt? with
    | some (_, request) => [.answered (d.response? request.url)]
    | none => []
  | .expire _ => if call.isWaiting then [.timesOut] else []
  | .abandon _ => if call.isWaiting then [.isGivenUp] else []
  | _ => []

/-- What a caller meets in a step. -/
def met (g : Gateway σ) (id : CallId) (a : Action σ) : List Incident :=
  match g.calls[id]? with
  | some call =>
    if a.IsBy id then
      g.meets call a ++ (((g.step a).phase? id).map call.phase.question).getD []
    else []
  | none => []

/-- What a caller meets in a run. -/
def story (g : Gateway σ) (id : CallId) : List (Action σ) → List Incident
  | [] => []
  | a :: later => g.met id a ++ (g.step a).story id later

theorem story_append (g : Gateway σ) (id : CallId) (before later : List (Action σ)) :
    g.story id (before ++ later) = g.story id before ++ (g.run before).story id later := by
  induction before generalizing g with
  | nil => rfl
  | cons first before ih => simp [story, ih]

theorem story_concat (g : Gateway σ) (id : CallId) (before : List (Action σ)) (a : Action σ) :
    g.story id (before ++ [a]) = g.story id before ++ (g.run before).met id a := by
  rw [story_append]
  simp [story]

end Gateway

/-! ## What a request does about it -/

/-- A request that can be built and addressed. -/
structure Descriptor.Sends (root : ApiRoot) (d : Descriptor) (token : String)
    (request : Request) : Prop where
  /-- It can be built. -/
  build : Request.build root d token = .ok request
  /-- It can be addressed. -/
  isSendable : request.url.isSendable = true

/-- How an attempt under a token goes that is not refused: what is met, what is sent, and in which
phase the caller is then. -/
inductive Tries (root : ApiRoot) (d : Descriptor) (shape : Shape) (token : String)
    (waiting : Request → Phase) : List Incident → List (String × Request) → Phase → Prop where
  /-- The attempt is sent, and the caller waits for the answer. -/
  | sent {request : Request} (hsends : d.Sends root token request) :
      Tries root d shape token waiting [] [(token, request)] (waiting request)
  /-- The request cannot be built. -/
  | unbuilt {message : String} (hbuild : Request.build root d token = .error message) :
      Tries root d shape token waiting [] [] (.ended (.payload (.error (.internal message))))
  /-- The request cannot be addressed. -/
  | unaddressed {request : Request} (hbuild : Request.build root d token = .ok request)
      (hsend : request.url.isSendable = false) :
      Tries root d shape token waiting [] []
        (.ended (.payload (.error (TransportError.unsupported request.url.text).toGatewayError)))
  /-- The attempt is not answered completely. -/
  | isCutOff {request : Request} (hsends : d.Sends root token request) (e : TransportError) :
      Tries root d shape token waiting [.answered (.error e)] [(token, request)]
        (.ended (.payload (.error e.toGatewayError)))
  /-- The attempt is answered without a refusal of its token. -/
  | isAnswered {request : Request} (hsends : d.Sends root token request) {response : Response}
      (haccepted : response.isUnauthorized = false) :
      Tries root d shape token waiting [.answered (.ok response)] [(token, request)]
        (.ended (.payload (response.classify shape.decode)))
  /-- The time budget of the attempt is used up. -/
  | timesOut {request : Request} (hsends : d.Sends root token request) :
      Tries root d shape token waiting [.timesOut] [(token, request)]
        (.ended (.payload (.error (.timeout d.timeoutMs))))
  /-- The caller is given up. -/
  | isGivenUp {request : Request} (hsends : d.Sends root token request) :
      Tries root d shape token waiting [.isGivenUp] [(token, request)] .abandoned

/-- How a request ends the session that holds a token. -/
inductive Closes (token reason : String) : List Incident → Phase → Prop where
  /-- It is about to. -/
  | expiring : Closes token reason [] (.expiring token reason)
  /-- It has ended it. -/
  | ends : Closes token reason [.ends] (.ended (.payload (.error .sessionExpired)))
  /-- It has broken down over it. -/
  | breaksDown : Closes token reason [.breaksDown] (.ended .panicked)

/-! ## One step of a request -/

/-- What one step can do to a request, whoever takes it: what the request meets, which attempts are
sent for it, and where it is then. -/
inductive Turn (root : ApiRoot) (d : Descriptor) (shape : Shape) :
    Phase → List Incident → List (String × Request) → Phase → Prop where
  /-- The request stays where it is. -/
  | stays (phase : Phase) : Turn root d shape phase [] [] phase
  /-- It finds nobody logged in. -/
  | findsNone : Turn root d shape .opening [.opens none] []
      (.ended (.payload (.error .notAuthenticated)))
  /-- It cannot read the session. -/
  | cannotOpen (message : String) : Turn root d shape .opening [.cannotOpen message] []
      (.ended (.payload (.error (.internal message))))
  /-- It breaks down over reading the session. -/
  | breaksOpening : Turn root d shape .opening [.breaksDown] [] (.ended .panicked)
  /-- It sends its first attempt. -/
  | opens {s : Session} {sent : List (String × Request)} {phase : Phase}
      (htries : Tries root d shape s.accessToken (.first s.accessToken) [] sent phase) :
      Turn root d shape .opening [.opens (some s)] sent phase
  /-- Its attempt is not answered completely. -/
  | isCutOff {phase : Phase} {token : String} {request : Request}
      (hattempt : phase.attempt? = some (token, request)) (e : TransportError) :
      Turn root d shape phase [.answered (.error e)] [] (.ended (.payload (.error e.toGatewayError)))
  /-- Its attempt is answered without a refusal of the token. -/
  | isAnswered {phase : Phase} {token : String} {request : Request}
      (hattempt : phase.attempt? = some (token, request)) {response : Response}
      (haccepted : response.isUnauthorized = false) :
      Turn root d shape phase [.answered (.ok response)] []
        (.ended (.payload (response.classify shape.decode)))
  /-- Its first attempt is refused. -/
  | isRejected {token : String} {request : Request} {response : Response}
      (hrefused : response.isUnauthorized = true) :
      Turn root d shape (.first token request) [.answered (.ok response), .asks token] []
        (.asking token .entering)
  /-- It goes on with its question for a fresh token. -/
  | asks (rejected : String) (before after : Asking) :
      Turn root d shape (.asking rejected before) [] [] (.asking rejected after)
  /-- It breaks down over its question. -/
  | breaksAsking (rejected : String) (progress : Asking) :
      Turn root d shape (.asking rejected progress) [.breaksDown] [] (.ended .panicked)
  /-- There is no fresh token. -/
  | gives (rejected : String) (progress : Asking) (e : RefreshError) :
      Turn root d shape (.asking rejected progress) [.told (.error e)] []
        (.expiring rejected e.message)
  /-- It sends its second attempt. -/
  | retries {rejected token : String} {progress : Asking} {sent : List (String × Request)}
      {phase : Phase} (htries : Tries root d shape token (.second token) [] sent phase) :
      Turn root d shape (.asking rejected progress) [.told (.ok token)] sent phase
  /-- Its second attempt is refused. -/
  | isRejectedAgain {token : String} {request : Request} {response : Response}
      (hrefused : response.isUnauthorized = true) :
      Turn root d shape (.second token request) [.answered (.ok response)] []
        (.expiring token Gateway.refusedAgain)
  /-- It ends the session, and ends with it. -/
  | closes {token reason : String} {incident : Incident} {phase : Phase}
      (hcloses : Closes token reason [incident] phase) :
      Turn root d shape (.expiring token reason) [incident] [] phase
  /-- Its time budget is used up. -/
  | timesOut {phase : Phase} (hwaits : Call.isWaiting ⟨.request d shape, phase⟩ = true) :
      Turn root d shape phase [.timesOut] [] (.ended (.payload (.error (.timeout d.timeoutMs))))
  /-- It is given up. -/
  | isGivenUp {phase : Phase} (hwaits : Call.isWaiting ⟨.request d shape, phase⟩ = true) :
      Turn root d shape phase [.isGivenUp] [] .abandoned


theorem Tries.question_eq_nil {root : ApiRoot} {d : Descriptor} {shape : Shape} {token : String}
    {waiting : Request → Phase} {story : List Incident} {sent : List (String × Request)}
    {phase : Phase} (h : Tries root d shape token waiting story sent phase)
    (hwaiting : ∀ request, (waiting request).refused? = none) (before : Phase) :
    before.question phase = [] := by
  have hquestion : phase.refused? = none → before.question phase = [] := by
    intro hrefused
    unfold Phase.question
    split
    · rfl
    · cases hrefused
    · rfl
  apply hquestion
  cases h with
  | sent => exact hwaiting _
  | _ => rfl

namespace Gateway

variable {σ : Type}

/-- An attempt of a caller ends it at once, or is the next that was sent for it. -/
theorem Attempted.tries {root : ApiRoot} {id : CallId} {d : Descriptor} {token : String}
    {next : Request → Phase} {phase : Phase} {notices : List Notice}
    (h : Attempted root id d token next phase notices) (shape : Shape) :
    Tries root d shape token next [] (notices.reverse.filterMap (Notice.attemptOf? id)) phase := by
  cases h with
  | sent hbuild hsend => simpa [Notice.attemptOf?] using Tries.sent ⟨hbuild, hsend⟩
  | unbuilt hbuild hanswer =>
    subst hanswer
    exact .unbuilt hbuild
  | unaddressed hbuild hsend hanswer =>
    subst hanswer
    exact .unaddressed hbuild hsend

theorem attemptsOf_of_log {g g' : Gateway σ} {notices : List Notice}
    (h : g'.log = notices ++ g.log) (id : CallId) :
    g'.attemptsOf id =
      g.attemptsOf id ++ notices.reverse.filterMap (Notice.attemptOf? id) := by
  simp [attemptsOf, h]

variable [Store σ]

/-- A step of a request is a turn that leads to the phase it is in afterwards. -/
def Turns (g : Gateway σ) (id : CallId) (d : Descriptor) (shape : Shape) (phase : Phase)
    (a : Action σ) : Prop :=
  ∃ sent phase', Turn g.root d shape phase (g.met id a) sent phase' ∧
    (g.step a).phase? id = some phase' ∧ (g.step a).attemptsOf id = g.attemptsOf id ++ sent

section Own

variable {g : Gateway σ} {id : CallId} {d : Descriptor} {shape : Shape} {phase phase' : Phase}
  {a : Action σ}

theorem met_of_calls {call : Call} (hcall : g.calls[id]? = some call) (hby : a.IsBy id)
    (hafter : (g.step a).phase? id = some phase') :
    g.met id a = g.meets call a ++ call.phase.question phase' := by
  simp [met, hcall, hby, hafter]

/-- A step after which the request is in the phase `phase'`. -/
theorem turns_of_moved (before : Gateway σ) (phase' : Phase) (store : σ) (notices : List Notice)
    (hcall : g.calls[id]? = some ⟨.request d shape, phase⟩) (hby : a.IsBy id)
    (hcalls : before.calls = g.calls) (hlog : before.log = g.log)
    (hstep : g.step a = before.moved id phase' store notices)
    (hturn : Turn g.root d shape phase
      (g.meets ⟨.request d shape, phase⟩ a ++ phase.question phase')
      (notices.reverse.filterMap (Notice.attemptOf? id)) phase') : g.Turns id d shape phase a := by
  have hcall' : before.calls[id]? = some ⟨.request d shape, phase⟩ := by rw [hcalls, hcall]
  have hafter : (g.step a).phase? id = some phase' := by
    rw [hstep]
    exact (phase?_moved hcall' _ _ _ id).trans (if_pos rfl)
  have hafterLog : (g.step a).log = notices ++ g.log := by rw [hstep, moved_log, hlog]
  refine ⟨_, phase', ?_, hafter, attemptsOf_of_log hafterLog id⟩
  rw [met_of_calls hcall hby hafter]
  exact hturn

/-- A step of its own that does not apply. -/
theorem turns_of_idle (hcall : g.calls[id]? = some ⟨.request d shape, phase⟩) (hby : a.IsBy id)
    (hstep : g.step a = g) (hmeets : g.meets ⟨.request d shape, phase⟩ a = []) :
    g.Turns id d shape phase a := by
  have hafter : (g.step a).phase? id = some phase := by rw [hstep, phase?_of_calls hcall]
  refine ⟨[], phase, ?_, hafter, ?_⟩
  · rw [met_of_calls hcall hby hafter, hmeets, phase.question_self]
    exact .stays phase
  · rw [hstep, List.append_nil]

/-! ### The steps of a request -/

theorem turns_openRequest (hcall : g.calls[id]? = some ⟨.request d shape, .opening⟩) :
    g.Turns id d shape .opening (.advance id) := by
  have hstep : g.step (.advance id) = g.openRequest id d := by simp only [step, advance, hcall]
  unfold openRequest at hstep
  rcases hget : Store.get g.store with ⟨outcome, store⟩
  simp only [hget] at hstep
  have hends : ∀ answer, g.step (.advance id) = finish id answer { g with store := store } →
      Turn g.root d shape .opening (g.meets ⟨.request d shape, .opening⟩ (.advance id)) []
        (.ended answer) → g.Turns id d shape .opening (.advance id) := by
    intro answer hstep hturn
    refine turns_of_moved { g with store := store } (.ended answer) store [.finished id answer]
      hcall rfl rfl rfl hstep ?_
    rw [Phase.question_ended, List.append_nil]
    exact hturn
  cases outcome with
  | ok found =>
    cases found with
    | none =>
      apply hends _ hstep
      simp only [meets, meetsAlone, hget]
      exact .findsNone
    | some session =>
      obtain ⟨phase, notices, hattempt, heq⟩ := attempted id d session.accessToken
        (.first session.accessToken) { g with store := store }
      have htries := hattempt.tries shape
      refine turns_of_moved { g with store := store } phase store notices hcall rfl rfl rfl
        (hstep.trans heq) ?_
      simp only [meets, meetsAlone, hget]
      rw [htries.question_eq_nil fun _ => rfl]
      exact .opens htries
  | failed message =>
    apply hends _ hstep
    simp only [meets, meetsAlone, hget]
    exact .cannotOpen message
  | panicked =>
    apply hends _ hstep
    simp only [meets, meetsAlone, hget]
    exact .breaksOpening

theorem turns_readFor {rejected : String} {settled : Nat}
    (hcall : g.calls[id]? = some ⟨.request d shape, .asking rejected (.counted settled)⟩) :
    g.Turns id d shape (.asking rejected (.counted settled)) (.advance id) := by
  have hstep : g.step (.advance id) = g.readFor id rejected settled := by
    simp only [step, advance, hcall]
  unfold readFor at hstep
  rcases hget : Store.get g.store with ⟨outcome, store⟩
  simp only [hget] at hstep
  have hasks : ∀ progress, g.step (.advance id) =
      setPhase id (.asking rejected progress) { g with store := store } →
      g.meets ⟨.request d shape, .asking rejected (.counted settled)⟩ (.advance id) = [] →
      g.Turns id d shape (.asking rejected (.counted settled)) (.advance id) := by
    intro progress hstep hmeets
    refine turns_of_moved { g with store := store } (.asking rejected progress) store [] hcall rfl
      rfl rfl hstep ?_
    rw [hmeets]
    exact .asks rejected (.counted settled) progress
  cases outcome with
  | ok current =>
    apply hasks _ hstep
    simp [meets, meetsAlone, hget]
  | failed message =>
    apply hasks _ hstep
    simp [meets, meetsAlone, hget]
  | panicked =>
    refine turns_of_moved { g with store := store } (.ended .panicked) store
      [.finished id .panicked] hcall rfl rfl rfl hstep ?_
    simp only [meets, meetsAlone, hget]
    exact .breaksAsking rejected (.counted settled)

theorem turns_decideFor {rejected : String} {settled : Nat} {current : Option Session}
    (hcall : g.calls[id]? = some ⟨.request d shape, .asking rejected (.seen settled current)⟩) :
    g.Turns id d shape (.asking rejected (.seen settled current)) (.advance id) := by
  have hstep : g.step (.advance id) = g.decideFor id rejected settled current := by
    simp only [step, advance, hcall]
  have hasks : ∀ progress notices, (g.step (.advance id)).phase? id =
        (g.moved id (.asking rejected progress) g.store notices).phase? id →
      (g.step (.advance id)).log = notices ++ g.log →
      notices.reverse.filterMap (Notice.attemptOf? id) = [] →
      g.Turns id d shape (.asking rejected (.seen settled current)) (.advance id) := by
    intro progress notices hphase hlog hnotices
    have hafter : (g.step (.advance id)).phase? id = some (.asking rejected progress) := by
      rw [hphase, phase?_moved hcall, if_pos rfl]
    refine ⟨[], _, ?_, hafter, ?_⟩
    · rw [met_of_calls hcall (show (Action.advance id).IsBy id from rfl) hafter]
      exact .asks rejected (.seen settled current) progress
    · rw [attemptsOf_of_log hlog, hnotices]
  unfold decideFor at hstep
  cases hdecide : g.coordinator.decide rejected settled current with
  | join =>
    simp only [hdecide] at hstep
    exact hasks (.queued _) [.joined id _ _] (by rw [hstep]; rfl) (by rw [hstep]; rfl) rfl
  | again =>
    simp only [hdecide] at hstep
    exact hasks .entering [] (by rw [hstep]; rfl) (by rw [hstep]; rfl) rfl
  | give result =>
    simp only [hdecide] at hstep
    exact hasks (.told result) [] (by rw [hstep]; rfl) (by rw [hstep]; rfl) rfl
  | start =>
    simp only [hdecide] at hstep
    exact hasks (.queued _) [] (by rw [hstep]; rfl) (by rw [hstep]; rfl) rfl

theorem turns_useResult {rejected : String} {result : Except RefreshError String}
    (hcall : g.calls[id]? = some ⟨.request d shape, .asking rejected (.told result)⟩) :
    g.Turns id d shape (.asking rejected (.told result)) (.advance id) := by
  have hstep : g.step (.advance id) = g.useResult id (.request d shape) rejected result := by
    simp only [step, advance, hcall]
  cases result with
  | ok token =>
    obtain ⟨phase, notices, hattempt, heq⟩ := attempted id d token (.second token) g
    have htries := hattempt.tries shape
    refine turns_of_moved g phase g.store notices hcall rfl rfl rfl (hstep.trans heq) ?_
    rw [htries.question_eq_nil fun _ => rfl]
    exact .retries htries
  | error e =>
    refine turns_of_moved g (.expiring rejected e.message) g.store [] hcall rfl rfl rfl hstep ?_
    exact .gives rejected _ e

theorem turns_expireSession {token reason : String}
    (hcall : g.calls[id]? = some ⟨.request d shape, .expiring token reason⟩) :
    g.Turns id d shape (.expiring token reason) (.advance id) := by
  obtain ⟨answer, rfl, hstep⟩ := step_of_expiring hcall
  refine turns_of_moved (g.invalidate token reason).2 _ _ _ hcall rfl rfl rfl hstep ?_
  simp only [meets, meetsAlone]
  split
  · exact .closes .breaksDown
  · exact .closes .ends

theorem turns_advance (hcall : g.calls[id]? = some ⟨.request d shape, phase⟩) :
    g.Turns id d shape phase (.advance id) := by
  cases phase with
  | opening => exact turns_openRequest hcall
  | asking rejected progress =>
    cases progress with
    | entering =>
      have hstep : g.step (.advance id) =
          g.setPhase id (.asking rejected (.counted g.coordinator.settled)) := by
        simp only [step, advance, hcall]
      exact turns_of_moved g _ g.store [] hcall rfl rfl rfl hstep (.asks rejected _ _)
    | counted settled => exact turns_readFor hcall
    | seen settled current => exact turns_decideFor hcall
    | queued cycle => exact turns_of_idle hcall rfl (by simp only [step, advance, hcall]) rfl
    | told result => exact turns_useResult hcall
  | expiring token reason => exact turns_expireSession hcall
  | _ => exact turns_of_idle hcall rfl (by simp only [step, advance, hcall]) rfl

theorem turns_deliver (hcall : g.calls[id]? = some ⟨.request d shape, phase⟩)
    (delivery : Delivery) : g.Turns id d shape phase (.deliver id delivery) := by
  have htakes : ∀ token request refused, phase.attempt? = some (token, request) →
      g.step (.deliver id delivery) = g.takeAnswer id shape request refused delivery →
      (∀ response, response.isUnauthorized = true → Turn g.root d shape phase
        (.answered (.ok response) :: phase.question refused) [] refused) →
      g.Turns id d shape phase (.deliver id delivery) := by
    intro token request refused hattempt hstep hrefused
    unfold takeAnswer at hstep
    have hmeets : g.meets ⟨.request d shape, phase⟩ (.deliver id delivery) =
        [.answered (delivery.response? request.url)] := by
      simp only [meets, hattempt]
    cases hresponse : delivery.response? request.url with
    | error e =>
      simp only [hresponse] at hstep
      refine turns_of_moved g (.ended (.payload (.error e.toGatewayError))) g.store
        [.finished id _] hcall rfl rfl rfl hstep ?_
      rw [hmeets, hresponse, Phase.question_ended]
      exact .isCutOff hattempt e
    | ok response =>
      simp only [hresponse] at hstep
      by_cases hunauthorized : response.isUnauthorized = true
      · rw [if_pos hunauthorized] at hstep
        refine turns_of_moved g refused g.store [.answered id response.status] hcall rfl rfl rfl
          hstep ?_
        rw [hmeets, hresponse]
        exact hrefused response hunauthorized
      · rw [if_neg hunauthorized] at hstep
        refine turns_of_moved g (.ended (.payload (response.classify shape.decode))) g.store
          [.finished id _, .answered id response.status] hcall rfl rfl rfl hstep ?_
        rw [hmeets, hresponse, Phase.question_ended]
        exact .isAnswered hattempt (by simpa using hunauthorized)
  cases phase with
  | first token request =>
    exact htakes token request (.asking token .entering) rfl (by simp only [step, deliver, hcall])
      fun response hrefused => .isRejected hrefused
  | second token request =>
    exact htakes token request (.expiring token refusedAgain) rfl
      (by simp only [step, deliver, hcall]) fun response hrefused => .isRejectedAgain hrefused
  | _ => exact turns_of_idle hcall rfl (by simp only [step, deliver, hcall]) rfl

theorem turns_own (hcall : g.calls[id]? = some ⟨.request d shape, phase⟩) (hby : a.IsBy id) :
    g.Turns id d shape phase a := by
  cases a with
  | advance other =>
    obtain rfl : other = id := hby
    exact turns_advance hcall
  | deliver other delivery =>
    obtain rfl : other = id := hby
    exact turns_deliver hcall delivery
  | expire other =>
    obtain rfl : other = id := hby
    by_cases hwaits : Call.isWaiting ⟨.request d shape, phase⟩ = true
    · have hstep : g.step (.expire other) = g.fail other (.timeout d.timeoutMs) := by
        simp only [step, expire, hcall, if_pos hwaits]
      refine turns_of_moved g (.ended (.payload (.error (.timeout d.timeoutMs)))) g.store
        [.finished other _] hcall rfl rfl rfl hstep ?_
      simp only [meets, if_pos hwaits, Phase.question_ended]
      exact .timesOut hwaits
    · exact turns_of_idle hcall rfl (by simp only [step, expire, hcall, if_neg hwaits])
        (by simp only [meets, if_neg hwaits])
  | abandon other =>
    obtain rfl : other = id := hby
    by_cases hwaits : Call.isWaiting ⟨.request d shape, phase⟩ = true
    · have hstep : g.step (.abandon other) = g.setPhase other .abandoned := by
        simp only [step, abandon, hcall, if_pos hwaits]
      refine turns_of_moved g .abandoned g.store [] hcall rfl rfl rfl hstep ?_
      simp only [meets, if_pos hwaits, Phase.question_abandoned]
      exact .isGivenUp hwaits
    · exact turns_of_idle hcall rfl (by simp only [step, abandon, hcall, if_neg hwaits])
        (by simp only [meets, if_neg hwaits])
  | _ => exact hby.elim

end Own

/-! ### The steps of the others -/

theorem Attempted.attemptOf?_eq_none {root : ApiRoot} {walker id : CallId} {d : Descriptor}
    {token : String} {next : Request → Phase} {phase : Phase} {notices : List Notice}
    (h : Attempted root walker d token next phase notices) (hother : id ≠ walker) :
    notices.reverse.filterMap (Notice.attemptOf? id) = [] := by
  cases h with
  | sent => simp [Notice.attemptOf?, Ne.symm hother]
  | unbuilt => rfl
  | unaddressed => rfl

/-- A caller that goes on takes a step of its own. -/
theorem Walk.isBy {g : Gateway σ} {id : CallId} {call : Call} {a : Action σ} {phase : Phase}
    {store : σ} {notices : List Notice} (h : Walk g id call a phase store notices) : a.IsBy id := by
  cases h <;> rfl

/-- Walking sends attempts for nobody else. -/
theorem Walk.attemptOf?_eq_none {g : Gateway σ} {walker id : CallId} {call : Call} {a : Action σ}
    {phase : Phase} {store : σ} {notices : List Notice}
    (h : Walk g walker call a phase store notices) (hother : id ≠ walker) :
    notices.reverse.filterMap (Notice.attemptOf? id) = [] := by
  cases h with
  | opens _ hattempt => exact hattempt.attemptOf?_eq_none hother
  | retries hattempt => exact hattempt.attemptOf?_eq_none hother
  | _ => rfl

/-- A cycle that goes on sends attempts for nobody. -/
theorem Work.attemptOf?_eq_none {g : Gateway σ} {cycle : Cycle} {a : Action σ} {stage : Stage}
    {store : σ} {notices : List Notice} (h : Work g cycle a stage store notices) (id : CallId) :
    notices.reverse.filterMap (Notice.attemptOf? id) = [] := by
  cases h <;> rfl

/-- Those who take a step of their own send no attempt for another caller, and tell it at most the
result of the cycle that it waits for. -/
theorem Move.of_others {g g' : Gateway σ} {a : Action σ} (h : Move g a g') {id : CallId}
    (hby : ¬ a.IsBy id) {phase : Phase} (hphase : g.phase? id = some phase) :
    (g'.phase? id = some phase ∨ ∃ result, g'.phase? id = some (phase.hear result)) ∧
      g'.attemptsOf id = g.attemptsOf id := by
  have hattempts : ∀ notices, g'.log = notices ++ g.log →
      notices.reverse.filterMap (Notice.attemptOf? id) = [] →
      g'.attemptsOf id = g.attemptsOf id := by
    intro notices hlog hnone
    rw [attemptsOf_of_log hlog, hnone, List.append_nil]
  cases h with
  | idles => exact ⟨.inl hphase, rfl⟩
  | comes purpose =>
    have hne : id ≠ g.calls.length := by
      rintro rfl
      simp [phase?] at hphase
    refine ⟨.inl ?_, rfl⟩
    rw [phase?_start, if_neg hne, hphase]
  | @walks _ walker _ _ _ notices hcall hwalk =>
    have hne : id ≠ walker := by
      rintro rfl
      exact hby hwalk.isBy
    refine ⟨.inl ?_, hattempts notices rfl (hwalk.attemptOf?_eq_none hne)⟩
    rw [phase?_moved hcall, if_neg hne, hphase]
  | @joins joiner _ _ _ _ flight hcall hflight =>
    have hne : id ≠ joiner := fun heq => hby heq.symm
    refine ⟨.inl ?_, hattempts [.joined joiner flight.cycle (flight.queue.length + 1)] rfl rfl⟩
    rw [phase?_coordinatedBy, phase?_moved hcall, if_neg hne, hphase]
  | @begins starter _ _ _ hcall =>
    have hne : id ≠ starter := fun heq => hby heq.symm
    refine ⟨.inl ?_, hattempts [] rfl rfl⟩
    rw [phase?_coordinatedBy, phase?_moved hcall, if_neg hne, hphase]
  | @expires ender _ token reason answer hcall =>
    have hne : id ≠ ender := fun heq => hby heq.symm
    refine ⟨.inl ?_, hattempts [.finished ender answer] rfl rfl⟩
    rw [phase?_moved (by exact hcall), if_neg hne]
    exact hphase
  | works hcycle hwork => exact ⟨.inl hphase, hattempts _ rfl (hwork.attemptOf?_eq_none id)⟩
  | fails => exact ⟨.inl hphase, rfl⟩
  | @settles cycle result =>
    refine ⟨?_, hattempts [.settled cycle.number g.coordinator.queue result]
      (settle_log cycle.number result g) rfl⟩
    rw [phase?_settle, hphase]
    split
    · exact .inr ⟨result, rfl⟩
    · exact .inl rfl
  | touches htouch =>
    obtain ⟨-, -, hcalls, hlog⟩ := htouch.frame
    refine ⟨.inl ?_, hattempts [] hlog rfl⟩
    rw [phase?, hcalls]
    exact hphase

omit [Store σ] in
theorem met_of_others [Store σ] {g : Gateway σ} {a : Action σ} {id : CallId} (hby : ¬ a.IsBy id) :
    g.met id a = [] := by
  unfold met
  split
  · rw [if_neg hby]
  · rfl

/-- Every step of a run is a turn of every request. -/
theorem turns_step {g : Gateway σ} {id : CallId} {d : Descriptor} {shape : Shape} {phase : Phase}
    (hcall : g.calls[id]? = some ⟨.request d shape, phase⟩) (a : Action σ) :
    g.Turns id d shape phase a := by
  by_cases hby : a.IsBy id
  · exact turns_own hcall hby
  · obtain ⟨hafter, hattempts⟩ := (move_step g a).of_others hby (phase?_of_calls hcall)
    have hsent : (g.step a).attemptsOf id = g.attemptsOf id ++ [] := by
      rw [hattempts, List.append_nil]
    rw [Turns, met_of_others hby]
    rcases hafter with hafter | ⟨result, hafter⟩
    · exact ⟨[], phase, .stays phase, hafter, hsent⟩
    · refine ⟨[], phase.hear result, ?_, hafter, hsent⟩
      unfold Phase.hear
      split
      · exact .asks _ _ _
      · exact .stays _

end Gateway

end BearerClient
