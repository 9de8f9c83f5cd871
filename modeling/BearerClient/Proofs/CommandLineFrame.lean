import BearerClient.Proofs.DiskRows
import BearerClient.Proofs.Passages

/-!
# What a command line leaves alone

A run of the program works on a stored session that the user needs again, so it must not be lost
over anything that goes wrong on the way. Whatever fails before a command is carried out leaves the
rows of the session database as they were and sends nothing, and so does a command that shows the
session. A request stores nothing before its first attempt has been refused: until then it only
reads the session, and no cycle is started (`Exchange.Unrefused`). So anything else that becomes of
the attempt leaves the rows as they were.

The main statement is `command_line_frame`.
-/

namespace BearerClient

namespace OpenDatabase

theorem get_snd (s : OpenDatabase) : (Store.get s).2 = s := by
  simp only [Store.get]
  cases s.database.session with
  | ok session => rfl
  | error message => rfl

/-- Storing a session makes the change of the database, or fails and changes nothing. -/
theorem set_cases (session : Session) (s : OpenDatabase) :
    (∃ db, s.database.replaceSession s.now session = .ok db ∧
      Store.set session s = (.ok (), { s with database := db })) ∨
    ∃ message, Store.set session s = (.failed message, s) := by
  simp only [Store.set]
  by_cases hwritable : s.isWritable = true
  · rw [if_pos hwritable]
    exact commit_cases (Database.replaceSession s.now session) s
  · rw [if_neg hwritable]
    exact .inr ⟨_, rfl⟩

end OpenDatabase

namespace Gateway

variable {σ : Type}

/-- A step that neither brings anyone to the gateway nor comes from outside. -/
def Action.IsInternal : Action σ → Prop
  | .advance _ | .advanceCycle _ | .deliver _ _ | .deliverRefresh _ _ | .expire _
  | .expireRefresh _ => True
  | _ => False

variable {g : Gateway σ} {id : CallId} {d : Descriptor} {shape : Shape}

/-- The answer to a first attempt ends the call, unless the token is refused. -/
theorem deliver_first {token : String} {request : Request}
    (hcall : g.calls[id]? = some ⟨.request d shape, .first token request⟩) (delivery : Delivery) :
    (∃ answer notices, g.deliver id delivery = g.moved id (.ended answer) g.store notices) ∨
      ∃ r notices, delivery = .response r ∧ r.status = 401 ∧
        g.deliver id delivery = g.moved id (.asking token .entering) g.store notices := by
  simp only [deliver, hcall, takeAnswer]
  cases hresponse : delivery.response? request.url with
  | error e => exact .inl ⟨_, [_], rfl⟩
  | ok r =>
    dsimp only
    split
    · rename_i hrefused
      have hdelivery : delivery = .response r := by
        cases delivery with
        | response r' => rw [Except.ok.inj hresponse]
        | _ => cases hresponse
      exact .inr ⟨r, [_], hdelivery, of_decide_eq_true hrefused, rfl⟩
    · exact .inl ⟨_, [_, _], rfl⟩

/-- A wait for the answer to an attempt that lasts too long ends the call. -/
theorem expire_first {token : String} {request : Request}
    (hcall : g.calls[id]? = some ⟨.request d shape, .first token request⟩) :
    ∃ answer notices, g.expire id = g.moved id (.ended answer) g.store notices := by
  simp only [expire, hcall, Call.isWaiting, if_true]
  exact ⟨_, [_], rfl⟩

variable [Store σ]

/-- A request that opens has its answer, or waits for the answer to its first attempt. -/
theorem advance_opening
    (hcall : g.calls[id]? = some ⟨.request d shape, .opening⟩) :
    ∃ phase notices, g.advance id = g.moved id phase (Store.get g.store).2 notices ∧
      ((∃ answer, phase = .ended answer) ∨
        ∃ token request, phase = .first token request ∧
          notices = [.attempt id token request]) := by
  simp only [advance, hcall, openRequest]
  rcases hget : Store.get g.store with ⟨outcome, store⟩
  cases outcome with
  | failed message => exact ⟨_, [_], rfl, .inl ⟨_, rfl⟩⟩
  | panicked => exact ⟨_, [_], rfl, .inl ⟨_, rfl⟩⟩
  | ok current =>
    cases current with
    | none => exact ⟨_, [_], rfl, .inl ⟨_, rfl⟩⟩
    | some session =>
      obtain ⟨phase, notices, hattempt, heq⟩ := attempted id d session.accessToken
        (.first session.accessToken) { g with store := store }
      refine ⟨phase, notices, heq, ?_⟩
      cases hattempt with
      | sent => exact .inr ⟨_, _, rfl, rfl⟩
      | unbuilt => exact .inl ⟨_, rfl⟩
      | unaddressed => exact .inl ⟨_, rfl⟩

end Gateway

namespace Program

namespace Exchange

open Gateway

/-! ## The steps of a request -/

/-- A step of a request is one step of its gateway at most, and one from inside; the backend goes on
listening where it does. -/
theorem step_eq_run (settings : Settings) (timeoutMs : Nat) (x : Exchange) :
    (x.step settings timeoutMs).backend.listener = x.backend.listener ∧
      ∃ actions : List (Action OpenDatabase), (∀ a ∈ actions, a.IsInternal) ∧
        (x.step settings timeoutMs).gateway = x.gateway.run actions := by
  have hone : ∀ a : Action OpenDatabase, a.IsInternal → ∀ b ∈ [a], b.IsInternal := by
    intro a ha b hmem
    rw [List.mem_singleton.mp hmem]
    exact ha
  unfold step
  split
  · rename_i cycle _ _
    split
    · unfold answerRefresh
      split
      · exact ⟨rfl, [.deliverRefresh cycle.number .refused], hone _ trivial, rfl⟩
      · refine ⟨rfl, ?_⟩
        dsimp only
        split
        · rename_i delivery _
          exact ⟨[.deliverRefresh cycle.number delivery], hone _ trivial, rfl⟩
        · split
          · exact ⟨[.expireRefresh cycle.number], hone _ trivial, rfl⟩
          · exact ⟨[.expire 0], hone _ trivial, rfl⟩
    · exact ⟨rfl, [.advanceCycle cycle.number], hone _ trivial, rfl⟩
  · split
    · unfold answerAttempt
      split
      · exact ⟨rfl, [.deliver 0 .refused], hone _ trivial, rfl⟩
      · refine ⟨rfl, ?_⟩
        dsimp only
        split
        · rename_i delivery _
          exact ⟨[.deliver 0 delivery], hone _ trivial, rfl⟩
        · exact ⟨[.expire 0], hone _ trivial, rfl⟩
    · exact ⟨rfl, [.advance 0], hone _ trivial, rfl⟩
  · exact ⟨rfl, [], by simp, rfl⟩

theorem runWithin_eq_run (settings : Settings) (timeoutMs steps : Nat) (x : Exchange) :
    (x.runWithin settings timeoutMs steps).backend.listener = x.backend.listener ∧
      ∃ actions : List (Action OpenDatabase), (∀ a ∈ actions, a.IsInternal) ∧
        (x.runWithin settings timeoutMs steps).gateway = x.gateway.run actions := by
  induction steps generalizing x with
  | zero => exact ⟨rfl, [], by simp, rfl⟩
  | succ steps ih =>
    unfold runWithin
    split
    · exact ⟨rfl, [], by simp, rfl⟩
    · obtain ⟨hlistener, actions, hactions, hrun⟩ := x.step_eq_run settings timeoutMs
      obtain ⟨hlistener', actions', hactions', hrun'⟩ := ih (x.step settings timeoutMs)
      refine ⟨hlistener'.trans hlistener, actions ++ actions', ?_, ?_⟩
      · intro a hmem
        rcases List.mem_append.mp hmem with hmem | hmem
        · exact hactions a hmem
        · exact hactions' a hmem
      · rw [hrun', hrun, run_append]

/-- What has happened stays in the log. -/
theorem mem_log_runWithin {settings : Settings} {timeoutMs : Nat} (steps : Nat) {x : Exchange}
    {notice : Notice} (h : notice ∈ x.gateway.log) :
    notice ∈ (x.runWithin settings timeoutMs steps).gateway.log := by
  obtain ⟨-, actions, -, hrun⟩ := x.runWithin_eq_run settings timeoutMs steps
  rw [hrun]
  exact run_keeps (P := fun g => notice ∈ g.log) (fun _ _ _ hg hmove => hmove.mem_log hg) h actions

/-- The attempts that reach the backend are among the requests that have arrived. -/
theorem mem_sent {x : Exchange} {id : CallId} {token : String} {request : Request}
    (hmem : .attempt id token request ∈ x.gateway.log)
    (hreaches : request.url.reaches x.backend.listener = true) : ("api", request) ∈ x.sent := by
  unfold sent
  refine List.mem_append_left _ (List.mem_filter.mpr ⟨List.mem_filter.mpr ⟨?_, hreaches⟩, rfl⟩)
  exact List.mem_filterMap.mpr ⟨_, List.mem_reverse.mpr hmem, rfl⟩

/-! ## Requests that are not refused -/

/-- The first attempt of a request has been answered with 401, by the first reply of the backend
that the request started with. -/
def Refused (backend : Backend) (x : Exchange) : Prop :=
  ∃ token request r, .attempt 0 token request ∈ x.gateway.log ∧
    request.url.reaches backend.listener = true ∧
    (backend.replies.headD Backend.noReply).delivery? request.method = some (.response r) ∧
    r.status = 401

/-- How far a request has come whose token was not refused: it opens, or it waits for the answer to
its first attempt, with a backend that has not answered anything, or it has its answer. -/
inductive Early (backend : Backend) (x : Exchange) : Phase → Prop where
  /-- The request opens. -/
  | opens (hbackend : x.backend = backend) : Early backend x .opening
  /-- The request waits for the answer to its first attempt. -/
  | waits {token : String} {request : Request} (hbackend : x.backend = backend)
      (hsent : .attempt 0 token request ∈ x.gateway.log) : Early backend x (.first token request)
  /-- The request has its answer. -/
  | ends (answer : Answer) : Early backend x (.ended answer)

/-- A request whose token was not refused: nothing was stored, and no cycle was started. -/
structure Unrefused (database : OpenDatabase) (backend : Backend) (x : Exchange) : Prop where
  /-- The database is as it was. -/
  store : x.gateway.store = database
  /-- There is no cycle. -/
  cycles : x.gateway.coordinator.cycles = []
  /-- There is one call, and it has not come far. -/
  early : ∃ d shape phase, x.gateway.calls = [⟨.request d shape, phase⟩] ∧ Early backend x phase

variable {database : OpenDatabase} {backend : Backend} {x : Exchange}

/-- A request stays one that was not refused if its call goes on to one of the early phases. -/
theorem Unrefused.moved (h : Unrefused database backend x) {phase : Phase}
    {notices : List Notice} {after : Backend}
    (hearly : Early backend ⟨x.gateway.moved 0 phase x.gateway.store notices, after⟩ phase) :
    Unrefused database backend ⟨x.gateway.moved 0 phase x.gateway.store notices, after⟩ := by
  obtain ⟨d, shape, before, hcalls, -⟩ := h.early
  refine ⟨h.store, h.cycles, d, shape, phase, ?_, hearly⟩
  rw [moved_calls, hcalls]
  rfl

/-- A step of a request leaves everything as it is, or the token is refused in it. -/
theorem Unrefused.step (h : Unrefused database backend x) (hopen : x.answer? = none)
    (settings : Settings) (timeoutMs : Nat) :
    Unrefused database backend (x.step settings timeoutMs) ∨
      Refused backend (x.step settings timeoutMs) := by
  obtain ⟨d, shape, phase, hcalls, hearly⟩ := h.early
  have hcall : x.gateway.calls[0]? = some ⟨.request d shape, phase⟩ := by rw [hcalls]; rfl
  cases hearly with
  | opens hbackend =>
    obtain ⟨phase, notices, hadvance, hphase⟩ := advance_opening hcall
    have hstep : x.step settings timeoutMs = { x with gateway := x.gateway.advance 0 } := by
      simp only [Exchange.step, h.cycles, hcalls, Call.outstanding?]
    rw [hstep, hadvance, OpenDatabase.get_snd]
    left
    apply h.moved
    rcases hphase with ⟨answer, rfl⟩ | ⟨token, request, rfl, rfl⟩
    · exact .ends answer
    · exact .waits hbackend (by simp)
  -- a complete answer of status 401 is the one way on that does not end the call
  | @waits token request hbackend hsent =>
    have hstep : x.step settings timeoutMs = x.answerAttempt request := by
      simp only [Exchange.step, h.cycles, hcalls, Call.outstanding?]
    rw [hstep]
    unfold answerAttempt
    split
    · rcases deliver_first hcall .refused with
        ⟨answer, notices, hdeliver⟩ | ⟨r, notices, hresponse, -⟩
      · rw [hdeliver]
        exact .inl (h.moved (.ends answer))
      · cases hresponse
    · rename_i hreaches
      dsimp only
      split
      · rename_i delivery hdelivery
        rcases deliver_first hcall delivery with
          ⟨answer, notices, hdeliver⟩ | ⟨r, notices, rfl, hstatus, hdeliver⟩
        · rw [hdeliver]
          exact .inl (h.moved (.ends answer))
        · rw [hdeliver]
          right
          refine ⟨token, request, r, ?_, ?_, ?_, hstatus⟩
          · rw [moved_log]
            exact List.mem_append_right _ hsent
          · simpa [hbackend] using hreaches
          · rw [← hbackend]
            exact hdelivery
      · obtain ⟨answer, notices, hexpire⟩ := expire_first hcall
        rw [hexpire]
        exact .inl (h.moved (.ends answer))
  | ends answer =>
    rw [answer?, hcalls] at hopen
    cases hopen

/-- A request leaves everything as it is, or its token is refused. -/
theorem Unrefused.runWithin (h : Unrefused database backend x) (settings : Settings)
    (timeoutMs steps : Nat) :
    Unrefused database backend (x.runWithin settings timeoutMs steps) ∨
      Refused backend (x.runWithin settings timeoutMs steps) := by
  induction steps generalizing x with
  | zero => exact .inl h
  | succ steps ih =>
    unfold Exchange.runWithin
    split
    · exact .inl h
    · rename_i hopen
      rcases h.step (by simpa using hopen) settings timeoutMs with
        hstep | ⟨token, request, r, hsent, hrest⟩
      · exact ih hstep
      · exact .inr ⟨token, request, r, mem_log_runWithin steps hsent, hrest⟩

end Exchange

/-! ## Commands -/

/-- A request leaves the database as it is, or its first attempt has arrived at the backend and was
answered with 401. -/
theorem request_cases (settings : Settings) (d : Descriptor) (database : OpenDatabase)
    (backend : Backend) :
    (request settings d database backend).database = database ∨
      ∃ sent r, ("api", sent) ∈ (request settings d database backend).sent ∧
        (backend.replies.headD Backend.noReply).delivery? sent.method = some (.response r) ∧
        r.status = 401 := by
  let x : Exchange := ⟨(gateway settings database).start (.request d .value), backend⟩
  have hx : Exchange.Unrefused database backend x := ⟨rfl, rfl, d, .value, .opening, rfl, .opens rfl⟩
  have hlistener := (x.runWithin_eq_run settings d.timeoutMs Exchange.stepBound).1
  rcases hx.runWithin settings d.timeoutMs Exchange.stepBound with
    hunrefused | ⟨token, sent, r, hsent, hreaches, hreply, hstatus⟩
  · exact .inl hunrefused.store
  · have hreaches' := (congrArg (sent.url.reaches ·) hlistener).trans hreaches
    exact .inr ⟨sent, r, Exchange.mem_sent hsent hreaches', hreply, hstatus⟩

/-- A session whose token is refused is lost if it has no refresh token; a failure of the backend does
not touch it. -/
example :
    let settings : Settings := ⟨"http://[::1]", "s.db", 1, 1, 1, 1, "info"⟩
    let database : OpenDatabase := ⟨⟨some [⟨"access_token", .text "A1", "1"⟩], [], []⟩, "2", true⟩
    let backend (status : Nat) : Backend :=
      ⟨some ⟨"http", .ipv6 [0, 0, 0, 0, 0, 0, 0, 1], some 80⟩, [⟨status, .empty, .whole⟩], []⟩
    let d : Descriptor := ⟨.get, "/orders", [], none, 1⟩
    (request settings d database (backend 401)).database.database.rows = some [] ∧
      (request settings d database (backend 500)).database = database := by
  decide +kernel

theorem storeSession_snd (settings : Settings) (s : Session) (database : OpenDatabase) :
    (storeSession settings s database).2 = (Store.set s database).2 := rfl

theorem storeSession_fst (settings : Settings) (s : Session) (database : OpenDatabase) :
    (storeSession settings s database).1 =
      match (Store.set s database).1 with
      | .ok () => succeed "✅ Session stored\n"
      | .failed message => fail (.ofGatewayError (.internal message))
      | .panicked => ⟨101, "", ""⟩ := rfl

/-- An import that fails leaves the database as it is. -/
theorem execute_import (settings : Settings) (access refresh tenant : Option String)
    (database : OpenDatabase) (backend : Backend) :
    let effect := execute settings (.importSession access refresh tenant) database backend
    effect.sent = [] ∧ (effect.output.code ≠ 0 → effect.database = database) ∧
      ∀ failure, importedSession access refresh tenant = .error failure →
        effect.output.code ≠ 0 := by
  intro effect
  cases hsession : importedSession access refresh tenant with
  | error failure =>
    have heffect : effect = ⟨fail failure, database, backend, []⟩ := by
      simp only [effect, execute, hsession]
    rw [heffect]
    exact ⟨rfl, fun _ => rfl, fun _ _ => Nat.one_ne_zero⟩
  | ok session =>
    have heffect : effect = ⟨(storeSession settings session database).1,
        (storeSession settings session database).2, backend, []⟩ := by
      simp only [effect, execute, hsession]
    rw [heffect]
    refine ⟨rfl, ?_, fun _ h => by cases h⟩
    intro hcode
    rw [storeSession_snd]
    rcases OpenDatabase.set_cases session database with ⟨db, -, hset⟩ | ⟨message, hset⟩
    · rw [storeSession_fst, hset] at hcode
      exact absurd rfl hcode
    · rw [hset]

namespace Machine

open CommandLine (Command Environment)

variable {env : Environment} {arguments : List String} {m : Machine} {settings : Settings}
  {command : Command}

/-- A command that leaves the open database as it is leaves all rows as they are. -/
theorem keepsRows_of_opened {disk : Disk} {opened : Opened} {database : OpenDatabase}
    (backend : Backend) {path : String}
    (hopen : m.disk.openDatabase m.here path = (disk, .ok opened))
    (hsame : database = m.openedDatabase disk opened) :
    KeepsRows path m { m with disk := storedDisk disk database opened, backend := backend } := by
  apply keepsRows_of_openDatabase
  rw [hopen]
  intro other
  cases opened with
  | transient => rfl
  | «at» location isWritable =>
    cases isWritable with
    | false => rfl
    | true =>
      obtain ⟨-, hdatabase⟩ := Disk.openDatabase_at hopen
      refine Disk.rowsAt_put ?_ other
      rw [hsame, Disk.rowsAt, openedDatabase, hdatabase]
      rfl

/-- A run whose command line is in order cannot open its session database and does nothing more, or
carries out its command, and leaves all rows as they are if the command leaves the database as it
is. -/
theorem run_cases (hplan : plan env arguments = .ok (settings, command)) :
    let result := run env arguments m
    let opening := m.disk.openDatabase m.here settings.sessionDbFile
    ((∃ disk e, opening = (disk, .error e)) ∧ result.1.code ≠ 0 ∧ result.2.1 = [] ∧
      KeepsRows settings.sessionDbFile m result.2.2) ∨
    ∃ disk opened, opening = (disk, .ok opened) ∧
      let database := m.openedDatabase disk opened
      let effect := execute settings command database m.backend
      result.1 = effect.output ∧ result.2.1 = effect.sent ∧
        (effect.database = database → KeepsRows settings.sessionDbFile m result.2.2) := by
  intro result opening
  rcases hopen : opening with ⟨disk, outcome⟩
  cases outcome with
  | error e =>
    have hresult : result = _ := run_of_open_error hplan hopen
    refine .inl ⟨⟨disk, e, rfl⟩, ?_, ?_, ?_⟩
    · rw [hresult]
      exact Nat.one_ne_zero
    · rw [hresult]
    · rw [hresult]
      exact keepsRows_of_openDatabase m.backend fun other =>
        (congrArg (fun opening => opening.1.rowsAt other) hopen).symm
  | ok opened =>
    have hresult : result = _ := run_of_opened hplan hopen
    refine .inr ⟨disk, opened, rfl, ?_, ?_, ?_⟩
    · rw [hresult]
    · rw [hresult]
    · intro hsame
      rw [hresult]
      exact keepsRows_of_opened _ hopen hsame

end Machine

/-- What a run of the program leaves alone, for every command line, every environment and every
disk:

* a command line that is not in order, or asks for what cannot be configured, changes nothing and
  sends nothing;
* if the session database cannot be opened, then nothing is sent and no row is changed;
* a request that cannot be described is not sent and changes no row; one that is sent changes a row
  only if it has arrived at the backend and its first attempt was answered there with a complete
  response of status 401;
* an import sends nothing, and one that fails, because of what is given or because it cannot be
  stored, changes no row;
* showing the session sends nothing and changes no row. -/
theorem command_line_frame (env : CommandLine.Environment) (arguments : List String)
    (m : Machine) :
    let result := Machine.run env arguments m
    (∀ output, plan env arguments = .error output → result = (output, [], m)) ∧
    ∀ settings command, plan env arguments = .ok (settings, command) →
      let keepsRows := Machine.KeepsRows settings.sessionDbFile m result.2.2
      (∀ disk e, m.disk.openDatabase m.here settings.sessionDbFile = (disk, .error e) →
        result.2.1 = [] ∧ keepsRows) ∧
      (∀ method path data headers timeoutMs,
        command = .request method path data headers timeoutMs →
          (∀ failure, describe method path data headers
              (timeoutMs.getD settings.requestTimeoutMs) = .error failure →
            result.2.1 = [] ∧ keepsRows) ∧
          (keepsRows ∨ ∃ request r, ("api", request) ∈ result.2.1 ∧
            (m.backend.replies.headD Backend.noReply).delivery? request.method =
              some (.response r) ∧ r.status = 401)) ∧
      (∀ access refresh tenant, command = .importSession access refresh tenant →
        result.2.1 = [] ∧ (result.1.code ≠ 0 → keepsRows) ∧
          ∀ failure, importedSession access refresh tenant = .error failure →
            result.1.code ≠ 0) ∧
      (command = .showSession → result.2.1 = [] ∧ keepsRows) := by
  intro result
  refine ⟨fun output hplan => Machine.run_of_plan_error hplan, ?_⟩
  intro settings command hplan keepsRows
  rcases Machine.run_cases (m := m) hplan with
    ⟨hopen, hcode, hsent, hkeeps⟩ | ⟨disk, opened, hopen, hcode, hsent, hkeeps⟩
  · refine ⟨fun _ _ _ => ⟨hsent, hkeeps⟩, ?_, ?_, fun _ => ⟨hsent, hkeeps⟩⟩
    · intro method path data headers timeoutMs _
      exact ⟨fun _ _ => ⟨hsent, hkeeps⟩, .inl hkeeps⟩
    · intro access refresh tenant _
      exact ⟨hsent, fun _ => hkeeps, fun _ _ => hcode⟩
  · refine ⟨?_, ?_, ?_, ?_⟩
    · intro disk' e hfailed
      rw [hopen] at hfailed
      cases hfailed
    · rintro method path data headers timeoutMs rfl
      cases hdescribe : describe method path data headers
        (timeoutMs.getD settings.requestTimeoutMs) with
      | error failure =>
        simp only [execute, hdescribe] at hsent hkeeps
        exact ⟨fun _ _ => ⟨hsent, hkeeps trivial⟩, .inl (hkeeps trivial)⟩
      | ok d =>
        simp only [execute, hdescribe] at hsent hkeeps
        refine ⟨fun _ h => (by cases h), ?_⟩
        rcases request_cases settings d (m.openedDatabase disk opened) m.backend with
          hsame | ⟨request, r, hmem, hreply, hstatus⟩
        · exact .inl (hkeeps hsame)
        · exact .inr ⟨request, r, hsent ▸ hmem, hreply, hstatus⟩
    · rintro access refresh tenant rfl
      obtain ⟨hnothing, hsame, hfails⟩ := execute_import settings access refresh tenant
        (m.openedDatabase disk opened) m.backend
      refine ⟨hsent.trans hnothing, ?_, ?_⟩
      · intro hfailed
        rw [hcode] at hfailed
        exact hkeeps (hsame hfailed)
      · intro failure hfailure
        rw [hcode]
        exact hfails failure hfailure
    · rintro rfl
      exact ⟨hsent, hkeeps rfl⟩

end Program

end BearerClient
