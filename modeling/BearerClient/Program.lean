import BearerClient.CommandLine.DotEnv
import BearerClient.Disk.Opening
import BearerClient.Program.Exchange
import BearerClient.Program.Plan

/-!
# The program

One run of the program: a command line is read and checked, the session database is opened, and the
command is carried out.
-/

namespace BearerClient

open CommandLine (Command Environment)

namespace Program

/-! ## Commands -/

/-- The result of a command: its output, the database and the backend afterwards, and the requests
that arrived there. -/
structure Effect where
  /-- The output. -/
  output : Output
  /-- The database. -/
  database : OpenDatabase
  /-- The backend. -/
  backend : Backend
  /-- The requests that arrived, by kind. -/
  sent : List (String × Request)

/-- What is told to a user who has to log in. -/
def loginHint (e : GatewayError) : String :=
  e.message ++ "\nLog in again, then run: " ++ programName ++ " session import\n"

/-- What is printed about the answer to a request. -/
def printAnswer : Option Answer → Output
  | some (.payload (.ok (.value value))) => succeed (value.pretty ++ "\n")
  | some (.payload (.error e)) =>
    let failed := fail (.ofGatewayError e)
    if e.requiresLogin then { failed with err := loginHint e ++ failed.err } else failed
  | _ => ⟨101, "", ""⟩

/-- A gateway with the given settings. -/
def gateway (settings : Settings) (database : OpenDatabase) : Gateway OpenDatabase :=
  .new (.ofBase settings.apiBaseUrl) database

/-- Sends a request. -/
def request (settings : Settings) (d : Descriptor) (database : OpenDatabase) (backend : Backend) :
    Effect :=
  let x : Exchange := ⟨(gateway settings database).start (.request d .value), backend⟩
  let x := x.run settings d.timeoutMs
  ⟨printAnswer x.answer?, x.gateway.store, x.backend, x.sent⟩

/-- Shows the session. -/
def showSession (database : OpenDatabase) : Output :=
  match (Store.get database).1 with
  | .panicked => ⟨101, "", ""⟩
  | .failed message => fail (.ofGatewayError (.internal message))
  | .ok none => succeed "No session stored. Login first.\n"
  | .ok (some session) =>
    let shown := session.displayLines ++ "\n"
    match database.database.lastUpdated with
    | .ok none => succeed shown
    | .ok (some t) => succeed (shown ++ "Last updated: " ++ t.text ++ "\n")
    | .error message => { fail ⟨message, some "database or timestamp"⟩ with out := shown }

/-- Stores a session. -/
def storeSession (settings : Settings) (s : Session) (database : OpenDatabase) :
    Output × OpenDatabase :=
  let (outcome, g) := (gateway settings database).signIn s
  (match outcome with
    | .ok () => succeed "✅ Session stored\n"
    | .failed message => fail (.ofGatewayError (.internal message))
    | .panicked => ⟨101, "", ""⟩, g.store)

/-- Ends the session. -/
def clearSession (settings : Settings) (database : OpenDatabase) : Output × OpenDatabase :=
  let (outcome, g) := (gateway settings database).signOut
  (match outcome with
    | .ok true => succeed "👋 Logged out\n"
    | .ok false => succeed "No session stored.\n"
    | .failed message => fail (.ofGatewayError (.internal message))
    | .panicked => ⟨101, "", ""⟩, g.store)

/-- Carries out a command on an open database. -/
def execute (settings : Settings) (command : Command) (database : OpenDatabase)
    (backend : Backend) : Effect :=
  match command with
  | .request method path data headers timeoutMs =>
    match describe method path data headers (timeoutMs.getD settings.requestTimeoutMs) with
    | .error failure => ⟨fail failure, database, backend, []⟩
    | .ok d => request settings d database backend
  | .showSession => ⟨showSession database, database, backend, []⟩
  | .importSession access refresh tenant =>
    match importedSession access refresh tenant with
    | .error failure => ⟨fail failure, database, backend, []⟩
    | .ok session =>
      let (output, database) := storeSession settings session database
      ⟨output, database, backend, []⟩
  | .clearSession =>
    let (output, database) := clearSession settings database
    ⟨output, database, backend, []⟩

/-! ## Runs on a machine -/

/-- Where a program runs. -/
structure Machine where
  /-- The files. -/
  disk : Disk
  /-- The working directory. -/
  here : Location
  /-- The time now. -/
  now : String
  /-- The backend. -/
  backend : Backend

namespace Machine

/-- The environment of a run, with the variables of the environment file in the working directory.
-/
def environment (env : Environment) (file : Option String) : Environment :=
  match file with
  | some text => CommandLine.DotEnv.extend env text
  | none => env

/-- Runs the program. Gives its output, the requests that arrived, and the machine afterwards. -/
def run (env : Environment) (arguments : List String) (m : Machine) :
    Output × List (String × Request) × Machine :=
  match plan env arguments with
  | .error output => (output, [], m)
  | .ok (settings, command) =>
    match m.disk.openDatabase m.here settings.sessionDbFile with
    | (disk, .error e) =>
      (fail ⟨e.message, some "the session database cannot be used"⟩, [], { m with disk := disk })
    | (disk, .ok opened) =>
      let (database, isWritable) := match opened with
        | .at location isWritable =>
          ((disk.database? location).getD Database.empty.prepare, isWritable)
        | .transient => (Database.empty.prepare, true)
      let effect := execute settings command ⟨database, m.now, isWritable⟩ m.backend
      let disk := match opened with
        | .at location true => disk.put location (.database effect.database.database)
        | _ => disk
      (effect.output, effect.sent, { m with disk := disk, backend := effect.backend })

end Machine

end Program

end BearerClient
