import ShardCluster.Engine.Postgres
import ShardCluster.Files.Command
import ShardCluster.Machine.Basic
import ShardCluster.Task.Run

/-!
# Machine sessions

Steps on a machine and on the PostgreSQL engine that runs there, and what comes of them.
-/

namespace ShardCluster.Machine

/-- a step of a session -/
inductive Step where
  | files (command : FileCommand)
  /-- installs programs, and removes those without a script -/
  | install (programs : List (String × Option Script))
  | init (directory : Path)
  /-- keeps the server under the name `process` -/
  | start (process : String) (launch : Launch)
  | stop (process : String)
  | execute (port : UInt16) (database statement : String)
  /-- kills the server on a port -/
  | kill (port : UInt16)
  /-- has something else listen on a port -/
  | listen (port : UInt16)
  | isAvailable (port : UInt16)

inductive Answer where
  | ok
  | text (text : String)
  | content (text : String)
  | flag (b : Bool)
  | fileFailure (e : IoError)
  | engineFailure (e : EngineError)
  /-- no server goes by the name, or the step never ended -/
  | nothing

/-- What came of a step. The calls of a failed start depend on when it failed and are not shown. -/
structure Report where
  answer : Answer
  /-- the calls made by the step -/
  calls : Option (List (List String))
  /-- the call that found a started server ready -/
  ready : Option (List String) := none

/-- a machine, the servers started on it by name, and how many of its calls have been shown -/
structure Bench where
  machine : Machine
  processes : List (String × Postgres.Process Nat) := []
  shown : Nat := 0

namespace Bench

def machinePart : Part Bench Machine := ⟨Bench.machine, fun m b => { b with machine := m }⟩

/-- changes the machine -/
def change (f : Machine → Machine) : Task Bench Answer := do
  Task.update fun b => { b with machine := f b.machine }
  return .ok

end Bench

/-- the PostgreSQL engine on the machine -/
def engine (config : Postgres.Config) : Engine (Postgres.Process Nat) Bench :=
  Postgres.engine config (programs Bench.machinePart) (storage Bench.machinePart)

/-- a file command, at once -/
def fileStep (command : FileCommand) : Task Bench Answer :=
  Task.atomic fun b =>
    let (result, files) := command.perform.run b.machine.files
    (match result with
      | .ok none => .ok
      | .ok (some text) => .content text
      | .error e => .fileFailure e,
     { b with machine := forgetMissing { b.machine with files } })

/-- the server on a port is killed -/
def killServer (port : UInt16) (m : Machine) : Machine :=
  m.endServer (Utf8.encode (toString port.toNat)) (.signalled 9)

/-- installs or removes each of the programs -/
def installAll (programs : List (String × Option Script)) (m : Machine) : Machine :=
  programs.foldl (fun m (name, script) => m.install name script) m

def ofEngine {α : Type} (answer : α → Answer) : Except EngineError α → Answer
  | .ok a => answer a
  | .error e => .engineFailure e

def stepTask (config : Postgres.Config) : Step → Task Bench Answer
  | .files command => fileStep command
  | .install programs => Bench.change (installAll programs)
  | .init directory => do return ofEngine (fun _ => .ok) (← (engine config).init directory)
  | .start process launch => do
    match ← (engine config).start launch with
    | .ok p =>
      Task.update fun b => { b with processes := (process, p) :: b.processes }
      return .ok
    | .error e => return .engineFailure e
  | .stop process => do
    match ← Task.read fun b => b.processes.lookup process with
    | some p => return ofEngine (fun _ => .ok) (← (engine config).stop p)
    | none => return .nothing
  | .execute port database statement => do
    return ofEngine .text (← (engine config).execute port database statement)
  | .kill port => Bench.change (killServer port)
  | .listen port => Bench.change fun m => { m with listening := port :: m.listening }
  | .isAvailable port => do return .flag (← (engine config).portAvailable port)

/-- what is shown of a step -/
def report (step : Step) (answer : Answer) (before : Nat) (m : Machine) : Report :=
  let calls := m.calls.drop before
  match step, answer with
  | .start .., .ok => { answer, calls := some calls, ready := m.lastProbe }
  | .start .., answer => { answer, calls := none }
  | _, answer => { answer, calls := some calls }

/-- the reports of steps, one after another -/
def runFrom (config : Postgres.Config) (bench : Bench) : List Step → List Report
  | [] => []
  | step :: rest =>
    let (answer, after) := (stepTask config step).run [] bench
    report step (answer.getD .nothing) bench.shown after.machine
      :: runFrom config { after with shown := after.machine.calls.length } rest

/-- a machine with programs and an empty working directory -/
def booted (searchPath : List Path) (programs : List (String × Option Script)) : Machine :=
  installAll programs { files := .fresh, searchPath }

/-- The reports of a session on a new machine, where bare names are searched for along a path. -/
def run (config : Postgres.Config) (searchPath : List Path)
    (programs : List (String × Option Script)) (steps : List Step) : List Report :=
  runFrom config { machine := booted searchPath programs } steps

end ShardCluster.Machine
