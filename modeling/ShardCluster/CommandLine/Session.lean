import ShardCluster.CommandLine.Program
import ShardCluster.Engine.Postgres
import ShardCluster.Engine.Simulated
import ShardCluster.Files.Command
import ShardCluster.Files.Listing
import ShardCluster.Machine.Session

/-!
# Program sessions

The program run on a machine by someone who looks around once the nodes have been reported, and
then gives the shutdown signal.
-/

namespace ShardCluster.CommandLine

/-- how the program is run -/
structure Session where
  arguments : List Bytes
  environment : Environment
  /-- programs installed on the machine, if there are to be any -/
  programs : Option (List (String × Option Machine.Script))
  /-- what is done to the files beforehand -/
  preparation : List FileCommand
  /-- the files read once the nodes have been reported -/
  reading : List Path

/-- what someone saw who looked around -/
structure Sight where
  listing : List String
  contents : List (Except IoError String)

/-- the world of the program -/
structure Terminal where
  machine : Machine
  simulated : Simulated := {}
  shutdown : HeldShutdown := .new
  output : String := ""
  sight : Option Sight := none

namespace Terminal

def machinePart : Part Terminal Machine := ⟨Terminal.machine, fun m t => { t with machine := m }⟩

def simulatedPart : Part Terminal Simulated :=
  ⟨Terminal.simulated, fun s t => { t with simulated := s }⟩

def storage : Storage Terminal := Machine.storage machinePart

/-- the entries left out of listings: the log of the program, and the programs -/
def omitted : List Bytes := [Utf8.encode "log", Utf8.encode "bin"]

def listing (t : Terminal) : List String := t.machine.files.listing omitted

def look (reading : List Path) (t : Terminal) : Sight where
  listing := t.listing
  contents := reading.map fun path => (t.machine.files.contentOf path).map Utf8.lossy

/-- Output that is followed by a look around and the shutdown signal. -/
def print (reading : List Path) (text : String) : Task Terminal Unit :=
  Task.update fun t =>
    { t with
      output := t.output ++ text
      sight := some (t.look reading)
      shutdown := t.shutdown.trigger }

end Terminal

/-- what is left of a session -/
structure Transcript where
  outcome : Outcome
  output : String
  /-- what was seen when the nodes were reported, if it came to that -/
  sight : Option Sight
  listing : List String
  calls : List (List String)

namespace Session

/-- the PostgreSQL engine that the arguments and the environment ask for -/
def postgresConfig (s : Session) (a : Arguments) : Postgres.Config :=
  let c := Postgres.Config.ofEnvironment s.environment
  { c with binDirectory := a.binDirectory <|> c.binDirectory }

/-- Empties the log file, or creates it. -/
def openLog (a : Arguments) (m : Machine) : Machine :=
  { m with files := Machine.attempt (FileSystem.writeFile a.logFile []) m.files }

/-- the program after its arguments have been read -/
def program (s : Session) (a : Arguments) : Task Terminal Outcome := do
  Task.update fun t => { t with machine := openLog a t.machine }
  let config := configuration s.environment a
  match Plan.ofArguments a with
  | .error e => return .refused e
  | .ok plan =>
    if a.dryRun then
      let engine := Simulated.engine Terminal.simulatedPart Terminal.storage
      runOn ⟨engine, Terminal.storage⟩ Terminal.shutdown (Terminal.print s.reading) config plan
    else
      let engine := Postgres.engine (s.postgresConfig a) (Machine.programs Terminal.machinePart)
        Terminal.storage
      runOn ⟨engine, Terminal.storage⟩ Terminal.shutdown (Terminal.print s.reading) config plan

/-- the machine before the program is run -/
def prepared (s : Session) : Machine :=
  let m := Machine.booted s.environment.searchPath (s.programs.getD [])
  { m with
    files := s.preparation.foldl (fun fs command => (command.perform.run fs).2)
      (Machine.attempt (FileSystem.createDirectory (.ofString "log")) m.files) }

/-- Runs the program, unless its command line cannot be read. -/
def run (s : Session) : Option Transcript := do
  let a ← Arguments.read? s.arguments
  let (outcome, t) := (s.program a).run [] { machine := s.prepared }
  return { outcome := outcome.getD .collapse, output := t.output, sight := t.sight,
           listing := t.listing, calls := t.machine.calls }

end Session

end ShardCluster.CommandLine
