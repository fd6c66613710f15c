import ShardCluster.Engine.Basic
import ShardCluster.Files.Storage
import ShardCluster.Node.Identity
import ShardCluster.Node.Phase

/-!
# Nodes

One server from end to end: its data directory, its configuration and its process. Every operation
is a task on the node and the world together; it updates the node as it goes, so that a node whose
operation failed or was given up can still be cleaned up.
-/

namespace ShardCluster

/-- the surroundings of a node -/
structure Host (P W : Type) where
  engine : Engine P W
  storage : Storage W

/-- a node and what it holds -/
structure Node (P : Type) where
  identity : Identity
  phase : Phase
  /-- the running server -/
  process : Option P
  startTimeout : Duration
  /-- whether the node has taken its data directory over -/
  claimed : Bool

/-- an operation of a node in its world -/
abbrev NodeAction (P W α : Type) := ExceptT ClusterError (Task (Node P × W)) α

namespace Node

variable {P W α : Type}

/-- a node that has touched nothing yet -/
def create (identity : Identity) (startTimeout : Duration) : Node P :=
  { identity, phase := .created, process := none, startTimeout, claimed := false }

def name (n : Node P) : String := n.identity.name

def port (n : Node P) : UInt16 := n.identity.port

/-- the failure of setting the node up -/
def initError (n : Node P) (reason : String) : ClusterError := .init n.name reason

/-- the failure of releasing the node -/
def cleanupError (n : Node P) (reason : String) : ClusterError := .cleanup n.name reason

def queryError (n : Node P) (statement message : String) : ClusterError :=
  .query n.name statement message

/-- what a failed launch means for the node -/
def launchError (n : Node P) : EngineError → ClusterError
  | .startTimeout timeout => .start n.name timeout
  | .crash status logTail => .crash n.name status logTail
  | e => .crash n.name "unknown" e.message

/-! ### Steps of an operation -/

/-- the node as it is now -/
def current : NodeAction P W (Node P) := (Task.read (·.1) : Task (Node P × W) (Node P))

/-- changes the node -/
def change (f : Node P → Node P) : NodeAction P W Unit :=
  (Task.update fun (n, w) => (f n, w) : Task (Node P × W) Unit)

/-- a task of the world alone -/
def outside (task : Task W α) : NodeAction P W α :=
  (task.through (Part.second (Node P) W) : Task (Node P × W) α)

/-- a task of the world that may fail, and what its failure means for the node -/
def attempt {ε : Type} (meaning : ε → ClusterError) (task : Task W (Except ε α)) :
    NodeAction P W α := do
  match ← outside task with
  | .ok a => return a
  | .error e => throw (meaning e)

/-! ### Operations -/

section
variable (host : Host P W)

/-- Refuses a data directory that is there and holds something. -/
def checkVacant (n : Node P) : NodeAction P W Unit := do
  let root := n.identity.dataDirectory
  let ofIo (e : IoError) := n.initError e.message
  if ← attempt ofIo (host.storage.pathExists root) then
    let names ← attempt ofIo (host.storage.namesIn root)
    if !names.isEmpty then
      throw (n.initError ("data directory " ++ root.display ++ " is not empty"))

/-- Takes the data directory over and populates it, provided that it is vacant and nothing listens
on the port. -/
def init : NodeAction P W Unit := do
  let n ← current
  if n.phase ≠ .created then throw (n.initError ("already " ++ n.phase.title))
  checkVacant host n
  if !(← outside (host.engine.portAvailable n.port)) then
    throw (n.initError ("port " ++ toString n.port.toNat ++ " already in use"))
  change fun n => { n with claimed := true }
  attempt (fun e => n.initError e.message)
    (host.storage.createDirectories n.identity.logDirectory)
  attempt (fun e => n.initError e.message) (host.engine.init n.identity.engineDirectory)
  change fun n => { n with phase := .initialized }

/-- a block of settings as it is added to a file: after an empty line, and with a line end -/
def configBlock (text : String) : String :=
  "\n" ++ text ++ if text.toList.getLast? = some '\n' then "" else "\n"

/-- what a failure to add settings to `file` means -/
def appendError (n : Node P) (file : Path) : AppendError → ClusterError
  | .cannotOpen e => n.initError ("cannot open " ++ file.display ++ ": " ++ e.message)
  | .cannotWrite e => n.initError ("cannot write " ++ file.display ++ ": " ++ e.message)
  | .cannotFlush e => n.initError e.message

/-- Adds settings to the configuration file; a running server does not see them until it is started
again. -/
def appendConfig (text : String) : NodeAction P W Unit := do
  let n ← current
  if n.phase = .created ∨ n.phase = .cleanedUp then
    throw (.precondition ("cannot append config to node " ++ n.name ++ " while "
      ++ n.phase.title))
  let file := host.engine.configFile n.identity.engineDirectory
  attempt (n.appendError file) (host.storage.append file (Utf8.encode (configBlock text)))

/-- Launches the server and waits until it accepts connections. -/
def start : NodeAction P W Unit := do
  let n ← current
  if n.phase ≠ .initialized ∧ n.phase ≠ .stopped then
    throw (.precondition ("cannot start node " ++ n.name ++ " while " ++ n.phase.title))
  let process ← attempt n.launchError (host.engine.start
    { dataDirectory := n.identity.engineDirectory, port := n.port,
      logFile := n.identity.logFile, timeout := n.startTimeout })
  change fun n => { n with process := some process, phase := .running }

/-- Runs a statement, which takes a running server. -/
def runSql (n : Node P) (database statement : String) : ExceptT ClusterError (Task W) String := do
  if n.phase ≠ .running then
    throw (n.queryError statement ("node is " ++ n.phase.title))
  match ← (host.engine.execute n.port database statement : Task W _) with
  | .ok text => return text
  | .error e => throw (n.queryError statement e.message)

/-- Shuts the server down if it runs. -/
def stop : NodeAction P W Unit := do
  let n ← current
  if n.phase ≠ .running then return ()
  match n.process with
  | some process => attempt (fun e => n.cleanupError e.message) (host.engine.stop process)
  | none => pure ()
  change fun n => { n with process := none, phase := .stopped }

/-- Shuts the server down and removes the data directory, unless it was never taken over. Cleaning
up again does nothing. -/
def cleanup : NodeAction P W Unit := do
  let n ← current
  if n.phase = .cleanedUp then return ()
  stop host
  if n.claimed then
    match ← outside (host.storage.removeTree n.identity.dataDirectory) with
    | .ok () | .error .notFound => pure ()
    | .error e =>
      throw (n.cleanupError ("cannot remove " ++ n.identity.dataDirectory.display ++ ": "
        ++ e.message))
  change fun n => { n with phase := .cleanedUp }

end

end Node

end ShardCluster
