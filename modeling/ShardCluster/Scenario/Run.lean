import ShardCluster.Scenario.Command
import ShardCluster.Scenario.Stage
import ShardCluster.Task.Run

/-!
# Running scenarios

The task that each step of a scenario stands for. Steps run one after another in virtual time, each
from where the one before left the stage.
-/

namespace ShardCluster.Scenario

/-! ### Files, engine and hooks -/

/-- a file command, at once -/
def fileAnswer (command : FileCommand) : Task Floor Answer :=
  Task.atomic fun f =>
    let (result, files) := command.perform.run f.files
    (match result with
      | .ok none => .ok
      | .ok (some text) => .content text
      | .error e => .fileFailure e,
     { f with files })

def ofEngine {α : Type} (answer : α → Answer) : Except EngineError α → Answer
  | .ok a => answer a
  | .error e => .engineFailure e

/-- a change of the simulated engine -/
def changeEngine (f : Simulated → Simulated) : Task Floor Answer := do
  Task.update fun floor => { floor with engine := f floor.engine }
  return .ok

def engineAnswer : EngineCommand → Task Floor Answer
  | .failStatements needle message => changeEngine (Simulated.failStatements needle message)
  | .crash port => changeEngine (Simulated.crashOn port)
  | .stall port => changeEngine (Simulated.stallOn port)
  | .refuseStop port => changeEngine (Simulated.refuseStop port)
  | .occupy port => changeEngine (Simulated.occupy port)
  | .isAvailable port => do return .flag (← Floor.engineUnderTest.portAvailable port)
  | .statementsOn port => do
    return .statements (← Task.read fun f => f.engine.statementsOn port)
  | .init directory => do
    return ofEngine (fun _ => .ok) (← Floor.engineUnderTest.init directory)
  | .start process directory port timeout => do
    let result ← Floor.engineUnderTest.start
      { dataDirectory := directory, port, logFile := directory.child "server.log", timeout }
    match result with
    | .ok p =>
      Task.update fun f => { f with processes := (process, p) :: f.processes }
      return .ok
    | .error e => return .engineFailure e
  | .stop process => do
    match ← Task.read fun f => f.processes.lookup process with
    | some p => return ofEngine (fun _ => .ok) (← Floor.engineUnderTest.stop p)
    | none => return .nothing
  | .execute port database statement => do
    return ofEngine .text (← Floor.engineUnderTest.execute port database statement)

def HookCommand.apply : HookCommand → Interference → Interference
  | .fault f, i => { i with faults := i.faults ++ [f] }
  | .respond needle text, i => { i with responses := i.responses ++ [(needle, text)] }
  | .delay call nanos, i => { i with delays := (call, nanos) :: i.delays }

def commonAnswer : CommonStep → Task Floor Answer
  | .files command => fileAnswer command
  | .engine command => engineAnswer command
  | .hook command => do
    Task.update fun f => { f with interference := command.apply f.interference }
    return .ok
  | .sleep nanos => do
    Task.sleep nanos
    return .ok

/-! ### Nodes and clusters -/

/-- a node command in the node's own world -/
def nodeAnswer : NodeCommand → NodeAction Simulated.Process Floor Answer
  | .init => do
    Node.init Floor.host
    return .ok
  | .appendConfig text => do
    Node.appendConfig Floor.host text
    return .ok
  | .start => do
    Node.start Floor.host
    return .ok
  | .runSql database statement => do
    let n ← Node.current
    match ← Node.outside (n.runSql Floor.host database statement).run with
    | .ok text => return .text text
    | .error e => return .failure e
  | .stop => do
    Node.stop Floor.host
    return .ok
  | .cleanup => do
    Node.cleanup Floor.host
    return .ok
  | .describe dbname => do
    let n ← Node.current
    return .node
      { identity := n.identity, dataDirectory := n.identity.engineDirectory,
        logFile := n.identity.logFile, connectionString := n.identity.connectionString dbname }

/-- the text of a value whose paths are all text -/
def jsonText (json : Option Json) : String := (json.map Json.compact).getD ""

/-- a cluster command in the cluster's own world -/
def clusterAnswer : ClusterCommand → ClusterAction Simulated.Process Floor Answer
  | .bootstrap name port => do return .identity (← Cluster.bootstrap Floor.host name port)
  | .addWorker name port => do return .identity (← Cluster.addWorker Floor.host name port)
  | .partitionTable p => do return .text (← Cluster.partitionTable Floor.host p)
  | .execute statement => do
    return .text (← Cluster.executeOnCoordinator Floor.host statement)
  | .runOn name statement => do return .text (← Cluster.runOnNode Floor.host name statement)
  | .nodes => do
    let c ← Cluster.current
    return .nodes (jsonText ((c.nodes.mapM Summary.toJson?).map Json.array))
  | .membership => do
    let c ← Cluster.current
    return .membership (jsonText c.membership.toJson?) c.membership.hasWorkers
  | .find name => do return .found ((← Cluster.current).membership.find? name)
  | .config => do
    let c ← Cluster.current
    let floor : Floor ← (Task.read (·.2) : Task (Cluster Simulated.Process × Floor) Floor)
    return .config c.config floor.engine.running
  | .teardown => do
    Cluster.teardown Floor.host
    return .ok

/-- a cluster operation and whether it failed; giving it up is no failure -/
def callOutcome (call : ClusterCall) :
    Task (Cluster Simulated.Process × Floor) (Except ClusterError Answer) :=
  match call.patience with
  | none => (clusterAnswer call.command).run
  | some nanos => do
    match ← (clusterAnswer call.command).run.limit nanos with
    | some outcome => return outcome
    | none => return .ok .abandoned

def ofOutcome : Except ClusterError Answer → Answer
  | .ok answer => answer
  | .error e => .failure e

def membersOf (c : Cluster Simulated.Process) : Members :=
  ⟨c.membership.coordinator.map (·.name), c.membership.workerNames⟩

/-! ### Scoped runs -/

/-- the report of a step of a body -/
def record (answer : Answer) : Task (Cluster Simulated.Process × Floor) Unit :=
  Task.update fun (c, f) =>
    let (view, f) := f.observe
    (c, { f with reports := f.reports ++ [{ answer, view, members := some (membersOf c) }] })

/-- One step of a body, which ends the body if it fails. -/
def bodyStep : BodyStep → ClusterAction Simulated.Process Floor Unit
  | .common step => do
    let answer ← ((commonAnswer step).through (Part.second _ Floor) :
      Task (Cluster Simulated.Process × Floor) Answer)
    record answer
  | .cluster call tolerate => do
    let outcome ← ExceptT.lift (callOutcome call)
    record (ofOutcome outcome)
    match outcome with
    | .ok _ => return ()
    | .error e => if tolerate then return () else throw e
  | .wait => (Task.forever () : Task (Cluster Simulated.Process × Floor) Unit)
  | .trigger => do
    (Task.update fun (c, f) => (c, { f with shutdown := f.shutdown.trigger }) :
      Task (Cluster Simulated.Process × Floor) Unit)
    record .ok
  | .fail message => throw (.internal message)

/-- The body of a scoped run; its value is the number of registered workers. -/
def bodyTask (steps : List BodyStep) : ClusterAction Simulated.Process Floor Nat := do
  steps.forM bodyStep
  return (← Cluster.current).membership.workers.length

/-- A scoped run of the current cluster, which is used up by it. -/
def scopedTask (body : List BodyStep) (triggered : Bool) : Task Stage StepReport := do
  let some cluster ← Task.atomic fun (s : Stage) => (s.cluster, { s with cluster := none })
    | return .none
  Task.update fun s =>
    let shutdown : HeldShutdown := .new
    { s with floor :=
      { s.floor with
        reports := []
        shutdown := if triggered then shutdown.trigger else shutdown } }
  let whole := Cluster.runScoped Floor.host Floor.shutdown (fun _ => false) (bodyTask body)
  let (result, _) ← whole.owning Stage.floorPart cluster
  Task.atomic fun s =>
    let (view, floor) := s.floor.observe
    (.scopedRun result floor.reports view, { s with floor })

/-! ### Steps of a scenario -/

/-- the report of a step for the node of that name, or for the current cluster -/
def report (answer : Answer) (handle : Option String) (ofCluster : Bool) : Task Stage StepReport :=
  Task.atomic fun s =>
    let (view, floor) := s.floor.observe
    let phase := handle.bind fun h => (s.nodes.lookup h).map (·.phase)
    let members := if ofCluster then s.cluster.map membersOf else none
    (.plain { answer, view, phase, members }, { s with floor })

def stepTask : Step → Task Stage StepReport
  | .common step => do
    report (← (commonAnswer step).through Stage.floorPart) none false
  | .createNode handle identity startTimeout => do
    Task.update fun s => Stage.putNode handle (.create identity startTimeout, s.floor) s
    report .ok (some handle) false
  | .node handle command => do
    let outcome ← (nodeAnswer command).run.within (Stage.getNode handle) (Stage.putNode handle)
    report ((outcome.map ofOutcome).getD .nothing) (some handle) false
  | .createCluster config => do
    match Cluster.create config with
    | .ok cluster =>
      Task.update fun s => { s with cluster := some cluster }
      report .ok none true
    | .error e => report (.failure e) none false
  | .dropCluster => do
    Task.update fun s => { s with cluster := none }
    report .ok none false
  | .cluster call => do
    let outcome ← (callOutcome call).within Stage.getCluster Stage.putCluster
    report ((outcome.map ofOutcome).getD .nothing) none true
  | .scopedRun body triggered _ => scopedTask body triggered

/-- what happens while a step runs -/
def alarms : Step → List (Alarm Stage)
  | .scopedRun _ _ (some nanos) =>
    [⟨nanos, fun s =>
      { s with floor := { s.floor with shutdown := s.floor.shutdown.trigger } }⟩]
  | _ => []

/-- the reports of the steps, from a stage on -/
def runFrom (stage : Stage) : List Step → List StepReport
  | [] => []
  | step :: rest =>
    let (result, stage) := (stepTask step).run (alarms step) stage
    result.getD .none :: runFrom stage rest

/-- the reports of the steps of a scenario -/
def run (steps : List Step) : List StepReport := runFrom {} steps

end ShardCluster.Scenario
