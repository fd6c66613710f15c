import ShardCluster.Cluster.Basic

/-!
# Cluster operations

Setting up the coordinator, adding workers one at a time, statements for the whole cluster and the
final teardown. A node stays in its place in the cluster while it is set up or released.
-/

namespace ShardCluster

/-- an operation of a cluster in its world -/
abbrev ClusterAction (P W α : Type) := ExceptT ClusterError (Task (Cluster P × W)) α

namespace Cluster

variable {P W α : Type}

/-! ### Steps of an operation -/

/-- the cluster as it is now -/
def current : ClusterAction P W (Cluster P) :=
  (Task.read (·.1) : Task (Cluster P × W) (Cluster P))

/-- changes the cluster -/
def change (f : Cluster P → Cluster P) : ClusterAction P W Unit :=
  (Task.update fun (c, w) => (f c, w) : Task (Cluster P × W) Unit)

/-- an operation of the world alone -/
def outside (action : ExceptT ClusterError (Task W) α) : ClusterAction P W α :=
  (action.run.through (Part.second (Cluster P) W) : Task (Cluster P × W) (Except ClusterError α))

/-- the failure that a place holds no node although it should -/
def missing (place : String) : ClusterError :=
  .internal (place ++ " slot unexpectedly empty")

/-- an operation of the coordinator, in its place -/
def onCoordinator (action : NodeAction P W α) : ClusterAction P W α := do
  match ← (action.run.within
      (fun (c, w) => c.coordinator.map (·, w))
      (fun (n, w) (c, _) => ({ c with coordinator := some n }, w)) :
      Task (Cluster P × W) (Option (Except ClusterError α))) with
  | some (.ok a) => return a
  | some (.error e) => throw e
  | none => throw (missing "coordinator")

/-- an operation of the worker that is being set up, in its place -/
def onOnboarding (action : NodeAction P W α) : ClusterAction P W α := do
  match ← (action.run.within
      (fun (c, w) => c.onboarding.map (·, w))
      (fun (n, w) (c, _) => ({ c with onboarding := some n }, w)) :
      Task (Cluster P × W) (Option (Except ClusterError α))) with
  | some (.ok a) => return a
  | some (.error e) => throw e
  | none => throw (missing "onboarding")

/-- keeps a node whose release failed -/
def settle (node : Node P) (released : Bool) (c : Cluster P) : Cluster P :=
  if released then c else { c with stranded := c.stranded ++ [node] }

/-! ### Setting nodes up -/

section
variable (host : Host P W)

/-- Cleans the coordinator up and clears its place. -/
def releaseCoordinator : ClusterAction P W Unit := do
  if (← current).coordinator.isSome then
    let released ← tryCatch (do onCoordinator (Node.cleanup host); pure true) fun _ => pure false
    change fun c => match c.coordinator with
      | some node => settle node released { c with coordinator := none }
      | none => c

/-- Cleans the worker that is being set up up, and clears its place. -/
def releaseOnboarding : ClusterAction P W Unit := do
  if (← current).onboarding.isSome then
    let released ← tryCatch (do onOnboarding (Node.cleanup host); pure true) fun _ => pure false
    change fun c => match c.onboarding with
      | some node => settle node released { c with onboarding := none }
      | none => c

/-- Installs the sharding extension on a node. -/
def installExtension (node : Node P) (dbname : String) : ExceptT ClusterError (Task W) Unit := do
  let _ ← tryCatch (node.runSql host dbname Sql.installSharding) fun e =>
    match e with
    | .query node _ message => throw (.install node shardingExtension message)
    | e => throw e

/-- Sets a node up and starts it with a block of settings. -/
def prepare (settings : String) : NodeAction P W Unit := do
  Node.init host
  Node.appendConfig host settings
  Node.start host

/-- Sets the coordinator up, starts it and installs the extension. -/
def bringUpCoordinator : ClusterAction P W Unit := do
  let c ← current
  let some node := c.coordinator | throw (missing "coordinator")
  let own := node.identity.connectionString c.config.dbname
  onCoordinator (prepare host (c.template.render .coordinator node.identity own))
  let some node := (← current).coordinator | throw (missing "coordinator")
  outside (installExtension host node c.config.dbname)

/-- Makes a new node the coordinator. On failure the node is released again. -/
def bootstrap (name : String) (port : UInt16) : ClusterAction P W Identity := do
  let c ← current
  if c.coordinator.isSome then throw (.precondition "coordinator already bootstrapped")
  let identity := Identity.under c.config.baseDirectory name port
  c.checkIdentity identity
  change fun c => { c with coordinator := some (.create identity c.config.startTimeout) }
  tryCatch (bringUpCoordinator host) fun e => do
    releaseCoordinator host
    throw e
  let some node := (← current).coordinator | throw (missing "coordinator")
  change fun c =>
    { c with membership := { c.membership with coordinator := some node.identity } }
  return node.identity

/-- Sets the new worker up, starts it, installs the extension and registers it with the
coordinator. -/
def onboard (coordinator : ConnectionString) : ClusterAction P W Unit := do
  let c ← current
  let some worker := c.onboarding | throw (missing "onboarding")
  if c.coordinator.isNone then throw (missing "coordinator")
  onOnboarding (prepare host (c.template.render .worker worker.identity coordinator))
  let some worker := (← current).onboarding | throw (missing "onboarding")
  outside (installExtension host worker c.config.dbname)
  let some lead := (← current).coordinator | throw (missing "coordinator")
  let _ ← outside (lead.runSql host c.config.dbname
    (Sql.addNode (worker.identity.connectionString c.config.dbname)))

/-- Adds a worker, which becomes a member once the coordinator has registered it. On failure the
worker is released again and the rest of the cluster stays as it was. -/
def addWorker (name : String) (port : UInt16) : ClusterAction P W Identity := do
  let c ← current
  let some lead := c.membership.coordinator | throw (.precondition "coordinator not bootstrapped")
  let connection := lead.connectionString c.config.dbname
  if c.membership.workers.length ≥ c.config.plannedWorkers then
    throw (.precondition ("cluster is sized for " ++ toString c.config.plannedWorkers
      ++ " workers; raise planned_workers to add " ++ name))
  releaseOnboarding host
  let identity := Identity.under c.config.baseDirectory name port
  tryCatch ((← current).checkIdentity identity) fun e => throw (.addWorker name e)
  change fun c => { c with onboarding := some (.create identity c.config.startTimeout) }
  tryCatch (onboard host connection) fun e => do
    releaseOnboarding host
    throw (.addWorker name e)
  let some worker := (← current).onboarding | throw (missing "onboarding")
  change fun c =>
    { c with
      onboarding := none
      membership := c.membership.addWorker worker.identity
      workers := c.workers ++ [worker] }
  return worker.identity

/-! ### Statements -/

/-- Runs a statement on the coordinator, which must have a worker registered. -/
def executeOnCoordinator (statement : String) : ClusterAction P W String := do
  let c ← current
  if !c.membership.hasWorkers then
    throw (.precondition "no workers registered with the coordinator")
  let some lead := c.coordinator | throw (missing "coordinator")
  outside (lead.runSql host c.config.dbname statement)

/-- Partitions a table across the registered workers. -/
def partitionTable (partitioning : HashPartitioning) : ClusterAction P W String :=
  executeOnCoordinator host partitioning.statement

/-- Runs a statement on the member of that name. -/
def runOnNode (name statement : String) : ClusterAction P W String := do
  let c ← current
  let some node := c.members.find? (·.name == name)
    | throw (.precondition ("no node named " ++ name ++ " in the cluster"))
  outside (node.runSql host c.config.dbname statement)

/-! ### Teardown -/

/-- the nodes to clean up, in this order: the coordinator comes last -/
def toRelease (c : Cluster P) : List (Node P) :=
  c.stranded ++ c.onboarding.toList ++ c.workers ++ c.coordinator.toList

/-- the cluster without its nodes -/
def emptied (c : Cluster P) : Cluster P :=
  { config := c.config, template := c.template }

/-- Cleans a node up that is in no place of the cluster, and keeps it if that fails. -/
def release (node : Node P) : Task (Cluster P × W) (Option ClusterError) := do
  let (outcome, node) ← (Node.cleanup host).run.owning (Part.second (Cluster P) W) node
  match outcome with
  | .ok () => return none
  | .error e =>
    Task.update fun (c, w) => (settle node false c, w)
    return some e

/-- the failures of cleaning nodes up one after another -/
def releaseAll : List (Node P) → Task (Cluster P × W) (List ClusterError)
  | [] => return []
  | node :: rest => do
    let failure ← release host node
    return failure.toList ++ (← releaseAll rest)

/-- Cleans every node up, whatever becomes of the others. Nodes whose release failed are kept for
the next teardown. -/
def teardown : ClusterAction P W Unit := do
  let nodes ← (Task.atomic fun (c, w) => (c.toRelease, c.emptied, w) :
    Task (Cluster P × W) (List (Node P)))
  match ← (releaseAll host nodes : Task (Cluster P × W) (List ClusterError)) with
  | [] => return ()
  | failures => throw (.teardown failures)

end

end Cluster

end ShardCluster
