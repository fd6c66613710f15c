import ShardCluster.Cluster.Operations
import ShardCluster.CommandLine.Arguments

/-!
# Plans

What the program brings up: a coordinator and workers on the ports after its own, with a demo table
partitioned across them.
-/

namespace ShardCluster.CommandLine

/-- the name of the coordinator -/
def coordinatorName : String := "shardlord"

/-- the table that is partitioned, and its key -/
def demoTable : String := "pt"

def demoKey : String := "id"

structure Plan where
  basePort : UInt16
  /-- the workers in the order they are added -/
  workers : List (String × UInt16)
  partitioning : HashPartitioning
  /-- whether the nodes are reported in JSON -/
  json : Bool

namespace Plan

/-- the worker of that number, counted from one -/
def worker (basePort : UInt16) (number : Nat) : String × UInt16 :=
  ("worker" ++ toString number, UInt16.ofNat (basePort.toNat + number))

/-- The plan for the arguments, if there is a port for every worker. -/
def ofArguments (a : Arguments) : Except ClusterError Plan :=
  if a.basePort.toNat + a.workers < UInt16.size then
    .ok {
      basePort := a.basePort
      workers := (List.range a.workers).map fun i => worker a.basePort (i + 1)
      partitioning := {
        replicationFactor := a.replicas
        table := demoTable
        key := demoKey
        partitions := a.partitions
        immediate := true }
      json := a.json }
  else
    .error (.invalidConfig (toString a.workers ++ " workers after port "
      ++ toString a.basePort.toNat ++ " exceed the port range"))

/-- creates the demo table -/
def createTable : String :=
  "create table " ++ demoTable ++ " (" ++ demoKey ++ " int4 not null, payload float4)"

/-- fills the demo table -/
def fillTable : String :=
  "insert into " ++ demoTable ++ " select i, i / 3.0 from generate_series(1, 10) i"

section
variable {P W : Type} (host : Host P W)

/-- Creates and fills the demo table on the first worker and partitions it. -/
def demonstrate (plan : Plan) : ClusterAction P W Unit := do
  match plan.workers with
  | [] => return ()
  | (first, _) :: _ => do
    let _ ← Cluster.runOnNode host first createTable
    let _ ← Cluster.runOnNode host first fillTable
    let _ ← Cluster.partitionTable host plan.partitioning

/-- Brings the cluster of the plan up. -/
def bringUp (plan : Plan) : ClusterAction P W Unit := do
  let _ ← Cluster.bootstrap host coordinatorName plan.basePort
  plan.workers.forM fun (name, port) => do
    let _ ← Cluster.addWorker host name port
  demonstrate host plan

end

end Plan

end ShardCluster.CommandLine
