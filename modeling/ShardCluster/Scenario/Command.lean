import ShardCluster.Cluster.Config
import ShardCluster.Engine.Interference
import ShardCluster.Files.Command

/-!
# Scenario commands

What a scenario consists of: steps for the files, the engine, single nodes and a cluster. The steps
in the body of a scoped run are a part of them.
-/

namespace ShardCluster.Scenario

/-- direct calls of the simulated engine, and faults set up in it -/
inductive EngineCommand where
  | failStatements (needle message : String)
  | crash (port : UInt16)
  | stall (port : UInt16)
  | refuseStop (port : UInt16)
  | occupy (port : UInt16)
  | isAvailable (port : UInt16)
  | statementsOn (port : UInt16)
  | init (directory : Path)
  /-- keeps the server under the name `process` -/
  | start (process : String) (directory : Path) (port : UInt16) (timeout : Duration)
  | stop (process : String)
  | execute (port : UInt16) (database statement : String)

/-- interference with calls of the engine -/
inductive HookCommand where
  | fault (fault : Fault)
  | respond (needle text : String)
  /-- holds up calls, by nanoseconds -/
  | delay (call : EngineCall) (nanos : Nat)

/-- operations of a node on its own -/
inductive NodeCommand where
  | init
  | appendConfig (text : String)
  | start
  | runSql (database statement : String)
  | stop
  | cleanup
  | describe (dbname : String)

/-- operations of the current cluster -/
inductive ClusterCommand where
  | bootstrap (name : String) (port : UInt16)
  | addWorker (name : String) (port : UInt16)
  | partitionTable (partitioning : HashPartitioning)
  | execute (statement : String)
  | runOn (name statement : String)
  | nodes
  | membership
  | find (name : String)
  | config
  | teardown

/-- A cluster operation, given up after a number of nanoseconds if there is one. -/
structure ClusterCall where
  command : ClusterCommand
  patience : Option Nat

/-- steps that go anywhere -/
inductive CommonStep where
  | files (command : FileCommand)
  | engine (command : EngineCommand)
  | hook (command : HookCommand)
  | sleep (nanos : Nat)

/-- steps in the body of a scoped run -/
inductive BodyStep where
  | common (step : CommonStep)
  /-- a failure ends the body, unless it is tolerated -/
  | cluster (call : ClusterCall) (tolerate : Bool)
  | wait
  | trigger
  | fail (message : String)

/-- the steps of a scenario -/
inductive Step where
  | common (step : CommonStep)
  | createNode (handle : String) (identity : Identity) (startTimeout : Duration)
  | node (handle : String) (command : NodeCommand)
  | createCluster (config : Config)
  | dropCluster
  | cluster (call : ClusterCall)
  /-- a scoped run; the signal is given beforehand, or `interruptAfter` nanoseconds into it -/
  | scopedRun (body : List BodyStep) (triggered : Bool) (interruptAfter : Option Nat)

end ShardCluster.Scenario
