import ShardCluster.Cluster.Scoped
import ShardCluster.Engine.Simulated

/-!
# Scenario reports

What a step of a scenario comes to: its answer, and what could be seen of the engine, the files and
the cluster right after it.
-/

namespace ShardCluster.Scenario

/-- a node as `NodeCommand.describe` shows it -/
structure NodeDescription where
  identity : Identity
  dataDirectory : Path
  logFile : Path
  connectionString : ConnectionString

/-- what a step of a scenario, other than a scoped run, answers -/
inductive Answer where
  | ok
  /-- the text a statement returned -/
  | text (text : String)
  /-- the content of a file -/
  | content (text : String)
  | flag (b : Bool)
  | statements (statements : List String)
  | node (description : NodeDescription)
  | identity (identity : Identity)
  | found (identity : Option Identity)
  | nodes (json : String)
  | membership (json : String) (hasWorkers : Bool)
  | config (config : Config) (ports : List UInt16)
  | fileFailure (e : IoError)
  | engineFailure (e : EngineError)
  | failure (e : ClusterError)
  /-- the operation was given up -/
  | abandoned
  /-- the step refers to a node, process or cluster that is not there -/
  | nothing

/-- what can be seen after a step -/
structure View where
  /-- ports with a running server -/
  ports : List UInt16
  /-- statements since the view before -/
  statements : List Executed
  /-- changes of the working directory since the view before -/
  changes : List String

/-- the members of a cluster by name -/
structure Members where
  coordinator : Option String
  workers : List String

/-- the report of a step that is no scoped run -/
structure Report where
  answer : Answer
  view : View
  /-- the phase of the node that the step was for -/
  phase : Option Phase := none
  members : Option Members := none

/-- the report of any step -/
inductive StepReport where
  | plain (report : Report)
  | scopedRun (result : Except ClusterError (ScopeExit Nat)) (body : List Report) (view : View)
  /-- a scoped run that never ended or had no cluster to run on -/
  | none

end ShardCluster.Scenario
