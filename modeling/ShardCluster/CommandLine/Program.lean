import ShardCluster.Cluster.Scoped
import ShardCluster.CommandLine.Plan

/-!
# The program

Brings the planned cluster up, reports its nodes, keeps it running until the shutdown signal is
given, and tears it down.
-/

namespace ShardCluster.CommandLine

/-- a text with spaces after it, up to `width` characters -/
def padRight (width : Nat) (s : String) : String :=
  s ++ String.ofList (List.replicate (width - s.length) ' ')

/-- the line of a node in the report -/
def nodeLine (s : Summary) : String :=
  padRight 12 s.name ++ " " ++ padRight 11 s.role.text ++ " localhost:"
    ++ padRight 5 (toString s.port.toNat) ++ " data: " ++ s.dataDirectory.display ++ "  log: "
    ++ s.logFile.display ++ "\n"

/-- The report on the nodes, in JSON or with a line for each. -/
def reportText (json : Bool) (nodes : List Summary) : Except ClusterError String :=
  if json then
    match nodes.mapM Summary.toJson? with
    | some values => .ok (Json.indented (.array values) ++ "\n")
    | none => .error (.internal
        "cannot serialize node list: path contains invalid UTF-8 characters")
  else .ok (String.join (nodes.map nodeLine))

/-- how a run of the program ended -/
structure Outcome where
  exitCode : Nat
  /-- what it wrote to standard error -/
  complaint : String

namespace Outcome

/-- a run that was done -/
def success : Outcome := ⟨0, ""⟩

/-- a command line that could not be read -/
def usage : Outcome := ⟨2, ""⟩

/-- an end in the middle of the work -/
def collapse : Outcome := ⟨101, ""⟩

/-- the last line of a failed run -/
def lastLine (e : ClusterError) : String := "Error: " ++ e.detail ++ "\n"

/-- a run that was refused before it began -/
def refused (e : ClusterError) : Outcome := ⟨1, lastLine e⟩

/-- a run that failed -/
def failed (e : ClusterError) : Outcome :=
  ⟨1, "shardlord: " ++ e.message ++ "\n" ++ lastLine e⟩

end Outcome

/-- the configuration of a run: the environment's, as far as no argument says otherwise -/
def configuration (env : Environment) (a : Arguments) : Config :=
  let c := Config.ofEnvironment env
  { c with
    plannedWorkers := a.workers
    baseDirectory := a.baseDirectory.getD c.baseDirectory
    dbname := a.dbname.getD c.dbname }

section
variable {P W : Type} (host : Host P W) (signal : W → HeldShutdown) (print : String → Task W Unit)

/-- the body of a run, which ends by itself only if it fails -/
def body (plan : Plan) : ClusterAction P W Unit := do
  Plan.bringUp host plan
  let text ← reportText plan.json (← Cluster.current).nodes
  ExceptT.lift ((print text).through (Part.second (Cluster P) W))
  ExceptT.lift (Task.forever ())

/-- A run on an engine. -/
def runOn (config : Config) (plan : Plan) : Task W Outcome := do
  match Cluster.create (P := P) config with
  | .error e => return .failed e
  | .ok cluster =>
    let whole := Cluster.runScoped host signal (fun _ => false) (body host print plan)
    let (result, _) ← whole.owning ⟨id, fun w _ => w⟩ cluster
    match result with
    | .ok _ => return .success
    | .error e => return .failed e

end

end ShardCluster.CommandLine
