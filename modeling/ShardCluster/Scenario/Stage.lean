import ShardCluster.Files.Listing
import ShardCluster.Engine.Interference
import ShardCluster.Scenario.Report

/-!
# The stage of a scenario

The world that the steps of a scenario act on, and what is seen of it.
-/

namespace ShardCluster.Scenario

/-- Files, engine and signal, which every step can get at, and what has been seen of them. -/
structure Floor where
  files : FileSystem
  engine : Simulated := {}
  interference : Interference := {}
  shutdown : HeldShutdown := .new
  /-- servers that were started by name -/
  processes : List (String × Simulated.Process) := []
  /-- the listing of the latest view -/
  seenListing : List String := []
  /-- how many statements have been seen -/
  seenStatements : Nat := 0
  /-- reports of the scoped run that is under way -/
  reports : List Report := []

namespace Floor

def filesPart : Part Floor FileSystem := ⟨Floor.files, fun fs f => { f with files := fs }⟩

def enginePart : Part Floor Simulated := ⟨Floor.engine, fun s f => { f with engine := s }⟩

def interferencePart : Part Floor Interference :=
  ⟨Floor.interference, fun i f => { f with interference := i }⟩

def storage : Storage Floor := Storage.ofFiles filesPart

/-- the simulated engine under interference -/
def engineUnderTest : Engine Simulated.Process Floor :=
  Interference.engine interferencePart (·.port) (Simulated.engine enginePart storage)

def host : Host Simulated.Process Floor := ⟨engineUnderTest, storage⟩

/-- What can be seen now; seeing it makes it old. -/
def observe (f : Floor) : View × Floor :=
  let listing := f.files.listing []
  ({ ports := f.engine.running
     statements := f.engine.statements.drop f.seenStatements
     changes := FileSystem.changes f.seenListing listing },
    { f with seenListing := listing, seenStatements := f.engine.statements.length })

/-- The floor of a new scenario, with an empty working directory. -/
def empty : Floor where
  files := .fresh

end Floor

/-- The floor, the nodes that were created by name and the current cluster. -/
structure Stage where
  floor : Floor := .empty
  nodes : List (String × Node Simulated.Process) := []
  cluster : Option (Cluster Simulated.Process) := none

namespace Stage

def floorPart : Part Stage Floor := ⟨Stage.floor, fun f s => { s with floor := f }⟩

/-- the current cluster with the floor -/
def getCluster (s : Stage) : Option (Cluster Simulated.Process × Floor) :=
  s.cluster.map (·, s.floor)

def putCluster : Cluster Simulated.Process × Floor → Stage → Stage
  | (c, f), s => { s with cluster := some c, floor := f }

/-- the node of that name with the floor -/
def getNode (handle : String) (s : Stage) : Option (Node Simulated.Process × Floor) :=
  (s.nodes.lookup handle).map (·, s.floor)

def putNode (handle : String) : Node Simulated.Process × Floor → Stage → Stage
  | (n, f), s =>
    { s with nodes := (handle, n) :: s.nodes.filter (·.1 != handle), floor := f }

end Stage

end ShardCluster.Scenario
