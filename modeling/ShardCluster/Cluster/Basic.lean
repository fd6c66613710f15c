import ShardCluster.Cluster.Config
import ShardCluster.Cluster.Membership
import ShardCluster.Node.Lifecycle

/-!
# Clusters

The nodes of one cluster run and where they are kept: the coordinator, the registered workers, the
worker that is being set up and the nodes whose release failed. A node is always in exactly one of
these places, so that a teardown finds it whatever became of the operation that set it up.
-/

namespace ShardCluster

structure Cluster (P : Type) where
  config : Config
  template : Template
  /-- the members others may know of -/
  membership : Membership := {}
  coordinator : Option (Node P) := none
  /-- the registered workers, in the order of the membership -/
  workers : List (Node P) := []
  /-- a worker between its creation and its registration -/
  onboarding : Option (Node P) := none
  /-- nodes whose release failed; the next teardown tries again -/
  stranded : List (Node P) := []

/-- one member of a cluster as others see it -/
structure Summary where
  name : String
  role : Role
  port : UInt16
  dataDirectory : Path
  logFile : Path
  connectionString : ConnectionString
  phase : Phase

/-- The summary in JSON, unless a path is no text. -/
def Summary.toJson? (s : Summary) : Option Json := do
  let directory ← s.dataDirectory.text?
  let logFile ← s.logFile.text?
  return .ofFields [("name", .ofString s.name), ("role", s.role.toJson),
    ("port", .ofNat s.port.toNat), ("data_directory", .ofString directory),
    ("log_file", .ofString logFile), ("connection_string", s.connectionString.toJson),
    ("phase", s.phase.toJson)]

namespace Cluster

variable {P : Type}

/-- a cluster without nodes, unless its configuration cannot be used -/
def create (config : Config) : Except ClusterError (Cluster P) := do
  return { config, template := ← config.template }

/-! ### The nodes of a cluster -/

/-- every node that has not been handed back -/
def allocated (c : Cluster P) : List (Node P) :=
  c.coordinator.toList ++ c.workers ++ c.onboarding.toList ++ c.stranded

/-- the nodes others may know of: a coordinator that is a member, and the workers -/
def members (c : Cluster P) : List (Node P) :=
  (if c.membership.coordinator.isSome then c.coordinator.toList else []) ++ c.workers

/-- Refuses an identity that a node not yet cleaned up shares a name, a port or a directory with. -/
def checkIdentity (c : Cluster P) (identity : Identity) : Except ClusterError Unit :=
  match c.allocated.find? fun n =>
      n.phase ≠ .cleanedUp && n.identity.conflictsWith identity with
  | some n =>
    .error (.init identity.name ("conflicts with node " ++ n.name ++ " (port "
      ++ toString n.port.toNat ++ ", directory " ++ n.identity.dataDirectory.display ++ ")"))
  | none => .ok ()

/-- a member as others see it: a worker if the membership lists a worker of its name -/
def summarize (c : Cluster P) (n : Node P) : Summary where
  name := n.name
  role := if c.membership.workers.any (·.name == n.name) then .worker else .coordinator
  port := n.port
  dataDirectory := n.identity.dataDirectory
  logFile := n.identity.logFile
  connectionString := n.identity.connectionString c.config.dbname
  phase := n.phase

/-- the coordinator and the workers in the order of their registration -/
def nodes (c : Cluster P) : List Summary := c.members.map c.summarize

end Cluster

end ShardCluster
