import ShardCluster.Json.Record
import ShardCluster.Path

/-!
# Node identities

Role, name, port and data directory of a node, the files it keeps there, and the connection string
that leads to it.
-/

namespace ShardCluster

/-- what a node does in its cluster -/
inductive Role where
  /-- holds the metadata and issues the cluster-wide commands -/
  | coordinator
  /-- holds data, registered with the coordinator -/
  | worker
  deriving DecidableEq, Inhabited

namespace Role

def text : Role → String
  | coordinator => "coordinator"
  | worker => "worker"

def toJson (role : Role) : Json := .ofString role.text

def ofJson? (j : Json) : Option Role := do
  match ← j.choice? with
  | "coordinator" => some coordinator
  | "worker" => some worker
  | _ => none

end Role

/-- how a client reaches a database -/
structure ConnectionString where
  text : String
  deriving DecidableEq, Inhabited

namespace ConnectionString

/-- the connection string for a database on a port -/
def reaching (dbname : String) (port : UInt16) : ConnectionString :=
  ⟨"dbname=" ++ dbname ++ " port=" ++ toString port.toNat⟩

def toJson (c : ConnectionString) : Json := .ofString c.text

def ofJson? (j : Json) : Option ConnectionString := j.toText?.map (⟨·⟩)

end ConnectionString

/-- What tells a node from the others of its cluster. -/
structure Identity where
  name : String
  port : UInt16
  /-- the directory that belongs to this node alone -/
  dataDirectory : Path
  deriving DecidableEq, Inhabited

namespace Identity

/-- the identity whose data directory is named after the node, below `base` -/
def under (base : Path) (name : String) (port : UInt16) : Identity :=
  ⟨name, port, base.child name⟩

def connectionString (i : Identity) (dbname : String) : ConnectionString := .reaching dbname i.port

/-- where the server keeps its data -/
def engineDirectory (i : Identity) : Path := i.dataDirectory.child "data"

/-- where the logs are -/
def logDirectory (i : Identity) : Path := i.dataDirectory.child "logs"

/-- where the server writes its log -/
def logFile (i : Identity) : Path := i.logDirectory.child "postgresql.log"

/-- whether two nodes cannot run side by side -/
def conflictsWith (i j : Identity) : Bool :=
  i.name == j.name || i.port == j.port || i.dataDirectory.same j.dataDirectory

/-- whether two identities are the same, with paths compared by their components -/
def same (i j : Identity) : Bool :=
  i.name == j.name && i.port == j.port && i.dataDirectory.same j.dataDirectory

/-- The identity in JSON, unless its directory is no text. -/
def toJson? (i : Identity) : Option Json := do
  let directory ← i.dataDirectory.text?
  return .ofFields [("name", .ofString i.name), ("port", .ofNat i.port.toNat),
    ("data_directory", .ofString directory)]

def ofJson? (j : Json) : Option Identity := do
  match ← j.record? ["name", "port", "data_directory"] with
  | [name, port, directory] =>
    return ⟨← name.toText?, ← port.toUInt16?, .ofString (← directory.toText?)⟩
  | _ => none

end Identity

end ShardCluster
