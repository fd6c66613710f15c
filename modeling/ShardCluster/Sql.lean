import ShardCluster.Node.Identity

/-!
# Statements

The SQL that sets a cluster up and partitions its tables. Texts go in as literals, in which a quote
is written twice.
-/

namespace ShardCluster

/-- the extension that turns nodes into a sharded cluster -/
def shardingExtension : String := "pg_shardman"

/-- the partitioning extension the sharding extension builds on -/
def partitioningExtension : String := "pg_pathman"

namespace Sql

/-- the characters of a literal between its quotes -/
def doubled : List Char → List Char
  | [] => []
  | c :: rest => if c = '\x27' then '\x27' :: '\x27' :: doubled rest else c :: doubled rest

/-- a text as an SQL literal -/
def literal (value : String) : String :=
  String.ofList ('\x27' :: doubled value.toList ++ ['\x27'])

/-- installs an extension and those it depends on -/
def createExtension (extension : String) : String :=
  "create extension " ++ extension ++ " cascade"

/-- installs the sharding extension -/
def installSharding : String := createExtension shardingExtension

/-- registers a worker with the coordinator -/
def addNode (worker : ConnectionString) : String :=
  "select shardman.add_node(" ++ literal worker.text ++ ")"

def flag (b : Bool) : String := if b then "true" else "false"

end Sql

/-- Hash partitioning of a table across the registered workers. -/
structure HashPartitioning where
  /-- copies of every partition -/
  replicationFactor : UInt32
  table : String
  /-- the column whose hash picks the partition -/
  key : String
  partitions : UInt32
  /-- at once, not with the next round of commands -/
  immediate : Bool
  deriving DecidableEq, Inhabited

namespace HashPartitioning

/-- the statement for the coordinator -/
def statement (p : HashPartitioning) : String :=
  "select shardman.create_hash_partitions(" ++ toString p.replicationFactor.toNat ++ ", "
    ++ Sql.literal p.table ++ ", " ++ Sql.literal p.key ++ ", " ++ toString p.partitions.toNat
    ++ ", " ++ Sql.flag p.immediate ++ ")"

def toJson (p : HashPartitioning) : Json :=
  .ofFields [("replication_factor", .ofNat p.replicationFactor.toNat),
    ("table", .ofString p.table), ("key", .ofString p.key),
    ("partitions", .ofNat p.partitions.toNat), ("immediate", .bool p.immediate)]

def ofJson? (j : Json) : Option HashPartitioning := do
  match ← j.record? ["replication_factor", "table", "key", "partitions", "immediate"] with
  | [factor, table, key, partitions, immediate] =>
    return ⟨← factor.toUInt32?, ← table.toText?, ← key.toText?, ← partitions.toUInt32?,
      ← immediate.toBool?⟩
  | _ => none

end HashPartitioning

end ShardCluster
