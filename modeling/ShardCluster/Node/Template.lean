import ShardCluster.Error
import ShardCluster.Node.Ceilings
import ShardCluster.Node.Identity
import ShardCluster.Sql

/-!
# Configuration templates

The block of settings that is added to the configuration file of a node. Every node of a cluster
has the shared settings, and each role some of its own.
-/

namespace ShardCluster

/-- one line `key = value` -/
structure Setting where
  key : String
  value : String
  deriving DecidableEq, Inhabited

/-- the line of a setting, with its ending -/
def Setting.line (s : Setting) : String := s.key ++ " = " ++ s.value ++ "\n"

/-- most milliseconds a time setting can hold -/
def millisLimit : Nat := 2147483647

/-- Refuses a duration that is not between one and `millisLimit` whole milliseconds. -/
def checkMillis (name : String) (duration : Duration) : Except ClusterError Unit :=
  if duration.millis = 0 ∨ duration.millis > millisLimit then
    .error (.invalidConfig (name ++ " must be between 1ms and " ++ toString millisLimit
      ++ "ms, got " ++ duration.text))
  else .ok ()

/-- how long the coordinator waits before a command is tried again, and between two looks at its
nodes -/
structure RetryIntervals where
  naptime : Duration
  pollInterval : Duration
  deriving DecidableEq, Inhabited

/-- Two intervals that time settings can hold; the first one that is not is reported. -/
def RetryIntervals.check (naptime pollInterval : Duration) :
    Except ClusterError RetryIntervals := do
  checkMillis "cmd_retry_naptime" naptime
  checkMillis "poll_interval" pollInterval
  return ⟨naptime, pollInterval⟩

/-- what the settings of every node are made from -/
structure Template where
  dbname : String
  retry : RetryIntervals
  ceilings : Ceilings
  /-- receive timeout of a worker's replication connections -/
  walReceiverTimeout : Duration := .ofSeconds 60
  /-- whether replicas of a partition are synchronous -/
  syncReplicas : Bool := false
  deriving DecidableEq, Inhabited

namespace Template

/-- whole seconds where the milliseconds allow it -/
def timeSetting (duration : Duration) : String :=
  if duration.millis % 1000 = 0 then toString (duration.millis / 1000) ++ "s"
  else toString duration.millis ++ "ms"

def onOff (flag : Bool) : String := if flag then "on" else "off"

/-- a value between single quotes -/
def inQuotes (value : String) : String := "'" ++ value ++ "'"

/-- the settings every node has in common -/
def sharedSettings (t : Template) : List Setting := [
  ⟨"shared_preload_libraries", inQuotes (partitioningExtension ++ ", " ++ shardingExtension)⟩,
  ⟨"log_min_messages", "DEBUG1"⟩,
  ⟨"client_min_messages", "NOTICE"⟩,
  ⟨"log_line_prefix", "'%m %z'"⟩,
  ⟨"log_replication_commands", "on"⟩,
  ⟨"synchronous_commit", "on"⟩,
  ⟨"wal_level", "logical"⟩,
  ⟨"max_replication_slots", toString t.ceilings.maxReplicationSlots.toNat⟩,
  ⟨"max_wal_senders", toString t.ceilings.maxWalSenders.toNat⟩,
  ⟨"max_connections", toString t.ceilings.maxConnections.toNat⟩,
  ⟨"shardman.sync_replicas", onOff t.syncReplicas⟩]

/-- the settings only nodes of one role have; `coordinator` leads to the coordinator -/
def roleSettings (t : Template) (coordinator : ConnectionString) : Role → List Setting
  | .coordinator => [
    ⟨"shardman.shardlord", "on"⟩,
    ⟨"shardman.shardlord_dbname", t.dbname⟩,
    ⟨"shardman.shardlord_connstring", inQuotes coordinator.text⟩,
    ⟨"shardman.cmd_retry_naptime", toString t.retry.naptime.millis⟩,
    ⟨"shardman.poll_interval", toString t.retry.pollInterval.millis⟩]
  | .worker => [
    ⟨"max_logical_replication_workers", toString t.ceilings.maxLogicalReplicationWorkers.toNat⟩,
    ⟨"max_worker_processes", toString t.ceilings.maxWorkerProcesses.toNat⟩,
    ⟨"wal_receiver_timeout", timeSetting t.walReceiverTimeout⟩]

/-- every setting of a node, in the order of the block -/
def settings (t : Template) (role : Role) (node : Identity) (coordinator : ConnectionString) :
    List Setting :=
  ⟨"port", toString node.port.toNat⟩ :: ⟨"listen_addresses", "'localhost'"⟩
    :: t.roleSettings coordinator role ++ t.sharedSettings

/-- the comment at the head of the block -/
def heading (role : Role) (node : Identity) (coordinator : ConnectionString) : String :=
  match role with
  | .coordinator => "# shardlord: coordinator node '" ++ node.name ++ "'\n"
  | .worker =>
    "# shardlord: worker node '" ++ node.name ++ "' (coordinator: " ++ coordinator.text ++ ")\n"

/-- the block for a node -/
def render (t : Template) (role : Role) (node : Identity) (coordinator : ConnectionString) :
    String :=
  heading role node coordinator
    ++ String.join ((t.settings role node coordinator).map Setting.line)

end Template

end ShardCluster
