import ShardCluster.Environment
import ShardCluster.Node.Template

/-!
# Cluster configuration

What a cluster is set up with. Each field has a default and a variable of the environment that
overrides it, as long as its value can be read.
-/

namespace ShardCluster

/-- the database every node serves unless told otherwise -/
def defaultDbname : String := "postgres"

/-- the configuration of a cluster run -/
structure Config where
  /-- the database of all statements -/
  dbname : String
  /-- the parent of every node's directory -/
  baseDirectory : Path
  /-- how long a node may take to accept connections -/
  startTimeout : Duration
  /-- the number of workers the cluster is sized for; more are refused -/
  plannedWorkers : Nat
  cmdRetryNaptime : Duration
  pollInterval : Duration
  walReceiverTimeout : Duration
  syncReplicas : Bool
  deriving DecidableEq, Inhabited

namespace Config

/-- the defaults, overlaid with the environment -/
def ofEnvironment (env : Environment) : Config where
  dbname := (env.text? "SHARDLORD_DBNAME").getD defaultDbname
  baseDirectory := match env.raw? "SHARDLORD_BASE_DIR" with
    | some bytes => ⟨bytes⟩
    | none => Path.child ⟨env.temporaryDirectory⟩ "shardlord"
  startTimeout := .ofSeconds (env.numberOr "SHARDLORD_START_TIMEOUT_SECS" 60)
  plannedWorkers := (env.numberOr "SHARDLORD_WORKERS" 3).toNat
  cmdRetryNaptime := .ofMillis (env.numberOr "SHARDLORD_CMD_RETRY_NAPTIME_MS" 500)
  pollInterval := .ofMillis (env.numberOr "SHARDLORD_POLL_INTERVAL_MS" 500)
  walReceiverTimeout := .ofSeconds (env.numberOr "SHARDLORD_WAL_RECEIVER_TIMEOUT_SECS" 60)
  syncReplicas := env.switch "SHARDLORD_SYNC_REPLICAS"

/-- The template for every node, unless one of the three time settings is out of range. -/
def template (c : Config) : Except ClusterError Template := do
  let retry ← RetryIntervals.check c.cmdRetryNaptime c.pollInterval
  checkMillis "wal_receiver_timeout" c.walReceiverTimeout
  return { dbname := c.dbname, retry, ceilings := .forWorkers c.plannedWorkers,
           walReceiverTimeout := c.walReceiverTimeout, syncReplicas := c.syncReplicas }

end Config

end ShardCluster
