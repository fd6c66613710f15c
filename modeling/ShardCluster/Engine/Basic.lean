import ShardCluster.Error
import ShardCluster.Path
import ShardCluster.Task.Basic

/-!
# Engines

What a node needs of a database engine: data directories, servers and statements. An engine is a
structure of tasks on any world `W`; `P` is what it hands out for a running server.
-/

namespace ShardCluster

/-- what it takes to launch a server -/
structure Launch where
  /-- a directory that `Engine.init` has populated -/
  dataDirectory : Path
  port : UInt16
  /-- the file that takes the server's output -/
  logFile : Path
  /-- how long to wait for the server to accept connections -/
  timeout : Duration

/-- a database engine -/
structure Engine (P W : Type) where
  /-- populates a data directory -/
  init : Path → Task W (Except EngineError Unit)
  /-- launches a server and waits until it accepts connections -/
  start : Launch → Task W (Except EngineError P)
  /-- shuts a server down -/
  stop : P → Task W (Except EngineError Unit)
  /-- runs a statement in a database of the server on a port -/
  execute : (port : UInt16) → (database statement : String) → Task W (Except EngineError String)
  /-- whether nothing listens on a port -/
  portAvailable : UInt16 → Task W Bool
  /-- the file in a data directory that settings are added to -/
  configFile : Path → Path := fun directory => directory.child "postgresql.conf"

end ShardCluster
