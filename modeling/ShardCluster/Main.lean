import ShardCluster.CommandLine.Session

/-!
# The executable

Reads the command line and the environment, runs the program with nothing installed beside it and
writes what it reports. The cluster stays up until standard input ends.
-/

open ShardCluster

/-- the variables a run depends on -/
def variableNames : List String :=
  ["SHARDLORD_DBNAME", "SHARDLORD_BASE_DIR", "SHARDLORD_START_TIMEOUT_SECS", "SHARDLORD_WORKERS",
   "SHARDLORD_CMD_RETRY_NAPTIME_MS", "SHARDLORD_POLL_INTERVAL_MS",
   "SHARDLORD_WAL_RECEIVER_TIMEOUT_SECS", "SHARDLORD_SYNC_REPLICAS", "TMPDIR", "PG_BIN", "PATH"]

/-- the variables of the process that a run depends on -/
def processEnvironment : IO Environment := do
  let settings ← variableNames.filterMapM fun name => do
    return (← IO.getEnv name).map fun value => (name, Utf8.encode value)
  return ⟨settings⟩

/-- returns once nothing is left to read -/
partial def awaitEnd (input : IO.FS.Stream) : IO Unit := do
  unless (← input.getLine).isEmpty do awaitEnd input

def main (args : List String) : IO UInt32 := do
  let session : CommandLine.Session := {
    arguments := args.map Utf8.encode
    environment := ← processEnvironment
    programs := none
    preparation := []
    reading := [] }
  match session.run with
  | none => return CommandLine.Outcome.usage.exitCode.toUInt32
  | some transcript =>
    let output ← IO.getStdout
    output.putStr transcript.output
    output.flush
    if transcript.sight.isSome then awaitEnd (← IO.getStdin)
    (← IO.getStderr).putStr transcript.outcome.complaint
    return transcript.outcome.exitCode.toUInt32
