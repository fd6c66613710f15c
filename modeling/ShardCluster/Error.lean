import ShardCluster.Duration
import ShardCluster.Files.IoError
import ShardCluster.Text.Quoted

/-!
# Errors

What an engine reports, and what goes wrong with nodes and clusters, each with its message. The
error of a failed onboarding holds the one that caused it, that of a teardown all that occurred.
-/

namespace ShardCluster

/-- a failure reported by an engine -/
inductive EngineError where
  /-- a data directory could not be populated -/
  | init (reason : String)
  /-- the server did not accept connections in time -/
  | startTimeout (timeout : Duration)
  /-- the server exited during startup -/
  | crash (status logTail : String)
  /-- a statement failed, with the server's text -/
  | query (message : String)
  /-- the server could not be stopped -/
  | stop (reason : String)
  | io (cause : IoError)
  deriving DecidableEq, Inhabited

def EngineError.message : EngineError → String
  | init reason => "init failed: " ++ reason
  | startTimeout timeout => "not ready after " ++ timeout.text
  | crash status logTail => "process exited (" ++ status ++ "): " ++ logTail
  | query message => message
  | stop reason => "stop failed: " ++ reason
  | io cause => cause.message

/-- a failure of a node or a cluster operation -/
inductive ClusterError where
  /-- the directory or port of a node is not free, or could not be set up -/
  | init (node reason : String)
  /-- the node did not accept connections in time -/
  | start (node : String) (timeout : Duration)
  /-- the server of the node exited while starting -/
  | crash (node status logTail : String)
  | query (node statement message : String)
  /-- an extension could not be installed -/
  | install (node extension message : String)
  /-- the server or the directory of the node could not be released -/
  | cleanup (node reason : String)
  /-- the worker is no member, for the reason given by `source` -/
  | addWorker (worker : String) (source : ClusterError)
  /-- the operation does not fit the state of the cluster -/
  | precondition (reason : String)
  /-- nodes that could not be cleaned up, an error for each -/
  | teardown (failures : List ClusterError)
  | invalidConfig (reason : String)
  | internal (message : String)
  /-- a file operation outside of any node -/
  | io (cause : IoError)
  deriving Inhabited

namespace ClusterError

/-! ### Messages -/

mutual

def message : ClusterError → String
  | init node reason => "Failed to initialize node " ++ node ++ ": " ++ reason
  | start node timeout => "Node " ++ node ++ " did not become ready within " ++ timeout.text
  | crash node status logTail =>
    "Node " ++ node ++ " crashed during startup (" ++ status ++ "): " ++ logTail
  | query node statement message =>
    "Query on node " ++ node ++ " failed: " ++ message ++ " (statement: " ++ statement ++ ")"
  | install node extension message =>
    "Cannot install extension " ++ extension ++ " on node " ++ node ++ ": " ++ message
  | cleanup node reason => "Cleanup of node " ++ node ++ " blocked: " ++ reason
  | addWorker worker source => "Failed to add worker " ++ worker ++ ": " ++ source.message
  | precondition reason => "Precondition failed: " ++ reason
  | teardown failures =>
    "Teardown left " ++ toString failures.length ++ " node(s) behind: "
      ++ "; ".intercalate (messages failures)
  | invalidConfig reason => "Invalid configuration: " ++ reason
  | internal message => "Internal error: " ++ message
  | io cause => "I/O error: " ++ cause.message

/-- the message of each error -/
def messages : List ClusterError → List String
  | [] => []
  | e :: rest => e.message :: messages rest

end

/-- whether the error ends the whole run -/
def isFatal : ClusterError → Bool
  | install .. | internal .. | invalidConfig .. => true
  | _ => false

/-- the node the error is about -/
def node? : ClusterError → Option String
  | init node _ | start node _ | crash node .. | query node .. | install node .. | cleanup node _ =>
    some node
  | addWorker worker _ => some worker
  | _ => none

/-- the messages of the error's source, of the source's source and so on -/
def chain : ClusterError → List String
  | addWorker _ source => source.message :: source.chain
  | io cause => [cause.message]
  | _ => []

/-! ### The final report of a failed run -/

/-- a constructor with its named fields, as diagnostics show it -/
def record (name : String) (fields : List (String × String)) : String :=
  name ++ " \x7b " ++ ", ".intercalate (fields.map fun (field, value) => field ++ ": " ++ value)
    ++ " \x7d"

/-- a file failure as diagnostics show it -/
def showIo : IoError → String
  | .other text => record "Custom" [("kind", "Other"), ("error", Text.quoted text)]
  | cause => Text.quoted cause.message

mutual

/-- the error with all its fields, as diagnostics show it -/
def detail : ClusterError → String
  | init node reason =>
    record "Init" [("node", Text.quoted node), ("reason", Text.quoted reason)]
  | start node timeout => record "Start" [("node", Text.quoted node), ("timeout", timeout.text)]
  | crash node status logTail =>
    record "Crash" [("node", Text.quoted node), ("status", Text.quoted status),
      ("log_tail", Text.quoted logTail)]
  | query node statement message =>
    record "Query" [("node", Text.quoted node), ("statement", Text.quoted statement),
      ("message", Text.quoted message)]
  | install node extension message =>
    record "Install" [("node", Text.quoted node), ("extension", Text.quoted extension),
      ("message", Text.quoted message)]
  | cleanup node reason =>
    record "Cleanup" [("node", Text.quoted node), ("reason", Text.quoted reason)]
  | addWorker worker source =>
    record "AddWorker" [("worker", Text.quoted worker), ("source", source.detail)]
  | precondition reason => record "Precondition" [("reason", Text.quoted reason)]
  | teardown failures =>
    record "Teardown" [("failures", "[" ++ ", ".intercalate (details failures) ++ "]")]
  | invalidConfig reason => record "InvalidConfig" [("reason", Text.quoted reason)]
  | internal message => record "Internal" [("message", Text.quoted message)]
  | io cause => "Io(" ++ showIo cause ++ ")"

def details : List ClusterError → List String
  | [] => []
  | e :: rest => e.detail :: details rest

end

end ClusterError

end ShardCluster
