import ShardCluster.Files.IoError
import ShardCluster.Path
import ShardCluster.Task.Basic

/-!
# Programs

Running other programs: to their end, or beside one's own work as a child that is looked after.
-/

namespace ShardCluster

/-- A program, by its path or by a bare name that is searched for, and its arguments. -/
structure Invocation where
  program : Path
  arguments : List Bytes
  deriving DecidableEq

/-- how a program ended -/
inductive ExitStatus where
  | exited (code : Nat)
  | signalled (signal : Nat)
  deriving DecidableEq, Inhabited

namespace ExitStatus

def isSuccess : ExitStatus → Bool
  | exited code => code == 0
  | signalled _ => false

/-- the names of the signals from 1 on -/
def signalNames : List String :=
  ["SIGHUP", "SIGINT", "SIGQUIT", "SIGILL", "SIGTRAP", "SIGABRT", "SIGBUS", "SIGFPE", "SIGKILL",
    "SIGUSR1", "SIGSEGV", "SIGUSR2", "SIGPIPE", "SIGALRM", "SIGTERM", "SIGSTKFLT", "SIGCHLD",
    "SIGCONT", "SIGSTOP", "SIGTSTP", "SIGTTIN", "SIGTTOU", "SIGURG", "SIGXCPU", "SIGXFSZ",
    "SIGVTALRM", "SIGPROF", "SIGWINCH", "SIGIO", "SIGPWR", "SIGSYS"]

def text : ExitStatus → String
  | exited code => "exit status: " ++ toString code
  | signalled signal =>
    "signal: " ++ toString signal ++ match signal with
      | 0 => ""
      | n + 1 => match signalNames[n]? with
        | some name => " (" ++ name ++ ")"
        | none => ""

end ExitStatus

/-- what a program leaves when it has ended -/
structure Output where
  status : ExitStatus
  out : Bytes
  err : Bytes

/-- What it takes to run programs; `C` is what it hands out for a child. -/
structure Programs (C W : Type) where
  /-- runs a program to its end -/
  run : Invocation → Task W (Except IoError Output)
  /-- starts a child whose output goes to the end of a file -/
  spawn : Invocation → Path → Task W (Except IoError C)
  /-- how a child ended, if it has -/
  poll : C → Task W (Except IoError (Option ExitStatus))
  /-- waits for a child to end -/
  await : C → Task W (Except IoError ExitStatus)
  /-- kills a child and waits for its end -/
  kill : C → Task W (Except IoError Unit)
  /-- nanoseconds of a clock that never goes back -/
  clock : Task W Nat
  sleep : Nat → Task W Unit
  /-- whether nothing listens on a port -/
  portFree : UInt16 → Task W Bool

end ShardCluster
