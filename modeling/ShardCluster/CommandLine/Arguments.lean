import ShardCluster.Environment
import ShardCluster.Path

/-!
# Command line arguments

The options of the program. Each is given at most once, as `--name value` or `--name=value`; the
two switches take no value, and nothing else is accepted.
-/

namespace ShardCluster.CommandLine

/-- what the program was called with -/
structure Arguments where
  /-- the port of the coordinator; workers take the ports after it -/
  basePort : UInt16 := 5432
  /-- number of workers -/
  workers : Nat := 3
  /-- parent of the data directories -/
  baseDirectory : Option Path := none
  /-- directory of the PostgreSQL programs -/
  binDirectory : Option Path := none
  dbname : Option String := none
  /-- log file, truncated at the start -/
  logFile : Path := .ofString "/tmp/shmn.log"
  /-- replication factor of the demo table -/
  replicas : UInt32 := 2
  /-- partitions of the demo table -/
  partitions : UInt32 := 4
  /-- whether servers are only simulated -/
  dryRun : Bool := false
  /-- whether the nodes are reported in JSON -/
  json : Bool := false

/-- the options with a value -/
inductive Parameter where
  | basePort
  | workers
  | baseDirectory
  | binDirectory
  | dbname
  | logFile
  | replicas
  | partitions
  deriving DecidableEq

/-- the options without one -/
inductive Switch where
  | dryRun
  | json
  deriving DecidableEq

namespace Arguments

def parameter? : String → Option Parameter
  | "base-port" => some .basePort
  | "workers" => some .workers
  | "base-dir" => some .baseDirectory
  | "pg-bin" => some .binDirectory
  | "dbname" => some .dbname
  | "log-file" => some .logFile
  | "replicas" => some .replicas
  | "partitions" => some .partitions
  | _ => none

def switch? : String → Option Switch
  | "dry-run" => some .dryRun
  | "json" => some .json
  | _ => none

/-! ### Values -/

/-- a number with an optional plus sign -/
def natural? (s : String) : Option Nat :=
  Environment.digits? (match s.toList with
    | '+' :: cs => cs
    | cs => cs)

/-- A number below `bound`; zero may have a minus sign. -/
def numberBelow? (bound : Nat) (s : String) : Option Nat := do
  let n ← match s.toList with
    | '-' :: cs => do
      let n ← Environment.digits? cs
      if n = 0 then some 0 else none
    | _ => natural? s
  if n < bound then some n else none

/-- a path with at least one octet -/
def path? (value : Bytes) : Option Path := if value.isEmpty then none else some ⟨value⟩

/-- gives a parameter its value -/
def assign (a : Arguments) (value : Bytes) : Parameter → Option Arguments
  | .basePort => do
    return { a with basePort := UInt16.ofNat (← numberBelow? UInt16.size (← Utf8.strict value)) }
  | .workers => do
    let n ← natural? (← Utf8.strict value)
    if n < UInt64.size then some { a with workers := n } else none
  | .baseDirectory => do return { a with baseDirectory := some (← path? value) }
  | .binDirectory => do return { a with binDirectory := some (← path? value) }
  | .dbname => do return { a with dbname := some (← Utf8.strict value) }
  | .logFile => do return { a with logFile := ← path? value }
  | .replicas => do
    return { a with replicas := UInt32.ofNat (← numberBelow? UInt32.size (← Utf8.strict value)) }
  | .partitions => do
    return { a with partitions := UInt32.ofNat (← numberBelow? UInt32.size (← Utf8.strict value)) }

def turnOn (a : Arguments) : Switch → Arguments
  | .dryRun => { a with dryRun := true }
  | .json => { a with json := true }

/-! ### Words -/

/-- what one word of the command line is -/
inductive Word where
  /-- two hyphens, a name, and perhaps an equals sign and a value -/
  | long (name : Bytes) (value : Option Bytes)
  /-- two hyphens alone, after which no options are looked for -/
  | escape
  /-- a hyphen and more -/
  | short
  | plain (value : Bytes)

def hyphen : UInt8 := 0x2D

def equalsSign : UInt8 := 0x3D

def Word.read : Bytes → Word
  | [h₁, h₂] => if h₁ = hyphen ∧ h₂ = hyphen then .escape else if h₁ = hyphen then .short
    else .plain [h₁, h₂]
  | h₁ :: h₂ :: rest =>
    if h₁ = hyphen ∧ h₂ = hyphen then
      match rest.dropWhile (· != equalsSign) with
      | [] => .long rest none
      | _ :: value => .long (rest.takeWhile (· != equalsSign)) (some value)
    else if h₁ = hyphen then .short
    else .plain (h₁ :: h₂ :: rest)
  | word => .plain word

/-- Reads words from the left; `parameters` and `switches` are those met so far. -/
def readFrom (a : Arguments) (parameters : List Parameter) (switches : List Switch) :
    List Bytes → Option Arguments
  | [] => some a
  | word :: rest =>
    match Word.read word with
    | .escape => if rest.isEmpty then some a else none
    | .short | .plain _ => none
    | .long name value =>
      match (Utf8.strict name).bind parameter?, (Utf8.strict name).bind switch? with
      | some parameter, _ =>
        if parameters.contains parameter then none
        else match value with
          | some v => do readFrom (← a.assign v parameter) (parameter :: parameters) switches rest
          | none =>
            match rest with
            | [] => none
            | next :: rest =>
              match Word.read next with
              | .plain v => do
                readFrom (← a.assign v parameter) (parameter :: parameters) switches rest
              | _ => none
      | none, some switch =>
        if switches.contains switch || value.isSome then none
        else readFrom (a.turnOn switch) parameters (switch :: switches) rest
      | none, none => none

/-- The arguments that the words of a command line give, if it is well-formed. -/
def read? (words : List Bytes) : Option Arguments := readFrom {} [] [] words

end Arguments

end ShardCluster.CommandLine
