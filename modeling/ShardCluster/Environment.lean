import ShardCluster.Path

/-!
# Environment variables

Byte strings by name, and the ways a setting is read from one: as text, as a number, as a switch and
as a list of directories.
-/

namespace ShardCluster

/-- the variables that are set; of two entries for a name the first one counts -/
structure Environment where
  bindings : List (String × Bytes)

namespace Environment

def raw? (env : Environment) (name : String) : Option Bytes := env.bindings.lookup name

/-- the value of a variable that is set to text -/
def text? (env : Environment) (name : String) : Option String := env.raw? name >>= Utf8.strict

/-- the number written by at least one digit and nothing else -/
def digits? (cs : List Char) : Option Nat :=
  if cs.isEmpty ∨ !cs.all Char.isDigit then none
  else some (cs.foldl (fun n d => n * 10 + (d.toNat - 48)) 0)

/-- A number that fits a 64-bit word, with an optional plus sign. -/
def number? (s : String) : Option UInt64 := do
  let n ← digits? (match s.toList with
    | '+' :: cs => cs
    | cs => cs)
  if n < UInt64.size then some (UInt64.ofNat n) else none

/-- the number a variable is set to, or `fallback` -/
def numberOr (env : Environment) (name : String) (fallback : UInt64) : UInt64 :=
  ((env.text? name) >>= number?).getD fallback

/-- The words `1`, `true` and `on` turn a switch on, in any case of the letters. -/
def isOn (s : String) : Bool :=
  let lowered := s.toList.map Char.toLower
  s == "1" || lowered == "true".toList || lowered == "on".toList

/-- the switch a variable is set to; off if unset or not text -/
def switch (env : Environment) (name : String) : Bool := (env.text? name).any isOn

def colon : UInt8 := 0x3A

/-- Where programs are searched for by their names: directories with colons between them, of which
an empty one is the working directory. -/
def searchPath (env : Environment) : List Path :=
  match env.raw? "PATH" with
  | some value => (Path.split colon value).map (⟨·⟩)
  | none => []

/-- where temporary files go -/
def temporaryDirectory (env : Environment) : Bytes :=
  (env.raw? "TMPDIR").getD (Utf8.encode "/tmp")

end Environment

end ShardCluster
