import ShardCluster.Json.Reader
import ShardCluster.Json.Writer

/-!
# Records in JSON

A record is read from an object that has each of its fields once, in any order and among others, or
from an array of exactly its fields; a named choice from its name, or from an object whose only
field has that name and no value.
-/

namespace ShardCluster.Json

def toText? : Json → Option String
  | .string s => s
  | _ => none

def toBool? : Json → Option Bool
  | .bool b => some b
  | _ => none

/-- a natural number below `bound` -/
def toNatBelow? (bound : Nat) : Json → Option Nat
  | .number (some n) => if n < bound then some n else none
  | _ => none

def toUInt16? (j : Json) : Option UInt16 := (toNatBelow? UInt16.size j).map UInt16.ofNat

def toUInt32? (j : Json) : Option UInt32 := (toNatBelow? UInt32.size j).map UInt32.ofNat

/-- the value of the field that occurs once -/
def only? (fields : List (Option String × Json)) (name : String) : Option Json :=
  match fields.filter fun field => field.1 == some name with
  | [(_, value)] => some value
  | _ => none

/-- the values of the named fields, in the order of the names -/
def record? (names : List String) : Json → Option (List Json)
  | .array items => if items.length = names.length then some items else none
  | .object fields =>
    if fields.all (·.1.isSome) then names.mapM (only? fields) else none
  | _ => none

/-- the name of a choice -/
def choice? : Json → Option String
  | .string s => s
  | .object [(key, .null)] => key
  | _ => none

end ShardCluster.Json
