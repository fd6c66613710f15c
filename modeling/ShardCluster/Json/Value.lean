/-!
# JSON values

What a JSON text says, as far as records of texts, natural numbers and flags need it. Values that
no such record can hold are kept apart only as far as they can be told from the ones it can.
-/

namespace ShardCluster

/-- A JSON value. A string or key is `none` when it holds half of a surrogate pair, so that no text
answers to it; a number is `none` unless it is written with decimal digits alone. -/
inductive Json where
  | null
  | bool (b : Bool)
  | number (n : Option Nat)
  | string (s : Option String)
  | array (items : List Json)
  | object (fields : List (Option String × Json))

namespace Json

/-- a string value -/
def ofString (s : String) : Json := .string (some s)

/-- a number value -/
def ofNat (n : Nat) : Json := .number (some n)

/-- an object with the given keys, in this order -/
def ofFields (fields : List (String × Json)) : Json :=
  .object (fields.map fun (key, value) => (some key, value))

end Json

end ShardCluster
