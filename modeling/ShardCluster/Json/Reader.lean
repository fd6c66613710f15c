import ShardCluster.Json.Value

/-!
# Reading JSON

A strict reader of one value with blanks around it. Every text of the JSON grammar is read, however
deep; nothing else is.
-/

namespace ShardCluster.Json

/-- the four blanks of JSON -/
def isSpace (c : Char) : Bool := c = ' ' || c = '\n' || c = '\t' || c = '\x0d'

def skipSpace (cs : List Char) : List Char := cs.dropWhile isSpace

/-! ### Strings -/

/-- a character of a string, or one half of a surrogate pair written as an escape -/
inductive Piece where
  | whole (c : Char)
  | half (n : Nat)

def hexDigit? (c : Char) : Option Nat :=
  if '0' ≤ c ∧ c ≤ '9' then some (c.toNat - 48)
  else if 'a' ≤ c ∧ c ≤ 'f' then some (c.toNat - 87)
  else if 'A' ≤ c ∧ c ≤ 'F' then some (c.toNat - 55)
  else none

/-- the number that four hexadecimal digits write -/
def hexNumber? (a b c d : Char) : Option Nat := do
  return (← hexDigit? a) * 4096 + (← hexDigit? b) * 256 + (← hexDigit? c) * 16 + (← hexDigit? d)

/-- what the letter after a backslash stands for, the numeric escape apart -/
def escape? (c : Char) : Option Char :=
  if c = '\x22' then some '\x22'
  else if c = '\x5c' then some '\x5c'
  else if c = '/' then some '/'
  else if c = 'b' then some '\x08'
  else if c = 'f' then some '\x0c'
  else if c = 'n' then some '\x0a'
  else if c = 'r' then some '\x0d'
  else if c = 't' then some '\x09'
  else none

/-- a code unit as a piece -/
def Piece.ofUnit (n : Nat) : Piece :=
  if 0xD800 ≤ n ∧ n < 0xE000 then .half n else .whole (Char.ofNat n)

/-- The pieces of a string up to its closing quote, and what follows the quote. -/
def pieces? : List Char → Option (List Piece × List Char)
  | [] => none
  | '\x5c' :: 'u' :: a :: b :: c :: d :: rest => do
    let n ← hexNumber? a b c d
    let (more, rest) ← pieces? rest
    return (.ofUnit n :: more, rest)
  | '\x5c' :: e :: rest => do
    let c ← escape? e
    let (more, rest) ← pieces? rest
    return (.whole c :: more, rest)
  | c :: rest =>
    if c = '\x22' then some ([], rest)
    else if c = '\x5c' ∨ c.toNat < 0x20 then none
    else do
      let (more, rest) ← pieces? rest
      return (.whole c :: more, rest)

/-- Joins the halves of surrogate pairs; a half without its partner answers to no character. -/
def joined? : List Piece → Option (List Char)
  | [] => some []
  | .whole c :: rest => (joined? rest).map (c :: ·)
  | .half high :: .half low :: rest =>
    if high < 0xDC00 ∧ 0xDC00 ≤ low then
      (joined? rest).map (Char.ofNat ((high - 0xD800) * 1024 + (low - 0xDC00) + 0x10000) :: ·)
    else none
  | .half _ :: _ => none

/-- A string after its opening quote. -/
def string? (cs : List Char) : Option (Option String × List Char) := do
  let (pieces, rest) ← pieces? cs
  return ((joined? pieces).map String.ofList, rest)

/-! ### Numbers -/

/-- at least one digit -/
def digits? (cs : List Char) : Option (List Char × List Char) :=
  let ds := cs.takeWhile Char.isDigit
  if ds.isEmpty then none else some (ds, cs.dropWhile Char.isDigit)

/-- the number that decimal digits write -/
def decimal (digits : List Char) : Nat :=
  digits.foldl (fun n d => n * 10 + (d.toNat - 48)) 0

/-- an integer part: digits that do not start with a zero, or one zero -/
def whole? (cs : List Char) : Option (Nat × List Char) := do
  let (ds, rest) ← digits? cs
  if ds.length > 1 && ds.head? == some '0' then none else some (decimal ds, rest)

/-- an optional fraction; whether there was one -/
def fraction? : List Char → Option (Bool × List Char)
  | '.' :: rest => (digits? rest).map fun (_, rest) => (true, rest)
  | cs => some (false, cs)

/-- an optional exponent; whether there was one -/
def exponent? : List Char → Option (Bool × List Char)
  | [] => some (false, [])
  | e :: rest =>
    if e = 'e' ∨ e = 'E' then
      let unsigned := match rest with
        | '+' :: r => r
        | '-' :: r => r
        | r => r
      (digits? unsigned).map fun (_, rest) => (true, rest)
    else some (false, e :: rest)

/-- A number without its sign. -/
def unsigned? (cs : List Char) : Option (Option Nat × List Char) := do
  let (n, rest) ← whole? cs
  let (cut, rest) ← fraction? rest
  let (scaled, rest) ← exponent? rest
  return (if cut || scaled then none else some n, rest)

/-! ### Values -/

mutual

/-- A value after blanks; every call takes one unit of `fuel`. -/
def value? : Nat → List Char → Option (Json × List Char)
  | 0, _ => none
  | fuel + 1, cs =>
    match skipSpace cs with
    | 'n' :: 'u' :: 'l' :: 'l' :: rest => some (.null, rest)
    | 't' :: 'r' :: 'u' :: 'e' :: rest => some (.bool true, rest)
    | 'f' :: 'a' :: 'l' :: 's' :: 'e' :: rest => some (.bool false, rest)
    | '\x22' :: rest => (string? rest).map fun (s, rest) => (.string s, rest)
    | '-' :: rest => (unsigned? rest).map fun (_, rest) => (.number none, rest)
    | '[' :: rest =>
      match skipSpace rest with
      | ']' :: rest => some (.array [], rest)
      | rest => (items? fuel rest).map fun (items, rest) => (.array items, rest)
    | '\x7b' :: rest =>
      match skipSpace rest with
      | '\x7d' :: rest => some (.object [], rest)
      | rest => (fields? fuel rest).map fun (fields, rest) => (.object fields, rest)
    | cs => (unsigned? cs).map fun (n, rest) => (.number n, rest)

/-- At least one item, up to the closing bracket. -/
def items? : Nat → List Char → Option (List Json × List Char)
  | 0, _ => none
  | fuel + 1, cs => do
    let (item, rest) ← value? fuel cs
    match skipSpace rest with
    | ',' :: rest =>
      let (more, rest) ← items? fuel rest
      return (item :: more, rest)
    | ']' :: rest => return ([item], rest)
    | _ => none

/-- At least one field, up to the closing brace. -/
def fields? : Nat → List Char → Option (List (Option String × Json) × List Char)
  | 0, _ => none
  | fuel + 1, cs => do
    let '\x22' :: rest := skipSpace cs | none
    let (key, rest) ← string? rest
    let ':' :: rest := skipSpace rest | none
    let (value, rest) ← value? fuel rest
    match skipSpace rest with
    | ',' :: rest =>
      let (more, rest) ← fields? fuel rest
      return ((key, value) :: more, rest)
    | '\x7d' :: rest => return ([(key, value)], rest)
    | _ => none

end

/-- The one value that the characters write. Every call for a value, an item or a field takes a
character, so twice their number of calls is enough. -/
def ofChars? (cs : List Char) : Option Json := do
  let (value, rest) ← value? (2 * cs.length + 1) cs
  if (skipSpace rest).isEmpty then some value else none

/-- The one value that a text writes. -/
def read? (text : String) : Option Json := ofChars? text.toList

end ShardCluster.Json
