import ShardCluster.Json.Value

/-!
# Writing JSON

Two layouts of one value: without any blanks, and with one item a line, indented by two spaces for
every level. Strings escape the quote, the backslash and the controls, and nothing else.
-/

namespace ShardCluster.Json

/-- one character inside a string -/
def escaped (c : Char) : List Char :=
  if c = '\x22' then ['\x5c', '\x22']
  else if c = '\x5c' then ['\x5c', '\x5c']
  else if c = '\x08' then ['\x5c', 'b']
  else if c = '\x09' then ['\x5c', 't']
  else if c = '\x0a' then ['\x5c', 'n']
  else if c = '\x0c' then ['\x5c', 'f']
  else if c = '\x0d' then ['\x5c', 'r']
  else if c.toNat < 0x20 then
    ['\x5c', 'u', '0', '0', Nat.digitChar (c.toNat / 16), Nat.digitChar (c.toNat % 16)]
  else [c]

/-- a string in its quotes -/
def quote (s : String) : List Char := '\x22' :: s.toList.flatMap escaped ++ ['\x22']

/-- all items, with `separator` between neighbours -/
def separated (separator : List Char) : List (List Char) → List Char
  | [] => []
  | [item] => item
  | item :: rest => item ++ separator ++ separated separator rest

/-- A string or number that answers to no text or natural number is written as `null`. -/
def scalar : Json → List Char
  | .bool true => "true".toList
  | .bool false => "false".toList
  | .number (some n) => Nat.toDigits 10 n
  | .string (some s) => quote s
  | _ => "null".toList

mutual

/-- the characters of a value without blanks -/
def compactChars : Json → List Char
  | .array items => '[' :: separated [','] (compactItems items) ++ [']']
  | .object fields => '\x7b' :: separated [','] (compactFields fields) ++ ['\x7d']
  | value => scalar value

def compactItems : List Json → List (List Char)
  | [] => []
  | item :: rest => compactChars item :: compactItems rest

def compactFields : List (Option String × Json) → List (List Char)
  | [] => []
  | (key, value) :: rest =>
    (quote (key.getD "") ++ ':' :: compactChars value) :: compactFields rest

end

/-- the text of a value without blanks -/
def compact (value : Json) : String := String.ofList (compactChars value)

/-- all items between two brackets, each on a line of its own unless there is none -/
def block (level : Nat) (opening closing : Char) (items : List (List Char)) : List Char :=
  if items.isEmpty then [opening, closing]
  else
    let indent := List.replicate (2 * (level + 1)) ' '
    opening :: '\n' :: indent ++ separated (',' :: '\n' :: indent) items
      ++ '\n' :: List.replicate (2 * level) ' ' ++ [closing]

mutual

/-- the characters of an indented value whose first line stands at `level` -/
def indentedChars (level : Nat) : Json → List Char
  | .array items => block level '[' ']' (indentedItems (level + 1) items)
  | .object fields => block level '\x7b' '\x7d' (indentedFields (level + 1) fields)
  | value => scalar value

def indentedItems (level : Nat) : List Json → List (List Char)
  | [] => []
  | item :: rest => indentedChars level item :: indentedItems level rest

def indentedFields (level : Nat) : List (Option String × Json) → List (List Char)
  | [] => []
  | (key, value) :: rest =>
    (quote (key.getD "") ++ ':' :: ' ' :: indentedChars level value)
      :: indentedFields level rest

end

/-- the text of a value with one item a line -/
def indented (value : Json) : String := String.ofList (indentedChars 0 value)

end ShardCluster.Json
