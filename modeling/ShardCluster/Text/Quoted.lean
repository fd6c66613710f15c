import ShardCluster.Text.Hidden

/-!
# Quoted text

A text between double quotes as diagnostics show it: quotes, backslashes and the common controls
get a backslash, other characters without a glyph their code point in braces.
-/

namespace ShardCluster.Text

/-- lower case hexadecimal digits without leading zeros -/
def hex (n : Nat) : String := String.ofList (Nat.toDigits 16 n)

/-- one character inside a quoted text -/
def quotedChar (c : Char) : String :=
  if c = '\x00' then "\\0"
  else if c = '\t' then "\\t"
  else if c = '\n' then "\\n"
  else if c = '\x0d' then "\\r"
  else if c = '\x22' then "\\\""
  else if c = '\x5c' then "\\\\"
  else if isHidden c then "\\u\x7b" ++ hex c.toNat ++ "\x7d"
  else c.toString

/-- the text in double quotes -/
def quoted (s : String) : String :=
  "\"" ++ String.join (s.toList.map quotedChar) ++ "\""

end ShardCluster.Text
