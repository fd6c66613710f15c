/-!
# Text as bytes

UTF-8 in both directions. Reading splits any byte string into characters and maximal ill-formed
parts (`Utf8.pieces`); the forgiving reader (`Utf8.lossy`) shows each ill-formed part as U+FFFD,
the strict one (`Utf8.strict`) refuses the whole.
-/

namespace ShardCluster

/-- uninterpreted octets: file contents, program output, environment values, path names -/
abbrev Bytes := List UInt8

namespace Utf8

/-- the octets of a text -/
def encode (s : String) : Bytes := s.toList.flatMap String.utf8EncodeChar

/-- A character whose first octets have been read. -/
structure Partial where
  /-- the bits read so far -/
  value : Nat
  /-- octets still to come after the next one -/
  after : Nat
  /-- least value of the next octet -/
  low : UInt8
  /-- greatest value of the next octet -/
  high : UInt8

/-- what an octet means where a character may begin -/
inductive Lead where
  | character (c : Char)
  | opens (p : Partial)
  | illFormed

/-- The well-formed first octets; the bounds on the second one rule out overlong forms, surrogates
and values above U+10FFFF. -/
def lead (b : UInt8) : Lead :=
  if b < 0x80 then .character (Char.ofNat b.toNat)
  else if b < 0xC2 then .illFormed
  else if b < 0xE0 then .opens ⟨b.toNat - 0xC0, 0, 0x80, 0xBF⟩
  else if b = 0xE0 then .opens ⟨0, 1, 0xA0, 0xBF⟩
  else if b = 0xED then .opens ⟨0xD, 1, 0x80, 0x9F⟩
  else if b < 0xF0 then .opens ⟨b.toNat - 0xE0, 1, 0x80, 0xBF⟩
  else if b = 0xF0 then .opens ⟨0, 2, 0x90, 0xBF⟩
  else if b < 0xF4 then .opens ⟨b.toNat - 0xF0, 2, 0x80, 0xBF⟩
  else if b = 0xF4 then .opens ⟨4, 2, 0x80, 0x8F⟩
  else .illFormed

/-- The pieces of a byte string, continuing the character `pending`, if any: `none` stands for one
ill-formed part, which is as long as a well-formed beginning goes. -/
def piecesFrom : Option Partial → Bytes → List (Option Char)
  | none, [] => []
  | some _, [] => [none]
  | none, b :: rest =>
    match lead b with
    | .character c => some c :: piecesFrom none rest
    | .opens p => piecesFrom (some p) rest
    | .illFormed => none :: piecesFrom none rest
  | some p, b :: rest =>
    if p.low ≤ b ∧ b ≤ p.high then
      let value := p.value * 64 + (b.toNat - 0x80)
      match p.after with
      | 0 => some (Char.ofNat value) :: piecesFrom none rest
      | n + 1 => piecesFrom (some ⟨value, n, 0x80, 0xBF⟩) rest
    else
      none :: match lead b with
        | .character c => some c :: piecesFrom none rest
        | .opens q => piecesFrom (some q) rest
        | .illFormed => none :: piecesFrom none rest

/-- characters and ill-formed parts, in order -/
def pieces (bytes : Bytes) : List (Option Char) := piecesFrom none bytes

/-- the text with every ill-formed part shown as U+FFFD -/
def lossy (bytes : Bytes) : String :=
  String.ofList ((pieces bytes).map (·.getD '\uFFFD'))

/-- the text, if every part is well-formed -/
def strict (bytes : Bytes) : Option String :=
  ((pieces bytes).mapM id).map String.ofList

end Utf8

end ShardCluster
