import ShardCluster.Text.Case

/-!
# Lower case

Lowering a text letter by letter, with the two letters that need more than a table: the dotted
capital I becomes two characters, and a capital sigma takes its final form at the end of a word.
-/

namespace ShardCluster.Text

/-- whether the first character that is not Case_Ignorable is Cased -/
def meetsCased (cs : List Char) : Bool :=
  ((cs.dropWhile isIgnorable).head?).any isCased

/-- Lowers `cs`, where `before` holds the characters to the left, nearest first. -/
def lowerFrom (before : List Char) : List Char → List Char
  | [] => []
  | c :: rest =>
    let here :=
      if c.toNat < 0x80 then [c.toLower]
      else if c = 'İ' then ['i', '\u0307']
      else if c = 'Σ' then
        [if meetsCased before && !meetsCased rest then 'ς' else 'σ']
      else [lowerLetter c]
    here ++ lowerFrom (c :: before) rest

/-- the text in lower case -/
def lower (s : String) : String := String.ofList (lowerFrom [] s.toList)

/-- whether `needle` occurs in `text` -/
def occursIn (needle : List Char) : List Char → Bool
  | [] => needle.isEmpty
  | c :: rest => needle.isPrefixOf (c :: rest) || occursIn needle rest

/-- whether the characters of `needle` occur in `text` one after another -/
def contains (text needle : String) : Bool := occursIn needle.toList text.toList

end ShardCluster.Text
