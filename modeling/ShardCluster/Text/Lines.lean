/-!
# Lines

A line ends at a line feed, and a carriage return right before that line feed belongs to the
ending. Text after the last line feed is a line of its own; an empty rest is none.
-/

namespace ShardCluster.Text

/-- The lines of `rest`, where `line` holds the characters of the current line, last one first. -/
def linesFrom (line : List Char) : List Char → List (List Char)
  | [] => if line.isEmpty then [] else [line.reverse]
  | c :: rest =>
    if c = '\n' then
      (match line with
        | '\x0d' :: before => before.reverse
        | _ => line.reverse) :: linesFrom [] rest
    else linesFrom (c :: line) rest

/-- the lines of a text, without their endings -/
def lines (s : String) : List String := (linesFrom [] s.toList).map String.ofList

/-- the last `count` lines, joined by line feeds -/
def lastLines (count : Nat) (s : String) : String :=
  let all := lines s
  "\n".intercalate (all.drop (all.length - count))

end ShardCluster.Text
