import ShardCluster.Text.Utf8

/-!
# Paths

A path is the byte string it was given as and is shown as such. Two paths are the same when their
components are: repeated and trailing slashes and every `.` but a leading one do not count, and
`..` is kept.
-/

namespace ShardCluster

/-- a path as it was written -/
structure Path where
  bytes : Bytes
  deriving DecidableEq, Inhabited

namespace Path

def slash : UInt8 := 0x2F

def dot : UInt8 := 0x2E

def ofString (s : String) : Path := ⟨Utf8.encode s⟩

/-- the path as messages show it -/
def display (p : Path) : String := Utf8.lossy p.bytes

/-- the path as text, if it is one -/
def text? (p : Path) : Option String := Utf8.strict p.bytes

def isAbsolute (p : Path) : Bool := p.bytes.head? == some slash

/-- whether the path ends in a slash -/
def isOpen (p : Path) : Bool := p.bytes.getLast? == some slash

/-- The path `second` as seen from `first`: an absolute path stands for itself, any other follows
after one slash, of which there is none after nothing. -/
def join (first second : Path) : Path :=
  if second.isAbsolute then second
  else if first.bytes.isEmpty || first.isOpen then ⟨first.bytes ++ second.bytes⟩
  else ⟨first.bytes ++ slash :: second.bytes⟩

/-- joins a name or relative path given as text -/
def child (p : Path) (name : String) : Path := p.join (ofString name)

/-! ### Parts and components -/

/-- the stretches between separators, empty ones included; there is always at least one -/
def split (separator : UInt8) : Bytes → List Bytes
  | [] => [[]]
  | b :: rest =>
    if b = separator then [] :: split separator rest
    else match split separator rest with
      | [] => [[b]]
      | part :: parts => (b :: part) :: parts

/-- the stretches with a slash between neighbours -/
def unsplit : List Bytes → Bytes
  | [] => []
  | [part] => part
  | part :: parts => part ++ slash :: unsplit parts

/-- the stretches that are not empty -/
def names (p : Path) : List Bytes := (split slash p.bytes).filter (!·.isEmpty)

/-- What to walk along: the names, and a step to the directory itself where a slash at the end asks
for one. -/
def steps (p : Path) : List Bytes := p.names ++ if p.isOpen then [[dot]] else []

/-- one step of a path -/
inductive Component where
  /-- the top of the file system -/
  | root
  /-- the working directory, at the front of a relative path -/
  | here
  /-- the directory above -/
  | up
  | name (n : Bytes)
  deriving DecidableEq

/-- a part that is no component: nothing, or a `.` -/
def isVoid (part : Bytes) : Bool := part.isEmpty || part == [dot]

def Component.ofPart (part : Bytes) : Component :=
  if part = [dot, dot] then .up else .name part

/-- the component before all parts, and the parts after it -/
def opening (p : Path) : Option Component × List Bytes :=
  match split slash p.bytes with
  | [] => (none, [])
  | first :: parts =>
    if p.isAbsolute then (some .root, parts)
    else if first = [dot] then (some .here, parts)
    else (none, first :: parts)

def components (p : Path) : List Component :=
  let (front, parts) := p.opening
  front.toList ++ (parts.filter (!isVoid ·)).map Component.ofPart

/-- whether two paths have the same components -/
def same (p q : Path) : Bool := p.components == q.components

/-- the parts without the void ones at the end -/
def trimmed (parts : List Bytes) : List Bytes := (parts.reverse.dropWhile isVoid).reverse

/-- The path without its last component; nothing is above the root or the empty path. -/
def parent? (p : Path) : Option Path :=
  let (front, parts) := p.opening
  match trimmed parts, front with
  | [], some .here => some ⟨[]⟩
  | [], _ => none
  | body, front =>
    let above := trimmed body.dropLast
    some ⟨match front with
      | some .root => slash :: unsplit above
      | some .here => unsplit ([dot] :: above)
      | _ => unsplit above⟩

end Path

end ShardCluster
