import ShardCluster.Files.Operations

/-!
# Listings

A directory tree as an ascending list of lines, one for each directory, file and link in it, and
what changed from one listing to another.
-/

namespace ShardCluster.FileSystem

/-- the line of an entry: its kind, its path below the listed directory and the length of a file -/
def line (place : Place) : Entry → String
  | .directory _ => "D " ++ Utf8.lossy (Path.unsplit place)
  | .file content => "F " ++ Utf8.lossy (Path.unsplit place) ++ " " ++ toString content.length
  | .link _ => "L " ++ Utf8.lossy (Path.unsplit place)

mutual

/-- the lines of what is below an entry at a place -/
def linesBelow (place : Place) : Entry → List String
  | .directory folder => linesIn place folder
  | _ => []

/-- the lines of what is in a directory at a place, and below it -/
def linesIn (place : Place) : List (Bytes × Entry) → List String
  | [] => []
  | (name, entry) :: rest =>
    line (place ++ [name]) entry :: linesBelow (place ++ [name]) entry ++ linesIn place rest

end

/-- in the order of their octets, and each only once, as names that are no text may look the same -/
def ascending (lines : List String) : List String :=
  (lines.mergeSort fun a b => decide (a ≤ b)).eraseReps

/-- everything below the working directory, but for what is in its entries `omitted` -/
def listing (fs : FileSystem) (omitted : List Bytes) : List String :=
  match fs.folder? fs.workingDirectory with
  | some folder => ascending (linesIn [] (folder.filter fun (name, _) => !omitted.contains name))
  | none => []

/-- the lines of one ascending list that are not in another -/
def without : List String → List String → List String
  | [], _ => []
  | line :: lines, others =>
    let others := others.dropWhile (· < line)
    if others.head? = some line then without lines others else line :: without lines others

/-- what is gone from a listing, after a minus sign, and then what is new, after a plus sign -/
def changes (old new : List String) : List String :=
  (without old new).map ("-" ++ ·) ++ (without new old).map ("+" ++ ·)

end ShardCluster.FileSystem
