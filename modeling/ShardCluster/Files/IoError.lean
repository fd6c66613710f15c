/-!
# Failures of files and programs

Why the system refused an operation on a file or a program, and the text it gives for it.
-/

namespace ShardCluster

inductive IoError where
  | notFound
  | argumentsTooLong
  | notExecutable
  | permissionDenied
  | busy
  | alreadyExists
  | notDirectory
  | isDirectory
  | invalidArgument
  | nameTooLong
  | notEmpty
  | tooManyLinks
  /-- a path with a NUL octet, which no system call can take -/
  | nulInPath
  /-- a program or argument with a NUL octet, which no system call can take -/
  | nulInArgument
  /-- a file that was to be text and is not UTF-8 -/
  | notText
  /-- a failure reported by other means, with its text -/
  | other (text : String)
  deriving DecidableEq, Inhabited

namespace IoError

def message : IoError → String
  | notFound => "No such file or directory (os error 2)"
  | argumentsTooLong => "Argument list too long (os error 7)"
  | notExecutable => "Exec format error (os error 8)"
  | permissionDenied => "Permission denied (os error 13)"
  | busy => "Device or resource busy (os error 16)"
  | alreadyExists => "File exists (os error 17)"
  | notDirectory => "Not a directory (os error 20)"
  | isDirectory => "Is a directory (os error 21)"
  | invalidArgument => "Invalid argument (os error 22)"
  | nameTooLong => "File name too long (os error 36)"
  | notEmpty => "Directory not empty (os error 39)"
  | tooManyLinks => "Too many levels of symbolic links (os error 40)"
  | nulInPath => "file name contained an unexpected NUL byte"
  | nulInArgument => "nul byte found in provided data"
  | notText => "stream did not contain valid UTF-8"
  | other text => text

end IoError

end ShardCluster
