/-!
# Failures of the host

What can go wrong when the host opens, reads or writes, with the host's own words for it.
-/

namespace Hostcall

inductive HostError where
  | notFound
  | permissionDenied
  | badDescriptor
  | notDirectory
  | isDirectory
  | noSpace
  | nameTooLong
  /-- A path that holds a NUL character. -/
  | nulInPath
  /-- A directory that was to be read as a file. -/
  | directoryAt (path : String)
  /-- A standard output was to be read. -/
  | outputNotReadable
  /-- The standard input was to be written. -/
  | inputNotWritable
  deriving Repr, DecidableEq

/-- The host's message for a failure that carries an error number. -/
def HostError.message : HostError → String
  | .notFound => "No such file or directory (os error 2)"
  | .permissionDenied => "Permission denied (os error 13)"
  | .badDescriptor => "Bad file descriptor (os error 9)"
  | .notDirectory => "Not a directory (os error 20)"
  | .isDirectory => "Is a directory (os error 21)"
  | .noSpace => "No space left on device (os error 28)"
  | .nameTooLong => "File name too long (os error 36)"
  | .nulInPath => "file name contained an unexpected NUL byte"
  | .directoryAt path => path ++ " is a directory"
  | .outputNotReadable => "output channel is not readable"
  | .inputNotWritable => "standard input is not writable"

end Hostcall
