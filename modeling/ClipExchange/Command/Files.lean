import ClipExchange.Stream.Pipe

/-!
# Files

What commands see of the file system: a path names a file with its octets, a directory, or
nothing. A directory can be opened, but its octets cannot be read.

## Main definitions

* `Files`: what paths name.
* `Files.read`, `Files.openStream`, `Files.create`, `Files.write`: what commands do with them.
* `Failure`: why a command did not succeed.
-/

namespace ClipExchange

/-- Why a command did not succeed: a message, and what lies behind it. -/
structure Failure where
  message : String
  cause : Option String
deriving DecidableEq, Repr

namespace Failure

/-- A failure with nothing behind it. -/
def plain (message : String) : Failure :=
  ⟨message, none⟩

/-- What a failed access to a file means for a command. -/
def ofStream (message : String) (cause : StreamFailure) : Failure :=
  ⟨message, some cause.text⟩

/-- How a failure is reported. -/
def report (failure : Failure) : String :=
  let behind :=
    match failure.cause with
    | none => ""
    | some cause => "\n\nCaused by:\n    " ++ cause
  "Error: " ++ failure.message ++ behind ++ "\n"

end Failure

namespace StreamFailure

/-- A path names nothing. -/
def notFound : StreamFailure :=
  ⟨.notFound, "No such file or directory (os error 2)"⟩

/-- A path names a directory where a file is needed. -/
def isDirectory : StreamFailure :=
  ⟨.isDirectory, "Is a directory (os error 21)"⟩

end StreamFailure

/-- What a path names. -/
inductive FileEntry where
  | file (data : Bytes)
  | directory
deriving DecidableEq

/-- What paths name; other paths name nothing. -/
structure Files where
  entries : List (String × FileEntry)
deriving DecidableEq

namespace Files

/-- What a path names. -/
def entry? (files : Files) (path : String) : Option FileEntry :=
  files.entries.lookup path

/-- The octets of a file. -/
def read (files : Files) (path : String) : Except StreamFailure Bytes :=
  match files.entry? path with
  | some (.file data) => .ok data
  | some .directory => .error .isDirectory
  | none => .error .notFound

/-- Open a path to read a stream of octets from it. -/
def openStream (files : Files) (path : String) : Except StreamFailure Pipe :=
  match files.entry? path with
  | some (.file data) => .ok (.ofBytes data)
  | some .directory => .ok (.failing .isDirectory)
  | none => .error .notFound

/-- The files after a path was made to name the given one. -/
def put (files : Files) (path : String) (data : Bytes) : Files :=
  ⟨(path, .file data) :: files.entries.filter fun entry => entry.1 ≠ path⟩

/-- The path of the directory that holds a path, if it names one. -/
def parent? (path : String) : Option String :=
  let reversed := path.toList.reverse
  match reversed.dropWhile (· ≠ '/') with
  | [] => none
  | _ :: before => some (String.ofList before.reverse)

/-- Whether a file can be made at a path that names nothing. -/
def hasRoomFor (files : Files) (path : String) : Bool :=
  match parent? path with
  | none => !path.isEmpty
  | some parent => files.entry? parent == some .directory

/-- Make an empty file at a path, also in the place of one that is there. -/
def create (files : Files) (path : String) : Except StreamFailure Files :=
  match files.entry? path with
  | some (.file _) => .ok (files.put path [])
  | some .directory => .error .isDirectory
  | none => if files.hasRoomFor path then .ok (files.put path []) else .error .notFound

end Files

end ClipExchange
