/-!
# A working directory of text files

The command line reads its inputs through a function from a path to the file's text or
the system's complaint. `Directory` is such a reader over a directory held in memory: a
list of files by their paths relative to it, the folders being the paths that hold files.

A path is walked one part at a time from the directory: an empty part and `.` stay where
they are, `..` goes up a level, and a name goes to a folder or file of that name. Above
the directory, and from the root of an absolute path, nothing is known, so every name
there is missing. The complaints are those of the system, naming the path as given:

* `open P: no such file or directory` when a name is not there;
* `open P: not a directory` when a file is walked through;
* `read P: is a directory` when the path ends at a folder.

The empty path names nothing.
-/

set_option autoImplicit false

namespace LosslessBuffer.CommandLine

/-- Text files by their paths relative to a working directory. -/
structure Directory where
  files : List (String × String) := []

/-- Where a walk through a directory ends. -/
inductive Place where
  /-- A folder, by its parts from the directory; `none` when nothing inside it is known. -/
  | folder (parts : Option (List String))
  | file (text : String)
  | missing
  /-- A file that was walked through. -/
  | notFolder

namespace Directory

/-- The parts of a path between its slashes. -/
def pathParts (path : String) : List String :=
  path.splitOn "/"

/-- The parts of a stored file's path, without empty parts and `.`. -/
def fileParts (path : String) : List String :=
  (pathParts path).filter fun part => !(part.isEmpty || part == ".")

/-- Whether some file lies inside the folder with these parts. -/
def holdsFolder (d : Directory) (parts : List String) : Bool :=
  d.files.any fun entry =>
    let whole := fileParts entry.1
    whole.length > parts.length && whole.take parts.length == parts

/-- The text of the file with these parts, if there is one. -/
def fileAt? (d : Directory) (parts : List String) : Option String :=
  (d.files.find? fun entry => fileParts entry.1 == parts).map (·.2)

/-- Walks the parts of a path from a place. -/
def walk (d : Directory) : Place → List String → Place
  | place, [] => place
  | .folder spot, part :: rest =>
    if part.isEmpty || part == "." then d.walk (.folder spot) rest
    else if part == ".." then
      match spot with
      | some parts =>
        d.walk (.folder (if parts.isEmpty then none else some parts.dropLast)) rest
      | none => d.walk (.folder none) rest
    else
      match spot with
      | none => .missing
      | some parts =>
        let inner := parts ++ [part]
        match d.fileAt? inner with
        | some text => if rest.isEmpty then .file text else .notFolder
        | none => if d.holdsFolder inner then d.walk (.folder (some inner)) rest else .missing
  | place, _ :: _ => place

/-- The text of the file at a path, or the system's complaint. -/
def read (d : Directory) (path : String) : Except String String :=
  let start : Place := if path.startsWith "/" then .folder none else .folder (some [])
  let place := if path.isEmpty then .missing else d.walk start (pathParts path)
  match place with
  | .file text => .ok text
  | .folder _ => .error ("read " ++ path ++ ": is a directory")
  | .missing => .error ("open " ++ path ++ ": no such file or directory")
  | .notFolder => .error ("open " ++ path ++ ": not a directory")

end Directory

end LosslessBuffer.CommandLine
