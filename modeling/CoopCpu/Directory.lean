import CoopCpu.SetupError
/-!
# Directory — files kept in memory

A directory is a list of files under relative paths.  It answers reads and writes the way a file system does: `.` and
doubled slashes on a path lead nowhere else, a file cannot be gone through, the directories on the way to a file must
be there, and neither reading nor writing works on a directory.  A path that leaves the directory finds no files.
-/
namespace CoopCpu

/-- Files by their paths, a path being the names on the way to the file. -/
structure Directory where
  files : List (List String × ByteArray)

namespace Directory

/-- The names on a path; `.` and doubled slashes do not count. -/
def names (path : String) : List String := (path.splitOn "/").filter fun n => n != "" && n != "."

/-- What follows the last slash of a path. -/
def ending (path : String) : String := ((path.splitOn "/").getLast?).getD ""

/-- The directory that holds the given files by their paths. -/
def ofFiles (files : List (String × ByteArray)) : Directory := ⟨files.map fun f => (names f.1, f.2)⟩

/-- What stands at a path. -/
inductive Place
  | file (way : List String) (bytes : ByteArray)
  | directory
  /-- Nothing, but a file can be put there. -/
  | vacant (way : List String)
  | unreachable (error : FileError)

/-- Whether the names lead to a directory, the files being the only reason for one to be there. -/
def isDirectory (d : Directory) (way : List String) : Bool :=
  way.isEmpty || d.files.any fun f => way.isPrefixOf f.1 && way.length < f.1.length

/-- Whether a file stands on the way, before the last name. -/
def blocked (d : Directory) (way : List String) : Bool :=
  d.files.any fun f => f.1.isPrefixOf way && f.1.length < way.length

/-- The bytes of the file that the names lead to. -/
def file? (d : Directory) (way : List String) : Option ByteArray := (d.files.find? fun f => f.1 == way).map Prod.snd

/-- Whether the names lead out of the directory. -/
def leaves (path : String) (way : List String) : Bool := path.startsWith "/" || way.contains ".."

/-- What a path leads to. -/
def place (d : Directory) (path : String) : Place :=
  let way := names path
  if path = "" then .unreachable .notFound
  else if leaves path way then if way.all (· == "..") then .directory else .unreachable .notFound
  else if d.isDirectory way then .directory
  else if d.blocked way then .unreachable .notADirectory
  else
    match d.file? way with
    | some bytes => .file way bytes
    | none => if d.isDirectory way.dropLast then .vacant way else .unreachable .notFound

/-- The bytes of a file. -/
def read (d : Directory) (path : String) : Except FileError ByteArray :=
  match d.place path with
  | .file _ bytes => if ending path == "" || ending path == "." then .error .notADirectory else .ok bytes
  | .directory => .error .isADirectory
  | .vacant _ => .error .notFound
  | .unreachable e => .error e

/-- The directory with a file replaced or added. -/
def put (d : Directory) (way : List String) (bytes : ByteArray) : Directory :=
  ⟨d.files.filter (fun f => f.1 != way) ++ [(way, bytes)]⟩

/-- The directory after a file has been written. -/
def write (d : Directory) (path : String) (bytes : ByteArray) : Except FileError Directory :=
  match d.place path with
  | .file way _ =>
    if ending path == "" then .error .isADirectory
    else if ending path == "." then .error .notADirectory
    else .ok (d.put way bytes)
  | .directory => .error .isADirectory
  | .vacant way =>
    if ending path == "" then .error .isADirectory
    else if ending path == "." then .error .notFound
    else .ok (d.put way bytes)
  | .unreachable e => .error e

end Directory
end CoopCpu
