import EncoderBench.FileSystem.Layout
/-
A folder of text files on a Linux host, read by path as the host's system reads it: a path is
walked name by name from the root or from the folder, through `.`, `..` and links, and the first
name that is missing, or follows a file, ends the walk with that error.
-/
namespace EncoderBench

namespace FileSystem

/-- Files by their paths from the folder, with their contents. -/
structure Folder where
  files : List (String × String)
  parent : List String := ["tmp"]
  host : Tree := Tree.host
  deriving Repr, Inhabited

def pathNames (path : String) : List String := path.splitOn "/"

def Folder.tree (f : Folder) : Tree :=
  ⟨f.files.map (fun (p, contents) =>
    ((pathNames p).filter (fun n => n != "" && n != "."), .file (.text contents))), []⟩

def Folder.enter (f : Folder) : Place → String → Except FileError Place
  | .file _, _ => .error .notDirectory
  | .inside dir, name =>
    if name == "" || name == "." then .ok (.inside dir)
    else if name == ".." then .ok (if dir.isEmpty then .outside f.parent else .inside dir.dropLast)
    else f.tree.lookup dir name .inside
  | .outside dir, name =>
    if name == "" || name == "." then .ok (.outside dir)
    else if name == ".." then .ok (.outside dir.dropLast)
    else f.host.lookup dir name .outside

/-- Walks the names of a path from `place`. -/
def Folder.walk (f : Folder) : Place → List String → Except FileError Place
  | place, [] => .ok place
  | place, name :: rest =>
    match f.enter place name with
    | .ok next => f.walk next rest
    | .error e => .error e

def Folder.read (f : Folder) (path : String) : Except FileError String :=
  if path.utf8ByteSize ≥ pathLimit then .error .nameTooLong
  else if path.isEmpty then .error .missing
  else
    let start : Place := if path.startsWith "/" then .outside [] else .inside []
    match f.walk start (pathNames path) with
    | .ok (.file contents) => contents.read
    | .ok _ => .error .isDirectory
    | .error e => .error e

end FileSystem

end EncoderBench
