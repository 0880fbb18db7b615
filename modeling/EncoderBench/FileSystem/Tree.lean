/-
Files as a Linux system shows them to a reader: a tree of directories, files and links, and the
errors a read reports. A name of more than 255 bytes is too long, except below the process and
kernel file systems, which answer it as missing.
-/
namespace EncoderBench

namespace FileSystem

/-- Why a path could not be read. -/
inductive FileError
  | missing
  | isDirectory
  | notDirectory
  | nameTooLong
  | notText
  | inputOutput
  | noDevice
  deriving Repr, DecidableEq, Inhabited

def FileError.message : FileError → String
  | .missing => "No such file or directory (os error 2)"
  | .isDirectory => "Is a directory (os error 21)"
  | .notDirectory => "Not a directory (os error 20)"
  | .nameTooLong => "File name too long (os error 36)"
  | .notText => "stream did not contain valid UTF-8"
  | .inputOutput => "Input/output error (os error 5)"
  | .noDevice => "No such device or address (os error 6)"

def nameLimit : Nat := 255

def pathLimit : Nat := 4096

inductive Contents
  | text (s : String)
  | binary
  | failing (e : FileError)
  deriving Repr, DecidableEq, Inhabited

def Contents.read : Contents → Except FileError String
  | .text s => .ok s
  | .binary => .error .notText
  | .failing e => .error e

inductive Place
  | inside (names : List String)
  | outside (names : List String)
  | file (contents : Contents)
  deriving Repr, DecidableEq, Inhabited

inductive Node
  | directory
  | file (contents : Contents)
  | link (target : Place)
  deriving Repr, DecidableEq, Inhabited

/-- Directories, files and links by their names from a common root.  A directory also exists
when something is named below it.  Below the directories of `unlimited`, names of any length
are looked up. -/
structure Tree where
  entries : List (List String × Node)
  unlimited : List (List String) := []
  deriving Repr, Inhabited

def Tree.entry (t : Tree) (dir : List String) (name : String) : Option Node :=
  let path := dir ++ [name]
  match t.entries.find? (·.1 == path) with
  | some (_, node) => some node
  | none =>
    if t.entries.any fun (p, _) => path.isPrefixOf p && path.length < p.length then
      some .directory
    else none

def Tree.tooLong (t : Tree) (dir : List String) (name : String) : Bool :=
  name.utf8ByteSize > nameLimit && !t.unlimited.any (·.isPrefixOf dir)

/-- The place `name` leads to from the directory `dir` of the tree, a directory being placed by
`into`. -/
def Tree.lookup (t : Tree) (dir : List String) (name : String) (into : List String → Place) :
    Except FileError Place :=
  if t.tooLong dir name then .error .nameTooLong
  else
    match t.entry dir name with
    | some .directory => .ok (into (dir ++ [name]))
    | some (.file contents) => .ok (.file contents)
    | some (.link target) => .ok target
    | none => .error .missing

end FileSystem

end EncoderBench
