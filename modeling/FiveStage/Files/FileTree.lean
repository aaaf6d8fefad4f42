import FiveStage.Files.ReadFailure

/-!
# File trees

A tree of files that is held in memory, and what comes of reading the file at a path in it. A path
is followed from left to right, name by name, and the first name that leads nowhere settles the
outcome. The rules and the two limits are those that hosts share.
-/

namespace FiveStage

/-- A file, or a directory with named entries. -/
inductive FileTree where
  | file (contents : ByteArray)
  | directory (entries : List (String × FileTree))

namespace FileTree

/-- The most bytes that a name may have. -/
def nameLimit : Nat := 255

/-- The bytes that a path has at least when it is too long. -/
def pathLimit : Nat := 4096

/-- A place in a tree: what is there, and the directories that lead to it, the nearest first. -/
structure Place where
  node : FileTree
  above : List FileTree := []

namespace Place

/-- The root above a place. -/
def root (p : Place) : Place where
  node := p.above.getLastD p.node

/-- The place that a name leads to. The empty name, which stands after a final slash and between
two slashes, and the single dot both stay, and two dots go up. A name follows a directory only. -/
def follow (p : Place) (name : String) : Except ReadFailure Place :=
  match p.node with
  | file _ => .error .notDirectory
  | directory entries =>
      if name.isEmpty || name == "." then .ok p
      else if name == ".." then
        match p.above with
        | [] => .ok p
        | parent :: above => .ok { node := parent, above }
      else if nameLimit < name.utf8ByteSize then .error .nameTooLong
      else
        match entries.find? (·.1 == name) with
        | some (_, node) => .ok { node, above := p.node :: p.above }
        | none => .error .notFound

/-- The place that a path leads to from the place `p`. -/
def resolve (p : Place) (path : String) : Except ReadFailure Place :=
  if path.contains '\x00' then .error .nulInPath
  else if path.isEmpty then .error .notFound
  else if pathLimit ≤ path.utf8ByteSize then .error .nameTooLong
  else (path.splitOn "/").foldlM follow (if path.startsWith "/" then p.root else p)

/-- The contents of the file that a path leads to from the place `p`. -/
def read (p : Place) (path : String) : Except ReadFailure ByteArray :=
  match p.resolve path with
  | .error failure => .error failure
  | .ok place =>
      match place.node with
      | file contents => .ok contents
      | directory _ => .error .isDirectory

end Place

/-- The root directory of a host on which nothing is stored: the usual directories, and the device
that reads as an empty file. -/
def bareRoot : FileTree :=
  let empty := ["bin", "boot", "etc", "home", "lib", "media", "mnt", "opt", "proc", "root", "run",
    "sbin", "srv", "sys", "tmp", "usr", "var"]
  directory <|
    ("dev", directory [("null", file .empty)]) :: empty.map fun name => (name, directory [])

/-- A directory with the given files, alone in its parent, on such a host. Of two files with one
name, the later one counts. -/
def workingDirectory (files : List (String × ByteArray)) : Place where
  node := directory (files.reverse.map fun (name, contents) => (name, file contents))
  above := [directory [], bareRoot]

end FileTree

end FiveStage
