import DocContract.Text.Blank

/-!
# Files

The files that a command reads and writes, each under the path to it.  A directory exists
when a file lies in it.
-/

namespace DocContract.Cli

/-- The names on the way to a file. -/
abbrev Path := List String

/-- A path with one more name: that of the present directory leads nowhere, that of the
directory above a step back. -/
def Path.step (path : Path) (name : String) : Path :=
  if name = "" || name = "." then path
  else if name = ".." then
    match path.getLast? with
    | none => [".."]
    | some ".." => path ++ [".."]
    | some "/" => path
    | some _ => path.dropLast
  else path ++ [name]

/-- The path that a text writes; one from the root begins with a name of its own. -/
def Path.ofText (text : String) : Path :=
  (text.splitOn "/").foldl Path.step (if text.startsWith "/" then ["/"] else [])

inductive FileFault where
  | absent
  | occupied
  | notDirectory
  | isDirectory
deriving DecidableEq, Repr

def FileFault.message : FileFault → String
  | absent => "No such file or directory (os error 2)"
  | occupied => "File exists (os error 17)"
  | notDirectory => "Not a directory (os error 20)"
  | isDirectory => "Is a directory (os error 21)"

/-- Files with their contents, each path once. -/
abbrev FileTree := List (Path × String)

namespace FileTree

def file? (tree : FileTree) (path : Path) : Option String :=
  List.lookup path tree

def hasFile (tree : FileTree) (path : Path) : Bool :=
  (tree.file? path).isSome

def hasDirectory (tree : FileTree) (path : Path) : Bool :=
  path.isEmpty || tree.any fun (other, _) => path.isPrefixOf other && path != other

/-- Whether a file stands where a directory on the way to a path should be. -/
def isBlocked (tree : FileTree) (path : Path) : Bool :=
  tree.any fun (other, _) => other.isPrefixOf path && other != path

def read (tree : FileTree) (path : Path) : Except FileFault String :=
  match tree.file? path with
  | some contents => .ok contents
  | none =>
    if tree.hasDirectory path then .error .isDirectory
    else if tree.isBlocked path then .error .notDirectory
    else .error .absent

/-- Makes sure that a directory can be written to. -/
def openDirectory (tree : FileTree) (path : Path) : Except FileFault Unit :=
  if tree.isBlocked path then .error .notDirectory
  else if tree.hasFile path then .error .occupied
  else .ok ()

/-- Writes a file where there is no directory. -/
def write (tree : FileTree) (path : Path) (contents : String) :
    Except FileFault FileTree :=
  if tree.hasDirectory path then .error .isDirectory
  else .ok ((path, contents) :: tree.filter fun (other, _) => other != path)

def erase (tree : FileTree) (path : Path) : FileTree :=
  tree.filter fun (other, _) => other != path

end FileTree

end DocContract.Cli
