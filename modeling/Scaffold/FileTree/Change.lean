import Scaffold.FileTree.Resolve

/-!
# Changing a tree

A change takes full effect or none: it gives the changed tree or the fault that prevented it.
-/

namespace Scaffold.FileTree

/-- Adds an empty directory at a free name in a directory. -/
def createDirectory (tree : FileTree) (path : Text) : Except Fault FileTree :=
  match tree.resolve .makeDirectory path with
  | .error fault => .error fault
  | .ok (.directory _) => .error .fileExists
  | .ok (.name parent name _) =>
    match tree.at? (parent ++ [name]) with
    | some _ => .error .fileExists
    | none => .ok (tree.set (parent ++ [name]) .directory)

/-- Puts an entry where a file can be written, whether or not there was a file before. -/
def replace (tree : FileTree) (path : Text) (entry : Entry) : Except Fault FileTree :=
  match tree.resolve .writeFile path with
  | .error fault => .error fault
  | .ok (.directory _) => .error .isDirectory
  | .ok (.name parent name _) =>
    match tree.at? (parent ++ [name]) with
    | some .directory => .error .isDirectory
    | some .program => .error .programRuns
    | _ => .ok (tree.set (parent ++ [name]) entry)

/-- Gives a file a content. -/
def writeFile (tree : FileTree) (path content : Text) : Except Fault FileTree :=
  tree.replace path (.file content)

/-- Puts a program at a path and starts it. -/
def startProgram (tree : FileTree) (path : Text) : Except Fault FileTree :=
  tree.replace path .program

/-- Adds a link at a free name in a directory. -/
def createLink (tree : FileTree) (path target : Text) : Except Fault FileTree :=
  match tree.resolve .makeDirectory path with
  | .error fault => .error fault
  | .ok (.directory _) => .error .fileExists
  | .ok (.name parent name _) =>
    match tree.at? (parent ++ [name]) with
    | some _ => .error .fileExists
    | none => .ok (tree.set (parent ++ [name]) (.link target))

/-- Removes what stands at a path, a link itself and not what it leads to, a directory with all in it. -/
def remove (tree : FileTree) (path : Text) : Except Fault FileTree :=
  match tree.resolve .makeDirectory path with
  | .error fault => .error fault
  | .ok (.directory place) => .ok (tree.eraseBelow place)
  | .ok (.name parent name _) =>
    match tree.at? (parent ++ [name]) with
    | none => .error .notFound
    | some _ => .ok (tree.eraseBelow (parent ++ [name]))

/-- The beginnings of a path that end before a slash, shortest first, and the path itself. -/
def beginnings (path : Text) : List Text :=
  ((List.range path.length).filter fun count => path[count]? == some '/').map path.take ++ [path]

/-- Adds every directory on the way of a path that is not there yet. -/
def createDirectories (tree : FileTree) (path : Text) : FileTree :=
  (beginnings path).foldl (fun tree start => (tree.createDirectory start).toOption.getD tree) tree

end Scaffold.FileTree
