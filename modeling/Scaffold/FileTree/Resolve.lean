import Scaffold.FileTree

/-!
# Finding a place by its path

A path leads from directory to directory, one name after the other, through links where it meets them.
What happens at the last name depends on the purpose: a new directory needs a free name and does not
look through a link, a file is written where the last link leads, whether or not something is there yet.
-/

namespace Scaffold

/-- The way a path spells: where it starts, the names to follow, and whether it ends in a slash. -/
structure Route where
  absolute : Bool
  names : List Text
  slash : Bool
  deriving DecidableEq

/-- The way of a path. -/
def Route.ofPath (path : Text) : Route where
  absolute := Path.isAbsolute path
  names := (Text.cut '/' path).filter (· ≠ [])
  slash := path.getLast? == some '/'

/-- A way on which further names follow. -/
def Route.followedBy (route : Route) (names : List Text) (slash : Bool) : Route where
  absolute := route.absolute
  names := route.names ++ names
  slash := slash || (names.isEmpty && route.slash)

/-- What a path is resolved for. -/
inductive Purpose where
  | inspect
  | makeDirectory
  | writeFile
  deriving DecidableEq

/-- Where a path leads. -/
inductive Spot where
  /-- To a directory, by a last step that is no name. -/
  | directory (place : Location)
  /-- To a name in a directory. The flag tells that a slash follows the name. -/
  | name (parent : Location) (name : Text) (slash : Bool)
  deriving DecidableEq

namespace FileTree

/-- The most bytes a name may have. -/
def longestName : Nat := 255

/-- The most bytes a path may have. -/
def longestPath : Nat := 4095

/-- The most links that are followed for one path. -/
def mostLinks : Nat := 40

/-- Follows names from a directory. A link is handed to `follow`, with its directory and the way on
from there. -/
def walk (tree : FileTree) (purpose : Purpose) (follow : Location → Route → Except Fault Spot) :
    Location → List Text → Bool → Except Fault Spot
  | here, [], _ => .ok (.directory here)
  | here, name :: rest, slash =>
    if name = ("." : Text) then walk tree purpose follow here rest slash
    else if name = (".." : Text) then walk tree purpose follow here.dropLast rest slash
    else if purpose = .writeFile && rest.isEmpty && slash then .error .isDirectory
    else if longestName < Text.byteLength name then .error .nameTooLong
    else
      match tree.at? (here ++ [name]) with
      | some (.link target) =>
        if purpose = .makeDirectory && rest.isEmpty then .ok (.name here name slash)
        else follow here ((Route.ofPath target).followedBy rest slash)
      | entry =>
        if rest.isEmpty then .ok (.name here name slash)
        else
          match entry with
          | some .directory => walk tree purpose follow (here ++ [name]) rest slash
          | none => .error .notFound
          | some _ => .error .notDirectory

/-- Follows a way from a directory through at most the given number of links. -/
def travel (tree : FileTree) (purpose : Purpose) : Nat → Location → Route → Except Fault Spot
  | 0, here, route =>
    walk tree purpose (fun _ _ => .error .tooManyLinks) (if route.absolute then [] else here)
      route.names route.slash
  | links + 1, here, route =>
    walk tree purpose (travel tree purpose links) (if route.absolute then [] else here)
      route.names route.slash

/-- Where a path leads. -/
def resolve (tree : FileTree) (purpose : Purpose) (path : Text) : Except Fault Spot :=
  if '\x00' ∈ path then .error .nulInPath
  else if path = [] then .error .notFound
  else if longestPath < Text.byteLength path then .error .nameTooLong
  else travel tree purpose mostLinks tree.workingDirectory (Route.ofPath path)

/-- The location a path leads to through all links, if something is there. -/
def locate? (tree : FileTree) (path : Text) : Option Location :=
  match tree.resolve .inspect path with
  | .error _ => none
  | .ok (.directory place) => some place
  | .ok (.name parent name slash) =>
    match tree.at? (parent ++ [name]) with
    | none => none
    | some entry => if slash && entry ≠ .directory then none else some (parent ++ [name])

/-- Whether a path leads to a directory. -/
def isDirectory (tree : FileTree) (path : Text) : Bool :=
  match tree.locate? path with
  | some place => tree.at? place == some .directory
  | none => false

/-- The content of the file a path leads to. -/
def contentAt? (tree : FileTree) (path : Text) : Option Text :=
  match (tree.locate? path).bind tree.at? with
  | some (.file content) => some content
  | _ => none

end FileTree

end Scaffold
