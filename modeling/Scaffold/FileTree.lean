import Scaffold.Fault
import Scaffold.Path

/-!
# File trees

A tree of directories, files and links is kept as what stands at each of its locations. A location is
the list of names that lead to it from the root without a link, a dot or a step back, so that one thing
has one location.
-/

namespace Scaffold

/-- The names that lead from the root to a place in a tree. -/
abbrev Location := List Text

/-- What stands at a location. -/
inductive Entry where
  | directory
  | file (content : Text)
  /-- A program that is running, whose file cannot be written. -/
  | program
  /-- A symbolic link to a path. -/
  | link (target : Text)
  deriving DecidableEq

/-- A tree, and the directory that relative paths start from. -/
structure FileTree where
  entries : List (Location × Entry)
  workingDirectory : Location
  deriving DecidableEq

namespace FileTree

/-- What stands at a location; a directory at the root. -/
def at? (tree : FileTree) (place : Location) : Option Entry :=
  if place = [] then some .directory else tree.entries.lookup place

/-- Entries with one of them set. -/
def setEntry (place : Location) (entry : Entry) :
    List (Location × Entry) → List (Location × Entry)
  | [] => [(place, entry)]
  | (p, e) :: rest => if p = place then (p, entry) :: rest else (p, e) :: setEntry place entry rest

/-- The tree with an entry set at a location. -/
def set (tree : FileTree) (place : Location) (entry : Entry) : FileTree :=
  { tree with entries := setEntry place entry tree.entries }

/-- The tree without a location and all below it. -/
def eraseBelow (tree : FileTree) (place : Location) : FileTree :=
  { tree with entries := tree.entries.filter fun (p, _) => !place.isPrefixOf p }

/-- The path of a location from the root. -/
def pathOf (place : Location) : Text := '/' :: Text.joinWith '/' place

/-- The locations below a directory, as seen from it, and what stands there. -/
def below (tree : FileTree) (place : Location) : List (Location × Entry) :=
  tree.entries.filterMap fun (p, e) =>
    if place.isPrefixOf p && p ≠ place then some (p.drop place.length, e) else none

end FileTree

end Scaffold
