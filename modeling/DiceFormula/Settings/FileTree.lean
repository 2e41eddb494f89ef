/-
# Files

What stands at a path, and a tree of files held in memory in which paths are
followed name by name.
-/

import DiceFormula.Settings.Path

namespace DiceFormula

/-- What stands at a path. -/
inductive Found where
  | file (content : ByteArray)
  | directory
  | missing
  /-- The way leads through something that is not a directory. -/
  | blocked

/-- A tree of files below a directory with the given path.  An entry without
content is a directory; the directories on the way to an entry need none. -/
structure FileTree where
  base : String
  entries : List (List String × Option ByteArray)

namespace FileTree

/-- What stands at the place reached by the given names. -/
def entryAt (tree : FileTree) (names : List String) : Found :=
  match tree.entries.find? fun entry => entry.1 = names with
  | some (_, some content) => .file content
  | some (_, none) => .directory
  | none =>
    if names.isEmpty || tree.entries.any fun entry => names.isPrefixOf entry.1 then .directory
    else .missing

/-- Whether a part of a path leads nowhere new or upwards. -/
def staysOrRises (part : String) : Bool :=
  part = "" || part = "." || part = ".."

/-- What stands at the end of a path outside the tree.  Nothing is known there but
that directories are in directories. -/
def outside (rest : List String) : Found :=
  if rest.all staysOrRises then .directory else .missing

/-- Follows the parts of a path from the place reached so far. -/
def follow (tree : FileTree) (place : List String) : List String → Found
  | [] => tree.entryAt place
  | part :: rest =>
    match tree.entryAt place with
    | .directory =>
      if part = "" || part = "." then follow tree place rest
      else if part = ".." then
        if place.isEmpty then outside rest else follow tree place.dropLast rest
      else follow tree (place ++ [part]) rest
    | .file _ => .blocked
    | found => found

/-- What stands at a path, seen from the directory of the tree. -/
def find (tree : FileTree) (path : String) : Found :=
  let base := tree.base.toList ++ ['/']
  let chars := path.toList
  let relative := if base.isPrefixOf chars then chars.drop base.length else chars
  let parts := (Text.splitOn '/' relative).map String.ofList
  if chars.isEmpty then .missing
  else if Path.isAbsolute relative then outside parts
  else tree.follow [] parts

end FileTree

end DiceFormula
