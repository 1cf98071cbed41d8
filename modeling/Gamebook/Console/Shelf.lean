import Gamebook.Error
import Gamebook.Text.Split

/-!
# Shelves

A shelf is a tree of directories with files, as a program sees them from the directory in which
it runs. Looking up a path takes its parts from left to right; a file is no directory on the
way, a directory cannot be read, and names and paths have a greatest length. Outside of the
shelf nothing is known but that there are directories all the way up.

* `Shelf.walk` goes along a path from the directory of the program, `Shelf.walkOutside` from one
  above the shelf.
-/

namespace Gamebook.Console

/-- Files with the parts of their paths. -/
structure Shelf where
  files : List (List String × List UInt8)

namespace Shelf

/-- The parts of a path between its slashes. -/
def pathParts (path : String) : List String := (Text.splitAt '/' path.toList).map .ofList

/-- Whether a part of a path stays in the directory that it stands in. -/
def staysHere (part : String) : Bool := part = "" || part = "."

/-- The `Shelf` with the given contents at the given paths. -/
def ofPaths (contents : List (String × List UInt8)) : Shelf :=
  ⟨contents.map fun (path, bytes) => ((pathParts path).filter (!staysHere ·), bytes)⟩

/-- The contents of the file at a place. -/
def file? (shelf : Shelf) (place : List String) : Option (List UInt8) := shelf.files.lookup place

/-- Whether a place is a directory of the `Shelf`: the one at the root, or one on the way to a
file. -/
def isDirectory (shelf : Shelf) (place : List String) : Bool :=
  place.isEmpty ||
    shelf.files.any fun file => place.isPrefixOf file.1 && file.1.length != place.length

/-- The greatest number of bytes in a name. -/
def nameLimit : Nat := 255

/-- The number of bytes from which on a path is too long. -/
def pathLimit : Nat := 4096

/-- Goes along the parts of a path from a directory outside of the `Shelf`. -/
def walkOutside : List String → ReadFault
  | [] => .isDirectory
  | part :: rest =>
    if staysHere part || part = ".." then walkOutside rest
    else if nameLimit < part.utf8ByteSize then .nameTooLong
    else .notFound

/-- Goes from a directory of the `Shelf` along the parts of a path. -/
def walk (shelf : Shelf) (place : List String) : List String → Except ReadFault (List UInt8)
  | [] => .error .isDirectory
  | part :: rest =>
    if staysHere part then walk shelf place rest
    else if part = ".." then
      if place.isEmpty then .error (walkOutside rest) else walk shelf place.dropLast rest
    else if nameLimit < part.utf8ByteSize then .error .nameTooLong
    else
      let next := place ++ [part]
      match shelf.file? next with
      | some bytes => if rest.isEmpty then .ok bytes else .error .notDirectory
      | none => if shelf.isDirectory next then walk shelf next rest else .error .notFound

/-- The contents of the file at a path, which is walked along from the root of the `Shelf`. -/
def read (shelf : Shelf) (path : String) : Except ReadFault (List UInt8) :=
  if pathLimit ≤ path.utf8ByteSize then .error .nameTooLong
  else if "/".isPrefixOf path then .error (walkOutside (pathParts path))
  else shelf.walk [] (pathParts path)

end Shelf

end Gamebook.Console
