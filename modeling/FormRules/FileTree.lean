import FormRules.Fields
import FormRules.Text.Point
import FormRules.Text.Segments

/-!
# Paths and file trees

Where rule files are found. Paths are shown without empty steps and steps that stay in place; a
tree answers what a path leads to, seen from its root. A tree knows of nothing outside its root
but the directories above it.
-/

namespace FormRules

/-- What a path leads to. -/
inductive Found where
  | missing
  | directory
  | file (bytes : List UInt8)
  /-- Nothing, since a name on the way or the whole path is longer than any can be. -/
  | tooLong
  deriving DecidableEq, Repr

namespace Path

/-- The steps of a path that lead somewhere. -/
def steps (path : String) : List String :=
  (Text.segments '/' path).filter fun step => step != "" && step != "."

/-- The slashes that a path is shown with at its beginning: two stay two, more are one. -/
def anchor (path : String) : String :=
  match (path.toList.takeWhile (· == '/')).length with
  | 0 => ""
  | 2 => "//"
  | _ => "/"

/-- The greatest length of a name, in bytes. -/
def nameLimit : Nat := 255

/-- The length that no path reaches, in bytes. -/
def lengthLimit : Nat := 4096

/-- A path as it is used and shown; one without steps is the place itself. -/
def normalize (path : String) : String :=
  let shown := anchor path ++ "/".intercalate (steps path)
  if shown = "" then "." else shown

end Path

/-- A tree of files by their paths from the root. -/
structure FileTree where
  /-- The bytes of the files. -/
  files : List (List String × List UInt8)
  /-- The directories that are there even if no file is in them. -/
  directories : List (List String)

namespace FileTree

/-- The tree without files. -/
def empty : FileTree := ⟨[], []⟩

/-- Puts a file at a path. -/
def putFile (path : String) (bytes : List UInt8) (t : FileTree) : FileTree :=
  { t with files := (Path.steps path, bytes) :: t.files }

/-- Puts a directory at a path. -/
def putDirectory (path : String) (t : FileTree) : FileTree :=
  { t with directories := Path.steps path :: t.directories }

/-- What is at a place in the tree. -/
def contents (t : FileTree) (place : List String) : Found :=
  match t.files.lookup place with
  | some bytes => .file bytes
  | none =>
    if place = [] ∨ t.directories.any (place.isPrefixOf ·)
        ∨ t.files.any (fun file => place.isPrefixOf file.1) then .directory
    else .missing

/-- What a name leads to where it leads to nothing. -/
def absent (step : String) : Found :=
  if Path.nameLimit < Text.byteSize step then .tooLong else .missing

/-- What steps lead to from a place, which is given last step first, or from `above` levels above
the root. -/
def follow (t : FileTree) (above : Nat) (place : List String) : List String → Found
  | [] => if above = 0 then t.contents place.reverse else .directory
  | step :: rest =>
    if 0 < above then
      if step = ".." then follow t (above + 1) place rest else absent step
    else match t.contents place.reverse with
      | .directory =>
        if step = ".." then
          match place with
          | [] => follow t 1 [] rest
          | _ :: place => follow t 0 place rest
        else if Path.nameLimit < Text.byteSize step then .tooLong
        else follow t 0 (step :: place) rest
      | _ => .missing

/-- What a path leads to. A path from the top of the file system leads out of the tree, and one with
a NUL leads nowhere. -/
def find (t : FileTree) (path : String) : Found :=
  if path.toList.contains '\x00' then .missing
  else if Path.lengthLimit ≤ Text.byteSize path then .tooLong
  else if Path.anchor path = "" then t.follow 0 [] (Path.steps path)
  else match Path.steps path with
    | [] => .directory
    | step :: _ => absent step

end FileTree

end FormRules
