import FormLetter.Text.Search

/-!
# Paths

A path is cut at slashes. Empty parts and single dots say nothing and are left out; two dots stay,
since what they lead to depends on the files. A path that begins with exactly two slashes is kept
apart from one that begins with one.
-/

namespace FormLetter

open FormLetter.Text

/-- A path: what it begins at, and its parts. -/
structure Path where
  root : String
  parts : List String
  deriving DecidableEq, Repr, Inhabited

namespace Path

/-- What a written path begins at. -/
def rootOf (written : List Char) : String :=
  match (written.takeWhile (· == '/')).length with
  | 0 => ""
  | 2 => "//"
  | _ => "/"

/-- Reads a path. -/
def ofString (written : String) : Path :=
  let parts := (splitOn ['/'] written.toList).map String.ofList
  ⟨rootOf written.toList, parts.filter fun part => part != "" && part != "."⟩

/-- The written form of a path. The path without parts is a single dot. -/
def toString (path : Path) : String :=
  match path with
  | ⟨"", []⟩ => "."
  | ⟨root, parts⟩ => root ++ "/".intercalate parts

/-- The last part of a path. -/
def name (path : Path) : String := path.parts.getLastD ""

/-- The path without its last part. -/
def parent (path : Path) : Path := { path with parts := path.parts.dropLast }

/-- A name without its leading dots, cut before its last dot if it has one. -/
def splitName (name : List Char) : List Char × List Char :=
  let dots := name.takeWhile (· == '.')
  let rest := name.dropWhile (· == '.')
  let ending := rest.reverse.takeWhile (· != '.')
  if ending.length < rest.length then
    (dots ++ rest.take (rest.length - ending.length - 1), '.' :: ending.reverse)
  else (name, [])

end Path

end FormLetter
