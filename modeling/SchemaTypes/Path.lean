import SchemaTypes.Text.Quoted
import SchemaTypes.Text.Split

/-!
# Paths of files

A path is written in its shortest form that names the same file without looking at any folder:
single slashes, no dots that stand for the folder itself, and none at its end. What the operating
system says about a path is told in its own words.
-/

namespace SchemaTypes.Path

open SchemaTypes.Text

/-- The slashes a path begins with, of which only the numbers one and two make a difference. -/
def rootOf (path : List Char) : String :=
  match (path.takeWhile (· = '/')).length with
  | 0 => ""
  | 2 => "//"
  | _ => "/"

/-- The steps of a path. A dot leads nowhere. -/
def steps (path : String) : List String :=
  ((splitFields '/' path.toList).map String.ofList).filter fun step => step ≠ "" ∧ step ≠ "."

/-- The path in its shortest form. A path without any step is the current folder. -/
def normalized (path : String) : String :=
  let written := rootOf path.toList ++ "/".intercalate (steps path)
  if written = "" then "." else written

/-- Why a file cannot be opened. -/
inductive Obstacle where
  | missing
  | folder
  /-- The path goes on behind a file. -/
  | notFolder
  /-- The path holds a character that no path can hold. -/
  | zeroCharacter
  deriving DecidableEq, Repr

/-- What the operating system says when a file cannot be opened. -/
def Obstacle.message (path : String) : Obstacle → String
  | .missing => "[Errno 2] No such file or directory: " ++ quoted (normalized path)
  | .notFolder => "[Errno 20] Not a directory: " ++ quoted (normalized path)
  | .folder => "[Errno 21] Is a directory: " ++ quoted (normalized path)
  | .zeroCharacter => "embedded null byte"

end SchemaTypes.Path
