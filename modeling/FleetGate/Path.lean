/-!
# Paths of files

A path is a text of components between slashes.  It is absolute when it starts
with a slash.  Repeated slashes and the component `.` mean nothing, except that
a path may be `.` alone, and `..` is kept as it is.
-/

namespace FleetGate.Path

/-- Whether a path starts at the root. -/
def isAbsolute (p : String) : Bool := p.toList.head? == some '/'

/-- Whether a path ends in a slash. -/
def endsInSlash (p : String) : Bool := p.toList.getLast? == some '/'

/-- The characters between slashes. -/
def splitChars : List Char → List (List Char)
  | [] => [[]]
  | c :: cs =>
      if c == '/' then [] :: splitChars cs
      else match splitChars cs with
        | [] => [[c]]
        | part :: parts => (c :: part) :: parts

/-- The texts between slashes, empty ones included. -/
def split (p : String) : List String := (splitChars p.toList).map String.ofList

/-- The components that count. -/
def components (p : String) : List String :=
  (split p).filter fun part => !part.isEmpty && part != "."

/-- A path below a directory.  An absolute path is left as it is, and one slash is
put between the two unless the directory is empty or ends in one. -/
def join (dir p : String) : String :=
  if isAbsolute p then p
  else if dir.isEmpty || endsInSlash dir then dir ++ p
  else dir ++ "/" ++ p

/-- Takes what means nothing off the end of a path in reverse: slashes and the
component `.` after a slash.  The first character is left alone. -/
def trimEnd : List Char → List Char
  | [] => []
  | [c] => [c]
  | '/' :: cs => trimEnd cs
  | '.' :: '/' :: cs => trimEnd ('/' :: cs)
  | cs => cs

/-- The path without its last component.  A path of one component has the empty
parent if it is relative, and the root and the empty path have none. -/
def parent? (p : String) : Option String :=
  match trimEnd p.toList.reverse with
  | [] | ['/'] => none
  | cs =>
      let rest := cs.dropWhile (· != '/')
      some (String.ofList (trimEnd rest).reverse)

/-- The directory a file stands in, which is `.` for a bare name. -/
def directory (p : String) : String :=
  match parent? p with
  | some dir => if dir.isEmpty then "." else dir
  | none => "."

/-- The path from the root, seen from a working directory.  Components that mean
nothing are left out, a slash at the end is kept, and so are exactly two slashes
at the front.  The empty path is left as it is. -/
def absolute (workingDir p : String) : String :=
  if p.isEmpty then p
  else
    let base :=
      if !isAbsolute p then workingDir
      else match p.toList with
        | '/' :: '/' :: '/' :: _ => "/"
        | '/' :: '/' :: _ => "//"
        | _ => "/"
    let whole := (components p).foldl join base
    if endsInSlash p && !endsInSlash whole then whole ++ "/" else whole

example : join "" "a" = "a" ∧ join "d/" "a" = "d/a" ∧ join "d" "/a" = "/a" := by decide
example : parent? "d//./a/" = some "d" ∧ parent? "a" = some "" ∧ parent? "/a" = some "/" := by
  decide
example : absolute "/w" "./a//../b/" = "/w/a/../b/" ∧ absolute "/w" "." = "/w" := by decide

end FleetGate.Path
