import Blocklist.Text

/-!
# Paths

A path is a text: steps separated by slashes, relative unless it starts with one. Empty steps and
`.` stand for nothing; the other steps are names, `..` among them. What follows the last name of a
path, slashes and `.`, is its tail.

* `Path.steps`, `Path.names`   the steps and the names of a path;
* `Path.join`                  a path inside a directory;
* `Path.parent?`               the directory of the last name;
* `Path.stem?`                 the last name without its extension;
* `Path.withExtension`         the path with another extension.
-/

namespace Blocklist.Path

def isAbsolute (path : String) : Bool := path.toList.head? = some '/'

/-- the steps of a path but the empty ones -/
def steps (path : String) : List String :=
  ((Text.splitOn '/' path.toList).filter (· ≠ [])).map String.ofList

def names (path : String) : List String := (steps path).filter (· ≠ ".")

/-- the path of `name` in the directory `dir`; an absolute name stays what it is -/
def join (dir name : String) : String :=
  if isAbsolute name then name
  else if dir = "" ∨ dir.toList.getLast? = some '/' then dir ++ name
  else dir ++ "/" ++ name

/-! ## the last name -/

/-- a path without its tail, both read backwards -/
def dropTail : List Char → List Char
  | '/' :: cs => dropTail cs
  | '.' :: '/' :: cs => dropTail cs
  | cs => cs

/-- a path without its tail -/
def trim (cs : List Char) : List Char := (dropTail cs.reverse).reverse

/-- the path up to its last name -/
def beforeName (path : String) : List Char :=
  ((trim path.toList).reverse.dropWhile (· ≠ '/')).reverse

def parent? (path : String) : Option String :=
  if names path = [] then none
  else
    let dir := trim (beforeName path)
    some (if dir = [] ∧ isAbsolute path then "/" else String.ofList dir)

/-- the last name, if it names something in its directory -/
def fileName? (path : String) : Option String :=
  match (names path).getLast? with
  | some ".." => none
  | name => name

/-- A name without its last dot and what follows. A dot at the start is a part of the name. -/
def stemOf (name : String) : String :=
  let cs := name.toList
  match cs.reverse.dropWhile (· ≠ '.') with
  | '.' :: c :: stem => String.ofList (c :: stem).reverse
  | _ => name

def stem? (path : String) : Option String := (fileName? path).map stemOf

/-- A path without a file name stays what it is. The old extension goes before the new one comes: at
the end of a path, a stem `.` and the dot after it are then no file name any more. -/
def withExtension (path extension : String) : String :=
  match stem? path with
  | none => path
  | some stem =>
    let dir := String.ofList (beforeName path)
    if stem = "." ∧ trim path.toList = path.toList then dir ++ ".."
    else dir ++ stem ++ "." ++ extension

end Blocklist.Path
