import Blocklist.Error
import Blocklist.Files.Path
import Std.Data.ExtTreeMap

/-!
# Trees of files

Files and directories, and what the system calls on paths do to them. The working directory and
those it is in are always there. Their names are not known, so that paths go through them by `..`
alone.

* `FileTree`                     a tree; its entries are found by their names from the root down;
* `FileTree.locate`              what a path leads to;
* `read`, `write`, `isDir`, `makeDir`, `rename`, `delete`   the calls;
* `FileTree.content`             all that is in the working directory.
-/

namespace Blocklist

/-- the names from the root directory to an entry -/
abbrev Location := List String

inductive FileEntry where
  | file (content : ByteArray)
  | dir

structure FileTree where
  entries : Std.ExtTreeMap Location FileEntry := ∅

/-- What a path leads to: a directory, or a name in it that need not be there. -/
structure Place where
  dir : Location
  name : Option String
  /-- a slash follows the name -/
  slash : Bool
  deriving DecidableEq, Repr

def Place.location (p : Place) : Location := p.dir ++ p.name.toList

namespace FileTree

/-- the working directory: no step of a path is empty, so none leads down to it -/
def home : Location := ["", ""]

def entry? (t : FileTree) (l : Location) : Option FileEntry :=
  if l.isPrefixOf home then some .dir else t.entries[l]?

def put (t : FileTree) (l : Location) (e : FileEntry) : FileTree := ⟨t.entries.insert l e⟩

/-- the entries below the working directory, with their names from there -/
def content (t : FileTree) : List (Location × FileEntry) :=
  (t.entries.toList.filter fun e => home.isPrefixOf e.1).map fun e => (e.1.drop home.length, e.2)

/-! ## following a path -/

/-- the longest name of a file, in bytes -/
def maxName : Nat := 255
/-- paths of this many bytes are too long -/
def maxPath : Nat := 4096

/-- what is at a location, whose last name has to be short enough -/
def find (t : FileTree) (l : Location) : Except IoError (Option FileEntry) :=
  if maxName < (l.getLast?.getD "").utf8ByteSize then .error .nameTooLong else .ok (t.entry? l)

/-- the directory that a step leads to -/
def enter (t : FileTree) (dir : Location) (step : String) : Except IoError Location :=
  if step = "." then .ok dir
  else if step = ".." then .ok dir.dropLast
  else
    let l := dir ++ [step]
    match t.find l with
    | .error e => .error e
    | .ok none => .error .notFound
    | .ok (some (.file _)) => .error .notDirectory
    | .ok (some .dir) => .ok l

/-- Follow steps from a directory. Each of them but the last one has to lead to a directory. -/
def walk (t : FileTree) (slash : Bool) : Location → List String → Except IoError Place
  | dir, [] => .ok ⟨dir, none, slash⟩
  | dir, [step] =>
    if step = "." then .ok ⟨dir, none, slash⟩
    else if step = ".." then .ok ⟨dir.dropLast, none, slash⟩
    else .ok ⟨dir, some step, slash⟩
  | dir, step :: steps =>
    match t.enter dir step with
    | .error e => .error e
    | .ok dir => walk t slash dir steps

def locate (t : FileTree) (path : String) : Except IoError Place :=
  if path.toList.contains '\x00' then .error .nulInName
  else if path = "" then .error .notFound
  else if maxPath ≤ path.utf8ByteSize then .error .nameTooLong
  else
    t.walk (path.toList.getLast? = some '/') (if Path.isAbsolute path then [] else home)
      (Path.steps path)

/-! ## calls -/

def read (t : FileTree) (path : String) : Except IoError ByteArray := do
  let p ← t.locate path
  match ← t.find p.location with
  | none => .error .notFound
  | some .dir => .error .isDirectory
  | some (.file content) => if p.slash then .error .notDirectory else .ok content

def write (t : FileTree) (path : String) (content : ByteArray) : Except IoError FileTree := do
  let p ← t.locate path
  if p.name.isNone ∨ p.slash then .error .isDirectory
  else
    match ← t.find p.location with
    | some .dir => .error .isDirectory
    | _ => .ok (t.put p.location (.file content))

def isDir (t : FileTree) (path : String) : Bool :=
  match t.locate path with
  | .error _ => false
  | .ok p => t.find p.location matches .ok (some .dir)

def makeDir (t : FileTree) (path : String) : Except IoError FileTree := do
  let p ← t.locate path
  match ← t.find p.location with
  | some _ => .error .alreadyExists
  | none => .ok (t.put p.location .dir)

/-- Move a file, over another one if there is one. -/
def rename (t : FileTree) (source target : String) : Except IoError FileTree := do
  let s ← t.locate source
  let d ← t.locate target
  if s.name.isNone ∨ d.name.isNone then .error .busy
  else
    match ← t.find s.location with
    | none => .error .notFound
    | some .dir => .error (.other "directories are not moved")
    | some (.file content) =>
      let replaced ← t.find d.location
      if s.slash ∨ d.slash then .error .notDirectory
      else
        match replaced with
        | some .dir => .error .isDirectory
        | _ => .ok (put ⟨t.entries.erase s.location⟩ d.location (.file content))

def delete (t : FileTree) (path : String) : Except IoError FileTree := do
  let p ← t.locate path
  if p.name.isNone then .error .isDirectory
  else
    match ← t.find p.location with
    | none => .error .notFound
    | some .dir => .error .isDirectory
    | some (.file _) =>
      if p.slash then .error .notDirectory else .ok ⟨t.entries.erase p.location⟩

end FileTree

end Blocklist
