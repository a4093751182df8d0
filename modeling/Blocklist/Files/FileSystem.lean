import Blocklist.Error
import Blocklist.Files.Path
import Blocklist.Json.Printer
import Blocklist.Json.Reader

/-!
# Files of JSON values

* `FileSystem`     the calls on files, as operations of a monad;
* `createDirAll`   make a directory and those it is in;
* `readText`       the text of a file;
* `readJson`       what a file of JSON says, or nothing if there is no such file;
* `writeJson`      write a file of JSON, so that no reader finds a half-written one: the text goes
                   to a file beside it, which then takes its place.
-/

namespace Blocklist

class FileSystem (m : Type → Type) where
  readFile : String → m (Except IoError ByteArray)
  writeFile : String → ByteArray → m (Except IoError Unit)
  isDir : String → m Bool
  makeDir : String → m (Except IoError Unit)
  /-- move a file over another one -/
  rename : String → String → m (Except IoError Unit)

variable {m : Type → Type} {α : Type} [Monad m] [FileSystem m]

/-- make a directory that may be there already -/
def ensureDir (path : String) : m (Except IoError Unit) := do
  match ← FileSystem.makeDir path with
  | .ok () => return .ok ()
  | .error e => return if ← FileSystem.isDir path then .ok () else .error e

/-- Make a directory, after those it is in where they are missing; `depth` bounds how many. What
has been made stays when a later step fails. -/
def createDirsUpTo : Nat → String → m (Except IoError Unit)
  | depth, path => do
    if path = "" then return .ok ()
    match ← ensureDir path with
    | .error .notFound =>
      match depth, Path.parent? path with
      | depth + 1, some parent =>
        match ← createDirsUpTo depth parent with
        | .error e => return .error e
        | .ok () => ensureDir path
      | _, _ => return .error .notFound
    | answer => return answer

def createDirAll (path : String) : m (Except IoError Unit) :=
  createDirsUpTo (Path.names path).length path

def readText (path : String) : m (Except IoError String) := do
  match ← FileSystem.readFile path with
  | .error e => return .error e
  | .ok bytes =>
    match String.fromUTF8? bytes with
    | some s => return .ok s
    | none => return .error .notUtf8

def readJson (read : Json → Option α) (path : String) : m (Except IoError (Option α)) := do
  match ← FileSystem.readFile path with
  | .error .notFound => return .ok none
  | .error e => return .error e
  | .ok bytes =>
    match (Json.ofBytes? bytes).bind read with
    | some a => return .ok (some a)
    | none => return .error .notJson

/-- the file that takes the place of `path` when it is complete -/
def draftPath (path : String) : String := Path.withExtension path "json.tmp"

def writeJson (path : String) (j : Json) : m (Except IoError Unit) := ExceptT.run do
  match Path.parent? path with
  | some parent => ExceptT.mk (createDirAll parent)
  | none => pure ()
  let draft := draftPath path
  ExceptT.mk (FileSystem.writeFile draft j.pretty.toUTF8)
  ExceptT.mk (FileSystem.rename draft path)

end Blocklist
