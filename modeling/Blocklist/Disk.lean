import Blocklist.Files.FileSystem
import Blocklist.Rule.Wire
import Blocklist.Services

/-!
# Services on files

Rules are written as one ruleset file for each tier, in a directory that also holds a file of the
flags of all rulesets. Saved values are the fields of one JSON object in a file, which is read once.
Lists are fetched from `file://` addresses, and from all others by a request.

* `Disk`            where the files are, and the values once they are read;
* `rulesetPath`     the file of a tier;
* `Disk.rules`      the rules in it;
* `Disk.isEnabled`  the flag of a tier;
* `Disk.fetch`      the text at an address;
* the services of `StateT Disk m`, for a monad `m` with files, requests and a clock.
-/

namespace Blocklist

structure Disk where
  rulesetDir : String
  stateFile : String
  /-- the values in the state file, once they have been read -/
  items : Option Items := none

namespace Disk

def enabledFile : String := "enabled.json"

def rulesetPath (d : Disk) (tier : Tier) : String :=
  Path.join d.rulesetDir (tier.rulesetId ++ ".json")

def enabledPath (d : Disk) : String := Path.join d.rulesetDir enabledFile

/-- the disk with nothing read -/
def reopen (d : Disk) : Disk := { d with items := none }

/-! ## flags of rulesets -/

abbrev Flags := Std.ExtTreeMap String Bool

namespace Flags

def toJson (flags : Flags) : Json := .obj (flags.toList.map fun f => (f.1, .bool f.2))

def ofJson? : Json → Option Flags
  | .obj fields => do
    let flags ← fields.mapM fun (f : String × Json) => f.2.bool?.map fun b => (f.1, b)
    return .ofList flags
  | _ => none

end Flags

variable {m : Type → Type} {α : Type} [Monad m] [FileSystem m]

/-! ## engine -/

def readTable (tier : Tier) : ExceptT IoError (StateT Disk m) RuleTable := do
  let path := (← get).rulesetPath tier
  let rules ← ExceptT.mk (readJson Rule.listOfJson? path : m _)
  return RuleTable.ofRules (rules.getD [])

def writeTable (tier : Tier) (t : RuleTable) : ExceptT IoError (StateT Disk m) Unit := do
  let path := (← get).rulesetPath tier
  ExceptT.mk (writeJson path (Rule.listToJson t.rules) : m _)

def readFlags : ExceptT IoError (StateT Disk m) Flags := do
  let path := (← get).enabledPath
  let flags ← ExceptT.mk (readJson Flags.ofJson? path : m _)
  return flags.getD ∅

/-- an operation on files as one of the engine -/
def asEngine (x : ExceptT IoError (StateT Disk m) α) : StateT Disk m (Except EngineError α) := do
  match ← x.run with
  | .ok a => return .ok a
  | .error e => return .error (.io e)

def rules (tier : Tier) : StateT Disk m (Except EngineError (List Rule)) :=
  asEngine do return (← readTable tier).rules

def isEnabled (tier : Tier) : StateT Disk m (Except EngineError Bool) :=
  asEngine do return (← readFlags).getD tier.rulesetId true

def activeIds (tier : Tier) : StateT Disk m (Except EngineError IdSet) :=
  asEngine do return (← readTable tier).ids

def applyDiff (tier : Tier) (d : RuleDiff) : StateT Disk m (Except EngineError Unit) := do
  match ← (readTable tier).run with
  | .error e => return .error (.io e)
  | .ok t =>
    match t.applyDiff tier d with
    | .error e => return .error e
    | .ok t => asEngine (writeTable tier t)

def setEnabled (tier : Tier) (enabled : Bool) : StateT Disk m (Except EngineError Unit) :=
  asEngine do
    let flags : Flags := (← readFlags).insert tier.rulesetId enabled
    ExceptT.mk (writeJson (← get).enabledPath flags.toJson : m _)

/-! ## key-value store -/

/-- the values of the state file, read if they have not been read before -/
def readItems : ExceptT IoError (StateT Disk m) Items := do
  let d ← get
  match d.items with
  | some items => return items
  | none =>
    let read ← ExceptT.mk (readJson Json.settledItems? d.stateFile : m _)
    let items := read.getD ∅
    set { d with items := some items }
    return items

/-- an operation on files as one of the key-value store -/
def asStore (x : ExceptT IoError (StateT Disk m) α) : StateT Disk m (Except StorageError α) := do
  match ← x.run with
  | .ok a => return .ok a
  | .error e => return .error (.io e)

def load (keys : List String) : StateT Disk m (Except StorageError Items) :=
  asStore do return (← readItems).pick keys

/-- The values count as saved only when they have been written. -/
def save (new : Items) : StateT Disk m (Except StorageError Unit) :=
  asStore do
    let items := (← readItems).update new
    ExceptT.mk (writeJson (← get).stateFile (Json.ofItems items) : m _)
    modify fun d => { d with items := some items }

/-! ## sources -/

def fileScheme : List Char := "file://".toList

/-- the text of a response, which counts only if the status says so -/
def received (url : String) : Except String Response → Except FetchError String
  | .error reason => .error (.http reason)
  | .ok response =>
    if response.isSuccess then response.text.mapError .http
    else .error (.status url response.status)

def fetch [HttpClient m] (url : String) : StateT Disk m (Except FetchError String) :=
  match Text.after? fileScheme url.toList with
  | some path => do
    match ← (readText (String.ofList path) : m _) with
    | .ok s => return .ok s
    | .error e => return .error (.io e)
  | none => return received url (← (HttpClient.get url : m _))

end Disk

instance {m : Type → Type} [Monad m] [FileSystem m] [HttpClient m] [Clock m] [Sleep m] :
    Services (StateT Disk m) where
  activeIds := Disk.activeIds
  applyDiff := Disk.applyDiff
  setEnabled := Disk.setEnabled
  load := Disk.load
  save := Disk.save
  fetch := Disk.fetch
  nowMs := (Clock.nowMs : m _)
  sleepMs ms := (Sleep.sleepMs ms : m _)

end Blocklist
