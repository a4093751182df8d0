import Blocklist.Error
import Blocklist.RetryPolicy

/-!
# Configurations

Which filter lists there are, how often they are refreshed and what the engine can take.

* `ListConfig`            one filter list and the id window of its rules;
* `SyncConfig`            a configuration; its default has two lists that share the static ids;
* `SyncConfig.validate`   the first fault of a configuration: list by list, the interval last.
-/

namespace Blocklist

structure ListConfig where
  id : String
  name : String
  url : Option String := none
  enabled : Bool := true
  idBase : UInt32
  capacity : UInt32
  deriving DecidableEq, Repr

/-- a sum that stops at the largest 32-bit word -/
def saturatingAdd (a b : UInt32) : UInt32 := (min (a.toNat + b.toNat) (UInt32.size - 1)).toUInt32

def ListConfig.window (l : ListConfig) : IdRange := ⟨l.idBase, saturatingAdd l.idBase l.capacity⟩

def ListConfig.tier (l : ListConfig) : Tier := .static l.id

structure SyncConfig where
  lists : List ListConfig
  refreshIntervalSecs : UInt64 := 86400
  retry : RetryPolicy := {}
  limits : CapacityLimits := {}
  deriving DecidableEq, Repr

namespace SyncConfig

def easyList : ListConfig where
  id := "easylist"
  name := "EasyList"
  url := some "https://easylist.to/easylist/easylist.txt"
  idBase := 1
  capacity := 49999

def easyPrivacy : ListConfig where
  id := "easyprivacy"
  name := "EasyPrivacy"
  url := some "https://easylist.to/easylist/easyprivacy.txt"
  idBase := 50000
  capacity := 50000

def default : SyncConfig := { lists := [easyList, easyPrivacy] }

def intervalMs (c : SyncConfig) : Nat := c.refreshIntervalSecs.toNat * 1000

def list? (c : SyncConfig) (id : String) : Option ListConfig := c.lists.find? fun l => l.id = id

/-! ## validation -/

/-- the rulesets that are not lists -/
def reservedIds : List String := [Tier.dynamic.rulesetId, Tier.session.rulesetId]

/-- the fault of one list, given the lists before it -/
def checkList (earlier : List ListConfig) (l : ListConfig) : Except ConfigError Unit :=
  if l.id = "" then .error .emptyListId
  else if l.id ∈ reservedIds then .error (.reservedListId l.id)
  else if l.id ∈ earlier.map ListConfig.id then .error (.duplicateListId l.id)
  else if l.window.isEmpty || !IdRange.staticIds.includes l.window then
    .error (.windowOutside l.id l.window)
  else
    match earlier.find? fun o => o.window.overlaps l.window with
    | some o => .error (.windowOverlap l.id l.window o.id)
    | none => .ok ()

def checkLists (earlier : List ListConfig) : List ListConfig → Except ConfigError Unit
  | [] => .ok ()
  | l :: ls =>
    match checkList earlier l with
    | .error e => .error e
    | .ok () => checkLists (earlier ++ [l]) ls

def validate (c : SyncConfig) : Except ConfigError Unit :=
  match checkLists [] c.lists with
  | .error e => .error e
  | .ok () => if c.refreshIntervalSecs = 0 then .error .zeroInterval else .ok ()

end SyncConfig

end Blocklist
