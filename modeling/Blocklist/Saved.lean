import Blocklist.Json.Record
import Blocklist.Json.Settled
import Blocklist.Config.Wire

/-!
# Saved values

What is kept in the key-value store from one start to the next, and under which keys. A value that
cannot be read is taken for a missing one.

* `CustomFilter`   a filter of the user and the id of its rule;
* `ListState`      the part of a list's state that is saved;
* `Saved`          for each key, what is written and how it is read.
-/

namespace Blocklist

structure CustomFilter where
  id : RuleId
  filter : String
  deriving DecidableEq, Repr

namespace CustomFilter

def fieldNames : List String := ["id", "filter"]

def toJson (c : CustomFilter) : Json := .obj [("filter", .str c.filter), ("id", .ofNat c.id.toNat)]

def ofJson? (j : Json) : Option CustomFilter :=
  match j.record? fieldNames with
  | some [id, filter] => do
    return { id := ← id.bind Json.word32?, filter := ← filter.bind Json.str? }
  | _ => none

end CustomFilter

structure ListState where
  enabled : Option Bool := none
  lastUpdate : Option UInt64 := none
  fingerprint : Option UInt64 := none
  deriving DecidableEq, Repr

namespace ListState

def fieldNames : List String := ["enabled", "lastUpdate", "fingerprint"]

def ofWord : Option UInt64 → Json := Json.ofOption fun n => .ofNat n.toNat

def toJson (s : ListState) : Json :=
  .obj [("enabled", Json.ofOption .bool s.enabled), ("fingerprint", ofWord s.fingerprint),
    ("lastUpdate", ofWord s.lastUpdate)]

def ofJson? (j : Json) : Option ListState :=
  match j.record? fieldNames with
  | some [enabled, lastUpdate, fingerprint] => do
    return {
      enabled := ← Json.orElse none (Json.optional? Json.bool?) enabled
      lastUpdate := ← Json.orElse none (Json.optional? Json.word64?) lastUpdate
      fingerprint := ← Json.orElse none (Json.optional? Json.word64?) fingerprint }
  | _ => none

end ListState

namespace Saved

def customFiltersKey : String := "customFilters"
def whitelistKey : String := "whitelistedDomains"
def enabledKey : String := "isEnabled"
def listStatesKey : String := "filterListState"
def lastUpdateKey : String := "lastFilterUpdate"

def single (key : String) (v : Json) : Items := .ofList [(key, v)]

def customFiltersToJson (filters : List CustomFilter) : Json :=
  .arr (filters.map CustomFilter.toJson)

def customFilters (items : Items) : List CustomFilter :=
  (items[customFiltersKey]?.bind (Json.list? CustomFilter.ofJson?)).getD []

def whitelist (items : Items) : List String :=
  (items[whitelistKey]?.bind Json.strings?).getD []

/-- enabled unless the opposite is saved -/
def enabled (items : Items) : Bool := (items[enabledKey]?.bind Json.bool?).getD true

/-! ## states of lists -/

abbrev ListStates := Std.ExtTreeMap String ListState

def listStatesToJson (states : ListStates) : Json :=
  .obj (states.toList.map fun s => (s.1, s.2.toJson))

/-- the states under their list ids; all of them can be read or none is -/
def listStates? : Json → Option ListStates
  | .obj fields =>
    (fields.mapM fun f => (ListState.ofJson? f.2).map fun s => (f.1, s)).map (.ofList ·)
  | _ => none

def listStates (items : Items) : ListStates := (items[listStatesKey]?.bind listStates?).getD ∅

end Saved

end Blocklist
