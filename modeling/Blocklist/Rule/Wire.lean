import Blocklist.Json.Reader
import Blocklist.Json.Printer
import Blocklist.Json.Record
import Blocklist.Json.Settled
import Blocklist.Rule

/-!
# Rules on the wire

The JSON form in which the rule engine takes rules. Optional conditions that are absent are not
written; resource types always are.

* `Rule.toJson`, `Rule.ofJson?`     one rule;
* `Rule.listToJson`, `Rule.listOfJson?`   a list of rules;
* `Rule.listText`, `Rule.listOfText?`     a list of rules as the text of a ruleset.
-/

namespace Blocklist

def ResourceTypes.toJson (s : ResourceTypes) : Json := .ofStrings s.wireNames

def ResourceTypes.ofJson? (j : Json) : Option ResourceTypes :=
  j.strings?.bind ResourceTypes.ofWireNames?

namespace Action

def toJson (a : Action) : Json := .obj [("type", .str a.wireName)]

def ofTag? (j : Json) : Option Action := j.str?.bind ofWireName?

/-- An action is told by its field `type`. Its other fields do not count, but have to be readable
values, with `depth` levels of nesting left for the action. -/
def ofJson? (depth : Nat) : Json → Option Action
  | .obj fields =>
    if (Json.settleFields? (depth - 1) fields ∅).isSome then
      (Json.field? fields "type").bind fun tag => tag.bind ofTag?
    else none
  | .arr [tag] => ofTag? tag
  | _ => none

end Action

/-- A party may also be written as an object: one field of its name, with no value. -/
def Party.ofJson? : Json → Option Party
  | .obj [(name, .null)] => ofWireName? name
  | j => j.str?.bind ofWireName?

namespace Condition

/-- a field that is written only if it is there -/
def optionalField {α : Type} (name : String) (write : α → Json) :
    Option α → List (String × Json)
  | none => []
  | some a => [(name, write a)]

def fieldNames : List String :=
  ["urlFilter", "requestDomains", "resourceTypes", "initiatorDomains", "excludedInitiatorDomains",
   "domainType", "isUrlFilterCaseSensitive"]

def toJson (c : Condition) : Json :=
  .obj <|
    optionalField "urlFilter" .str c.urlFilter ++
    optionalField "requestDomains" .ofStrings c.requestDomains ++
    [("resourceTypes", c.resourceTypes.toJson)] ++
    optionalField "initiatorDomains" .ofStrings c.initiatorDomains ++
    optionalField "excludedInitiatorDomains" .ofStrings c.excludedInitiatorDomains ++
    optionalField "domainType" (fun p => .str p.wireName) c.party ++
    optionalField "isUrlFilterCaseSensitive" .bool c.caseSensitive

def ofJson? (j : Json) : Option Condition :=
  match j.record? fieldNames with
  | some [url, domains, types, initiators, excluded, party, sensitive] => do
    return {
      urlFilter := ← Json.orElse none (Json.optional? Json.str?) url
      requestDomains := ← Json.orElse none (Json.optional? Json.strings?) domains
      resourceTypes := ← Json.orElse .usual ResourceTypes.ofJson? types
      initiatorDomains := ← Json.orElse none (Json.optional? Json.strings?) initiators
      excludedInitiatorDomains := ← Json.orElse none (Json.optional? Json.strings?) excluded
      party := ← Json.orElse none (Json.optional? Party.ofJson?) party
      caseSensitive := ← Json.orElse none (Json.optional? Json.bool?) sensitive }
  | _ => none

end Condition

namespace Rule

def fieldNames : List String := ["id", "priority", "action", "condition"]

def toJson (r : Rule) : Json :=
  .obj [("id", .ofNat r.id.toNat), ("priority", .ofNat r.priority.toNat),
    ("action", r.action.toJson), ("condition", r.condition.toJson)]

/-- a rule, with `depth` levels of nesting left for it -/
def ofJsonWithin? (depth : Nat) (j : Json) : Option Rule :=
  match j.record? fieldNames with
  | some [id, priority, action, condition] => do
    return {
      id := ← id.bind Json.word32?
      priority := ← priority.bind Json.word32?
      action := ← action.bind (Action.ofJson? (depth - 1))
      condition := ← condition.bind Condition.ofJson? }
  | _ => none

def ofJson? (j : Json) : Option Rule := ofJsonWithin? Json.maxDepth j

def listToJson (rules : List Rule) : Json := .arr (rules.map toJson)

def listOfJson? (j : Json) : Option (List Rule) := j.list? (ofJsonWithin? (Json.maxDepth - 1))

def listText (rules : List Rule) : String := (listToJson rules).pretty

def listOfText? (s : String) : Option (List Rule) :=
  (Json.ofString? s).bind listOfJson?

end Rule

end Blocklist
