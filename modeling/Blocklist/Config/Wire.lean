import Blocklist.Config
import Blocklist.Files.FileSystem
import Blocklist.Json.Printer
import Blocklist.Json.Reader
import Blocklist.Json.Record

/-!
# Configurations as JSON texts

* `SyncConfig.toJson`, `SyncConfig.ofJson?`   a configuration as a value; fields that are missing
                                              take their defaults;
* `SyncConfig.parse`, `SyncConfig.load`       the configuration of a text or a file, if it is valid.
-/

namespace Blocklist

def Json.ofOption {α : Type} (write : α → Json) : Option α → Json
  | none => null
  | some a => write a

namespace ListConfig

def fieldNames : List String := ["id", "name", "url", "enabled", "idBase", "capacity"]

def toJson (l : ListConfig) : Json :=
  .obj [("id", .str l.id), ("name", .str l.name), ("url", Json.ofOption .str l.url),
    ("enabled", .bool l.enabled), ("idBase", .ofNat l.idBase.toNat),
    ("capacity", .ofNat l.capacity.toNat)]

def ofJson? (j : Json) : Option ListConfig :=
  match j.record? fieldNames with
  | some [id, name, url, enabled, idBase, capacity] => do
    return {
      id := ← id.bind Json.str?
      name := ← name.bind Json.str?
      url := ← Json.orElse none (Json.optional? Json.str?) url
      enabled := ← Json.orElse true Json.bool? enabled
      idBase := ← idBase.bind Json.word32?
      capacity := ← capacity.bind Json.word32? }
  | _ => none

end ListConfig

namespace RetryPolicy

def fieldNames : List String := ["maxAttempts", "baseDelayMs", "maxDelayMs"]

def toJson (p : RetryPolicy) : Json :=
  .obj [("maxAttempts", .ofNat p.maxAttempts.toNat), ("baseDelayMs", .ofNat p.baseDelayMs.toNat),
    ("maxDelayMs", .ofNat p.maxDelayMs.toNat)]

def ofJson? (j : Json) : Option RetryPolicy :=
  let default : RetryPolicy := {}
  match j.record? fieldNames with
  | some [maxAttempts, baseDelayMs, maxDelayMs] => do
    return {
      maxAttempts := ← Json.orElse default.maxAttempts Json.word32? maxAttempts
      baseDelayMs := ← Json.orElse default.baseDelayMs Json.word64? baseDelayMs
      maxDelayMs := ← Json.orElse default.maxDelayMs Json.word64? maxDelayMs }
  | _ => none

end RetryPolicy

namespace CapacityLimits

def fieldNames : List String := ["dynamic", "session"]

def toJson (l : CapacityLimits) : Json :=
  .obj [("dynamic", .ofNat l.dynamic.toNat), ("session", .ofNat l.session.toNat)]

def ofJson? (j : Json) : Option CapacityLimits :=
  let default : CapacityLimits := {}
  match j.record? fieldNames with
  | some [dynamic, session] => do
    return {
      dynamic := ← Json.orElse default.dynamic Json.word64? dynamic
      session := ← Json.orElse default.session Json.word64? session }
  | _ => none

end CapacityLimits

namespace SyncConfig

def fieldNames : List String := ["lists", "refreshIntervalSecs", "retry", "limits"]

def toJson (c : SyncConfig) : Json :=
  .obj [("lists", .arr (c.lists.map ListConfig.toJson)),
    ("refreshIntervalSecs", .ofNat c.refreshIntervalSecs.toNat), ("retry", c.retry.toJson),
    ("limits", c.limits.toJson)]

def ofJson? (j : Json) : Option SyncConfig :=
  match j.record? fieldNames with
  | some [lists, refreshIntervalSecs, retry, limits] => do
    return {
      lists := ← Json.orElse default.lists (Json.list? ListConfig.ofJson?) lists
      refreshIntervalSecs :=
        ← Json.orElse default.refreshIntervalSecs Json.word64? refreshIntervalSecs
      retry := ← Json.orElse default.retry RetryPolicy.ofJson? retry
      limits := ← Json.orElse default.limits CapacityLimits.ofJson? limits }
  | _ => none

def parse (text : String) : Except ConfigError SyncConfig :=
  match (Json.ofString? text).bind ofJson? with
  | none => .error .notJson
  | some c =>
    match c.validate with
    | .error e => .error e
    | .ok () => .ok c

def load {m : Type → Type} [Monad m] [FileSystem m] (path : String) :
    m (Except ConfigError SyncConfig) := do
  match ← readText path with
  | .error e => return .error (.unreadable path e)
  | .ok text => return parse text

end SyncConfig

end Blocklist
