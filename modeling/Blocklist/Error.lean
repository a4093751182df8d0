import Blocklist.Filter.Options
import Blocklist.RuleStore

/-!
# Errors

Causes of failure, each kind with the wording its messages have.

* `IoError`       the operating system or the content of a file;
* `EngineError`, `StorageError`, `FetchError`   the three services the blocker depends on;
* `ConfigError`   a configuration that cannot be used;
* `SyncError`     what an operation of the blocker fails with.
-/

namespace Blocklist

inductive IoError where
  | notFound
  | alreadyExists
  | notDirectory
  | isDirectory
  | nameTooLong
  | busy
  | nulInName
  | notUtf8
  | notJson
  | other (text : String)
  deriving DecidableEq, Repr

/-- what is said of a text that is no JSON, or JSON of another shape than expected -/
def notJsonMessage : String := "not the expected JSON"

def IoError.message : IoError → String
  | notFound => "No such file or directory (os error 2)"
  | alreadyExists => "File exists (os error 17)"
  | notDirectory => "Not a directory (os error 20)"
  | isDirectory => "Is a directory (os error 21)"
  | nameTooLong => "File name too long (os error 36)"
  | busy => "Device or resource busy (os error 16)"
  | nulInName => "file name contained an unexpected NUL byte"
  | notUtf8 => "stream did not contain valid UTF-8"
  | notJson => notJsonMessage
  | other text => text

inductive EngineError where
  | rejected (reason : String)
  | unavailable (reason : String)
  | io (error : IoError)
  deriving DecidableEq, Repr

def EngineError.message : EngineError → String
  | rejected reason => "rule engine rejected the update: " ++ reason
  | unavailable reason => "rule engine unavailable: " ++ reason
  | io error => "I/O error: " ++ error.message

/-- an engine that already has a rule of this id refuses another one -/
def EngineError.alreadyActive (tier : Tier) (id : RuleId) : EngineError :=
  rejected s!"rule id {id.toNat} already active in {tier.name}"

inductive StorageError where
  | io (error : IoError)
  | backend (reason : String)
  deriving DecidableEq, Repr

def StorageError.message : StorageError → String
  | io error => "I/O error: " ++ error.message
  | backend reason => "storage backend error: " ++ reason

inductive FetchError where
  | http (reason : String)
  | status (url : String) (code : Nat)
  | io (error : IoError)
  | notFound (url : String)
  deriving DecidableEq, Repr

def FetchError.message : FetchError → String
  | http reason => "HTTP error: " ++ reason
  | status url code => s!"unexpected status {code} from {url}"
  | io error => "I/O error: " ++ error.message
  | notFound url => "no source available for " ++ url

inductive ConfigError where
  | unreadable (path : String) (error : IoError)
  | notJson
  | emptyListId
  | reservedListId (list : String)
  | duplicateListId (list : String)
  | windowOutside (list : String) (window : IdRange)
  | windowOverlap (list : String) (window : IdRange) (earlier : String)
  | zeroInterval
  deriving DecidableEq, Repr

def ConfigError.message : ConfigError → String
  | unreadable path error => s!"failed to read '{path}': {error.message}"
  | notJson => notJsonMessage
  | emptyListId => "filter list id must not be empty"
  | reservedListId list => s!"filter list id '{list}' is reserved"
  | duplicateListId list => s!"duplicate filter list id '{list}'"
  | windowOutside list window =>
    s!"list '{list}' window {window.text} is not inside {IdRange.staticIds.text}"
  | windowOverlap list window earlier =>
    s!"list '{list}' window {window.text} overlaps list '{earlier}'"
  | zeroInterval => "refresh interval must be positive"

inductive SyncError where
  | rejected (cause : Rejection)
  | store (cause : StoreError)
  | engineApplyFailed (tier : Tier) (attempts : Nat) (cause : EngineError)
  | storage (cause : StorageError)
  | unknownList (list : String)
  | unknownFilter (id : RuleId)
  | invalidDomain (domain : String)
  | config (cause : ConfigError)
  deriving DecidableEq, Repr

def SyncError.message : SyncError → String
  | rejected cause => "filter rejected: " ++ cause.message
  | store cause => cause.message
  | engineApplyFailed tier attempts cause =>
    s!"updating {tier.name} rules failed after {attempts} attempts: {cause.message}"
  | storage cause => "storage error: " ++ cause.message
  | unknownList list => "unknown filter list: " ++ list
  | unknownFilter id => s!"no custom filter with id {id.toNat}"
  | invalidDomain domain => s!"'{domain}' is not a valid domain"
  | config cause => "invalid configuration: " ++ cause.message

end Blocklist
