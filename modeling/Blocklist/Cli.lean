import Blocklist.Blocker
import Blocklist.Cli.Arguments
import Blocklist.Config.Wire
import Blocklist.Disk

/-!
# The command line

Filters and lists are parsed and compiled without any state; all other commands work on the blocker
whose saved values and rulesets are in files. A command that fails keeps what it has printed and
says why on the error stream.

* `Cli.Outcome`   exit code, output and error output;
* `Cli.Session`   a command under way: its output so far, and where it may fail;
* `Cli.run`       a command line.
-/

namespace Blocklist.Cli

structure Outcome where
  code : Nat
  stdout : String := ""
  stderr : String := ""
  deriving DecidableEq, Repr

/-- a failure is the text that is reported -/
abbrev Session (m : Type → Type) := ExceptT String (StateT String m)

/-! ## layout -/

/-- the blanks that `s` lacks to be `width` characters long -/
def padding (width : Nat) (s : String) : String :=
  String.ofList (List.replicate (width - s.length) ' ')

def padRight (width : Nat) (s : String) : String := s ++ padding width s
def padLeft (width : Nat) (s : String) : String := padding width s ++ s

def onOff (b : Bool) : String := if b then "on" else "off"

/-- nanoseconds as milliseconds with one decimal -/
def millis (ns : Nat) : String :=
  let tenths := (ns + 50000) / 100000
  s!"{tenths / 10}.{tenths % 10}"

variable {m : Type → Type} {α : Type} [Monad m]

namespace Session

def printLine (line : String) : Session m Unit := modify fun out => out ++ line ++ "\n"

def outside (x : m α) : Session m α := ExceptT.lift (StateT.lift x)

/-- a result whose errors are reported as `say` words them -/
def check {ε : Type} (say : ε → String) : Except ε α → Session m α
  | .ok a => return a
  | .error e => throw (say e)

def call {ε : Type} (say : ε → String) (x : m (Except ε α)) : Session m α := do
  check say (← outside x)

end Session

open Session

/-! ## commands without state -/

def parseFilter (filter : String) (id : RuleId) : Session m Unit := do
  let rule ← check (fun e => "Rejected: " ++ e.message) (Filter.parse filter.toList id)
  printLine rule.toJson.pretty

variable [FileSystem m]

/-- the name of the list in a file -/
def listName (path : String) : String := (Path.stem? path).getD "list"

def compileLine (index : Nat) (name : String) (window : IdRange) (t : Tally) : String :=
  s!"  [{index}] {name} - {t.lines} lines, {t.rules} rules (ids {window.text}), " ++
  s!"{t.cosmetic} cosmetic, {t.unsupported} unsupported, {t.duplicates} duplicates, " ++
  s!"{t.truncated} truncated"

/-- compile list `index` of `count` into a ruleset in the directory `output` -/
def compileFile (output : String) (verbose : Bool) (count index : Nat) (path : String) :
    Session m Tally := do
  let text ← call (fun e => s!"Failed to read '{path}': {e.message}") (readText path)
  let window ← check IdRange.Fault.message (IdRange.staticWindow? index count)
  let compiled := FilterList.compile text.toList window
  let name := listName path
  let target := Path.join output (name ++ ".json")
  call (fun e => s!"Failed to write '{target}': {e.message}")
    (FileSystem.writeFile target (Rule.listText compiled.rules).toUTF8)
  if verbose then
    printLine (compileLine index name window compiled.tally)
  return compiled.tally

def compileFiles (output : String) (verbose : Bool) (count : Nat) :
    Nat → List String → Session m (List Tally)
  | _, [] => return []
  | index, path :: paths => do
    let tally ← compileFile output verbose count index path
    return tally :: (← compileFiles output verbose count (index + 1) paths)

def compile [Stopwatch m] (inputs : List String) (output : String) (verbose : Bool) :
    Session m Unit := do
  let start ← outside Stopwatch.nowNs
  call (fun e => s!"Failed to create '{output}': {e.message}") (createDirAll output)
  let tallies ← compileFiles output verbose inputs.length 0 inputs
  let total (count : Tally → Nat) : Nat := tallies.foldl (fun n t => n + count t) 0
  printLine s!"Compiled {inputs.length} filter lists to '{output}'"
  printLine s!"  Lines:    {total Tally.lines}"
  printLine s!"  Rules:    {total Tally.rules} ({total Tally.rejected} rejected)"
  let elapsed := (← outside Stopwatch.nowNs) - start
  printLine s!"  Time:     {millis elapsed}ms"

/-! ## the blocker in the files -/

variable [HttpClient m] [Clock m] [Sleep m]

/-- a blocker and the files it is kept in -/
structure Kept where
  blocker : Blocker
  disk : Disk

/-- apply an operation to the blocker -/
def Kept.apply (k : Kept) (say : SyncError → String) (act : Blocker.Action (StateT Disk m) α) :
    Session m (α × Kept) := do
  let ((answer, blocker), disk) ← outside ((act.on k.blocker).run k.disk)
  return (← check say answer, ⟨blocker, disk⟩)

def loadConfig : Option String → Session m SyncConfig
  | none => return .default
  | some path => call (fun e => (SyncError.config e).message) (SyncConfig.load path)

def noClient (reason : String) : String :=
  "Failed to create HTTP client: " ++ (FetchError.http reason).message

/-- the blocker, with what was saved -/
def openBlocker (places : Places) : Session m Kept := do
  let config ← loadConfig places.config
  call noClient HttpClient.create
  let blocker ← check SyncError.message (Blocker.new config)
  let disk := { rulesetDir := places.rulesets, stateFile := places.state }
  let ((), kept) ← Kept.apply ⟨blocker, disk⟩ (fun e => "Failed to restore state: " ++ e.message)
    Blocker.restore
  return kept

/-- open the blocker and apply one operation -/
def withBlocker (places : Places) (act : Blocker.Action (StateT Disk m) α) : Session m α := do
  let kept ← openBlocker places
  return (← kept.apply SyncError.message act).1

/-! ## commands on the blocker -/

def printReport (r : RefreshReport) : Session m Unit := do
  for id in r.succeeded do
    printLine ("  updated   " ++ id)
  for id in r.skipped do
    printLine ("  skipped   " ++ id)
  for (id, e) in r.failed do
    printLine s!"  failed    {id} ({e.message})"
  if let some e := r.persistError then
    printLine s!"  state not saved ({e.message})"

def refresh (places : Places) (force : Bool) : Session m Unit := do
  let report ← withBlocker places (Blocker.refresh force)
  printReport report
  if report.failed ≠ [] then
    throw s!"{report.failed.length} filter lists failed to refresh"
  if let some e := report.persistError then
    throw ("Failed to save filter list state: " ++ e.message)

def addCustom (places : Places) (filter : String) : Session m Unit := do
  let id ← withBlocker places (Blocker.addCustomFilter filter)
  printLine s!"Added custom filter {Text.trimmed filter} as rule {id.toNat}"

def removeCustom (places : Places) (id : RuleId) : Session m Unit := do
  let removed ← withBlocker places (Blocker.removeCustomFilter id)
  printLine ("Removed custom filter " ++ removed.filter)

def customLine (c : CustomFilter) : String := padLeft 8 (toString c.id.toNat) ++ "  " ++ c.filter

def listCustom (places : Places) : Session m Unit := do
  for c in (← openBlocker places).blocker.customFilters do
    printLine (customLine c)

def whitelist (places : Places) (domain : String) : Session m Unit := do
  if ← withBlocker places (Blocker.toggleWhitelist domain) then
    printLine ("Whitelisted " ++ domain)
  else
    printLine s!"Removed {domain} from the whitelist"

def setEnabled (places : Places) (list : Option String) (enabled : Bool) : Session m Unit := do
  let state := if enabled then "enabled" else "disabled"
  match list with
  | some id =>
    withBlocker places (Blocker.setListEnabled id enabled)
    printLine s!"List {id} {state}"
  | none =>
    withBlocker places (Blocker.setEnabled enabled)
    printLine ("Blocking " ++ state)

/-- the line about a list of which `active` rules are in its ruleset -/
def listLine (l : StaticList) (active : Nat) : String :=
  let updated := match l.lastUpdate with
    | some n => toString n.toNat
    | none => "never"
  s!"  {padRight 12 l.id} {padRight 8 (onOff l.enabled)} ids {padRight 16 l.window.text} " ++
  s!"{padLeft 6 (toString active)} rules  updated {updated}"

def stats (places : Places) : Session m Unit := do
  let kept ← openBlocker places
  let b := kept.blocker
  printLine ("Blocking:    " ++ onOff b.enabled)
  printLine ""
  printLine "Filter lists:"
  for l in b.coordinator.lists do
    let rules ← call EngineError.message ((Disk.rules l.tier).run' kept.disk)
    printLine (listLine l rules.length)
  printLine ""
  printLine s!"Custom:      {b.store.count .dynamic} filters"
  printLine s!"Whitelist:   {b.whitelist.length} domains"

/-! ## command lines -/

variable [Stopwatch m]

def Invocation.run (i : Invocation) : Session m Unit :=
  match i.command with
  | .parse filter id => parseFilter filter id
  | .compile inputs output verbose => compile inputs output verbose
  | .refresh force => refresh i.places force
  | .addCustom filter => addCustom i.places filter
  | .removeCustom id => removeCustom i.places id
  | .listCustom => listCustom i.places
  | .whitelist domain => whitelist i.places domain
  | .setEnabled list enabled => setEnabled i.places list enabled
  | .stats => stats i.places

/-- Exit code 2 is for arguments that make no command, 1 for a command that fails. -/
def run (args : List String) : m Outcome := do
  match Invocation.parse args with
  | .error e => return ⟨2, "", s!"error: {e.message}\n"⟩
  | .ok i =>
    match ← i.run.run.run "" with
    | (.ok (), out) => return ⟨0, out, ""⟩
    | (.error e, out) => return ⟨1, out, s!"Error: {e}\n"⟩

end Blocklist.Cli
