import Blocklist.Cli
import Blocklist.Url
import Std.Time.DateTime.Timestamp

/-!
# The program

The operations that commands need, on the files and clocks of the computer. Requests are checked and
go nowhere: lists that are not in files have to be fetched by other means.
-/

namespace Blocklist

/-- the error of a call on files, told by its number where that is needed -/
def IoError.ofSystem : IO.Error → IoError
  | .noFileOrDirectory .. => .notFound
  | .alreadyExists .. => .alreadyExists
  | .inappropriateType _ number _ => if number = 21 then .isDirectory else .notDirectory
  | .resourceBusy .. => .busy
  | .permissionDenied _ number text => .other s!"{text} (os error {number})"
  | .resourceExhausted _ number text => .other s!"{text} (os error {number})"
  | .invalidArgument _ number text => .other s!"{text} (os error {number})"
  | e => .other (toString e)

def onFiles {α : Type} (x : IO α) : IO (Except IoError α) := do
  match ← x.toBaseIO with
  | .ok a => return .ok a
  | .error e => return .error (.ofSystem e)

instance : FileSystem IO where
  readFile path := onFiles (IO.FS.readBinFile path)
  writeFile path content := onFiles (IO.FS.writeBinFile path content)
  isDir path := do
    match ← (IO.FS.realPath path).toBaseIO with
    | .ok place => place.isDir
    | .error _ => return false
  makeDir path := onFiles (IO.FS.createDir path)
  rename source target := onFiles (IO.FS.rename source target)

instance : HttpClient IO where
  create := return .ok ()
  get url := return .error (Url.unanswered url)

instance : Clock IO where
  nowMs := do
    let now ← Std.Time.Timestamp.now
    return now.toMillisecondsSinceUnixEpoch.val.toNat.toUInt64

instance : Stopwatch IO where
  nowNs := IO.monoNanosNow

/-- the longest sleep that is asked for at once -/
def napMs : Nat := 0x80000000

/-- one sleep after another, as long as all of them together -/
def sleepThrough : Nat → IO Unit
  | 0 => return ()
  | naps + 1 => do
    IO.sleep napMs.toUInt32
    sleepThrough naps

instance : Sleep IO where
  sleepMs ms := do
    let ms := min ms Sleep.longestMs
    sleepThrough (ms / napMs)
    IO.sleep (ms % napMs).toUInt32

end Blocklist

def main (args : List String) : IO UInt32 := do
  let outcome : Blocklist.Cli.Outcome ← Blocklist.Cli.run args
  IO.print outcome.stdout
  IO.eprint outcome.stderr
  return outcome.code.toUInt32
