import Blocklist.Files.FileSystem
import Blocklist.Files.FileTree
import Blocklist.Memory
import Blocklist.Url

/-!
# A machine with files

A file tree, a clock and the web: the files and the time of a computer and whom it reaches, as a
value. The web may answer anything, and its requests touch neither files nor clock.

* `Web`       whether there is a client, and what its requests are answered;
* `Machine`   all three;
* the files, the requests, the clock and the stopwatch of `StateM Machine`.
-/

namespace Blocklist

/-- unless something else is said, a web in which requests reach nobody -/
structure Web where
  /-- whether a client can be made -/
  client : Except String Unit := .ok ()
  /-- The answer to a request depends on how many there were before, and on its address. -/
  answer : Nat → String → Except String Response := fun _ url => .error (Url.unanswered url)
  requests : Nat := 0

structure Machine where
  tree : FileTree := {}
  clock : ManualClock := {}
  web : Web := {}

namespace Machine

/-- a call that changes the tree if it succeeds -/
def onTree (f : FileTree → Except IoError FileTree) : StateM Machine (Except IoError Unit) :=
  fun w =>
  match f w.tree with
  | .ok t => (.ok (), { w with tree := t })
  | .error e => (.error e, w)

end Machine

instance : FileSystem (StateM Machine) where
  readFile path := fun w => (w.tree.read path, w)
  writeFile path content := Machine.onTree fun t => t.write path content
  isDir path := fun w => (w.tree.isDir path, w)
  makeDir path := Machine.onTree fun t => t.makeDir path
  rename source target := Machine.onTree fun t => t.rename source target

instance : HttpClient (StateM Machine) where
  create := fun w => (w.web.client, w)
  get url := fun w =>
    (w.web.answer w.web.requests url, { w with web.requests := w.web.requests + 1 })

instance : Clock (StateM Machine) where
  nowMs := fun w => (w.clock.nowMs, w)

instance : Stopwatch (StateM Machine) where
  nowNs := fun w => (w.clock.nowMs.toNat * 1000000, w)

instance : Sleep (StateM Machine) where
  sleepMs ms := fun w => ((), { w with clock := w.clock.wait ms })

end Blocklist
