import Blocklist.Filter
import Std.Data.ExtTreeSet

/-!
# Compiled filter lists

A filter list becomes the rules of its lines, numbered one after another from the start of an id
window. A line whose effect an earlier line already had is left out, and so is what no longer fits
the window.

* `Tally`                 how many lines had which fate;
* `FilterList.compile`    the rules and the tally of a text.
-/

namespace Blocklist

/-- How many lines there were, how many of them became rules, and what happened to the others. -/
structure Tally where
  lines : Nat := 0
  rules : Nat := 0
  skipped : Nat := 0
  cosmetic : Nat := 0
  empty : Nat := 0
  unsupported : Nat := 0
  duplicates : Nat := 0
  truncated : Nat := 0
  deriving DecidableEq, Repr

namespace Tally

def addRejection (t : Tally) : Rejection → Tally
  | .skip => { t with skipped := t.skipped + 1 }
  | .cosmetic => { t with cosmetic := t.cosmetic + 1 }
  | .emptyPattern => { t with empty := t.empty + 1 }
  | .unsupportedOption _ => { t with unsupported := t.unsupported + 1 }

/-- lines that were meant as rules and are none -/
def rejected (t : Tally) : Nat := t.cosmetic + t.empty + t.unsupported

end Tally

namespace FilterList

structure Compiled where
  rules : List Rule
  tally : Tally
  deriving DecidableEq, Repr

/-- a compilation under way -/
structure Progress where
  /-- the rules so far, the last one first -/
  rules : List Rule := []
  nextId : RuleId
  seen : Std.ExtTreeSet Effect := ∅
  tally : Tally := {}

namespace Progress

def addLine (p : Progress) : Progress := { p with tally.lines := p.tally.lines + 1 }

/-- take in one line; the window has room for `room` rules -/
def step (room : Nat) (p : Progress) (line : List Char) : Progress :=
  let p := p.addLine
  match Filter.parse line p.nextId with
  | .error rejection => { p with tally := p.tally.addRejection rejection }
  | .ok rule =>
    if rule.effect ∈ p.seen then { p with tally.duplicates := p.tally.duplicates + 1 }
    else
      let p := { p with seen := p.seen.insert rule.effect }
      if p.tally.rules < room then
        { p with
          rules := rule :: p.rules
          nextId := p.nextId + 1
          tally.rules := p.tally.rules + 1 }
      else { p with tally.truncated := p.tally.truncated + 1 }

end Progress

def compile (text : List Char) (window : IdRange) : Compiled :=
  let p := (Text.lines text).foldl (Progress.step window.size) { nextId := window.start }
  ⟨p.rules.reverse, p.tally⟩

end FilterList

end Blocklist
