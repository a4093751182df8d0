import Blocklist.IdRange
import Std.Data.ExtTreeSet

/-!
# Handing out ids

An allocator hands out the ids of a range. Its cursor walks through the range and starts again at
the end of it, so that a released id rests until every other id has been offered.

* `IdAllocator.allocate`   the first id from the cursor on that is not issued;
* `reserve`, `release`     mark an id as issued, or as not issued;
* `reset`                  exactly the given ids are issued.
-/

namespace Blocklist

structure IdAllocator where
  range : IdRange
  cursor : RuleId
  issued : Std.ExtTreeSet RuleId

namespace IdAllocator

def new (range : IdRange) : IdAllocator := ⟨range, range.start, ∅⟩

/-- an id outside the range gives way to the start of the range -/
def wrap (a : IdAllocator) (id : RuleId) : RuleId :=
  if a.range.contains id then id else a.range.start

/-- the first id from `id` on that is not issued, looking at `fuel` ids -/
def firstFree (a : IdAllocator) : Nat → RuleId → RuleId
  | 0, id => a.wrap id
  | fuel + 1, id =>
    let id := a.wrap id
    if id ∈ a.issued then firstFree a fuel (id + 1) else id

/-- An id that is not issued, unless all of them are. As many ids as the range has need a look. -/
def allocate (a : IdAllocator) : Option (RuleId × IdAllocator) :=
  if a.issued.size < a.range.size then
    let id := a.firstFree a.range.size a.cursor
    some (id, { a with issued := a.issued.insert id, cursor := id + 1 })
  else none

/-- the answer says whether the id is in the range and was not issued -/
def reserve (a : IdAllocator) (id : RuleId) : Bool × IdAllocator :=
  if a.range.contains id then (id ∉ a.issued, { a with issued := a.issued.insert id })
  else (false, a)

/-- the answer says whether the id was issued -/
def release (a : IdAllocator) (id : RuleId) : Bool × IdAllocator :=
  (id ∈ a.issued, { a with issued := a.issued.erase id })

def reset (a : IdAllocator) (ids : List RuleId) : IdAllocator :=
  { a with issued := Std.ExtTreeSet.ofList (ids.filter a.range.contains) }

end IdAllocator

end Blocklist
