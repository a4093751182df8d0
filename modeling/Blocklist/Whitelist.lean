import Blocklist.Rule
import Blocklist.Text

/-!
# Whitelisted domains

* `Whitelist.normalize?`   the normal form of a domain;
* `Whitelist.normalizeAll` the normal forms of a list of domains, each one where it first occurs;
* `Whitelist.rules`        one allow rule for each domain; its id is its position in the list;
* `Whitelist.covers`       a host is on the list, or a domain it is part of is.
-/

namespace Blocklist.Whitelist

/-- the length of the longest host name -/
def maxLength : Nat := 253

def isLabel (cs : List Char) : Bool := cs ≠ [] && cs.all Text.isHostChar

/-- a host without the blanks and dots around it, in lower case -/
def bare (host : List Char) : List Char :=
  Text.lower (Text.trimWhile (· == '.') (Text.trim host))

/-- not too long, and labels of host characters between dots -/
def isName (cs : List Char) : Bool :=
  cs.length ≤ maxLength && (Text.splitOn '.' cs).all isLabel

/-- Host characters are ASCII, so a name has as many bytes as characters. -/
def normalize? (domain : String) : Option String :=
  let name := bare domain.toList
  if isName name then some (String.ofList name) else none

def normalizeAll (domains : List String) : List String :=
  (domains.filterMap normalize?).eraseDups

/-! ## rules -/

def rule (index : Nat) (domain : String) : Rule where
  id := IdRange.sessionIds.start + index.toUInt32
  priority := whitelistPriority
  action := .allow
  condition := { requestDomains := some [domain], resourceTypes := .all }

def rules (domains : List String) : List Rule := domains.mapIdx rule

theorem length_rules (domains : List String) : (rules domains).length = domains.length := by
  simp [rules]

/-! ## lookup -/

/-- what follows each dot of a name -/
def parents : List Char → List (List Char)
  | [] => []
  | c :: cs => if c = '.' then cs :: parents cs else parents cs

theorem mem_parents_iff {cs p : List Char} : p ∈ parents cs ↔ ∃ a, cs = a ++ '.' :: p := by
  induction cs with
  | nil => simp [parents]
  | cons c cs ih =>
    have step : (∃ a, c :: cs = a ++ '.' :: p) ↔ (c = '.' ∧ p = cs) ∨ ∃ a, cs = a ++ '.' :: p := by
      constructor
      · rintro ⟨a, h⟩
        cases a with
        | nil => injection h with h1 h2; exact .inl ⟨h1, h2.symm⟩
        | cons x a => injection h with _ h; exact .inr ⟨a, h⟩
      · rintro (⟨rfl, rfl⟩ | ⟨a, rfl⟩)
        · exact ⟨[], rfl⟩
        · exact ⟨c :: a, rfl⟩
    rw [step, ← ih, parents]
    split <;> simp_all

def covers (domains : List String) (host : String) : Bool :=
  let name := bare host.toList
  (name :: parents name).any fun candidate => String.ofList candidate ∈ domains

end Blocklist.Whitelist
