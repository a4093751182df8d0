import Blocklist.Text

/-!
# Patterns of filter lines

The part of a filter line before its options says which addresses it is about: a domain, a pattern
of the address, or both.

* `Pattern.cutOptions`    a line cut at its first `$` that no backslash precedes;
* `Pattern.hostName?`     a host as a literal domain;
* `Pattern.splitAnchor`   the domain after `||`, and the rest of the pattern;
* `Pattern.urlFilter`     the pattern the engine is given: no anchors, no separator marks, dollars
                          without their backslash.
-/

namespace Blocklist.Pattern

/-- the parts before and after the first `$` that no backslash precedes; `escaped` says that one
precedes the text -/
def cutOptions (escaped : Bool) : List Char → List Char × Option (List Char)
  | [] => ([], none)
  | c :: cs =>
    if c = '$' ∧ escaped = false then ([], some cs)
    else
      let rest := cutOptions (c == '\\') cs
      (c :: rest.1, rest.2)

theorem cutOptions_nil (escaped : Bool) : cutOptions escaped [] = ([], none) := rfl

theorem cutOptions_dollar (cs : List Char) : cutOptions false ('$' :: cs) = ([], some cs) := by
  simp [cutOptions]

/-- a host as a literal domain, if every character is one of host names or a dot -/
def hostName? (host : List Char) : Option (List Char) :=
  let name := Text.trimWhile (· == '.') (Text.trim host)
  if name ≠ [] ∧ name.all (fun c => Text.isHostChar c || c == '.') then some (Text.lower name)
  else none

/-- The literal domain after `||` and what remains: the path, from the first slash on. A host that
is no literal domain stays a part of the pattern. -/
def splitAnchor (pattern : List Char) : Option (List Char) × List Char :=
  match Text.after? ['|', '|'] pattern with
  | none => (none, pattern)
  | some rest =>
    match hostName? (rest.takeWhile fun c => c ≠ '/' ∧ c ≠ '^') with
    | some domain => (some domain, rest.dropWhile (· ≠ '/'))
    | none => (none, rest)

/-- a text with every `\$` written `$` -/
def unescape : List Char → List Char
  | [] => []
  | '\\' :: '$' :: cs => '$' :: unescape cs
  | c :: cs => c :: unescape cs

def urlFilter (pattern : List Char) : List Char :=
  unescape ((Text.dropLastOne '|' (Text.dropOne '|' pattern)).filter (· ≠ '^'))

end Blocklist.Pattern
