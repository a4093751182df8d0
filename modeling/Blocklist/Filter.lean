import Blocklist.Filter.Options
import Blocklist.Filter.Pattern

/-!
# Filter lines

`Filter.parse line id` is the rule with the given id that a line of a filter list stands for, or the
reason why it stands for none. The checks come in this order: blank, cosmetic, comment, options,
pattern.
-/

namespace Blocklist.Filter

def cosmeticMarks : List (List Char) :=
  ["##".toList, "#@#".toList, "#?#".toList, "#$#".toList]

def isCosmetic (line : List Char) : Bool := cosmeticMarks.any (Text.hasInfix · line)

def isComment (line : List Char) : Bool := line.head? = some '!' || line.head? = some '['

/-- whether the line is an exception, and the line without the mark of exceptions -/
def splitException (line : List Char) : Bool × List Char :=
  match Text.after? ['@', '@'] line with
  | some body => (true, body)
  | none => (false, line)

/-- a list as an optional field: absent when empty -/
def nonEmpty? {α : Type} : List α → Option (List α)
  | [] => none
  | a :: as => some (a :: as)

/-- An address pattern with a wildcard does not distinguish case unless the options say so. -/
def caseSensitive? (url : List Char) (matchCase : Bool) : Option Bool :=
  if matchCase then some true else if '*' ∈ url then some false else none

/-- the rule of a line that has been taken apart; `line` is its whole text -/
def rule (line : List Char) (id : RuleId) (exception : Bool) (domain : Option (List Char))
    (url : List Char) (options : Options) : Rule where
  id := id
  priority := if exception then exceptionPriority else blockPriority
  action := if exception then .allow else .block
  condition :=
    { urlFilter := (nonEmpty? url).map String.ofList
      requestDomains := domain.map fun d => [String.ofList d]
      resourceTypes := options.resourceTypes
      initiatorDomains := nonEmpty? options.initiators
      excludedInitiatorDomains := nonEmpty? options.excludedInitiators
      party := options.party
      caseSensitive := caseSensitive? url options.matchCase }
  source := some (String.ofList line)

/-- the options of a line, if it has a part for them -/
def optionsOf : Option (List Char) → Except Rejection Options
  | none => .ok {}
  | some text => Options.parse text

def parse (line : List Char) (id : RuleId) : Except Rejection Rule :=
  let line := Text.trim line
  if line = [] then .error .skip
  else if isCosmetic line then .error .cosmetic
  else if isComment line then .error .skip
  else
    let (exception, body) := splitException line
    let (pattern, optionsText) := Pattern.cutOptions false body
    match optionsOf optionsText with
    | .error rejection => .error rejection
    | .ok options =>
      let (domain, rest) := Pattern.splitAnchor (Text.trim pattern)
      let url := Pattern.urlFilter rest
      if domain = none ∧ url = [] then .error .emptyPattern
      else .ok (rule line id exception domain url options)

end Blocklist.Filter
