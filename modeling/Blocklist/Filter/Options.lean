import Blocklist.Rule
import Blocklist.Text

/-!
# Options of a filter line

The part of a filter line after its `$`: a list of segments separated by commas.

* `Rejection`          why a filter line is no rule;
* `Segment`            one option, read by `Segment.ofText?`;
* `Options`            what a list of segments asks for, computed by `Options.ofSegments?`;
* `Options.parse`      the options of a text: blank segments say nothing, and the first segment that
                       is no option is the cause of a rejection.

Plain resource types win over negated ones; negated types are taken from the types a filter line can
name. A list of types that excludes all of them is rejected as a whole.
-/

namespace Blocklist

/-- why a filter line is no rule -/
inductive Rejection where
  /-- the line is blank, a comment or list metadata -/
  | skip
  /-- the line hides page elements -/
  | cosmetic
  /-- the line says nothing about the requests it is meant for -/
  | emptyPattern
  /-- The engine cannot express this option. Without it the rule would match more than the line. -/
  | unsupportedOption (option : String)
  deriving DecidableEq, Repr

def Rejection.message : Rejection → String
  | skip => "comment, metadata or empty line"
  | cosmetic => "element hiding rules cannot be expressed as network rules"
  | emptyPattern => "filter has neither a URL pattern nor a domain"
  | unsupportedOption option => "unsupported filter option: " ++ option

/-- one option -/
inductive Segment where
  /-- the pages the request comes from: some named, some excluded -/
  | domains (included excluded : List String)
  | resource (negated : Bool) (type : ResourceType)
  | party (party : Party)
  | matchCase
  /-- an option that has no bearing on the rule -/
  | important
  deriving DecidableEq, Repr

namespace Segment

/-! ## reading one option -/

/-- the names of resource types in filter lines -/
def resourceKeywords : List (String × ResourceType) :=
  [("script", .script), ("image", .image), ("stylesheet", .stylesheet), ("object", .object),
   ("xmlhttprequest", .xmlHttpRequest), ("xhr", .xmlHttpRequest), ("ping", .ping),
   ("websocket", .webSocket), ("media", .media), ("font", .font), ("other", .other),
   ("subdocument", .subFrame)]

def partyKeywords : List (String × Party) :=
  [("third-party", .third), ("thirdparty", .third), ("3p", .third),
   ("first-party", .first), ("firstparty", .first), ("1p", .first)]

def matchCaseKeywords : List String := ["match-case", "match_case"]

/-- the entries of a list of domains: what stands between the bars, without blank entries -/
def domainEntries (value : List Char) : List (List Char) :=
  ((Text.splitOn '|' value).map Text.trim).filter (· ≠ [])

/-- A list of domains. A tilde excludes the domain after it; a tilde alone says nothing. -/
def ofDomains (value : List Char) : Segment :=
  let entries := domainEntries value
  domains ((entries.filter fun e => e.head? ≠ some '~').map String.ofList)
    ((entries.filterMap fun e =>
      match e with
      | '~' :: d => if d = [] then none else some d
      | _ => none).map String.ofList)

/-- an option named by a keyword, after its tilde if it has one -/
def ofKeyword? (negated : Bool) (name : String) : Option Segment :=
  match resourceKeywords.lookup name with
  | some t => some (resource negated t)
  | none =>
    match partyKeywords.lookup name with
    | some p => some (party (if negated then p.opposite else p))
    | none =>
      if negated then none
      else if name ∈ matchCaseKeywords then some matchCase
      else if name = "important" then some important
      else none

/-- the option a segment without upper case letters stands for -/
def ofText? (cs : List Char) : Option Segment :=
  match Text.after? "domain=".toList cs with
  | some value => some (ofDomains value)
  | none =>
    match cs with
    | '~' :: name => ofKeyword? true (String.ofList name)
    | name => ofKeyword? false (String.ofList name)

/-! ## what an option asks for -/

def included : Segment → List String
  | domains included _ => included
  | _ => []

def excluded : Segment → List String
  | domains _ excluded => excluded
  | _ => []

def party? : Segment → Option Party
  | party p => some p
  | _ => none

/-- the resource type a segment names plainly (`false`) or negates (`true`) -/
def resource? (negated : Bool) : Segment → Option ResourceType
  | resource n t => if n = negated then some t else none
  | _ => none

end Segment

/-! ## options -/

structure Options where
  resourceTypes : ResourceTypes := .usual
  party : Option Party := none
  initiators : List String := []
  excludedInitiators : List String := []
  matchCase : Bool := false
  deriving DecidableEq, Repr

namespace Options

/-- the types named plainly, or else the filterable types without the negated ones -/
def resourceTypesOf (segments : List Segment) : ResourceTypes :=
  let named := ResourceTypes.ofList (segments.filterMap (Segment.resource? false))
  let negated := ResourceTypes.ofList (segments.filterMap (Segment.resource? true))
  if named ≠ ∅ then named
  else if negated ≠ ∅ then ResourceTypes.filterable \ negated
  else .usual

/-- what the segments ask for, unless they leave no resource type -/
def ofSegments? (segments : List Segment) : Option Options :=
  let types := resourceTypesOf segments
  if types = ∅ then none
  else some
    { resourceTypes := types
      party := (segments.filterMap Segment.party?).getLast?
      initiators := segments.flatMap Segment.included
      excludedInitiators := segments.flatMap Segment.excluded
      matchCase := segments.contains .matchCase }

/-- the segments of a text that are not blank -/
def segmentTexts (text : List Char) : List (List Char) :=
  ((Text.splitOn ',' text).map Text.trim).filter (· ≠ [])

/-- the options that segment texts stand for, or the first text that is none -/
def readSegments : List (List Char) → Except Rejection (List Segment)
  | [] => .ok []
  | raw :: raws =>
    match Segment.ofText? (Text.lower raw) with
    | none => .error (.unsupportedOption (String.ofList raw))
    | some segment =>
      match readSegments raws with
      | .error rejection => .error rejection
      | .ok segments => .ok (segment :: segments)

theorem readSegments_nil : readSegments [] = .ok [] := rfl

def parse (text : List Char) : Except Rejection Options :=
  match readSegments (segmentTexts text) with
  | .error rejection => .error rejection
  | .ok segments =>
    match ofSegments? segments with
    | some options => .ok options
    | none => .error (.unsupportedOption (String.ofList (Text.trim text)))

end Options

end Blocklist
