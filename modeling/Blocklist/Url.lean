import Blocklist.Text.Blank
import Blocklist.Url.Host

/-!
# Addresses on the web

An address is a scheme, for most schemes an authority, a path, a query and a fragment. The special
schemes are those of the web: their addresses have a host, a backslash in them is a slash, and a
path always starts with one.

A list that cannot be fetched is reported with the reason: what is wrong with its address, or the
address in its normal form.

* `Url.parse`                the address a text stands for;
* `Url.text`                 the address in its normal form;
* `Url.withoutCredentials`   without the name and the password of a user;
* `Url.requestFor`           the address that a request for a text goes to: there is none if the
                             text is no address, or one of a scheme without requests;
* `Url.unanswered`           why a request for a text fails if it reaches nobody.
-/

namespace Blocklist

/-- a host, and who asks it at which port; the parts that are lists are empty if they are missing -/
structure Authority where
  user : List Char := []
  password : List Char := []
  host : Option Host := none
  port : Option Nat := none
  deriving DecidableEq, Repr

structure Url where
  scheme : List Char
  authority : Option Authority
  path : List Char
  query : Option (List Char)
  fragment : Option (List Char)
  deriving DecidableEq, Repr

/-! ## schemes -/

/-- how the scheme of an address decides on the rest of it -/
inductive SchemeKind where
  | file
  | special
  | other
  deriving DecidableEq, Repr

namespace SchemeKind

def ofScheme (scheme : List Char) : SchemeKind :=
  if scheme = "file".toList then file
  else if scheme ∈ ["http", "https", "ws", "wss", "ftp"].map String.toList then special
  else other

/-- a backslash is a slash -/
def isSlash (k : SchemeKind) (c : Char) : Bool := c = '/' || (c = '\\' && k ≠ other)

/-- the end of an authority -/
def isEnd (k : SchemeKind) (c : Char) : Bool := k.isSlash c || c = '?' || c = '#'

end SchemeKind

def defaultPort? (scheme : List Char) : Option Nat :=
  (([("http", 80), ("https", 443), ("ws", 80), ("wss", 443), ("ftp", 21)].find? fun s =>
    s.1.toList = scheme).map (·.2))

namespace Url

/-! ## authorities -/

/-- what is before the last `@`, if there is one, and what is after it -/
def atLast (cs : List Char) : Option (List Char) × List Char :=
  match cs.reverse.dropWhile (· ≠ '@') with
  | [] => (none, cs)
  | _ :: before => (some before.reverse, (cs.reverse.takeWhile (· ≠ '@')).reverse)

/-- the host, up to a colon outside of brackets, and what follows -/
def splitHost (bracket : Bool) : List Char → List Char × List Char
  | [] => ([], [])
  | c :: cs =>
    if c = ':' ∧ ¬ bracket then ([], c :: cs)
    else
      let r := splitHost (c = '[' || (bracket && c ≠ ']')) cs
      (c :: r.1, r.2)

/-- the port after a colon, and what is left before the path -/
def portOf (scheme cs : List Char) : Except UrlError (Option Nat × List Char) :=
  let digits := cs.takeWhile Char.isDigit
  let rest := cs.dropWhile Char.isDigit
  let n := Digits.toNat digits
  if 65535 < n then .error .invalidPort
  else if rest.head?.any (· ≠ '\\') then .error .invalidPort
  else .ok (if digits = [] ∨ defaultPort? scheme = some n then none else some n, rest)

/-- the host of an address that is no file -/
def hostOf (k : SchemeKind) (cs : List Char) : Except UrlError (Option Host) :=
  match k, cs with
  | .other, [] => .ok none
  | .other, cs => (Host.ofOpaque cs).map some
  | _, [] => .error .emptyHost
  | _, cs => (Host.ofDomain cs).map some

/-- An authority, and what is left of it for the path; `more` says that something follows. -/
def authorityOf (k : SchemeKind) (scheme cs : List Char) (more : Bool) :
    Except UrlError (Authority × List Char) := do
  let (userinfo, rest) := atLast cs
  if userinfo = some [] ∧ rest = [] ∧ more then throw .emptyHost
  let userinfo := userinfo.getD []
  let encode := Percent.encode Percent.inUserinfo
  let user := encode (userinfo.takeWhile (· ≠ ':'))
  let password := encode ((userinfo.dropWhile (· ≠ ':')).drop 1)
  let (host, rest) := splitHost false rest
  let host ← hostOf k host
  if host = none ∧ rest ≠ [] then throw .emptyHost
  let (port, rest) ← portOf scheme (rest.drop 1)
  if host = none ∧ (user ≠ [] ∨ password ≠ []) then throw .emptyHost
  return (⟨user, password, host, port⟩, rest)

/-- the host of a file, if it is not this one -/
def fileHostOf (cs : List Char) : Except UrlError (Option Host) :=
  if cs = [] then .ok none
  else
    (Host.ofDomain cs).map fun host =>
      if host = .name "localhost".toList then none else some host

/-! ## paths -/

/-- how many dots a step of a path consists of, if there is nothing else; they may be encoded -/
def dots? : List Char → Option Nat
  | [] => some 0
  | '.' :: cs => (dots? cs).map (· + 1)
  | '%' :: '2' :: 'e' :: cs => (dots? cs).map (· + 1)
  | '%' :: '2' :: 'E' :: cs => (dots? cs).map (· + 1)
  | _ => none

/-- A letter with a colon or a bar is a drive, before a backslash too. -/
def isDrive : List Char → Bool
  | c :: d :: cs => c.isAlpha && (d = ':' || d = '|') && (cs = [] || cs.head? = some '\\')
  | _ => false

/-- one step back, which never leaves a drive -/
def back (taken : List (List Char)) : List (List Char) :=
  if taken.getLast?.any isDrive then taken else taken.dropLast

/-- The steps of a path, after those already taken: `.` leads nowhere and `..` back. -/
def follow (taken : List (List Char)) : List (List Char) → List (List Char)
  | [] => taken
  | step :: steps =>
    let stay := if steps = [] then [[]] else []
    match dots? step with
    | some 1 => follow (taken ++ stay) steps
    | some 2 => follow (back taken ++ stay) steps
    | _ => follow (taken ++ [Percent.encode Percent.inPath step]) steps

/-- where a text leads that slashes divide -/
def steps (cs : List Char) : List (List Char) := follow [] (Text.splitOn '/' cs)

def withSlashes (k : SchemeKind) (cs : List Char) : List Char :=
  if k = .other then cs else cs.map fun c => if c = '\\' then '/' else c

/-- the path that starts with a slash, whether it is written or not -/
def rootedPath (k : SchemeKind) (cs : List Char) : List Char :=
  '/' :: ['/'].intercalate (steps (Text.dropOne '/' (withSlashes k cs)))

/-- The authority and the path of a file, which has one slash at its start. If a drive comes first,
it is written with a colon, and it is a drive of this host. -/
def fileAt (host : Option Host) (cs : List Char) : Option Authority × List Char :=
  let path (steps : List (List Char)) : List Char :=
    '/' :: (['/'].intercalate steps).dropWhile (· = '/')
  match steps cs with
  | [c, d] :: rest =>
    if isDrive [c, d] then (some {}, path ([c, ':'] :: rest))
    else (some { host }, path ([c, d] :: rest))
  | steps => (some { host }, path steps)

/-! ## addresses -/

/-- the scheme of a text, and what follows its colon -/
def scheme? (cs : List Char) : Option (List Char × List Char) :=
  let isSchemeChar (c : Char) : Bool := c.isAlphanum || c = '+' || c = '-' || c = '.'
  match cs.head?, cs.dropWhile isSchemeChar with
  | some c, ':' :: rest =>
    if c.isAlpha then some (Text.lower (cs.takeWhile isSchemeChar), rest) else none
  | _, _ => none

/-- what is before the query and the fragment -/
def beforeQuery (cs : List Char) : List Char := cs.takeWhile fun c => c ≠ '?' ∧ c ≠ '#'

/-- The authority and the path of what follows a scheme. A path that would be taken for an authority
has a step `.` in front. -/
def hierarchy (scheme cs : List Char) : Except UrlError (Option Authority × List Char) := do
  let k := SchemeKind.ofScheme scheme
  let slashes := (cs.takeWhile k.isSlash).length
  let start := if k = .special then cs.drop slashes else cs.drop 2
  let inAuthority := start.takeWhile (! k.isEnd ·)
  let rest := start.dropWhile (! k.isEnd ·)
  match k with
  | .file =>
    let path (cs : List Char) : List Char := withSlashes k (beforeQuery cs)
    if slashes < 2 then return fileAt none (Text.dropOne '/' (path cs))
    if isDrive inAuthority then return fileAt none (path start)
    match ← fileHostOf inAuthority with
    | some host => return fileAt host (Text.dropOne '/' (path rest))
    -- a drive comes second here: an empty step is before the slash
    | none => return fileAt none (path rest)
  | .special =>
    let (authority, _) ← authorityOf k scheme inAuthority (rest ≠ [])
    return (some authority, rootedPath k (beforeQuery rest))
  | .other =>
    if slashes = 0 then return (none, Percent.encode (fun _ => false) (beforeQuery cs))
    if slashes = 1 then
      let path := rootedPath k (beforeQuery cs)
      return (none, if ['/', '/'].isPrefixOf path then '/' :: '.' :: path else path)
    let (authority, left) ← authorityOf k scheme inAuthority (rest ≠ [])
    let path := left ++ beforeQuery rest
    return (some authority, if path = [] then [] else rootedPath k path)

def parse (s : String) : Except UrlError Url := do
  let cs := Text.trimWhile (fun c => c.toNat ≤ 0x20) s.toList
  let cs := cs.filter fun c => c ≠ '\t' ∧ c ≠ '\n' ∧ c ≠ '\r'
  match scheme? cs with
  | none => throw .noScheme
  | some (scheme, rest) =>
    let inQuery := Percent.inQuery (SchemeKind.ofScheme scheme ≠ .other)
    let (authority, path) ← hierarchy scheme rest
    let query := (rest.takeWhile (· ≠ '#')).dropWhile (· ≠ '?')
    let fragment := rest.dropWhile (· ≠ '#')
    return {
      scheme, authority, path
      query := query.tail?.map (Percent.encode inQuery)
      fragment := fragment.tail?.map (Percent.encode Percent.inFragment) }

def authorityText (a : Authority) : List Char :=
  let password := if a.password = [] then [] else ':' :: a.password
  let userinfo := if a.user = [] ∧ a.password = [] then [] else a.user ++ password ++ ['@']
  let host := (a.host.map Host.text).getD []
  let port := (a.port.map fun n => ':' :: Digits.ofNat n).getD []
  "//".toList ++ userinfo ++ host ++ port

def text (u : Url) : String :=
  let authority := (u.authority.map authorityText).getD []
  let query := (u.query.map fun q => '?' :: q).getD []
  let fragment := (u.fragment.map fun f => '#' :: f).getD []
  String.ofList (u.scheme ++ ':' :: authority ++ u.path ++ query ++ fragment)

/-! ## requests -/

/-- The name and the password of a user are not shown, unless they cannot be read. -/
def withoutCredentials (u : Url) : Url :=
  let isText (cs : List Char) : Bool := (Percent.decoded? cs).isSome
  let shown (a : Authority) : Authority :=
    let hasPassword := a.password ≠ [] ∧ isText a.password
    if isText a.user ∧ (a.user ≠ [] ∨ hasPassword) then { a with user := [], password := [] } else a
  { u with authority := u.authority.map shown }

/-- a scheme that requests are made for -/
def isWeb (u : Url) : Bool := u.scheme ∈ ["http", "https"].map String.toList

/-- the address that a request for a text goes to, or why none can be made -/
def requestFor (s : String) : Except String Url :=
  match parse s with
  | .error e => .error ("builder error: " ++ e.message)
  | .ok u =>
    let u := u.withoutCredentials
    if u.isWeb then .ok u
    else .error s!"builder error for url ({u.text}): URL scheme is not allowed"

/-- why a request for a text fails that reaches nobody -/
def unanswered (s : String) : String :=
  match requestFor s with
  | .error reason => reason
  | .ok u => s!"error sending request for url ({u.text})"

end Url

end Blocklist
