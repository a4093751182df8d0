import Blocklist.Json.Token

/-!
# Writing JSON texts

* `Json.pretty`    a value over several lines, two blanks a level; empty arrays and objects stay on
                   one line;
* `Json.compact`   a value on one line without blanks.
-/

namespace Blocklist.Json

/-- the start of a line at depth `n` -/
def newline (n : Nat) : List Char := '\n' :: List.replicate (2 * n) ' '

mutual

def prettyAt (depth : Nat) : Json → List Char
  | null => Token.null.text
  | bool b => if b then Token.true.text else Token.false.text
  | int n => (Token.int n).text
  | decimal d => (Token.decimal d).text
  | str s => (Token.str s).text
  | unreadable => Token.null.text
  | arr [] => ['[', ']']
  | arr (v :: vs) =>
    '[' :: newline (depth + 1) ++ prettyAt (depth + 1) v ++ prettyItems (depth + 1) vs ++
      newline depth ++ [']']
  | obj [] => ['\x7b', '\x7d']
  | obj ((name, v) :: fs) =>
    '\x7b' :: newline (depth + 1) ++ Token.quoted name.toList ++ ':' :: ' ' ::
      prettyAt (depth + 1) v ++ prettyFields (depth + 1) fs ++ newline depth ++ ['\x7d']

def prettyItems (depth : Nat) : List Json → List Char
  | [] => []
  | v :: vs => ',' :: newline depth ++ prettyAt depth v ++ prettyItems depth vs

def prettyFields (depth : Nat) : List (String × Json) → List Char
  | [] => []
  | (name, v) :: fs =>
    ',' :: newline depth ++ Token.quoted name.toList ++ ':' :: ' ' :: prettyAt depth v ++
      prettyFields depth fs

end

def pretty (j : Json) : String := String.ofList (prettyAt 0 j)

mutual

def compactText : Json → List Char
  | null => Token.null.text
  | bool b => if b then Token.true.text else Token.false.text
  | int n => (Token.int n).text
  | decimal d => (Token.decimal d).text
  | str s => (Token.str s).text
  | unreadable => Token.null.text
  | arr [] => ['[', ']']
  | arr (v :: vs) => '[' :: compactText v ++ compactItems vs ++ [']']
  | obj [] => ['\x7b', '\x7d']
  | obj ((name, v) :: fs) =>
    '\x7b' :: Token.quoted name.toList ++ ':' :: compactText v ++ compactFields fs ++ ['\x7d']

def compactItems : List Json → List Char
  | [] => []
  | v :: vs => ',' :: compactText v ++ compactItems vs

def compactFields : List (String × Json) → List Char
  | [] => []
  | (name, v) :: fs =>
    ',' :: Token.quoted name.toList ++ ':' :: compactText v ++ compactFields fs

end

def compact (j : Json) : String := String.ofList (compactText j)

end Blocklist.Json
