import Blocklist.Json.Token

/-!
# Reading JSON texts

* `Json.ofTokens?`   the value that tokens make;
* `Json.parse?`      the value of a text: one value, and nothing but blanks around it;
* `Json.ofBytes?`    the value of bytes, whose strings need not be UTF-8.

Values are read to any depth. The bound on the recursion is the number of tokens: every call uses
one up or is followed by a call that does. A byte that belongs to no character may stand in a string
alone, and that string has no text.
-/

namespace Blocklist.Json

/-- an object with the given fields, unless the name of one of them has no text -/
def ofFields (fields : List (Option String × Json)) : Json :=
  match fields.mapM fun f => f.1.map fun name => (name, f.2) with
  | some fields => obj fields
  | none => unreadable

mutual

/-- the value at the start of `tokens`, and the tokens after it -/
def readValue? : Nat → List Token → Option (Json × List Token)
  | 0, _ => none
  | _ + 1, .null :: ts => some (null, ts)
  | _ + 1, .true :: ts => some (bool true, ts)
  | _ + 1, .false :: ts => some (bool false, ts)
  | _ + 1, .int n :: ts => some (int n, ts)
  | _ + 1, .decimal d :: ts => some (decimal d, ts)
  | _ + 1, .str (some s) :: ts => some (str s, ts)
  | _ + 1, .str none :: ts => some (unreadable, ts)
  | _ + 1, .openBracket :: .closeBracket :: ts => some (arr [], ts)
  | n + 1, .openBracket :: ts => readItems? n [] ts
  | _ + 1, .openBrace :: .closeBrace :: ts => some (obj [], ts)
  | n + 1, .openBrace :: ts => readFields? n [] ts
  | _ + 1, _ => none

/-- the rest of an array that has begun with `done`, the last item first -/
def readItems? : Nat → List Json → List Token → Option (Json × List Token)
  | 0, _, _ => none
  | n + 1, done, ts =>
    match readValue? n ts with
    | some (v, .comma :: ts) => readItems? n (v :: done) ts
    | some (v, .closeBracket :: ts) => some (arr (v :: done).reverse, ts)
    | _ => none

/-- the rest of an object that has begun with `done`, the last field first -/
def readFields? : Nat → List (Option String × Json) → List Token → Option (Json × List Token)
  | 0, _, _ => none
  | n + 1, done, .str name :: .colon :: ts =>
    match readValue? n ts with
    | some (v, .comma :: ts) => readFields? n ((name, v) :: done) ts
    | some (v, .closeBrace :: ts) => some (ofFields ((name, v) :: done).reverse, ts)
    | _ => none
  | _ + 1, _, _ => none

end

def ofTokens? (ts : List Token) : Option Json :=
  match readValue? (2 * ts.length) ts with
  | some (v, []) => some v
  | _ => none

def parse? (text : List Char) : Option Json := (Token.readAll? text).bind ofTokens?

def ofString? (s : String) : Option Json := parse? s.toList

/-! ## bytes -/

/-- The characters of bytes from position `i` on, with `none` for each byte that belongs to no
character. -/
def characters (bytes : ByteArray) (i : Nat) : List (Option Char) :=
  if i < bytes.size then
    match bytes.utf8DecodeChar? i with
    | some c => some c :: characters bytes (i + c.utf8Size)
    | none => none :: characters bytes (i + 1)
  else []
termination_by bytes.size - i
decreasing_by
  · have := c.utf8Size_pos
    omega
  · omega

/-- What stands for a byte without a character: a string that holds it has no text, whatever stands
before and after it, and outside of strings it belongs to no token. -/
def illegible : List Char := "x\\ud800\\ud800".toList

def ofBytes? (bytes : ByteArray) : Option Json :=
  match String.fromUTF8? bytes with
  | some s => ofString? s
  | none =>
    parse? <| (characters bytes 0).flatMap fun
      | some c => [c]
      | none => illegible

end Blocklist.Json
