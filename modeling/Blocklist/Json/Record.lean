import Blocklist.Json

/-!
# Records

A record is a JSON object whose field names are known. Other fields do not count, however often they
occur; a known field may occur once. A record may also be written as an array of its fields in
their order, where the last ones may be missing.

* `Json.record? names j`   the fields of `j`, in the order of `names`, `none` where one is missing;
* `Json.orElse`            how to read a field that need not be there.
-/

namespace Blocklist.Json

/-- the field `name` of an object: `none` if it repeats, `some none` if it is missing -/
def field? (fields : List (String × Json)) (name : String) : Option (Option Json) :=
  match fields.filter fun f => f.1 = name with
  | [] => some none
  | [f] => some (some f.2)
  | _ => none

def record? (names : List String) : Json → Option (List (Option Json))
  | obj fields => names.mapM (field? fields)
  | arr items =>
    if items.length ≤ names.length then
      some (items.map some ++ List.replicate (names.length - items.length) none)
    else none
  | _ => none

/-- a field that is `default` where it is missing -/
def orElse {α : Type} (default : α) (read : Json → Option α) : Option Json → Option α
  | none => some default
  | some j => read j

end Blocklist.Json
