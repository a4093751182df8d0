import Blocklist.Proofs.RuleText

/-!
# Rules survive being written

A list of rules is read from its text as it was, but for the filter lines of its rules. A rule that
was read from any text has none, so that it is read from its own texts without a change, however
differently the first one was laid out.

* `Rule.ofText?`            the rule in a text;
* `Rule.wire_of_ofText?`    it has no filter line;
* `Rule.ofText?_of_reads`   a text of a rule is read as the rule;
* `Rule.wire_round_trip`    both directions.
-/

namespace Blocklist.Rule

/-- the rule in a text -/
def ofText? (s : String) : Option Rule := (Json.ofString? s).bind ofJson?

variable {r : Rule} {s : String}

theorem wire_of_ofJsonWithin? {depth : Nat} {j : Json} (h : ofJsonWithin? depth j = some r) :
    r.wire = r := by
  rw [ofJsonWithin?] at h
  split at h
  · simp only [Option.bind_eq_bind, Option.bind_eq_some_iff] at h
    obtain ⟨id, -, priority, -, action, -, condition, -, h⟩ := h
    cases h
    rfl
  · cases h

theorem wire_of_ofText? (h : ofText? s = some r) : r.wire = r := by
  obtain ⟨j, -, hj⟩ := Option.bind_eq_some_iff.mp h
  exact wire_of_ofJsonWithin? hj

theorem ofText?_of_reads (h : Json.ofString? s = some r.toJson) : ofText? s = some r.wire := by
  rw [ofText?, h]
  exact ofJsonWithin?_toJson Json.maxDepth r

/-- Rules are read from their text in their order, without their filter lines, be it from a string
or from the bytes of a file. What was read as a rule is read as the same rule when it has been
written again, over several lines or on one. -/
theorem wire_round_trip :
    (∀ rules : List Rule,
      listOfText? (listText rules) = some (rules.map wire) ∧
      (Json.ofBytes? (listText rules).toUTF8).bind listOfJson? = some (rules.map wire)) ∧
    ∀ (s : String) (r : Rule), ofText? s = some r →
      ofText? r.toJson.pretty = some r ∧ ofText? r.toJson.compact = some r := by
  constructor
  · intro rules
    have hexact := exact_listToJson rules
    constructor
    · rw [listOfText?, listText, Json.ofString?_pretty hexact]
      exact listOfJson?_listToJson rules
    · rw [listText, Json.ofBytes?_pretty hexact]
      exact listOfJson?_listToJson rules
  · intro s r h
    have hexact := r.exact_toJson
    have hpretty := ofText?_of_reads (Json.ofString?_pretty hexact)
    have hcompact := ofText?_of_reads (Json.ofString?_compact hexact)
    rw [wire_of_ofText? h] at hpretty hcompact
    exact ⟨hpretty, hcompact⟩

/-- a rule with a field that is unknown, records as arrays, an empty list, and resource types in
another order -/
theorem wire_round_trip_array :
    let s := "\x7b\"note\": [1.5e3], \"condition\": [null, [], [\"other\", \"script\", \"other\"]],
      \"action\": [\"allow\"], \"priority\": 0, \"id\": 4294967295\x7d"
    let r : Rule := ⟨4294967295, 0, .allow,
      { requestDomains := some [], resourceTypes := .ofList [.script, .other] }, none⟩
    ofText? s = some r ∧ ofText? r.toJson.pretty = some r ∧ ofText? r.toJson.compact = some r := by
  intro s r
  have h : ofText? s = some r := by decide +kernel
  exact ⟨h, wire_round_trip.2 s r h⟩

end Blocklist.Rule
