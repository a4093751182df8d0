import Blocklist.Memory
import Blocklist.Proofs.Consistency

/-!
# Looking up a host

A host is looked up on the whitelist label by label: first its whole name, then what follows the
first dot, and so on. So a domain is found under every host that ends with a dot and the domain, and
under no other that merely ends with the same letters.

* `Whitelist.IsPartOf`           a name is a domain or ends with a dot and the domain;
* `Whitelist.Lookup`             the way from a name up to the listed domain, or to the last label;
* `Whitelist.lookup_iff`, `Whitelist.covers_iff`   where this way ends, and which hosts are found;
* `Whitelist.Toggled`            a domain is listed that was not, or the other way round;
* `Blocker.InUse`                what can have happened to a blocker, with services of any kind;
* `Blocker.InUse.whitelist_lookup`   its whitelist finds the listed domains and what is below them,
                                 also after a domain was toggled.
-/

namespace Blocklist

namespace Whitelist

variable {domains : List String} {name parent : List Char} {answer : Bool} {d : String}

/-! ## the way up -/

/-- what follows the first dot of a name, unless nothing does -/
def parent? (name : List Char) : Option (List Char) :=
  match name.dropWhile (· ≠ '.') with
  | [] => none
  | _ :: parent => if parent = [] then none else some parent

/-- The way up from a name. It ends with the first name that is listed, or at one without parent. -/
inductive Lookup (domains : List String) : List Char → Bool → Prop where
  | listed {name : List Char} (h : String.ofList name ∈ domains) : Lookup domains name true
  | above {name parent : List Char} {answer : Bool} (h : String.ofList name ∉ domains)
      (up : parent? name = some parent) (rest : Lookup domains parent answer) :
      Lookup domains name answer
  | missed {name : List Char} (h : String.ofList name ∉ domains) (top : parent? name = none) :
      Lookup domains name false

theorem parent?_dot (cs : List Char) : parent? ('.' :: cs) = if cs = [] then none else some cs := rfl

theorem parent?_cons_of_ne {c : Char} (h : c ≠ '.') (cs : List Char) :
    parent? (c :: cs) = parent? cs := by
  have hdrop : (c :: cs).dropWhile (· ≠ '.') = cs.dropWhile (· ≠ '.') :=
    List.dropWhile_cons_of_pos (decide_eq_true h)
  rw [parent?, hdrop, parent?]

theorem parent?_eq_some (h : parent? name = some parent) :
    parent ≠ [] ∧ ∃ label, name = label ++ '.' :: parent := by
  induction name with
  | nil => cases h
  | cons c cs ih =>
    by_cases hc : c = '.'
    · subst hc
      rw [parent?_dot] at h
      split at h
      · cases h
      · next hne =>
        cases h
        exact ⟨hne, [], rfl⟩
    · rw [parent?_cons_of_ne hc] at h
      obtain ⟨hne, label, hcs⟩ := ih h
      exact ⟨hne, c :: label, by rw [hcs, List.cons_append]⟩

theorem length_parent?_lt (h : parent? name = some parent) : parent.length < name.length := by
  obtain ⟨-, label, rfl⟩ := parent?_eq_some h
  rw [List.length_append, List.length_cons]
  omega

theorem getLast?_parent? (h : parent? name = some parent) : parent.getLast? = name.getLast? := by
  obtain ⟨hne, label, rfl⟩ := parent?_eq_some h
  rw [← List.singleton_append, ← List.append_assoc, List.getLast?_append_of_ne_nil _ hne]

/-- what follows the dots of a name are its parent and what follows the dots of that -/
theorem parents_eq (h : name.getLast? ≠ some '.') :
    parents name = (parent? name).elim [] fun parent => parent :: parents parent := by
  induction name with
  | nil => rfl
  | cons c cs ih =>
    by_cases hc : c = '.'
    · subst hc
      have hne : cs ≠ [] := by
        rintro rfl
        exact h rfl
      rw [parent?_dot, if_neg hne]
      rfl
    · rw [parent?_cons_of_ne hc, parents, if_neg hc]
      refine ih fun hlast => h ?_
      rw [List.getLast?_cons, hlast]
      rfl

theorem Lookup.unique {answer' : Bool} (h : Lookup domains name answer)
    (h' : Lookup domains name answer') : answer = answer' := by
  induction h with
  | listed h =>
    cases h' with
    | listed _ => rfl
    | above hnot _ _ => exact absurd h hnot
    | missed hnot _ => exact absurd h hnot
  | above hnot up _ ih =>
    cases h' with
    | listed h => exact absurd h hnot
    | above _ up' rest =>
      cases up.symm.trans up'
      exact ih rest
    | missed _ top => cases up.symm.trans top
  | missed hnot top =>
    cases h' with
    | listed h => exact absurd h hnot
    | above _ up _ => cases top.symm.trans up
    | missed _ _ => rfl

/-- The way up comes to an end, since each name on it is shorter than the one before. -/
theorem lookup_any (h : name.getLast? ≠ some '.') :
    Lookup domains name
      ((name :: parents name).any fun candidate => String.ofList candidate ∈ domains) := by
  induction hn : name.length using Nat.strongRecOn generalizing name with
  | ind n ih =>
    by_cases hlisted : String.ofList name ∈ domains
    · rw [List.any_cons, decide_eq_true hlisted]
      exact .listed hlisted
    · rw [List.any_cons, decide_eq_false hlisted, Bool.false_or, parents_eq h]
      cases hup : parent? name with
      | none => exact .missed hlisted hup
      | some parent =>
        refine .above hlisted hup (ih parent.length ?_ ?_ rfl)
        · rw [← hn]
          exact length_parent?_lt hup
        · rw [getLast?_parent? hup]
          exact h

theorem getLast?_bare (host : List Char) : (bare host).getLast? ≠ some '.' := by
  intro h
  rw [bare, Text.lower, List.getLast?_map, Option.map_eq_some_iff] at h
  obtain ⟨c, hc, hdot⟩ := h
  have hkept := Text.getLast?_trimWhile hc
  rw [Text.eq_of_toLower_eq (by decide) hdot] at hkept
  exact absurd hkept (by decide)

/-- a host is looked up in finitely many steps, with one answer -/
theorem lookup_iff {host : String} :
    Lookup domains (bare host.toList) answer ↔ answer = covers domains host := by
  have hends : Lookup domains (bare host.toList) (covers domains host) :=
    lookup_any (getLast?_bare host.toList)
  constructor
  · exact fun h => h.unique hends
  · rintro rfl
    exact hends

/-! ## which hosts are found -/

/-- the name is the domain, or a dot and the domain are its end -/
def IsPartOf (name : List Char) (d : String) : Prop := name = d.toList ∨ '.' :: d.toList <:+ name

theorem covers_iff {host : String} :
    covers domains host = true ↔ ∃ d ∈ domains, IsPartOf (bare host.toList) d := by
  have hcandidates (candidate : List Char) :
      candidate ∈ bare host.toList :: parents (bare host.toList) ↔
        IsPartOf (bare host.toList) (String.ofList candidate) := by
    rw [List.mem_cons, mem_parents_iff, IsPartOf, String.toList_ofList, eq_comm]
    exact or_congr_right (exists_congr fun _ => eq_comm)
  rw [covers, List.any_eq_true]
  constructor
  · rintro ⟨candidate, hmem, hlisted⟩
    exact ⟨_, of_decide_eq_true hlisted, (hcandidates candidate).mp hmem⟩
  · rintro ⟨d, hd, hpart⟩
    rw [← String.ofList_toList (s := d)] at hd hpart
    exact ⟨d.toList, (hcandidates d.toList).mpr hpart, decide_eq_true hd⟩

/-! ## one domain is toggled -/

/-- `d` is on one of two whitelists and not on the other, which otherwise are the same; `listed`
says that it is on the second one. -/
structure Toggled (d : String) (before after : List String) (listed : Bool) : Prop where
  listed_iff : listed = true ↔ d ∈ after
  changed : listed = true ↔ d ∉ before
  others : after.filter (· ≠ d) = before.filter (· ≠ d)
  /-- the answers are those of before, but for hosts that are part of the domain -/
  lookup : ∀ host, ¬ IsPartOf (bare host.toList) d → covers after host = covers before host

variable {before : List String}

theorem covers_eq_of_filter_eq {after : List String} {host : String}
    (others : after.filter (· ≠ d) = before.filter (· ≠ d))
    (h : ¬ IsPartOf (bare host.toList) d) : covers after host = covers before host := by
  have hother {e : String} (he : IsPartOf (bare host.toList) e) : e ∈ after ↔ e ∈ before := by
    have hne : e ≠ d := by
      rintro rfl
      exact h he
    have hmem : e ∈ after.filter (· ≠ d) ↔ e ∈ before.filter (· ≠ d) := by rw [others]
    simpa [List.mem_filter, hne] using hmem
  rw [Bool.eq_iff_iff, covers_iff, covers_iff]
  exact exists_congr fun e => and_congr_left fun he => hother he

theorem toggled_append (h : d ∉ before) : Toggled d before (before ++ [d]) true := by
  have others : (before ++ [d]).filter (· ≠ d) = before.filter (· ≠ d) := by simp
  exact ⟨by simp, by simp [h], others, fun _ => covers_eq_of_filter_eq others⟩

theorem toggled_erase (hnodup : before.Nodup) (h : d ∈ before) :
    Toggled d before (before.erase d) false := by
  have others : (before.erase d).filter (· ≠ d) = before.filter (· ≠ d) := by
    rw [hnodup.erase_eq_filter, List.filter_filter]
    exact List.filter_congr fun e _ => by simp
  exact ⟨by simp [hnodup.not_mem_erase], by simp [h], others,
    fun _ => covers_eq_of_filter_eq others⟩

end Whitelist

namespace Blocker

/-! ## whitelists of blockers -/

/-- A blocker after any operations and any number of starts. Its services may be of any kind, and in
another state each time. -/
inductive InUse (σ : Type) [Services (StateM σ)] (config : SyncConfig) : Blocker → Prop where
  | new {b : Blocker} (h : Blocker.new config = .ok b) : InUse σ config b
  | start {b : Blocker} (h : InUse σ config b) (start : Start) (w : σ) :
      InUse σ config (start.run b w).1
  | step {b : Blocker} (h : InUse σ config b) (op : Operation) (w : σ) :
      InUse σ config (op.run b w).1

theorem on_bind_pure_eq_ok {σ α : Type} {x : Action (StateM σ) Unit} {a a' : α} {b b' : Blocker}
    {w w' : σ}
    (h : (x >>= fun _ => pure a).on b w = ((.ok a', b'), w')) :
    a' = a ∧ x.on b w = ((.ok (), b'), w') := by
  rcases on_bind_cases x (fun _ => pure a) b w with
    ⟨e, b₁, w₁, -, hbind⟩ | ⟨u, b₁, w₁, hx, hbind⟩
  · cases hbind.symm.trans h
  · cases hbind.symm.trans h
    exact ⟨rfl, hx⟩

variable {σ α : Type} [Services (StateM σ)] {config : SyncConfig} {b b' : Blocker} {w w' : σ}

/-! ### they stay normal -/

theorem Whitelisting.normal {domains : List String} {answer : Except SyncError Unit}
    (change : Whitelisting domains b w answer b' w') (normal : Whitelist.Normal domains)
    (h : Whitelist.Normal b.whitelist) : Whitelist.Normal b'.whitelist := by
  cases change with
  | full hfull => exact h
  | unsaved failed => exact h
  | made fits saved store sound made =>
    rw [made]
    exact normal

theorem WhitelistChange.normal {answer : Except SyncError α}
    (change : WhitelistChange b w answer b' w') (h : Whitelist.Normal b.whitelist) :
    Whitelist.Normal b'.whitelist := by
  cases change with
  | invalid => exact h
  | applied normal change => exact change.normal (normal h) h

theorem Switching.whitelist_eq {enabled : Bool} {answer : Except SyncError Unit}
    (change : Switching enabled b w answer b' w') : b'.whitelist = b.whitelist := by
  cases change with
  | lists failed => rfl
  | filters lists failed => rfl
  | made lists filters => rfl

theorem Ending.normal {op : Operation} (ending : Ending b w op b' w')
    (h : Whitelist.Normal b.whitelist) : Whitelist.Normal b'.whitelist := by
  cases ending with
  | addition change =>
    cases change with
    | refused store => exact h
    | unsaved failed store => exact h
    | made accepted fresh admits store saved made =>
      rw [made]
      exact h
  | removal change =>
    cases change with
    | unknown => exact h
    | unsaved failed => exact h
    | made without saved made =>
      rw [made]
      exact h
  | recomputed change => exact change.normal h
  | toggled change => exact change.normal h
  | list hrun => exact h
  | unsaved failed hrun => exact h
  | switched saved hrun change =>
    rw [change.whitelist_eq]
    exact h
  | refreshed hrun => exact h

theorem Adoption.normal {items : Items} {answer : Except SyncError Unit}
    (change : Adoption items b w answer b' w') (h : Whitelist.Normal b.whitelist) :
    Whitelist.Normal b'.whitelist := by
  have taken := Whitelist.normal_normalizeAll (Saved.whitelist items)
  cases change with
  | filters filters failed =>
    rw [filters]
    exact h
  | whitelist filters synced failed =>
    rw [filters] at failed
    exact failed.normal taken h
  | switch filters synced whitelist switch =>
    rw [filters] at whitelist
    rw [switch.whitelist_eq]
    exact whitelist.normal taken h

theorem normal_restore (h : Whitelist.Normal b.whitelist) (w : σ) :
    Whitelist.Normal ((restore (m := StateM σ)).after b w).1.whitelist := by
  rcases restore_cases b w with ⟨e, c, w', hrun⟩ | ⟨c, items, w₁, hrun⟩
  · rw [Action.after_eq hrun]
    exact h
  · obtain ⟨answer, b', w', hadopt, change⟩ := adopt_cases items { b with coordinator := c } w₁
    rw [Action.after_eq (hrun.trans hadopt)]
    exact change.normal h

theorem InUse.normal (h : InUse σ config b) : Whitelist.Normal b.whitelist := by
  induction h with
  | new h =>
    obtain ⟨-, rfl⟩ := new_eq_ok_iff.mp h
    exact Whitelist.normal_nil
  | @start b _ start w ih =>
    have restored := normal_restore ih w
    rcases start.run_cases b w with hstart | ⟨b₁, w₁, r, c, s', w', hrestore, hrefresh, hstart⟩
    · rw [hstart]
      exact restored
    · rw [hrestore] at restored
      rw [hstart]
      exact restored
  | step _ op w ih => exact (op.ending _ w).normal ih

/-! ### a domain is toggled -/

theorem Whitelisting.whitelist_of_ok {domains : List String}
    (change : Whitelisting domains b w (.ok ()) b' w') : b'.whitelist = domains := by
  generalize hanswer : (.ok () : Except SyncError Unit) = answer at change
  cases change with
  | full hfull => cases hanswer
  | unsaved failed => cases hanswer
  | made fits saved store sound made => rw [made]

theorem applyWhitelist_eq_ok {domains : List String}
    (h : (applyWhitelist (m := StateM σ) domains).on b w = ((.ok (), b'), w')) :
    b'.whitelist = domains := by
  obtain ⟨answer, b₁, w₁, hrun, change⟩ := applyWhitelist_cases domains b w
  cases hrun.symm.trans h
  exact change.whitelist_of_ok

theorem toggleWhitelist_eq_ok {domain : String} {listed : Bool} (hnodup : b.whitelist.Nodup)
    (h : (toggleWhitelist (m := StateM σ) domain).on b w = ((.ok listed, b'), w')) :
    ∃ d, Whitelist.normalize? domain = some d ∧
      Whitelist.Toggled d b.whitelist b'.whitelist listed := by
  rw [toggleWhitelist] at h
  cases hd : Whitelist.normalize? domain with
  | none =>
    rw [hd, Action.on_throw] at h
    cases h
  | some d =>
    rw [hd] at h
    dsimp only at h
    rw [Action.on_bind_ok (Action.on_get b w)] at h
    refine ⟨d, rfl, ?_⟩
    split at h
    · next hmem =>
      obtain ⟨rfl, happly⟩ := on_bind_pure_eq_ok h
      rw [applyWhitelist_eq_ok happly]
      exact Whitelist.toggled_erase hnodup hmem
    · next hmem =>
      obtain ⟨rfl, happly⟩ := on_bind_pure_eq_ok h
      rw [applyWhitelist_eq_ok happly]
      exact Whitelist.toggled_append hmem

/-- A host is looked up in finitely many steps, and found exactly if it is part of a listed domain.
Toggling a domain changes whether it is listed, and no answer but those for its own hosts. -/
theorem InUse.whitelist_lookup (h : InUse σ config b) :
    (∀ host answer, Whitelist.Lookup b.whitelist (Whitelist.bare host.toList) answer ↔
      answer = b.isWhitelisted host) ∧
    (∀ host, b.isWhitelisted host = true ↔
      ∃ d ∈ b.whitelist, Whitelist.IsPartOf (Whitelist.bare host.toList) d) ∧
    ∀ domain w listed b' w',
      (toggleWhitelist (m := StateM σ) domain).on b w = ((.ok listed, b'), w') →
      ∃ d, Whitelist.normalize? domain = some d ∧
        Whitelist.Toggled d b.whitelist b'.whitelist listed :=
  ⟨fun _ _ => Whitelist.lookup_iff, fun _ => Whitelist.covers_iff,
    fun _ _ _ _ _ hrun => toggleWhitelist_eq_ok h.normal.nodup hrun⟩

/-- a domain is added to a whitelist that has another one -/
theorem whitelist_lookup_default :
    let first := (Operation.run (ofConfig .default) ({} : Memory) (.toggleWhitelist "a.b.org")).1
    InUse Memory .default first ∧ first.whitelist = ["a.b.org"] ∧
    Whitelist.Lookup first.whitelist "x..a.b.org".toList true ∧
    first.isWhitelisted " .X..A.b.org. " = true ∧ first.isWhitelisted "xa.b.org" = false ∧
    ∃ b' w', (toggleWhitelist (m := StateM Memory) " B.org.").on first {} =
        ((.ok true, b'), w') ∧
      ∃ d, Whitelist.normalize? " B.org." = some d ∧
        Whitelist.Toggled d first.whitelist b'.whitelist true := by
  intro first
  have hnew : Blocker.new .default = .ok (ofConfig .default) :=
    new_eq_ok_iff.mpr ⟨by decide, rfl⟩
  have inUse : InUse Memory .default first :=
    .step (.new hnew) (.toggleWhitelist "a.b.org") ({} : Memory)
  obtain ⟨lookup, finds, toggles⟩ := InUse.whitelist_lookup inUse
  have hwhitelist : first.whitelist = ["a.b.org"] := by decide +kernel
  have hanswer : ((toggleWhitelist (m := StateM Memory) " B.org.").on first {}).1.1 = .ok true := by
    decide +kernel
  rcases hrun : (toggleWhitelist (m := StateM Memory) " B.org.").on first {} with ⟨⟨answer, b'⟩, w'⟩
  rw [hrun] at hanswer
  cases hanswer
  have hfound : first.isWhitelisted " .X..A.b.org. " = true := by
    refine (finds " .X..A.b.org. ").mpr ⟨"a.b.org", ?_, .inr ⟨"x.".toList, by decide +kernel⟩⟩
    rw [hwhitelist]
    exact List.mem_singleton_self "a.b.org"
  have hmissed : first.isWhitelisted "xa.b.org" = false := by
    rw [isWhitelisted, hwhitelist]
    decide +kernel
  have hpath := (lookup " .X..A.b.org. " true).mpr hfound.symm
  exact ⟨inUse, hwhitelist, hpath, hfound, hmissed, b', w', rfl, toggles _ _ _ _ _ hrun⟩

end Blocker

end Blocklist
