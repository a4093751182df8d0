import Blocklist.Proofs.FirstOccurrences
import Blocklist.Proofs.IdRanges

/-!
# Texts that share the static ids

Texts that are compiled side by side share the static ids among them. Each gets a window for its
rules, however many texts there are, so that no two rules of all of them have the same id.

* `FilterList.compileShared`        texts compiled side by side;
* `FilterList.exists_compileFrom`   each text gets its window;
* `FilterList.Compiles.nodup_ids`    ids of rules in different windows differ;
* `FilterList.shared_ids_apart`     what the windows are, and what follows for the rules.
-/

namespace Blocklist.FilterList

open IdRange

/-! ## compiling side by side -/

/-- the texts from number `index` on, of `count` texts that share the static ids -/
def compileFrom (count : Nat) : Nat → List String → Except Fault (List Compiled)
  | _, [] => return []
  | index, text :: texts => do
    let window ← staticWindow? index count
    return compile text.toList window :: (← compileFrom count (index + 1) texts)

/-- texts compiled side by side -/
def compileShared (texts : List String) : Except Fault (List Compiled) :=
  compileFrom texts.length 0 texts

/-- the first of several texts that are compiled side by side -/
theorem compileFrom_cons_eq_ok_iff {count index : Nat} {text : String} {texts : List String}
    {lists : List Compiled} :
    compileFrom count index (text :: texts) = .ok lists ↔
      ∃ window rest, staticWindow? index count = .ok window ∧
        compileFrom count (index + 1) texts = .ok rest ∧
        lists = compile text.toList window :: rest := by
  rw [compileFrom]
  cases staticWindow? index count with
  | error e => exact ⟨nofun, fun ⟨_, _, h, _⟩ => nomatch h⟩
  | ok window =>
    cases compileFrom count (index + 1) texts with
    | error e => exact ⟨nofun, fun ⟨_, _, _, h, _⟩ => nomatch h⟩
    | ok rest =>
      constructor
      · intro h
        exact ⟨window, rest, rfl, rfl, (Except.ok.inj h).symm⟩
      · rintro ⟨window', rest', hwindow, hrest, rfl⟩
        cases hwindow
        cases hrest
        rfl

theorem length_compileFrom {count index : Nat} {texts : List String} {lists : List Compiled}
    (h : compileFrom count index texts = .ok lists) : lists.length = texts.length := by
  induction texts generalizing index lists with
  | nil =>
    cases h
    rfl
  | cons text texts ih =>
    obtain ⟨window, rest, -, hrest, rfl⟩ := compileFrom_cons_eq_ok_iff.mp h
    rw [List.length_cons, List.length_cons, ih hrest]

/-- the rules of compiled texts -/
def allRules (lists : List Compiled) : List Rule := lists.flatMap Compiled.rules

/-- Each list is compiled into its window, from number `index` of `count` on. -/
inductive Compiles (count : Nat) : Nat → List String → List Compiled → Prop
  | nil (index : Nat) : Compiles count index [] []
  | cons {index : Nat} {window : IdRange} {text : String} {texts : List String}
      {lists : List Compiled} (hindex : index < count) (hwindow : Shares index count window)
      (h : Compiles count (index + 1) texts lists) :
      Compiles count index (text :: texts) (compile text.toList window :: lists)

theorem exists_compileFrom {count index : Nat} {texts : List String} (hcount : count < 2 ^ 32)
    (h : index + texts.length ≤ count) :
    ∃ lists, compileFrom count index texts = .ok lists ∧ Compiles count index texts lists := by
  induction texts generalizing index with
  | nil => exact ⟨[], rfl, .nil index⟩
  | cons text texts ih =>
    rw [List.length_cons] at h
    have hindex : index < count := by omega
    have hrest : index + 1 + texts.length ≤ count := by omega
    obtain ⟨window, hwindow, hshares⟩ := exists_staticWindow? hindex hcount
    obtain ⟨lists, hlists, hcompiles⟩ := ih hrest
    exact ⟨compile text.toList window :: lists,
      compileFrom_cons_eq_ok_iff.mpr ⟨window, lists, hwindow, hlists, rfl⟩,
      .cons hindex hshares hcompiles⟩

namespace Compiles

variable {count index : Nat} {texts : List String} {lists : List Compiled}
  (h : Compiles count index texts lists)
include h

theorem length_eq : lists.length = texts.length := by
  induction h with
  | nil => rfl
  | cons hindex hwindow h ih => rw [List.length_cons, List.length_cons, ih]

/-- the rules of later texts have ids of later windows -/
theorem le_div {r : Rule} (hr : r ∈ allRules lists) : index ≤ r.id.toNat / stride count := by
  induction h with
  | nil => cases hr
  | cons hindex hwindow h ih =>
    rw [allRules, List.flatMap_cons] at hr
    rcases List.mem_append.mp hr with hr | hr
    · rw [hwindow.div_eq (mem_ids.mpr (contains_of_mem_compile hr))]
    · exact Nat.le_of_succ_le (ih hr)

theorem static {r : Rule} (hr : r ∈ allRules lists) : staticIds.contains r.id = true := by
  induction h with
  | nil => cases hr
  | cons hindex hwindow h ih =>
    rw [allRules, List.flatMap_cons] at hr
    rcases List.mem_append.mp hr with hr | hr
    · exact hwindow.static hindex (mem_ids.mpr (contains_of_mem_compile hr))
    · exact ih hr

theorem nodup_ids : ((allRules lists).map Rule.id).Nodup := by
  induction h with
  | nil => exact List.nodup_nil
  | @cons index window text texts lists hindex hwindow h ih =>
    rw [allRules, List.flatMap_cons, List.map_append, List.nodup_append]
    refine ⟨?_, ih, ?_⟩
    · rw [List.Nodup, List.pairwise_map]
      exact (sorted_compile text.toList window).imp UInt32.ne_of_lt
    · intro id hid id' hid' heq
      obtain ⟨r, hr, rfl⟩ := List.mem_map.mp hid
      obtain ⟨r', hr', rfl⟩ := List.mem_map.mp hid'
      have hle := h.le_div hr'
      rw [← heq, hwindow.div_eq (mem_ids.mpr (contains_of_mem_compile hr))] at hle
      exact Nat.not_succ_le_self index hle

end Compiles

/-! ## windows and rules apart -/

/-- Of any number of lists below `2 ^ 32`, each has a window of static ids for itself, of the same
size but for the id 0. So the rules of texts that share the static ids differ in their ids. -/
theorem shared_ids_apart :
    (∀ count, 1 ≤ count → count < 2 ^ 32 → ∀ index < count, ∃ window,
      staticWindow? index count = .ok window ∧
        (∀ id ∈ window.ids, staticIds.contains id = true) ∧
        window.ids.length = (if index = 0 then 100000 / count - 1 else 100000 / count) ∧
        ∀ index' < count, index ≠ index' → ∀ window', staticWindow? index' count = .ok window' →
          window.ids.Disjoint window'.ids) ∧
    ∀ texts : List String, texts.length < 2 ^ 32 → ∃ lists, compileShared texts = .ok lists ∧
      lists.length = texts.length ∧ ((allRules lists).map Rule.id).Nodup ∧
        ∀ r ∈ allRules lists, staticIds.contains r.id = true := by
  constructor
  · intro count _ hcount index hindex
    obtain ⟨window, hwindow, hshares⟩ := exists_staticWindow? hindex hcount
    refine ⟨window, hwindow, fun id => hshares.static hindex, ?_, ?_⟩
    · rw [length_ids, hshares.size_eq]
      rfl
    · intro index' hindex' hne window' hwindow'
      obtain ⟨window'', hsame, hshares'⟩ := exists_staticWindow? hindex' hcount
      obtain rfl := Except.ok.inj (hsame.symm.trans hwindow')
      exact hshares.disjoint hshares' hne
  · intro texts hcount
    obtain ⟨lists, hlists, h⟩ := exists_compileFrom hcount (Nat.le_of_eq (Nat.zero_add _))
    exact ⟨lists, hlists, h.length_eq, h.nodup_ids, fun r => h.static⟩

/-- the last of so many lists that each gets one id, and two texts that begin with the same line -/
theorem shared_ids_apart_crowded :
    (∃ window, staticWindow? 59999 60000 = .ok window ∧ window.ids.length = 1) ∧
    ∃ lists, compileShared ["||ads.example^", "||ads.example^\n/banner/"] = .ok lists ∧
      (allRules lists).map Rule.id = [1, 50000, 50001] ∧
      ((allRules lists).map Rule.id).Nodup := by
  constructor
  · obtain ⟨window, hwindow, -, hlength, -⟩ :=
      shared_ids_apart.1 60000 (by decide) (by decide) 59999 (by decide)
    exact ⟨window, hwindow, hlength⟩
  · obtain ⟨lists, hlists, -, hnodup, -⟩ :=
      shared_ids_apart.2 ["||ads.example^", "||ads.example^\n/banner/"] (by decide)
    have hids : (compileShared ["||ads.example^", "||ads.example^\n/banner/"]).map
        (fun lists => (allRules lists).map Rule.id) = .ok [1, 50000, 50001] := by decide +kernel
    rw [hlists] at hids
    exact ⟨lists, hlists, Except.ok.inj hids, hnodup⟩

end Blocklist.FilterList
