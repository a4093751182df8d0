import Blocklist.Proofs.EngineCalls

/-!
# One pass over the filter lists

A refresh takes the lists one by one. What happens in the turn of one list concerns its own tier and
nothing else, and it is one of four things.

* `Coordinator.Turn`          the turn of one list: skipped, failed, unchanged or renewed;
* `Coordinator.Pass`          the turns of many lists, one after another;
* `Coordinator.refreshLists_pass`   a refresh is such a pass, and its report is the log of the pass;
* `Coordinator.Pass.turn_of_mem`    each list had its turn, and the other turns left its tier alone.
-/

namespace Blocklist

/-- the address was asked once; stored values and time are those of before -/
structure Memory.Fetched (url : String) (w w' : Memory) : Prop where
  sources : w'.sources = (w.sources.fetch url).2
  store : w'.store = w.store
  nowMs : w'.clock.nowMs = w.clock.nowMs

theorem MemorySources.source_of_fetch {s : MemorySources} {url text : String}
    (h : (s.fetch url).1 = .ok text) : s.sources[url]? = some (.text text) := by
  unfold fetch at h
  split at h
  · rename_i t ht
    cases h
    exact ht
  · cases h
  · cases h

namespace Coordinator

/-! ## outcomes -/

/-- what became of a list -/
inductive Outcome where
  | succeeded (hash : UInt64)
  | failed (cause : RefreshError)
  | skipped
  deriving DecidableEq, Repr

namespace Outcome

def ofAnswer : Except RefreshError UInt64 → Outcome
  | .ok hash => succeeded hash
  | .error e => failed e

/-- the list afterwards -/
def update (now : UInt64) (l : StaticList) : Outcome → StaticList
  | succeeded hash => { l with lastUpdate := some now, fingerprint := some hash }
  | _ => l

/-- the report with this outcome at its end -/
def note (id : String) (r : RefreshReport) : Outcome → RefreshReport
  | succeeded _ => { r with succeeded := r.succeeded ++ [id] }
  | failed e => { r with failed := r.failed ++ [(id, e)] }
  | skipped => { r with skipped := r.skipped ++ [id] }

theorem id_update (now : UInt64) (l : StaticList) (o : Outcome) : (o.update now l).id = l.id := by
  cases o <;> rfl

/-- a list that does not succeed stays as it is -/
theorem update_of_not_succeeded {o : Outcome} (h : ∀ hash, o ≠ succeeded hash) (now : UInt64)
    (l : StaticList) : o.update now l = l := by
  cases o with
  | succeeded hash => exact absurd rfl (h hash)
  | failed e => rfl
  | skipped => rfl

end Outcome

/-- the lists of a pass with what became of them -/
abbrev Log := List (StaticList × Outcome)

namespace Log

def succeeded (log : Log) : List String :=
  log.filterMap fun p => match p.2 with
    | .succeeded _ => some p.1.id
    | _ => none

def failed (log : Log) : List (String × RefreshError) :=
  log.filterMap fun p => match p.2 with
    | .failed e => some (p.1.id, e)
    | _ => none

def skipped (log : Log) : List String :=
  log.filterMap fun p => match p.2 with
    | .skipped => some p.1.id
    | _ => none

def ids (log : Log) : List String := log.map fun p => p.1.id

/-- the lists after the pass -/
def lists (log : Log) (now : UInt64) : List StaticList := log.map fun p => p.2.update now p.1

/-- a report continued by a log -/
def report (log : Log) (r : RefreshReport) : RefreshReport :=
  { r with
    succeeded := r.succeeded ++ log.succeeded
    failed := r.failed ++ log.failed
    skipped := r.skipped ++ log.skipped }

theorem report_nil (r : RefreshReport) : report [] r = r := by
  simp [report, succeeded, failed, skipped]

theorem report_cons (l : StaticList) (o : Outcome) (log : Log) (r : RefreshReport) :
    report ((l, o) :: log) r = log.report (o.note l.id r) := by
  cases o <;> simp [report, succeeded, failed, skipped, Outcome.note]

theorem ids_lists (log : Log) (now : UInt64) : (log.lists now).map StaticList.id = log.ids := by
  rw [lists, ids, List.map_map]
  exact List.map_congr_left fun p _ => p.2.id_update now p.1

theorem succeeded_sublist (log : Log) : log.succeeded.Sublist log.ids := by
  induction log with
  | nil => exact List.Sublist.slnil
  | cons p log ih =>
    obtain ⟨l, o⟩ := p
    cases o with
    | succeeded hash => exact ih.cons_cons l.id
    | failed e => exact ih.cons l.id
    | skipped => exact ih.cons l.id

theorem failed_sublist (log : Log) : (log.failed.map Prod.fst).Sublist log.ids := by
  induction log with
  | nil => exact List.Sublist.slnil
  | cons p log ih =>
    obtain ⟨l, o⟩ := p
    cases o with
    | succeeded hash => exact ih.cons l.id
    | failed e => exact ih.cons_cons l.id
    | skipped => exact ih.cons l.id

theorem skipped_sublist (log : Log) : log.skipped.Sublist log.ids := by
  induction log with
  | nil => exact List.Sublist.slnil
  | cons p log ih =>
    obtain ⟨l, o⟩ := p
    cases o with
    | succeeded hash => exact ih.cons l.id
    | failed e => exact ih.cons l.id
    | skipped => exact ih.cons_cons l.id

/-- every list is in exactly one part of the report -/
theorem perm_ids (log : Log) :
    (log.succeeded ++ log.failed.map Prod.fst ++ log.skipped).Perm log.ids := by
  induction log with
  | nil => exact List.Perm.nil
  | cons p log ih =>
    obtain ⟨l, o⟩ := p
    cases o with
    | succeeded hash => exact ih.cons l.id
    | failed e =>
      show (succeeded log ++ (l.id :: (failed log).map Prod.fst) ++ skipped log).Perm
        (l.id :: ids log)
      rw [List.append_assoc, List.cons_append]
      refine List.perm_middle.trans (List.Perm.cons l.id ?_)
      rw [← List.append_assoc]
      exact ih
    | skipped =>
      show (succeeded log ++ (failed log).map Prod.fst ++ (l.id :: skipped log)).Perm
        (l.id :: ids log)
      exact List.perm_middle.trans (ih.cons l.id)

end Log

/-! ## turns -/

/-- The list is left alone: it has no address, or its rules are loaded and not due. -/
def Skips (c : Coordinator) (force : Bool) (now : UInt64) (l : StaticList) (s : RuleStore) : Prop :=
  l.url = none ∨ force = false ∧ c.needsRefresh l s now = false

/-- the turn of one list -/
inductive Turn (c : Coordinator) (force : Bool) (now : UInt64) (l : StaticList) (s : RuleStore)
    (w : Memory) : Outcome → RuleStore → Memory → Prop where
  | skipped (h : c.Skips force now l s) : Turn c force now l s w .skipped s w
  /-- the text, the store or the engine was in the way; nothing is left of the attempt -/
  | failed {url : String} {e : RefreshError} {w' : Memory} (h : ¬ c.Skips force now l s)
      (hurl : l.url = some url) (fetched : w.Fetched url w') (kept : w.engine.Kept w'.engine) :
      Turn c force now l s w (.failed e) s w'
  /-- the loaded rules come from this text -/
  | unchanged {url text : String} {w' : Memory} (h : ¬ c.Skips force now l s)
      (hurl : l.url = some url) (fetched : w.Fetched url w')
      (source : w.sources.sources[url]? = some (.text text)) (kept : w.engine.Kept w'.engine)
      (same : l.fingerprint = some (Blocklist.fingerprint text)) (loaded : 0 < s.count l.tier) :
      Turn c force now l s w (.succeeded (Blocklist.fingerprint text)) s w'
  /-- the text was compiled, and the engine has its rules -/
  | renewed {url text : String} {prev : List Rule} {s' : RuleStore} {w' : Memory}
      (h : ¬ c.Skips force now l s) (hurl : l.url = some url) (fetched : w.Fetched url w')
      (source : w.sources.sources[url]? = some (.text text))
      (replaced : s.replaceAll l.tier (FilterList.compile text.toList l.window).rules =
        .ok (prev, s'))
      (synced : w.engine.Synced l.tier (s'.rules l.tier) w'.engine) :
      Turn c force now l s w (.succeeded (Blocklist.fingerprint text)) s' w'

variable {c : Coordinator} {force : Bool} {now : UInt64} {l : StaticList} {s s' : RuleStore}
  {w w' : Memory}

theorem refreshList_turn (hs : s.Sound) {url : String} (hurl : l.url = some url)
    (h : ¬ c.Skips force now l s) (w : Memory) :
    ∃ answer s' w', c.refreshList (m := StateM Memory) s l url w = ((answer, s'), w') ∧
      c.Turn force now l s w (.ofAnswer answer) s' w' := by
  have fetched : w.Fetched url { w with sources := (w.sources.fetch url).2 } := ⟨rfl, rfl, rfl⟩
  have hfetch : (Fetcher.fetch url : StateM Memory (Except FetchError String)) w =
      ((w.sources.fetch url).1, { w with sources := (w.sources.fetch url).2 }) := rfl
  rw [refreshList, bind_apply, hfetch]
  cases htext : (w.sources.fetch url).1 with
  | error e => exact ⟨_, _, _, rfl, .failed h hurl fetched (.refl _)⟩
  | ok text =>
    have source := MemorySources.source_of_fetch htext
    by_cases hsame : l.fingerprint = some (Blocklist.fingerprint text) ∧ 0 < s.count l.tier
    · refine ⟨.ok (Blocklist.fingerprint text), s, _, ?_,
        .unchanged h hurl fetched source (.refl _) hsame.1 hsame.2⟩
      simp only [if_pos hsame]
      rfl
    · simp only [if_neg hsame]
      cases hreplace : s.replaceAll l.tier (FilterList.compile text.toList l.window).rules with
      | error e => exact ⟨_, _, _, rfl, .failed h hurl fetched (.refl _)⟩
      | ok p =>
        obtain ⟨prev, next⟩ := p
        have hnext : next.Sound := RuleStore.Sound.replaceAll hreplace hs
        simp only [bind_apply]
        rcases syncTier_cases c.retry (hnext.takes l.tier)
          { w with sources := (w.sources.fetch url).2 } with
          ⟨d, w', hsync, hstep, hsynced⟩ | ⟨w', hsync, hstep, hkept⟩
        · rw [hsync]
          exact ⟨_, _, _, rfl, .renewed h hurl ⟨hstep.sources, hstep.store, hstep.nowMs⟩ source
            hreplace hsynced⟩
        · rw [hsync]
          -- the store is that of before, since what it held is put back
          have hback := RuleStore.rollBack_replaceAll hs l.id hreplace
          refine ⟨.error (.sync (exhausted c.retry l.tier)), s, w', ?_,
            .failed h hurl ⟨hstep.sources, hstep.store, hstep.nowMs⟩ hkept⟩
          show ((_, rollBack next l.tier (s.hasTier l.tier) prev), w') = _
          rw [show rollBack next l.tier (s.hasTier l.tier) prev = s from hback]

/-- what store and engine have for a tier is that of before -/
structure Untouched (tier : Tier) (s : RuleStore) (w : Memory) (s' : RuleStore) (w' : Memory) :
    Prop where
  table : s'.table tier = s.table tier
  hasTier : s'.hasTier tier = s.hasTier tier
  engine : w'.engine.table tier = w.engine.table tier

theorem Untouched.refl (tier : Tier) (s : RuleStore) (w : Memory) : Untouched tier s w s w :=
  ⟨rfl, rfl, rfl⟩

theorem Untouched.trans {tier : Tier} {s₁ s₂ s₃ : RuleStore} {w₁ w₂ w₃ : Memory}
    (h : Untouched tier s₁ w₁ s₂ w₂) (h' : Untouched tier s₂ w₂ s₃ w₃) :
    Untouched tier s₁ w₁ s₃ w₃ :=
  ⟨h'.table.trans h.table, h'.hasTier.trans h.hasTier, h'.engine.trans h.engine⟩

theorem Untouched.skips_iff (h : Untouched l.tier s w s' w') :
    c.Skips force now l s' ↔ c.Skips force now l s := by
  rw [Skips, needsRefresh, h.hasTier, Skips, needsRefresh]

/-- a step of a refresh leaves the flags of the engine, the stored values, the time and the
sources as they are -/
structure Aside (w w' : Memory) : Prop where
  disabled : w'.engine.disabled = w.engine.disabled
  store : w'.store = w.store
  nowMs : w'.clock.nowMs = w.clock.nowMs
  sources : w'.sources.sources = w.sources.sources

theorem Aside.refl (w : Memory) : Aside w w := ⟨rfl, rfl, rfl, rfl⟩

theorem Aside.trans {w₁ w₂ w₃ : Memory} (h : Aside w₁ w₂) (h' : Aside w₂ w₃) : Aside w₁ w₃ :=
  ⟨h'.disabled.trans h.disabled, h'.store.trans h.store, h'.nowMs.trans h.nowMs,
    h'.sources.trans h.sources⟩

namespace Turn

variable {o : Outcome} (turn : c.Turn force now l s w o s' w')
include turn

theorem sound (hs : s.Sound) : s'.Sound := by
  cases turn with
  | skipped h => exact hs
  | failed h hurl fetched kept => exact hs
  | unchanged h hurl fetched source kept same loaded => exact hs
  | renewed h hurl fetched source replaced synced => exact RuleStore.Sound.replaceAll replaced hs

theorem aside : Aside w w' := by
  cases turn with
  | skipped h => exact .refl w
  | failed h hurl fetched kept =>
    exact ⟨kept.disabled, fetched.store, fetched.nowMs, by rw [fetched.sources]; rfl⟩
  | unchanged h hurl fetched source kept same loaded =>
    exact ⟨kept.disabled, fetched.store, fetched.nowMs, by rw [fetched.sources]; rfl⟩
  | renewed h hurl fetched source replaced synced =>
    exact ⟨synced.disabled, fetched.store, fetched.nowMs, by rw [fetched.sources]; rfl⟩

/-- the turn of a list concerns its own tier only -/
theorem untouched {tier : Tier} (hne : l.tier ≠ tier) : Untouched tier s w s' w' := by
  cases turn with
  | skipped h => exact .refl tier s w
  | failed h hurl fetched kept => exact ⟨rfl, rfl, kept.table tier⟩
  | unchanged h hurl fetched source kept same loaded => exact ⟨rfl, rfl, kept.table tier⟩
  | renewed h hurl fetched source replaced synced =>
    refine ⟨?_, ?_, synced.table_of_ne hne⟩
    · rw [RuleStore.table_replaceAll replaced, if_neg hne]
    · rw [RuleStore.hasTier_replaceAll replaced, decide_eq_false hne, Bool.false_or]

theorem skipped_iff : o = .skipped ↔ c.Skips force now l s := by
  cases turn with
  | skipped h => exact ⟨fun _ => h, fun _ => rfl⟩
  | failed h hurl fetched kept => exact ⟨nofun, fun h' => absurd h' h⟩
  | unchanged h hurl fetched source kept same loaded => exact ⟨nofun, fun h' => absurd h' h⟩
  | renewed h hurl fetched source replaced synced => exact ⟨nofun, fun h' => absurd h' h⟩

/-- a list that does not succeed leaves everything as it was -/
theorem untouched_of_not_succeeded (h : ∀ hash, o ≠ .succeeded hash) (tier : Tier) :
    Untouched tier s w s' w' := by
  cases turn with
  | skipped h => exact .refl tier s w
  | failed h hurl fetched kept => exact ⟨rfl, rfl, kept.table tier⟩
  | unchanged h' hurl fetched source kept same loaded => exact absurd rfl (h _)
  | renewed h' hurl fetched source replaced synced => exact absurd rfl (h _)

/-- how often the turn asks an address -/
theorem fetchCount (url : String) :
    w'.sources.fetchCount url =
      w.sources.fetchCount url + if l.url = some url ∧ o ≠ .skipped then 1 else 0 := by
  have asked : ∀ {url'}, l.url = some url' → w.Fetched url' w' → w'.sources.fetchCount url =
      w.sources.fetchCount url + if l.url = some url then 1 else 0 := by
    intro url' hurl fetched
    rw [hurl, fetched.sources]
    show (w.sources.fetches.insert url' (w.sources.fetchCount url' + 1)).getD url 0 = _
    rw [Std.ExtTreeMap.getD_insert]
    by_cases heq : url' = url
    · subst heq
      simp
    · simp only [Std.compare_eq_iff_eq, heq, if_false, Option.some.injEq]
      rfl
  cases turn with
  | skipped h => simp
  | failed h hurl fetched kept => simpa using asked hurl fetched
  | unchanged h hurl fetched source kept same loaded => simpa using asked hurl fetched
  | renewed h hurl fetched source replaced synced => simpa using asked hurl fetched

end Turn

/-! ## passes -/

inductive Pass (c : Coordinator) (force : Bool) (now : UInt64) :
    Log → RuleStore → Memory → RuleStore → Memory → Prop where
  | nil (s : RuleStore) (w : Memory) : Pass c force now [] s w s w
  | cons {l : StaticList} {o : Outcome} {log : Log} {s s₁ s' : RuleStore} {w w₁ w' : Memory}
      (turn : c.Turn force now l s w o s₁ w₁) (rest : Pass c force now log s₁ w₁ s' w') :
      Pass c force now ((l, o) :: log) s w s' w'

theorem refreshLists_cons_skipped (h : c.Skips force now l s) (ls : List StaticList)
    (r : RefreshReport) (w : Memory) :
    c.refreshLists (m := StateM Memory) force now (l :: ls) s r w =
      let rest := c.refreshLists (m := StateM Memory) force now ls s (Outcome.skipped.note l.id r) w
      ((l :: rest.1.1, rest.1.2), rest.2) := by
  rw [refreshLists]
  cases hurl : l.url with
  | none => rfl
  | some url =>
    have hcond : (!force && !c.needsRefresh l s now) = true := by
      rcases h with hnone | ⟨hforce, hneeds⟩
      · rw [hurl] at hnone
        cases hnone
      · rw [hforce, hneeds]
        rfl
    simp only [hcond, if_true]
    rfl

theorem refreshLists_cons_asked (h : ¬ c.Skips force now l s) {url : String}
    (hurl : l.url = some url) {answer : Except RefreshError UInt64} {w₁ : Memory}
    (hrun : c.refreshList (m := StateM Memory) s l url w = ((answer, s'), w₁))
    (ls : List StaticList) (r : RefreshReport) :
    c.refreshLists (m := StateM Memory) force now (l :: ls) s r w =
      let rest := c.refreshLists (m := StateM Memory) force now ls s'
        ((Outcome.ofAnswer answer).note l.id r) w₁
      (((Outcome.ofAnswer answer).update now l :: rest.1.1, rest.1.2), rest.2) := by
  have hcond : (!force && !c.needsRefresh l s now) = false := by
    rw [Skips, not_or] at h
    rw [← Bool.not_eq_true, Bool.and_eq_true, Bool.not_eq_true', Bool.not_eq_true']
    exact h.2
  rw [refreshLists]
  simp only [hurl, hcond, Bool.false_eq_true, if_false, bind_apply, hrun]
  cases answer with
  | ok hash =>
    rw [Outcome.ofAnswer, Outcome.update, ← hurl]
    rfl
  | error e => rfl

/-- A refresh of lists is a pass over them; the lists and the report that it answers are those of
its log. -/
theorem refreshLists_pass (c : Coordinator) (force : Bool) (now : UInt64) (hs : s.Sound)
    (ls : List StaticList) (r : RefreshReport) (w : Memory) :
    ∃ (log : Log) (s' : RuleStore) (w' : Memory), log.map Prod.fst = ls ∧
      c.Pass force now log s w s' w' ∧
      c.refreshLists (m := StateM Memory) force now ls s r w =
        ((log.lists now, s', log.report r), w') := by
  -- on the lists that are left, with whatever the earlier ones made of store, report and world
  induction ls generalizing s r w with
  | nil =>
    refine ⟨[], s, w, rfl, .nil s w, ?_⟩
    rw [refreshLists, Log.report_nil]
    rfl
  | cons l ls ih =>
    by_cases hskip : c.Skips force now l s
    · obtain ⟨log, s', w', hls, hpass, hrun⟩ := ih hs (Outcome.skipped.note l.id r) w
      refine ⟨(l, .skipped) :: log, s', w', by rw [List.map_cons, hls],
        .cons (.skipped hskip) hpass, ?_⟩
      rw [refreshLists_cons_skipped hskip, hrun, Log.report_cons]
      rfl
    · obtain ⟨url, hurl⟩ := Option.ne_none_iff_exists'.mp fun hnone => hskip (.inl hnone)
      obtain ⟨answer, s₁, w₁, hrun₁, turn⟩ := refreshList_turn hs hurl hskip w
      obtain ⟨log, s', w', hls, hpass, hrun⟩ :=
        ih (turn.sound hs) ((Outcome.ofAnswer answer).note l.id r) w₁
      refine ⟨(l, .ofAnswer answer) :: log, s', w', by rw [List.map_cons, hls],
        .cons turn hpass, ?_⟩
      rw [refreshLists_cons_asked hskip hurl hrun₁, hrun, Log.report_cons]
      rfl

namespace Pass

variable {log : Log} (pass : c.Pass force now log s w s' w')
include pass

theorem sound (hs : s.Sound) : s'.Sound := by
  induction pass with
  | nil s w => exact hs
  | cons turn rest ih => exact ih (turn.sound hs)

theorem aside : Aside w w' := by
  induction pass with
  | nil s w => exact .refl w
  | cons turn rest ih => exact turn.aside.trans ih

theorem untouched {tier : Tier} (hne : ∀ p ∈ log, p.1.tier ≠ tier) :
    Untouched tier s w s' w' := by
  induction pass with
  | nil s w => exact .refl tier s w
  | cons turn rest ih =>
    exact (turn.untouched (hne _ List.mem_cons_self)).trans
      (ih fun p hp => hne p (List.mem_cons_of_mem _ hp))

/-- Each list had its turn. Until then its tier was that of the start, and from then on it was that
of the end. -/
theorem turn_of_mem (hnd : log.ids.Nodup) {o : Outcome} (hmem : (l, o) ∈ log) :
    ∃ s₁ w₁ s₂ w₂, c.Turn force now l s₁ w₁ o s₂ w₂ ∧ Untouched l.tier s w s₁ w₁ ∧
      Untouched l.tier s₂ w₂ s' w' ∧ Aside w w₁ ∧ (s.Sound → s₁.Sound) := by
  induction pass with
  | nil s w => cases hmem
  | @cons l' o' log s s₁ s' w w₁ w' turn rest ih =>
    have hnd' : l'.id ∉ Log.ids log ∧ (Log.ids log).Nodup := List.nodup_cons.mp hnd
    rcases List.mem_cons.mp hmem with heq | hmem
    · cases heq
      refine ⟨s, w, s₁, w₁, turn, .refl _ s w, rest.untouched fun p hp hid => ?_, .refl w, id⟩
      have hid : p.1.id = l.id := by injection hid
      exact hnd'.1 (hid ▸ List.mem_map_of_mem hp)
    · obtain ⟨s₂, w₂, s₃, w₃, turn', hbefore, hafter, haside, hsound⟩ := ih hnd'.2 hmem
      refine ⟨s₂, w₂, s₃, w₃, turn', ?_, hafter, turn.aside.trans haside, hsound ∘ turn.sound⟩
      refine (turn.untouched fun hid => ?_).trans hbefore
      have hid : l'.id = l.id := by injection hid
      exact hnd'.1 (hid ▸ List.mem_map_of_mem hmem)

/-- what a list that does not succeed finds after the pass -/
theorem untouched_of_mem (hnd : log.ids.Nodup) {o : Outcome} (hmem : (l, o) ∈ log)
    (h : ∀ hash, o ≠ .succeeded hash) : Untouched l.tier s w s' w' := by
  obtain ⟨s₁, w₁, s₂, w₂, turn, before, after, -⟩ := pass.turn_of_mem hnd hmem
  exact before.trans ((turn.untouched_of_not_succeeded h l.tier).trans after)

/-- whether a list is skipped is decided by what it finds before the pass -/
theorem skipped_iff_of_mem (hnd : log.ids.Nodup) {o : Outcome} (hmem : (l, o) ∈ log) :
    o = .skipped ↔ c.Skips force now l s := by
  obtain ⟨s₁, w₁, s₂, w₂, turn, before, -, -⟩ := pass.turn_of_mem hnd hmem
  rw [turn.skipped_iff, before.skips_iff]

/-- how often a pass asks an address: once for each list that has it and is not skipped -/
theorem fetchCount (url : String) :
    w'.sources.fetchCount url = w.sources.fetchCount url +
      log.countP fun p => p.1.url = some url ∧ p.2 ≠ .skipped := by
  induction pass with
  | nil s w => rfl
  | cons turn rest ih =>
    rw [ih, turn.fetchCount url, List.countP_cons, Nat.add_assoc, Nat.add_comm (List.countP _ _)]
    simp only [decide_eq_true_eq]

end Pass

end Coordinator

end Blocklist
