import Mathlib.Data.Set.Function
import Blocklist.Proofs.CompiledRules
import Blocklist.Proofs.EngineAgreement
import Blocklist.Proofs.RefreshIsolation

/-!
# Sources that have not changed

A refresh does not compile a text again whose fingerprint is that of the list, if the list has
rules. These rules were compiled from a text with this fingerprint, some time before; as long as the
fetched texts have different fingerprints, it was the same text.

* `Memory.textsFetched`              the texts that were fetched between two moments;
* `Coordinator.Run`                  what can have happened since the start, and the texts fetched;
* `Coordinator.Carries`              list, store and engine have what a text leads to;
* `Coordinator.Turn.carries`         a list that succeeds carries a text with the fingerprint of the
                                     one just fetched, compiled or not;
* `Coordinator.Run.traced`           what is loaded always comes from some fetched text;
* `Coordinator.Run.up_to_date`       without collisions it is the text just fetched.
-/

namespace Blocklist

/-! ## texts that were fetched -/

namespace Memory

/-- an address was asked between two moments -/
def Asked (w w' : Memory) (url : String) : Prop :=
  w.sources.fetchCount url < w'.sources.fetchCount url

/-- the texts that were fetched between two moments -/
def textsFetched (w w' : Memory) : Set String :=
  {text | ∃ url, w.Asked w' url ∧ w.sources.sources[url]? = some (.text text)}

theorem textsFetched_congr {w w' w'' : Memory} (h : w''.sources = w'.sources) :
    w.textsFetched w'' = w.textsFetched w' := by
  rw [textsFetched, textsFetched]
  simp only [Asked, h]

end Memory

namespace Coordinator

variable {config : SyncConfig} {c c' : Coordinator} {force : Bool} {now hash : UInt64}
  {l : StaticList} {o : Outcome} {log : Log} {s s' : RuleStore} {w w' : Memory}
  {e e' : MemoryEngine} {texts : Set String}

/-! ## rules and the text they come from -/

/-- list, store and engine have what the text leads to -/
structure Carries (text : String) (l : StaticList) (s : RuleStore) (e : MemoryEngine) : Prop where
  fingerprint : l.fingerprint = some (Blocklist.fingerprint text)
  store : s.table l.tier = FilterList.table text l.window
  engine : e.table l.tier = FilterList.table text l.window

/-- If the list is loaded, what is loaded comes from one of the texts. -/
def Traced (texts : Set String) (l : StaticList) (s : RuleStore) (e : MemoryEngine) : Prop :=
  s.hasTier l.tier = true → ∃ text ∈ texts, Carries text l s e

theorem Traced.mono {texts' : Set String} (h : Traced texts l s e) (hsub : texts ⊆ texts') :
    Traced texts' l s e := by
  intro hloaded
  obtain ⟨text, htext, carries⟩ := h hloaded
  exact ⟨text, hsub htext, carries⟩

theorem Traced.of_tables (h : Traced texts l s e) (tables : e'.tables = e.tables) :
    Traced texts l s e' := by
  intro hloaded
  obtain ⟨text, htext, carries⟩ := h hloaded
  exact ⟨text, htext, carries.fingerprint, carries.store,
    (MemoryEngine.table_congr tables l.tier).trans carries.engine⟩

theorem Traced.withEnabled (h : Traced texts l s e) (enabled : Bool) :
    Traced texts { l with enabled := enabled } s e := by
  intro hloaded
  obtain ⟨text, htext, carries⟩ := h hloaded
  exact ⟨text, htext, carries.fingerprint, carries.store, carries.engine⟩

section
variable (same : Untouched l.tier s w s' w')
include same

theorem Carries.of_untouched {text : String} (h : Carries text l s w.engine) :
    Carries text l s' w'.engine :=
  ⟨h.fingerprint, same.table.trans h.store, same.engine.trans h.engine⟩

theorem Traced.of_untouched (h : Traced texts l s w.engine) : Traced texts l s' w'.engine := by
  intro hloaded
  obtain ⟨text, htext, carries⟩ := h (same.hasTier ▸ hloaded)
  exact ⟨text, htext, carries.of_untouched same⟩

end

/-! ## one turn -/

/-- A list that succeeds carries a text with the fingerprint of the one just fetched: that one if it
was compiled, an earlier one if not. -/
theorem Turn.carries (turn : c.Turn force now l s w (.succeeded hash) s' w') (hs : s.Sound)
    (h : Traced texts l s w.engine) :
    ∃ url text earlier, l.url = some url ∧ w.sources.sources[url]? = some (.text text) ∧
      earlier ∈ insert text texts ∧ fingerprint earlier = fingerprint text ∧
      Carries earlier (Outcome.update now l (.succeeded hash)) s' w'.engine := by
  cases turn with
  | @unchanged url text w' hskip hurl fetched source kept same loaded =>
    obtain ⟨earlier, hmem, carries⟩ := h (RuleStore.hasTier_of_count_pos loaded)
    have hash : fingerprint earlier = fingerprint text :=
      Option.some.inj (carries.fingerprint.symm.trans same)
    exact ⟨url, text, earlier, hurl, source, .inr hmem, hash,
      ⟨congrArg some hash.symm, carries.store, (kept.table l.tier).trans carries.engine⟩⟩
  | @renewed url text prev s' w' hskip hurl fetched source replaced synced =>
    have store : s'.table l.tier = FilterList.table text l.window := by
      rw [RuleStore.table_replaceAll replaced, if_pos rfl, FilterList.table]
    have engine : w'.engine.table l.tier = s'.table l.tier :=
      (RuleStore.Sound.replaceAll replaced hs).table_of_synced synced nofun
    exact ⟨url, text, text, hurl, source, .inl rfl, rfl, ⟨rfl, store, engine.trans store⟩⟩

/-! ## one pass -/

namespace Pass

variable (pass : c.Pass force now log s w s' w') (hnd : log.ids.Nodup)
include pass

theorem asked_of_mem (hmem : (l, o) ∈ log) (ho : o ≠ .skipped) {url : String}
    (hurl : l.url = some url) : w.Asked w' url := by
  have hpos : 0 < log.countP fun p => p.1.url = some url ∧ p.2 ≠ .skipped :=
    List.countP_pos_iff.mpr ⟨(l, o), hmem, decide_eq_true ⟨hurl, ho⟩⟩
  rw [Memory.Asked, pass.fetchCount url]
  omega

include hnd

theorem carries_of_mem (hs : s.Sound) (hmem : (l, .succeeded hash) ∈ log)
    (h : Traced texts l s w.engine) :
    ∃ url text earlier, l.url = some url ∧ w.Asked w' url ∧
      w.sources.sources[url]? = some (.text text) ∧ earlier ∈ insert text texts ∧
      fingerprint earlier = fingerprint text ∧
      Carries earlier (Outcome.update now l (.succeeded hash)) s' w'.engine := by
  obtain ⟨s₁, w₁, s₂, w₂, turn, before, after, aside, sound⟩ := pass.turn_of_mem hnd hmem
  obtain ⟨url, text, earlier, hurl, source, hearlier, hhash, carries⟩ :=
    turn.carries (sound hs) (h.of_untouched before)
  have after : Untouched (Outcome.update now l (.succeeded hash)).tier s₂ w₂ s' w' := after
  rw [aside.sources] at source
  exact ⟨url, text, earlier, hurl, pass.asked_of_mem hmem nofun hurl, source, hearlier, hhash,
    carries.of_untouched after⟩

/-- a pass preserves that what is loaded comes from a fetched text -/
theorem traced (hs : s.Sound) (h : ∀ p ∈ log, Traced texts p.1 s w.engine) :
    ∀ l ∈ log.lists now, Traced (texts ∪ w.textsFetched w') l s' w'.engine := by
  intro l' hl'
  obtain ⟨⟨l, o⟩, hmem, rfl⟩ := List.mem_map.mp hl'
  have before := h (l, o) hmem
  by_cases ho : ∃ hash, o = .succeeded hash
  · obtain ⟨hash, rfl⟩ := ho
    obtain ⟨url, text, earlier, -, asked, source, hearlier, -, carries⟩ :=
      pass.carries_of_mem hnd hs hmem before
    refine fun _ => ⟨earlier, ?_, carries⟩
    rcases hearlier with rfl | hearlier
    · exact .inr ⟨url, asked, source⟩
    · exact .inl hearlier
  · have ho : ∀ hash, o ≠ .succeeded hash := fun hash heq => ho ⟨hash, heq⟩
    show Traced _ (o.update now l) s' w'.engine
    rw [Outcome.update_of_not_succeeded ho]
    exact (before.of_untouched (pass.untouched_of_mem hnd hmem ho)).mono Set.subset_union_left

end Pass

/-! ## runs -/

/-- A run of operations on a new coordinator and a new store, with the texts that it fetched. In
between the world may change in anything but the rules of the engine. States are loaded before the
first refresh. -/
inductive Run (config : SyncConfig) :
    List Operation → Set String → Coordinator → RuleStore → Memory → Prop where
  | new (limits : CapacityLimits) (w : Memory) :
      Run config [] ∅ (.new config) ((Coordinator.new config).registerWindows (.new limits)) w
  | step {ops : List Operation} {texts : Set String} {c c' : Coordinator} {s s' : RuleStore}
      {w₀ w w' : Memory} (h : Run config ops texts c s w₀) (meanwhile : w₀.SameRules w)
      {op : Operation} (early : op = .loadState → ∀ force, .refresh force ∉ ops)
      (hrun : op.run c s w = ((c', s'), w')) :
      Run config (ops ++ [op]) (texts ∪ w.textsFetched w') c' s' w'

/-- an operation that is no refresh leaves the store alone -/
theorem store_of_not_refresh {op : Operation} (hrun : op.run c s w = ((c', s'), w'))
    (hop : ∀ force, op ≠ .refresh force) : s' = s := by
  have hstore : (op.run c s w).1.2 = s := by
    cases op with
    | refresh force => exact absurd rfl (hop force)
    | loadState => rfl
    | setListEnabled id enabled => rfl
    | setSuspended suspended => rfl
  rw [hrun] at hstore
  exact hstore

theorem mem_lists_withEnabled {id : String} {enabled : Bool}
    (h : l ∈ (c.withEnabled id enabled).lists) :
    l ∈ c.lists ∨ ∃ l' ∈ c.lists, l = { l' with enabled := enabled } := by
  obtain ⟨i, hi⟩ := List.mem_iff_getElem?.mp h
  rw [withEnabled, List.getElem?_modify, Option.map_eq_map, Option.map_eq_some_iff] at hi
  obtain ⟨l', hl', rfl⟩ := hi
  split
  · exact .inr ⟨l', List.mem_of_getElem? hl', rfl⟩
  · exact .inl (List.mem_of_getElem? hl')

theorem mem_lists_of_setListEnabled {id : String} {enabled : Bool}
    {answer : Except SyncError Unit}
    (hrun : c.setListEnabled (m := StateM Memory) id enabled w = ((answer, c'), w'))
    (h : l ∈ c'.lists) : l ∈ c.lists ∨ ∃ l' ∈ c.lists, l = { l' with enabled := enabled } := by
  rcases setListEnabled_cases c id enabled w with ⟨e, w₁, hrun', -⟩ | ⟨w₁, -, hrun'⟩
  · rw [hrun] at hrun'
    cases hrun'
    exact .inl h
  · rw [hrun] at hrun'
    cases hrun'
    exact mem_lists_withEnabled h

/-- the pass over the lists of a coordinator names each of them once -/
theorem nodup_ids_of_log (hnd : (c.lists.map StaticList.id).Nodup)
    (hlog : log.map Prod.fst = c.lists) : log.ids.Nodup := by
  rw [← hlog, List.map_map] at hnd
  exact hnd

/-- An operation preserves that what is loaded comes from a fetched text. -/
theorem Operation.traced {op : Operation} (hrun : op.run c s w = ((c', s'), w')) (hs : s.Sound)
    (hnd : (c.lists.map StaticList.id).Nodup)
    (early : op = .loadState → ∀ tier, s.hasTier tier = false)
    (h : ∀ l ∈ c.lists, Traced texts l s w.engine) :
    ∀ l ∈ c'.lists, Traced (texts ∪ w.textsFetched w') l s' w'.engine := by
  cases op with
  | loadState =>
    intro l hl hloaded
    rw [store_of_not_refresh hrun nofun, early rfl] at hloaded
    cases hloaded
  | setListEnabled id enabled =>
    rcases hset : c.setListEnabled (m := StateM Memory) id enabled w with ⟨⟨answer, c₁⟩, w₁⟩
    rw [Operation.run, bind_apply, hset] at hrun
    cases hrun
    have tables := tables_of_setListEnabled hset
    intro l hl
    refine Traced.mono ?_ Set.subset_union_left
    rcases mem_lists_of_setListEnabled hset hl with hl | ⟨l', hl', rfl⟩
    · exact (h l hl).of_tables tables
    · exact ((h l' hl').of_tables tables).withEnabled enabled
  | setSuspended suspended =>
    obtain ⟨answer, c₁, w₁, hset, hstep, hc⟩ := setSuspended_cases c suspended w
    rw [Operation.run, bind_apply, hset] at hrun
    cases hrun
    have hlists : c'.lists = c.lists := by
      rcases hc with rfl | rfl <;> rfl
    intro l hl
    exact ((h l (hlists ▸ hl)).of_tables hstep.tables).mono Set.subset_union_left
  | refresh force =>
    rcases hrefresh : c.refresh (m := StateM Memory) s force w with ⟨⟨r, c₁, s₁⟩, w₁⟩
    rw [Operation.run, bind_apply, hrefresh] at hrun
    cases hrun
    obtain ⟨log, w₁, hlog, pass, -, hlists, engine, sources⟩ := refresh_pass hs hrefresh
    rw [hlists, engine, Memory.textsFetched_congr sources]
    exact pass.traced (nodup_ids_of_log hnd hlog) hs fun p hp =>
      h p.1 (hlog ▸ List.mem_map_of_mem hp)

namespace Run

variable {ops : List Operation} (h : Run config ops texts c s w)
include h

theorem reachable : Reachable config c s := by
  induction h with
  | new limits w => exact .new limits
  | @step _ _ _ _ _ _ _ w _ h meanwhile op early hrun ih =>
    have hstep := Reachable.step op w ih
    rw [hrun] at hstep
    exact hstep

theorem hasTier_of_not_refreshed (hops : ∀ force, .refresh force ∉ ops) (tier : Tier) :
    s.hasTier tier = false := by
  induction h with
  | new limits w => exact RuleStore.hasTier_registerWindows_new (.new config) limits tier
  | @step ops _ _ _ _ _ _ _ _ h meanwhile op early hrun ih =>
    have hop : ∀ force, op ≠ .refresh force :=
      fun force heq => hops force (List.mem_append_right ops (heq ▸ List.mem_singleton_self op))
    rw [store_of_not_refresh hrun hop]
    exact ih fun force hmem => hops force (List.mem_append_left [op] hmem)

/-- Whatever happened, the rules of a loaded list come from a text that was fetched. -/
theorem traced (hnd : (config.lists.map ListConfig.id).Nodup) :
    ∀ l ∈ c.lists, Traced texts l s w.engine := by
  induction h with
  | new limits w =>
    intro l hl hloaded
    rw [(Run.new limits w).hasTier_of_not_refreshed nofun] at hloaded
    cases hloaded
  | step h meanwhile early hrun ih =>
    exact Operation.traced hrun h.reachable.sound (h.reachable.ids ▸ hnd)
      (fun heq => h.hasTier_of_not_refreshed (early heq)) fun l hl => (ih l hl).of_tables meanwhile

end Run

/-! ## without collisions -/

/-- what is configured about a list of the coordinator -/
theorem Keeps.exists_config (h : (Coordinator.new config).Keeps c) (hl : l ∈ c.lists) :
    ∃ lc ∈ config.lists, lc.id = l.id ∧ lc.url = l.url ∧ lc.window = l.window := by
  have hmem : l.origin ∈ (Coordinator.new config).lists.map StaticList.origin :=
    h.origins ▸ List.mem_map_of_mem hl
  rw [new, List.map_map] at hmem
  obtain ⟨lc, hlc, horigin⟩ := List.mem_map.mp hmem
  obtain ⟨hid, hrest⟩ := Prod.mk.inj horigin
  obtain ⟨-, hrest⟩ := Prod.mk.inj hrest
  obtain ⟨hurl, hwindow⟩ := Prod.mk.inj hrest
  exact ⟨lc, hlc, hid, hurl, hwindow⟩

/-- a configured list after a refresh, at the time `now`, that fetched the text -/
structure UpToDate (l : ListConfig) (text : String) (now : UInt64) (c : Coordinator)
    (s : RuleStore) (e : MemoryEngine) : Prop where
  state : ∃ l', c.list? l.id = some l' ∧ l'.lastUpdate = some now ∧
    l'.fingerprint = some (Blocklist.fingerprint text)
  store : s.rules l.tier = (FilterList.compile text.toList l.window).rules
  engine : e.rules l.tier = (FilterList.compile text.toList l.window).rules

/-- After a refresh each list that succeeded is what compiling the text just fetched leads to, if
different fetched texts have different fingerprints. -/
theorem Run.up_to_date {ops : List Operation} {w₀ : Memory} {r : RefreshReport}
    (hvalid : config.validate = .ok ()) (h : Run config ops texts c s w₀)
    (meanwhile : w₀.SameRules w)
    (hrun : c.refresh (m := StateM Memory) s force w = ((r, c', s'), w'))
    (inj : Set.InjOn fingerprint (texts ∪ w.textsFetched w')) :
    ∀ id ∈ r.succeeded, ∃ l ∈ config.lists, l.id = id ∧ ∃ url text, l.url = some url ∧
      w.Asked w' url ∧ w.sources.sources[url]? = some (.text text) ∧
      UpToDate l text w.clock.nowMs c' s' w'.engine := by
  have hnd := SyncConfig.nodup_ids hvalid
  obtain ⟨log, w₁, hlog, pass, hsucceeded, hlists, engine, sources⟩ :=
    refresh_pass h.reachable.sound hrun
  have hlogNd := nodup_ids_of_log (h.reachable.ids ▸ hnd) hlog
  intro id hid
  obtain ⟨l, hash, hmem, rfl⟩ := Log.exists_of_mem_succeeded (hsucceeded ▸ hid)
  have hl : l ∈ c.lists := hlog ▸ List.mem_map_of_mem hmem
  obtain ⟨lc, hlc, hlcId, hlcUrl, hlcWindow⟩ := h.reachable.keeps.exists_config hl
  obtain ⟨url, text, earlier, hurl, asked, source, hearlier, hhash, carries⟩ :=
    pass.carries_of_mem hlogNd h.reachable.sound hmem ((h.traced hnd l hl).of_tables meanwhile)
  have asked : w.Asked w' url := by
    rw [Memory.Asked, sources]
    exact asked
  have htext : text ∈ texts ∪ w.textsFetched w' := .inr ⟨url, asked, source⟩
  have hearlier : earlier ∈ texts ∪ w.textsFetched w' := by
    rcases hearlier with rfl | hearlier
    · exact htext
    · exact .inl hearlier
  -- so the rules come from the text just fetched
  have heq : earlier = text := inj hearlier htext hhash
  subst heq
  have htier : lc.tier = l.tier := congrArg Tier.static hlcId
  refine ⟨lc, hlc, hlcId, url, earlier, hlcUrl.trans hurl, asked, source, ?_, ?_, ?_⟩
  · refine ⟨Outcome.update w.clock.nowMs l (.succeeded hash), ?_, rfl, carries.fingerprint⟩
    rw [hlcId, list?, hlists]
    exact Log.find?_lists hlogNd hmem w.clock.nowMs
  · rw [htier, RuleStore.rules, show s'.table l.tier = _ from carries.store, hlcWindow]
    exact FilterList.rules_table earlier l.window
  · rw [htier, MemoryEngine.rules, engine, show w₁.engine.table l.tier = _ from carries.engine,
      hlcWindow]
    exact FilterList.rules_table earlier l.window

/-- a world that has one text, at the address of the first default list -/
def servingEasyList (text : String) (e : MemoryEngine) : Memory where
  engine := e
  sources := MemorySources.set {} "https://easylist.to/easylist/easylist.txt" (.text text)

theorem textsFetched_servingEasyList (text : String) (e : MemoryEngine) (w' : Memory) :
    (servingEasyList text e).textsFetched w' ⊆ {text} := by
  rintro text' ⟨url, -, source⟩
  have source : ((∅ : Std.ExtTreeMap String Source).insert
      "https://easylist.to/easylist/easylist.txt" (Source.text text))[url]? =
        some (Source.text text') := source
  rw [Std.ExtTreeMap.getElem?_insert] at source
  split at source
  · cases source
    rfl
  · cases source

theorem sameRules_servingEasyList (text : String) (w : Memory) :
    w.SameRules (servingEasyList text w.engine) := rfl

/-- the default configuration after a first refresh -/
def fetchedOnce : (Coordinator × RuleStore) × Memory :=
  Operation.run (.new .default) ((new .default).registerWindows (.new {})) (.refresh true)
    (servingEasyList "||ads.example^" {})

/-- The same text is fetched twice; the second time it is not compiled. -/
theorem up_to_date_default :
    ∃ r c' s' w', fetchedOnce.1.1.refresh (m := StateM Memory) fetchedOnce.1.2 true
        (servingEasyList "||ads.example^" fetchedOnce.2.engine) = ((r, c', s'), w') ∧
      "easylist" ∈ r.succeeded ∧ ∀ id ∈ r.succeeded, ∃ l ∈ SyncConfig.default.lists, l.id = id ∧
        ∃ url text, l.url = some url ∧
          (servingEasyList "||ads.example^" fetchedOnce.2.engine).Asked w' url ∧
          (servingEasyList "||ads.example^" fetchedOnce.2.engine).sources.sources[url]? =
            some (.text text) ∧
          UpToDate l text 0 c' s' w'.engine := by
  have hsucceeded : "easylist" ∈ (fetchedOnce.1.1.refresh (m := StateM Memory) fetchedOnce.1.2
      true (servingEasyList "||ads.example^" fetchedOnce.2.engine)).1.1.succeeded := by
    decide +kernel
  rcases hfirst : fetchedOnce with ⟨⟨c, s⟩, w⟩
  rw [hfirst] at hsucceeded
  dsimp only at hsucceeded ⊢
  rcases hrun : c.refresh (m := StateM Memory) s true
    (servingEasyList "||ads.example^" w.engine) with ⟨⟨r, c', s'⟩, w'⟩
  rw [hrun] at hsucceeded
  have run : Run .default ([] ++ [.refresh true])
      (∅ ∪ (servingEasyList "||ads.example^" {}).textsFetched w) c s w :=
    .step (.new {} {}) (sameRules_servingEasyList "||ads.example^" {}) nofun hfirst
  have inj : Set.InjOn fingerprint (∅ ∪ (servingEasyList "||ads.example^" {}).textsFetched w ∪
      (servingEasyList "||ads.example^" w.engine).textsFetched w') := by
    refine (Set.injOn_singleton fingerprint "||ads.example^").mono ?_
    rw [Set.empty_union]
    exact Set.union_subset (textsFetched_servingEasyList _ _ _)
      (textsFetched_servingEasyList _ _ _)
  exact ⟨r, c', s', w', rfl, hsucceeded,
    Run.up_to_date (by decide) run (sameRules_servingEasyList _ _) hrun inj⟩

end Coordinator

end Blocklist
