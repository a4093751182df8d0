import Blocklist.Proofs.KeptFiles
import Blocklist.Proofs.RulesetPaths
import Blocklist.Proofs.SiteServices

/-!
# Services on kept files

Where the machine keeps the files of a site, no call of the store or of the engine fails: each of
them writes its own file and leaves the others as they are. A refresh writes the files of static
lists at most, whatever it answers.

* `Site.Leaves`                   a step that touches some files at most;
* `Site.Stores`, `Site.Stores.save`   the items in the state file, and saving more;
* `Site.RulesetIs`, `Site.FlagsAre`   what the files of the engine say;
* `Site.RulesetIs.sync`           the file of a tier after the tier was brought in line;
* `Site.FlagsAre.setTierEnabled`  the file of the flags after a tier was turned on or off;
* `Site.Quiet`                    programs that touch some files at most;
* `Site.quiet_refreshLists`       refreshes touch the files of static lists.
-/

namespace Blocklist

/-! ## calls that succeed at once -/

section
variable {σ α ε : Type} [Sleep (StateM σ)] {w w' : σ} {a : α}

theorem RetryPolicy.run_of_ok {call : StateM σ (Except ε α)} (h : call w = (.ok a, w'))
    (retry : RetryPolicy) : retry.run call w = (.ok a, w') := by
  rw [run]
  cases retry.attempts - 1 with
  | zero => rw [runFrom_zero, h]
  | succ left => rw [runFrom_succ, h]

theorem engineCall_of_ok {call : StateM σ (Except EngineError α)} (h : call w = (.ok a, w'))
    (retry : RetryPolicy) (tier : Tier) : (engineCall retry tier call).run w = (.ok a, w') := by
  rw [engineCall, ExceptT.run_mk, bind_apply, retry.run_of_ok h]
  rfl

end

namespace Site

variable {paths : List String} {touched : String → Prop} {s s₁ s₂ : Site}

/-! ## steps at a site -/

/-- The machine keeps all of these files, and those that were not touched say what they said. -/
structure Leaves (paths : List String) (touched : String → Prop) (s s' : Site) : Prop where
  keeps : s'.machine.Keeps paths
  places : s'.disk.reopen = s.disk.reopen
  cache : ¬ touched s.disk.stateFile → s'.disk = s.disk
  others : ∀ path ∈ paths, ¬ touched path → s'.machine.tree.read path = s.machine.tree.read path

namespace Leaves

theorem refl (h : s.machine.Keeps paths) : Leaves paths touched s s :=
  ⟨h, rfl, fun _ => rfl, fun _ _ _ => rfl⟩

variable (h : Leaves paths touched s s₁)
include h

theorem stateFile : s₁.disk.stateFile = s.disk.stateFile :=
  (congrArg Disk.stateFile h.places :)

theorem rulesetPath (tier : Tier) : s₁.disk.rulesetPath tier = s.disk.rulesetPath tier :=
  (congrArg (fun d : Disk => d.rulesetPath tier) h.places :)

theorem enabledPath : s₁.disk.enabledPath = s.disk.enabledPath :=
  (congrArg Disk.enabledPath h.places :)

theorem trans (h' : Leaves paths touched s₁ s₂) : Leaves paths touched s s₂ where
  keeps := h'.keeps
  places := h'.places.trans h.places
  cache hnot := (h'.cache (h.stateFile.symm ▸ hnot)).trans (h.cache hnot)
  others path hpath hnot := (h'.others path hpath hnot).trans (h.others path hpath hnot)

end Leaves

/-! ## the store -/

/-- The state file holds these items, and so does what was read of it. -/
structure Stores (s : Site) (items : Items) : Prop where
  holds : s.Holds items
  settled : items.Settled
  cached : s.disk.items = none ∨ s.disk.items = some items

/-- the site after the items in the state file were read -/
def opened (s : Site) (items : Items) : Site :=
  { s with disk := { s.disk with items := some items } }

namespace Stores

variable {items : Items} (h : s.Stores items)
include h

theorem load (keys : List String) :
    (KeyValueStore.load keys : StateM Site _) s = (.ok (items.pick keys), s.opened items) := by
  show run (Disk.load keys) s = _
  rw [run, Disk.load_run, h.holds.readItems h.cached]
  rfl

theorem opened : (s.opened items).Stores items := ⟨h.holds, h.settled, .inr rfl⟩

theorem leaves (step : Leaves paths touched s s₁) (hpath : s.disk.stateFile ∈ paths)
    (hnot : ¬ touched s.disk.stateFile) : s₁.Stores items := by
  have hread := step.others _ hpath hnot
  have hholds := h.holds
  rw [Holds, ← hread, ← step.cache hnot] at hholds
  exact ⟨hholds, h.settled, step.cache hnot ▸ h.cached⟩

theorem save (keeps : s.machine.Keeps paths) (hpath : s.disk.stateFile ∈ paths) {new : Items}
    (hnew : new.Settled) :
    ∃ s', (KeyValueStore.save new : StateM Site _) s = (.ok (), s') ∧
      s'.Stores (items.update new) ∧ Leaves paths (· = s.disk.stateFile) s s' := by
  obtain ⟨m', hwrite, hkeeps, hread, hothers⟩ :=
    keeps.write hpath (Json.ofItems (items.update new))
  have hsettled := h.settled.update hnew
  refine ⟨⟨{ s.disk with items := some (items.update new) }, m'⟩, ?_,
    ⟨.inr ⟨_, hread, hsettled.reads⟩, hsettled, .inr rfl⟩,
    ⟨hkeeps, rfl, fun hnot => absurd rfl hnot, hothers⟩⟩
  show run (Disk.save new) s = _
  rw [run, Disk.save_run, h.holds.readItems h.cached]
  dsimp only
  rw [hwrite]

end Stores

/-! ## the engine -/

/-- the rules in the file of a tier, if there is one -/
def RulesetIs (s : Site) (tier : Tier) (o : Option (List Rule)) : Prop :=
  s.machine.tree.read (s.disk.rulesetPath tier) =
    o.elim (.error .notFound) fun rules => .ok (Rule.listToJson rules).pretty.toUTF8

/-- the flags in their file, if there is one -/
def FlagsAre (s : Site) (o : Option Disk.Flags) : Prop :=
  s.machine.tree.read s.disk.enabledPath =
    o.elim (.error .notFound) fun flags => .ok flags.toJson.pretty.toUTF8

section
variable {tier : Tier} {desired : List Rule} {rules : Option (List Rule)}
  {flags : Option Disk.Flags}

theorem RulesetIs.leaves (h : s.RulesetIs tier rules) (step : Leaves paths touched s s₁)
    (hpath : s.disk.rulesetPath tier ∈ paths) (hnot : ¬ touched (s.disk.rulesetPath tier)) :
    s₁.RulesetIs tier rules := by
  rw [RulesetIs, step.rulesetPath, step.others _ hpath hnot]
  exact h

theorem FlagsAre.leaves (h : s.FlagsAre flags) (step : Leaves paths touched s s₁)
    (hpath : s.disk.enabledPath ∈ paths) (hnot : ¬ touched s.disk.enabledPath) :
    s₁.FlagsAre flags := by
  rw [FlagsAre, step.enabledPath, step.others _ hpath hnot]
  exact h

theorem RulesetIs.readTable (h : s.RulesetIs tier rules) :
    (Disk.readTable tier : ExceptT IoError SiteM _).run s.disk s.machine =
      ((.ok (RuleTable.ofRules ((rules.getD []).map Rule.wire)), s.disk), s.machine) := by
  rw [Disk.readTable_run, readJson_run, h]
  cases rules with
  | none => rfl
  | some rules =>
    simp only [Option.elim_some, Json.ofBytes?_pretty (Rule.exact_listToJson rules),
      Option.bind_some, Rule.listOfJson?_listToJson]
    rfl

theorem FlagsAre.readFlags (h : s.FlagsAre flags) :
    (Disk.readFlags : ExceptT IoError SiteM _).run s.disk s.machine =
      ((.ok (flags.getD ∅), s.disk), s.machine) := by
  rw [Disk.readFlags_run, readJson_run, h]
  cases flags with
  | none => rfl
  | some flags =>
    simp only [Option.elim_some, Json.ofBytes?_pretty (Disk.Flags.exact_toJson flags),
      Option.bind_some, Disk.Flags.ofJson?_toJson]

/-- a file of rules that are ours to remove -/
theorem foreign_ofRules {rules : List Rule} (scope : ∀ r ∈ rules, tier.inScope r.id = true) :
    (RuleTable.ofRules (rules.map Rule.wire)).foreign tier = ∅ := by
  apply Std.ExtTreeMap.ext_getElem?
  intro id
  rw [RuleTable.getElem?_foreign, Std.ExtTreeMap.getElem?_empty]
  split
  · rfl
  · next hid =>
    apply Std.ExtTreeMap.getElem?_ofList_of_contains_eq_false
    rw [Bool.eq_false_iff, ne_eq, List.contains_iff_mem]
    simp only [List.map_map, List.mem_map, not_exists, not_and]
    rintro r hr rfl
    exact hid (scope r hr)

/-- A tier of which the file has only rules that are ours is brought in line. -/
theorem RulesetIs.sync (h : s.RulesetIs tier rules)
    (scope : ∀ r ∈ rules.getD [], tier.inScope r.id = true) (keeps : s.machine.Keeps paths)
    (hpath : s.disk.rulesetPath tier ∈ paths) (takes : tier.Takes desired)
    (sorted : (RuleTable.insertAll ∅ desired).rules = desired) (retry : RetryPolicy) :
    ∃ d s', (syncTier (m := StateM Site) tier desired retry).run s = (.ok d, s') ∧
      s'.RulesetIs tier (some desired) ∧ Leaves paths (· = s.disk.rulesetPath tier) s s' := by
  let t := RuleTable.ofRules ((rules.getD []).map Rule.wire)
  let d := reconcile tier desired t.ids
  obtain ⟨m', hwrite, hkeeps, hread, hothers⟩ := keeps.write hpath (Rule.listToJson desired)
  have hactive : (RuleEngine.activeIds tier : StateM Site _) s = (.ok t.ids, s) := by
    show run (Disk.activeIds tier) s = _
    rw [run, Disk.activeIds, Disk.asEngine_run, Disk.run_bind, h.readTable]
    rfl
  have hdiff : t.applyDiff tier d = .ok (RuleTable.insertAll ∅ desired) := by
    rw [RuleTable.applyDiff_reconcile takes.scope]
    refine ⟨takes.nodup, ?_⟩
    rw [RuleTable.reconciled, foreign_ofRules scope]
  have happly : (RuleEngine.applyDiff tier d : StateM Site _) s = (.ok (), ⟨s.disk, m'⟩) := by
    show run (Disk.applyDiff tier d) s = _
    rw [run, Disk.applyDiff_run, h.readTable]
    dsimp only
    rw [hdiff]
    dsimp only
    rw [sorted, hwrite]
    rfl
  refine ⟨d, ⟨s.disk, m'⟩, ?_, hread, ⟨hkeeps, rfl, fun _ => rfl, hothers⟩⟩
  rw [syncTier]
  exact (run_bind_ok (engineCall_of_ok hactive retry tier)).trans
    ((run_bind_ok (engineCall_of_ok happly retry tier)).trans rfl)

theorem FlagsAre.setTierEnabled (h : s.FlagsAre flags) (keeps : s.machine.Keeps paths)
    (hpath : s.disk.enabledPath ∈ paths) (tier : Tier) (enabled : Bool) (retry : RetryPolicy) :
    ∃ s', (Blocklist.setTierEnabled (m := StateM Site) tier enabled retry).run s = (.ok (), s') ∧
      s'.FlagsAre (some ((flags.getD ∅).insert tier.rulesetId enabled)) ∧
      Leaves paths (· = s.disk.enabledPath) s s' := by
  obtain ⟨m', hwrite, hkeeps, hread, hothers⟩ :=
    keeps.write hpath (Disk.Flags.toJson ((flags.getD ∅).insert tier.rulesetId enabled))
  refine ⟨⟨s.disk, m'⟩, engineCall_of_ok ?_ retry tier, hread,
    ⟨hkeeps, rfl, fun _ => rfl, hothers⟩⟩
  show run (Disk.setEnabled tier enabled) s = _
  rw [run, Disk.setEnabled_run, h.readFlags]
  dsimp only
  rw [hwrite]
  rfl

end

/-! ## programs that touch some files at most -/

/-- Wherever it starts with these places, the program touches no other files. -/
def Quiet {α : Type} (paths : List String) (touched : String → Prop) (d : Disk)
    (x : StateM Site α) : Prop :=
  ∀ s : Site, s.machine.Keeps paths → s.disk.reopen = d → Leaves paths touched s (x s).2

section
variable {α β ε : Type} {d : Disk}

theorem quiet_pure (a : α) : Quiet paths touched d (pure a) := fun _ hkeeps _ => .refl hkeeps

theorem Quiet.bind {x : StateM Site α} {f : α → StateM Site β} (hx : Quiet paths touched d x)
    (hf : ∀ a, Quiet paths touched d (f a)) : Quiet paths touched d (x >>= f) := by
  intro s hkeeps hplaces
  have hstep := hx s hkeeps hplaces
  exact hstep.trans (hf (x s).1 (x s).2 hstep.keeps (hstep.places.trans hplaces))

/-- a program that changes nothing -/
theorem quiet_of_same {x : StateM Site α} (h : ∀ s, (x s).2 = s) : Quiet paths touched d x := by
  intro s hkeeps _
  rw [h]
  exact .refl hkeeps

theorem quiet_sleepMs (ms : Nat) : Quiet paths touched d (Sleep.sleepMs ms : StateM Site Unit) :=
  fun _ hkeeps _ => ⟨hkeeps.idle rfl, rfl, fun _ => rfl, fun _ _ _ => rfl⟩

theorem Quiet.runFrom {call : StateM Site (Except ε α)} (h : Quiet paths touched d call)
    (retry : RetryPolicy) (n left : Nat) : Quiet paths touched d (retry.runFrom call n left) := by
  induction left generalizing n with
  | zero =>
    rw [RetryPolicy.runFrom]
    refine h.bind fun answer => ?_
    cases answer <;> exact quiet_pure _
  | succ left ih =>
    rw [RetryPolicy.runFrom]
    refine h.bind fun answer => ?_
    cases answer with
    | ok a => exact quiet_pure _
    | error e => exact (quiet_sleepMs _).bind fun _ => ih (n + 1)

theorem Quiet.engineCall {call : StateM Site (Except EngineError α)}
    (h : Quiet paths touched d call) (retry : RetryPolicy) (tier : Tier) :
    Quiet paths touched d (Blocklist.engineCall retry tier call).run := by
  rw [Blocklist.engineCall, ExceptT.run_mk]
  refine (h.runFrom retry _ _).bind fun answer => ?_
  cases answer <;> exact quiet_pure _

/-! ### refreshes -/

/-- reading the rules of a tier changes nothing -/
theorem readTable_same (tier : Tier) (s : Site) :
    ∃ answer, (Disk.readTable tier : ExceptT IoError SiteM _).run s.disk s.machine =
      ((answer, s.disk), s.machine) := by
  obtain ⟨answer, hread⟩ : ∃ answer, (readJson Rule.listOfJson? (s.disk.rulesetPath tier) :
      StateM Machine _) s.machine = (answer, s.machine) := ⟨_, readJson_run _ _ _⟩
  rw [Disk.readTable_run, hread]
  cases answer with
  | error e => exact ⟨_, rfl⟩
  | ok o => exact ⟨_, rfl⟩

theorem quiet_activeIds (tier : Tier) :
    Quiet paths touched d (RuleEngine.activeIds tier : StateM Site _) := by
  refine quiet_of_same fun s => ?_
  obtain ⟨answer, hread⟩ := readTable_same tier s
  show (run (Disk.activeIds tier) s).2 = s
  rw [run, Disk.activeIds, Disk.asEngine_run, Disk.run_bind, hread]
  cases answer <;> rfl

theorem readText_same (path : String) (m : Machine) :
    ((readText path : StateM Machine _) m).2 = m := by
  have hfile : (FileSystem.readFile path : StateM Machine _) m = (m.tree.read path, m) := rfl
  rw [readText, bind_apply, hfile]
  cases m.tree.read path with
  | error e => rfl
  | ok bytes =>
    dsimp only
    cases String.fromUTF8? bytes <;> rfl

theorem lift_run (x : StateM Machine α) (d : Disk) (m : Machine) :
    (liftM x : SiteM α) d m = (((x m).1, d), (x m).2) := rfl

/-- a request is counted by the machine, and nothing else changes -/
theorem quiet_fetch (url : String) : Quiet paths touched d (Fetcher.fetch url : StateM Site _) := by
  intro s hkeeps _
  show Leaves paths touched s (run (Disk.fetch url) s).2
  rw [run, Disk.fetch]
  cases Text.after? Disk.fileScheme url.toList with
  | none => exact ⟨hkeeps.idle rfl, rfl, fun _ => rfl, fun _ _ _ => rfl⟩
  | some path =>
    have hsame := readText_same (String.ofList path) s.machine
    dsimp only
    rw [Disk.site_bind, lift_run, hsame]
    cases ((readText (String.ofList path) : StateM Machine _) s.machine).1 <;> exact .refl hkeeps

theorem quiet_applyDiff {tier : Tier} (hpath : d.rulesetPath tier ∈ paths)
    (htouched : touched (d.rulesetPath tier)) (diff : RuleDiff) :
    Quiet paths touched d (RuleEngine.applyDiff tier diff : StateM Site _) := by
  intro s hkeeps hplaces
  obtain ⟨answer, hread⟩ := readTable_same tier s
  show Leaves paths touched s (run (Disk.applyDiff tier diff) s).2
  rw [run, Disk.applyDiff_run, hread]
  cases answer with
  | error e => exact .refl hkeeps
  | ok t =>
    dsimp only
    cases t.applyDiff tier diff with
    | error e => exact .refl hkeeps
    | ok t' =>
      have hsame : s.disk.rulesetPath tier = d.rulesetPath tier :=
        (congrArg (fun d : Disk => d.rulesetPath tier) hplaces :)
      obtain ⟨m', hwrite, hkeeps', -, hothers⟩ :=
        hkeeps.write (hsame ▸ hpath) (Rule.listToJson t'.rules)
      dsimp only
      rw [hwrite]
      refine ⟨hkeeps', rfl, fun _ => rfl, fun path hmem hnot => hothers path hmem ?_⟩
      rintro rfl
      exact hnot (hsame ▸ htouched)

theorem quiet_syncTier {tier : Tier} (hpath : d.rulesetPath tier ∈ paths)
    (htouched : touched (d.rulesetPath tier)) (desired : List Rule) (retry : RetryPolicy) :
    Quiet paths touched d (syncTier (m := StateM Site) tier desired retry).run := by
  rw [syncTier, ExceptT.run_bind]
  refine ((quiet_activeIds tier).engineCall retry tier).bind fun answer => ?_
  cases answer with
  | error e => exact quiet_pure _
  | ok active =>
    show Quiet paths touched d (ExceptT.run (_ >>= fun _ => pure _))
    rw [ExceptT.run_bind]
    refine ((quiet_applyDiff hpath htouched _).engineCall retry tier).bind fun answer => ?_
    cases answer <;> exact quiet_pure _

variable (c : Coordinator)

theorem quiet_refreshList (store : RuleStore) {l : StaticList}
    (hpath : d.rulesetPath l.tier ∈ paths) (htouched : touched (d.rulesetPath l.tier))
    (url : String) : Quiet paths touched d (c.refreshList (m := StateM Site) store l url) := by
  rw [Coordinator.refreshList]
  refine (quiet_fetch url).bind fun answer => ?_
  cases answer with
  | error e => exact quiet_pure _
  | ok text =>
    dsimp only
    split
    · exact quiet_pure _
    · split
      · exact quiet_pure _
      · refine (quiet_syncTier hpath htouched _ _).bind fun answer => ?_
        cases answer <;> exact quiet_pure _

theorem quiet_refreshLists (force : Bool) (now : UInt64) {ls : List StaticList}
    (hls : ∀ l ∈ ls, d.rulesetPath l.tier ∈ paths ∧ touched (d.rulesetPath l.tier))
    (store : RuleStore) (report : RefreshReport) :
    Quiet paths touched d (c.refreshLists (m := StateM Site) force now ls store report) := by
  induction ls generalizing store report with
  | nil => exact quiet_pure _
  | cons l ls ih =>
    obtain ⟨⟨hpath, htouched⟩, hls⟩ := List.forall_mem_cons.mp hls
    have hrest : ∀ store report, Quiet paths touched d
        (c.refreshLists (m := StateM Site) force now ls store report >>= fun pass =>
          pure (l :: pass.1, pass.2)) :=
      fun store report => (ih hls store report).bind fun _ => quiet_pure _
    rw [Coordinator.refreshLists]
    split
    · exact hrest _ _
    · dsimp only
      split
      · exact hrest _ _
      · refine (quiet_refreshList c store hpath htouched _).bind fun answer => ?_
        obtain ⟨_ | _, _⟩ := answer
        · exact (ih hls _ _).bind fun _ => quiet_pure _
        · exact (ih hls _ _).bind fun _ => quiet_pure _

end

end Site

end Blocklist
