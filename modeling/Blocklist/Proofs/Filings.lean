import Blocklist.Proofs.KeptSites

/-!
# What the files of a blocker say

The files of a configuration are the state file, the file of the flags and one file of rules for
each tier. Where they have different names, what they say is changed by one write at a time.

* `SyncConfig.files`, `SyncConfig.FilesApart`   these files, and that their names are different;
* `Filing`                                      what they say;
* `Site.Says`                                   a site where they say it;
* `Site.Says.load`, `Site.Says.save`, `Site.Says.turn`, `Site.Says.sync`   each use of them.
-/

namespace Blocklist

/-! ## the files of a configuration -/

namespace SyncConfig

variable {config : SyncConfig} {d : Disk}

/-- the state file, the file of the flags and those of the rulesets -/
def files (config : SyncConfig) (d : Disk) : List String :=
  d.stateFile :: d.enabledPath :: config.tiers.map d.rulesetPath

/-- no two of them are the same -/
structure FilesApart (config : SyncConfig) (d : Disk) : Prop where
  flags : d.enabledPath ≠ d.stateFile
  state : ∀ tier ∈ config.tiers, d.rulesetPath tier ≠ d.stateFile
  rulesets : ∀ tier ∈ config.tiers, d.rulesetPath tier ≠ d.enabledPath
  tiers : ∀ a ∈ config.tiers, ∀ b ∈ config.tiers, d.rulesetPath a = d.rulesetPath b → a = b

theorem mem_files_state : d.stateFile ∈ config.files d := List.mem_cons_self

theorem mem_files_flags : d.enabledPath ∈ config.files d :=
  List.mem_cons_of_mem _ List.mem_cons_self

theorem mem_files_tier {tier : Tier} (h : tier ∈ config.tiers) :
    d.rulesetPath tier ∈ config.files d :=
  List.mem_cons_of_mem _ (List.mem_cons_of_mem _ (List.mem_map_of_mem h))

theorem mem_tiers_of_list {l : ListConfig} (h : l ∈ config.lists) : l.tier ∈ config.tiers :=
  mem_tiers_iff.mpr (.inl ⟨l, h, rfl⟩)

theorem mem_tiers_of_not_static (config : SyncConfig) {tier : Tier} (h : tier.isStatic = false) :
    tier ∈ config.tiers := by
  cases tier with
  | static list => cases h
  | dynamic => exact mem_tiers_iff.mpr (.inr (.inl rfl))
  | session => exact mem_tiers_iff.mpr (.inr (.inr rfl))

/-- ids that are plain names have files of their own -/
theorem filesApart_of_plain (hvalid : config.validate = .ok ())
    (plain : ∀ l ∈ config.lists, '/' ∉ l.id.toList ∧ l.id ≠ "enabled")
    (state : d.stateFile ∉ d.enabledPath :: config.tiers.map d.rulesetPath) :
    config.FilesApart d := by
  have relative : ∀ tier ∈ config.tiers, Path.isAbsolute tier.rulesetId = false := by
    intro tier htier
    rcases mem_tiers_iff.mp htier with ⟨l, hl, rfl⟩ | rfl | rfl
    · have hslash := (plain l hl).1
      show decide (l.id.toList.head? = some '/') = false
      exact decide_eq_false fun hhead => hslash (List.mem_of_mem_head? hhead)
    · rfl
    · rfl
  have hstate : ∀ path ∈ d.enabledPath :: config.tiers.map d.rulesetPath, path ≠ d.stateFile :=
    fun path hpath heq => state (heq ▸ hpath)
  refine ⟨hstate _ List.mem_cons_self,
    fun tier htier => hstate _ (List.mem_cons_of_mem _ (List.mem_map_of_mem htier)),
    fun tier htier heq => ?_, fun a ha b hb heq => ?_⟩
  · rw [Disk.rulesetPath_eq, Disk.enabledPath_eq_pathIn,
      Disk.pathIn_inj d (relative tier htier) rfl, rulesetId_eq_enabled_iff] at heq
    rcases mem_tiers_iff.mp htier with ⟨l, hl, rfl⟩ | rfl | rfl
    · exact (plain l hl).2 (Tier.static.inj heq)
    · cases heq
    · cases heq
  · rw [Disk.rulesetPath_eq, Disk.rulesetPath_eq,
      Disk.pathIn_inj d (relative a ha) (relative b hb)] at heq
    exact eq_of_rulesetId hvalid ha hb heq

end SyncConfig

/-! ## what the files say -/

/-- What the files of a blocker say: the saved items, and the rules and the flags as far as there
are files. Of the rules of static lists nothing is said. -/
structure Filing where
  items : Items := ∅
  rules : Tier → Option (List Rule) := fun _ => none
  flags : Option Disk.Flags := none

/-- after items were saved -/
def Filing.save (f : Filing) (new : Items) : Filing := { f with items := f.items.update new }

/-- after the rules of a tier were written -/
def Filing.put (f : Filing) (tier : Tier) (rules : List Rule) : Filing :=
  { f with rules := fun tier' => if tier' = tier then some rules else f.rules tier' }

/-- after a tier was turned on or off -/
def Filing.turn (f : Filing) (tier : Tier) (enabled : Bool) : Filing :=
  { f with flags := some ((f.flags.getD ∅).insert tier.rulesetId enabled) }

/-- The machine keeps the files of a configuration, and this is what they say. -/
structure Site.Says (config : SyncConfig) (d : Disk) (s : Site) (f : Filing) : Prop where
  places : s.disk.reopen = d
  keeps : s.machine.Keeps (config.files d)
  stores : s.Stores f.items
  rules : ∀ tier, tier.isStatic = false → s.RulesetIs tier (f.rules tier)
  flags : s.FlagsAre f.flags

namespace Site.Says

variable {config : SyncConfig} {d : Disk} {s s' : Site} {f : Filing}

/-- there are no files yet -/
theorem of_none {m : Machine} (hd : d.items = none) (keeps : m.Keeps (config.files d))
    (none : ∀ path ∈ config.files d, m.tree.read path = .error .notFound) :
    (⟨d, m⟩ : Site).Says config d {} where
  places := by rw [Disk.reopen, ← hd]
  keeps := keeps
  stores := ⟨.inl ⟨none _ SyncConfig.mem_files_state, rfl⟩, .empty, .inl hd⟩
  rules tier htier :=
    none _ (SyncConfig.mem_files_tier (SyncConfig.mem_tiers_of_not_static config htier))
  flags := none _ SyncConfig.mem_files_flags

theorem load (h : s.Says config d f) (keys : List String) :
    ∃ s', (KeyValueStore.load keys : StateM Site _) s = (.ok (f.items.pick keys), s') ∧
      s'.Says config d f :=
  ⟨_, h.stores.load keys, h.places, h.keeps, h.stores.opened, h.rules, h.flags⟩

section
variable (apart : config.FilesApart d) (h : s.Says config d f)
include apart h

theorem save {new : Items} (hnew : new.Settled) :
    ∃ s', Blocker.saving new s = (.ok (), s') ∧ s'.Says config d (f.save new) := by
  obtain rfl := h.places
  obtain ⟨s', hsave, hstores, step⟩ := h.stores.save h.keeps SyncConfig.mem_files_state hnew
  refine ⟨s', hsave, step.places, step.keeps, hstores, fun tier htier => ?_, ?_⟩
  · have hmem := SyncConfig.mem_tiers_of_not_static config htier
    exact (h.rules tier htier).leaves step (SyncConfig.mem_files_tier hmem) (apart.state tier hmem)
  · exact h.flags.leaves step SyncConfig.mem_files_flags apart.flags

theorem turn (tier : Tier) (enabled : Bool) (retry : RetryPolicy) :
    ∃ s', (setTierEnabled (m := StateM Site) tier enabled retry).run s = (.ok (), s') ∧
      s'.Says config d (f.turn tier enabled) := by
  obtain rfl := h.places
  obtain ⟨s', hturn, hflags, step⟩ :=
    h.flags.setTierEnabled h.keeps SyncConfig.mem_files_flags tier enabled retry
  refine ⟨s', hturn, step.places, step.keeps, ?_, fun tier htier => ?_, hflags⟩
  · exact h.stores.leaves step SyncConfig.mem_files_state apart.flags.symm
  · have hmem := SyncConfig.mem_tiers_of_not_static config htier
    exact (h.rules tier htier).leaves step (SyncConfig.mem_files_tier hmem)
      (apart.rulesets tier hmem)

/-- A tier of which only rules that are ours were written is brought in line. -/
theorem sync {b : Blocker} (sound : b.store.Sound) {tier : Tier} (htier : tier.isStatic = false)
    (scope : ∀ r ∈ (f.rules tier).getD [], tier.inScope r.id = true) :
    ∃ diff s', Blocker.syncing tier b s = (.ok diff, s') ∧
      s'.Says config d (f.put tier (b.store.rules tier)) := by
  obtain rfl := h.places
  have hmem := SyncConfig.mem_tiers_of_not_static config htier
  obtain ⟨diff, s', hsync, hrules, step⟩ := (h.rules tier htier).sync scope h.keeps
    (SyncConfig.mem_files_tier hmem) (sound.takes tier)
    (RuleTable.rules_insertAll_of_sorted (sound tier).keyed.sorted_rules) b.config.retry
  refine ⟨diff, s', hsync, step.places, step.keeps, ?_, fun tier' htier' => ?_, ?_⟩
  · exact h.stores.leaves step SyncConfig.mem_files_state (apart.state tier hmem).symm
  · have hmem' := SyncConfig.mem_tiers_of_not_static config htier'
    rw [Filing.put]
    dsimp only
    split
    · next heq =>
      rw [heq]
      exact hrules
    · next hne =>
      exact (h.rules tier' htier').leaves step (SyncConfig.mem_files_tier hmem')
        fun heq => hne (apart.tiers tier' hmem' tier hmem heq)
  · exact h.flags.leaves step SyncConfig.mem_files_flags (apart.rulesets tier hmem).symm

/-- no files were touched but those of static lists -/
theorem leaves (step : Leaves (config.files d)
      (fun path => ∃ l ∈ config.lists, path = d.rulesetPath l.tier) s s') :
    s'.Says config d f := by
  obtain rfl := h.places
  refine ⟨step.places, step.keeps, h.stores.leaves step SyncConfig.mem_files_state ?_,
    fun tier htier => ?_, h.flags.leaves step SyncConfig.mem_files_flags ?_⟩
  · rintro ⟨l, hl, heq⟩
    exact apart.state _ (SyncConfig.mem_tiers_of_list hl) heq.symm
  · have hmem := SyncConfig.mem_tiers_of_not_static config htier
    refine (h.rules tier htier).leaves step (SyncConfig.mem_files_tier hmem) ?_
    rintro ⟨l, hl, heq⟩
    rw [apart.tiers tier hmem _ (SyncConfig.mem_tiers_of_list hl) heq] at htier
    cases htier
  · rintro ⟨l, hl, heq⟩
    exact apart.rulesets _ (SyncConfig.mem_tiers_of_list hl) heq.symm

end

/-- where nothing has been read yet -/
theorem reopen (h : s.Says config d f) : (⟨d, s.machine⟩ : Site).Says config d f := by
  obtain rfl := h.places
  exact ⟨rfl, h.keeps, ⟨h.stores.holds, h.stores.settled, .inl rfl⟩, h.rules, h.flags⟩

end Site.Says

end Blocklist
