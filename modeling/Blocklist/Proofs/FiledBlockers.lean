import Blocklist.Proofs.FiledLists

/-!
# Blockers in files

A new blocker takes over what the files of the last one say, and after every operation on it they
say what it is: no operation fails but for reasons of its own, and one that fails leaves no file
behind that says more than the others.

* `Blocker.Recorded`            saved values that determine a blocker, and are its own as they are;
* `Blocker.Filed`               what the files say of a blocker;
* `Blocker.Filed.ending`        an operation preserves it;
* `Blocker.Resumable`           files from which a blocker can start;
* `Blocker.Resumable.restore`   it starts, and the files say what it is.
-/

namespace Blocklist.Blocker

open Blocker.Action

variable {config : SyncConfig} {d : Disk} {b b' : Blocker} {s s' : Site} {f : Filing}
  {items : Items}

/-! ## saved values -/

/-- The saved values determine the blocker, and they are its filters and its whitelist as they
are. -/
structure Recorded (config : SyncConfig) (items : Items) (b : Blocker) : Prop
    extends Durable config items b where
  savedFilters : Saved.customFilters items = b.customFilters
  savedWhitelist : Saved.whitelist items = b.whitelist

theorem recorded_ofConfig (hvalid : config.validate = .ok ()) :
    Recorded config ∅ (ofConfig config) :=
  ⟨durable_ofConfig hvalid, rfl, rfl⟩

namespace Recorded

variable (h : Recorded config items b)
include h

theorem of_store {store : RuleStore} (coherent : Coherent config { b with store := store }) :
    Recorded config items { b with store := store } :=
  ⟨h.toDurable.of_store coherent, h.savedFilters, h.savedWhitelist⟩

theorem of_filters {store : RuleStore} {filters : List CustomFilter}
    (coherent : Coherent config { b with store := store, customFilters := filters }) :
    Recorded config (items.update (filterItems filters))
      { b with store := store, customFilters := filters } where
  toDurable := h.toDurable.of_filters coherent
  savedFilters := Saved.customFilters_update items filters
  savedWhitelist := by
    rw [Saved.whitelist_of_none (filterItems_of_ne (by decide) filters)]
    exact h.savedWhitelist

theorem of_whitelist {store : RuleStore} {domains : List String}
    (coherent : Coherent config { b with store := store, whitelist := domains }) :
    Recorded config (items.update (whitelistItems domains))
      { b with store := store, whitelist := domains } where
  toDurable := h.toDurable.of_whitelist coherent
  savedFilters := by
    rw [Saved.customFilters_of_none (whitelistItems_of_ne (by decide) domains)]
    exact h.savedFilters
  savedWhitelist := Saved.whitelist_update items domains

theorem of_lists {store : RuleStore} {c : Coordinator}
    (coherent : Coherent config { b with store := store, coordinator := c })
    (keeps : b.coordinator.Keeps c) :
    Recorded config (items.update c.items) { b with store := store, coordinator := c } where
  toDurable := h.toDurable.of_lists coherent keeps
  savedFilters := by
    rw [Saved.customFilters_of_none (c.items_of_ne (by decide) (by decide))]
    exact h.savedFilters
  savedWhitelist := by
    rw [Saved.whitelist_of_none (c.items_of_ne (by decide) (by decide))]
    exact h.savedWhitelist

theorem of_enabled {c : Coordinator} (keeps : b.coordinator.Keeps c)
    (lists : c.lists = b.coordinator.lists) (enabled : Bool) :
    Recorded config (items.update (enabledItems enabled))
      { b with coordinator := c, enabled := enabled } where
  toDurable := h.toDurable.of_enabled keeps lists enabled
  savedFilters := by
    rw [Saved.customFilters_of_none (enabledItems_of_ne (by decide) enabled)]
    exact h.savedFilters
  savedWhitelist := by
    rw [Saved.whitelist_of_none (enabledItems_of_ne (by decide) enabled)]
    exact h.savedWhitelist

end Recorded

/-! ## what the files say of a blocker -/

/-- The files say what the blocker is: saved are its filters, its whitelist and the states of its
lists, its rules are those of the rulesets, and the flags are on for what is on. -/
structure Filed (config : SyncConfig) (b : Blocker) (f : Filing) : Prop where
  recorded : Recorded config f.items b
  rules : ∀ tier, tier.isStatic = false → f.rules tier = some (b.store.rules tier)
  suspended : b.coordinator.suspended = !b.enabled
  filters : f.flag? Tier.dynamic.rulesetId = some b.enabled
  lists : ∀ l ∈ b.coordinator.lists, f.flag? l.id = some (l.enabled && b.enabled)

/-- the lists are those that are configured -/
theorem Recorded.ids (h : Recorded config items b) :
    b.coordinator.lists.map StaticList.id = config.lists.map ListConfig.id := by
  rw [h.keeps.ids, Coordinator.ids_new]

theorem Recorded.id_ne_filters (h : Recorded config items b) {l : StaticList}
    (hl : l ∈ b.coordinator.lists) : Tier.dynamic.rulesetId ≠ l.id := by
  have hid : l.id ∈ config.lists.map ListConfig.id := h.ids ▸ List.mem_map_of_mem hl
  obtain ⟨l', hl', hid⟩ := List.mem_map.mp hid
  rw [← hid]
  exact (SyncConfig.id_ne_rulesetId h.valid hl').1.symm

/-- The flags were turned on and off as the blocker has it. -/
theorem Recorded.filed_switch (h : Recorded config f.items b)
    (rules : ∀ tier, tier.isStatic = false → f.rules tier = some (b.store.rules tier))
    (suspended : b.coordinator.suspended = !b.enabled) :
    Filed config b ((f.turnAll (!b.enabled) b.coordinator.lists).turn .dynamic b.enabled) where
  recorded := by
    rw [Filing.turn, (f.turnAll_same _ _).1]
    exact h
  rules tier htier := by
    rw [Filing.turn, (f.turnAll_same _ _).2]
    exact rules tier htier
  suspended := suspended
  filters := by rw [Filing.flag?_turn, if_pos rfl]
  lists l hl := by
    rw [Filing.flag?_turn, if_neg (h.id_ne_filters hl), Filing.flag?_turnAll h.nodup hl,
      Bool.not_not]

namespace Filed

variable (h : Filed config b f)
include h

theorem scope {tier : Tier} (htier : tier.isStatic = false) :
    ∀ r ∈ (f.rules tier).getD [], tier.inScope r.id = true := by
  rw [h.rules tier htier]
  exact (h.recorded.coherent.sound.takes tier).scope

/-- neither the flags nor any rules but those of static lists have changed -/
theorem of_same {f' : Filing} {store : RuleStore} {c : Coordinator} (rules' : f'.rules = f.rules)
    (flags' : f'.flags = f.flags)
    (recorded : Recorded config f'.items { b with store := store, coordinator := c })
    (tables : ∀ tier, tier.isStatic = false → store.table tier = b.store.table tier)
    (suspended : c.suspended = b.coordinator.suspended)
    (flags : (c.lists.map fun l => (l.id, l.enabled)) =
      b.coordinator.lists.map fun l => (l.id, l.enabled)) :
    Filed config { b with store := store, coordinator := c } f' where
  recorded := recorded
  rules tier htier := by
    rw [rules', RuleStore.rules, tables tier htier]
    exact h.rules tier htier
  suspended := suspended.trans h.suspended
  filters := by
    rw [Filing.flag?, flags']
    exact h.filters
  lists l hl := by
    have hmem : (l.id, l.enabled) ∈ b.coordinator.lists.map fun l => (l.id, l.enabled) :=
      flags ▸ List.mem_map_of_mem (f := fun l => (l.id, l.enabled)) hl
    obtain ⟨l₁, hl₁, heq⟩ := List.mem_map.mp hmem
    obtain ⟨hid, henabled⟩ := Prod.mk.inj heq
    rw [Filing.flag?, flags', ← hid, ← henabled]
    exact h.lists l₁ hl₁

/-- the rules of one tier have changed, and something was saved -/
theorem of_put {new : Items} {tier : Tier} {t : RuleTable}
    (recorded : Recorded config (f.items.update new) b') (store : b.store.Puts tier t b'.store)
    (coordinator : b'.coordinator = b.coordinator) (enabled : b'.enabled = b.enabled) :
    Filed config b' ((f.save new).put tier (b'.store.rules tier)) where
  recorded := recorded
  rules tier' htier' := by
    show (if tier' = tier then some (b'.store.rules tier) else f.rules tier') = _
    split
    · next heq => rw [heq]
    · next hne =>
      rw [h.rules tier' htier', RuleStore.rules, RuleStore.rules,
        store.table_of_ne tier' fun heq => hne heq.symm]
  suspended := by rw [coordinator, enabled, h.suspended]
  filters := by
    rw [enabled]
    exact h.filters
  lists := by
    rw [coordinator, enabled]
    exact h.lists

/-- a list was turned on or off, in the engine too unless all are suspended -/
theorem of_list {list : String} {enabled : Bool} {l : StaticList} {f₁ : Filing}
    (found : b.coordinator.list? list = some l)
    (turned : b.coordinator.suspended = true ∧ f₁ = f ∨
      b.coordinator.suspended = false ∧ f₁ = f.turn l.tier enabled) :
    Filed config { b with coordinator := b.coordinator.withEnabled list enabled }
      (f₁.save (b.coordinator.withEnabled list enabled).items) := by
  have hid : l.id = list := of_decide_eq_true (List.find?_some found :)
  have hl : l ∈ b.coordinator.lists := List.mem_of_find?_eq_some found
  -- while all lists are suspended, the flag is off already and stays so
  have hflag : ∀ id, f₁.flag? id =
      if l.id = id then some (enabled && b.enabled) else f.flag? id := by
    intro id
    rcases turned with ⟨hsuspended, rfl⟩ | ⟨hsuspended, rfl⟩
    · have hoff : b.enabled = false := by
        rw [h.suspended] at hsuspended
        exact Bool.not_eq_true' _ ▸ hsuspended
      rw [hoff, Bool.and_false]
      split
      · next heq => rw [← heq, h.lists l hl, hoff, Bool.and_false]
      · rfl
    · have hon : b.enabled = true := by
        rw [h.suspended] at hsuspended
        exact Bool.not_eq_false' _ ▸ hsuspended
      rw [Filing.flag?_turn, hon, Bool.and_true]
      rfl
  have hsame : f₁.items = f.items ∧ f₁.rules = f.rules := by
    rcases turned with ⟨-, rfl⟩ | ⟨-, rfl⟩ <;> exact ⟨rfl, rfl⟩
  have keeps := Coordinator.keeps_withEnabled b.coordinator list enabled
  refine ⟨?_, ?_, h.suspended, ?_, fun l' hl' => ?_⟩
  · rw [Filing.save, hsame.1]
    exact h.recorded.of_lists (h.recorded.coherent.of_coordinator _) keeps
  · rw [Filing.save, hsame.2]
    exact h.rules
  · show f₁.flag? _ = _
    rw [hflag, if_neg (h.recorded.id_ne_filters hl).symm, h.filters]
  · show f₁.flag? _ = _
    rw [hflag, hid]
    rcases Coordinator.mem_lists_withEnabled_cases h.recorded.nodup hl' with
      ⟨heq, henabled⟩ | ⟨hne, hmem⟩
    · rw [if_pos heq.symm, henabled]
    · rw [if_neg (Ne.symm hne), h.lists l' hmem]

end Filed

/-! ## operations -/

section
variable (apart : config.FilesApart d) (files : s.Says config d f)
include apart files

theorem filing_of_saving {new : Items} (hnew : new.Settled) (saved : saving new s = (.ok (), s')) :
    s'.Says config d (f.save new) := by
  obtain ⟨s₁, hsave, files₁⟩ := files.save apart hnew
  rw [saved] at hsave
  cases hsave
  exact files₁

theorem saving_ne_error {new : Items} (hnew : new.Settled) {e : StorageError} :
    saving new s ≠ (.error e, s') := by
  obtain ⟨s₁, hsave, -⟩ := files.save apart hnew
  rw [hsave]
  nofun

/-- What was saved is made: the tier is brought in line with the blocker. -/
theorem syncing_of_saved {new : Items} (hnew : new.Settled) (saved : saving new s = (.ok (), s'))
    (sound : b.store.Sound) {tier : Tier} (htier : tier.isStatic = false)
    (scope : ∀ r ∈ (f.rules tier).getD [], tier.inScope r.id = true) :
    ∃ diff s₁, syncing tier b s' = (.ok diff, s₁) ∧
      s₁.Says config d ((f.save new).put tier (b.store.rules tier)) :=
  (filing_of_saving apart files hnew saved).sync apart sound htier scope

/-- whitelists that fit are made -/
theorem Whitelisting.filing {domains : List String} {answer : Except SyncError Unit}
    (change : Whitelisting domains b s answer b' s') (sound : b.store.Sound)
    (scope : ∀ r ∈ (f.rules .session).getD [], Tier.session.inScope r.id = true)
    (fits : (Whitelist.rules domains).length ≤ b.store.capacity .session) :
    answer = .ok () ∧ ∃ store, b' = { b with store := store, whitelist := domains } ∧
      b.store.Puts .session (RuleTable.insertAll ∅ (Whitelist.rules domains)) store ∧
      s'.Says config d ((f.save (whitelistItems domains)).put .session (store.rules .session)) := by
  cases change with
  | full hfull => exact absurd fits (Nat.not_le.mpr hfull)
  | unsaved failed => exact absurd failed (saving_ne_error apart files (settled_whitelistItems _))
  | @made store b' s₁ fits saved puts sound' made =>
    have hsound : b'.store.Sound := by
      rw [made]
      exact sound' sound
    obtain ⟨diff, s₂, hsync, files'⟩ :=
      syncing_of_saved apart files (settled_whitelistItems domains) saved hsound rfl scope
    rw [hsync]
    subst made
    exact ⟨rfl, store, rfl, puts, files'⟩

/-- everything is turned on or off -/
theorem Switching.filing {enabled : Bool} {answer : Except SyncError Unit}
    (change : Switching enabled b s answer b' s') :
    answer = .ok () ∧
      b' = { b with
        coordinator := { b.coordinator with suspended := !enabled }, enabled := enabled } ∧
      s'.Says config d ((f.turnAll (!enabled) b.coordinator.lists).turn .dynamic enabled) := by
  obtain ⟨s₁, hlists, files₁⟩ := files.setSuspended b.coordinator apart (!enabled)
  obtain ⟨s₂, hfilters, files₂⟩ := files₁.turn apart .dynamic enabled b.config.retry
  cases change with
  | lists failed =>
    rw [hlists] at failed
    cases failed
  | filters lists failed =>
    rw [hlists] at lists
    cases lists
    rw [hfilters] at failed
    cases failed
  | made lists filters =>
    rw [hlists] at lists
    cases lists
    rw [hfilters] at filters
    cases filters
    exact ⟨rfl, rfl, files₂⟩

variable (h : Filed config b f)
include h

theorem Filed.addition {text : String} {answer : Except SyncError RuleId}
    (change : Addition text b s answer b' s') :
    ∃ f', s'.Says config d f' ∧ Filed config b' f' := by
  have coherent := h.recorded.coherent.addition change
  cases change with
  | @refused e store puts =>
    refine ⟨f, files, h.of_same rfl rfl (h.recorded.of_store coherent) (fun tier _ => ?_) rfl rfl⟩
    by_cases heq : Tier.dynamic = tier
    · rw [← heq]
      exact puts.table
    · exact puts.table_of_ne tier heq
  | unsaved failed => exact absurd failed (saving_ne_error apart files (settled_filterItems _))
  | @made id r store b' s₁ accepted fresh admits puts saved made =>
    obtain ⟨diff, s₂, hsync, files'⟩ := syncing_of_saved apart files (settled_filterItems _) saved
      coherent.sound (rfl : Tier.dynamic.isStatic = false) (h.scope rfl)
    rw [hsync]
    subst made
    exact ⟨_, files', h.of_put (h.recorded.of_filters coherent) puts rfl rfl⟩

theorem Filed.removal {id : RuleId} {answer : Except SyncError CustomFilter}
    (change : Removal id b s answer b' s') :
    ∃ f', s'.Says config d f' ∧ Filed config b' f' := by
  have coherent := h.recorded.coherent.removal change
  cases change with
  | unknown => exact ⟨f, files, h⟩
  | unsaved failed => exact absurd failed (saving_ne_error apart files (settled_filterItems _))
  | @made c filters b' s₁ without saved made =>
    obtain ⟨diff, s₂, hsync, files'⟩ := syncing_of_saved apart files (settled_filterItems _) saved
      coherent.sound (rfl : Tier.dynamic.isStatic = false) (h.scope rfl)
    rw [hsync]
    subst made
    exact ⟨_, files', h.of_put (h.recorded.of_filters coherent)
      (RuleStore.puts_remove b.store .dynamic id) rfl rfl⟩

theorem Filed.whitelistChange {α : Type} {answer : Except SyncError α}
    (change : WhitelistChange b s answer b' s') :
    ∃ f', s'.Says config d f' ∧ Filed config b' f' := by
  have coherent := h.recorded.coherent.whitelistChange change
  cases change with
  | invalid => exact ⟨f, files, h⟩
  | @applied domains answer b' s' a normal change =>
    by_cases fits : (Whitelist.rules domains).length ≤ b.store.capacity .session
    · obtain ⟨-, store, rfl, puts, files'⟩ :=
        change.filing apart files h.recorded.coherent.sound (h.scope rfl) fits
      exact ⟨_, files', h.of_put (h.recorded.of_whitelist coherent) puts rfl rfl⟩
    · cases change with
      | full hfull => exact ⟨f, files, h⟩
      | unsaved failed =>
        exact absurd failed (saving_ne_error apart files (settled_whitelistItems _))
      | made fits' => exact absurd fits' fits

theorem Filed.list {list : String} {enabled : Bool} {answer : Except SyncError Unit}
    {c : Coordinator}
    (hrun : b.coordinator.setListEnabled (m := StateM Site) list enabled s = ((answer, c), s')) :
    ∃ f', s'.Says config d f' ∧ Filed config { b with coordinator := c } f' := by
  rcases files.setListEnabled b.coordinator apart list enabled with
    ⟨e, hrun'⟩ | ⟨l, f₁, s₁, found, turned, hrun', files₁⟩
  · rw [hrun] at hrun'
    cases hrun'
    exact ⟨f, files, h⟩
  · rw [hrun] at hrun'
    cases hrun'
    exact ⟨_, files₁, h.of_list found turned⟩

theorem Filed.switched {enabled : Bool} {answer : Except SyncError Unit} {s₁ : Site}
    (saved : saving (enabledItems enabled) s = (.ok (), s₁))
    (change : Switching enabled b s₁ answer b' s') :
    ∃ f', s'.Says config d f' ∧ Filed config b' f' := by
  have files₁ := filing_of_saving apart files (settled_enabledItems enabled) saved
  obtain ⟨-, rfl, files'⟩ := change.filing apart files₁
  refine ⟨_, files', Recorded.filed_switch ?_ h.rules rfl⟩
  exact h.recorded.of_enabled (c := { b.coordinator with suspended := !enabled }) ⟨rfl, rfl, rfl⟩
    rfl enabled

theorem Filed.refreshed {force : Bool} {report : RefreshReport} {c : Coordinator}
    {store : RuleStore}
    (hrun : b.coordinator.refresh (m := StateM Site) b.store force s = ((report, c, store), s')) :
    ∃ f', s'.Says config d f' ∧
      Filed config { b with coordinator := c, store := store } f' := by
  have coherent := h.recorded.coherent.refreshed hrun
  have others := b.coordinator.refresh_onlyStatic b.store force s
  obtain ⟨report', ls, store', s₁, f', hrun', files', ⟨r, refreshed⟩, hf⟩ :=
    files.refresh b.coordinator apart h.recorded.ids b.store force
  rw [hrun] at hrun' others
  cases hrun'
  refine ⟨f', files', ?_⟩
  rcases hf with ⟨rfl, rfl⟩ | rfl
  · exact h.of_same rfl rfl (h.recorded.of_store coherent) others.table rfl refreshed.flags
  · exact h.of_same rfl rfl (h.recorded.of_lists coherent ⟨refreshed.origins, rfl, rfl⟩)
      others.table rfl refreshed.flags

/-- After an operation the files say what the blocker is, whatever the answer. -/
theorem Filed.ending {op : Operation} (ending : Ending b s op b' s') :
    ∃ f', s'.Says config d f' ∧ Filed config b' f' := by
  cases ending with
  | addition change => exact h.addition apart files change
  | removal change => exact h.removal apart files change
  | recomputed change => exact h.whitelistChange apart files change
  | toggled change => exact h.whitelistChange apart files change
  | list hrun => exact h.list apart files hrun
  | unsaved failed => exact absurd failed (saving_ne_error apart files (settled_enabledItems _))
  | switched saved hrun change => exact h.switched apart files saved change
  | refreshed hrun => exact h.refreshed apart files hrun

end

/-! ## start -/

theorem Recorded.of_same_state {b₀ : Blocker} (h : Recorded config items b₀)
    (coherent : Coherent config b) (keeps : (Coordinator.new config).Keeps b.coordinator)
    (filters : b.customFilters = b₀.customFilters) (whitelist : b.whitelist = b₀.whitelist)
    (enabled : b.enabled = b₀.enabled) (lists : b.coordinator.lists = b₀.coordinator.lists) :
    Recorded config items b where
  valid := h.valid
  coherent := coherent
  keeps := keeps
  filters := h.filters.trans filters.symm
  whitelist := h.toDurable.whitelist.trans whitelist.symm
  enabled := h.toDurable.enabled.trans enabled.symm
  lists := h.toDurable.lists.trans lists.symm
  savedFilters := h.savedFilters.trans filters.symm
  savedWhitelist := h.savedWhitelist.trans whitelist.symm

/-- what is saved determines a blocker, and the rulesets hold rules of ours only -/
structure Resumable (config : SyncConfig) (f : Filing) : Prop where
  recorded : ∃ b, Recorded config f.items b
  scope : ∀ tier, tier.isStatic = false → ∀ r ∈ (f.rules tier).getD [], tier.inScope r.id = true

theorem Filed.resumable (h : Filed config b f) : Resumable config f :=
  ⟨⟨b, h.recorded⟩, fun _ htier => h.scope htier⟩

/-- there is nothing yet -/
theorem resumable_empty (hvalid : config.validate = .ok ()) : Resumable config {} :=
  ⟨⟨_, recorded_ofConfig hvalid⟩, fun _ _ _ hr => absurd hr List.not_mem_nil⟩

/-- A blocker without filters takes over saved values that it can keep all of. -/
theorem adopt_filing (apart : config.FilesApart d) (files : s.Says config d f)
    (coherent : Coherent config b) (hnone : b.customFilters = [])
    (scope : ∀ tier, tier.isStatic = false →
      ∀ r ∈ (f.rules tier).getD [], tier.inScope r.id = true)
    (kept : (b.store.replay (Saved.customFilters items)).1 = Saved.customFilters items)
    (fits : (Whitelist.rules (Whitelist.normalizeAll (Saved.whitelist items))).length ≤
      b.store.capacity .session) :
    ∃ b' s', (adopt (m := StateM Site) items).on b s = ((.ok (), b'), s') ∧
      Coherent config b' ∧ b'.customFilters = Saved.customFilters items ∧
      b'.whitelist = Whitelist.normalizeAll (Saved.whitelist items) ∧
      b'.enabled = Saved.enabled items ∧
      b'.coordinator = { b.coordinator with suspended := !b'.enabled } ∧
      s'.Says config d (((((f.put .dynamic (b'.store.rules .dynamic)).save
        (whitelistItems b'.whitelist)).put .session (b'.store.rules .session)).turnAll (!b'.enabled)
        b'.coordinator.lists).turn .dynamic b'.enabled) := by
  have coherent₁ := coherent.replayed hnone (Saved.customFilters items)
  have hpruned : pruned (Saved.customFilters items) b s = s := by
    rw [pruned, kept]
    exact if_neg fun hne => hne rfl
  have hreplay := replayCustomFilters_on (Saved.customFilters items) b s
  obtain ⟨diff, s₁, hsync, files₁⟩ :=
    files.sync apart coherent₁.sound (rfl : Tier.dynamic.isStatic = false) (scope .dynamic rfl)
  rw [hpruned, hsync] at hreplay
  obtain ⟨answer, b₂, s₂, hwhitelist, whitelisting⟩ := applyWhitelist_cases
    (Whitelist.normalizeAll (Saved.whitelist items)) (b.replayed (Saved.customFilters items)) s₁
  have coherent₂ := coherent₁.whitelisting (Whitelist.normal_normalizeAll _) whitelisting
  have fits₁ : (Whitelist.rules (Whitelist.normalizeAll (Saved.whitelist items))).length ≤
      (b.replayed (Saved.customFilters items)).store.capacity .session := by
    rw [coherent₁.bounds.capacity_eq, ← coherent.bounds.capacity_eq]
    exact fits
  obtain ⟨rfl, store, rfl, puts, files₂⟩ :=
    whitelisting.filing apart files₁ coherent₁.sound (scope .session rfl) fits₁
  obtain ⟨answer, b₃, s₃, hswitch, switching⟩ := applyEnabled_cases (Saved.enabled items) _ s₂
  have coherent₃ := coherent₂.switching switching
  obtain ⟨rfl, rfl, files₃⟩ := switching.filing apart files₂
  refine ⟨_, s₃, ?_, coherent₃, kept, rfl, rfl, rfl, ?_⟩
  · rw [adopt, on_bind_ok hreplay, on_bind_ok hwhitelist]
    exact hswitch
  · have hrules : (b.replayed (Saved.customFilters items)).store.rules .dynamic =
        store.rules .dynamic := by
      rw [RuleStore.rules, RuleStore.rules, puts.table_of_ne .dynamic (by decide)]
    rw [← hrules]
    exact files₃

/-- A new blocker takes over what the files say, and afterwards they say what it is. -/
theorem Resumable.restore (h : Resumable config f) (apart : config.FilesApart d)
    (files : s.Says config d f) :
    ∃ b' s' f', (Blocker.restore (m := StateM Site)).on (ofConfig config) s =
      ((.ok (), b'), s') ∧ s'.Says config d f' ∧ Filed config b' f' := by
  obtain ⟨b₀, recorded⟩ := h.recorded
  let w : Memory := { store := { items := f.items } }
  have hfilters : Saved.customFilters (savedItems w) = b₀.customFilters :=
    (customFilters_savedItems w).trans recorded.savedFilters
  have hwhitelist : Whitelist.normalizeAll (Saved.whitelist (savedItems w)) = b₀.whitelist := by
    rw [whitelist_savedItems]
    exact recorded.toDurable.whitelist
  have henabled : Saved.enabled (savedItems w) = b₀.enabled :=
    (enabled_savedItems w).trans recorded.toDurable.enabled
  obtain ⟨s₁, hstates, files₁⟩ := files.loadState (Coordinator.new config)
  obtain ⟨s₂, hitems, files₂⟩ :=
    files₁.load [Saved.customFiltersKey, Saved.whitelistKey, Saved.enabledKey]
  have fits := recorded.coherent.fits
  rw [recorded.coherent.bounds.capacity_eq] at fits
  rw [← hwhitelist] at fits
  have kept := recorded.coherent.replay
  rw [← hfilters] at kept
  obtain ⟨b', s', hadopt, coherent, filters, whitelist, enabled, coordinator, files'⟩ :=
    adopt_filing apart files₂ ((coherent_ofConfig config).of_coordinator
      ((Coordinator.new config).withStates (Saved.listStates f.items))) rfl h.scope kept fits
  have keeps : (Coordinator.new config).Keeps b'.coordinator := by
    rw [coordinator]
    exact ((Coordinator.new config).keeps_withStates _).trans ⟨rfl, rfl, rfl⟩
  have recorded' := recorded.of_same_state coherent keeps (filters.trans hfilters)
    (whitelist.trans hwhitelist) (enabled.trans henabled)
    (by rw [coordinator]; exact recorded.toDurable.lists)
  refine ⟨b', s', _, (restore_on hstates hitems).trans hadopt, files',
    Recorded.filed_switch ?_ ?_ ?_⟩
  · exact recorded'.of_whitelist coherent
  · intro tier htier
    cases tier with
    | static list => cases htier
    | dynamic => rfl
    | session => rfl
  · rw [coordinator]

end Blocklist.Blocker
