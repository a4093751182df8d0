import Blocklist.Proofs.RefusedChanges
import Blocklist.Proofs.SecondStart
import Blocklist.Proofs.Toggles

/-!
# The flags of the engine follow the switch

A tier of a list is on if its list is and the switch is; the tier of the custom filters is on if the
switch is; the flag of the whitelist is nobody's business. This holds after a restore and after
every operation, as long as the engine makes each switch it is asked for.

* `Blocker.Switching.ends`        a switch is made as a whole, or the engine has the flags it had;
* `Blocker.SameFlags`             operations that turn nothing on or off;
* `Blocker.FlagsFollow`           the invariant, with a lemma for each kind of operation;
* `Blocker.Obeyed.flags_follow`   it holds in every run in which the engine makes each switch;
* `Blocker.Attained.switch_ends`  what a switch leaves, whatever fails.
-/

namespace Blocklist

/-- a list that was turned on or off, or another list as it was -/
theorem Coordinator.mem_lists_withEnabled_cases {c : Coordinator} {l : StaticList} {id : String}
    {enabled : Bool} (hnd : (c.lists.map StaticList.id).Nodup)
    (h : l ∈ (c.withEnabled id enabled).lists) :
    (l.id = id ∧ l.enabled = enabled) ∨ (l.id ≠ id ∧ l ∈ c.lists) := by
  unfold withEnabled at h
  generalize c.lists = ls at h hnd
  induction ls with
  | nil => cases h
  | cons l₁ ls ih =>
    rw [List.map_cons, List.nodup_cons] at hnd
    rw [List.findIdx_cons] at h
    by_cases hid : l₁.id = id
    · simp only [hid, decide_true, cond_true, List.modify_zero_cons, List.mem_cons] at h
      rcases h with rfl | hl
      · exact .inl ⟨rfl, rfl⟩
      · refine .inr ⟨fun heq => hnd.1 ?_, List.mem_cons_of_mem l₁ hl⟩
        rw [hid, ← heq]
        exact List.mem_map_of_mem hl
    · simp only [hid, decide_false, cond_false, List.modify_succ_cons, List.mem_cons] at h
      rcases h with rfl | hl
      · exact .inr ⟨hid, List.mem_cons_self⟩
      · rcases ih hl hnd.2 with hl | ⟨hne, hl⟩
        · exact .inl hl
        · exact .inr ⟨hne, List.mem_cons_of_mem l₁ hl⟩

/-- the lists and the custom filters turned on or off, and the whitelist left alone -/
structure MemoryEngine.Switched (enabled : Bool) (ls : List StaticList) (e e' : MemoryEngine) :
    Prop where
  lists : ∀ l ∈ ls, e'.isEnabled l.tier = (l.enabled && enabled)
  dynamic : e'.isEnabled .dynamic = enabled
  session : e'.isEnabled .session = e.isEnabled .session

namespace Blocker

variable {config : SyncConfig} {b b' : Blocker} {w w' w₀ : Memory} {e₀ : MemoryEngine}

/-! ## a switch -/

/-- A switch that succeeds turns everything on or off; one that the engine refuses turns nothing. -/
theorem Switching.ends {enabled : Bool} {answer : Except SyncError Unit}
    (change : Switching enabled b w answer b' w')
    (hnd : (b.coordinator.lists.map StaticList.id).Nodup) :
    (answer = .ok () ∧
      b' = { b with
        coordinator := { b.coordinator with suspended := !enabled }, enabled := enabled } ∧
      w.engine.Switched enabled b.coordinator.lists w'.engine) ∨
    ∃ e, answer = .error e ∧ e.FromEngine ∧ b'.enabled = b.enabled ∧
      ∀ tier, w'.engine.isEnabled tier = w.engine.isEnabled tier := by
  cases change with
  | @lists e c w' failed =>
    have kept := Coordinator.kept_of_setSuspended hnd failed
    exact .inr ⟨e, rfl, Coordinator.fromEngine_of_setSuspended failed, rfl, kept.isEnabled⟩
  | @filters e c w₁ w' lists failed =>
    obtain ⟨-, all, hleft⟩ := Coordinator.turned_of_setSuspended hnd lists
    obtain ⟨hpending, kept⟩ := kept_of_setTierEnabled failed
    -- no failure is left after the first list, so there is no list
    have hnone : b.coordinator.lists = [] := by
      by_contra hne
      rw [hleft hne] at hpending
      exact absurd b.config.retry.attempts_pos (Nat.not_lt.mpr hpending)
    refine .inr ⟨e, rfl, fromEngine_of_setTierEnabled failed, rfl, fun tier => ?_⟩
    rw [kept.isEnabled]
    refine all.others tier fun l hl => ?_
    rw [hnone] at hl
    cases hl
  | @made c w₁ w' lists filters =>
    obtain ⟨rfl, all, -⟩ := Coordinator.turned_of_setSuspended hnd lists
    have turned := turned_of_setTierEnabled filters
    refine .inl ⟨rfl, rfl, fun l hl => ?_, turned.self, ?_⟩
    · have hne : l.tier ≠ .dynamic := nofun
      rw [turned.others _ hne, all.lists l hl, Bool.not_not]
    · have hne : Tier.session ≠ .dynamic := nofun
      have hlists : ∀ l ∈ b.coordinator.lists, l.tier ≠ .session := fun _ _ => nofun
      rw [turned.others _ hne, all.others _ hlists]

/-! ## operations that turn nothing on or off -/

theorem disabled_syncing (hs : b.store.Sound) (tier : Tier) (w : Memory) :
    (syncing tier b w).2.engine.disabled = w.engine.disabled := by
  rcases syncing_cases hs tier w with ⟨d, w', hrun, -, synced⟩ | ⟨e, w', hrun, -, kept⟩
  · rw [hrun]
    exact synced.disabled
  · rw [hrun]
    exact kept.disabled

/-- nothing was turned on or off, here or in the engine -/
structure SameFlags (b : Blocker) (w : Memory) (b' : Blocker) (w' : Memory) : Prop where
  flags : b'.coordinator.flags = b.coordinator.flags
  suspended : b'.coordinator.suspended = b.coordinator.suspended
  enabled : b'.enabled = b.enabled
  disabled : w'.engine.disabled = w.engine.disabled

theorem SameFlags.refl (b : Blocker) (w : Memory) : SameFlags b w b w := ⟨rfl, rfl, rfl, rfl⟩

theorem SameFlags.ids (h : SameFlags b w b' w') :
    b'.coordinator.lists.map StaticList.id = b.coordinator.lists.map StaticList.id := by
  have hids := congrArg (List.map Prod.fst) h.flags
  rw [Coordinator.flags, Coordinator.flags, List.map_map, List.map_map] at hids
  exact hids

theorem Addition.sameFlags {text : String} {answer : Except SyncError RuleId}
    (change : Addition text b w answer b' w') (hs : b'.store.Sound) : SameFlags b w b' w' := by
  cases change with
  | refused store => exact ⟨rfl, rfl, rfl, rfl⟩
  | unsaved failed store =>
    refine ⟨rfl, rfl, rfl, ?_⟩
    rw [engine_of_saving failed]
  | made accepted fresh admits store saved made =>
    refine ⟨by rw [made], by rw [made], by rw [made], ?_⟩
    rw [disabled_syncing hs, engine_of_saving saved]

theorem Removal.sameFlags {id : RuleId} {answer : Except SyncError CustomFilter}
    (change : Removal id b w answer b' w') (hs : b'.store.Sound) : SameFlags b w b' w' := by
  cases change with
  | unknown => exact .refl b w
  | unsaved failed =>
    refine ⟨rfl, rfl, rfl, ?_⟩
    rw [engine_of_saving failed]
  | made without saved made =>
    refine ⟨by rw [made], by rw [made], by rw [made], ?_⟩
    rw [disabled_syncing hs, engine_of_saving saved]

theorem Whitelisting.sameFlags {domains : List String} {answer : Except SyncError Unit}
    (change : Whitelisting domains b w answer b' w') (hs : b'.store.Sound) :
    SameFlags b w b' w' := by
  cases change with
  | full hfull => exact .refl b w
  | unsaved failed =>
    refine ⟨rfl, rfl, rfl, ?_⟩
    rw [engine_of_saving failed]
  | made fits saved store sound made =>
    refine ⟨by rw [made], by rw [made], by rw [made], ?_⟩
    rw [disabled_syncing hs, engine_of_saving saved]

theorem WhitelistChange.sameFlags {α : Type} {answer : Except SyncError α}
    (change : WhitelistChange b w answer b' w') (hs : b'.store.Sound) : SameFlags b w b' w' := by
  cases change with
  | invalid => exact .refl b w
  | applied normal change => exact change.sameFlags hs

theorem sameFlags_of_refresh (hs : b.store.Sound) {force : Bool} {r : RefreshReport}
    {c : Coordinator} {s' : RuleStore}
    (hrun : b.coordinator.refresh (m := StateM Memory) b.store force w = ((r, c, s'), w')) :
    SameFlags b w { b with coordinator := c, store := s' } w' := by
  obtain ⟨log, s₁, w₁, hlog, pass, hrefresh⟩ := Coordinator.refresh_run hs b.coordinator force w
  have flags : Coordinator.flags { b.coordinator with lists := log.lists w.clock.nowMs } =
      b.coordinator.flags := Coordinator.flags_of_log hlog rfl
  rw [hrun] at hrefresh
  split at hrefresh
  · cases hrefresh
    exact ⟨flags, rfl, rfl, pass.aside.disabled⟩
  · cases hrefresh
    exact ⟨flags, rfl, rfl, pass.aside.disabled⟩

/-! ## flags that follow -/

/-- Every tier is on that should be: lists that are on while everything is, the custom filters while
everything is, and the whitelist as in `e₀`. -/
structure FlagsFollow (config : SyncConfig) (e₀ : MemoryEngine) (b : Blocker) (e : MemoryEngine) :
    Prop where
  /-- the lists are those that are configured -/
  ids : b.coordinator.lists.map StaticList.id = config.lists.map ListConfig.id
  lists : ∀ l ∈ b.coordinator.lists, e.isEnabled l.tier = (l.enabled && b.enabled)
  dynamic : e.isEnabled .dynamic = b.enabled
  suspended : b.coordinator.suspended = !b.enabled
  session : e.isEnabled .session = e₀.isEnabled .session

namespace FlagsFollow

theorem of_switched {enabled : Bool}
    (ids : b.coordinator.lists.map StaticList.id = config.lists.map ListConfig.id)
    (session : w.engine.isEnabled .session = e₀.isEnabled .session)
    (switched : w.engine.Switched enabled b.coordinator.lists w'.engine) :
    FlagsFollow config e₀ { b with
      coordinator := { b.coordinator with suspended := !enabled }, enabled := enabled }
      w'.engine :=
  ⟨ids, switched.lists, switched.dynamic, rfl, switched.session.trans session⟩

variable (h : FlagsFollow config e₀ b w.engine)
include h

theorem of_same (same : SameFlags b w b' w') : FlagsFollow config e₀ b' w'.engine := by
  have hflag := MemoryEngine.isEnabled_congr same.disabled
  refine ⟨same.ids.trans h.ids, fun l hl => ?_, ?_, ?_, ?_⟩
  · have hmem : (l.id, l.enabled) ∈ b.coordinator.flags :=
      same.flags ▸ List.mem_map_of_mem (f := fun l => (l.id, l.enabled)) hl
    obtain ⟨l₁, hl₁, heq⟩ := List.mem_map.mp hmem
    obtain ⟨hid, henabled⟩ := Prod.mk.inj heq
    have hlist := h.lists l₁ hl₁
    rw [StaticList.tier, hid, henabled] at hlist
    rw [hflag, same.enabled]
    exact hlist
  · rw [hflag, same.enabled, h.dynamic]
  · rw [same.suspended, same.enabled, h.suspended]
  · rw [hflag, h.session]

theorem of_reached {list : String} {enabled : Bool} {l : StaticList}
    (hnd : (b.coordinator.lists.map StaticList.id).Nodup)
    (found : b.coordinator.list? list = some l)
    (reached : b.coordinator.Reached list enabled w.engine w'.engine) :
    FlagsFollow config e₀ { b with coordinator := b.coordinator.withEnabled list enabled }
      w'.engine := by
  have hids := (Coordinator.keeps_withEnabled b.coordinator list enabled).ids
  refine ⟨hids.trans h.ids, fun l' hl' => ?_, ?_, h.suspended, ?_⟩
  · rcases Coordinator.mem_lists_withEnabled_cases hnd hl' with ⟨hid, henabled⟩ | ⟨hne, hl⟩
    · rw [StaticList.tier, hid, henabled, reached.self, h.suspended]
      cases hon : b.enabled with
      | true => exact (Bool.and_true enabled).symm
      | false =>
        -- all lists are off, and this one stays so until the switch is made
        have hoff := h.lists l (List.mem_of_find?_eq_some found)
        rw [Coordinator.tier_of_list? found, hon, Bool.and_false] at hoff
        rw [Bool.and_false]
        exact hoff
    · have hne' : l'.tier ≠ .static list := fun heq => hne (by injection heq)
      rw [reached.others _ hne']
      exact h.lists l' hl
  · have hne : Tier.dynamic ≠ .static list := fun heq => by cases heq
    rw [reached.others _ hne]
    exact h.dynamic
  · have hne : Tier.session ≠ .static list := fun heq => by cases heq
    rw [reached.others _ hne]
    exact h.session

theorem list {list : String} {enabled : Bool} {answer : Except SyncError Unit} {c : Coordinator}
    (hnd : (b.coordinator.lists.map StaticList.id).Nodup)
    (hrun : b.coordinator.setListEnabled (m := StateM Memory) list enabled w =
      ((answer, c), w')) :
    FlagsFollow config e₀ { b with coordinator := c } w'.engine := by
  obtain ⟨answer', c', w₁, hrun', toggle⟩ := b.coordinator.setListEnabled_toggle list enabled w
  rw [hrun] at hrun'
  cases hrun'
  cases toggle with
  | unknown missing => exact h
  | refused found active pending step kept => exact h.of_same ⟨rfl, rfl, rfl, kept.disabled⟩
  | unsaved found reached pending store sources => exact h.of_reached hnd found reached
  | made found reached store sources => exact h.of_reached hnd found reached

/-- every operation, except a switch that the engine refuses -/
theorem ending {op : Operation} (hb : Coherent config b) (hvalid : config.validate = .ok ())
    (ending : Ending b w op b' w')
    (switched : ∀ enabled e, op = .setEnabled enabled →
      ((setEnabled (m := StateM Memory) enabled).on b w).1.1 = .error e → ¬ e.FromEngine) :
    FlagsFollow config e₀ b' w'.engine := by
  have hs' := (hb.ending ending).sound
  have hnd : (b.coordinator.lists.map StaticList.id).Nodup :=
    h.ids ▸ SyncConfig.nodup_ids hvalid
  cases ending with
  | addition change => exact h.of_same (change.sameFlags hs')
  | removal change => exact h.of_same (change.sameFlags hs')
  | recomputed change => exact h.of_same (change.sameFlags hs')
  | toggled change => exact h.of_same (change.sameFlags hs')
  | list hrun => exact h.list hnd hrun
  | unsaved failed hrun =>
    rw [engine_of_saving failed]
    exact h
  | @switched enabled answer b' w₁ w' saved hrun change =>
    rcases change.ends hnd with ⟨-, rfl, made⟩ | ⟨e, hanswer, he, -⟩
    · rw [← engine_of_saving saved] at h
      exact .of_switched h.ids h.session made
    · refine absurd he (switched enabled e rfl ?_)
      rw [hrun]
      exact hanswer
  | refreshed hrun => exact h.of_same (sameFlags_of_refresh hb.sound hrun)

end FlagsFollow

/-! ## runs in which the engine makes each switch -/

/-- taking over saved values ends with a switch that is made -/
theorem Adoption.followed {items : Items} (change : Adoption items b w (.ok ()) b' w')
    (hs : (b.replayed (Saved.customFilters items)).store.Sound)
    (hids : b.coordinator.lists.map StaticList.id = config.lists.map ListConfig.id)
    (hvalid : config.validate = .ok ()) : FlagsFollow config w.engine b' w'.engine := by
  cases change with
  | @switch b₁ b₂ b' d w₁ w₂ w' answer filters synced whitelist switch =>
    subst filters
    have whitelisted := whitelist.whitelisted hs rfl
    have same := whitelist.sameFlags whitelisted.sound
    have hids₂ : b₂.coordinator.lists.map StaticList.id = config.lists.map ListConfig.id :=
      same.ids.trans hids
    have hdisabled : w₂.engine.disabled = w.engine.disabled := by
      have hsync := disabled_syncing hs .dynamic (pruned (Saved.customFilters items) b w)
      rw [synced, engine_pruned] at hsync
      exact same.disabled.trans hsync
    rcases switch.ends (hids₂ ▸ SyncConfig.nodup_ids hvalid) with
      ⟨-, rfl, made⟩ | ⟨e, hanswer, -⟩
    · exact .of_switched hids₂ (MemoryEngine.isEnabled_congr hdisabled .session) made
    · cases hanswer

theorem Started.followed (hvalid : config.validate = .ok ())
    (started : Started (ofConfig config) w b' w') : FlagsFollow config w.engine b' w'.engine := by
  obtain ⟨b₁, w₁, hrestore, hrest⟩ := started.restored
  have restored : FlagsFollow config w.engine b₁ w₁.engine := by
    obtain ⟨answer, b₂, w₂, hadopt, change⟩ :=
      adopt_cases (savedItems w) ((ofConfig config).withSavedStates w) w
    rw [restore_memory, hadopt] at hrestore
    cases hrestore
    refine change.followed
      (((coherent_ofConfig config).of_coordinator _).replayed rfl _).sound ?_ hvalid
    exact ((Coordinator.new config).keeps_withStates _).ids.trans (Coordinator.ids_new config)
  rcases hrest with ⟨rfl, rfl⟩ | ⟨r, c, s', hrun, rfl⟩
  · exact restored
  · have hs := (adopted_of_restore hrestore).sound
    exact restored.of_same (sameFlags_of_refresh hs hrun)

/-- A blocker and the world after a run in which the engine makes each switch: a start that
succeeds, then any operations. Between operations the world may change, apart from the flags of the
engine; in particular writes, fetches and other calls of the engine may fail. -/
inductive Obeyed (config : SyncConfig) (w₀ : Memory) : Blocker → Memory → Prop where
  | start {b b' : Blocker} {w' : Memory} (h : Blocker.new config = .ok b)
      (started : Started b w₀ b' w') : Obeyed config w₀ b' w'
  | step {b : Blocker} {w w₁ : Memory} (h : Obeyed config w₀ b w)
      (meanwhile : w₁.engine.disabled = w.engine.disabled) (op : Operation)
      (switched : ∀ enabled e, op = .setEnabled enabled →
        ((setEnabled (m := StateM Memory) enabled).on b w₁).1.1 = .error e → ¬ e.FromEngine) :
      Obeyed config w₀ (op.run b w₁).1 (op.run b w₁).2

theorem Obeyed.valid (h : Obeyed config w₀ b w) : config.validate = .ok () := by
  induction h with
  | start h started => exact (new_eq_ok_iff.mp h).1
  | step h meanwhile op switched ih => exact ih

theorem Obeyed.coherent (h : Obeyed config w₀ b w) : Coherent config b := by
  induction h with
  | start h started =>
    obtain ⟨hvalid, rfl⟩ := new_eq_ok_iff.mp h
    exact (started.durable hvalid).coherent
  | step h meanwhile op switched ih => exact ih.run op _

/-- After a restore that succeeds, whatever fails later, the flags of the engine are those of the
lists and the switch. -/
theorem Obeyed.flags_follow (h : Obeyed config w₀ b w) :
    FlagsFollow config w₀.engine b w.engine := by
  induction h with
  | start h started =>
    obtain ⟨hvalid, rfl⟩ := new_eq_ok_iff.mp h
    exact started.followed hvalid
  | @step b w w₁ h meanwhile op switched ih =>
    have same : SameFlags b w b w₁ := ⟨rfl, rfl, rfl, meanwhile⟩
    have now := ih.of_same same
    exact now.ending h.coherent h.valid (op.ending b w₁) switched

/-- the blocker and the world after a restore from nothing -/
def restored : Blocker × Memory := (restore (m := StateM Memory)).after (ofConfig .default) {}

/-- A list is turned off while everything is off and while writes fail, then everything is turned on
again: all lists but this one are on. -/
theorem flags_follow_default :
    let off := (Operation.setEnabled false).run restored.1 restored.2
    let unsaved := (Operation.setListEnabled "easylist" false).run off.1
      { off.2 with store := { off.2.store with failures := 1 } }
    let on := (Operation.setEnabled true).run unsaved.1 unsaved.2
    FlagsFollow .default {} on.1 on.2.engine ∧ on.1.enabled = true ∧
      on.2.engine.isEnabled (.static "easylist") = false ∧
      on.2.engine.isEnabled (.static "easyprivacy") = true := by
  intro off unsaved on
  have hstart : ((restore (m := StateM Memory)).on (ofConfig .default) {}).1.1 = .ok () := by
    decide +kernel
  have hoff : ((setEnabled (m := StateM Memory) false).on restored.1 restored.2).1.1 = .ok () := by
    decide +kernel
  have hon : ((setEnabled (m := StateM Memory) true).on unsaved.1 unsaved.2).1.1 = .ok () := by
    decide +kernel
  have obeyed : Obeyed .default {} restored.1 restored.2 := by
    refine .start (new_eq_ok_iff.mpr ⟨by decide, rfl⟩) (.restore ?_)
    exact Prod.ext (Prod.ext hstart rfl) rfl
  have obeyed := obeyed.step rfl (.setEnabled false) fun enabled e heq h => by
    cases heq
    rw [hoff] at h
    cases h
  let failing : Memory := { off.2 with store := { off.2.store with failures := 1 } }
  have meanwhile : failing.engine.disabled = off.2.engine.disabled := rfl
  have obeyed := obeyed.step meanwhile (.setListEnabled "easylist" false) nofun
  have obeyed := obeyed.step rfl (.setEnabled true) fun enabled e heq h => by
    cases heq
    rw [hon] at h
    cases h
  exact ⟨Obeyed.flags_follow obeyed, by decide +kernel⟩

/-! ## what a switch leaves -/

section
variable {items : Items}

theorem Adoption.ids {answer : Except SyncError Unit} (change : Adoption items b w answer b' w')
    (h : b.store.Intact) :
    b'.coordinator.lists.map StaticList.id = b.coordinator.lists.map StaticList.id := by
  have replayed : (b.replayed (Saved.customFilters items)).store.Intact := h.replay _
  cases change with
  | filters filters failed => rw [filters]; rfl
  | whitelist filters synced failed =>
    subst filters
    exact (failed.sameFlags (failed.intact replayed).sound).ids
  | switch filters synced whitelist switch =>
    subst filters
    rw [switch.keeps_lists.1]
    exact (whitelist.sameFlags (whitelist.intact replayed).sound).ids

theorem Ending.ids {op : Operation} (ending : Ending b w op b' w') (h : b.store.Intact) :
    b'.coordinator.lists.map StaticList.id = b.coordinator.lists.map StaticList.id := by
  have hs' := (ending.intact h).sound
  cases ending with
  | addition change => exact (change.sameFlags hs').ids
  | removal change => exact (change.sameFlags hs').ids
  | recomputed change => exact (change.sameFlags hs').ids
  | toggled change => exact (change.sameFlags hs').ids
  | @list list enabled answer c w' hrun =>
    obtain ⟨answer', c', w₁, hrun', toggle⟩ := b.coordinator.setListEnabled_toggle list enabled w
    have hkept := (Coordinator.keeps_withEnabled b.coordinator list enabled).ids
    rw [hrun] at hrun'
    cases hrun'
    cases toggle with
    | unknown missing => rfl
    | refused found active pending step kept => rfl
    | unsaved found reached pending store sources => exact hkept
    | made found reached store sources => exact hkept
  | unsaved failed hrun => rfl
  | switched saved hrun change => rw [change.keeps_lists.1]
  | refreshed hrun => exact (sameFlags_of_refresh h.sound hrun).ids

end

theorem ids_restore (h : b.store.Intact) (w : Memory) :
    ((restore (m := StateM Memory)).after b w).1.coordinator.lists.map StaticList.id =
      b.coordinator.lists.map StaticList.id := by
  obtain ⟨answer, b', w', hadopt, change⟩ := adopt_cases (savedItems w) (b.withSavedStates w) w
  rw [Action.after_eq ((restore_memory b w).trans hadopt), change.ids h]
  exact (b.coordinator.keeps_withStates _).ids

/-- the lists of a blocker are those that are configured -/
theorem Attained.ids (h : Attained config b) :
    b.coordinator.lists.map StaticList.id = config.lists.map ListConfig.id := by
  induction h with
  | new h =>
    obtain ⟨-, rfl⟩ := new_eq_ok_iff.mp h
    exact Coordinator.ids_new config
  | @start b h start w ih =>
    have hrestore := ids_restore h.intact w
    rcases start.run_cases b w with hstart | ⟨b₁, w₁, r, c, s', w', hafter, hrun, hstart⟩
    · rw [hstart, hrestore, ih]
    · have intact := intact_restore h.intact w
      rw [hafter] at hrestore intact
      have same := sameFlags_of_refresh intact.sound hrun
      rw [hstart, same.ids, hrestore, ih]
  | step h op w ih => rw [(op.ending _ w).ids h.intact, ih]

theorem Attained.valid (h : Attained config b) : config.validate = .ok () := by
  induction h with
  | new h => exact (new_eq_ok_iff.mp h).1
  | start h start w ih => exact ih
  | step h op w ih => exact ih

/-- What a switch leaves, which is saved first: the tiers of the lists are all switched or none is,
but when the engine refuses, the new value stays saved, and here the old one stays. -/
structure SwitchLeaves (enabled : Bool) (b : Blocker) (w : Memory) (answer : Except SyncError Unit)
    (b' : Blocker) (w' : Memory) : Prop where
  lists : (∀ l ∈ b'.coordinator.lists, w'.engine.isEnabled l.tier = (l.enabled && b'.enabled)) ∨
    ∀ tier, w'.engine.isEnabled tier = w.engine.isEnabled tier
  made : answer = .ok () → b'.enabled = enabled ∧ Saved.enabled w'.store.items = enabled
  unsaved : ∀ e, answer = .error e → ¬ e.FromEngine →
    b' = b ∧ w'.store.items = w.store.items ∧ w'.engine = w.engine
  refused : ∀ e, answer = .error e → e.FromEngine →
    b'.enabled = b.enabled ∧ Saved.enabled w'.store.items = enabled

theorem Attained.switch_ends (h : Attained config b) (enabled : Bool) (w : Memory) :
    ∃ answer b' w', (setEnabled (m := StateM Memory) enabled).on b w = ((answer, b'), w') ∧
      SwitchLeaves enabled b w answer b' w' := by
  rcases setEnabled_cases enabled b w with
    ⟨e, w', failed, hrun⟩ | ⟨w₁, answer, b', w', saved, hrun, change⟩
  · obtain ⟨n, -, hstore⟩ := store_of_saving_error failed
    have hengine := engine_of_saving failed
    refine ⟨_, b, w', hrun, .inr fun tier => by rw [hengine], nofun, fun _ _ _ => ?_, ?_⟩
    · exact ⟨rfl, by rw [hstore], hengine⟩
    · rintro e' he ⟨tier, attempts, cause, rfl⟩
      cases he
  · have hsaved : Saved.enabled w'.store.items = enabled := by
      rw [change.flags.store, items_of_saving_ok saved]
      exact Saved.enabled_update _ enabled
    refine ⟨answer, b', w', hrun, ?_⟩
    rcases change.ends (h.ids ▸ SyncConfig.nodup_ids h.valid) with
      ⟨rfl, rfl, made⟩ | ⟨e, rfl, he, henabled, kept⟩
    · exact ⟨.inl made.lists, fun _ => ⟨rfl, hsaved⟩, nofun, nofun⟩
    · rw [engine_of_saving saved] at kept
      refine ⟨.inr kept, nofun, fun e' heq hne => ?_, fun _ _ _ => ⟨henabled, hsaved⟩⟩
      cases heq
      exact absurd he hne

/-- The engine refuses to turn everything off; that everything is off stays saved, though here it is
on. -/
theorem switch_ends_default :
    ∃ answer b' w', (setEnabled (m := StateM Memory) false).on restored.1
        { restored.2 with engine := restored.2.engine.failing 3 } = ((answer, b'), w') ∧
      answer =
        .error (.engineApplyFailed (.static "easylist") 3 (.unavailable "injected failure")) ∧
      SwitchLeaves false restored.1 { restored.2 with engine := restored.2.engine.failing 3 } answer
        b' w' := by
  have attained : Attained .default restored.1 :=
    .start (.new (new_eq_ok_iff.mpr ⟨by decide, rfl⟩)) .restore {}
  have hanswer : ((setEnabled (m := StateM Memory) false).on restored.1
      { restored.2 with engine := restored.2.engine.failing 3 }).1.1 =
        .error (.engineApplyFailed (.static "easylist") 3 (.unavailable "injected failure")) := by
    decide +kernel
  obtain ⟨answer, b', w', hrun, leaves⟩ := Attained.switch_ends attained false
    { restored.2 with engine := restored.2.engine.failing 3 }
  rw [hrun] at hanswer
  exact ⟨answer, b', w', hrun, hanswer, leaves⟩

/-- Everything is on after a switch that failed, but that it is off is saved. -/
theorem refused_switch_stays_saved_default :
    let world : Memory := { restored.2 with engine := restored.2.engine.failing 3 }
    let switch := (setEnabled (m := StateM Memory) false).on restored.1 world
    ((restore (m := StateM Memory)).on (ofConfig .default) {}).1.1 = .ok () ∧
      restored.1.enabled = true ∧ Saved.enabled restored.2.store.items = true ∧
      switch.1.1 =
        .error (.engineApplyFailed (.static "easylist") 3 (.unavailable "injected failure")) ∧
      switch.1.2.enabled = true ∧ Saved.enabled switch.2.store.items = false := by
  decide +kernel

end Blocker

end Blocklist
