import Blocklist.Proofs.IdNamespaces
import Blocklist.Proofs.RulesetFiles

/-!
# Files of the rulesets of a configuration

An engine in files keeps each ruleset in a file of its name, and the flags of all of them in one
more file beside these. The names of the rulesets of a valid configuration are distinct. So are
their files where the names are names in the directory, and then only a list called `enabled` has
its rules where the flags are.

* `Path.Same`                    paths that are followed alike;
* `Disk.pathIn`                  the file that belongs to a name;
* `Disk.pathIn_inj`              it says which name it belongs to, if that is relative;
* `Disk.same_pathIn_iff`         so does the place it leads to, if the name has no slash;
* `SyncConfig.eq_of_rulesetId`   a name belongs to one tier;
* `SyncConfig.rulesets_apart`    which files of a valid configuration are distinct;
* `SyncConfig.shared_files`      a valid configuration with files that are not.
-/

namespace Blocklist

/-! ## paths -/

namespace Path

/-- two paths that start at the same place and go through the same names -/
structure Same (p q : String) : Prop where
  absolute : isAbsolute p = isAbsolute q
  names : names p = names q

theorem Same.refl (p : String) : Same p p := ⟨rfl, rfl⟩

/-- an extension does not make a name absolute -/
theorem isAbsolute_append_json (id : String) : isAbsolute (id ++ ".json") = isAbsolute id := by
  rw [isAbsolute, isAbsolute, String.toList_append]
  cases id.toList with
  | nil => rfl
  | cons c cs => rfl

end Path

namespace Disk

variable (d : Disk) {id id' : String}

/-- the file of the ruleset with this name; the flags are the file of `enabled` -/
def pathIn (id : String) : String := Path.join d.rulesetDir (id ++ ".json")

theorem rulesetPath_eq (tier : Tier) : d.rulesetPath tier = d.pathIn tier.rulesetId := rfl

theorem enabledPath_eq_pathIn : d.enabledPath = d.pathIn "enabled" := d.enabledPath_eq

theorem pathIn_inj (h : Path.isAbsolute id = false) (h' : Path.isAbsolute id' = false) :
    d.pathIn id = d.pathIn id' ↔ id = id' := by
  have hpath : ∀ {id}, Path.isAbsolute id = false →
      (d.pathIn id).toList = Path.dirPrefix d.rulesetDir ++ (id ++ ".json").toList := by
    intro id hid
    rw [← Path.isAbsolute_append_json] at hid
    exact Path.toList_join_of_relative hid d.rulesetDir
  refine ⟨fun heq => ?_, fun heq => by rw [heq]⟩
  have hlist := congrArg String.toList heq
  rw [hpath h, hpath h'] at hlist
  exact json_inj (String.toList_inj.mp (List.append_cancel_left hlist))

theorem names_pathIn (h : '/' ∉ id.toList) :
    Path.names (d.pathIn id) = Path.names d.rulesetDir ++ [id ++ ".json"] :=
  Path.names_join (isName_json h) d.rulesetDir

theorem same_pathIn_iff (h : '/' ∉ id.toList) (h' : '/' ∉ id'.toList) :
    Path.Same (d.pathIn id) (d.pathIn id') ↔ id = id' := by
  refine ⟨fun same => ?_, fun heq => heq ▸ .refl _⟩
  have hnames := same.names
  rw [names_pathIn d h, names_pathIn d h'] at hnames
  exact json_inj (List.cons.inj (List.append_cancel_left hnames)).1

end Disk

/-! ## names of rulesets -/

namespace SyncConfig

variable {config : SyncConfig}

theorem mem_tiers_iff {tier : Tier} :
    tier ∈ config.tiers ↔
      (∃ l ∈ config.lists, l.tier = tier) ∨ tier = .dynamic ∨ tier = .session := by
  simp [tiers]

section
variable (hvalid : config.validate = .ok ())
include hvalid

/-- no list has the name of a tier that is no list -/
theorem id_ne_rulesetId {l : ListConfig} (hl : l ∈ config.lists) :
    l.id ≠ Tier.dynamic.rulesetId ∧ l.id ≠ Tier.session.rulesetId := by
  have hreserved := (proper_of_mem hvalid hl).not_reserved
  simpa [reservedIds] using hreserved

theorem eq_of_rulesetId {a b : Tier} (ha : a ∈ config.tiers) (hb : b ∈ config.tiers)
    (h : a.rulesetId = b.rulesetId) : a = b := by
  rcases mem_tiers_iff.mp ha with ⟨l, hl, rfl⟩ | rfl | rfl <;>
    rcases mem_tiers_iff.mp hb with ⟨l', hl', rfl⟩ | rfl | rfl
  · exact congrArg Tier.static h
  · exact absurd h (id_ne_rulesetId hvalid hl).1
  · exact absurd h (id_ne_rulesetId hvalid hl).2
  · exact absurd h.symm (id_ne_rulesetId hvalid hl').1
  · rfl
  · exact absurd h (by decide)
  · exact absurd h.symm (id_ne_rulesetId hvalid hl').2
  · exact absurd h (by decide)
  · rfl

end

/-- only a list can have the name that the file of the flags has -/
theorem rulesetId_eq_enabled_iff {tier : Tier} :
    tier.rulesetId = "enabled" ↔ tier = .static "enabled" := by
  cases tier with
  | static id =>
    show id = "enabled" ↔ _
    rw [Tier.static.injEq]
  | dynamic => exact ⟨fun h => absurd h (by decide), nofun⟩
  | session => exact ⟨fun h => absurd h (by decide), nofun⟩

/-! ## files of a configuration -/

/-- Each ruleset of a valid configuration has a file of its own, and the flags have one too, unless
a list is called `enabled`. Names that are relative make distinct paths; where they have no slash,
the paths also lead to distinct places. -/
theorem rulesets_apart (hvalid : config.validate = .ok ()) (d : Disk) {a : Tier}
    (ha : a ∈ config.tiers) (relative : Path.isAbsolute a.rulesetId = false) :
    (∀ b ∈ config.tiers, Path.isAbsolute b.rulesetId = false →
      (d.rulesetPath a = d.rulesetPath b ↔ a = b) ∧
      ('/' ∉ a.rulesetId.toList → '/' ∉ b.rulesetId.toList →
        (Path.Same (d.rulesetPath a) (d.rulesetPath b) ↔ a = b))) ∧
    (d.rulesetPath a = d.enabledPath ↔ a = .static "enabled") ∧
    ('/' ∉ a.rulesetId.toList →
      (Path.Same (d.rulesetPath a) d.enabledPath ↔ a = .static "enabled")) := by
  have tier_eq_iff : ∀ {b}, b ∈ config.tiers → (a.rulesetId = b.rulesetId ↔ a = b) :=
    fun hb => ⟨eq_of_rulesetId hvalid ha hb, fun h => by rw [h]⟩
  refine ⟨fun b hb relative' => ⟨?_, fun plain plain' => ?_⟩, ?_, fun plain => ?_⟩
  · rw [Disk.rulesetPath_eq, Disk.rulesetPath_eq, Disk.pathIn_inj d relative relative',
      tier_eq_iff hb]
  · rw [Disk.rulesetPath_eq, Disk.rulesetPath_eq, Disk.same_pathIn_iff d plain plain',
      tier_eq_iff hb]
  · rw [Disk.rulesetPath_eq, Disk.enabledPath_eq_pathIn, Disk.pathIn_inj d relative rfl,
      rulesetId_eq_enabled_iff]
  · rw [Disk.rulesetPath_eq, Disk.enabledPath_eq_pathIn, Disk.same_pathIn_iff d plain (by decide),
      rulesetId_eq_enabled_iff]

/-- the two default lists -/
theorem rulesets_apart_default :
    let d : Disk := Site.rulesets.disk
    let easyList : Tier := .static "easylist"
    let easyPrivacy : Tier := .static "easyprivacy"
    SyncConfig.default.validate = .ok () ∧ easyList ∈ SyncConfig.default.tiers ∧
      ¬ Path.Same (d.rulesetPath easyList) (d.rulesetPath easyPrivacy) ∧
      ¬ Path.Same (d.rulesetPath easyList) (d.rulesetPath .session) ∧
      ¬ Path.Same (d.rulesetPath easyList) d.enabledPath := by
  intro d easyList easyPrivacy
  have hvalid : SyncConfig.default.validate = .ok () := by decide
  have hlist : easyList ∈ SyncConfig.default.tiers := by decide
  obtain ⟨rulesets, -, flags⟩ := rulesets_apart hvalid d hlist (by decide)
  refine ⟨hvalid, hlist, fun same => ?_, fun same => ?_, fun same => ?_⟩
  · exact absurd (((rulesets easyPrivacy (by decide) (by decide)).2 (by decide) (by decide)).mp
      same) (by decide)
  · exact absurd (((rulesets .session (by decide) (by decide)).2 (by decide) (by decide)).mp same)
      (by decide)
  · exact absurd ((flags (by decide)).mp same) (by decide)

/-- A valid configuration with a list called `enabled`, and two lists whose names differ in a slash.
The rules of the first are kept where the flags are, so that no flag can be read when they have been
written; those of the other two are kept in one place. -/
theorem shared_files :
    let list (id : String) (idBase : UInt32) : ListConfig :=
      { id := id, name := id, idBase := idBase, capacity := 100 }
    let config : SyncConfig :=
      ⟨[list "enabled" 1, list "ads/all" 200, list "ads//all" 400], 1, {}, {}⟩
    let d : Disk := Site.rulesets.disk
    let written := (Site.rulesets.ask (.applyDiff (.static "enabled") {})).2
    config.validate = .ok () ∧ .static "enabled" ∈ config.tiers ∧
      d.rulesetPath (.static "enabled") = d.enabledPath ∧
      (written.ask (.isEnabled .dynamic)).1 = .error (.io .notJson) ∧
      .static "ads/all" ∈ config.tiers ∧ .static "ads//all" ∈ config.tiers ∧
      Path.Same (d.rulesetPath (.static "ads/all")) (d.rulesetPath (.static "ads//all")) := by
  intro list config d written
  refine ⟨by decide, by decide, by decide, by decide +kernel, by decide, by decide, ?_⟩
  exact ⟨by decide, by decide⟩

end SyncConfig

end Blocklist
