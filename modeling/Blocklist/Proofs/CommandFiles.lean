import Blocklist.Proofs.CommandRuns
import Blocklist.Proofs.PlainPlaces

/-!
# The files of a blocker agree

Each run of the program is a process of its own: it takes over the saved values, writes all rulesets
anew and then does what it was asked to, or refuses. After any number of runs the rulesets are those
that the saved values stand for.

* `Cli.FilesAgree`          rulesets and saved values that agree;
* `Cli.Asks`, `Cli.Runs`    runs of the program on the same configuration and the same files;
* `Cli.Runs.files_agree`    the files agree after each of them that has a client for its requests;
* `Cli.runs_empty`          runs that start where there is nothing at all;
* `Cli.files_disagree`      lists are off while blocking is, a state file in the place of a ruleset,
                            and a run without a client.
-/

namespace Blocklist.Cli

variable {config : SyncConfig} {d : Disk} {m m' : Machine}

/-! ## files that agree -/

/-- The rulesets are those that the saved values stand for: filters and whitelist are compiled from
them, and a list is on if it is wanted and blocking is not off. -/
structure FilesAgree (config : SyncConfig) (d : Disk) (m : Machine) (items : Items) : Prop where
  state : (⟨d, m⟩ : Site).Holds items
  filters : ∃ rules : List Rule,
    m.tree.read (d.rulesetPath .dynamic) = .ok (Rule.listToJson rules).pretty.toUTF8 ∧
      rules.Pairwise (fun a b => a.id < b.id) ∧
      (rules.map Except.ok).Perm ((Saved.customFilters items).map CustomFilter.rule)
  whitelist : m.tree.read (d.rulesetPath .session) =
    .ok (Rule.listToJson (Whitelist.rules (Saved.whitelist items))).pretty.toUTF8
  flags : ∃ flags : Disk.Flags, m.tree.read d.enabledPath = .ok flags.toJson.pretty.toUTF8 ∧
    flags[Tier.dynamic.rulesetId]? = some (Saved.enabled items) ∧
    ∀ l ∈ config.lists, flags[l.id]? = some ((((Saved.listStates items)[l.id]?.bind
      ListState.enabled).getD l.enabled) && Saved.enabled items)

/-- each configured list is one of the blocker, on or off as it was saved -/
theorem exists_list {b : Blocker} {items : Items} (h : Blocker.Durable config items b)
    {l : ListConfig} (hl : l ∈ config.lists) :
    ∃ l' ∈ b.coordinator.lists, l'.id = l.id ∧ l'.enabled =
      (((Saved.listStates items)[l.id]?.bind ListState.enabled).getD l.enabled) := by
  rw [← h.lists]
  refine ⟨_, List.mem_map_of_mem (List.mem_map_of_mem hl), ?_⟩
  split
  · next s hstate =>
    rw [show (Saved.listStates items)[l.id]? = some s from hstate]
    exact ⟨rfl, rfl⟩
  · next hnone =>
    rw [show (Saved.listStates items)[l.id]? = none from hnone]
    exact ⟨rfl, rfl⟩

theorem Filed.filesAgree (h : Filed config d m) : ∃ items, FilesAgree config d m items := by
  obtain ⟨b, f, files, filed⟩ := h
  have consistent := Blocker.consistent_of_coherent filed.recorded.coherent
  refine ⟨f.items, files.stores.holds, ⟨b.store.rules .dynamic, ?_, ?_, ?_⟩, ?_, ?_⟩
  · have hrules := files.rules .dynamic rfl
    rw [filed.rules .dynamic rfl] at hrules
    exact hrules
  · exact (filed.recorded.coherent.sound .dynamic).keyed.sorted_rules
  · rw [filed.recorded.savedFilters]
    exact consistent.dynamic
  · have hrules := files.rules .session rfl
    rw [filed.rules .session rfl, consistent.session, ← filed.recorded.savedWhitelist] at hrules
    exact hrules
  · cases hflags : f.flags with
    | none =>
      have hnone := filed.filters
      rw [Filing.flag?, hflags, Option.getD_none, Std.ExtTreeMap.getElem?_empty] at hnone
      cases hnone
    | some flags =>
      have hflag : ∀ id, f.flag? id = flags[id]? := fun id => by
        rw [Filing.flag?, hflags, Option.getD_some]
      have henabled := filed.recorded.toDurable.enabled
      refine ⟨flags, ?_, ?_, fun l hl => ?_⟩
      · have hread := files.flags
        rw [hflags] at hread
        exact hread
      · rw [← hflag, filed.filters, henabled]
      · obtain ⟨l', hl', hid, hon⟩ := exists_list filed.recorded.toDurable hl
        rw [← hflag, ← hid, filed.lists l' hl', hon, hid, henabled]

/-! ## runs of the program -/

/-- a command on the blocker of this configuration, with its files in these places -/
structure Asks (config : SyncConfig) (d : Disk) (m : Machine) (i : Invocation) : Prop where
  places : i.places.disk = d
  configures : i.places.Configures config m
  command : i.command.isOnBlocker = true

/-- A machine after some runs of the program, from one where there are neither saved values nor
rulesets. Each run that understands its arguments is a command on the blocker. Between runs anything
may happen but to these files, as long as the machine keeps them. -/
inductive Runs (config : SyncConfig) (d : Disk) : Machine → Prop where
  | start {m : Machine} (hd : d.items = none) (keeps : m.Keeps (config.files d))
      (none : ∀ path ∈ config.files d, m.tree.read path = .error .notFound) : Runs config d m
  | run {m : Machine} (h : Runs config d m) (args : List String)
      (asks : ∀ i, Invocation.parse args = .ok i → Asks config d m i) :
      Runs config d ((Cli.run args : StateM Machine Outcome) m).2
  | meanwhile {m m' : Machine} (h : Runs config d m) (keeps : m'.Keeps (config.files d))
      (same : ∀ path ∈ config.files d, m'.tree.read path = m.tree.read path) : Runs config d m'

theorem Resumable.of_same (apart : config.FilesApart d) (h : Resumable config d m)
    (keeps : m'.Keeps (config.files d))
    (same : ∀ path ∈ config.files d, m'.tree.read path = m.tree.read path) :
    Resumable config d m' := by
  obtain ⟨f, files, resumable⟩ := h
  exact ⟨f, files.leaves apart ⟨keeps, rfl, fun _ => rfl, fun path hpath _ => same path hpath⟩,
    resumable⟩

section
variable {i : Invocation} {args : List String} (asks : Asks config d m i)
  (parsed : Invocation.parse args = .ok i)
include asks parsed

/-- a run that finds no client for its requests -/
theorem Asks.run_without_client {reason : String} (client : m.web.client = .error reason) :
    (Cli.run args : StateM Machine Outcome) m = (⟨1, "", s!"Error: {noClient reason}\n"⟩, m) := by
  have hsession : (i.run : Session (StateM Machine) Unit).run.run "" m =
      ((.error (noClient reason), ""), m) :=
    invocation_without_client asks.configures client asks.command ""
  rw [Cli.run, parsed]
  dsimp only
  rw [bind_apply, hsession]
  rfl

variable (hvalid : config.validate = .ok ()) (apart : config.FilesApart d)
include hvalid apart

theorem Asks.filed (client : m.web.client = .ok ()) (h : Resumable config d m) :
    Filed config d ((Cli.run args : StateM Machine Outcome) m).2 := by
  obtain ⟨rfl, configures, command⟩ := asks
  rw [machine_run parsed]
  exact invocation_filed hvalid apart configures h client command ""

theorem Asks.resumable (h : Resumable config d m) :
    Resumable config d ((Cli.run args : StateM Machine Outcome) m).2 := by
  cases client : m.web.client with
  | error reason =>
    rw [asks.run_without_client parsed client]
    exact h
  | ok => exact (asks.filed parsed hvalid apart client h).resumable

end

section
variable (hvalid : config.validate = .ok ()) (apart : config.FilesApart d)
include hvalid apart

theorem Runs.resumable (h : Runs config d m) : Resumable config d m := by
  induction h with
  | start hd keeps none =>
    exact ⟨{}, Site.Says.of_none hd keeps none, Blocker.resumable_empty hvalid⟩
  | @run m h args asks ih =>
    cases parsed : Invocation.parse args with
    | error e =>
      rw [machine_run_unread parsed]
      exact ih
    | ok i => exact (asks i parsed).resumable parsed hvalid apart ih
  | meanwhile h keeps same ih => exact ih.of_same apart keeps same

end

/-! ## a start where there is nothing -/

/-- the rulesets in one directory, and the saved values in the file `state` with `.json` after it -/
def slots (config : SyncConfig) (rulesets state : String) : List Slot :=
  ⟨"", state⟩ :: ⟨rulesets, "enabled"⟩ :: config.tiers.map fun tier => ⟨rulesets, tier.rulesetId⟩

theorem runs_empty (rulesets state : String)
    (plain : ∀ s ∈ slots config rulesets state, s.Plain)
    (apart : Slot.Apart (slots config rulesets state)) (web : Web) :
    Runs config { rulesetDir := rulesets, stateFile := state ++ ".json" } { web := web } := by
  have hstate : Slot.path ⟨"", state⟩ = state ++ ".json" := by
    have hname := (plain _ List.mem_cons_self).isName
    rw [← String.toList_inj, Slot.path, Path.toList_join hname.noSlash]
    rfl
  have hfiles : config.files { rulesetDir := rulesets, stateFile := state ++ ".json" } =
      (slots config rulesets state).map Slot.path := by
    rw [slots, List.map_cons, List.map_cons, List.map_map, hstate]
    rfl
  refine .start rfl ?_ fun path hpath => ?_
  · rw [hfiles]
    exact keeps_of_clear plain apart (FileTree.clear_empty plain)
  · rw [hfiles] at hpath
    obtain ⟨s, hs, rfl⟩ := List.mem_map.mp hpath
    exact FileTree.read_empty plain hs

/-! ## files agree after each run -/

/-- After each run that understands its arguments, whatever its exit code and whatever the web
answers, the files agree. Only where there is no client for requests, a run says so and does
nothing. -/
theorem Runs.files_agree (hvalid : config.validate = .ok ())
    (plain : ∀ l ∈ config.lists, '/' ∉ l.id.toList ∧ l.id ≠ "enabled")
    (state : d.stateFile ∉ d.enabledPath :: config.tiers.map d.rulesetPath)
    (h : Runs config d m) {args : List String} {i : Invocation}
    (parsed : Invocation.parse args = .ok i) (asks : Asks config d m i) :
    (m.web.client = .ok () →
      ∃ items, FilesAgree config d ((Cli.run args : StateM Machine Outcome) m).2 items) ∧
    ∀ reason, m.web.client = .error reason →
      (Cli.run args : StateM Machine Outcome) m =
        (⟨1, "", s!"Error: {noClient reason}\n"⟩, m) := by
  have apart := SyncConfig.filesApart_of_plain hvalid plain state
  refine ⟨fun client => ?_, fun _ => asks.run_without_client parsed⟩
  exact (asks.filed parsed hvalid apart client (h.resumable hvalid apart)).filesAgree

/-- a web with one of the built-in lists; the server says of the other that it is gone -/
def oneListServed : Web where
  answer _ url :=
    if url = "https://easylist.to/easylist/easylist.txt" then .ok ⟨200, .ok "||ads.example^\n"⟩
    else .ok ⟨410, .ok "Gone"⟩

/-- The lists are refreshed, of which one fails, and then blocking is turned off. Where there is no
client, blocking stays on. -/
theorem files_agree_default :
    let refreshed := (Cli.run ["refresh"] : StateM Machine Outcome) { web := oneListServed }
    let reason := "no trusted certificates"
    let alone : Machine := { web := { client := .error reason } }
    refreshed.1.code = 1 ∧ refreshed.2.web.requests = 2 ∧
    (∃ items, FilesAgree .default ({} : Places).disk
      ((Cli.run ["disable"] : StateM Machine Outcome) refreshed.2).2 items) ∧
    (Cli.run ["disable"] : StateM Machine Outcome) alone =
      (⟨1, "", s!"Error: {noClient reason}\n"⟩, alone) := by
  have hrefresh : Invocation.parse ["refresh"] = .ok ⟨{}, .refresh false⟩ := by decide +kernel
  have hdisable : Invocation.parse ["disable"] = .ok ⟨{}, .setEnabled none false⟩ := by
    decide +kernel
  have empty (web : Web) : Runs .default ({} : Places).disk { web := web } :=
    runs_empty "rulesets" "sieve-state" (by decide +kernel) (by decide +kernel) web
  have refreshed := (empty oneListServed).run ["refresh"] fun i hi => by
    obtain rfl := Except.ok.inj (hrefresh.symm.trans hi)
    exact ⟨rfl, rfl, rfl⟩
  have agree := Runs.files_agree (by decide) (by decide) (by decide) refreshed hdisable
    ⟨rfl, rfl, rfl⟩
  have refuse := Runs.files_agree (by decide) (by decide) (by decide)
    (empty { client := .error "no trusted certificates" }) hdisable ⟨rfl, rfl, rfl⟩
  have hrun :
      let refreshed := (Cli.run ["refresh"] : StateM Machine Outcome) { web := oneListServed }
      refreshed.1.code = 1 ∧ refreshed.2.web.requests = 2 ∧
        refreshed.2.web.client = .ok () := by
    intro refreshed
    decide +kernel
  obtain ⟨hcode, hrequests, hclient⟩ := hrun
  exact ⟨hcode, hrequests, agree.1 hclient, refuse.2 _ rfl⟩

/-- While blocking is off the flags of lists are off, though the lists are on and nothing else was
saved. Where the state file is the file of the custom filters, it says what was saved, not that
there are no filters. And a first run that finds no client for its requests writes no rulesets. -/
theorem files_disagree :
    (let d := ({} : Places).disk
      let outcome := (Cli.run ["disable"] : StateM Machine Outcome) {}
      let flags : Disk.Flags := .ofList [("custom", false), ("easylist", false),
        ("easyprivacy", false)]
      let saved : Items :=
        .ofList [(Saved.enabledKey, Json.bool false), (Saved.whitelistKey, Json.arr [])]
      Invocation.parse ["disable"] = .ok ⟨{}, .setEnabled none false⟩ ∧ outcome.1.code = 0 ∧
        outcome.2.tree.read d.enabledPath = .ok flags.toJson.pretty.toUTF8 ∧
        outcome.2.tree.read d.stateFile = .ok (Json.ofItems saved).pretty.toUTF8 ∧
        (SyncConfig.default.list? "easylist").map ListConfig.enabled = some true ∧
        flags["easylist"]? = some false) ∧
    (let args := ["--state", "rulesets/custom.json", "custom", "list"]
      let places : Places := { state := "rulesets/custom.json" }
      let outcome := (Cli.run args : StateM Machine Outcome) {}
      let saved := Saved.single Saved.whitelistKey (.arr [])
      Invocation.parse args = .ok ⟨places, .listCustom⟩ ∧ outcome.1.code = 0 ∧
        outcome.2.tree.read (places.disk.rulesetPath .dynamic) =
          .ok (Json.ofItems saved).pretty.toUTF8 ∧
        Saved.customFilters saved = [] ∧
        (Json.ofItems saved).pretty ≠ (Rule.listToJson []).pretty) ∧
    (let d := ({} : Places).disk
      let outcome := (Cli.run ["disable"] : StateM Machine Outcome)
        { web := { client := .error "no trusted certificates" } }
      Invocation.parse ["disable"] = .ok ⟨{}, .setEnabled none false⟩ ∧ outcome.1.code = 1 ∧
        outcome.2.tree.read (d.rulesetPath .dynamic) = .error .notFound ∧
        outcome.2.tree.read d.enabledPath = .error .notFound) := by
  refine ⟨?_, ?_, ?_⟩
  · intro d outcome flags saved
    decide +kernel
  · intro args places outcome saved
    decide +kernel
  · intro d outcome
    decide +kernel

end Blocklist.Cli
