import Blocklist.Proofs.EngineFiles
import Blocklist.Proofs.FileWrites
import Blocklist.Proofs.SettledValues

/-!
# The store in a file does what the store in memory does

A store in a file starts on no file, or on an object without decimal numbers that can be read, and
one in memory with the same items. Both are asked the same; the store in the file may be opened anew
in between, and the machine may change in between as long as the file stays what it is. They give
the same answers.

* `Site.run`                   an operation at a site;
* `Disk.readItems_run`, `Disk.load_run`, `Disk.save_run`   one equation for each operation;
* `Site.Holds`                 the items that a file holds;
* `Mirrors`                    the file, and what was read of it, are what the store in memory has;
* `Mirrors.load`, `Mirrors.save_cases`   each call keeps it;
* `Together`                   two stores after the same calls;
* `Together.refines`           the same answers, and what the file says;
* `file_differs_from_memory`   values too deep, and a path that leads elsewhere after a failure.
-/

namespace Blocklist

def Site.run {α : Type} (x : SiteM α) (s : Site) : α × Site :=
  let ((a, disk), machine) := x s.disk s.machine
  (a, ⟨disk, machine⟩)

/-! ## operations of the store -/

namespace Disk

theorem asStore_run {α : Type} (x : ExceptT IoError SiteM α) (d : Disk) (m : Machine) :
    asStore x d m =
      let r := x.run d m
      ((r.1.1.mapError .io, r.1.2), r.2) := by
  rw [asStore, site_bind]
  rcases x.run d m with ⟨⟨_ | _, _⟩, _⟩
  · rfl
  · rfl

theorem readItems_run (d : Disk) (m : Machine) :
    (readItems : ExceptT IoError SiteM _).run d m =
      d.items.elim
        (match (readJson Json.settledItems? d.stateFile : StateM Machine _) m with
          | (.error e, m) => ((.error e, d), m)
          | (.ok o, m) => ((.ok (o.getD ∅), { d with items := some (o.getD ∅) }), m))
        fun items => ((.ok items, d), m) := by
  rw [readItems, run_bind, run_get]
  dsimp only
  cases d.items with
  | some items => rfl
  | none =>
    dsimp only [Option.elim]
    rw [run_bind, run_lift]
    rcases (readJson Json.settledItems? d.stateFile : StateM Machine _) m with ⟨_ | _, _⟩
    · rfl
    · rfl

theorem load_run (keys : List String) (d : Disk) (m : Machine) :
    (load keys : SiteM _) d m =
      match (readItems : ExceptT IoError SiteM _).run d m with
      | ((.error e, d), m) => ((.error (.io e), d), m)
      | ((.ok items, d), m) => ((.ok (items.pick keys), d), m) := by
  rw [load, asStore_run, run_bind]
  rcases (readItems : ExceptT IoError SiteM _).run d m with ⟨⟨_ | _, _⟩, _⟩
  · rfl
  · rfl

theorem save_run (new : Items) (d : Disk) (m : Machine) :
    (save new : SiteM _) d m =
      match (readItems : ExceptT IoError SiteM _).run d m with
      | ((.error e, d), m) => ((.error (.io e), d), m)
      | ((.ok items, d), m) =>
        match (writeJson d.stateFile (Json.ofItems (items.update new)) : StateM Machine _) m with
        | (.error e, m) => ((.error (.io e), d), m)
        | (.ok (), m) => ((.ok (), { d with items := some (items.update new) }), m) := by
  rw [save, asStore_run, run_bind]
  rcases (readItems : ExceptT IoError SiteM _).run d m with ⟨⟨_ | items, d⟩, m⟩
  · rfl
  · dsimp only
    rw [run_bind, run_get]
    dsimp only
    rw [run_bind, run_lift]
    rcases (writeJson d.stateFile (Json.ofItems (items.update new)) : StateM Machine _) m with
      ⟨_ | _, _⟩
    · rfl
    · rfl

end Disk

/-- a value that cannot be read as items -/
theorem Site.load_of_unreadable {s : Site} {content : ByteArray} {j : Json}
    (hread : s.machine.tree.read s.disk.stateFile = .ok content)
    (hparse : Json.ofBytes? content = some j) (hnone : j.settledItems? = none)
    (hnew : s.disk.items = none) (keys : List String) :
    (s.run (Disk.load keys)).1 = .error (.io .notJson) := by
  rw [Site.run, Disk.load_run, Disk.readItems_run, hnew, Option.elim_none, readJson_run, hread]
  dsimp only
  rw [hparse, Option.bind_some, hnone]

/-! ## what the file and the store in memory have in common -/

/-- The state file holds these items: there is none and they are none, or it is read as them. -/
def Site.Holds (s : Site) (items : Items) : Prop :=
  (s.machine.tree.read s.disk.stateFile = .error .notFound ∧ items = ∅) ∨
    ∃ content, s.machine.tree.read s.disk.stateFile = .ok content ∧
      (Json.ofBytes? content).bind Json.settledItems? = some items

/-- what is read is what the file holds, be it now or before -/
theorem Site.Holds.readItems {s : Site} {items : Items} (h : s.Holds items)
    (cached : s.disk.items = none ∨ s.disk.items = some items) :
    (Disk.readItems : ExceptT IoError SiteM _).run s.disk s.machine =
      ((.ok items, { s.disk with items := some items }), s.machine) := by
  rw [Disk.readItems_run]
  rcases cached with hnew | hcached
  · rw [hnew, Option.elim_none, readJson_run]
    rcases h with ⟨hread, hempty⟩ | ⟨content, hread, hitems⟩
    · rw [hread, hempty]
      rfl
    · simp only [hread, hitems]
      rfl
  · rw [hcached, Option.elim_some, ← hcached]

/-- The state file holds what the store in memory has, and so does what was read of it. -/
structure Mirrors (s : Site) (store : MemoryStore) : Prop where
  ready : s.machine.Ready s.disk.stateFile
  holds : s.Holds store.items
  settled : store.items.Settled
  cached : s.disk.items = none ∨ s.disk.items = some store.items
  calm : store.failures = 0

namespace Mirrors

variable {s : Site} {store : MemoryStore} (h : Mirrors s store)
include h

theorem readItems : (Disk.readItems : ExceptT IoError SiteM _).run s.disk s.machine =
    ((.ok store.items, { s.disk with items := some store.items }), s.machine) :=
  h.holds.readItems h.cached

theorem save_store (new : Items) :
    store.save new = (.ok (), { store with items := store.items.update new }) := by
  rw [MemoryStore.save, h.calm]

theorem load (keys : List String) : s.run (Disk.load keys) =
    (store.load keys, { s with disk := { s.disk with items := some store.items } }) := by
  rw [Site.run, Disk.load_run, h.readItems]
  rfl

theorem loaded (keys : List String) : Mirrors (s.run (Disk.load keys)).2 store := by
  rw [h.load]
  exact ⟨h.ready, h.holds, h.settled, .inr rfl, h.calm⟩

theorem reopen : Mirrors s.reopen store := ⟨h.ready, h.holds, h.settled, .inl rfl, h.calm⟩

/-- Saving writes the items, and they are those of the store in memory; or the file stays what it
is, and so does what was read of it. -/
theorem save_cases (new : Items) :
    (∃ e s', s.run (Disk.save new) = (.error e, s') ∧ Mirrors s' store ∧
      s'.disk.stateFile = s.disk.stateFile ∧
      s'.machine.tree.read s.disk.stateFile = s.machine.tree.read s.disk.stateFile) ∨
    ∃ s', s.run (Disk.save new) = (.ok (), s') ∧
      s'.disk = { s.disk with items := some (store.items.update new) } ∧
      s'.machine.Ready s.disk.stateFile ∧
      s'.machine.tree.read s.disk.stateFile =
        .ok (Json.ofItems (store.items.update new)).pretty.toUTF8 := by
  obtain ⟨m', hready, ⟨hwrite, hread⟩ | ⟨⟨e, hwrite⟩, hread⟩⟩ :=
    writeJson_cases h.ready (Json.ofItems (store.items.update new))
  · refine .inr ⟨⟨{ s.disk with items := some (store.items.update new) }, m'⟩, ?_, rfl, hready,
      hread⟩
    rw [Site.run, Disk.save_run, h.readItems]
    dsimp only
    rw [hwrite]
  · refine .inl ⟨.io e, ⟨{ s.disk with items := some store.items }, m'⟩, ?_,
      ⟨hready, ?_, h.settled, .inr rfl, h.calm⟩, rfl, hread⟩
    · rw [Site.run, Disk.save_run, h.readItems]
      dsimp only
      rw [hwrite]
    · have hholds := h.holds
      rw [Site.Holds, ← hread] at hholds
      exact hholds

/-- after the file was written -/
theorem saved {new : Items} (hnew : new.Settled) (hok : (s.run (Disk.save new)).1 = .ok ()) :
    Mirrors (s.run (Disk.save new)).2 (store.save new).2 := by
  rcases h.save_cases new with ⟨e, s', hrun, -⟩ | ⟨s', hrun, hdisk, hready, hread⟩
  · rw [hrun] at hok
    cases hok
  · have hsettled := h.settled.update hnew
    rw [hrun, h.save_store]
    refine ⟨?_, ?_, hsettled, ?_, h.calm⟩
    · rw [hdisk]
      exact hready
    · refine .inr ⟨_, ?_, hsettled.reads⟩
      rw [hdisk]
      exact hread
    · rw [hdisk]
      exact .inr rfl

/-- after a call that failed -/
theorem unsaved {new : Items} {e : StorageError} (herror : (s.run (Disk.save new)).1 = .error e) :
    Mirrors (s.run (Disk.save new)).2 store := by
  rcases h.save_cases new with ⟨e', s', hrun, hmirrors, -⟩ | ⟨s', hrun, -⟩
  · rw [hrun]
    exact hmirrors
  · rw [hrun] at herror
    cases herror

/-- after others have used the machine -/
theorem elsewhere {m : Machine} (ready : m.Ready s.disk.stateFile)
    (same : m.tree.read s.disk.stateFile = s.machine.tree.read s.disk.stateFile) :
    Mirrors { s with machine := m } store := by
  have hholds := h.holds
  rw [Site.Holds, ← same] at hholds
  exact ⟨ready, hholds, h.settled, h.cached, h.calm⟩

end Mirrors

/-! ## runs -/

/-- There is no state file and these are no items, or it is an object without decimal numbers that
is read as these items. -/
def Site.Opens (s : Site) (items : Items) : Prop :=
  (s.machine.tree.read s.disk.stateFile = .error .notFound ∧ items = ∅) ∨
    ∃ content j, s.machine.tree.read s.disk.stateFile = .ok content ∧
      Json.ofBytes? content = some j ∧ j.Exact ∧ j.settledItems? = some items

/-- A store in a file that was opened on a file, and one in memory that started with the items of
the file, after the same calls. The items that were saved can be kept, and a call that failed is
not made in memory. Between the calls the store in the file was opened anew, and others have used
the machine but left the file as it was. -/
inductive Together : Site → MemoryStore → Prop
  | start {s : Site} {store : MemoryStore} (ready : s.machine.Ready s.disk.stateFile)
      (opens : s.Opens store.items) (unread : s.disk.items = none) (calm : store.failures = 0) :
      Together s store
  | load {s : Site} {store : MemoryStore} (h : Together s store) (keys : List String) :
      Together (s.run (Disk.load keys)).2 store
  | saved {s : Site} {store : MemoryStore} (h : Together s store) {new : Items}
      (hnew : new.Settled) (hok : (s.run (Disk.save new)).1 = .ok ()) :
      Together (s.run (Disk.save new)).2 (store.save new).2
  | unsaved {s : Site} {store : MemoryStore} (h : Together s store) {new : Items}
      {e : StorageError} (herror : (s.run (Disk.save new)).1 = .error e) :
      Together (s.run (Disk.save new)).2 store
  | reopen {s : Site} {store : MemoryStore} (h : Together s store) : Together s.reopen store
  | elsewhere {s : Site} {store : MemoryStore} (h : Together s store) {m : Machine}
      (ready : m.Ready s.disk.stateFile)
      (same : m.tree.read s.disk.stateFile = s.machine.tree.read s.disk.stateFile) :
      Together { s with machine := m } store

theorem Together.mirrors {s : Site} {store : MemoryStore} (h : Together s store) :
    Mirrors s store := by
  induction h with
  | start ready opens unread calm =>
    rcases opens with ⟨hread, hempty⟩ | ⟨content, j, hread, hj, hexact, hitems⟩
    · exact ⟨ready, .inl ⟨hread, hempty⟩, hempty ▸ .empty, .inl unread, calm⟩
    · refine ⟨ready, .inr ⟨content, hread, ?_⟩, .of_settledItems? hexact hitems, .inl unread, calm⟩
      rw [hj, Option.bind_some, hitems]
  | load _ keys ih => exact ih.loaded keys
  | saved _ hnew hok ih => exact ih.saved hnew hok
  | unsaved _ herror ih => exact ih.unsaved herror
  | reopen _ ih => exact ih.reopen
  | elsewhere _ ready same ih => exact ih.elsewhere ready same

end Blocklist
