import Blocklist.Proofs.JsonFiles
import Blocklist.Proofs.WireTables

/-!
# Requests to an engine in files

What each request to an engine in files comes to: which file it reads, which one it writes, and its
answer. Requests are values, so that one engine can be asked what another one is.

* `EngineRequest`            a request, with its answers in files and in memory;
* `Site`, `Site.ask`         a machine and where the engine has its files on it;
* `Served`                   answers for which no call on files has failed;
* `Disk.readTable_run`, `Disk.readFlags_run`, `Disk.setEnabled_run`, `Disk.applyDiff_run`
                             one equation for each operation;
* `Disk.asEngine_of_read`, `Disk.written_of_served`   the answers when no call on files has failed.
-/

namespace Blocklist

/-- steps on a machine with files, by services that have their files there -/
abbrev SiteM : Type → Type := StateT Disk (StateM Machine)

/-! ## requests -/

/-- what an engine is asked, and what its answer is about -/
inductive EngineRequest : Type → Type where
  | activeIds (tier : Tier) : EngineRequest IdSet
  | applyDiff (tier : Tier) (d : RuleDiff) : EngineRequest Unit
  | setEnabled (tier : Tier) (enabled : Bool) : EngineRequest Unit
  | rules (tier : Tier) : EngineRequest (List Rule)
  | isEnabled (tier : Tier) : EngineRequest Bool

namespace EngineRequest

variable {α : Type}

def tier : EngineRequest α → Tier
  | activeIds tier | applyDiff tier _ | setEnabled tier _ | rules tier | isEnabled tier => tier

/-- the answer of the engine in files, on a machine -/
def onFiles : EngineRequest α → SiteM (Except EngineError α)
  | activeIds tier => Disk.activeIds tier
  | applyDiff tier d => Disk.applyDiff tier d
  | setEnabled tier enabled => Disk.setEnabled tier enabled
  | rules tier => Disk.rules tier
  | isEnabled tier => Disk.isEnabled tier

/-- the answer of the engine in memory -/
def inMemory : EngineRequest α → MemoryEngine → Except EngineError α × MemoryEngine
  | activeIds tier, e => e.activeIds tier
  | applyDiff tier d, e => e.applyDiff tier d
  | setEnabled tier enabled, e => e.setEnabled tier enabled
  | rules tier, e => (.ok (e.rules tier), e)
  | isEnabled tier, e => (.ok (e.isEnabled tier), e)

/-- an answer without what is not written on the wire -/
def onWire : EngineRequest α → α → α
  | rules _ => List.map Rule.wire
  | activeIds _ | applyDiff _ _ | setEnabled _ _ | isEnabled _ => id

end EngineRequest

/-- a machine, and where the engine has its files on it -/
structure Site where
  disk : Disk
  machine : Machine

namespace Site

variable {α : Type}

def ask (s : Site) (r : EngineRequest α) : Except EngineError α × Site :=
  let ((answer, disk), machine) := r.onFiles s.disk s.machine
  (answer, ⟨disk, machine⟩)

theorem ask_eq {s : Site} {r : EngineRequest α} {answer : Except EngineError α} {d : Disk}
    {m : Machine} (h : r.onFiles s.disk s.machine = ((answer, d), m)) :
    s.ask r = (answer, ⟨d, m⟩) := by
  rw [ask, h]

/-- the site, for an engine that starts on its files anew -/
def reopen (s : Site) : Site := { s with disk := s.disk.reopen }

end Site

/-- No call on files has failed. That a file is no JSON is not a failure of a call. -/
def Served {α : Type} (answer : Except EngineError α) : Prop :=
  ∀ e : IoError, answer = .error (.io e) → e = .notJson

theorem served_ok {α : Type} (a : α) : Served (.ok a) := nofun

theorem served_rejected {α : Type} (reason : String) :
    Served (.error (.rejected reason) : Except EngineError α) := nofun

/-! ## operations of the engine -/

namespace Disk

variable {α β : Type} {d : Disk} {m m' : Machine}

theorem run_bind (x : ExceptT IoError SiteM α) (f : α → ExceptT IoError SiteM β) (d : Disk)
    (m : Machine) :
    (x >>= f).run d m =
      match x.run d m with
      | ((.error e, d), m) => ((.error e, d), m)
      | ((.ok a, d), m) => (f a).run d m := by
  show (ExceptT.bindCont f (x.run d m).1.1) (x.run d m).1.2 (x.run d m).2 = _
  rcases x.run d m with ⟨⟨_ | _, _⟩, _⟩ <;> rfl

theorem site_bind (x : SiteM α) (f : α → SiteM β) (d : Disk) (m : Machine) :
    (x >>= f) d m = f (x d m).1.1 (x d m).1.2 (x d m).2 := rfl

theorem run_get (d : Disk) (m : Machine) :
    (get : ExceptT IoError SiteM Disk).run d m = ((.ok d, d), m) := rfl

theorem run_lift (x : StateM Machine (Except IoError α)) (d : Disk) (m : Machine) :
    (ExceptT.mk (liftM x) : ExceptT IoError SiteM α).run d m = (((x m).1, d), (x m).2) := rfl

theorem readTable_run (tier : Tier) (d : Disk) (m : Machine) :
    (readTable tier : ExceptT IoError SiteM _).run d m =
      match (readJson Rule.listOfJson? (d.rulesetPath tier) : StateM Machine _) m with
      | (.error e, m) => ((.error e, d), m)
      | (.ok o, m) => ((.ok (RuleTable.ofRules (o.getD [])), d), m) := by
  rw [readTable, run_bind, run_get]
  dsimp only
  rw [run_bind, run_lift]
  rcases (readJson Rule.listOfJson? (d.rulesetPath tier) : StateM Machine _) m with ⟨_ | _, _⟩
  · rfl
  · rfl

theorem enabledPath_eq (d : Disk) :
    d.enabledPath = Path.join d.rulesetDir ("enabled" ++ ".json") := by
  have hfile : enabledFile = "enabled" ++ ".json" := by decide
  rw [enabledPath, hfile]

theorem readFlags_run (d : Disk) (m : Machine) :
    (readFlags : ExceptT IoError SiteM _).run d m =
      match (readJson Flags.ofJson? d.enabledPath : StateM Machine _) m with
      | (.error e, m) => ((.error e, d), m)
      | (.ok o, m) => ((.ok (o.getD ∅), d), m) := by
  rw [readFlags, run_bind, run_get]
  dsimp only
  rw [run_bind, run_lift]
  rcases (readJson Flags.ofJson? d.enabledPath : StateM Machine _) m with ⟨_ | _, _⟩
  · rfl
  · rfl

theorem asEngine_run (x : ExceptT IoError SiteM α) (d : Disk) (m : Machine) :
    asEngine x d m =
      let r := x.run d m
      ((r.1.1.mapError .io, r.1.2), r.2) := by
  rw [asEngine, site_bind]
  rcases x.run d m with ⟨⟨_ | _, _⟩, _⟩
  · rfl
  · rfl

theorem setEnabled_run (tier : Tier) (enabled : Bool) (d : Disk) (m : Machine) :
    (setEnabled tier enabled : SiteM _) d m =
      match (readFlags : ExceptT IoError SiteM _).run d m with
      | ((.error e, d), m) => ((.error (.io e), d), m)
      | ((.ok flags, d), m) =>
        let r := (writeJson d.enabledPath (Flags.toJson (flags.insert tier.rulesetId enabled)) :
          StateM Machine _) m
        ((r.1.mapError .io, d), r.2) := by
  rw [setEnabled, asEngine_run, run_bind]
  rcases (readFlags : ExceptT IoError SiteM _).run d m with ⟨⟨_ | flags, d⟩, m⟩
  · rfl
  · dsimp only
    rw [run_bind, run_get]
    dsimp only
    rw [run_lift]

theorem applyDiff_run (tier : Tier) (diff : RuleDiff) (d : Disk) (m : Machine) :
    (applyDiff tier diff : SiteM _) d m =
      match (readTable tier : ExceptT IoError SiteM _).run d m with
      | ((.error e, d), m) => ((.error (.io e), d), m)
      | ((.ok t, d), m) =>
        match t.applyDiff tier diff with
        | .error e => ((.error e, d), m)
        | .ok t =>
          let r := (writeJson (d.rulesetPath tier) (Rule.listToJson t.rules) : StateM Machine _) m
          ((r.1.mapError .io, d), r.2) := by
  unfold applyDiff
  rw [site_bind]
  rcases (readTable tier : ExceptT IoError SiteM _).run d m with ⟨⟨_ | t, d⟩, m⟩
  · rfl
  · dsimp only
    cases t.applyDiff tier diff with
    | error e => rfl
    | ok t =>
      dsimp only
      rw [asEngine_run, writeTable, run_bind, run_get]
      dsimp only
      rw [run_lift]

/-- Reading gives `a` and changes nothing, unless a call on files fails. -/
def Yields (x : ExceptT IoError SiteM α) (d : Disk) (m : Machine) (a : α) : Prop :=
  x.run d m = ((.ok a, d), m) ∨ ∃ e, e ≠ .notJson ∧ x.run d m = ((.error e, d), m)

/-- what was read decides the answer of a request that only reads -/
theorem asEngine_of_read {x : ExceptT IoError SiteM β} {f : β → α} {b : β} (h : Yields x d m b)
    (served : Served (asEngine (do return f (← x)) d m).1.1) :
    asEngine (do return f (← x)) d m = ((.ok (f b), d), m) := by
  rw [asEngine_run, run_bind] at served ⊢
  rcases h with h | ⟨e, he, h⟩
  · rw [h]
    rfl
  · rw [h] at served
    exact absurd (served e rfl) he

/-- a file of the directory is written if no call on files fails -/
theorem written_of_served {dir id : String} (hid : '/' ∉ id.toList) {j : Json}
    (served : Served
      (((writeJson (Path.join dir (id ++ ".json")) j : StateM Machine _) m).1.mapError
        EngineError.io)) :
    ∃ m', (writeJson (Path.join dir (id ++ ".json")) j : StateM Machine _) m = (.ok (), m') := by
  obtain ⟨parent, hparent, -⟩ := Path.parent?_join (isName_json hid) dir
  have habout := aboutFiles_writeJson hparent j m
  rcases hwrite : (writeJson (Path.join dir (id ++ ".json")) j : StateM Machine _) m with
    ⟨e | _, m'⟩
  · rw [hwrite] at served habout
    exact absurd (congrArg Except.error (served e rfl)) habout
  · exact ⟨m', rfl⟩

end Disk

theorem Site.ask_of_read {α β : Type} {s : Site} {r : EngineRequest α}
    {x : ExceptT IoError SiteM β} {f : β → α} {b : β}
    (hr : r.onFiles = Disk.asEngine (do return f (← x)))
    (h : Disk.Yields x s.disk s.machine b) (served : Served (s.ask r).1) :
    s.ask r = (.ok (f b), s) := by
  apply ask_eq
  rw [ask, hr] at served
  rw [hr]
  exact Disk.asEngine_of_read h served

end Blocklist
