import Blocklist.Cli
import Blocklist.Proofs.FiledBlockers

/-!
# Commands on the files of a blocker

A command opens the blocker that is kept in the files, applies one operation to it and prints what
came of it. It ends with files that say what the blocker is, be the operation accepted or refused.

* `Cli.Session.Still`        sessions that only print;
* `Cli.Resumable`            files from which a blocker can be opened;
* `Cli.Filed`                files that say what some blocker is;
* `Cli.openBlocker_on`       opening succeeds where there is a client for requests;
* `Cli.withBlocker_filed`    then one operation;
* `Cli.invocation_filed`     each command;
* `Cli.invocation_without_client`   each command where there is no client.
-/

namespace Blocklist.Cli

/-! ## sessions -/

namespace Session

variable {α β ε : Type}

/-- run a session that has printed `out` -/
def on (x : Session (StateM Machine) α) (out : String) (m : Machine) :
    (Except String α × String) × Machine := x.run.run out m

/-- the machine is what it was -/
def Still (x : Session (StateM Machine) α) : Prop := ∀ out m, (x.on out m).2 = m

theorem on_bind (x : Session (StateM Machine) α) (f : α → Session (StateM Machine) β)
    (out : String) (m : Machine) :
    (x >>= f).on out m =
      match x.on out m with
      | ((.ok a, out), m) => (f a).on out m
      | ((.error e, out), m) => ((.error e, out), m) := by
  unfold on
  rw [ExceptT.run_bind, StateT.run_bind, bind_apply]
  rcases x.run.run out m with ⟨⟨e | a, out'⟩, m'⟩ <;> rfl

theorem on_bind_ok {x : Session (StateM Machine) α} {f : α → Session (StateM Machine) β}
    {out out' : String} {m m' : Machine} {a : α} (h : x.on out m = ((.ok a, out'), m')) :
    (x >>= f).on out m = (f a).on out' m' := by
  rw [on_bind, h]

theorem on_bind_error {x : Session (StateM Machine) α} {f : α → Session (StateM Machine) β}
    {out out' e : String} {m m' : Machine} (h : x.on out m = ((.error e, out'), m')) :
    (x >>= f).on out m = ((.error e, out'), m') := by
  rw [on_bind, h]

/-- what is done at the end leaves the machine as it is -/
theorem machine_bind {x : Session (StateM Machine) α} {f : α → Session (StateM Machine) β}
    (hf : ∀ a, Still (f a)) (out : String) (m : Machine) :
    ((x >>= f).on out m).2 = (x.on out m).2 := by
  rw [on_bind]
  rcases x.on out m with ⟨⟨e | a, out'⟩, m'⟩
  · rfl
  · exact hf a out' m'

theorem still_pure (a : α) : Still (pure a) := fun _ _ => rfl

theorem still_throw (e : String) : Still (throw e : Session (StateM Machine) α) := fun _ _ => rfl

theorem still_printLine (line : String) : Still (printLine line) := fun _ _ => rfl

theorem Still.bind {x : Session (StateM Machine) α} {f : α → Session (StateM Machine) β}
    (hx : Still x) (hf : ∀ a, Still (f a)) : Still (x >>= f) :=
  fun out m => (machine_bind hf out m).trans (hx out m)

theorem still_check (say : ε → String) (x : Except ε α) : Still (check say x) := by
  cases x with
  | error e => exact still_throw _
  | ok a => exact still_pure a

theorem outside_on (x : StateM Machine α) (out : String) (m : Machine) :
    (outside x).on out m = ((.ok (x m).1, out), (x m).2) := rfl

theorem call_on (say : ε → String) (x : StateM Machine (Except ε α)) (out : String) (m : Machine) :
    (call say x).on out m = (((x m).1.mapError say, out), (x m).2) := by
  rw [call, on_bind, outside_on]
  cases (x m).1 <;> rfl

/-- the client of the machine, or why there is none -/
theorem createClient_on (out : String) (m : Machine) :
    (call noClient HttpClient.create).on out m = ((m.web.client.mapError noClient, out), m) :=
  call_on noClient HttpClient.create out m

theorem still_outside {x : StateM Machine α} (h : ∀ m, (x m).2 = m) : Still (outside x) :=
  fun out m => by rw [outside_on, h]

theorem still_forIn {l : List α} {f : α → β → Session (StateM Machine) (ForInStep β)}
    (hf : ∀ a b, Still (f a b)) (b : β) : Still (forIn l b f) := by
  induction l generalizing b with
  | nil => exact still_pure b
  | cons a l ih =>
    rw [List.forIn_cons]
    refine (hf a b).bind fun step => ?_
    cases step with
    | done b => exact still_pure b
    | yield b => exact ih b

/-- a line for each entry -/
theorem still_printLines (l : List α) (line : α → String) :
    Still (forIn l PUnit.unit fun a _ => do
      printLine (line a)
      pure (ForInStep.yield PUnit.unit)) :=
  still_forIn (fun _ _ => (still_printLine _).bind fun _ => still_pure _) _

end Session

open Session

/-! ## the blocker in the files -/

def Places.disk (places : Places) : Disk :=
  { rulesetDir := places.rulesets, stateFile := places.state }

/-- the configuration that is found where the arguments say, or the built-in one -/
def Places.Configures (places : Places) (config : SyncConfig) (m : Machine) : Prop :=
  places.config.elim (config = .default) fun path =>
    ((SyncConfig.load path : StateM Machine _) m).1 = .ok config

/-- the commands that work on the blocker -/
def Command.isOnBlocker : Command → Bool
  | .parse .. | .compile .. => false
  | _ => true

variable {α : Type} {config : SyncConfig} {places : Places} {out : String} {m : Machine}

theorem load_same (path : String) (m : Machine) :
    ((SyncConfig.load path : StateM Machine _) m).2 = m := by
  have hsame := Site.readText_same path m
  rw [SyncConfig.load, bind_apply, hsame]
  cases ((readText path : StateM Machine _) m).1 <;> rfl

theorem loadConfig_on (configures : places.Configures config m) :
    (loadConfig places.config).on out m = ((.ok config, out), m) := by
  rw [Places.Configures] at configures
  cases hpath : places.config with
  | none =>
    rw [hpath] at configures
    rw [show config = .default from configures]
    rfl
  | some path =>
    rw [hpath] at configures
    have hload : (SyncConfig.load path : StateM Machine _) m = (.ok config, m) :=
      Prod.ext configures (load_same path m)
    show (outside (SyncConfig.load path) >>= _).on out m = _
    rw [on_bind, outside_on, hload]
    rfl

theorem apply_on {k : Kept} {act : Blocker.Action SiteM α} {answer : Except SyncError α}
    {b : Blocker} {s : Site} (h : act.atSite.on k.blocker ⟨k.disk, m⟩ = ((answer, b), s))
    (say : SyncError → String) :
    (k.apply say act).on out m =
      (((answer.mapError say).map fun a => (a, ⟨b, s.disk⟩), out), s.machine) := by
  rcases hrun : act.on k.blocker k.disk m with ⟨⟨⟨answer', b'⟩, disk⟩, m'⟩
  rw [Blocker.Action.on_atSite, Site.run, hrun] at h
  cases h
  rw [Kept.apply, on_bind, outside_on, show (act.on k.blocker).run k.disk m = _ from hrun]
  cases answer <;> rfl

/-- counting the rules of a tier changes nothing -/
theorem rules_same (tier : Tier) (d : Disk) (m : Machine) :
    (((Disk.rules tier : SiteM _).run' d : StateM Machine _) m).2 = m := by
  obtain ⟨answer, hread⟩ := Site.readTable_same tier ⟨d, m⟩
  show ((Disk.rules tier : SiteM _) d m).2 = m
  rw [Disk.rules, Disk.asEngine_run, Disk.run_bind, hread]
  cases answer <;> rfl

theorem still_printReport (r : RefreshReport) : Still (printReport r) := by
  rw [printReport]
  refine (still_printLines _ _).bind fun _ => (still_printLines _ _).bind fun _ =>
    (still_printLines _ _).bind fun _ => ?_
  cases r.persistError with
  | none => exact still_pure _
  | some e => exact still_printLine _

/-! ## what the files say -/

/-- a new blocker can take over what the files say -/
def Resumable (config : SyncConfig) (d : Disk) (m : Machine) : Prop :=
  ∃ f, (⟨d, m⟩ : Site).Says config d f ∧ Blocker.Resumable config f

/-- the files say what some blocker is -/
def Filed (config : SyncConfig) (d : Disk) (m : Machine) : Prop :=
  ∃ b f, (⟨d, m⟩ : Site).Says config d f ∧ Blocker.Filed config b f

theorem Filed.resumable {d : Disk} (h : Filed config d m) : Resumable config d m := by
  obtain ⟨b, f, files, filed⟩ := h
  exact ⟨f, files, filed.resumable⟩

section
variable (hvalid : config.validate = .ok ()) (apart : config.FilesApart places.disk)
  (configures : places.Configures config m) (h : Resumable config places.disk m)
  (client : m.web.client = .ok ())
include hvalid apart configures h client

/-- A blocker is opened, and the files say what it is. -/
theorem openBlocker_on (out : String) :
    ∃ (b : Blocker) (s : Site) (f : Filing),
      (openBlocker places).on out m = ((.ok ⟨b, s.disk⟩, out), s.machine) ∧
      s.Says config places.disk f ∧ Blocker.Filed config b f := by
  obtain ⟨f, files, resumable⟩ := h
  obtain ⟨b, s, f', hrestore, files', filed⟩ := resumable.restore apart files
  refine ⟨b, s, f', ?_, files', filed⟩
  have hnew : Blocker.new config = .ok (.ofConfig config) :=
    Blocker.new_eq_ok_iff.mpr ⟨hvalid, rfl⟩
  rw [← Blocker.atSite_restore] at hrestore
  let k : Kept := ⟨.ofConfig config, places.disk⟩
  have happly : ∀ say, (k.apply say Blocker.restore).on out m =
      ((.ok ((), ⟨b, s.disk⟩), out), s.machine) := by
    intro say
    rw [apply_on hrestore say]
    rfl
  have hclient : (call noClient HttpClient.create).on out m = ((.ok (), out), m) := by
    rw [createClient_on, client]
    rfl
  rw [openBlocker, on_bind_ok (loadConfig_on configures), on_bind_ok hclient, hnew]
  show Session.on (_ >>= _) out m = _
  rw [on_bind_ok (rfl : (check SyncError.message (.ok (Blocker.ofConfig config))).on out m = _)]
  exact (on_bind_ok (happly _)).trans rfl

/-- After an operation on an opened blocker, the files say what it is. -/
theorem withBlocker_filed (op : Blocker.Operation) {act : Blocker.Action SiteM α}
    (hact : ∀ b s, act.atSite.after b s = op.run b s) (out : String) :
    Filed config places.disk ((withBlocker places act).on out m).2 := by
  obtain ⟨b, s, f, hopen, files, filed⟩ := openBlocker_on hvalid apart configures h client out
  rw [withBlocker, on_bind_ok hopen, machine_bind fun _ => still_pure _]
  rcases hrun : act.atSite.on b s with ⟨⟨answer, b'⟩, s'⟩
  rw [apply_on hrun]
  obtain ⟨f', files', filed'⟩ := filed.ending apart files (op.ending b s)
  rw [← hact, Blocker.Action.after_eq hrun] at files' filed'
  exact ⟨b', f', files'.reopen, filed'⟩

theorem refresh_filed (force : Bool) (out : String) :
    Filed config places.disk ((refresh places force).on out m).2 := by
  rw [refresh, machine_bind fun report => ?_]
  · exact withBlocker_filed hvalid apart configures h client (.refresh force)
      (fun b s => by rw [Blocker.atSite_refresh]; rfl) out
  · refine (still_printReport report).bind fun _ => ?_
    by_cases hfailed : report.failed ≠ []
    · simp only [if_pos hfailed]
      refine (still_throw _).bind fun _ => ?_
      split
      · exact still_throw _
      · exact still_pure _
    · simp only [if_neg hfailed]
      split
      · exact still_throw _
      · exact still_pure _

theorem addCustom_filed (filter : String) (out : String) :
    Filed config places.disk ((addCustom places filter).on out m).2 := by
  rw [addCustom, machine_bind fun _ => still_printLine _]
  exact withBlocker_filed hvalid apart configures h client (.addCustomFilter filter)
    (fun b s => by rw [Blocker.atSite_addCustomFilter]; rfl) out

theorem removeCustom_filed (id : RuleId) (out : String) :
    Filed config places.disk ((removeCustom places id).on out m).2 := by
  rw [removeCustom, machine_bind fun _ => still_printLine _]
  exact withBlocker_filed hvalid apart configures h client (.removeCustomFilter id)
    (fun b s => by rw [Blocker.atSite_removeCustomFilter]; rfl) out

theorem whitelist_filed (domain : String) (out : String) :
    Filed config places.disk ((whitelist places domain).on out m).2 := by
  rw [whitelist, machine_bind fun on => ?_]
  · exact withBlocker_filed hvalid apart configures h client (.toggleWhitelist domain)
      (fun b s => by rw [Blocker.atSite_toggleWhitelist]; rfl) out
  · cases on <;> exact still_printLine _

theorem setEnabled_filed (list : Option String) (enabled : Bool) (out : String) :
    Filed config places.disk ((setEnabled places list enabled).on out m).2 := by
  cases list with
  | none =>
    rw [setEnabled, machine_bind fun _ => still_printLine _]
    exact withBlocker_filed hvalid apart configures h client (.setEnabled enabled)
      (fun b s => by rw [Blocker.atSite_setEnabled]; rfl) out
  | some id =>
    rw [setEnabled, machine_bind fun _ => still_printLine _]
    exact withBlocker_filed hvalid apart configures h client (.setListEnabled id enabled)
      (fun b s => by rw [Blocker.atSite_setListEnabled]; rfl) out

/-- what is only shown -/
theorem openBlocker_filed {f : Kept → Session (StateM Machine) α} (hf : ∀ k, Still (f k))
    (out : String) : Filed config places.disk ((openBlocker places >>= f).on out m).2 := by
  obtain ⟨b, s, f', hopen, files, filed⟩ := openBlocker_on hvalid apart configures h client out
  rw [machine_bind hf, hopen]
  exact ⟨b, f', files.reopen, filed⟩

theorem listCustom_filed (out : String) :
    Filed config places.disk ((listCustom places).on out m).2 := by
  refine openBlocker_filed hvalid apart configures h client (fun k => ?_) out
  exact (still_printLines _ _).bind fun _ => still_pure _

theorem stats_filed (out : String) : Filed config places.disk ((stats places).on out m).2 := by
  refine openBlocker_filed hvalid apart configures h client (fun k => ?_) out
  dsimp only
  refine (still_printLine _).bind fun _ => (still_printLine _).bind fun _ =>
    (still_printLine _).bind fun _ => ?_
  refine (still_forIn (fun l _ => ?_) _).bind fun _ => (still_printLine _).bind fun _ =>
    (still_printLine _).bind fun _ => still_printLine _
  refine ((still_outside (rules_same _ _)).bind fun _ => still_check _ _).bind fun _ =>
    (still_printLine _).bind fun _ => still_pure _

end

/-- After a command on the blocker the files say what it is, whatever the command prints. -/
theorem invocation_filed {i : Invocation} (hvalid : config.validate = .ok ())
    (apart : config.FilesApart i.places.disk) (configures : i.places.Configures config m)
    (h : Resumable config i.places.disk m) (client : m.web.client = .ok ())
    (command : i.command.isOnBlocker = true) (out : String) :
    Filed config i.places.disk (i.run.on out m).2 := by
  obtain ⟨places, command'⟩ := i
  cases command' with
  | parse filter id => cases command
  | compile inputs output verbose => cases command
  | refresh force => exact refresh_filed hvalid apart configures h client force out
  | addCustom filter => exact addCustom_filed hvalid apart configures h client filter out
  | removeCustom id => exact removeCustom_filed hvalid apart configures h client id out
  | listCustom => exact listCustom_filed hvalid apart configures h client out
  | whitelist domain => exact whitelist_filed hvalid apart configures h client domain out
  | setEnabled list enabled =>
    exact setEnabled_filed hvalid apart configures h client list enabled out
  | stats => exact stats_filed hvalid apart configures h client out

/-- Where there is no client, no blocker is opened. -/
theorem openBlocker_without_client {reason : String} (configures : places.Configures config m)
    (client : m.web.client = .error reason) (out : String) :
    (openBlocker places).on out m = ((.error (noClient reason), out), m) := by
  have hclient : (call noClient HttpClient.create).on out m =
      ((.error (noClient reason), out), m) := by
    rw [createClient_on, client]
    rfl
  rw [openBlocker, on_bind_ok (loadConfig_on configures), on_bind_error hclient]

/-- Where there is no client, a command on the blocker says so and changes nothing. -/
theorem invocation_without_client {i : Invocation} {reason : String}
    (configures : i.places.Configures config m) (client : m.web.client = .error reason)
    (command : i.command.isOnBlocker = true) (out : String) :
    i.run.on out m = ((.error (noClient reason), out), m) := by
  have hopen : ∀ {β : Type} (f : Kept → Session (StateM Machine) β),
      (openBlocker i.places >>= f).on out m = ((.error (noClient reason), out), m) :=
    fun f => on_bind_error (openBlocker_without_client configures client out)
  have hwith : ∀ {α β : Type} (act : Blocker.Action SiteM α) (f : α → Session (StateM Machine) β),
      (withBlocker i.places act >>= f).on out m = ((.error (noClient reason), out), m) :=
    fun act f => on_bind_error (hopen _)
  obtain ⟨places, command'⟩ := i
  cases command' with
  | parse filter id => cases command
  | compile inputs output verbose => cases command
  | refresh force => exact hwith _ _
  | addCustom filter => exact hwith _ _
  | removeCustom id => exact hwith _ _
  | listCustom => exact hopen _
  | whitelist domain => exact hwith _ _
  | setEnabled list enabled => cases list <;> exact hwith _ _
  | stats => exact hopen _

theorem machine_run {args : List String} {i : Invocation} (h : Invocation.parse args = .ok i)
    (m : Machine) : ((run args : StateM Machine Outcome) m).2 = (i.run.on "" m).2 := by
  rw [run, h]
  dsimp only
  rw [bind_apply, Session.on]
  rcases (i.run : Session (StateM Machine) Unit).run.run "" m with ⟨⟨_ | _, _⟩, _⟩ <;> rfl

theorem machine_run_unread {args : List String} {e : UsageError}
    (h : Invocation.parse args = .error e) (m : Machine) :
    ((run args : StateM Machine Outcome) m).2 = m := by
  rw [run, h]
  rfl

end Blocklist.Cli
