import Blocklist.Machine
import Blocklist.Proofs.FileTrees
import Blocklist.Proofs.JsonText

/-!
# Files of JSON

A machine where the directory of a file is there. The file is read as what it says and written
through a draft beside it; afterwards it says what was written, and the other files say what they
said.

* `FileTree.Says`           what a file says, if there is one;
* `AboutFiles`              answers that are not about JSON; those of writing are of this kind
                            (`aboutFiles_writeJson`);
* `createDirAll_directory`  a directory that is there is left as it is;
* `readJson_join`           what a file of the directory says is what reading it answers;
* `writeJson_join`          the tree after a file of the directory was written;
* `says_written`, `says_unwritten`   what the files say then.
-/

namespace Blocklist

/-- what a file of JSON says, if there is one -/
def FileTree.Says {α : Type} (t : FileTree) (l : Location) (read : Json → Option α)
    (o : Option α) : Prop :=
  match o with
  | none => t.entry? l = none
  | some a => ∃ content,
    t.entry? l = some (.file content) ∧ (Json.ofBytes? content).bind read = some a

/-! ## what the calls do not answer -/

section
variable {α β : Type}

/-- The answer is not that of a reader of JSON. -/
def AboutFiles (x : Except IoError α) : Prop := x ≠ .error .notJson

theorem aboutFiles_ok (a : α) : AboutFiles (.ok a) := nofun

theorem aboutFiles_error {e : IoError} (h : e ≠ .notJson) : AboutFiles (.error e : Except _ α) :=
  fun heq => h (Except.error.inj heq)

/-- an error that is passed on -/
theorem AboutFiles.of_eq_error {x : Except IoError α} (h : AboutFiles x) {e : IoError}
    (he : x = .error e) : AboutFiles (.error e : Except IoError β) :=
  fun heq => h (he.trans (congrArg _ (Except.error.inj heq)))

theorem AboutFiles.bind {x : Except IoError α} {f : α → Except IoError β} (hx : AboutFiles x)
    (hf : ∀ a, AboutFiles (f a)) : AboutFiles (x >>= f) := by
  cases x with
  | error e => exact hx.of_eq_error rfl
  | ok a => exact hf a

end

namespace FileTree

variable {t : FileTree}

theorem aboutFiles_find (l : Location) : AboutFiles (t.find l) := by
  rw [find]
  split
  · exact aboutFiles_error (by decide)
  · exact aboutFiles_ok _

theorem aboutFiles_enter (dir : Location) (step : String) : AboutFiles (t.enter dir step) := by
  rw [enter]
  split
  · exact aboutFiles_ok _
  · split
    · exact aboutFiles_ok _
    · dsimp only
      split
      · next he => exact (aboutFiles_find _).of_eq_error he
      · exact aboutFiles_error (by decide)
      · exact aboutFiles_error (by decide)
      · exact aboutFiles_ok _

theorem aboutFiles_walk (slash : Bool) (dir : Location) (steps : List String) :
    AboutFiles (t.walk slash dir steps) := by
  fun_induction walk t slash dir steps with
  | case1 => exact aboutFiles_ok _
  | case2 => exact aboutFiles_ok _
  | case3 => exact aboutFiles_ok _
  | case4 => exact aboutFiles_ok _
  | case5 _ _ _ _ _ he => exact (aboutFiles_enter _ _).of_eq_error he
  | case6 _ _ _ _ _ _ ih => exact ih

theorem aboutFiles_locate (path : String) : AboutFiles (t.locate path) := by
  rw [locate]
  split
  · exact aboutFiles_error (by decide)
  · split
    · exact aboutFiles_error (by decide)
    · split
      · exact aboutFiles_error (by decide)
      · exact aboutFiles_walk _ _ _

theorem aboutFiles_write (path : String) (content : ByteArray) :
    AboutFiles (t.write path content) := by
  refine (aboutFiles_locate path).bind fun p => ?_
  split
  · exact aboutFiles_error (by decide)
  · refine (aboutFiles_find p.location).bind fun o => ?_
    split
    · exact aboutFiles_error (by decide)
    · exact aboutFiles_ok _

theorem aboutFiles_makeDir (path : String) : AboutFiles (t.makeDir path) := by
  refine (aboutFiles_locate path).bind fun p => (aboutFiles_find p.location).bind fun o => ?_
  split
  · exact aboutFiles_error (by decide)
  · exact aboutFiles_ok _

theorem aboutFiles_rename (source target : String) : AboutFiles (t.rename source target) := by
  refine (aboutFiles_locate source).bind fun p => (aboutFiles_locate target).bind fun q => ?_
  split
  · exact aboutFiles_error (by decide)
  · refine (aboutFiles_find p.location).bind fun o => ?_
    split
    · exact aboutFiles_error (by decide)
    · exact aboutFiles_error (by decide)
    · refine (aboutFiles_find q.location).bind fun o => ?_
      split
      · exact aboutFiles_error (by decide)
      · split
        · exact aboutFiles_error (by decide)
        · exact aboutFiles_ok _

end FileTree

/-! ## calls on a machine -/

section
variable {m m' : Machine} {path : String}

theorem Machine.onTree_ok {f : FileTree → Except IoError FileTree} {t : FileTree}
    (h : f m.tree = .ok t) : Machine.onTree f m = (.ok (), { m with tree := t }) := by
  rw [Machine.onTree, h]

theorem Machine.onTree_error {f : FileTree → Except IoError FileTree} {e : IoError}
    (h : f m.tree = .error e) : Machine.onTree f m = (.error e, m) := by
  rw [Machine.onTree, h]

theorem ensureDir_ok {t : FileTree} (h : m.tree.makeDir path = .ok t) :
    (ensureDir path : StateM Machine (Except IoError Unit)) m = (.ok (), { m with tree := t }) := by
  have hmake : (FileSystem.makeDir path : StateM Machine _) m = (.ok (), { m with tree := t }) :=
    Machine.onTree_ok h
  simp only [ensureDir, bind, StateT.bind, hmake]
  rfl

theorem ensureDir_error {e : IoError} (h : m.tree.makeDir path = .error e) :
    (ensureDir path : StateM Machine (Except IoError Unit)) m =
      (if m.tree.isDir path then .ok () else .error e, m) := by
  have hmake : (FileSystem.makeDir path : StateM Machine _) m = (.error e, m) :=
    Machine.onTree_error h
  simp only [ensureDir, bind, StateT.bind, hmake]
  rfl

theorem aboutFiles_ensureDir (m : Machine) (path : String) :
    AboutFiles ((ensureDir path : StateM Machine _) m).1 := by
  cases h : m.tree.makeDir path with
  | ok t =>
    rw [ensureDir_ok h]
    exact aboutFiles_ok _
  | error e =>
    rw [ensureDir_error h]
    dsimp only
    split
    · exact aboutFiles_ok _
    · exact (FileTree.aboutFiles_makeDir path).of_eq_error h

theorem aboutFiles_bind {α β : Type} {x : StateM Machine (Except IoError α)}
    {f : Except IoError α → StateM Machine (Except IoError β)} (hx : ∀ m, AboutFiles (x m).1)
    (hf : ∀ a, AboutFiles a → ∀ m, AboutFiles (f a m).1) (m : Machine) :
    AboutFiles ((x >>= f) m).1 :=
  hf _ (hx m) _

theorem aboutFiles_createDirsUpTo (depth : Nat) (path : String) (m : Machine) :
    AboutFiles ((createDirsUpTo depth path : StateM Machine _) m).1 := by
  induction depth generalizing m path with
  | zero =>
    unfold createDirsUpTo
    split
    · exact aboutFiles_ok _
    · refine aboutFiles_bind (fun m => aboutFiles_ensureDir m path) (fun a ha m => ?_) m
      split
      · exact aboutFiles_error (by decide)
      · exact ha
  | succ depth ih =>
    unfold createDirsUpTo
    split
    · exact aboutFiles_ok _
    · refine aboutFiles_bind (fun m => aboutFiles_ensureDir m path) (fun a ha m => ?_) m
      split
      · cases Path.parent? path with
        | none => exact aboutFiles_error (by decide)
        | some parent =>
          refine aboutFiles_bind (ih parent) (fun a ha m => ?_) m
          split
          · exact ha
          · exact aboutFiles_ensureDir m path
      · exact ha

theorem Machine.run_bind {α β : Type} (x : ExceptT IoError (StateM Machine) α)
    (f : α → ExceptT IoError (StateM Machine) β) (m : Machine) :
    (x >>= f).run m =
      match x.run m with
      | (.error e, m) => (.error e, m)
      | (.ok a, m) => (f a).run m := by
  show (ExceptT.bindCont f (x.run m).1) (x.run m).2 = _
  rcases x.run m with ⟨_ | _, _⟩ <;> rfl

/-- the three steps of writing a file -/
theorem writeJson_run {parent : String} (h : Path.parent? path = some parent) (j : Json)
    (m : Machine) :
    (writeJson path j : StateM Machine _) m =
      match (createDirAll parent : StateM Machine _) m with
      | (.error e, m) => (.error e, m)
      | (.ok (), m) =>
        match m.tree.write (draftPath path) j.pretty.toUTF8 with
        | .error e => (.error e, m)
        | .ok t =>
          match t.rename (draftPath path) path with
          | .error e => (.error e, { m with tree := t })
          | .ok t => (.ok (), { m with tree := t }) := by
  have hwrite : ∀ m : Machine,
      (FileSystem.writeFile (draftPath path) j.pretty.toUTF8 : StateM Machine _) m =
        Machine.onTree (fun t => t.write (draftPath path) j.pretty.toUTF8) m := fun _ => rfl
  have hrename : ∀ m : Machine, (FileSystem.rename (draftPath path) path : StateM Machine _) m =
      Machine.onTree (fun t => t.rename (draftPath path) path) m := fun _ => rfl
  unfold writeJson
  rw [h]
  dsimp only
  rw [Machine.run_bind, ExceptT.run_mk]
  rcases (createDirAll parent : StateM Machine _) m with ⟨e | _, m₁⟩
  · rfl
  · dsimp only
    rw [Machine.run_bind, ExceptT.run_mk, ExceptT.run_mk, hwrite, Machine.onTree]
    cases m₁.tree.write (draftPath path) j.pretty.toUTF8 with
    | error e => rfl
    | ok t =>
      dsimp only
      rw [hrename, Machine.onTree]
      cases t.rename (draftPath path) path with
      | error e => rfl
      | ok t => rfl

theorem aboutFiles_writeJson {parent : String} (h : Path.parent? path = some parent) (j : Json)
    (m : Machine) : AboutFiles ((writeJson path j : StateM Machine _) m).1 := by
  have hcreate : AboutFiles ((createDirAll parent : StateM Machine _) m).1 :=
    aboutFiles_createDirsUpTo _ parent m
  rw [writeJson_run h]
  generalize (createDirAll parent : StateM Machine _) m = r at hcreate ⊢
  rcases r with ⟨e | _, m₁⟩
  · exact hcreate
  · dsimp only
    split
    · next he => exact (FileTree.aboutFiles_write _ _).of_eq_error he
    · split
      · next he => exact (FileTree.aboutFiles_rename _ _).of_eq_error he
      · exact aboutFiles_ok _

/-- what the three steps have done when a file was written -/
theorem writeJson_ok {parent : String} (h : Path.parent? path = some parent) {j : Json}
    (hok : (writeJson path j : StateM Machine _) m = (.ok (), m')) :
    ∃ m₁ t₁ t₂, (createDirAll parent : StateM Machine _) m = (.ok (), m₁) ∧
      m₁.tree.write (draftPath path) j.pretty.toUTF8 = .ok t₁ ∧
      t₁.rename (draftPath path) path = .ok t₂ ∧ m' = { m₁ with tree := t₂ } := by
  rw [writeJson_run h] at hok
  rcases hcreate : (createDirAll parent : StateM Machine _) m with ⟨e | _, m₁⟩
  · rw [hcreate] at hok
    cases hok
  · simp only [hcreate] at hok
    cases hwrite : m₁.tree.write (draftPath path) j.pretty.toUTF8 with
    | error e =>
      simp only [hwrite] at hok
      cases hok
    | ok t₁ =>
      simp only [hwrite] at hok
      cases hrename : t₁.rename (draftPath path) path with
      | error e =>
        simp only [hrename] at hok
        cases hok
      | ok t₂ =>
        simp only [hrename] at hok
        cases hok
        exact ⟨m₁, t₁, t₂, rfl, hwrite, hrename, rfl⟩

end

/-! ## files of a directory -/

section
variable {m m' : Machine} {dir : String} {l : Location}

/-- a directory that is there is left as it is -/
theorem createDirAll_directory {path : String} (h : FileTree.Spellable path)
    (hdir : path ≠ "" → m.tree.directory path = .ok l) :
    (createDirAll path : StateM Machine _) m = (.ok (), m) := by
  rw [createDirAll]
  by_cases hempty : path = ""
  · unfold createDirsUpTo
    rw [if_pos hempty]
    rfl
  · have hfind := FileTree.find_directory (hdir hempty)
    obtain ⟨p, hwalk, hp⟩ :=
      FileTree.walk_enterAll (path.toList.getLast? = some '/') (hdir hempty)
    have hlocate := (h.locate hempty).trans hwalk
    have hmake : m.tree.makeDir path = .error .alreadyExists := by
      rw [FileTree.makeDir, hlocate]
      show (m.tree.find p.location >>= _) = _
      rw [hp, hfind]
      rfl
    have hisDir : m.tree.isDir path = true := by
      rw [FileTree.isDir, hlocate]
      simp only [hp, hfind]
    have hensure : (ensureDir path : StateM Machine _) m = (.ok (), m) := by
      rw [ensureDir_error hmake, if_pos hisDir]
    unfold createDirsUpTo
    rw [if_neg hempty]
    simp only [bind, StateT.bind, hensure]
    rfl

theorem readJson_run {α : Type} (read : Json → Option α) (path : String) (m : Machine) :
    (readJson read path : StateM Machine _) m =
      (match m.tree.read path with
        | .error .notFound => .ok none
        | .error e => .error e
        | .ok bytes =>
          match (Json.ofBytes? bytes).bind read with
          | some a => .ok (some a)
          | none => .error .notJson, m) := by
  have hfile : (FileSystem.readFile path : StateM Machine _) m = (m.tree.read path, m) := rfl
  simp only [readJson, bind, StateT.bind, hfile]
  cases m.tree.read path with
  | error e => cases e <;> rfl
  | ok bytes =>
    dsimp only
    cases (Json.ofBytes? bytes).bind read <;> rfl

/-- What a file of the directory says is what reading it answers, unless reading fails. -/
theorem readJson_join {α : Type} (hdir : m.tree.directory dir = .ok l) {name : String}
    (hname : Path.IsName name) {read : Json → Option α} {o : Option α}
    (h : m.tree.Says (l ++ [name]) read o) :
    (readJson read (Path.join dir name) : StateM Machine _) m = (.ok o, m) ∨
      ∃ e, e ≠ .notJson ∧
        (readJson read (Path.join dir name) : StateM Machine _) m = (.error e, m) := by
  rw [readJson_run]
  rcases FileTree.read_join hdir hname with ⟨e, hfound, hjson, hread⟩ | hread
  · refine .inr ⟨e, hjson, ?_⟩
    rw [hread]
    cases e
    case notFound => exact absurd rfl hfound
    all_goals rfl
  · left
    cases o with
    | none =>
      have hnone : m.tree.entry? (l ++ [name]) = none := h
      simp only [hread, hnone]
    | some a =>
      obtain ⟨content, hfile, hcontent⟩ := h
      simp only [hread, hfile, hcontent]

/-- The tree after a file of the directory was written. -/
theorem writeJson_join (hdir : m.tree.directory dir = .ok l) {id : String} (hid : '/' ∉ id.toList)
    {j : Json}
    (hok : (writeJson (Path.join dir (id ++ ".json")) j : StateM Machine _) m = (.ok (), m')) :
    m'.tree.directory dir = .ok l ∧ ∀ l', m'.tree.entry? l' =
      if l' = l ++ [id ++ ".json"] then some (.file j.pretty.toUTF8)
      else if l' = l ++ [draftName id] then none
      else m.tree.entry? l' := by
  obtain ⟨parent, hparent, hnames, habsolute, hinit⟩ := Path.parent?_join (isName_json hid) dir
  obtain ⟨m₁, t₁, t₂, hcreate, hwrite, hrename, rfl⟩ := writeJson_ok hparent hok
  have hspell := FileTree.spellable_of_rename hrename
  -- nothing had to be made for the directory
  have hthere := createDirAll_directory (hspell.of_prefix hinit) fun hne =>
    (FileTree.directory_congr hnames (habsolute hne)).trans hdir
  obtain rfl : m = m₁ := congrArg Prod.snd (hthere.symm.trans hcreate)
  exact FileTree.replace_join hdir hid hwrite hrename

section
variable {α : Type} {read : Json → Option α} (hdir : m.tree.directory dir = .ok l) {id : String}
  (hid : '/' ∉ id.toList) {j : Json}
  (hok : (writeJson (Path.join dir (id ++ ".json")) j : StateM Machine _) m = (.ok (), m'))
include hdir hid hok

/-- the file that was written says what was written -/
theorem says_written (hj : j.Exact) {a : α} (hread : read j = some a) :
    m'.tree.Says (l ++ [id ++ ".json"]) read (some a) := by
  obtain ⟨-, hentry⟩ := writeJson_join hdir hid hok
  refine ⟨j.pretty.toUTF8, ?_, ?_⟩
  · rw [hentry, if_pos rfl]
  · rw [Json.ofBytes?_pretty hj, Option.bind_some, hread]

/-- another file says what it said -/
theorem says_unwritten {id' : String} (hne : id' ≠ id) {o : Option α}
    (h : m.tree.Says (l ++ [id' ++ ".json"]) read o) :
    m'.tree.Says (l ++ [id' ++ ".json"]) read o := by
  obtain ⟨-, hentry⟩ := writeJson_join hdir hid hok
  have hfile : l ++ [id' ++ ".json"] ≠ l ++ [id ++ ".json"] := fun heq =>
    hne (json_inj (List.singleton_inj.mp (List.append_cancel_left heq)))
  have hdraft : l ++ [id' ++ ".json"] ≠ l ++ [draftName id] := fun heq =>
    json_ne_draftName id' id (List.singleton_inj.mp (List.append_cancel_left heq))
  have hsame : m'.tree.entry? (l ++ [id' ++ ".json"]) = m.tree.entry? (l ++ [id' ++ ".json"]) := by
    rw [hentry, if_neg hfile, if_neg hdraft]
  cases o with
  | none => exact hsame.trans h
  | some a =>
    obtain ⟨content, hcontent, hread⟩ := h
    exact ⟨content, hsame.trans hcontent, hread⟩

end

end

end Blocklist
