import Blocklist.Proofs.FileNames
import Blocklist.Proofs.JsonFiles

/-!
# Writing a file of JSON

A file is written wherever its path leads, directories being made for it. When it was written, it
says what was written; when writing fails at any step, it says what it said.

* `FileTree.locate_mono`, `FileTree.directory_of_locate`   where paths lead while no directory goes;
* `FileTree.read_rename`     a file that was moved over another one;
* `FileTree.read_file`       what reading a path depends on;
* `createDirAll_ok`          the directories that have been made are there;
* `Machine.Ready`            making the directories of a file leaves the file as it is;
* `writeJson_cases`          the two outcomes of writing.
-/

namespace Blocklist

namespace FileTree

variable {t t' : FileTree}

/-! ## what paths lead to -/

/-- a place with a name: the last step of the path is the name -/
theorem name_of_walk {slash : Bool} {dir : Location} {steps : List String} {p : Place}
    {name : String} (h : t.walk slash dir steps = .ok p) (hname : p.name = some name) :
    steps.getLast? = some name ∧ name ≠ "." ∧ name ≠ ".." := by
  fun_induction walk t slash dir steps with
  | case1 =>
    cases h
    cases hname
  | case2 =>
    cases h
    cases hname
  | case3 =>
    cases h
    cases hname
  | case4 dir step hdot hup =>
    cases h
    cases hname
    exact ⟨rfl, hdot, hup⟩
  | case5 => cases h
  | case6 dir step steps hsteps d hstep ih =>
    obtain ⟨hlast, hne⟩ := ih h
    refine ⟨?_, hne⟩
    rw [List.getLast?_cons, hlast]
    rfl

theorem fileName?_of_locate {path : String} {p : Place} {name : String}
    (h : t.locate path = .ok p) (hname : p.name = some name) :
    Path.fileName? path = some name := by
  have hne : path ≠ "" := by
    rintro rfl
    cases h
  rw [(spellable_of_locate h).locate hne] at h
  obtain ⟨hlast, hdot, hup⟩ := name_of_walk h hname
  obtain ⟨steps, hsteps⟩ := List.getLast?_eq_some_iff.mp hlast
  have hnames : (Path.names path).getLast? = some name := by
    have hkept : [name].filter (· ≠ ".") = [name] :=
      List.filter_cons_of_pos (decide_eq_true hdot)
    rw [Path.names, hsteps, List.filter_append, hkept, List.getLast?_concat]
  rw [Path.fileName?, hnames]
  split
  · next heq => exact absurd (Option.some.inj heq) hup
  · rfl

/-- the steps to a place that is a directory all lead to directories -/
theorem enterAll_of_walk {slash : Bool} {dir : Location} {steps : List String} {p : Place}
    (h : t.walk slash dir steps = .ok p) (hdir : t.find p.location = .ok (some .dir)) :
    t.enterAll dir steps = .ok p.location := by
  fun_induction walk t slash dir steps with
  | case1 =>
    cases h
    rw [enterAll, Place.location]
    exact congrArg _ (List.append_nil _).symm
  | case2 dir =>
    cases h
    rw [Place.location, Option.toList_none, List.append_nil]
    exact enterAll_cons_eq_ok.mpr ⟨dir, if_pos rfl, rfl⟩
  | case3 dir =>
    cases h
    rw [Place.location, Option.toList_none, List.append_nil]
    exact enterAll_cons_eq_ok.mpr ⟨_, rfl, rfl⟩
  | case4 dir step hdot hup =>
    cases h
    refine enterAll_cons_eq_ok.mpr ⟨dir ++ [step], ?_, rfl⟩
    rw [enter, if_neg hdot, if_neg hup]
    have hfind : t.find (dir ++ [step]) = .ok (some .dir) := hdir
    simp only [hfind]
  | case5 => cases h
  | case6 dir step steps hsteps d hstep ih => exact enterAll_cons_eq_ok.mpr ⟨d, hstep, ih h⟩

theorem directory_of_locate {path : String} {p : Place} (h : t.locate path = .ok p)
    (hdir : t.find p.location = .ok (some .dir)) : t.directory path = .ok p.location := by
  have hne : path ≠ "" := by
    rintro rfl
    cases h
  rw [(spellable_of_locate h).locate hne] at h
  exact enterAll_of_walk h hdir

section
variable (hdirs : ∀ l, t.entry? l = some .dir → t'.entry? l = some .dir)
include hdirs

theorem walk_mono {slash : Bool} {dir : Location} {steps : List String} {p : Place}
    (h : t.walk slash dir steps = .ok p) : t'.walk slash dir steps = .ok p := by
  fun_induction walk t slash dir steps with
  | case1 => exact h
  | case2 => exact h
  | case3 dir hdot => exact h
  | case4 dir step hdot hup => rw [walk, if_neg hdot, if_neg hup, h]
  | case5 => cases h
  | case6 dir step steps hsteps d hstep ih =>
    rw [walk_cons hsteps (enter_mono hdirs hstep)]
    exact ih h

/-- a path leads where it led while no directory goes -/
theorem locate_mono {path : String} {p : Place} (h : t.locate path = .ok p) :
    t'.locate path = .ok p := by
  have hspell := spellable_of_locate h
  have hne : path ≠ "" := by
    rintro rfl
    cases h
  rw [hspell.locate hne] at h ⊢
  exact walk_mono hdirs h

end

/-! ## calls that keep directories -/

theorem not_isPrefixOf_of_free {l : Location} (h : t.entry? l ≠ some .dir) :
    ¬ l.isPrefixOf home = true := fun hhome => h (by rw [ entry?, if_pos hhome])

theorem dirs_put {l : Location} (hfree : t.entry? l ≠ some .dir) (e : FileEntry) :
    ∀ l', t.entry? l' = some .dir → entry? (t.put l e) l' = some .dir := by
  intro l' hl'
  rw [entry?_put (not_isPrefixOf_of_free hfree), if_neg]
  · exact hl'
  · rintro rfl
    exact hfree hl'

theorem makeDir_eq_ok {path : String} (h : t.makeDir path = .ok t') :
    ∃ p, t.locate path = .ok p ∧ t.find p.location = .ok none ∧ t' = t.put p.location .dir := by
  obtain ⟨p, hp, h⟩ := bind_eq_ok.mp h
  obtain ⟨o, ho, h⟩ := bind_eq_ok.mp h
  split at h
  · cases h
  · exact ⟨p, hp, ho, (Except.ok.inj h).symm⟩

theorem directory_of_makeDir {path : String} (h : t.makeDir path = .ok t') :
    ∃ l, t'.directory path = .ok l := by
  obtain ⟨p, hp, hnone, rfl⟩ := makeDir_eq_ok h
  have hfree : t.entry? p.location ≠ some .dir := by
    rw [find_eq_ok hnone]
    exact nofun
  refine ⟨p.location, directory_of_locate (locate_mono (dirs_put hfree .dir) hp) ?_⟩
  rw [find_of_find hnone, entry?_put (not_isPrefixOf_of_free hfree), if_pos rfl]

theorem directory_of_isDir {path : String} (h : t.isDir path = true) :
    ∃ l, t.directory path = .ok l := by
  rw [isDir] at h
  split at h
  · cases h
  · next p hp =>
    split at h
    · next hdir => exact ⟨p.location, directory_of_locate hp hdir⟩
    · cases h

theorem dirs_rename {source target : String} (h : t.rename source target = .ok t') :
    ∀ l, t.entry? l = some .dir → t'.entry? l = some .dir := by
  obtain ⟨p, q, content, -, -, hfile, hfree, rfl⟩ := rename_eq_ok h
  have hsource : ¬ p.location.isPrefixOf home = true :=
    not_isPrefixOf_of_free (t := t) (by rw [hfile]; exact nofun)
  intro l hl
  rw [entry?_put (not_isPrefixOf_of_free hfree), entry?_erase hsource, if_neg, if_neg]
  · exact hl
  · rintro rfl
    rw [hfile] at hl
    cases hl
  · rintro rfl
    exact hfree hl

/-! ## reading -/

/-- the content of a file that was moved over another one -/
theorem read_rename {source target : String} (h : t.rename source target = .ok t') :
    ∃ p content, t.locate source = .ok p ∧ t.entry? p.location = some (.file content) ∧
      t'.read target = .ok content := by
  have hdirs := dirs_rename h
  obtain ⟨p, hp, h⟩ := bind_eq_ok.mp h
  obtain ⟨q, hq, h⟩ := bind_eq_ok.mp h
  split at h
  · cases h
  · obtain ⟨o, ho, h⟩ := bind_eq_ok.mp h
    split at h
    · cases h
    · cases h
    · next content =>
      obtain ⟨o', ho', h⟩ := bind_eq_ok.mp h
      split at h
      · cases h
      · next hslash =>
        split at h
        · cases h
        · next hfree =>
          obtain rfl := Except.ok.inj h
          refine ⟨p, content, hp, find_eq_ok ho, ?_⟩
          have hhome := not_isPrefixOf_of_free (t := t) (l := q.location) (by
            rw [find_eq_ok ho']
            exact hfree)
          rw [read, locate_mono hdirs hq]
          show (find _ q.location >>= _) = _
          rw [find_of_find ho', entry?_put hhome, if_pos rfl]
          exact if_neg fun hq => hslash (.inr hq)

/-- steps that stand for nothing, after a step that led to a directory -/
theorem walk_dots (slash : Bool) (dir : Location) (k : Nat) :
    t.walk slash dir (List.replicate (k + 1) ".") = .ok ⟨dir, none, slash⟩ := by
  induction k with
  | zero => rfl
  | succ k ih =>
    have hne : List.replicate (k + 1) "." ≠ [] := List.cons_ne_nil _ _
    rw [List.replicate_succ, walk_cons hne (if_pos rfl), ih]

/-- a text that is no path leads nowhere in any tree -/
theorem locate_congr_of_not_spellable {path : String} (h : ¬ Spellable path) :
    t.locate path = t'.locate path := by
  rw [locate, locate]
  split
  · rfl
  · next hnul =>
    split
    · rfl
    · split
      · rfl
      · next hlong =>
        exact absurd ⟨fun hmem => hnul (List.contains_iff_mem.mpr hmem), Nat.not_le.mp hlong⟩ h

section
variable {path dir name : String} {l : Location} (hfile : Path.File path dir name)
include hfile

theorem locate_file (hspell : Spellable path) :
    ∃ k, ∀ t : FileTree, t.directory dir = .ok l → t.locate path =
      t.walk (path.toList.getLast? = some '/') l (name :: List.replicate k ".") := by
  obtain ⟨k, hk⟩ := hfile.steps
  have hne : path ≠ "" := by
    rintro rfl
    exact List.append_ne_nil_of_right_ne_nil _ (List.cons_ne_nil _ _) hk.symm
  have hstart : start path = start dir := by rw [start, hfile.isAbsolute, start]
  refine ⟨k, fun t hdir => ?_⟩
  rw [hspell.locate hne, hstart, hk, walk_append hdir (List.cons_ne_nil _ _)]

variable (hdir : t.directory dir = .ok l)
include hdir

theorem location_file {p : Place} (h : t.locate path = .ok p) : p.location = l ++ [name] := by
  obtain ⟨k, hlocate⟩ := locate_file hfile (spellable_of_locate h)
  rw [hlocate t hdir] at h
  cases k with
  | zero =>
    rw [List.replicate_zero, walk, if_neg hfile.isName.ne_dot, if_neg hfile.isName.ne_dotdot] at h
    cases h
    rfl
  | succ k =>
    have hne : List.replicate (k + 1) "." ≠ [] := List.cons_ne_nil _ _
    cases hstep : t.enter l name with
    | error e =>
      rw [walk, hstep] at h
      · cases h
      · exact hne
    | ok d =>
      rw [walk_cons hne hstep, walk_dots] at h
      cases h
      rcases enter_cases hstep with ⟨hdot, -⟩ | ⟨hup, -⟩ | ⟨-, -, rfl, -⟩
      · exact absurd hdot hfile.isName.ne_dot
      · exact absurd hup hfile.isName.ne_dotdot
      · exact List.append_nil _

/-- Reading a file depends on no more than the entry at its place, the directory being there. -/
theorem read_congr (hdir' : t'.directory dir = .ok l)
    (h : t'.entry? (l ++ [name]) = t.entry? (l ++ [name])) : t'.read path = t.read path := by
  have hfind : t'.find (l ++ [name]) = t.find (l ++ [name]) := by rw [find, find, h]
  have henter : t'.enter l name = t.enter l name := by simp only [enter, hfind]
  have hlocate : t'.locate path = t.locate path := by
    by_cases hspell : Spellable path
    · obtain ⟨k, hlocate⟩ := locate_file hfile (l := l) hspell
      rw [hlocate t hdir, hlocate t' hdir']
      cases k with
      | zero => rfl
      | succ k =>
        have hne : List.replicate (k + 1) "." ≠ [] := List.cons_ne_nil _ _
        rw [walk, walk, henter]
        · cases t.enter l name with
          | error e => rfl
          | ok d => exact (walk_dots _ d k).trans (walk_dots _ d k).symm
        · exact hne
        · exact hne
    · exact locate_congr_of_not_spellable hspell
  rw [read, read, hlocate]
  cases hp : t.locate path with
  | error e => rfl
  | ok p =>
    show (t'.find p.location >>= _) = (t.find p.location >>= _)
    rw [location_file hfile hdir hp, hfind]

end

end FileTree

/-! ## making directories -/

variable {m m' : Machine} {path : String}

theorem directory_of_ensureDir (h : (ensureDir path : StateM Machine _) m = (.ok (), m')) :
    FileTree.Spellable path ∧ ∃ l, m'.tree.directory path = .ok l := by
  cases hmake : m.tree.makeDir path with
  | ok t =>
    obtain ⟨p, hp, -⟩ := FileTree.makeDir_eq_ok hmake
    rw [ensureDir_ok hmake] at h
    cases h
    exact ⟨FileTree.spellable_of_locate hp, FileTree.directory_of_makeDir hmake⟩
  | error e =>
    rw [ensureDir_error hmake] at h
    split at h
    · next hdir =>
      cases h
      refine ⟨?_, FileTree.directory_of_isDir hdir⟩
      rw [FileTree.isDir] at hdir
      split at hdir
      · cases hdir
      · next hp => exact FileTree.spellable_of_locate hp
    · cases h

/-- The directories that have been made are there: the last call has made the one asked for. -/
theorem directory_of_createDirsUpTo {depth : Nat} (hne : path ≠ "")
    (h : (createDirsUpTo depth path : StateM Machine _) m = (.ok (), m')) :
    FileTree.Spellable path ∧ ∃ l, m'.tree.directory path = .ok l := by
  rcases hensure : (ensureDir path : StateM Machine _) m with ⟨answer, m₁⟩
  by_cases hmissing : answer = .error .notFound
  · subst hmissing
    cases depth with
    | zero =>
      unfold createDirsUpTo at h
      rw [if_neg hne] at h
      simp only [bind, StateT.bind, hensure] at h
      cases h
    | succ depth =>
      unfold createDirsUpTo at h
      rw [if_neg hne] at h
      simp only [bind, StateT.bind, hensure] at h
      cases hparent : Path.parent? path with
      | none =>
        rw [hparent] at h
        cases h
      | some parent =>
        simp only [hparent] at h
        rcases hparents : (createDirsUpTo depth parent : StateM Machine _) m₁ with ⟨e | _, m₂⟩
        · simp only [StateT.bind, hparents] at h
          cases h
        · simp only [StateT.bind, hparents] at h
          exact directory_of_ensureDir h
  · have hanswer : (answer, m₁) = (.ok (), m') := by
      rw [← h]
      unfold createDirsUpTo
      rw [if_neg hne]
      simp only [bind, StateT.bind, hensure]
      rfl
    rw [hanswer] at hensure
    exact directory_of_ensureDir hensure

/-- made once, directories need not be made again -/
theorem createDirAll_again (h : (createDirAll path : StateM Machine _) m = (.ok (), m'))
    {m'' : Machine}
    (hdirs : ∀ l, m'.tree.entry? l = some .dir → m''.tree.entry? l = some .dir) :
    (createDirAll path : StateM Machine _) m'' = (.ok (), m'') := by
  by_cases hempty : path = ""
  · subst hempty
    unfold createDirAll createDirsUpTo
    rw [if_pos rfl]
    rfl
  · obtain ⟨hspell, l, hdir⟩ := directory_of_createDirsUpTo hempty h
    exact createDirAll_directory hspell fun _ => FileTree.directory_mono hdirs hdir

/-! ## writing -/

/-- The directories of the file are there or can be made, and making them leaves the file as it
is. -/
def Machine.Ready (m : Machine) (path : String) : Prop :=
  ∀ parent, Path.parent? path = some parent → ∃ m', (createDirAll parent : StateM Machine _) m =
    (.ok (), m') ∧ m'.tree.read path = m.tree.read path

/-- a file in the working directory needs no directory to be made -/
theorem ready_of_home {path : String} (h : Path.parent? path = some "") (m : Machine) :
    m.Ready path := by
  intro parent hparent
  obtain rfl : "" = parent := Option.some.inj (h.symm.trans hparent)
  exact ⟨m, by rw [createDirAll]; unfold createDirsUpTo; rw [if_pos rfl]; rfl, rfl⟩

/-- Where the directories were made, they are there as long as no directory goes. -/
theorem ready_of_created {parent : String} (hparent : Path.parent? path = some parent)
    (h : (createDirAll parent : StateM Machine _) m = (.ok (), m')) (m'' : Machine)
    (hdirs : ∀ l, m'.tree.entry? l = some .dir → m''.tree.entry? l = some .dir) :
    m''.Ready path := by
  intro parent' hparent'
  obtain rfl : parent = parent' := Option.some.inj (hparent.symm.trans hparent')
  exact ⟨m'', createDirAll_again h hdirs, rfl⟩

/-- The directory of a file is among those that were made. -/
theorem directory_of_file {dir name parent : String} (hfile : Path.File path dir name)
    (hparent : Path.parent? path = some parent)
    (h : (createDirAll parent : StateM Machine _) m = (.ok (), m')) :
    ∃ l, m'.tree.directory dir = .ok l := by
  obtain ⟨parent', hparent', hnames, habsolute⟩ := hfile.parent
  obtain rfl : parent' = parent := Option.some.inj (hparent'.symm.trans hparent)
  by_cases hempty : parent' = ""
  · -- a directory without names is where its path starts
    refine ⟨FileTree.start dir, ?_⟩
    have hnone : Path.names dir = [] := by
      rw [← hnames, hempty]
      rfl
    rw [FileTree.directory, ← FileTree.enterAll_names]
    show m'.tree.enterAll _ (Path.names dir) = _
    rw [hnone]
    rfl
  · obtain ⟨-, l, hdir⟩ := directory_of_createDirsUpTo hempty h
    exact ⟨l, (FileTree.directory_congr hnames (habsolute hempty)).symm.trans hdir⟩

namespace FileTree

variable {t t₁ t₂ : FileTree} {content : ByteArray}

theorem draftPath_of_no_name (h : Path.fileName? path = none) : draftPath path = path := by
  rw [draftPath, Path.withExtension, Path.stem?, h]
  rfl

/-- what is no file is not written -/
theorem write_of_no_name (h : Path.fileName? path = none) (content : ByteArray) :
    ∃ e, t.write (draftPath path) content = .error e := by
  rw [draftPath_of_no_name h]
  cases hwrite : t.write path content with
  | error e => exact ⟨e, rfl⟩
  | ok t' =>
    obtain ⟨p, hp, hname, -⟩ := write_eq_ok hwrite
    obtain ⟨name, hname⟩ := Option.ne_none_iff_exists'.mp hname
    rw [fileName?_of_locate hp hname] at h
    cases h

section
variable {dir name : String} {l : Location} (hfile : Path.File path dir name)
  (hdir : t.directory dir = .ok l) (hwrite : t.write (draftPath path) content = .ok t₁)
include hfile hdir hwrite

/-- a draft that was written is another file in the directory -/
theorem draft_written : ∃ draft, draft ≠ name ∧ Path.IsName draft ∧
    draftPath path = Path.join dir draft ∧ t.entry? (l ++ [draft]) ≠ some .dir ∧
    t₁ = t.put (l ++ [draft]) (.file content) := by
  rcases hfile.draft with hup | ⟨draft, hdraft, hne, hpath⟩
  · obtain ⟨p, hp, hname, -⟩ := write_eq_ok hwrite
    rw [hup] at hp
    rw [locate_dotdot hdir (spellable_of_locate hp)] at hp
    exact absurd (congrArg Place.name (Except.ok.inj hp)).symm hname
  · rw [hpath] at hwrite
    obtain ⟨hfree, rfl⟩ := write_join hdir hdraft hwrite
    exact ⟨draft, hne, hdraft, hpath, hfree, rfl⟩

theorem dirs_draft : ∀ l', t.entry? l' = some .dir → t₁.entry? l' = some .dir := by
  obtain ⟨draft, -, -, -, hfree, rfl⟩ := draft_written hfile hdir hwrite
  exact dirs_put hfree _

/-- writing the draft leaves the file as it is -/
theorem read_draft_written : t₁.read path = t.read path := by
  have hdir' := directory_mono (dirs_draft hfile hdir hwrite) hdir
  obtain ⟨draft, hne, -, -, hfree, rfl⟩ := draft_written hfile hdir hwrite
  refine read_congr hfile hdir hdir' ?_
  rw [entry?_put (not_isPrefixOf_of_free hfree), if_neg]
  exact fun heq => hne (List.singleton_inj.mp (List.append_cancel_left heq)).symm

/-- a draft that has taken the place of the file -/
theorem read_replaced (hrename : t₁.rename (draftPath path) path = .ok t₂) :
    t₂.read path = .ok content := by
  have hdir' := directory_mono (dirs_draft hfile hdir hwrite) hdir
  obtain ⟨p, content', hp, hcontent, hread⟩ := read_rename hrename
  obtain ⟨draft, -, hdraft, hpath, hfree, rfl⟩ := draft_written hfile hdir hwrite
  rw [hpath] at hp
  rw [locate_join hdir' hdraft (spellable_of_locate hp)] at hp
  obtain rfl := Except.ok.inj hp
  have hput : entry? (t.put (l ++ [draft]) (.file content)) (l ++ [draft]) =
      some (.file content) := by
    rw [entry?_put (not_isPrefixOf_of_free hfree), if_pos rfl]
  rw [hread, FileEntry.file.inj (Option.some.inj (hput.symm.trans hcontent))]

end

end FileTree

/-- what is in no directory is not written -/
theorem writeJson_of_no_parent (h : Path.parent? path = none) (j : Json) (m : Machine) :
    ∃ e, (writeJson path j : StateM Machine _) m = (.error e, m) := by
  have hnames : Path.names path = [] := by
    rw [Path.parent?] at h
    split at h
    · assumption
    · cases h
  have hname : Path.fileName? path = none := by
    rw [Path.fileName?, hnames]
    rfl
  obtain ⟨e, hwrite⟩ := FileTree.write_of_no_name (t := m.tree) hname j.pretty.toUTF8
  have hcall : (FileSystem.writeFile (draftPath path) j.pretty.toUTF8 : StateM Machine _) m =
      (.error e, m) := Machine.onTree_error hwrite
  refine ⟨e, ?_⟩
  unfold writeJson
  rw [h]
  dsimp only
  rw [Machine.run_bind, ExceptT.run_mk, hcall]

/-- A file that was written says what was written. When it was not, it says what it said. -/
theorem writeJson_cases (ready : m.Ready path) (j : Json) :
    ∃ m' : Machine, m'.Ready path ∧
      ((writeJson path j : StateM Machine _) m = (.ok (), m') ∧
          m'.tree.read path = .ok j.pretty.toUTF8 ∨
        (∃ e, (writeJson path j : StateM Machine _) m = (.error e, m')) ∧
          m'.tree.read path = m.tree.read path) := by
  cases hparent : Path.parent? path with
  | none => exact ⟨m, ready, .inr ⟨writeJson_of_no_parent hparent j m, rfl⟩⟩
  | some parent =>
    obtain ⟨m₁, hcreate, hsame⟩ := ready parent hparent
    have hready := ready_of_created hparent hcreate
    have hrun := writeJson_run hparent j m
    rw [hcreate] at hrun
    dsimp only at hrun
    cases hwrite : m₁.tree.write (draftPath path) j.pretty.toUTF8 with
    | error e =>
      rw [hwrite] at hrun
      exact ⟨m₁, hready m₁ fun _ hl => hl, .inr ⟨⟨e, hrun⟩, hsame⟩⟩
    | ok t₁ =>
      simp only [hwrite] at hrun
      cases hname : Path.fileName? path with
      | none =>
        obtain ⟨e, herror⟩ := FileTree.write_of_no_name (t := m₁.tree) hname j.pretty.toUTF8
        rw [herror] at hwrite
        cases hwrite
      | some name =>
        obtain ⟨dir, hfile⟩ := Path.exists_file hname
        obtain ⟨l, hdir⟩ := directory_of_file hfile hparent hcreate
        have hdirs := FileTree.dirs_draft hfile hdir hwrite
        cases hrename : t₁.rename (draftPath path) path with
        | error e =>
          rw [hrename] at hrun
          refine ⟨{ m₁ with tree := t₁ }, hready _ hdirs, .inr ⟨⟨e, hrun⟩, ?_⟩⟩
          exact (FileTree.read_draft_written hfile hdir hwrite).trans hsame
        | ok t₂ =>
          rw [hrename] at hrun
          refine ⟨{ m₁ with tree := t₂ }, hready _ fun l' hl' => ?_, .inl ⟨hrun, ?_⟩⟩
          · exact FileTree.dirs_rename hrename l' (hdirs l' hl')
          · exact FileTree.read_replaced hfile hdir hwrite hrename

end Blocklist
