import Blocklist.Files.FileTree
import Blocklist.Proofs.FilePaths

/-!
# Files of a directory

What reading, writing and moving files come to in a tree where the directory of the files is there.
A draft that is written and takes the place of a file changes no more than these two entries, and no
directory.

* `FileTree.directory`        the directory a path leads to;
* `FileTree.directory_mono`   a path leads where it led while no directory goes;
* `FileTree.locate_join`      a name in a directory;
* `FileTree.read_join`, `FileTree.write_join`, `FileTree.rename_join`   files of a directory;
* `FileTree.replace_join`     a draft takes the place of a file.
-/

namespace Blocklist

/-- what went before a call that succeeded -/
theorem bind_eq_ok {α β : Type} {x : Except IoError α} {f : α → Except IoError β} {b : β} :
    (x >>= f) = .ok b ↔ ∃ a, x = .ok a ∧ f a = .ok b := by
  cases x with
  | error e => exact ⟨nofun, fun ⟨_, h, _⟩ => nomatch h⟩
  | ok a => exact ⟨fun h => ⟨a, rfl, h⟩, fun ⟨_, h, h'⟩ => Except.ok.inj h ▸ h'⟩

namespace FileTree

variable {t t' : FileTree}

/-! ## entries -/

theorem not_isPrefixOf_home {name : String} (h : name ≠ "") (l : Location) :
    ¬ (l ++ [name]).isPrefixOf home = true := by
  intro hinit
  have hmem : name ∈ home := (List.isPrefixOf_iff_prefix.mp hinit).subset (by simp)
  simp only [home, List.mem_cons, List.not_mem_nil, or_false, or_self] at hmem
  exact h hmem

theorem entry?_put {l : Location} (h : ¬ l.isPrefixOf home = true) (e : FileEntry)
    (l' : Location) : entry? (t.put l e) l' = if l' = l then some e else t.entry? l' := by
  by_cases hl : l' = l
  · rw [if_pos hl, hl, entry?, if_neg h, put, Std.ExtTreeMap.getElem?_insert_self]
  · rw [if_neg hl, entry?, entry?, put, Std.ExtTreeMap.getElem?_insert,
      if_neg fun heq => hl (Std.compare_eq_iff_eq.mp heq).symm]

theorem entry?_erase {l : Location} (h : ¬ l.isPrefixOf home = true) (l' : Location) :
    entry? ⟨t.entries.erase l⟩ l' = if l' = l then none else t.entry? l' := by
  by_cases hl : l' = l
  · rw [if_pos hl, hl, entry?, if_neg h, Std.ExtTreeMap.getElem?_erase_self]
  · rw [if_neg hl, entry?, entry?, Std.ExtTreeMap.getElem?_erase,
      if_neg fun heq => hl (Std.compare_eq_iff_eq.mp heq).symm]

/-- an entry that was put somewhere and then moved -/
theorem entry?_move {source target : Location} (hsource : ¬ source.isPrefixOf home = true)
    (htarget : ¬ target.isPrefixOf home = true) (e e' : FileEntry) (l' : Location) :
    entry? (put ⟨(t.put source e).entries.erase source⟩ target e') l' =
      if l' = target then some e' else if l' = source then none else t.entry? l' := by
  rw [entry?_put htarget, entry?_erase hsource, entry?_put hsource]
  split
  · rfl
  · split
    · rfl
    · rfl

theorem find_eq_ok {l : Location} {o : Option FileEntry} (h : t.find l = .ok o) :
    t.entry? l = o := by
  rw [find] at h
  split at h
  · cases h
  · exact Except.ok.inj h

/-- what can be found at a location does not depend on the tree -/
theorem find_of_find {l : Location} {o : Option FileEntry} (h : t.find l = .ok o) :
    t'.find l = .ok (t'.entry? l) := by
  rw [find] at h ⊢
  split at h
  · cases h
  · next hshort => rw [if_neg hshort]

/-! ## directories -/

/-- the directory that steps lead to, all of them to directories -/
def enterAll (t : FileTree) : Location → List String → Except IoError Location
  | dir, [] => .ok dir
  | dir, step :: steps =>
    match t.enter dir step with
    | .error e => .error e
    | .ok dir => t.enterAll dir steps

/-- the directory that a path starts from -/
def start (path : String) : Location := if Path.isAbsolute path then [] else home

/-- the directory that a path leads to -/
def directory (t : FileTree) (path : String) : Except IoError Location :=
  t.enterAll (start path) (Path.steps path)

theorem enterAll_cons_eq_ok {dir l : Location} {step : String} {steps : List String} :
    t.enterAll dir (step :: steps) = .ok l ↔
      ∃ d, t.enter dir step = .ok d ∧ t.enterAll d steps = .ok l := by
  rw [enterAll]
  cases t.enter dir step with
  | error e => exact ⟨nofun, fun ⟨_, h, _⟩ => nomatch h⟩
  | ok d => exact ⟨fun h => ⟨d, rfl, h⟩, fun ⟨_, h, h'⟩ => Except.ok.inj h ▸ h'⟩

/-- how a step can lead to a directory -/
theorem enter_cases {dir l : Location} {step : String} (h : t.enter dir step = .ok l) :
    (step = "." ∧ l = dir) ∨ (step = ".." ∧ l = dir.dropLast) ∨
      (step ≠ "." ∧ step ≠ ".." ∧ l = dir ++ [step] ∧ t.find l = .ok (some .dir)) := by
  rw [enter] at h
  by_cases hdot : step = "."
  · rw [if_pos hdot] at h
    exact .inl ⟨hdot, (Except.ok.inj h).symm⟩
  · rw [if_neg hdot] at h
    by_cases hup : step = ".."
    · rw [if_pos hup] at h
      exact .inr (.inl ⟨hup, (Except.ok.inj h).symm⟩)
    · rw [if_neg hup] at h
      cases hfind : t.find (dir ++ [step]) with
      | error e => simp [hfind] at h
      | ok o =>
        rcases o with _ | _ | _
        · simp [hfind] at h
        · simp [hfind] at h
        · simp only [hfind] at h
          have hl := (Except.ok.inj h).symm
          exact .inr (.inr ⟨hdot, hup, hl, hl ▸ hfind⟩)

/-- steps that stand for nothing lead nowhere -/
theorem enterAll_names (dir : Location) (steps : List String) :
    t.enterAll dir (steps.filter (· ≠ ".")) = t.enterAll dir steps := by
  induction steps generalizing dir with
  | nil => rfl
  | cons step steps ih =>
    by_cases hdot : step = "."
    · rw [List.filter_cons_of_neg (by simpa using hdot), ih, enterAll, enter, if_pos hdot]
    · rw [List.filter_cons_of_pos (by simpa using hdot), enterAll, enterAll]
      cases t.enter dir step with
      | error e => rfl
      | ok d => exact ih d

/-- a directory, inside directories -/
def Dirs (t : FileTree) (l : Location) : Prop := ∀ l', l' <+: l → t.find l' = .ok (some .dir)

theorem dirs_start (path : String) : t.Dirs (start path) := by
  intro l hl
  have hhome : l <+: home := by
    refine hl.trans ?_
    rw [start]
    split
    · exact List.nil_prefix
    · exact List.prefix_refl home
  have hentry : t.entry? l = some .dir := by
    rw [ entry?, if_pos (List.isPrefixOf_iff_prefix.mpr hhome)]
  have hname : l.getLast?.getD "" = "" := by
    cases hlast : l.getLast? with
    | none => rfl
    | some name =>
      have hmem : name ∈ home := hhome.subset (List.mem_of_getLast? hlast)
      simpa [home] using hmem
  rw [find, hname, hentry]
  rfl

theorem Dirs.enterAll {dir l : Location} {steps : List String} (hdir : t.Dirs dir)
    (h : t.enterAll dir steps = .ok l) : t.Dirs l := by
  induction steps generalizing dir with
  | nil => exact Except.ok.inj h ▸ hdir
  | cons step steps ih =>
    obtain ⟨d, hstep, h⟩ := enterAll_cons_eq_ok.mp h
    refine ih ?_ h
    rcases enter_cases hstep with ⟨-, rfl⟩ | ⟨-, rfl⟩ | ⟨-, -, rfl, hfind⟩
    · exact hdir
    · exact fun l' hl' => hdir l' (hl'.trans (List.dropLast_prefix dir))
    · intro l' hl'
      rcases List.prefix_concat_iff.mp hl' with rfl | hl'
      · exact hfind
      · exact hdir l' hl'

theorem find_directory {path : String} {l : Location} (h : t.directory path = .ok l) :
    t.find l = .ok (some .dir) :=
  (dirs_start path).enterAll h l (List.prefix_refl l)

section
variable (hdirs : ∀ l, t.entry? l = some .dir → t'.entry? l = some .dir)
include hdirs

theorem enter_mono {dir l : Location} {step : String} (h : t.enter dir step = .ok l) :
    t'.enter dir step = .ok l := by
  rcases enter_cases h with ⟨rfl, rfl⟩ | ⟨rfl, rfl⟩ | ⟨hdot, hup, rfl, hfind⟩
  · rfl
  · rfl
  · have hfind' : t'.find (dir ++ [step]) = .ok (some .dir) := by
      rw [find_of_find hfind, hdirs _ (find_eq_ok hfind)]
    rw [enter, if_neg hdot, if_neg hup]
    simp only [hfind']

theorem enterAll_mono {dir l : Location} {steps : List String}
    (h : t.enterAll dir steps = .ok l) : t'.enterAll dir steps = .ok l := by
  induction steps generalizing dir with
  | nil => exact h
  | cons step steps ih =>
    obtain ⟨d, hstep, h⟩ := enterAll_cons_eq_ok.mp h
    exact enterAll_cons_eq_ok.mpr ⟨d, enter_mono hdirs hstep, ih h⟩

theorem directory_mono {path : String} {l : Location} (h : t.directory path = .ok l) :
    t'.directory path = .ok l :=
  enterAll_mono hdirs h

end

theorem directory_congr {path path' : String} (hnames : Path.names path = Path.names path')
    (hstart : Path.isAbsolute path = Path.isAbsolute path') :
    t.directory path = t.directory path' := by
  rw [directory, directory, start, start, hstart, ← enterAll_names, ← Path.names, hnames,
    Path.names, enterAll_names]

/-! ## what paths lead to -/

theorem walk_cons {slash : Bool} {dir d : Location} {step : String} {steps : List String}
    (hne : steps ≠ []) (h : t.enter dir step = .ok d) :
    t.walk slash dir (step :: steps) = t.walk slash d steps := by
  cases steps with
  | nil => exact absurd rfl hne
  | cons s ss =>
    rw [walk, h]
    exact nofun

/-- steps that lead to a directory, and then more steps -/
theorem walk_append {slash : Bool} {dir l : Location} {steps rest : List String}
    (h : t.enterAll dir steps = .ok l) (hrest : rest ≠ []) :
    t.walk slash dir (steps ++ rest) = t.walk slash l rest := by
  induction steps generalizing dir with
  | nil =>
    cases h
    rfl
  | cons step steps ih =>
    obtain ⟨d, hstep, h⟩ := enterAll_cons_eq_ok.mp h
    rw [List.cons_append, walk_cons (List.append_ne_nil_of_right_ne_nil steps hrest) hstep, ih h]

theorem walk_enterAll {dir l : Location} {steps : List String} (slash : Bool)
    (h : t.enterAll dir steps = .ok l) : ∃ p, t.walk slash dir steps = .ok p ∧ p.location = l := by
  induction steps generalizing dir with
  | nil =>
    cases h
    exact ⟨⟨_, none, slash⟩, rfl, List.append_nil _⟩
  | cons step steps ih =>
    obtain ⟨d, hstep, h⟩ := enterAll_cons_eq_ok.mp h
    by_cases hne : steps = []
    · subst hne
      cases h
      rcases enter_cases hstep with ⟨rfl, rfl⟩ | ⟨rfl, rfl⟩ | ⟨hdot, hup, rfl, -⟩
      · exact ⟨⟨_, none, slash⟩, rfl, List.append_nil _⟩
      · exact ⟨⟨_, none, slash⟩, rfl, List.append_nil _⟩
      · exact ⟨⟨_, some step, slash⟩, by rw [walk, if_neg hdot, if_neg hup], rfl⟩
    · rw [walk_cons hne hstep]
      exact ih h

/-- a text that can be a path -/
structure Spellable (path : String) : Prop where
  noNul : '\x00' ∉ path.toList
  short : path.utf8ByteSize < maxPath

theorem spellable_of_locate {path : String} {p : Place} (h : t.locate path = .ok p) :
    Spellable path := by
  rw [locate] at h
  split at h
  · cases h
  · next hnul =>
    split at h
    · cases h
    · split at h
      · cases h
      · next hlong =>
        exact ⟨fun hmem => hnul (List.contains_iff_mem.mpr hmem), Nat.not_le.mp hlong⟩

theorem locate_of_not_spellable {path : String} (hne : path ≠ "") (h : ¬ Spellable path) :
    t.locate path = .error .nulInName ∨ t.locate path = .error .nameTooLong := by
  rw [locate, if_neg hne]
  split
  · exact .inl rfl
  · next hnul =>
    split
    · exact .inr rfl
    · next hlong =>
      exact absurd ⟨fun hmem => hnul (List.contains_iff_mem.mpr hmem), Nat.not_le.mp hlong⟩ h

theorem Spellable.locate {path : String} (h : Spellable path) (hne : path ≠ "") :
    t.locate path = t.walk (path.toList.getLast? = some '/') (start path) (Path.steps path) := by
  have hnul : ¬ path.toList.contains '\x00' = true := by
    rw [List.contains_iff_mem]
    exact h.noNul
  rw [FileTree.locate, if_neg hnul, if_neg hne, if_neg (Nat.not_le.mpr h.short)]
  rfl

theorem Spellable.of_prefix {path path' : String} (h : Spellable path)
    (hinit : path'.toList <+: path.toList) : Spellable path' := by
  obtain ⟨rest, hrest⟩ := hinit
  have hpath : path = path' ++ String.ofList rest := by
    rw [← String.toList_inj, String.toList_append, String.toList_ofList, hrest]
  refine ⟨fun hmem => h.noNul (hrest ▸ List.mem_append_left rest hmem), ?_⟩
  have hshort := h.short
  rw [hpath, String.utf8ByteSize_append] at hshort
  omega

section
variable {dir : String} {l : Location} (hdir : t.directory dir = .ok l)
include hdir

/-- a last step, followed from the directory before it -/
theorem locate_join_eq {last : String} (hlast : '/' ∉ last.toList) (hne : last ≠ "")
    (h : Spellable (Path.join dir last)) :
    t.locate (Path.join dir last) = t.walk false l [last] := by
  have hlist := Path.toList_join hlast dir
  have hnil : last.toList ≠ [] := fun hnil => hne (String.toList_eq_nil_iff.mp hnil)
  have hslash : ¬ (Path.join dir last).toList.getLast? = some '/' := by
    rw [hlist, List.getLast?_append, List.getLast?_eq_some_getLast hnil]
    exact fun heq => hlast (Option.some.inj heq ▸ List.getLast_mem hnil)
  have hstart : start (Path.join dir last) = start dir := by
    rw [start, Path.isAbsolute_join hlast]
    rfl
  rw [h.locate (Path.join_ne_empty hlast dir hne), hstart, Path.steps_join hlast dir hne,
    walk_append hdir (List.cons_ne_nil _ _),
    decide_eq_false hslash]

theorem locate_join {name : String} (hname : Path.IsName name)
    (h : Spellable (Path.join dir name)) :
    t.locate (Path.join dir name) = .ok ⟨l, some name, false⟩ := by
  rw [locate_join_eq hdir hname.noSlash hname.ne_empty h, walk, if_neg hname.ne_dot,
    if_neg hname.ne_dotdot]

theorem locate_dotdot (h : Spellable (Path.join dir "..")) :
    t.locate (Path.join dir "..") = .ok ⟨l.dropLast, none, false⟩ :=
  locate_join_eq hdir (by decide) (by decide) h

end

/-! ## calls that succeed -/

theorem write_eq_ok {path : String} {content : ByteArray} (h : t.write path content = .ok t') :
    ∃ p, t.locate path = .ok p ∧ p.name ≠ none ∧ t.entry? p.location ≠ some .dir ∧
      t' = t.put p.location (.file content) := by
  obtain ⟨p, hp, h⟩ := bind_eq_ok.mp h
  split at h
  · cases h
  · next hname =>
    obtain ⟨o, ho, h⟩ := bind_eq_ok.mp h
    split at h
    · cases h
    · next hdir =>
      refine ⟨p, hp, fun hnone => hname (.inl (by rw [hnone]; rfl)), ?_, (Except.ok.inj h).symm⟩
      rw [find_eq_ok ho]
      exact hdir

theorem rename_eq_ok {source target : String} (h : t.rename source target = .ok t') :
    ∃ p q content, t.locate source = .ok p ∧ t.locate target = .ok q ∧
      t.entry? p.location = some (.file content) ∧ t.entry? q.location ≠ some .dir ∧
      t' = put ⟨t.entries.erase p.location⟩ q.location (.file content) := by
  obtain ⟨p, hp, h⟩ := bind_eq_ok.mp h
  obtain ⟨q, hq, h⟩ := bind_eq_ok.mp h
  split at h
  · cases h
  · obtain ⟨o, ho, h⟩ := bind_eq_ok.mp h
    split at h
    · cases h
    · cases h
    · next content =>
      obtain ⟨o', ho', h⟩ := bind_eq_ok.mp h
      split at h
      · cases h
      · split at h
        · cases h
        · next hdir =>
          refine ⟨p, q, content, hp, hq, find_eq_ok ho, ?_, (Except.ok.inj h).symm⟩
          rw [find_eq_ok ho']
          exact hdir

/-! ## files of a directory -/

/-- reading a file of a directory -/
theorem read_join {dir name : String} {l : Location} (hdir : t.directory dir = .ok l)
    (hname : Path.IsName name) :
    (∃ e, e ≠ .notFound ∧ e ≠ .notJson ∧ t.read (Path.join dir name) = .error e) ∨
      t.read (Path.join dir name) =
        match t.entry? (l ++ [name]) with
        | none => .error .notFound
        | some .dir => .error .isDirectory
        | some (.file content) => .ok content := by
  by_cases hspell : Spellable (Path.join dir name)
  · rw [read, locate_join hdir hname hspell]
    show (∃ e, _ ∧ _ ∧ (t.find (l ++ [name]) >>= _) = _) ∨ (t.find (l ++ [name]) >>= _) = _
    rw [find]
    split
    · exact .inl ⟨.nameTooLong, nofun, nofun, rfl⟩
    · right
      rcases t.entry? (l ++ [name]) with _ | _ | _ <;> rfl
  · left
    have hne := Path.join_ne_empty hname.noSlash dir hname.ne_empty
    rcases locate_of_not_spellable (t := t) hne hspell with h | h
    · exact ⟨.nulInName, nofun, nofun, by rw [read, h]; rfl⟩
    · exact ⟨.nameTooLong, nofun, nofun, by rw [read, h]; rfl⟩

theorem spellable_of_rename {source target : String} (h : t.rename source target = .ok t') :
    Spellable target := by
  obtain ⟨_, _, _, -, hlocate, -⟩ := rename_eq_ok h
  exact spellable_of_locate hlocate

section
variable {dir : String} {l : Location} (hdir : t.directory dir = .ok l)
include hdir

/-- no file takes the place of a directory -/
theorem directory_put {l' : Location} (hhome : ¬ l'.isPrefixOf home = true)
    (hfree : t.entry? l' ≠ some .dir) (content : ByteArray) :
    (t.put l' (.file content)).directory dir = .ok l := by
  refine directory_mono (fun l'' h => ?_) hdir
  rw [entry?_put hhome, if_neg]
  · exact h
  · rintro rfl
    exact hfree h

theorem write_join {name : String} (hname : Path.IsName name) {content : ByteArray}
    (h : t.write (Path.join dir name) content = .ok t') :
    t.entry? (l ++ [name]) ≠ some .dir ∧ t' = t.put (l ++ [name]) (.file content) := by
  obtain ⟨p, hp, -, hfree, rfl⟩ := write_eq_ok h
  rw [locate_join hdir hname (spellable_of_locate hp)] at hp
  obtain rfl := Except.ok.inj hp
  exact ⟨hfree, rfl⟩

theorem rename_join {source target : String} (hsource : Path.IsName source)
    (htarget : Path.IsName target)
    (h : t.rename (Path.join dir source) (Path.join dir target) = .ok t') :
    ∃ content, t.entry? (l ++ [source]) = some (.file content) ∧
      t.entry? (l ++ [target]) ≠ some .dir ∧
      t' = put ⟨t.entries.erase (l ++ [source])⟩ (l ++ [target]) (.file content) := by
  obtain ⟨p, q, content, hp, hq, hfile, hfree, rfl⟩ := rename_eq_ok h
  rw [locate_join hdir hsource (spellable_of_locate hp)] at hp
  rw [locate_join hdir htarget (spellable_of_locate hq)] at hq
  obtain rfl := Except.ok.inj hp
  obtain rfl := Except.ok.inj hq
  exact ⟨content, hfile, hfree, rfl⟩

/-- The draft of `..json` would be the directory above, which is not written. -/
theorem write_draft {id : String} (hid : '/' ∉ id.toList) {content : ByteArray}
    (h : t.write (draftPath (Path.join dir (id ++ ".json"))) content = .ok t') :
    draftPath (Path.join dir (id ++ ".json")) = Path.join dir (draftName id) := by
  have hup : '/' ∉ "..".toList := by decide
  rw [draftPath_join hid] at h ⊢
  split
  · next hdot =>
    obtain ⟨p, hp, hname, -⟩ := write_eq_ok h
    rw [if_pos hdot, ← Path.join_eq hup] at hp
    rw [locate_dotdot hdir (spellable_of_locate hp)] at hp
    exact absurd (congrArg Place.name (Except.ok.inj hp)).symm hname
  · rfl

/-- A draft that was written takes the place of a file. -/
theorem replace_join {id : String} (hid : '/' ∉ id.toList) {content : ByteArray} {t₁ t₂ : FileTree}
    (hwrite : t.write (draftPath (Path.join dir (id ++ ".json"))) content = .ok t₁)
    (hrename : t₁.rename (draftPath (Path.join dir (id ++ ".json")))
      (Path.join dir (id ++ ".json")) = .ok t₂) :
    t₂.directory dir = .ok l ∧ ∀ l', t₂.entry? l' =
      if l' = l ++ [id ++ ".json"] then some (.file content)
      else if l' = l ++ [draftName id] then none
      else t.entry? l' := by
  have hname := isName_json hid
  have hdraft := isName_draftName hid
  have hhome := not_isPrefixOf_home hname.ne_empty l
  have hhome' := not_isPrefixOf_home hdraft.ne_empty l
  have hpath := write_draft hdir hid hwrite
  rw [hpath] at hwrite hrename
  obtain ⟨hfree, rfl⟩ := write_join hdir hdraft hwrite
  have hdir₁ := directory_put hdir hhome' hfree content
  obtain ⟨content', hfile, hfree', rfl⟩ := rename_join hdir₁ hdraft hname hrename
  rw [entry?_put hhome', if_pos rfl] at hfile
  obtain rfl : content = content' := FileEntry.file.inj (Option.some.inj hfile)
  refine ⟨directory_mono (fun l' hl' => ?_) hdir₁, entry?_move hhome' hhome _ _⟩
  have hne : l' ≠ l ++ [id ++ ".json"] := by
    rintro rfl
    exact hfree' hl'
  rw [entry?_move hhome' hhome, if_neg hne]
  rw [entry?_put hhome'] at hl'
  split at hl'
  · cases hl'
  · next hne' =>
    rw [if_neg hne']
    exact hl'

end

end FileTree

end Blocklist
