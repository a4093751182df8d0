import Blocklist.Proofs.KeptFiles

/-!
# Files in plain places

Files whose names are plain, in the working directory or in directories of it. Where nothing is in
their way, a machine keeps them: the directories are made when they are needed, and a draft never
takes the place of another file.

* `Slot`                  the place of a file and of its draft (`Slot.Plain`, `Slot.Apart`);
* `FileTree.Clear`        a tree where nothing is in the way of some files;
* `FileTree.clear_empty`  there is nothing in the empty tree;
* `FileTree.Clear.replaced`   nor after a file was replaced;
* `writeJson_slot`        a file is written, and there is still nothing in the way;
* `keeps_of_clear`        so the machine keeps the files.
-/

namespace Blocklist

/-- the file `id.json` in a directory, which is in the working directory or is the working
directory itself -/
structure Slot where
  dir : String
  id : String

namespace Slot

def path (s : Slot) : String := Path.join s.dir (s.id ++ ".json")

def folder (s : Slot) : Location :=
  if s.dir = "" then FileTree.home else FileTree.home ++ [s.dir]

def file (s : Slot) : Location := s.folder ++ [s.id ++ ".json"]

def draft (s : Slot) : Location := s.folder ++ [draftName s.id]

/-- the names are plain and not too long, also for the draft -/
structure Plain (s : Slot) : Prop where
  id : '/' ∉ s.id.toList
  ne_dot : s.id ≠ "."
  dir : s.dir = "" ∨ Path.IsName s.dir
  spellable : FileTree.Spellable (Path.join s.dir (draftName s.id))
  short : (draftName s.id).utf8ByteSize ≤ FileTree.maxName
  shortDir : s.dir.utf8ByteSize ≤ FileTree.maxName

/-- no file has the name of a folder -/
def Apart (slots : List Slot) : Prop :=
  ∀ s ∈ slots, ∀ s' ∈ slots, s.dir = "" → s'.dir ≠ s.id ++ ".json" ∧ s'.dir ≠ draftName s.id

instance (slots : List Slot) : Decidable (Apart slots) :=
  inferInstanceAs (Decidable (∀ s ∈ slots, ∀ s' ∈ slots, _))

instance (name : String) : Decidable (Path.IsName name) :=
  decidable_of_iff ('/' ∉ name.toList ∧ name ≠ "" ∧ name ≠ "." ∧ name ≠ "..")
    ⟨fun ⟨h₁, h₂, h₃, h₄⟩ => ⟨h₁, h₂, h₃, h₄⟩, fun h => ⟨h.1, h.2, h.3, h.4⟩⟩

instance (path : String) : Decidable (FileTree.Spellable path) :=
  decidable_of_iff ('\x00' ∉ path.toList ∧ path.utf8ByteSize < FileTree.maxPath)
    ⟨fun ⟨h₁, h₂⟩ => ⟨h₁, h₂⟩, fun h => ⟨h.1, h.2⟩⟩

instance (s : Slot) : Decidable s.Plain :=
  decidable_of_iff ('/' ∉ s.id.toList ∧ s.id ≠ "." ∧ (s.dir = "" ∨ Path.IsName s.dir) ∧
      FileTree.Spellable (Path.join s.dir (draftName s.id)) ∧
      (draftName s.id).utf8ByteSize ≤ FileTree.maxName ∧ s.dir.utf8ByteSize ≤ FileTree.maxName)
    ⟨fun ⟨h₁, h₂, h₃, h₄, h₅, h₆⟩ => ⟨h₁, h₂, h₃, h₄, h₅, h₆⟩,
      fun h => ⟨h.1, h.2, h.3, h.4, h.5, h.6⟩⟩

variable {s s' : Slot}

theorem folder_inj (h : s.folder = s'.folder) : s.dir = s'.dir := by
  rw [folder, folder] at h
  split at h
  · next hs =>
    split at h
    · next hs' => rw [hs, hs']
    · cases h
  · split at h
    · cases h
    · exact (List.cons.inj (List.append_cancel_left h)).1

theorem file_inj (h : s.file = s'.file) : s = s' := by
  obtain ⟨hfolder, hname⟩ := List.append_inj' h rfl
  obtain ⟨dir, id⟩ := s
  obtain ⟨dir', id'⟩ := s'
  obtain rfl : dir = dir' := folder_inj hfolder
  obtain rfl : id = id' := json_inj (List.cons.inj hname).1
  rfl

theorem file_ne_draft (s s' : Slot) : s.file ≠ s'.draft := fun h =>
  json_ne_draftName s.id s'.id (List.cons.inj (List.append_inj' h rfl).2).1

/-- a file is no folder, unless one has its name -/
theorem folder_ne {name : String} (h : s.dir = "" → s'.dir ≠ name) :
    s'.folder ≠ s.folder ++ [name] := by
  intro heq
  rw [folder, folder] at heq
  split at heq
  · next hs' =>
    split at heq
    · cases heq
    · cases heq
  · split at heq
    · next hs => exact h hs (List.cons.inj (List.append_cancel_left heq)).1
    · exact absurd (congrArg List.length heq) (by simp)

section
variable {slots : List Slot} (h : Apart slots) (hs : s ∈ slots) (hs' : s' ∈ slots)
include h hs hs'

theorem Apart.file_ne_folder : s.file ≠ s'.folder :=
  (folder_ne fun hdir => (h s hs s' hs' hdir).1).symm

theorem Apart.draft_ne_folder : s.draft ≠ s'.folder :=
  (folder_ne fun hdir => (h s hs s' hs' hdir).2).symm

end

end Slot

namespace FileTree

variable {t t' : FileTree} {s s' : Slot}

theorem find_concat {name : String} (short : name.utf8ByteSize ≤ maxName) (t : FileTree)
    (l : Location) : t.find (l ++ [name]) = .ok (t.entry? (l ++ [name])) := by
  rw [find, List.getLast?_concat]
  exact if_neg (Nat.not_lt.mpr short)

theorem enter_name {name : String} (hname : Path.IsName name)
    (short : name.utf8ByteSize ≤ maxName) (t : FileTree) (l : Location) :
    t.enter l name =
      match t.entry? (l ++ [name]) with
      | none => .error .notFound
      | some (.file _) => .error .notDirectory
      | some .dir => .ok (l ++ [name]) := by
  rw [enter, if_neg hname.ne_dot, if_neg hname.ne_dotdot]
  simp only [find_concat short]
  rcases t.entry? (l ++ [name]) with _ | _ | _ <;> rfl

section
variable {path source target a b : String} {dir : Location} {content : ByteArray}
  (shortA : a.utf8ByteSize ≤ maxName) (shortB : b.utf8ByteSize ≤ maxName)
include shortA

theorem write_located (hpath : t.locate path = .ok ⟨dir, some a, false⟩)
    (hfree : t.entry? (dir ++ [a]) ≠ some .dir) :
    t.write path content = .ok (t.put (dir ++ [a]) (.file content)) := by
  rw [write, hpath]
  show (t.find (dir ++ [a]) >>= _) = _
  rw [find_concat shortA]
  rcases hentry : t.entry? (dir ++ [a]) with _ | _ | _
  · rfl
  · rfl
  · exact absurd hentry hfree

include shortB in
theorem rename_located (hsource : t.locate source = .ok ⟨dir, some a, false⟩)
    (htarget : t.locate target = .ok ⟨dir, some b, false⟩)
    (hfile : t.entry? (dir ++ [a]) = some (.file content))
    (hfree : t.entry? (dir ++ [b]) ≠ some .dir) : ∃ t', t.rename source target = .ok t' := by
  rw [rename, hsource, htarget]
  show ∃ t', (t.find (dir ++ [a]) >>= _) = .ok t'
  rw [find_concat shortA, hfile]
  show ∃ t', (t.find (dir ++ [b]) >>= _) = .ok t'
  rw [find_concat shortB]
  rcases hentry : t.entry? (dir ++ [b]) with _ | _ | _
  · exact ⟨_, rfl⟩
  · exact ⟨_, rfl⟩
  · exact absurd hentry hfree

end

end FileTree

namespace Slot.Plain

open FileTree

variable {s s' : Slot} {t t' : FileTree} (h : s.Plain)
include h

theorem isName : Path.IsName (s.id ++ ".json") := isName_json h.id

theorem isName_draft : Path.IsName (draftName s.id) := isName_draftName h.id

omit h in
theorem name_within_draft (s : Slot) : (s.id ++ ".json").toList <+: (draftName s.id).toList := by
  rw [draftName]
  split
  · next hempty =>
    rw [hempty]
    exact ⟨".json.tmp".toList, by decide⟩
  · refine ⟨".tmp".toList, ?_⟩
    rw [String.toList_append, String.toList_append, List.append_assoc]
    rfl

theorem spellable_path : Spellable s.path := by
  refine h.spellable.of_prefix ?_
  rw [path, Path.toList_join h.isName.noSlash, Path.toList_join h.isName_draft.noSlash]
  exact (List.prefix_append_right_inj _).mpr (name_within_draft s)

theorem short_name : (s.id ++ ".json").utf8ByteSize ≤ maxName := by
  obtain ⟨rest, hrest⟩ := name_within_draft s
  have hdraft : draftName s.id = s.id ++ ".json" ++ String.ofList rest := by
    rw [← String.toList_inj, String.toList_append, String.toList_ofList, hrest]
  have short := h.short
  rw [hdraft, String.utf8ByteSize_append] at short
  omega

theorem spellable_dir : Spellable s.dir := by
  refine h.spellable.of_prefix ?_
  rw [Path.toList_join h.isName_draft.noSlash]
  rcases Path.dirPrefix_cases s.dir with ⟨hdir, -⟩ | ⟨-, cs, hcs, hdir | hdir⟩
  · rw [hdir]
    exact List.nil_prefix
  · rw [hcs, hdir]
    exact ⟨_, (List.append_assoc _ _ _).symm⟩
  · rw [hcs, hdir]
    exact List.prefix_append _ _

/-- the steps to the folder -/
theorem steps_dir : s.dir = "" ∨ Path.IsName s.dir ∧ start s.dir = home ∧
    Path.steps s.dir = [s.dir] ∧ s.folder = home ++ [s.dir] := by
  rcases h.dir with hempty | hname
  · exact .inl hempty
  · right
    have hrelative := Path.isAbsolute_of_not_mem hname.noSlash
    have hne : s.dir.toList ≠ [] := hname.toList_ne_nil
    refine ⟨hname, by rw [start, hrelative]; rfl, ?_, if_neg hname.ne_empty⟩
    rw [Path.steps_eq, Path.stepsOf_of_not_mem hname.noSlash hne, List.map_singleton,
      String.ofList_toList]

theorem directory (hfolder : t.entry? s.folder = some .dir) : t.directory s.dir = .ok s.folder := by
  rcases h.steps_dir with hempty | ⟨hname, hstart, hsteps, hplace⟩
  · rw [Slot.folder, if_pos hempty, hempty]
    rfl
  · rw [hplace] at hfolder ⊢
    rw [FileTree.directory, hstart, hsteps]
    refine enterAll_cons_eq_ok.mpr ⟨_, ?_, rfl⟩
    rw [enter_name hname h.shortDir, hfolder]

/-- where there is no folder there is no file -/
theorem read_none (hfolder : t.entry? s.folder = none) : t.read s.path = .error .notFound := by
  rcases h.steps_dir with hempty | ⟨hname, hstart, hsteps, hplace⟩
  · rw [Slot.folder, if_pos hempty] at hfolder
    cases hfolder
  · rw [hplace] at hfolder
    have henter : t.enter home s.dir = .error .notFound := by
      rw [enter_name hname h.shortDir, hfolder]
    have hne := Path.join_ne_empty h.isName.noSlash s.dir h.isName.ne_empty
    have hstart' : start s.path = home := by
      rw [start, Slot.path, Path.isAbsolute_join h.isName.noSlash]
      exact hstart
    rw [FileTree.read, h.spellable_path.locate hne, hstart', Slot.path,
      Path.steps_join h.isName.noSlash s.dir h.isName.ne_empty, hsteps, List.singleton_append, walk]
    · rw [henter]
      rfl
    · exact List.cons_ne_nil _ _

theorem read_path (hfolder : t.entry? s.folder = some .dir) :
    t.read s.path =
      match t.entry? s.file with
      | none => .error .notFound
      | some .dir => .error .isDirectory
      | some (.file content) => .ok content := by
  rw [FileTree.read, Slot.path, locate_join (h.directory hfolder) h.isName h.spellable_path]
  show (t.find s.file >>= _) = _
  rw [Slot.file, find_concat h.short_name]
  rcases t.entry? (s.folder ++ [s.id ++ ".json"]) with _ | _ | _ <;> rfl

/-- the draft is written and takes the place of the file -/
theorem replace (hfolder : t.entry? s.folder = some .dir) (hfile : t.entry? s.file ≠ some .dir)
    (hdraft : t.entry? s.draft ≠ some .dir) (content : ByteArray) :
    ∃ t₁ t₂, t.write (draftPath s.path) content = .ok t₁ ∧
      t₁.rename (draftPath s.path) s.path = .ok t₂ := by
  have hdir := h.directory hfolder
  have hhome := not_isPrefixOf_home h.isName_draft.ne_empty s.folder
  have hpath : draftPath s.path = Path.join s.dir (draftName s.id) := by
    rw [Slot.path, draftPath_join h.id, if_neg h.ne_dot]
  have hdraftPath := locate_join hdir h.isName_draft h.spellable
  have hwrite : t.write (Path.join s.dir (draftName s.id)) content =
      .ok (t.put s.draft (.file content)) := write_located h.short hdraftPath hdraft
  have hdir₁ := directory_put hdir hhome hdraft content
  have hentry : ∀ l, entry? (t.put s.draft (.file content)) l =
      if l = s.draft then some (.file content) else t.entry? l := entry?_put hhome _
  have hthere : entry? (t.put s.draft (.file content)) s.draft = some (.file content) :=
    (hentry s.draft).trans (if_pos rfl)
  have hfree : entry? (t.put s.draft (.file content)) s.file ≠ some .dir := by
    rw [hentry, if_neg (s.file_ne_draft s)]
    exact hfile
  obtain ⟨t₂, hrename⟩ := rename_located h.short h.short_name
    (locate_join hdir₁ h.isName_draft h.spellable) (locate_join hdir₁ h.isName h.spellable_path)
    hthere hfree
  rw [hpath]
  exact ⟨_, t₂, hwrite, hrename⟩

theorem parent_path : Path.parent? s.path = some s.dir := by
  have hsome : Path.names s.path ≠ [] := by
    rw [Slot.path, Path.names_join h.isName]
    exact List.append_ne_nil_of_right_ne_nil _ (List.cons_ne_nil _ [])
  rw [Path.parent?, if_neg hsome, Slot.path, Path.beforeName_join h.isName,
    Path.isAbsolute_join h.isName.noSlash]
  rcases h.dir with hempty | hname
  · rw [hempty]
    rfl
  · have hlast : s.dir.toList.getLast? ≠ some '/' := fun hlast =>
      hname.noSlash (List.mem_of_getLast? hlast)
    have htrim : Path.trim (Path.dirPrefix s.dir) = s.dir.toList := by
      rw [Path.dirPrefix, if_neg (not_or.mpr ⟨hname.ne_empty, hlast⟩)]
      have hname' := Path.trim_append_name hname []
      rw [List.nil_append] at hname'
      refine Eq.trans ?_ hname'
      rw [Path.trim, Path.trim, List.reverse_append]
      rfl
    have hrelative := Path.isAbsolute_of_not_mem hname.noSlash
    dsimp only
    rw [htrim, hrelative, if_neg (fun hroot => Bool.false_ne_true hroot.2), String.ofList_toList]

/-- the folder is there or is made -/
theorem createDirAll_dir (m : Machine)
    (hfolder : m.tree.entry? s.folder = some .dir ∨ m.tree.entry? s.folder = none) :
    ∃ t, (createDirAll s.dir : StateM Machine _) m = (.ok (), { m with tree := t }) ∧
      t.entry? s.folder = some .dir ∧ ∀ l, l ≠ s.folder → t.entry? l = m.tree.entry? l := by
  rcases hfolder with hthere | hmissing
  · exact ⟨m.tree, createDirAll_directory h.spellable_dir fun _ => h.directory hthere, hthere,
      fun _ _ => rfl⟩
  · rcases h.steps_dir with hempty | ⟨hname, hstart, hsteps, hplace⟩
    · rw [Slot.folder, if_pos hempty] at hmissing
      cases hmissing
    · have hjoin : Path.join "" s.dir = s.dir := by
        rw [← String.toList_inj, Path.toList_join hname.noSlash]
        rfl
      have hhome : m.tree.directory "" = .ok home := rfl
      have hlocate := locate_join hhome hname (hjoin.symm ▸ h.spellable_dir)
      rw [hplace] at hmissing ⊢
      rw [hjoin] at hlocate
      have hmake : m.tree.makeDir s.dir = .ok (m.tree.put (home ++ [s.dir]) .dir) := by
        rw [makeDir, hlocate]
        show (m.tree.find (home ++ [s.dir]) >>= _) = _
        rw [find_concat h.shortDir, hmissing]
        rfl
      have hput := entry?_put (t := m.tree) (not_isPrefixOf_home hname.ne_empty home) .dir
      refine ⟨_, ?_, by rw [hput, if_pos rfl], fun l hl => by rw [hput, if_neg hl]⟩
      unfold createDirAll createDirsUpTo
      rw [if_neg hname.ne_empty]
      simp only [bind, StateT.bind, ensureDir_ok hmake]
      rfl

end Slot.Plain

/-! ## trees where nothing is in the way -/

/-- Nothing is in the way of the files: each folder is there or can be made, and there are no
directories in the place of files. -/
structure FileTree.Clear (slots : List Slot) (t : FileTree) : Prop where
  folders : ∀ s ∈ slots, t.entry? s.folder = some .dir ∨
    t.entry? s.folder = none ∧ ∀ s' ∈ slots, s'.dir = s.dir → t.entry? s'.file = none
  files : ∀ s ∈ slots, t.entry? s.file ≠ some .dir
  drafts : ∀ s ∈ slots, t.entry? s.draft ≠ some .dir

theorem FileTree.entry?_empty {l : Location} (h : ¬ l.isPrefixOf home = true) :
    entry? {} l = none := by
  rw [ entry?, if_neg h]
  exact Std.ExtTreeMap.getElem?_empty

section
variable {slots : List Slot} {s s' : Slot} {m : Machine} {t : FileTree}
  (plain : ∀ s ∈ slots, s.Plain)
include plain

theorem FileTree.clear_empty : ( {} : FileTree).Clear slots := by
  have hfile : ∀ s ∈ slots, entry? {} s.file = none := fun s hs =>
    entry?_empty (not_isPrefixOf_home (plain s hs).isName.ne_empty s.folder)
  have hdraft : ∀ s ∈ slots, entry? {} s.draft = none := fun s hs =>
    entry?_empty (not_isPrefixOf_home (plain s hs).isName_draft.ne_empty s.folder)
  refine ⟨fun s hs => ?_, fun s hs => ?_, fun s hs => ?_⟩
  · by_cases hempty : s.dir = ""
    · left
      rw [Slot.folder, if_pos hempty]
      rfl
    · right
      rw [Slot.folder, if_neg hempty]
      exact ⟨entry?_empty (not_isPrefixOf_home hempty home), fun s' hs' _ => hfile s' hs'⟩
  · rw [hfile s hs]
    nofun
  · rw [hdraft s hs]
    nofun

/-- A file is read as what is in its place, whether or not its folder is there. -/
theorem FileTree.Clear.read (clear : t.Clear slots) (hs : s ∈ slots) :
    t.read s.path =
      match t.entry? s.file with
      | none => .error .notFound
      | some .dir => .error .isDirectory
      | some (.file content) => .ok content := by
  rcases clear.folders s hs with hthere | ⟨hmissing, hnone⟩
  · exact (plain s hs).read_path hthere
  · rw [(plain s hs).read_none hmissing, hnone s hs rfl]

theorem FileTree.read_empty (hs : s ∈ slots) :
    ( {} : FileTree).read s.path = .error .notFound := by
  rw [(clear_empty plain).read plain hs, Slot.file,
    entry?_empty (not_isPrefixOf_home (plain s hs).isName.ne_empty s.folder)]

end

section
variable {slots : List Slot} {s s' : Slot} {m : Machine} {t : FileTree}
  (plain : ∀ s ∈ slots, s.Plain) (apart : Slot.Apart slots)
include apart

/-- After a folder was made and a draft took the place of its file, nothing is in the way either,
and the other files are what they were. -/
theorem FileTree.Clear.replaced {t₁ t₂ : FileTree} {content : ByteArray} (clear : t.Clear slots)
    (hs : s ∈ slots) (hthere : t₁.entry? s.folder = some .dir)
    (hrest : ∀ l, l ≠ s.folder → t₁.entry? l = t.entry? l)
    (hmoved : ∀ l, t₂.entry? l = if l = s.file then some (.file content)
      else if l = s.draft then none else t₁.entry? l) :
    t₂.Clear slots ∧ ∀ s' ∈ slots, s' ≠ s → t₂.entry? s'.file = t.entry? s'.file := by
  have hfile : ∀ s' ∈ slots, s' ≠ s → t₂.entry? s'.file = t.entry? s'.file := by
    intro s' hs' hne
    rw [hmoved, if_neg fun heq => hne (Slot.file_inj heq), if_neg (s'.file_ne_draft s),
      hrest _ (apart.file_ne_folder hs' hs)]
  refine ⟨⟨fun s' hs' => ?_, fun s' hs' => ?_, fun s' hs' => ?_⟩, hfile⟩
  · have hfolder : t₂.entry? s'.folder = t₁.entry? s'.folder := by
      rw [hmoved, if_neg (apart.file_ne_folder hs hs').symm,
        if_neg (apart.draft_ne_folder hs hs').symm]
    rw [hfolder]
    by_cases hsame : s'.folder = s.folder
    · left
      rw [hsame, hthere]
    · rw [hrest _ hsame]
      refine (clear.folders s' hs').imp_right fun hmissing => ⟨hmissing.1, fun s'' hs'' hdir => ?_⟩
      refine (hfile s'' hs'' ?_).trans (hmissing.2 s'' hs'' hdir)
      rintro rfl
      exact hsame (by rw [Slot.folder, Slot.folder, hdir])
  · by_cases heq : s' = s
    · rw [heq, hmoved, if_pos rfl]
      nofun
    · rw [hfile s' hs' heq]
      exact clear.files s' hs'
  · rw [hmoved, if_neg (s.file_ne_draft s').symm]
    split
    · nofun
    · rw [hrest _ (apart.draft_ne_folder hs' hs)]
      exact clear.drafts s' hs'

include plain

theorem writeJson_slot (clear : m.tree.Clear slots) (hs : s ∈ slots) (j : Json) :
    ∃ m', (writeJson s.path j : StateM Machine _) m = (.ok (), m') ∧ m'.tree.Clear slots ∧
      ∀ s' ∈ slots, s' ≠ s → m'.tree.entry? s'.file = m.tree.entry? s'.file := by
  have h := plain s hs
  obtain ⟨t₁, hcreate, hthere, hrest⟩ :=
    h.createDirAll_dir m ((clear.folders s hs).imp_right And.left)
  obtain ⟨t₂, t₃, hwrite, hrename⟩ := h.replace hthere
    (by rw [hrest _ (apart.file_ne_folder hs hs)]; exact clear.files s hs)
    (by rw [hrest _ (apart.draft_ne_folder hs hs)]; exact clear.drafts s hs) j.pretty.toUTF8
  have hmoved := (FileTree.replace_join (h.directory hthere) h.id hwrite hrename).2
  refine ⟨{ m with tree := t₃ }, ?_, clear.replaced apart hs hthere hrest hmoved⟩
  rw [writeJson_run h.parent_path, hcreate]
  dsimp only
  rw [hwrite]
  dsimp only
  rw [hrename]

/-- A machine keeps files in plain places where nothing is in their way. -/
theorem keeps_of_clear (clear : m.tree.Clear slots) : m.Keeps (slots.map Slot.path) := by
  have stays : ∀ m₁, Machine.Written (slots.map Slot.path) m m₁ → m₁.tree.Clear slots := by
    intro m₁ written
    induction written with
    | refl => exact clear
    | @write m₁ m₂ _ path hpath j hwrite ih =>
      obtain ⟨s, hs, rfl⟩ := List.mem_map.mp hpath
      obtain ⟨m', hwrite', clear', -⟩ := writeJson_slot plain apart ih hs j
      rw [hwrite] at hwrite'
      cases hwrite'
      exact clear'
    | idle _ same ih =>
      rw [same]
      exact ih
  intro m₁ written path hpath j
  obtain ⟨s, hs, rfl⟩ := List.mem_map.mp hpath
  have clear₁ := stays m₁ written
  obtain ⟨m₂, hwrite, clear₂, hothers⟩ := writeJson_slot plain apart clear₁ hs j
  refine ⟨m₂, hwrite, fun other hother hne => ?_⟩
  obtain ⟨s', hs', rfl⟩ := List.mem_map.mp hother
  rw [clear₂.read plain hs', clear₁.read plain hs', hothers s' hs' fun heq => hne (by rw [heq])]

end

end Blocklist
