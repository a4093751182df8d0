import Blocklist.Proofs.FileWrites

/-!
# Files beside those that are written

Where a path leads does not depend on what is there. A file can therefore be told from the files
that are written by its place alone, before any of them is: it is read as before, however many
directories are made and whatever is written to other places.

* `FileTree.goal`             the place a path leads to, if it leads anywhere;
* `FileTree.goal_join`        a name in a directory;
* `FileTree.Grows`            what was there stays;
* `FileTree.read_write`       a file that was written says what was written;
* `FileTree.read_write_of_ne` the files at other places say what they said;
* `growing_createDirAll`      making directories takes nothing away.
-/

namespace Blocklist

namespace FileTree

variable {t t' : FileTree} {path path' : String} {content content' : ByteArray}

/-! ## where paths lead -/

/-- the place that steps lead to -/
def follow : Location → List String → Location
  | dir, [] => dir
  | dir, step :: steps =>
    follow (if step = "." then dir else if step = ".." then dir.dropLast else dir ++ [step]) steps

/-- the place that a path leads to, if it leads anywhere -/
def goal (path : String) : Location := follow (start path) (Path.steps path)

theorem follow_append (dir : Location) (steps steps' : List String) :
    follow dir (steps ++ steps') = follow (follow dir steps) steps' := by
  induction steps generalizing dir with
  | nil => rfl
  | cons step steps ih =>
    rw [List.cons_append, follow, ih]
    rfl

theorem follow_of_enter {dir l : Location} {step : String} (h : t.enter dir step = .ok l) :
    follow dir [step] = l := by
  rcases enter_cases h with ⟨rfl, rfl⟩ | ⟨rfl, rfl⟩ | ⟨hdot, hup, rfl, -⟩
  · rfl
  · rfl
  · rw [follow, if_neg hdot, if_neg hup, follow]

theorem location_of_walk {slash : Bool} {dir : Location} {steps : List String} {p : Place}
    (h : t.walk slash dir steps = .ok p) : p.location = follow dir steps := by
  fun_induction walk t slash dir steps with
  | case1 =>
    cases h
    exact List.append_nil _
  | case2 =>
    cases h
    exact List.append_nil _
  | case3 =>
    cases h
    exact List.append_nil _
  | case4 dir step hdot hup =>
    cases h
    rw [follow, if_neg hdot, if_neg hup]
    rfl
  | case5 => cases h
  | case6 dir step steps hsteps d hstep ih =>
    rw [ih h, ← follow_of_enter hstep]
    rfl

theorem location_of_locate {p : Place} (h : t.locate path = .ok p) : p.location = goal path := by
  have hne : path ≠ "" := by
    rintro rfl
    cases h
  rw [(spellable_of_locate h).locate hne] at h
  exact location_of_walk h

theorem goal_join {name : String} (hname : Path.IsName name) (dir : String) :
    goal (Path.join dir name) = goal dir ++ [name] := by
  have hstart : start (Path.join dir name) = start dir := by
    rw [start, Path.isAbsolute_join hname.noSlash]
    rfl
  rw [goal, hstart, Path.steps_join hname.noSlash dir hname.ne_empty, follow_append, follow,
    if_neg hname.ne_dot, if_neg hname.ne_dotdot]
  rfl

/-! ## reading -/

theorem read_eq_ok_iff : t.read path = .ok content ↔
    ∃ p, t.locate path = .ok p ∧ t.find p.location = .ok (some (.file content)) ∧
      p.slash = false := by
  constructor
  · intro h
    obtain ⟨p, hp, h⟩ := bind_eq_ok.mp h
    obtain ⟨o, ho, h⟩ := bind_eq_ok.mp h
    split at h
    · cases h
    · cases h
    · split at h
      · cases h
      · next hslash =>
        obtain rfl := Except.ok.inj h
        exact ⟨p, hp, ho, Bool.eq_false_iff.mpr hslash⟩
  · rintro ⟨p, hp, hfile, hslash⟩
    refine bind_eq_ok.mpr ⟨p, hp, bind_eq_ok.mpr ⟨_, hfile, ?_⟩⟩
    rw [hslash]
    rfl

/-- a file is read as long as no directory goes and the file stays -/
theorem read_of_entry (hdirs : ∀ l, t.entry? l = some .dir → t'.entry? l = some .dir)
    (hfile : t'.entry? (goal path) = t.entry? (goal path)) (h : t.read path = .ok content) :
    t'.read path = .ok content := by
  obtain ⟨p, hp, hfind, hslash⟩ := read_eq_ok_iff.mp h
  refine read_eq_ok_iff.mpr ⟨p, locate_mono hdirs hp, ?_, hslash⟩
  rw [← location_of_locate hp] at hfile
  rw [find_of_find hfind, hfile, find_eq_ok hfind]

/-! ## entries that are added -/

/-- what was there stays -/
def Grows (t t' : FileTree) : Prop := ∀ l e, t.entry? l = some e → t'.entry? l = some e

namespace Grows

theorem refl (t : FileTree) : t.Grows t := fun _ _ h => h

theorem trans {t₁ t₂ t₃ : FileTree} (h : t₁.Grows t₂) (h' : t₂.Grows t₃) : t₁.Grows t₃ :=
  fun l e he => h' l e (h l e he)

theorem read (h : t.Grows t') (hread : t.read path = .ok content) : t'.read path = .ok content := by
  obtain ⟨p, hp, hfind, -⟩ := read_eq_ok_iff.mp hread
  have hfile := find_eq_ok hfind
  rw [location_of_locate hp] at hfile
  exact read_of_entry (fun l => h l .dir) ((h _ _ hfile).trans hfile.symm) hread

end Grows

theorem grows_makeDir (h : t.makeDir path = .ok t') : t.Grows t' := by
  obtain ⟨p, -, hnone, rfl⟩ := makeDir_eq_ok h
  have hfree : t.entry? p.location ≠ some .dir := by
    rw [find_eq_ok hnone]
    exact nofun
  intro l e he
  rw [entry?_put (not_isPrefixOf_of_free hfree), if_neg]
  · exact he
  · rintro rfl
    rw [find_eq_ok hnone] at he
    cases he

/-! ## writing -/

/-- a file that was written says what was written -/
theorem read_write (h : t.write path content = .ok t') : t'.read path = .ok content := by
  obtain ⟨p, hp, h⟩ := bind_eq_ok.mp h
  split at h
  · cases h
  · next hname =>
    obtain ⟨o, ho, h⟩ := bind_eq_ok.mp h
    split at h
    · cases h
    · next hdir =>
      obtain rfl := Except.ok.inj h
      have hfree : t.entry? p.location ≠ some .dir := by
        rw [find_eq_ok ho]
        exact hdir
      refine read_eq_ok_iff.mpr ⟨p, locate_mono (dirs_put hfree _) hp, ?_, ?_⟩
      · rw [find_of_find ho, entry?_put (not_isPrefixOf_of_free hfree), if_pos rfl]
      · exact Bool.eq_false_iff.mpr fun hslash => hname (.inr hslash)

/-- the files at other places say what they said -/
theorem read_write_of_ne (h : t.write path content = .ok t') (hne : goal path' ≠ goal path)
    (hread : t.read path' = .ok content') : t'.read path' = .ok content' := by
  obtain ⟨p, hp, -, hfree, rfl⟩ := write_eq_ok h
  refine read_of_entry (dirs_put hfree _) ?_ hread
  rw [entry?_put (not_isPrefixOf_of_free hfree), if_neg]
  rwa [location_of_locate hp]

end FileTree

/-! ## making directories -/

section
variable {α β : Type}

/-- a call that takes nothing away -/
def Growing (x : StateM Machine α) : Prop := ∀ m : Machine, m.tree.Grows (x m).2.tree

theorem growing_pure (a : α) : Growing (pure a) := fun m => .refl m.tree

theorem Growing.bind {x : StateM Machine α} {f : α → StateM Machine β} (hx : Growing x)
    (hf : ∀ a, Growing (f a)) : Growing (x >>= f) :=
  fun m => (hx m).trans (hf (x m).1 (x m).2)

end

theorem growing_ensureDir (path : String) : Growing (ensureDir path) := by
  intro m
  cases hmake : m.tree.makeDir path with
  | ok t =>
    rw [ensureDir_ok hmake]
    exact FileTree.grows_makeDir hmake
  | error e =>
    rw [ensureDir_error hmake]
    exact .refl m.tree

theorem growing_createDirsUpTo (depth : Nat) (path : String) :
    Growing (createDirsUpTo depth path) := by
  induction depth generalizing path with
  | zero =>
    unfold createDirsUpTo
    split
    · exact growing_pure _
    · refine (growing_ensureDir path).bind fun a => ?_
      split
      · exact growing_pure _
      · exact growing_pure _
  | succ depth ih =>
    unfold createDirsUpTo
    split
    · exact growing_pure _
    · refine (growing_ensureDir path).bind fun a => ?_
      split
      · cases Path.parent? path with
        | none => exact growing_pure _
        | some parent =>
          refine (ih parent).bind fun a => ?_
          split
          · exact growing_pure _
          · exact growing_ensureDir path
      · exact growing_pure _

theorem growing_createDirAll (path : String) : Growing (createDirAll path) :=
  growing_createDirsUpTo _ path

end Blocklist
