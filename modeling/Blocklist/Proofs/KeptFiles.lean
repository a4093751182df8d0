import Blocklist.Proofs.FileWrites

/-!
# Files that a machine keeps

A machine keeps some files if each of them can be written whenever the others have been, and no file
is changed when another one is written. What such a machine does with these files is what one would
expect: a file is read as what was written there last.

* `read_writeJson`        a file that was written is read as what was written;
* `Machine.Written`       a machine after some files were written, and perhaps a while later;
* `Machine.Keeps`         a machine that keeps some files;
* `Machine.Keeps.write`   one more write.
-/

namespace Blocklist

variable {m m' : Machine} {path : String} {paths : List String} {j : Json}

theorem read_writeJson (h : (writeJson path j : StateM Machine _) m = (.ok (), m')) :
    m'.tree.read path = .ok j.pretty.toUTF8 := by
  cases hparent : Path.parent? path with
  | none =>
    obtain ⟨e, herror⟩ := writeJson_of_no_parent hparent j m
    rw [h] at herror
    cases herror
  | some parent =>
    obtain ⟨m₁, t₁, t₂, hcreate, hwrite, hrename, rfl⟩ := writeJson_ok hparent h
    cases hname : Path.fileName? path with
    | none =>
      obtain ⟨e, herror⟩ := FileTree.write_of_no_name (t := m₁.tree) hname j.pretty.toUTF8
      rw [hwrite] at herror
      cases herror
    | some name =>
      obtain ⟨dir, hfile⟩ := Path.exists_file hname
      obtain ⟨l, hdir⟩ := directory_of_file hfile hparent hcreate
      exact FileTree.read_replaced hfile hdir hwrite hrename

namespace Machine

/-- a machine after some of these files were written, and perhaps a while later -/
inductive Written (paths : List String) (m : Machine) : Machine → Prop
  | refl : Written paths m m
  | write {m₁ m₂ : Machine} (h : Written paths m m₁) {path : String} (hpath : path ∈ paths)
      {j : Json} (hwrite : (writeJson path j : StateM Machine _) m₁ = (.ok (), m₂)) :
      Written paths m m₂
  | idle {m₁ m₂ : Machine} (h : Written paths m m₁) (same : m₂.tree = m₁.tree) :
      Written paths m m₂

theorem Written.trans {m₁ m₂ : Machine} (h : Written paths m m₁) (h' : Written paths m₁ m₂) :
    Written paths m m₂ := by
  induction h' with
  | refl => exact h
  | write _ hpath hwrite ih => exact ih.write hpath hwrite
  | idle _ same ih => exact ih.idle same

/-- Whichever of these files have been written, each of them can be, and the others then say what
they said. -/
def Keeps (paths : List String) (m : Machine) : Prop :=
  ∀ m₁, Written paths m m₁ → ∀ path ∈ paths, ∀ j, ∃ m₂,
    (writeJson path j : StateM Machine _) m₁ = (.ok (), m₂) ∧
      ∀ other ∈ paths, other ≠ path → m₂.tree.read other = m₁.tree.read other

namespace Keeps

variable (h : Keeps paths m)
include h

theorem written (later : Written paths m m') : Keeps paths m' :=
  fun m₁ h₁ => h m₁ (later.trans h₁)

theorem idle (same : m'.tree = m.tree) : Keeps paths m' := h.written (.idle .refl same)

theorem write (hpath : path ∈ paths) (j : Json) :
    ∃ m', (writeJson path j : StateM Machine _) m = (.ok (), m') ∧ Keeps paths m' ∧
      m'.tree.read path = .ok j.pretty.toUTF8 ∧
      ∀ other ∈ paths, other ≠ path → m'.tree.read other = m.tree.read other := by
  obtain ⟨m', hwrite, hothers⟩ := h m .refl path hpath j
  exact ⟨m', hwrite, h.written (.write .refl hpath hwrite), read_writeJson hwrite, hothers⟩

end Keeps

end Machine

end Blocklist
