import Blocklist.Files.FileSystem

/-!
# Paths of files in a directory

A path into a directory has the steps of the directory and then the name of the file. Its parent
leads where the directory does, and the draft beside it is a file of the same directory.

* `Path.stepsOf_append`        the steps of two paths around a separator;
* `Path.IsName`                a step that is the name of something in its directory;
* `Path.steps_join`            the steps of a path into a directory;
* `Path.parent?_join`          its parent has the names of the directory;
* `Path.withExtension_join`    another extension is another name in the directory.
-/

namespace Blocklist

namespace Path

/-! ## steps -/

/-- the steps of a path, character by character -/
def stepsOf (cs : List Char) : List (List Char) := (Text.splitOn '/' cs).filter (· ≠ [])

theorem steps_eq (path : String) : steps path = (stepsOf path.toList).map String.ofList := rfl

theorem stepsOf_append (a b : List Char) : stepsOf (a ++ '/' :: b) = stepsOf a ++ stepsOf b := by
  rw [stepsOf, Text.splitOn_append, List.filter_append]
  rfl

theorem stepsOf_append_slash (cs : List Char) : stepsOf (cs ++ ['/']) = stepsOf cs := by
  rw [stepsOf_append]
  exact List.append_nil _

theorem stepsOf_of_not_mem {cs : List Char} (h : '/' ∉ cs) (hne : cs ≠ []) :
    stepsOf cs = [cs] := by
  rw [stepsOf, Text.splitOn_of_not_mem h]
  exact List.filter_cons_of_pos (decide_eq_true hne)

/-- the steps but those that stand for nothing -/
def namesOf (cs : List Char) : List (List Char) := (stepsOf cs).filter (· ≠ ['.'])

theorem names_ofList (cs : List Char) :
    names (String.ofList cs) = (namesOf cs).map String.ofList := by
  rw [names, steps_eq, String.toList_ofList, namesOf, List.filter_map]
  congr 1
  refine List.filter_congr fun l _ => ?_
  rw [Function.comp_apply, decide_eq_decide]
  exact not_congr ⟨fun h => by simpa using congrArg String.toList h, fun h => by rw [h]⟩

theorem namesOf_append_slash (cs : List Char) : namesOf (cs ++ ['/']) = namesOf cs := by
  rw [namesOf, stepsOf_append_slash]
  rfl

/-- a path leads where it leads without its tail -/
theorem namesOf_dropTail (cs : List Char) : namesOf (dropTail cs).reverse = namesOf cs.reverse := by
  fun_induction dropTail cs with
  | case1 cs ih => rw [ih, List.reverse_cons, namesOf_append_slash]
  | case2 cs ih =>
    have hdot : namesOf (cs.reverse ++ '/' :: ['.']) = namesOf cs.reverse := by
      rw [namesOf, stepsOf_append, List.filter_append]
      exact List.append_nil _
    rw [ih, List.reverse_cons, List.reverse_cons, List.append_assoc]
    exact hdot.symm
  | case3 cs => rfl

theorem namesOf_trim (cs : List Char) : namesOf (trim cs) = namesOf cs := by
  rw [trim, namesOf_dropTail, List.reverse_reverse]

theorem prefix_trim (cs : List Char) : trim cs <+: cs := by
  have hsuffix : ∀ cs : List Char, dropTail cs <:+ cs := by
    intro cs
    fun_induction dropTail cs with
    | case1 cs ih => exact ih.trans (List.suffix_cons _ _)
    | case2 cs ih => exact ih.trans ((List.suffix_cons _ _).trans (List.suffix_cons _ _))
    | case3 cs => exact List.suffix_refl _
  rw [trim, ← List.reverse_suffix, List.reverse_reverse]
  exact hsuffix cs.reverse

/-! ## names in a directory -/

/-- a step that leads to something in the directory -/
structure IsName (name : String) : Prop where
  noSlash : '/' ∉ name.toList
  ne_empty : name ≠ ""
  ne_dot : name ≠ "."
  ne_dotdot : name ≠ ".."

/-- a directory as the start of the paths into it -/
def dirPrefix (dir : String) : List Char :=
  if dir = "" ∨ dir.toList.getLast? = some '/' then dir.toList else dir.toList ++ ['/']

theorem dirPrefix_cases (dir : String) :
    (dir = "" ∧ dirPrefix dir = []) ∨ (dir ≠ "" ∧
      ∃ cs, dirPrefix dir = cs ++ ['/'] ∧ (dir.toList = cs ∨ dir.toList = cs ++ ['/'])) := by
  rw [dirPrefix]
  by_cases hempty : dir = ""
  · rw [if_pos (.inl hempty), hempty]
    exact .inl ⟨rfl, rfl⟩
  · by_cases hlast : dir.toList.getLast? = some '/'
    · obtain ⟨cs, hcs⟩ := List.getLast?_eq_some_iff.mp hlast
      rw [if_pos (.inr hlast), hcs]
      exact .inr ⟨hempty, cs, rfl, .inr rfl⟩
    · rw [if_neg (not_or.mpr ⟨hempty, hlast⟩)]
      exact .inr ⟨hempty, dir.toList, rfl, .inl rfl⟩

theorem stepsOf_dirPrefix_append (dir : String) (cs : List Char) :
    stepsOf (dirPrefix dir ++ cs) = stepsOf dir.toList ++ stepsOf cs := by
  rcases dirPrefix_cases dir with ⟨rfl, hempty⟩ | ⟨-, ds, hinit, hdir | hdir⟩
  · rw [hempty]
    rfl
  · rw [hinit, hdir, List.append_assoc]
    exact stepsOf_append ds cs
  · rw [hinit, hdir, List.append_assoc, stepsOf_append_slash]
    exact stepsOf_append ds cs

theorem namesOf_dirPrefix (dir : String) : namesOf (dirPrefix dir) = namesOf dir.toList := by
  have hsteps := stepsOf_dirPrefix_append dir []
  rw [List.append_nil] at hsteps
  rw [namesOf, hsteps]
  exact congrArg _ (List.append_nil _)

/-- what follows a directory in a path does not make the path absolute -/
theorem head?_dirPrefix_append (dir : String) {cs : List Char} (h : cs.head? ≠ some '/') :
    (dirPrefix dir ++ cs).head? = some '/' ↔ isAbsolute dir = true := by
  rw [isAbsolute, decide_eq_true_eq]
  rcases dirPrefix_cases dir with ⟨rfl, hempty⟩ | ⟨hne, ds, hinit, hdir⟩
  · rw [hempty, List.nil_append]
    exact ⟨fun hhead => absurd hhead h, nofun⟩
  · cases ds with
    | nil =>
      rw [hinit]
      rcases hdir with hdir | hdir
      · exact absurd (String.toList_eq_nil_iff.mp hdir) hne
      · rw [hdir]
        exact ⟨fun _ => rfl, fun _ => rfl⟩
    | cons d ds =>
      rw [hinit]
      rcases hdir with hdir | hdir
      · rw [hdir]
        exact Iff.rfl
      · rw [hdir]
        exact Iff.rfl

/-! ## paths into a directory -/

theorem toList_join_of_relative {name : String} (h : isAbsolute name = false) (dir : String) :
    (join dir name).toList = dirPrefix dir ++ name.toList := by
  rw [join, if_neg (Bool.eq_false_iff.mp h), dirPrefix]
  split
  · exact String.toList_append
  · rw [String.toList_append, String.toList_append]
    rfl

section
variable {name : String} (h : '/' ∉ name.toList) (dir : String)
include h

theorem head?_ne_slash : name.toList.head? ≠ some '/' :=
  fun hhead => h (List.mem_of_mem_head? hhead)

theorem isAbsolute_of_not_mem : isAbsolute name = false :=
  decide_eq_false (head?_ne_slash h)

theorem toList_join : (join dir name).toList = dirPrefix dir ++ name.toList :=
  toList_join_of_relative (isAbsolute_of_not_mem h) dir

theorem join_eq : join dir name = String.ofList (dirPrefix dir) ++ name := by
  rw [← String.toList_inj, toList_join h, String.toList_append, String.toList_ofList]

theorem join_ne_empty (hne : name ≠ "") : join dir name ≠ "" := by
  intro heq
  have hlist := toList_join h dir
  rw [heq] at hlist
  exact hne (String.toList_eq_nil_iff.mp (List.append_eq_nil_iff.mp hlist.symm).2)

theorem isAbsolute_join : isAbsolute (join dir name) = isAbsolute dir := by
  have hhead := head?_dirPrefix_append dir (head?_ne_slash h)
  rw [← toList_join h] at hhead
  rw [Bool.eq_iff_iff, ← hhead, isAbsolute, decide_eq_true_eq]

theorem steps_join (hne : name ≠ "") : steps (join dir name) = steps dir ++ [name] := by
  have hname : name.toList ≠ [] := fun hnil => hne (String.toList_eq_nil_iff.mp hnil)
  rw [steps_eq, toList_join h, stepsOf_dirPrefix_append, stepsOf_of_not_mem h hname,
    List.map_append, ← steps_eq]
  show _ ++ [String.ofList name.toList] = _
  rw [String.ofList_toList]

end

section
variable {name : String} (h : IsName name) (dir : String)
include h

theorem IsName.toList_ne_nil : name.toList ≠ [] :=
  fun hnil => h.ne_empty (String.toList_eq_nil_iff.mp hnil)

/-- a path that ends with a name has no tail -/
theorem trim_append_name (cs : List Char) : trim (cs ++ name.toList) = cs ++ name.toList := by
  obtain ⟨c, back, hback⟩ := List.exists_cons_of_ne_nil
    (fun hnil => h.toList_ne_nil (List.reverse_eq_nil_iff.mp hnil) : name.toList.reverse ≠ [])
  have hmem : ∀ c' ∈ c :: back, c' ≠ '/' := by
    rintro c' hc' rfl
    exact h.noSlash (List.mem_reverse.mp (hback ▸ hc'))
  have hkept : dropTail (cs ++ name.toList).reverse = (cs ++ name.toList).reverse := by
    rw [List.reverse_append, hback]
    cases back with
    | nil =>
      have hdot : c ≠ '.' := by
        rintro rfl
        have hname : name.toList = ['.'] := by
          rw [← List.reverse_reverse name.toList, hback]
          rfl
        exact h.ne_dot (String.toList_inj.mp hname)
      rw [List.singleton_append, dropTail]
      · exact fun _ heq => hmem c List.mem_cons_self (List.cons.inj heq).1
      · exact fun _ heq => hdot (List.cons.inj heq).1
    | cons d back =>
      rw [List.cons_append, dropTail]
      · exact fun _ heq => hmem c List.mem_cons_self (List.cons.inj heq).1
      · intro _ heq
        obtain ⟨-, heq⟩ := List.cons.inj heq
        exact hmem d (List.mem_cons_of_mem c List.mem_cons_self) (List.cons.inj heq).1
  rw [trim, hkept, List.reverse_reverse]

theorem beforeName_join : beforeName (join dir name) = dirPrefix dir := by
  have hname : ∀ c ∈ name.toList.reverse, decide (c ≠ '/') = true := by
    intro c hc
    rw [decide_eq_true_eq]
    rintro rfl
    exact h.noSlash (List.mem_reverse.mp hc)
  rw [beforeName, toList_join h.noSlash, trim_append_name h, List.reverse_append,
    List.dropWhile_append_of_pos hname]
  rcases dirPrefix_cases dir with ⟨-, hempty⟩ | ⟨-, ds, hinit, -⟩
  · rw [hempty]
    rfl
  · rw [hinit, List.reverse_append]
    show ('/' :: ds.reverse).reverse = _
    rw [List.reverse_cons, List.reverse_reverse]

theorem names_join : names (join dir name) = names dir ++ [name] := by
  rw [names, steps_join h.noSlash dir h.ne_empty, List.filter_append]
  congr 1
  exact List.filter_cons_of_pos (decide_eq_true h.ne_dot)

/-- The parent of a path into a directory is the directory without its tail. -/
theorem parent?_join :
    ∃ parent, parent? (join dir name) = some parent ∧ names parent = names dir ∧
      (parent ≠ "" → isAbsolute parent = isAbsolute dir) ∧
      parent.toList <+: (join dir name).toList := by
  have hsome : names (join dir name) ≠ [] := by
    rw [names_join h]
    exact List.append_ne_nil_of_right_ne_nil _ (List.cons_ne_nil name [])
  have hnames : names (String.ofList (trim (dirPrefix dir))) = names dir := by
    rw [names_ofList, namesOf_trim, namesOf_dirPrefix, ← names_ofList, String.ofList_toList]
  have hbefore : dirPrefix dir <+: (join dir name).toList := by
    rw [toList_join h.noSlash]
    exact List.prefix_append _ _
  rw [parent?, if_neg hsome, beforeName_join h, isAbsolute_join h.noSlash]
  by_cases hroot : trim (dirPrefix dir) = [] ∧ isAbsolute dir = true
  · refine ⟨"/", by simp only [if_pos hroot], ?_, fun _ => hroot.2.symm, ?_⟩
    · rw [← hnames, hroot.1]
      decide
    · have habsolute := (isAbsolute_join h.noSlash dir).trans hroot.2
      rw [isAbsolute, decide_eq_true_eq] at habsolute
      obtain ⟨cs, hcs⟩ := List.head?_eq_some_iff.mp habsolute
      rw [hcs]
      exact ⟨cs, rfl⟩
  · refine ⟨_, by simp only [if_neg hroot], hnames, fun hne => ?_, ?_⟩
    · have htrim : trim (dirPrefix dir) ≠ [] := fun hnil => hne (by rw [hnil])
      have hhead := head?_dirPrefix_append dir (nofun : [].head? ≠ some '/')
      obtain ⟨c, cs, hcs⟩ := List.exists_cons_of_ne_nil htrim
      obtain ⟨rest, hrest⟩ := prefix_trim (dirPrefix dir)
      rw [List.append_nil, ← hrest, hcs] at hhead
      rw [Bool.eq_iff_iff, ← hhead, isAbsolute, decide_eq_true_eq, String.toList_ofList, hcs]
      exact Iff.rfl
    · rw [String.toList_ofList]
      exact (prefix_trim _).trans hbefore

theorem withExtension_join (extension : String) :
    withExtension (join dir name) extension =
      if stemOf name = "." then String.ofList (dirPrefix dir) ++ ".."
      else String.ofList (dirPrefix dir) ++ stemOf name ++ "." ++ extension := by
  have hfile : fileName? (join dir name) = some name := by
    rw [fileName?, names_join h, List.getLast?_concat]
    split
    · next heq => exact absurd (Option.some.inj heq) h.ne_dotdot
    · rfl
  have htrim : trim (join dir name).toList = (join dir name).toList := by
    rw [toList_join h.noSlash, trim_append_name h]
  rw [withExtension, stem?, hfile, beforeName_join h]
  simp only [Option.map_some, htrim, and_true]

end

end Path

/-! ## drafts -/

open Blocklist.Path

/-- the name of the draft of the file `id.json` -/
def draftName (id : String) : String := (if id = "" then ".json" else id) ++ ".json.tmp"

theorem isName_append {id extension : String} (hid : '/' ∉ id.toList)
    (hextension : '/' ∉ extension.toList) (hlong : 2 < extension.length) :
    IsName (id ++ extension) := by
  have hne : ∀ short : String, short.length ≤ 2 → id ++ extension ≠ short := by
    intro short hshort heq
    have hlength : id.length + extension.length = short.length := by
      rw [← heq, String.length_append]
    omega
  refine ⟨?_, hne "" (by decide), hne "." (by decide), hne ".." (by decide)⟩
  rw [String.toList_append, List.mem_append, not_or]
  exact ⟨hid, hextension⟩

theorem isName_json {id : String} (h : '/' ∉ id.toList) : IsName (id ++ ".json") :=
  isName_append h (by decide) (by decide)

theorem isName_draftName {id : String} (h : '/' ∉ id.toList) : IsName (draftName id) := by
  refine isName_append ?_ (by decide) (by decide)
  split
  · decide
  · exact h

theorem json_inj {id id' : String} (h : id ++ ".json" = id' ++ ".json") : id = id' := by
  have hlist := congrArg String.toList h
  rw [String.toList_append, String.toList_append] at hlist
  exact String.toList_inj.mp (List.append_cancel_right hlist)

/-- no file is the draft of a file -/
theorem json_ne_draftName (id id' : String) : id ++ ".json" ≠ draftName id' := by
  intro h
  have hlast := congrArg (fun s : String => s.toList.getLast?) h
  simp only [draftName, String.toList_append, List.getLast?_append] at hlast
  have hends : some 'n' = some 'p' := hlast
  cases hends

theorem Path.stemOf_json (id : String) :
    stemOf (id ++ ".json") = if id = "" then ".json" else id := by
  have hreverse : (id ++ ".json").toList.reverse =
      ['n', 'o', 's', 'j'] ++ '.' :: id.toList.reverse := by
    rw [String.toList_append, List.reverse_append]
    rfl
  have hdrop : (id ++ ".json").toList.reverse.dropWhile (· ≠ '.') = '.' :: id.toList.reverse := by
    rw [hreverse, List.dropWhile_append_of_pos (by simp)]
    rfl
  rw [stemOf]
  simp only [hdrop]
  by_cases hid : id = ""
  · rw [if_pos hid, hid]
    rfl
  · rw [if_neg hid]
    cases hback : id.toList.reverse with
    | nil => exact absurd (String.toList_eq_nil_iff.mp (List.reverse_eq_nil_iff.mp hback)) hid
    | cons c back =>
      show String.ofList (c :: back).reverse = id
      rw [← hback, List.reverse_reverse, String.ofList_toList]

theorem draftPath_join {id : String} (h : '/' ∉ id.toList) (dir : String) :
    draftPath (join dir (id ++ ".json")) =
      if id = "." then String.ofList (dirPrefix dir) ++ ".." else join dir (draftName id) := by
  have hextension : ∀ s t : String, s ++ t ++ "." ++ "json.tmp" = s ++ (t ++ ".json.tmp") := by
    intro s t
    have hdot : ".json.tmp" = "." ++ "json.tmp" := by decide
    rw [hdot, String.append_assoc, String.append_assoc]
  rw [draftPath, withExtension_join (isName_json h), stemOf_json,
    join_eq (isName_draftName h).noSlash, draftName, hextension]
  by_cases hid : id = ""
  · rw [hid]
    rfl
  · rw [if_neg hid]

end Blocklist
