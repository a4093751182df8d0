import Blocklist.Proofs.FilePaths

/-!
# The last name of a path

A path that names a file names it in a directory: up to the last name it is the path of the
directory, and after the name there is no more than a tail. The parent of the path leads to that
directory, and the draft of the file is another file in it, if it is a file at all.

* `Path.Names path dir name`   the last name of `path` is `name`, in the directory `dir`;
* `Path.Names.parent?`         the parent leads to this directory;
* `Path.Names.draft`           the draft is in this directory;
* `Path.exists_names`          the directory of a path with a file name.
-/

namespace Blocklist.Path

/-! ## tails -/

theorem dropTail_suffix (cs : List Char) : dropTail cs <:+ cs := by
  fun_induction dropTail cs with
  | case1 cs ih => exact ih.trans (List.suffix_cons _ _)
  | case2 cs ih => exact ih.trans ((List.suffix_cons _ _).trans (List.suffix_cons _ _))
  | case3 cs => exact List.suffix_refl _

theorem dropTail_dropTail (cs : List Char) : dropTail (dropTail cs) = dropTail cs := by
  fun_induction dropTail cs with
  | case1 cs ih => exact ih
  | case2 cs ih => exact ih
  | case3 cs hslash hdot => rw [dropTail] <;> assumption

theorem trim_trim (cs : List Char) : trim (trim cs) = trim cs := by
  rw [trim, trim, List.reverse_reverse, dropTail_dropTail]

/-- the steps in a tail stand for nothing -/
theorem stepsOf_trim (cs : List Char) :
    ∃ k, stepsOf cs = stepsOf (trim cs) ++ List.replicate k ['.'] := by
  have hdrop : ∀ cs, ∃ k,
      stepsOf cs.reverse = stepsOf (dropTail cs).reverse ++ List.replicate k ['.'] := by
    intro cs
    fun_induction dropTail cs with
    | case1 cs ih =>
      rw [List.reverse_cons, stepsOf_append_slash]
      exact ih
    | case2 cs ih =>
      obtain ⟨k, hk⟩ := ih
      refine ⟨k + 1, ?_⟩
      rw [List.reverse_cons, List.reverse_cons, List.append_assoc]
      show stepsOf (cs.reverse ++ '/' :: ['.']) = _
      rw [stepsOf_append, hk, List.append_assoc, List.replicate_succ']
      rfl
    | case3 cs => exact ⟨0, (List.append_nil _).symm⟩
  have htrim := hdrop cs.reverse
  rwa [List.reverse_reverse] at htrim

/-- what is left without its tail ends neither with a slash nor with a step that stands for
nothing -/
theorem trim_ne {cs ds tail : List Char} (htail : tail = ['/'] ∨ tail = ['/', '.']) :
    trim cs ≠ ds ++ tail := by
  intro heq
  have hshort := (dropTail_suffix ds.reverse).length_le
  rw [List.length_reverse] at hshort
  have hlong : (trim (ds ++ tail)).length ≤ ds.length := by
    rw [trim, List.reverse_append, List.length_reverse]
    rcases htail with rfl | rfl
    · exact hshort
    · exact hshort
  have hsame := trim_trim cs
  rw [heq] at hsame
  rw [hsame, List.length_append] at hlong
  rcases htail with rfl | rfl
  · exact absurd hlong (by simp)
  · exact absurd hlong (by simp)

/-! ## stems -/

theorem stemOf_draft (stem : String) : stemOf (stem ++ ".json.tmp") = stem ++ ".json" := by
  have hreverse : (stem ++ ".json.tmp").toList.reverse =
      ['p', 'm', 't'] ++ '.' :: 'n' :: (['o', 's', 'j', '.'] ++ stem.toList.reverse) := by
    rw [String.toList_append, List.reverse_append]
    rfl
  have hdrop : (stem ++ ".json.tmp").toList.reverse.dropWhile (· ≠ '.') =
      '.' :: 'n' :: (['o', 's', 'j', '.'] ++ stem.toList.reverse) := by
    rw [hreverse, List.dropWhile_append_of_pos (by simp)]
    rfl
  rw [stemOf]
  simp only [hdrop]
  rw [← String.toList_inj, String.toList_ofList, String.toList_append, List.reverse_cons,
    List.reverse_append, List.reverse_reverse, List.append_assoc]
  rfl

/-- no name is that of its draft -/
theorem draft_ne (name : String) : stemOf name ++ ".json.tmp" ≠ name := by
  intro heq
  have hstem := stemOf_draft (stemOf name)
  rw [heq] at hstem
  have hlength := congrArg String.length hstem
  rw [String.length_append] at hlength
  have hjson : ".json".length = 5 := by decide
  omega

theorem stemOf_subset (name : String) : ∀ c ∈ (stemOf name).toList, c ∈ name.toList := by
  rw [stemOf]
  split
  · next stem hdrop =>
    intro c hc
    rw [String.toList_ofList, List.mem_reverse] at hc
    have hsuffix := List.dropWhile_suffix (l := name.toList.reverse) (fun c => decide (c ≠ '.'))
    exact List.mem_reverse.mp (hsuffix.subset (hdrop ▸ List.mem_cons_of_mem _ hc))
  · exact fun _ hc => hc

/-! ## files -/

/-- The last name of the path is `name`, in the directory `dir`. -/
structure File (path dir name : String) : Prop where
  isName : IsName name
  steps : ∃ k, steps path = steps dir ++ name :: List.replicate k "."
  isAbsolute : isAbsolute path = isAbsolute dir
  parent : ∃ parent, parent? path = some parent ∧ names parent = names dir ∧
    (parent ≠ "" → Path.isAbsolute parent = Path.isAbsolute dir)
  /-- The draft is another name in the directory, or the directory above. -/
  draft : draftPath path = join dir ".." ∨ ∃ d, IsName d ∧ d ≠ name ∧ draftPath path = join dir d

/-- a path without its tail, cut at its last slash -/
theorem exists_trim_eq (path : String) :
    ∃ last, trim path.toList = beforeName path ++ last ∧ '/' ∉ last ∧
      (beforeName path = [] ∨ ∃ ds, beforeName path = ds ++ ['/']) := by
  refine ⟨((trim path.toList).reverse.takeWhile (· ≠ '/')).reverse, ?_, fun hmem => ?_, ?_⟩
  · rw [beforeName, ← List.reverse_append, List.takeWhile_append_dropWhile, List.reverse_reverse]
  · have hall := List.all_eq_true.mp List.all_takeWhile '/' (List.mem_reverse.mp hmem)
    exact absurd rfl (of_decide_eq_true hall)
  · rw [beforeName]
    cases hrest : (trim path.toList).reverse.dropWhile (· ≠ '/') with
    | nil => exact .inl rfl
    | cons c rest =>
      have hhead := List.head?_dropWhile_not (fun c => decide (c ≠ '/')) (trim path.toList).reverse
      rw [hrest] at hhead
      have hc : c = '/' := by simpa using hhead
      exact .inr ⟨rest.reverse, by rw [hc, List.reverse_cons]⟩

theorem fileName?_eq_some {path name : String} (h : fileName? path = some name) :
    (names path).getLast? = some name ∧ name ≠ ".." := by
  rw [fileName?] at h
  split at h
  · cases h
  · next hup => exact ⟨h, fun heq => hup (heq ▸ h)⟩

theorem names_eq_trim (path : String) :
    names path = (namesOf (trim path.toList)).map String.ofList := by
  rw [namesOf_trim, ← names_ofList, String.ofList_toList]

/-- up to its tail, a path with a file name is a path into a directory -/
theorem exists_join_of_fileName? {path name : String} (h : fileName? path = some name) :
    ∃ dir, dir.toList = beforeName path ∧ dirPrefix dir = beforeName path ∧ IsName name ∧
      (join dir name).toList = trim path.toList := by
  obtain ⟨last, hbase, hslash, hbefore⟩ := exists_trim_eq path
  obtain ⟨hlast, hup⟩ := fileName?_eq_some h
  have hdir : dirPrefix (String.ofList (beforeName path)) = beforeName path := by
    rw [dirPrefix, String.toList_ofList]
    rcases hbefore with hnil | ⟨ds, hds⟩
    · rw [if_pos (.inl (by rw [hnil])), hnil]
    · rw [if_pos (.inr (by rw [hds, List.getLast?_concat]))]
  -- the last step names something: else it would belong to the tail
  have hstep : last ≠ [] ∧ last ≠ ['.'] := by
    constructor
    · rintro rfl
      rw [List.append_nil] at hbase
      rcases hbefore with hnil | ⟨ds, hds⟩
      · rw [names_eq_trim, hbase, hnil] at hlast
        cases hlast
      · exact trim_ne (.inl rfl) (hbase.trans hds)
    · rintro rfl
      rcases hbefore with hnil | ⟨ds, hds⟩
      · rw [names_eq_trim, hbase, hnil] at hlast
        cases hlast
      · rw [hds, List.append_assoc] at hbase
        exact trim_ne (.inr rfl) hbase
  have hname : String.ofList last = name := by
    have hkept : [last].filter (· ≠ ['.']) = [last] :=
      List.filter_cons_of_pos (decide_eq_true hstep.2)
    rw [names_eq_trim, hbase, ← hdir, namesOf, stepsOf_dirPrefix_append,
      stepsOf_of_not_mem hslash hstep.1, List.filter_append, hkept, List.map_append] at hlast
    exact Option.some.inj (List.getLast?_concat.symm.trans hlast)
  have hname' : name.toList = last := by rw [← hname, String.toList_ofList]
  refine ⟨.ofList (beforeName path), String.toList_ofList, hdir, ⟨?_, ?_, ?_, hup⟩, ?_⟩
  · rwa [hname']
  · rintro rfl
    exact hstep.1 hname'.symm
  · rintro rfl
    exact hstep.2 hname'.symm
  · rw [toList_join (hname' ▸ hslash), hdir, hname', hbase]

theorem exists_file {path name : String} (h : fileName? path = some name) :
    ∃ dir, File path dir name := by
  obtain ⟨dir, hbefore, hdir, hname, hjoin⟩ := exists_join_of_fileName? h
  have habsolute : isAbsolute path = isAbsolute dir := by
    obtain ⟨rest, hrest⟩ := prefix_trim path.toList
    obtain ⟨c, cs, hcs⟩ := List.exists_cons_of_ne_nil fun hnil =>
      join_ne_empty hname.noSlash dir hname.ne_empty (String.toList_eq_nil_iff.mp hnil)
    rw [← isAbsolute_join hname.noSlash dir, isAbsolute, isAbsolute, ← hrest, ← hjoin, hcs]
    rfl
  have hnames : names path = names (join dir name) := by
    rw [names_eq_trim, ← hjoin, ← names_ofList, String.ofList_toList]
  refine ⟨dir, hname, ?_, habsolute, ?_, ?_⟩
  · obtain ⟨k, hk⟩ := stepsOf_trim path.toList
    refine ⟨k, ?_⟩
    rw [steps_eq, hk, ← hjoin, List.map_append, ← steps_eq,
      steps_join hname.noSlash dir hname.ne_empty, List.append_assoc, List.map_replicate]
    rfl
  · obtain ⟨parent, hparent, hsame, hstart, -⟩ := parent?_join hname dir
    refine ⟨parent, ?_, hsame, hstart⟩
    rw [← hparent, parent?, parent?, hnames, beforeName_join hname, hdir,
      isAbsolute_join hname.noSlash, habsolute]
  · have hstem : stem? path = some (stemOf name) := by rw [stem?, h, Option.map_some]
    have hdraft : IsName (stemOf name ++ ".json.tmp") :=
      isName_append (fun hmem => hname.noSlash (stemOf_subset name _ hmem)) (by decide) (by decide)
    have hjson : ".json.tmp" = "." ++ "json.tmp" := by decide
    rw [draftPath, withExtension, hstem, ← hdir]
    dsimp only
    split
    · exact .inl (join_eq (by decide) dir).symm
    · refine .inr ⟨_, hdraft, draft_ne name, ?_⟩
      rw [join_eq hdraft.noSlash, hjson, String.append_assoc, String.append_assoc]

end Blocklist.Path
