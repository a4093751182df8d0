import Blocklist.Proofs.CommandRuns
import Blocklist.Proofs.FileGoals
import Blocklist.Proofs.SharedIds

/-!
# Rulesets of compiled files

Filter lists in files are compiled side by side, each into a ruleset that is named after its file.
A ruleset says what the list became, until a list of the same name from another directory takes its
place; the summary counts the rules of both.

* `Cli.compiledPath`         the file that the rules of a list go to;
* `Cli.Written`              rulesets written one after another;
* `Cli.Written.read_last`    the last one of a name is there in the end;
* `Cli.compile_eq_ok`        what compiling files prints and writes;
* `Cli.KeepsLast`            what the rulesets say in the end, and what the summary says;
* `Cli.compile_keeps_last`   it holds of every command line that compiles and ends well.
-/

namespace Blocklist

/-- what the ruleset of a compiled list says -/
def FilterList.Compiled.bytes (c : Compiled) : ByteArray := (Rule.listText c.rules).toUTF8

namespace Cli

open FilterList FileTree

/-! ## sessions that end well -/

namespace Session

variable {α β ε : Type} {m m' : Machine} {out out' : String}

theorem on_bind_eq_ok {x : Session (StateM Machine) α} {f : α → Session (StateM Machine) β}
    {b : β} (h : (x >>= f).on out m = ((.ok b, out'), m')) :
    ∃ a out₁ m₁, x.on out m = ((.ok a, out₁), m₁) ∧ (f a).on out₁ m₁ = ((.ok b, out'), m') := by
  rw [on_bind] at h
  rcases hx : x.on out m with ⟨⟨e | a, out₁⟩, m₁⟩
  · rw [hx] at h
    cases h
  · rw [hx] at h
    exact ⟨a, out₁, m₁, rfl, h⟩

theorem on_printLine (line out : String) (m : Machine) :
    (printLine line).on out m = ((.ok (), out ++ line ++ "\n"), m) := rfl

theorem on_printLine_bind (line : String) (f : Unit → Session (StateM Machine) β) (out : String)
    (m : Machine) : (printLine line >>= f).on out m = (f ()).on (out ++ line ++ "\n") m := rfl

theorem on_outside_bind (x : StateM Machine α) (f : α → Session (StateM Machine) β) (out : String)
    (m : Machine) : (outside x >>= f).on out m = (f (x m).1).on out (x m).2 := rfl

theorem check_eq_ok {say : ε → String} {x : Except ε α} {a : α}
    (h : (check say x).on out m = ((.ok a, out'), m')) : x = .ok a ∧ out' = out ∧ m' = m := by
  cases x with
  | error e => cases h
  | ok a =>
    cases h
    exact ⟨rfl, rfl, rfl⟩

theorem call_eq_ok {say : ε → String} {x : StateM Machine (Except ε α)} {a : α}
    (h : (call say x).on out m = ((.ok a, out'), m')) : x m = (.ok a, m') ∧ out' = out := by
  obtain ⟨answer, out₁, m₁, hx, h⟩ := on_bind_eq_ok h
  rw [outside_on] at hx
  cases hx
  obtain ⟨hanswer, rfl, rfl⟩ := check_eq_ok h
  exact ⟨Prod.ext hanswer rfl, rfl⟩

end Session

/-! ## rulesets written one after another -/

/-- the file that the rules of a list go to -/
def compiledPath (output path : String) : String := Path.join output (listName path ++ ".json")

/-- Rulesets of lists are written one after another, those of later lists over earlier ones. -/
inductive Written (output : String) : FileTree → List (String × Compiled) → FileTree → Prop
  | nil (t : FileTree) : Written output t [] t
  | cons {t t₁ t₂ : FileTree} {path : String} {c : Compiled} {lists : List (String × Compiled)}
      (hwrite : t.write (compiledPath output path) c.bytes = .ok t₁)
      (h : Written output t₁ lists t₂) : Written output t ((path, c) :: lists) t₂

theorem noSlash_listName (path : String) : '/' ∉ (listName path).toList := by
  rw [listName, Path.stem?]
  cases hname : Path.fileName? path with
  | none => exact (by decide : '/' ∉ "list".toList)
  | some name =>
    obtain ⟨dir, -, -, hisName, -⟩ := Path.exists_join_of_fileName? hname
    exact fun hmem => hisName.noSlash (Path.stemOf_subset name _ hmem)

theorem goal_compiledPath (output path : String) :
    goal (compiledPath output path) = goal output ++ [listName path ++ ".json"] :=
  goal_join (isName_json (noSlash_listName path)) output

theorem goal_compiledPath_inj {output path path' : String}
    (h : goal (compiledPath output path) = goal (compiledPath output path')) :
    listName path = listName path' := by
  rw [goal_compiledPath, goal_compiledPath] at h
  exact json_inj (List.singleton_inj.mp (List.append_cancel_left h))

/-- a file outside the directory is none of its rulesets -/
theorem goal_ne_compiledPath {output file : String} (h : (goal file).dropLast ≠ goal output)
    (path : String) : goal file ≠ goal (compiledPath output path) := by
  intro heq
  rw [heq, goal_compiledPath, List.dropLast_concat] at h
  exact h rfl

namespace Written

variable {output path : String} {c : Compiled} {t t' : FileTree}
  {lists before after : List (String × Compiled)}

theorem read_of_ne (h : Written output t lists t') {file : String} {bytes : ByteArray}
    (hne : ∀ l ∈ lists, goal file ≠ goal (compiledPath output l.1))
    (hread : t.read file = .ok bytes) : t'.read file = .ok bytes := by
  induction h with
  | nil => exact hread
  | cons hwrite h ih =>
    rw [List.forall_mem_cons] at hne
    exact ih hne.2 (read_write_of_ne hwrite hne.1 hread)

/-- The last ruleset of a name is there in the end. -/
theorem read_last (h : Written output t (before ++ (path, c) :: after) t')
    (hlast : ∀ l ∈ after, listName l.1 ≠ listName path) :
    t'.read (compiledPath output path) = .ok c.bytes := by
  induction before generalizing t with
  | nil =>
    cases h with
    | cons hwrite h =>
      exact h.read_of_ne (fun l hl heq => hlast l hl (goal_compiledPath_inj heq).symm)
        (read_write hwrite)
  | cons l before ih =>
    cases h with
    | cons hwrite h => exact ih h

end Written

/-! ## what compiling prints and writes -/

section
variable {output path text : String} {verbose : Bool} {count index : Nat} {m m' : Machine}
  {out out' : String}

theorem readText_ok (h : m.tree.read path = .ok text.toUTF8) :
    (readText path : StateM Machine _) m = (.ok text, m) := by
  have hfile : (FileSystem.readFile path : StateM Machine _) m = (.ok text.toUTF8, m) :=
    Prod.ext h rfl
  rw [readText, bind_apply, hfile]
  dsimp only
  rw [Json.fromUTF8?_toUTF8]
  rfl

theorem tree_of_writeFile {bytes : ByteArray}
    (h : (FileSystem.writeFile path bytes : StateM Machine _) m = (.ok (), m')) :
    m.tree.write path bytes = .ok m'.tree := by
  cases hwrite : m.tree.write path bytes with
  | error e =>
    have hcall : (FileSystem.writeFile path bytes : StateM Machine _) m = (.error e, m) :=
      Machine.onTree_error hwrite
    rw [hcall] at h
    cases h
  | ok t =>
    have hcall : (FileSystem.writeFile path bytes : StateM Machine _) m =
        (.ok (), { m with tree := t }) := Machine.onTree_ok hwrite
    rw [hcall] at h
    cases h
    rfl

/-- A file is compiled into its window, and its rules are written. -/
theorem compileFile_eq_ok {tally : Tally} (hread : m.tree.read path = .ok text.toUTF8)
    (h : (compileFile output verbose count index path).on out m = ((.ok tally, out'), m')) :
    ∃ window, IdRange.staticWindow? index count = .ok window ∧
      tally = (FilterList.compile text.toList window).tally ∧
      m.tree.write (compiledPath output path) (FilterList.compile text.toList window).bytes =
        .ok m'.tree ∧
      ∃ printed, out' = out ++ printed := by
  rw [compileFile] at h
  obtain ⟨text', out₁, m₁, hcall, h⟩ := Session.on_bind_eq_ok h
  obtain ⟨htext, hout⟩ := Session.call_eq_ok hcall
  rw [readText_ok hread] at htext
  cases htext
  cases hout
  obtain ⟨window, out₂, m₂, hcheck, h⟩ := Session.on_bind_eq_ok h
  obtain ⟨hwindow, hout, hmachine⟩ := Session.check_eq_ok hcheck
  cases hout
  cases hmachine
  obtain ⟨_, out₃, m₃, hsave, h⟩ := Session.on_bind_eq_ok h
  obtain ⟨hwrite, hout⟩ := Session.call_eq_ok hsave
  cases hout
  have htree := tree_of_writeFile hwrite
  refine ⟨window, hwindow, ?_⟩
  dsimp only at h
  split at h
  · obtain ⟨_, out₄, m₄, hline, h⟩ := Session.on_bind_eq_ok h
    cases hline
    cases h
    exact ⟨rfl, htree, _, String.append_assoc ..⟩
  · cases h
    exact ⟨rfl, htree, "", String.append_empty.symm⟩

/-- Files outside the directory of the rulesets are compiled one after another. -/
theorem compileFiles_eq_ok {paths texts : List String} {tallies : List Tally}
    (hread : List.Forall₂ (fun path text => m.tree.read path = .ok text.toUTF8) paths texts)
    (houtside : ∀ path ∈ paths, (goal path).dropLast ≠ goal output)
    (h : (compileFiles output verbose count index paths).on out m = ((.ok tallies, out'), m')) :
    ∃ lists, compileFrom count index texts = .ok lists ∧ tallies = lists.map Compiled.tally ∧
      Written output m.tree (paths.zip lists) m'.tree ∧ ∃ printed, out' = out ++ printed := by
  induction paths generalizing index m out texts tallies with
  | nil =>
    cases hread
    cases h
    exact ⟨[], rfl, rfl, .nil _, "", String.append_empty.symm⟩
  | cons path paths ih =>
    cases hread with
    | @cons _ text _ texts hpath hpaths =>
      rw [compileFiles] at h
      obtain ⟨tally, out₁, m₁, hfile, h⟩ := Session.on_bind_eq_ok h
      obtain ⟨tallies', out₂, m₂, hfiles, h⟩ := Session.on_bind_eq_ok h
      cases h
      obtain ⟨window, hwindow, rfl, hwrite, printed, rfl⟩ := compileFile_eq_ok hpath hfile
      rw [List.forall_mem_cons] at houtside
      -- the files that are still to be read are not the ruleset that was written
      have hkept : List.Forall₂ (fun path text => m₁.tree.read path = .ok text.toUTF8)
          paths texts := by
        refine List.forall₂_iff_zip.mpr ⟨hpaths.length_eq, fun {file text} hzip => ?_⟩
        have hfile := houtside.2 file (List.of_mem_zip hzip).1
        exact read_write_of_ne hwrite (goal_ne_compiledPath hfile path)
          ((List.forall₂_iff_zip.mp hpaths).2 hzip)
      obtain ⟨lists, hlists, rfl, hwritten, printed', rfl⟩ := ih hkept houtside.2 hfiles
      exact ⟨FilterList.compile text.toList window :: lists,
        compileFrom_cons_eq_ok_iff.mpr ⟨window, lists, hwindow, hlists, rfl⟩, rfl,
        .cons hwrite hwritten, printed ++ printed', String.append_assoc ..⟩

end

/-! ## the summary -/

def total (count : Tally → Nat) (lists : List Compiled) : Nat :=
  (lists.map fun c => count c.tally).sum

/-- what is printed after all lists were compiled, but for the time it took -/
def summary (output : String) (lists : List Compiled) : String :=
  s!"Compiled {lists.length} filter lists to '{output}'" ++ "\n" ++
  s!"  Lines:    {total Tally.lines lists}" ++ "\n" ++
  s!"  Rules:    {(allRules lists).length} ({total Tally.rejected lists} rejected)" ++ "\n"

theorem foldl_total (count : Tally → Nat) (lists : List Compiled) :
    (lists.map Compiled.tally).foldl (fun n t => n + count t) 0 = total count lists := by
  rw [total, List.foldl_map, List.sum_eq_foldl, List.foldl_map]

theorem total_rules {count index : Nat} {texts : List String} {lists : List Compiled}
    (h : compileFrom count index texts = .ok lists) :
    total Tally.rules lists = (allRules lists).length := by
  induction texts generalizing index lists with
  | nil =>
    cases h
    rfl
  | cons text texts ih =>
    obtain ⟨window, rest, -, hrest, rfl⟩ := compileFrom_cons_eq_ok_iff.mp h
    rw [total, List.map_cons, List.sum_cons, ← total, ih hrest, rules_tally_compile, allRules,
      allRules, List.flatMap_cons, List.length_append]

/-- three lines and one about the time -/
theorem on_summary (line₁ line₂ line₃ : String) (line₄ : Nat → String) (out : String)
    (m : Machine) : ∃ time,
      (do
        Session.printLine line₁
        Session.printLine line₂
        Session.printLine line₃
        let now ← Session.outside Stopwatch.nowNs
        Session.printLine (line₄ now) : Session (StateM Machine) Unit).on out m =
      ((.ok (), out ++ (line₁ ++ "\n" ++ line₂ ++ "\n" ++ line₃ ++ "\n") ++ time), m) := by
  refine ⟨line₄ (m.clock.nowMs.toNat * 1000000) ++ "\n", ?_⟩
  rw [Session.on_printLine_bind, Session.on_printLine_bind, Session.on_printLine_bind,
    Session.on_outside_bind, Session.on_printLine]
  simp only [String.append_assoc]
  rfl

/-- Lists are compiled side by side, their rulesets are written, and the summary counts them all. -/
theorem compile_eq_ok {inputs texts : List String} {output out out' : String} {verbose : Bool}
    {m m' : Machine}
    (hread : List.Forall₂ (fun path text => m.tree.read path = .ok text.toUTF8) inputs texts)
    (houtside : ∀ path ∈ inputs, (goal path).dropLast ≠ goal output)
    (h : (compile inputs output verbose).on out m = ((.ok (), out'), m')) :
    ∃ lists, compileShared texts = .ok lists ∧
      (∃ t, Written output t (inputs.zip lists) m'.tree) ∧
      ∃ printed time, out' = out ++ printed ++ summary output lists ++ time := by
  rw [compile] at h
  obtain ⟨start, out₁, m₁, hstart, h⟩ := Session.on_bind_eq_ok h
  cases hstart
  obtain ⟨_, out₂, m₂, hcreate, h⟩ := Session.on_bind_eq_ok h
  obtain ⟨hmade, hout⟩ := Session.call_eq_ok hcreate
  cases hout
  obtain ⟨tallies, out₃, m₃, hfiles, h⟩ := Session.on_bind_eq_ok h
  have hgrows : m.tree.Grows m₂.tree := by
    have hgrows := growing_createDirAll output m
    rwa [hmade] at hgrows
  obtain ⟨lists, hlists, rfl, hwritten, printed, rfl⟩ :=
    compileFiles_eq_ok (hread.imp fun _ _ => hgrows.read) houtside hfiles
  have hlength := hread.length_eq
  rw [hlength, ← compileShared] at hlists
  rw [← length_compileFrom hlists] at hlength
  obtain ⟨time, hprinted⟩ := on_summary _ _ _ _ _ _
  have h := hprinted.symm.trans h
  simp only [foldl_total, total_rules hlists, hlength] at h
  cases h
  exact ⟨lists, hlists, ⟨m₂.tree, hwritten⟩, printed, time, rfl⟩

/-! ## what the rulesets say -/

/-- the rules that are found in a ruleset -/
def rulesFound (t : FileTree) (path : String) : List Rule :=
  match t.read path with
  | .ok bytes => ((Json.ofBytes? bytes).bind Rule.listOfJson?).getD []
  | .error _ => []

/-- rulesets that say the same are of lists with the same rules -/
theorem bytes_inj {c c' : Compiled} (h : c.bytes = c'.bytes) :
    c.rules.map Rule.wire = c'.rules.map Rule.wire := by
  have hread := congrArg (fun bytes => (Json.ofBytes? bytes).bind Rule.listOfJson?) h
  simp only [Compiled.bytes, Rule.listText, Json.ofBytes?_pretty (Rule.exact_listToJson _),
    Option.bind_some, Rule.listOfJson?_listToJson] at hread
  exact Option.some.inj hread

theorem length_rulesFound {t : FileTree} {path : String} {c : Compiled}
    (h : t.read path = .ok c.bytes) : (rulesFound t path).length = c.rules.length := by
  rw [rulesFound, h]
  simp only [Compiled.bytes, Rule.listText, Json.ofBytes?_pretty (Rule.exact_listToJson c.rules),
    Option.bind_some, Rule.listOfJson?_listToJson, Option.getD_some, List.length_map]

/-- what a command ends with that has compiled the lists in the files `inputs` -/
structure KeepsLast (inputs : List String) (output : String) (lists : List Compiled)
    (outcome : Outcome) (t : FileTree) : Prop where
  /-- of the lists of a name, the last one is in the ruleset of that name -/
  last : ∀ before path c after, inputs.zip lists = before ++ (path, c) :: after →
    (∀ l ∈ after, listName l.1 ≠ listName path) →
    t.read (compiledPath output path) = .ok c.bytes
  /-- lists of different names are all there -/
  all : (inputs.map listName).Nodup →
    ∀ l ∈ inputs.zip lists, t.read (compiledPath output l.1) = .ok l.2.bytes
  /-- and then the rules in their rulesets are as many as are counted -/
  found : (inputs.map listName).Nodup →
    (inputs.map fun path => (rulesFound t (compiledPath output path)).length).sum =
      (allRules lists).length
  /-- the rules of all lists are counted, those that are not kept among them -/
  counted : ∃ before time, outcome.stdout = before ++ summary output lists ++ time

theorem Written.keepsLast {inputs : List String} {output : String} {lists : List Compiled}
    {outcome : Outcome} {t t' : FileTree} (hlength : inputs.length = lists.length)
    (h : Written output t (inputs.zip lists) t')
    (counted : ∃ before time, outcome.stdout = before ++ summary output lists ++ time) :
    KeepsLast inputs output lists outcome t' := by
  have hinputs : (inputs.zip lists).map Prod.fst = inputs :=
    List.map_fst_zip (Nat.le_of_eq hlength)
  have hlists : (inputs.zip lists).map Prod.snd = lists :=
    List.map_snd_zip (Nat.le_of_eq hlength.symm)
  have last : ∀ before path c after, inputs.zip lists = before ++ (path, c) :: after →
      (∀ l ∈ after, listName l.1 ≠ listName path) →
      t'.read (compiledPath output path) = .ok c.bytes := by
    intro before path c after hsplit hlast
    rw [hsplit] at h
    exact h.read_last hlast
  have all : (inputs.map listName).Nodup →
      ∀ l ∈ inputs.zip lists, t'.read (compiledPath output l.1) = .ok l.2.bytes := by
    rintro hnodup ⟨path, c⟩ hl
    obtain ⟨before, after, hsplit⟩ := List.append_of_mem hl
    refine last before path c after hsplit fun l hlater heq => ?_
    rw [← hinputs, hsplit, List.map_append, List.map_cons, List.map_append, List.map_cons] at hnodup
    refine (List.nodup_cons.mp (List.nodup_append.mp hnodup).2.1).1 ?_
    rw [← heq]
    exact List.mem_map_of_mem (List.mem_map_of_mem hlater)
  refine ⟨last, all, fun hnodup => ?_, counted⟩
  have hfound : (inputs.zip lists).map
      (fun l => (rulesFound t' (compiledPath output l.1)).length) =
      (inputs.zip lists).map fun l => l.2.rules.length :=
    List.map_congr_left fun l hl => length_rulesFound (all hnodup l hl)
  calc (inputs.map fun path => (rulesFound t' (compiledPath output path)).length).sum
      = (((inputs.zip lists).map Prod.fst).map
          fun path => (rulesFound t' (compiledPath output path)).length).sum := by rw [hinputs]
    _ = ((inputs.zip lists).map fun l => l.2.rules.length).sum := by
        rw [List.map_map, Function.comp_def, hfound]
    _ = (((inputs.zip lists).map Prod.snd).map fun c => c.rules.length).sum := by
        rw [List.map_map, Function.comp_def]
    _ = (allRules lists).length := by rw [hlists, allRules, List.length_flatMap]

/-! ## command lines that compile -/

theorem run_eq_ok {args : List String} {i : Invocation} {m m' : Machine} {outcome : Outcome}
    (hparse : Invocation.parse args = .ok i)
    (hrun : (run args : StateM Machine Outcome) m = (outcome, m')) (hcode : outcome.code = 0) :
    i.run.on "" m = ((.ok (), outcome.stdout), m') := by
  rw [run, hparse] at hrun
  dsimp only at hrun
  rw [bind_apply] at hrun
  rw [Session.on]
  rcases hon : (i.run : Session (StateM Machine) Unit).run.run "" m with ⟨⟨e | _, out⟩, m₁⟩
  · rw [hon] at hrun
    cases hrun
    cases hcode
  · rw [hon] at hrun
    cases hrun
    rfl

/-- A command line that compiles lists outside the directory of the rulesets, and that ends well,
keeps the rules of every list, unless a later list has its name: that one takes its place, though
the summary counts the rules of both. -/
theorem compile_keeps_last {args inputs texts : List String} {places : Places} {output : String}
    {verbose : Bool} {m m' : Machine} {outcome : Outcome}
    (hparse : Invocation.parse args = .ok ⟨places, .compile inputs output verbose⟩)
    (hread : List.Forall₂ (fun path text => m.tree.read path = .ok text.toUTF8) inputs texts)
    (houtside : ∀ path ∈ inputs, (goal path).dropLast ≠ goal output)
    (hrun : (run args : StateM Machine Outcome) m = (outcome, m')) (hcode : outcome.code = 0) :
    ∃ lists, compileShared texts = .ok lists ∧
      KeepsLast inputs output lists outcome m'.tree := by
  have hsession : (compile inputs output verbose).on "" m = ((.ok (), outcome.stdout), m') :=
    run_eq_ok hparse hrun hcode
  obtain ⟨lists, hlists, ⟨t, hwritten⟩, printed, time, hout⟩ :=
    compile_eq_ok hread houtside hsession
  have hlength := hread.length_eq.trans (length_compileFrom hlists).symm
  refine ⟨lists, hlists, hwritten.keepsLast hlength ⟨printed, time, ?_⟩⟩
  rw [hout, String.empty_append]

/-- two lists of one name in two directories, and a list of another name -/
def sameNames : Machine :=
  let entries : List (Location × FileEntry) :=
    [(["a"], .dir), (["a", "list.txt"], .file "||one.example^\n".toUTF8),
     (["a", "more.txt"], .file "||three.example^\n".toUTF8),
     (["b"], .dir), (["b", "list.txt"], .file "||two.example^\n".toUTF8)]
  { tree := ⟨.ofList (entries.map fun e => (home ++ e.1, e.2))⟩ }

/-- The list in the middle takes the place of the first one. -/
theorem compile_keeps_last_of_three :
    let args := ["compile", "-i", "a/list.txt", "-i", "b/list.txt", "-i", "a/more.txt"]
    ∃ lists,
      compileShared ["||one.example^\n", "||two.example^\n", "||three.example^\n"] = .ok lists ∧
      KeepsLast ["a/list.txt", "b/list.txt", "a/more.txt"] "rulesets" lists
        ((run args : StateM Machine Outcome) sameNames).1
        ((run args : StateM Machine Outcome) sameNames).2.tree := by
  intro args
  have hparse : Invocation.parse args =
      .ok ⟨{}, .compile ["a/list.txt", "b/list.txt", "a/more.txt"] "rulesets" false⟩ := by
    decide +kernel
  have hread : List.Forall₂ (fun path text => sameNames.tree.read path = .ok text.toUTF8)
      ["a/list.txt", "b/list.txt", "a/more.txt"]
      ["||one.example^\n", "||two.example^\n", "||three.example^\n"] :=
    .cons (by decide +kernel) (.cons (by decide +kernel) (.cons (by decide +kernel) .nil))
  exact compile_keeps_last hparse hread (by decide +kernel) rfl (by decide +kernel)

/-- where there are files in the working directory -/
def fileLocations (t : FileTree) : List Location :=
  t.content.filterMap fun
    | (l, .file _) => some l
    | (_, .dir) => none

/-- Of two lists of one name, the rules of the first are in no ruleset in the end, though the
command ends well and counts two rules. -/
theorem same_names_lose_rules :
    let args := ["compile", "-i", "a/list.txt", "-i", "b/list.txt"]
    let first := FilterList.compile "||one.example^\n".toList ⟨1, 50000⟩
    let second := FilterList.compile "||two.example^\n".toList ⟨50000, 100000⟩
    let ended := (run args : StateM Machine Outcome) sameNames
    Invocation.parse args = .ok ⟨{}, .compile ["a/list.txt", "b/list.txt"] "rulesets" false⟩ ∧
      compileShared ["||one.example^\n", "||two.example^\n"] = .ok [first, second] ∧
      ended.1.code = 0 ∧
      ended.1.stdout = summary "rulesets" [first, second] ++ "  Time:     0.0ms\n" ∧
      (allRules [first, second]).length = 2 ∧
      fileLocations ended.2.tree =
        [["a", "list.txt"], ["a", "more.txt"], ["b", "list.txt"], ["rulesets", "list.json"]] ∧
      ended.2.tree.read "rulesets/list.json" = .ok second.bytes ∧
      second.bytes ≠ first.bytes ∧
      (rulesFound ended.2.tree "rulesets/list.json").length = 1 := by
  intro args first second ended
  have hparse : Invocation.parse args =
      .ok ⟨{}, .compile ["a/list.txt", "b/list.txt"] "rulesets" false⟩ := by decide +kernel
  have hshared : compileShared ["||one.example^\n", "||two.example^\n"] =
      .ok [first, second] := by decide +kernel
  have hcode : ended.1.code = 0 := by decide +kernel
  have hread : List.Forall₂ (fun path text => sameNames.tree.read path = .ok text.toUTF8)
      ["a/list.txt", "b/list.txt"] ["||one.example^\n", "||two.example^\n"] :=
    .cons (by decide +kernel) (.cons (by decide +kernel) .nil)
  obtain ⟨lists, hlists, ⟨t, hwritten⟩, -⟩ :=
    compile_eq_ok hread (by decide +kernel) (run_eq_ok hparse rfl hcode)
  obtain rfl := Except.ok.inj (hlists.symm.trans hshared)
  have hlast : ended.2.tree.read "rulesets/list.json" = .ok second.bytes := by
    cases hwritten with
    | cons _ h =>
      cases h with
      | cons hwrite h =>
        cases h
        exact read_write hwrite
  refine ⟨hparse, hshared, hcode, by decide +kernel, by decide +kernel, by decide +kernel, hlast,
    fun heq => ?_, ?_⟩
  · exact absurd (bytes_inj heq) (by decide +kernel)
  · rw [length_rulesFound hlast]
    decide +kernel

end Cli

end Blocklist
