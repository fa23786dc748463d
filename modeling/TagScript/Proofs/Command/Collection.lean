import Mathlib.Data.List.Forall2
import TagScript.Command.Source

/-!
# `TagScript.Proofs.Command.Collection`: the sources of a template

A command is given names. Each leads to a file or to standard input, and several may lead to the
same. `LeadsTo` says which file a name leads to: the one at the path itself, or else the one in the
first directory of the search path that has it.

`Collects` says what the names stand for without going through them one after another. The files
they lead to are listed, and of those that are the same file only the first is left (`distinct`).
What these hold is read in order, and then standard input if it is named, or nothing is. Collection
comes to exactly this (`collectSources_distinct`): it has a result if every name leads to a file
and all that is read is a template, and the result are the nodes of what is read. So only the
first mention of a file matters, and of standard input only whether it is mentioned.
-/

set_option autoImplicit false

namespace TagScript.Command

open Files Log

/-! ### The files that names lead to -/

/-- A file: what it is known by however it is reached, and what is in it. -/
structure SourceFile where
  identity : String
  content : String
deriving Repr, DecidableEq, Inhabited

/-- The file that a name leads to. The search path is tried for a relative name when nothing is
at the path itself; a directory there is not passed over, nor is a file that cannot be opened. -/
inductive LeadsTo (look : String → Lookup) (directories : List String) (name : String) :
    SourceFile → Prop where
  | direct {file : SourceFile} (hfile : look name = .file file.identity file.content) :
      LeadsTo look directories name file
  | searched {file : SourceFile} {before after : List String} {directory : String}
      (hrelative : isAbsolute name = false) (hmissing : (look name).found = false)
      (hdirectories : directories = before ++ directory :: after)
      (hbefore : ∀ d ∈ before, (look (join d name)).isFile = false)
      (hfile : look (join directory name) = .file file.identity file.content) :
      LeadsTo look directories name file

/-- Files without those that are the same as one before. -/
def distinct (files : List SourceFile) : List SourceFile :=
  files.eraseDupsBy fun f g => f.identity == g.identity

/-- Whether standard input is read. -/
def readsInput (names : List String) : Bool :=
  names.isEmpty || names.contains standardInput

/-- The template of the sources with some names. -/
inductive Collects (look : String → Lookup) (directories : List String) (input : String)
    (names : List String) : List Node → Prop where
  | intro {files : List SourceFile} {parts : List (List Node)} {last : List Node}
      (hfiles : List.Forall₂ (LeadsTo look directories) (names.filter (· ≠ standardInput)) files)
      (hparts : List.Forall₂ (fun file part => parseTemplate file.content = .ok part)
        (distinct files) parts)
      (hlast : if readsInput names then parseTemplate input = .ok last else last = []) :
      Collects look directories input names (parts.flatten ++ last)

/-- Two names of one source: the same name, or names that lead to the same file. -/
def Alias (look : String → Lookup) (directories : List String) (name other : String) : Prop :=
  name = other ∨ name ≠ standardInput ∧ other ≠ standardInput ∧ ∃ f g : SourceFile,
    LeadsTo look directories name f ∧ LeadsTo look directories other g ∧ f.identity = g.identity

variable {look : String → Lookup} {directories : List String} {input name path : String}

/-- The file that a name leads to is the one at the path that the search comes to. -/
theorem leadsTo_iff {file : SourceFile} :
    LeadsTo look directories name file ↔
      ∃ path, resolveSource look directories name = .ok path ∧
        look path = .file file.identity file.content := by
  constructor
  · rintro (hfile | ⟨hrelative, hmissing, hdirectories, hbefore, hfile⟩)
    · have hfound : (look name).found = true := by rw [hfile]; rfl
      exact ⟨name, by simp [resolveSource, hfound], hfile⟩
    · rename_i before after directory
      have hisFile : (look (join directory name)).isFile = true := by rw [hfile]; rfl
      have hfirst : (directories.map fun d => join d name).find? (fun path => (look path).isFile)
          = some (join directory name) := by
        rw [hdirectories, List.find?_map, List.find?_append,
          List.find?_eq_none.mpr (by simpa using hbefore),
          List.find?_cons_of_pos (by simpa using hisFile)]
        rfl
      exact ⟨join directory name, by simp [resolveSource, hrelative, hmissing, hfirst], hfile⟩
  · rintro ⟨path, hpath, hfile⟩
    unfold resolveSource at hpath
    split at hpath
    · obtain rfl : name = path := Except.ok.inj hpath
      exact .direct hfile
    · next hdirect =>
      split at hpath
      · next found hfirst =>
        obtain rfl : found = path := Except.ok.inj hpath
        rw [List.find?_map, Option.map_eq_some_iff] at hfirst
        obtain ⟨directory, hfirst, rfl⟩ := hfirst
        obtain ⟨-, before, after, hdirectories, hbefore⟩ := List.find?_eq_some_iff_append.mp hfirst
        rw [Bool.or_eq_true, not_or, Bool.not_eq_true, Bool.not_eq_true] at hdirect
        exact .searched hdirect.1 hdirect.2 hdirectories (by simpa using hbefore) hfile
      · cases hpath

/-- A name leads to one file only. -/
theorem LeadsTo.unique {f g : SourceFile} (hf : LeadsTo look directories name f)
    (hg : LeadsTo look directories name g) : f = g := by
  obtain ⟨path, hpath, hf⟩ := leadsTo_iff.mp hf
  obtain ⟨path', hpath', hg⟩ := leadsTo_iff.mp hg
  obtain rfl : path = path' := Except.ok.inj (hpath.symm.trans hpath')
  obtain ⟨hidentity, hcontent⟩ := Lookup.file.inj (hf.symm.trans hg)
  cases f
  cases g
  rw [SourceFile.mk.injEq]
  exact ⟨hidentity, hcontent⟩

/-! ### Files that were seen -/

/-- The distinct ones of the files that were not seen before. -/
def unseen (seen : List String) (files : List SourceFile) : List SourceFile :=
  distinct (files.filter fun f => f.identity ∉ seen)

/-- When nothing was seen yet, all distinct files are left. -/
theorem unseen_nil (files : List SourceFile) : unseen [] files = distinct files := by
  rw [unseen, List.filter_eq_self.mpr (by simp)]

/-- A file that was not seen before is seen by the files behind it. -/
theorem unseen_cons (seen : List String) (f : SourceFile) (rest : List SourceFile) :
    unseen seen (f :: rest)
      = if f.identity ∈ seen then unseen seen rest else f :: unseen (f.identity :: seen) rest := by
  split
  · next h => simp [unseen, h]
  · next h => simp [unseen, distinct, h, List.eraseDupsBy_cons, List.filter_filter]

/-- A file that was seen before makes no difference. -/
theorem unseen_append_cons {seen : List String} {before : List SourceFile} {f : SourceFile}
    (h : f.identity ∈ seen ∨ f.identity ∈ before.map (·.identity)) (after : List SourceFile) :
    unseen seen (before ++ f :: after) = unseen seen (before ++ after) := by
  induction before generalizing seen with
  | nil =>
    have hseen : f.identity ∈ seen := by simpa using h
    rw [List.nil_append, unseen_cons, if_pos hseen, List.nil_append]
  | cons g before ih =>
    rw [List.map_cons, List.mem_cons] at h
    rw [List.cons_append, List.cons_append, unseen_cons, unseen_cons]
    split
    · next hg =>
      -- A file that was seen is passed over on both sides.
      refine ih ?_
      rcases h with h | h | h
      · exact .inl h
      · exact .inl (h ▸ hg)
      · exact .inr h
    · rw [ih]
      rcases h with h | h | h
      · exact .inl (List.mem_cons_of_mem _ h)
      · exact .inl (h ▸ List.mem_cons_self)
      · exact .inr h

/-! ### Adding files -/

/-- The nodes that a collection comes to when files are added. -/
def ComesTo (c : Collection) (files : List SourceFile) (nodes : List Node) : Prop :=
  ∃ parts, List.Forall₂ (fun file part => parseTemplate file.content = .ok part)
    (unseen c.seen files) parts ∧ nodes = c.nodes ++ parts.flatten

/-- What one file adds to a collection, the log aside. -/
def Adds (file : SourceFile) (c c' : Collection) : Prop :=
  if file.identity ∈ c.seen then c'.nodes = c.nodes ∧ c'.seen = c.seen
  else ∃ part, parseTemplate file.content = .ok part ∧ c'.nodes = c.nodes ++ part ∧
    c'.seen = file.identity :: c.seen

variable {c c' : Collection} {file : SourceFile} {files : List SourceFile} {nodes : List Node}

/-- A file can be added before the others, or left among them: the nodes are the same. -/
theorem Adds.comesTo_iff (h : Adds file c c') :
    ComesTo c (file :: files) nodes ↔ ComesTo c' files nodes := by
  unfold Adds at h
  unfold ComesTo
  rw [unseen_cons]
  split at h
  · next hseen =>
    obtain ⟨hnodes, hseen'⟩ := h
    rw [if_pos hseen, hnodes, hseen']
  · next hseen =>
    obtain ⟨part, hpart, hnodes, hseen'⟩ := h
    rw [if_neg hseen, hnodes, hseen']
    constructor
    · rintro ⟨_ | ⟨first, parts⟩, hparts, rfl⟩
      · cases hparts
      · obtain ⟨hfirst, hrest⟩ := List.forall₂_cons.mp hparts
        obtain rfl : part = first := Except.ok.inj (hpart.symm.trans hfirst)
        exact ⟨parts, hrest, by rw [List.flatten_cons, List.append_assoc]⟩
    · rintro ⟨parts, hparts, rfl⟩
      exact ⟨part :: parts, .cons hpart hparts, by rw [List.flatten_cons, List.append_assoc]⟩

/-- The first of the files was seen before, or a template is in it. -/
theorem ComesTo.seen_or_parses (h : ComesTo c (file :: files) nodes) :
    file.identity ∈ c.seen ∨ ∃ part, parseTemplate file.content = .ok part := by
  obtain ⟨parts, hparts, -⟩ := h
  rw [unseen_cons] at hparts
  split at hparts
  · next hseen => exact .inl hseen
  · cases hparts with
    | cons hpart _ => exact .inr ⟨_, hpart⟩

/-- When a name could be added, it leads to a file, and what was added is what this file adds. -/
theorem adds_of_add
    (h : ((resolveSource look directories name).bind fun path => addFile look path c) = .ok c') :
    ∃ file, LeadsTo look directories name file ∧ Adds file c c' := by
  cases hpath : resolveSource look directories name with
  | error failure => simp [hpath, Except.bind] at h
  | ok path =>
    replace h : addFile look path c = .ok c' := by rwa [hpath] at h
    unfold addFile at h
    split at h
    · cases h
    · cases h
    · cases h
    · next identity content hlook =>
      refine ⟨⟨identity, content⟩, leadsTo_iff.mpr ⟨path, hpath, hlook⟩, ?_⟩
      -- A file that was seen before adds nothing. Any other adds its template.
      unfold Adds
      split at h
      · next hseen =>
        obtain rfl := Except.ok.inj h
        rw [if_pos (by simpa using hseen)]
        exact ⟨rfl, rfl⟩
      · next hseen =>
        rw [if_neg (by simpa using hseen)]
        split at h
        · cases h
        · next part hpart =>
          obtain rfl := Except.ok.inj h
          exact ⟨part, hpart, rfl, rfl⟩

/-- A name can be added when it leads to a file that was seen before or holds a template. -/
theorem exists_add (hleads : LeadsTo look directories name file)
    (h : file.identity ∈ c.seen ∨ ∃ part, parseTemplate file.content = .ok part) :
    ∃ c', ((resolveSource look directories name).bind fun path => addFile look path c)
      = .ok c' ∧ Adds file c c' := by
  have hadd : ∃ c', ((resolveSource look directories name).bind fun path => addFile look path c)
      = .ok c' := by
    obtain ⟨path, hpath, hlook⟩ := leadsTo_iff.mp hleads
    rw [hpath, Except.bind, addFile, hlook]
    dsimp only
    split
    · exact ⟨_, rfl⟩
    · next hseen =>
      obtain ⟨part, hpart⟩ := h.resolve_left (by simpa using hseen)
      rw [hpart]
      exact ⟨_, rfl⟩
  obtain ⟨c', hadd⟩ := hadd
  obtain ⟨file', hleads', hadds⟩ := adds_of_add hadd
  rw [hleads'.unique hleads] at hadds
  exact ⟨c', hadd, hadds⟩

/-- Files are added to a collection if every name leads to one and the collection comes to something
with them. -/
theorem addFiles_eq_none_iff {names : List String} (hnames : standardInput ∉ names) :
    (∃ c', addFiles look directories names c = (c', none) ∧ c'.nodes = nodes) ↔
      ∃ files, List.Forall₂ (LeadsTo look directories) names files ∧ ComesTo c files nodes := by
  -- The collection goes from name to name, and what it comes to is the same at each of them.
  induction names generalizing c with
  | nil =>
    constructor
    · rintro ⟨c', h, rfl⟩
      obtain rfl : c = c' := congrArg Prod.fst h
      exact ⟨[], .nil, [], .nil, (List.append_nil _).symm⟩
    · rintro ⟨_, ⟨⟩, _, ⟨⟩, rfl⟩
      exact ⟨c, rfl, (List.append_nil _).symm⟩
  | cons name rest ih =>
    obtain ⟨hname, hrest⟩ := not_or.mp (mt List.mem_cons.mpr hnames)
    rw [addFiles, if_neg (Ne.symm hname)]
    constructor
    · rintro ⟨c', h, hnodes⟩
      split at h
      · cases h
      · next c₁ hadd =>
        obtain ⟨file, hleads, hadds⟩ := adds_of_add hadd
        obtain ⟨files, hfiles, hcomes⟩ := (ih hrest).mp ⟨c', h, hnodes⟩
        exact ⟨file :: files, .cons hleads hfiles, hadds.comesTo_iff.mpr hcomes⟩
    · rintro ⟨all, hall, hcomes⟩
      obtain ⟨file, files, hleads, hfiles, rfl⟩ := List.forall₂_cons_left_iff.mp hall
      obtain ⟨c₁, hadd, hadds⟩ := exists_add hleads hcomes.seen_or_parses
      rw [hadd]
      exact (ih hrest).mpr ⟨files, hfiles, hadds.comesTo_iff.mp hcomes⟩

/-- Standard input is passed over. -/
theorem addFiles_filter (names : List String) (c : Collection) :
    addFiles look directories (names.filter (· ≠ standardInput)) c
      = addFiles look directories names c := by
  induction names generalizing c with
  | nil => rfl
  | cons name rest ih =>
    by_cases hname : name = standardInput
    · rw [List.filter_cons_of_neg (by simpa using hname), ih, addFiles, if_pos hname]
    · rw [List.filter_cons_of_pos (by simpa using hname), addFiles, addFiles, if_neg hname,
        if_neg hname]
      simp only [ih]

/-! ### What is collected -/

/-- The names stand for what adding their files comes to, with standard input behind it. -/
theorem collects_iff {names : List String} :
    Collects look directories input names nodes ↔ ∃ c' last,
      addFiles look directories names ⟨[], [], []⟩ = (c', none) ∧
        (if readsInput names then parseTemplate input = .ok last else last = []) ∧
        nodes = c'.nodes ++ last := by
  have hnames : standardInput ∉ names.filter (· ≠ standardInput) := by simp
  -- At the start nothing was seen, so all distinct files are parsed.
  have hcomes (files : List SourceFile) (all : List Node) : ComesTo ⟨[], [], []⟩ files all ↔
      ∃ parts, List.Forall₂ (fun file part => parseTemplate file.content = .ok part)
        (distinct files) parts ∧ all = parts.flatten := by
    rw [ComesTo, unseen_nil]
    rfl
  constructor
  · rintro ⟨hfiles, hparts, hlast⟩
    obtain ⟨c', hadd, hnodes⟩ :=
      (addFiles_eq_none_iff hnames).mpr ⟨_, hfiles, (hcomes _ _).mpr ⟨_, hparts, rfl⟩⟩
    rw [addFiles_filter] at hadd
    exact ⟨c', _, hadd, hlast, by rw [hnodes]⟩
  · rintro ⟨c', last, hadd, hlast, rfl⟩
    rw [← addFiles_filter] at hadd
    obtain ⟨files, hfiles, hcome⟩ := (addFiles_eq_none_iff hnames).mp ⟨c', hadd, rfl⟩
    obtain ⟨parts, hparts, heq⟩ := (hcomes files c'.nodes).mp hcome
    rw [heq]
    exact .intro hfiles hparts hlast

/-- Collecting the sources succeeds with what the names stand for, and otherwise fails. -/
theorem collectSources_eq_ok_iff {names : List String} :
    (collectSources look directories input names).1 = .ok nodes
      ↔ Collects look directories input names nodes := by
  rw [collects_iff, collectSources]
  rcases addFiles look directories names ⟨[], [], []⟩ with ⟨c, _ | failure⟩
  · by_cases hreads : readsInput names = true
    · have hreads' : (names.isEmpty || names.contains standardInput) = true := hreads
      simp only [hreads, hreads']
      cases parseTemplate input with
      | error fault => simp
      | ok last => simp [eq_comm]
    · have hreads' : ¬ (names.isEmpty || names.contains standardInput) = true := hreads
      simp only [hreads, hreads']
      simp [eq_comm]
  · simp

/-- Names of which those of files are the same, and which have standard input read or not, stand
for the same sources. -/
theorem collectSources_congr {names others : List String}
    (hfiles : others.filter (· ≠ standardInput) = names.filter (· ≠ standardInput))
    (hinput : readsInput others = readsInput names) :
    collectSources look directories input others = collectSources look directories input names := by
  unfold readsInput at hinput
  unfold collectSources
  rw [← addFiles_filter others, hfiles, addFiles_filter, hinput]

/-- The files of names in two parts are in two parts. -/
theorem exists_append_of_forall₂ {before after : List String}
    (h : List.Forall₂ (LeadsTo look directories) (before ++ after) files) :
    ∃ fs gs, files = fs ++ gs ∧ List.Forall₂ (LeadsTo look directories) before fs ∧
      List.Forall₂ (LeadsTo look directories) after gs :=
  ⟨files.take before.length, files.drop before.length, (List.take_append_drop _ _).symm,
    (List.forall₂_take_append files before after h.flip).flip,
    (List.forall₂_drop_append files before after h.flip).flip⟩

/-- A further name of a source that is named leads to one of its files. -/
theorem Alias.exists_leadsTo {names : List String} {other : String}
    (h : Alias look directories name other) (hother : other ≠ standardInput) (hmem : name ∈ names)
    (hfiles : List.Forall₂ (LeadsTo look directories) (names.filter (· ≠ standardInput)) files) :
    ∃ g, LeadsTo look directories other g ∧ g.identity ∈ files.map (·.identity) := by
  have hname : name ≠ standardInput := by
    rcases h with rfl | ⟨hname, -⟩
    · exact hother
    · exact hname
  have hmem' : name ∈ names.filter (· ≠ standardInput) :=
    List.mem_filter.mpr ⟨hmem, decide_eq_true hname⟩
  obtain ⟨before, after, hsplit⟩ := List.append_of_mem hmem'
  rw [hsplit] at hfiles
  obtain ⟨fs, rest, rfl, -, hrest⟩ := exists_append_of_forall₂ hfiles
  obtain ⟨f, gs, hleads, -, rfl⟩ := List.forall₂_cons_left_iff.mp hrest
  have hf : f.identity ∈ (fs ++ f :: gs).map (·.identity) :=
    List.mem_map_of_mem (List.mem_append_right _ List.mem_cons_self)
  rcases h with rfl | ⟨-, -, f', g, hf', hg, hsame⟩
  · exact ⟨f, hleads, hf⟩
  · rw [hf'.unique hleads] at hsame
    exact ⟨g, hg, hsame ▸ hf⟩

/-- A file that was there before is none of the distinct ones. -/
theorem distinct_append_cons {before : List SourceFile}
    (h : file.identity ∈ before.map (·.identity)) (after : List SourceFile) :
    distinct (before ++ file :: after) = distinct (before ++ after) := by
  rw [← unseen_nil, ← unseen_nil, unseen_append_cons (.inr h)]

/-- A further name of a source that is named makes no difference to what is collected. -/
theorem collects_alias_iff {before after : List String} {other : String} (hmem : name ∈ before)
    (halias : Alias look directories name other) (hother : other ≠ standardInput) :
    Collects look directories input (before ++ other :: after) nodes
      ↔ Collects look directories input (before ++ after) nodes := by
  have hfilter : (before ++ other :: after).filter (· ≠ standardInput)
      = before.filter (· ≠ standardInput) ++ other :: after.filter (· ≠ standardInput) := by
    rw [List.filter_append, List.filter_cons_of_pos (by simpa using hother)]
  have hinput : readsInput (before ++ other :: after) = readsInput (before ++ after) := by
    have hempty (rest : List String) : (before ++ rest).isEmpty = false :=
      List.isEmpty_eq_false_iff.mpr (List.append_ne_nil_of_left_ne_nil (List.ne_nil_of_mem hmem) _)
    simp [readsInput, hempty, Ne.symm hother]
  constructor
  · rintro ⟨hfiles, hparts, hlast⟩
    rw [hfilter] at hfiles
    obtain ⟨fs, rest, rfl, hfs, hrest⟩ := exists_append_of_forall₂ hfiles
    obtain ⟨g, gs, hg, hgs, rfl⟩ := List.forall₂_cons_left_iff.mp hrest
    obtain ⟨g', hg', hseen⟩ := halias.exists_leadsTo hother hmem hfs
    rw [hg'.unique hg] at hseen
    rw [distinct_append_cons hseen] at hparts
    rw [hinput] at hlast
    refine .intro ?_ hparts hlast
    rw [List.filter_append]
    exact List.rel_append hfs hgs
  · rintro ⟨hfiles, hparts, hlast⟩
    rw [List.filter_append] at hfiles
    obtain ⟨fs, gs, rfl, hfs, hgs⟩ := exists_append_of_forall₂ hfiles
    obtain ⟨g, hg, hseen⟩ := halias.exists_leadsTo hother hmem hfs
    rw [← distinct_append_cons hseen] at hparts
    rw [← hinput] at hlast
    refine .intro ?_ hparts hlast
    rw [hfilter]
    exact List.rel_append hfs (.cons hg hgs)

/-- **Sources are read once, in the order of their first mention.** Collection has a result exactly
if every name but that of standard input leads to a file, each of these files holds a template, and
so does standard input if it is read. The nodes are then those of the distinct files, in the order
in which they are mentioned first, and behind them those of standard input. It is read when it is
named, however often and wherever, or when nothing is named. So it makes no difference where
standard input stands among the names and how often, nor whether a source is mentioned again behind
its first mention, by the same name or another one. -/
theorem collectSources_distinct (look : String → Lookup) (directories : List String)
    (input : String) (names : List String) :
    (∀ nodes, (collectSources look directories input names).1 = .ok nodes
      ↔ Collects look directories input names nodes) ∧
    (∀ others, others.filter (· ≠ standardInput) = names.filter (· ≠ standardInput) →
      readsInput others = readsInput names →
      collectSources look directories input others
        = collectSources look directories input names) ∧
    (∀ before after name other, names = before ++ after → name ∈ before →
      Alias look directories name other →
      ∀ nodes, (collectSources look directories input (before ++ other :: after)).1 = .ok nodes
        ↔ (collectSources look directories input names).1 = .ok nodes) := by
  refine ⟨fun nodes => collectSources_eq_ok_iff, fun others => collectSources_congr, ?_⟩
  rintro before after name other rfl hmem halias nodes
  by_cases hother : other = standardInput
  · -- Only standard input itself is named so, and it is named before.
    have hname : name = standardInput := by
      rcases halias with hsame | ⟨-, hne, -⟩
      · exact hsame.trans hother
      · exact absurd hother hne
    have hinput : standardInput ∈ before := hname ▸ hmem
    rw [collectSources_congr]
    · simp [hother]
    · simp [readsInput, hother, hinput]
  · rw [collectSources_eq_ok_iff, collectSources_eq_ok_iff, collects_alias_iff hmem halias hother]

/-- A file with a link to it, and another file in a directory. -/
def linkedFiles : String → Lookup
  | "a.html" | "link.html" => .file "1" "x"
  | "lib/b.html" => .file "2" "y"
  | _ => .failed "no such file or directory"

/-- The link is mentioned behind the file, and standard input first. -/
theorem collectSources_distinct_link :
    let nodes := [Build.text "x", Build.text "y", Build.text "z"]
    Collects linkedFiles ["lib"] "z" ["-", "a.html", "b.html"] nodes ∧
      Alias linkedFiles ["lib"] "a.html" "link.html" ∧
      (collectSources linkedFiles ["lib"] "z" ["-", "a.html", "link.html", "b.html"]).1
        = .ok nodes := by
  intro nodes
  have hfile : LeadsTo linkedFiles ["lib"] "a.html" ⟨"1", "x"⟩ := .direct rfl
  have hlink : LeadsTo linkedFiles ["lib"] "link.html" ⟨"1", "x"⟩ := .direct rfl
  have hother : LeadsTo linkedFiles ["lib"] "b.html" ⟨"2", "y"⟩ :=
    .searched (by decide +kernel) rfl (List.nil_append ["lib"]).symm nofun (by decide +kernel)
  have hcollects : Collects linkedFiles ["lib"] "z" ["-", "a.html", "b.html"] nodes := by
    have hparts : List.Forall₂ (fun file part => parseTemplate file.content = .ok part)
        (distinct [⟨"1", "x"⟩, ⟨"2", "y"⟩]) [[Build.text "x"], [Build.text "y"]] :=
      .cons rfl (.cons rfl .nil)
    exact .intro (.cons hfile (.cons hother .nil)) hparts rfl
  have halias : Alias linkedFiles ["lib"] "a.html" "link.html" :=
    .inr ⟨by decide, by decide, _, _, hfile, hlink, rfl⟩
  refine ⟨hcollects, halias, ?_⟩
  have hdistinct := collectSources_distinct linkedFiles ["lib"] "z" ["-", "a.html", "b.html"]
  exact (hdistinct.2.2 ["-", "a.html"] ["b.html"] "a.html" "link.html" rfl
    (by decide) halias nodes).mpr ((hdistinct.1 nodes).mpr hcollects)

end TagScript.Command
