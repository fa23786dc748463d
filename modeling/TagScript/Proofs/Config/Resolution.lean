import TagScript.Config.Settings

/-!
# `TagScript.Proofs.Config.Resolution`: the leaf that a flag is set by

A configuration is a tree of mappings. `LeafAt` relates a tree to its leaves, with the keys on the
way to each, and `pathName` is the name of such a path. A flag has a setting if and only if a leaf
has its name, and the setting is that of one such leaf. So when there is only one, it depends
neither on the order in which the entries of a mapping are visited (`Reordered`) nor on how the
leaf's name is divided into keys and spelled (`find?_resolves`).

Names are made from the outermost key inwards, and an empty name so far counts as none. So empty
keys that a path begins with leave no hyphen behind (`emptyKey_unjoined`).
-/

set_option autoImplicit false

namespace TagScript

/-! ### Leaves -/

namespace Document

/-- A scalar or a list. -/
def IsLeaf (d : Document) : Prop := ∀ entries, d ≠ .map entries

/-- A leaf of a tree of mappings, and the keys on the way to it. -/
inductive LeafAt : Document → List String → Document → Prop where
  | here {d : Document} (hd : d.IsLeaf) : LeafAt d [] d
  | under {entries : List (String × Document)} {key : String} {d leaf : Document}
      {path : List String} (hmem : (key, d) ∈ entries) (hleaf : LeafAt d path leaf) :
      LeafAt (.map entries) (key :: path) leaf

/-- The same tree, with the entries of mappings at any depth in another order. -/
inductive Reordered : Document → Document → Prop where
  | refl (d : Document) : Reordered d d
  | entries {es fs : List (String × Document)} (hperm : es.Perm fs) : Reordered (.map es) (.map fs)
  | within {before after : List (String × Document)} {key : String} {d e : Document}
      (h : Reordered d e) :
      Reordered (.map (before ++ (key, d) :: after)) (.map (before ++ (key, e) :: after))
  | trans {d e f : Document} (h : Reordered d e) (h' : Reordered e f) : Reordered d f

/-- A leaf of a mapping is a leaf of one of its entries, with the key in front of the path. -/
theorem leafAt_map_iff {entries : List (String × Document)} {path : List String} {leaf : Document} :
    LeafAt (.map entries) path leaf
      ↔ ∃ entry ∈ entries, ∃ rest, path = entry.1 :: rest ∧ LeafAt entry.2 rest leaf := by
  constructor
  · intro h
    cases h with
    | here hd => exact absurd rfl (hd entries)
    | under hmem hleaf => exact ⟨_, hmem, _, rfl, hleaf⟩
  · rintro ⟨⟨key, d⟩, hmem, rest, rfl, hleaf⟩
    exact .under hmem hleaf

/-- The order of entries does not matter for the leaves. -/
theorem Reordered.leafAt_iff {d e : Document} (h : Reordered d e) {path : List String}
    {leaf : Document} : LeafAt d path leaf ↔ LeafAt e path leaf := by
  induction h generalizing path with
  | refl d => rfl
  | entries hperm => simp only [leafAt_map_iff, hperm.mem_iff]
  | within h ih =>
    simp only [leafAt_map_iff, List.mem_append, List.mem_cons, or_and_right, exists_or,
      exists_eq_left, ih]
  | trans h h' ih ih' => exact ih.trans ih'

end Document

/-! ### Names -/

namespace Config

/-- The name of a path: its keys with hyphens for underscores, joined by hyphens. Empty keys in
front of it do not count. -/
def pathName (path : List String) : String :=
  "-".intercalate ((path.dropWhile (· = "")).map hyphenated)

/-- Only the empty key has the empty name. -/
theorem hyphenated_eq_empty_iff {key : String} : hyphenated key = "" ↔ key = "" := by
  rw [hyphenated, ← String.toList_eq_nil_iff, String.toList_ofList, List.map_eq_nil_iff,
    String.toList_eq_nil_iff]

/-- There are no underscores in a hyphenated key. -/
theorem underscore_notMem_hyphenated (key : String) : '_' ∉ (hyphenated key).toList := by
  rw [hyphenated, String.toList_ofList, List.mem_map]
  rintro ⟨c, -, hc⟩
  split at hc
  · exact absurd hc (by decide)
  · next hne => exact hne hc

/-- A name goes on with hyphens between it and the keys below. -/
theorem foldl_nameBelow_of_ne {above : String} (habove : above ≠ "") (path : List String) :
    path.foldl nameBelow above = "-".intercalate (above :: path.map hyphenated) := by
  induction path generalizing above with
  | nil => simp
  | cons key path ih =>
    have hstep : nameBelow above key = above ++ "-" ++ hyphenated key := by
      rw [nameBelow, if_neg habove]
    rw [List.foldl_cons, hstep, ih (by simp [habove]), List.map_cons, String.intercalate_cons_cons]
    cases path with
    | nil => simp
    | cons next rest =>
      simp only [List.map_cons, String.intercalate_cons_cons, String.append_assoc]

/-- From the top, going down a path comes to the name of the path. -/
theorem foldl_nameBelow (path : List String) : path.foldl nameBelow "" = pathName path := by
  induction path with
  | nil => rfl
  | cons key path ih =>
    have hstep : nameBelow "" key = hyphenated key := if_pos rfl
    rw [List.foldl_cons, hstep]
    -- The name is still empty behind an empty key, and no longer behind any other.
    by_cases hkey : key = ""
    · rw [hyphenated_eq_empty_iff.mpr hkey, ih, pathName, pathName,
        List.dropWhile_cons_of_pos (by simpa using hkey)]
    · rw [foldl_nameBelow_of_ne (mt hyphenated_eq_empty_iff.mp hkey), pathName,
        List.dropWhile_cons_of_neg (by simpa using hkey), List.map_cons]

/-- Going down a path brings no underscore into a name. -/
theorem underscore_notMem_foldl {above : String} (habove : '_' ∉ above.toList)
    (path : List String) : '_' ∉ (path.foldl nameBelow above).toList := by
  induction path generalizing above with
  | nil => exact habove
  | cons key path ih =>
    refine ih ?_
    have hkey := underscore_notMem_hyphenated key
    unfold nameBelow
    split
    · exact hkey
    · simp [habove, hkey]

/-! ### Settings in the order in which they are entered -/

/-- The setting of a leaf: a scalar, or a list of scalars. -/
def Setting.ofLeaf : Document → Setting
  | .list items => .list (items.map Scalar.ofDocument)
  | d => .scalar (Scalar.ofDocument d)

mutual

/-- The settings of a document under a name, in order. -/
def leafSettings (name : String) : Document → List (String × Setting)
  | .map entries => entrySettings name entries
  | d => [(name, Setting.ofLeaf d)]

/-- The settings of entries below a name, in order. -/
def entrySettings (above : String) : List (String × Document) → List (String × Setting)
  | [] => []
  | (key, d) :: rest => leafSettings (nameBelow above key) d ++ entrySettings above rest

end

/-- Settings entered one after another. -/
def enterAll (settings : Settings) (given : List (String × Setting)) : Settings :=
  given.foldl (fun settings g => settings.insert g.1 g.2) settings

mutual

/-- Flattening a document enters the settings of its leaves, one after another. -/
theorem flatten_eq (name : String) (d : Document) (settings : Settings) :
    Settings.flatten name d settings = enterAll settings (leafSettings name d) := by
  cases d with
  | map entries => rw [Settings.flatten, leafSettings, flattenEntries_eq]
  | list items => rfl
  | _ => rfl

/-- So does flattening the entries of a mapping. -/
theorem flattenEntries_eq (above : String) (entries : List (String × Document))
    (settings : Settings) :
    Settings.flattenEntries above entries settings
      = enterAll settings (entrySettings above entries) := by
  match entries with
  | [] => rfl
  | (key, d) :: rest =>
    rw [Settings.flattenEntries, entrySettings, enterAll, List.foldl_append, flattenEntries_eq,
      flatten_eq]
    rfl

end

/-- The settings of entries are those of each entry below the name above. -/
theorem entrySettings_eq_flatMap (above : String) (entries : List (String × Document)) :
    entrySettings above entries
      = entries.flatMap fun entry => leafSettings (nameBelow above entry.1) entry.2 := by
  induction entries with
  | nil => rfl
  | cons entry rest ih => rw [entrySettings, ih, List.flatMap_cons]

/-- The settings of a mapping are those of its entries. -/
theorem leafSettings_map (name : String) (entries : List (String × Document)) :
    leafSettings name (.map entries)
      = entries.flatMap fun entry => leafSettings (nameBelow name entry.1) entry.2 := by
  rw [leafSettings, entrySettings_eq_flatMap]

/-- A leaf has one setting, under the name that was come to. -/
theorem leafSettings_of_isLeaf {d : Document} (hd : d.IsLeaf) (name : String) :
    leafSettings name d = [(name, Setting.ofLeaf d)] := by
  cases d with
  | map entries => exact absurd rfl (hd entries)
  | _ => rfl

/-- Every leaf has its setting, under the name of its path. -/
theorem mem_leafSettings_of_leafAt {d leaf : Document} {path : List String} (h : d.LeafAt path leaf)
    (name : String) : (path.foldl nameBelow name, Setting.ofLeaf leaf) ∈ leafSettings name d := by
  induction h generalizing name with
  | here hd => simp [leafSettings_of_isLeaf hd]
  | under hmem _ ih =>
    rw [leafSettings_map, List.mem_flatMap]
    exact ⟨_, hmem, ih _⟩

mutual

/-- Every setting is that of a leaf, under the name of its path. -/
theorem exists_leafAt_of_mem {n : String} {s : Setting} (name : String) (d : Document)
    (h : (n, s) ∈ leafSettings name d) :
    ∃ path leaf, d.LeafAt path leaf ∧ path.foldl nameBelow name = n ∧ Setting.ofLeaf leaf = s := by
  cases d with
  | map entries =>
    rw [leafSettings] at h
    exact exists_leafAt_of_mem_entries name entries h
  | _ =>
    obtain ⟨rfl, rfl⟩ : n = name ∧ s = _ := by simpa [leafSettings] using h
    exact ⟨[], _, .here nofun, rfl, rfl⟩

/-- Every setting of entries is that of a leaf of their mapping. -/
theorem exists_leafAt_of_mem_entries {n : String} {s : Setting} (above : String)
    (entries : List (String × Document)) (h : (n, s) ∈ entrySettings above entries) :
    ∃ path leaf, (Document.map entries).LeafAt path leaf ∧ path.foldl nameBelow above = n ∧
      Setting.ofLeaf leaf = s := by
  match entries with
  | [] => exact absurd h List.not_mem_nil
  | (key, d) :: rest =>
    rw [entrySettings, List.mem_append] at h
    rcases h with h | h
    · obtain ⟨path, leaf, hleaf, hname, hs⟩ := exists_leafAt_of_mem (nameBelow above key) d h
      exact ⟨key :: path, leaf, .under List.mem_cons_self hleaf, hname, hs⟩
    · obtain ⟨path, leaf, hleaf, hname, hs⟩ := exists_leafAt_of_mem_entries above rest h
      obtain ⟨entry, hmem, below, rfl, hbelow⟩ := Document.leafAt_map_iff.mp hleaf
      exact ⟨_, leaf, .under (List.mem_cons_of_mem _ hmem) hbelow, hname, hs⟩

end

/-- The settings of a document are those of its leaves, under their names. -/
theorem mem_leafSettings_iff {d : Document} {n : String} {s : Setting} :
    (n, s) ∈ leafSettings "" d
      ↔ ∃ path leaf, d.LeafAt path leaf ∧ pathName path = n ∧ Setting.ofLeaf leaf = s := by
  constructor
  · intro h
    obtain ⟨path, leaf, hleaf, rfl, rfl⟩ := exists_leafAt_of_mem "" d h
    exact ⟨path, leaf, hleaf, (foldl_nameBelow path).symm, rfl⟩
  · rintro ⟨path, leaf, hleaf, rfl, rfl⟩
    rw [← foldl_nameBelow]
    exact mem_leafSettings_of_leafAt hleaf ""

/-! ### What is found -/

/-- What is found under a name after settings have been entered is one of those of the name, or what
was there before if there are none. -/
theorem find?_enterAll (given : List (String × Setting)) (settings : Settings) (name : String) :
    (∃ s, (name, s) ∈ given ∧ Table.find? (enterAll settings given) name = some s) ∨
      (∀ s, (name, s) ∉ given) ∧
        Table.find? (enterAll settings given) name = Table.find? settings name := by
  induction given generalizing settings with
  | nil => exact .inr ⟨fun _ => List.not_mem_nil, rfl⟩
  | cons g rest ih =>
    obtain ⟨n, t⟩ := g
    -- A later setting of the name takes the place of this one.
    rcases ih (settings.insert n t) with ⟨s, hmem, hfound⟩ | ⟨hnone, hfound⟩
    · exact .inl ⟨s, List.mem_cons_of_mem _ hmem, hfound⟩
    · rw [Table.find?_insert] at hfound
      split at hfound
      · next hname => exact .inl ⟨t, hname ▸ List.mem_cons_self, hfound⟩
      · next hname =>
        refine .inr ⟨fun s hmem => ?_, hfound⟩
        rcases List.mem_cons.mp hmem with heq | hmem
        · exact hname (congrArg Prod.fst heq).symm
        · exact hnone s hmem

/-- A flag is found only by its own name: the settings of entries have no underscores in their
names. -/
theorem find?_flattenEntries (entries : List (String × Document)) (flag : String) :
    (Settings.flattenEntries "" entries []).find? flag
      = Table.find? (enterAll [] (leafSettings "" (.map entries))) flag := by
  have heq : Settings.flattenEntries "" entries [] = enterAll [] (leafSettings "" (.map entries)) :=
    flattenEntries_eq "" entries []
  rw [heq, Settings.find?]
  cases hfound : Table.find? (enterAll [] (leafSettings "" (.map entries))) flag with
  | some s => rfl
  | none =>
    rw [Option.orElse_none]
    by_cases hhyphen : '-' ∈ flag.toList
    · -- The other name has an underscore.
      rcases find?_enterAll (leafSettings "" (.map entries)) []
        (String.ofList (flag.toList.map fun c => if c = '-' then '_' else c))
        with ⟨s, hmem, -⟩ | ⟨-, hnone⟩
      · obtain ⟨path, leaf, -, hname, -⟩ := exists_leafAt_of_mem "" (.map entries) hmem
        refine absurd ?_ (underscore_notMem_foldl (by simp : '_' ∉ "".toList) path)
        rw [hname, String.toList_ofList, List.mem_map]
        exact ⟨'-', hhyphen, rfl⟩
      · exact hnone
    · -- The other name is the same.
      have hsame : (flag.toList.map fun c => if c = '-' then '_' else c) = flag.toList.map id := by
        refine List.map_congr_left fun c hc => if_neg ?_
        rintro rfl
        exact hhyphen hc
      rw [hsame, List.map_id, String.ofList_toList, hfound]

/-! ### Spelling -/

/-- Two spellings of a key have the same names below a name. -/
theorem nameBelow_congr {key key' : String} (h : hyphenated key = hyphenated key')
    (above : String) : nameBelow above key = nameBelow above key' := by
  rw [nameBelow, nameBelow, h]

/-- A key is hyphenated part by part. -/
theorem hyphenated_append (a b : String) : hyphenated (a ++ b) = hyphenated a ++ hyphenated b := by
  rw [← String.toList_inj]
  simp [hyphenated]

/-- A key below a key that is not empty is as good as the two joined. -/
theorem nameBelow_nameBelow {outer : String} (houter : outer ≠ "") (above inner : String) :
    nameBelow (nameBelow above outer) inner = nameBelow above (outer ++ "-" ++ inner) := by
  have hhyphen : hyphenated "-" = "-" := by decide
  have hne : nameBelow above outer ≠ "" := by
    unfold nameBelow
    split
    · exact mt hyphenated_eq_empty_iff.mp houter
    · simp
  rw [nameBelow, if_neg hne]
  unfold nameBelow
  split
  · rw [hyphenated_append, hyphenated_append, hhyphen]
  · simp only [hyphenated_append, hhyphen, String.append_assoc]

/-- The same leaves in the same order, with their paths spelled otherwise: hyphens may stand for
underscores, and the key of a mapping may be joined to the keys in it. A key that is joined is not
empty. -/
inductive Respelled : Document → Document → Prop where
  | refl (d : Document) : Respelled d d
  | key {before after : List (String × Document)} {key key' : String} {d : Document}
      (hsame : hyphenated key = hyphenated key') :
      Respelled (.map (before ++ (key, d) :: after)) (.map (before ++ (key', d) :: after))
  | joined {before after inner : List (String × Document)} {outer : String} (houter : outer ≠ "") :
      Respelled (.map (before ++ (outer, .map inner) :: after))
        (.map (before ++ inner.map (fun entry => (outer ++ "-" ++ entry.1, entry.2)) ++ after))
  | within {before after : List (String × Document)} {key : String} {d e : Document}
      (h : Respelled d e) :
      Respelled (.map (before ++ (key, d) :: after)) (.map (before ++ (key, e) :: after))
  | symm {d e : Document} (h : Respelled d e) : Respelled e d
  | trans {d e f : Document} (h : Respelled d e) (h' : Respelled e f) : Respelled d f

/-- A document has the same settings in every spelling. -/
theorem Respelled.leafSettings_eq {d e : Document} (h : Respelled d e) (name : String) :
    leafSettings name d = leafSettings name e := by
  induction h generalizing name with
  | refl d => rfl
  | key hsame => simp only [leafSettings_map, List.flatMap_append, List.flatMap_cons,
      nameBelow_congr hsame]
  | joined houter => simp only [leafSettings_map, List.flatMap_append, List.flatMap_cons,
      List.flatMap_map, nameBelow_nameBelow houter, List.append_assoc]
  | within h ih => simp only [leafSettings_map, List.flatMap_append, List.flatMap_cons, ih]
  | symm h ih => exact (ih name).symm
  | trans h h' ih ih' => exact (ih name).trans (ih' name)

/-- A flag has the setting of a leaf of its name, or none if there is no such leaf. -/
theorem find?_cases {entries visited : List (String × Document)}
    (hvisited : Document.Reordered (.map entries) (.map visited)) (flag : String) :
    (∃ path leaf, (Document.map entries).LeafAt path leaf ∧ pathName path = flag ∧
      (Settings.flattenEntries "" visited []).find? flag = some (Setting.ofLeaf leaf)) ∨
    (∀ path leaf, (Document.map entries).LeafAt path leaf → pathName path ≠ flag) ∧
      (Settings.flattenEntries "" visited []).find? flag = none := by
  rw [find?_flattenEntries]
  rcases find?_enterAll (leafSettings "" (.map visited)) [] flag
    with ⟨s, hmem, hfound⟩ | ⟨hnone, hfound⟩
  · obtain ⟨path, leaf, hleaf, hname, rfl⟩ := mem_leafSettings_iff.mp hmem
    exact .inl ⟨path, leaf, hvisited.leafAt_iff.mpr hleaf, hname, hfound⟩
  · refine .inr ⟨fun path leaf hleaf hname => ?_, hfound⟩
    exact hnone _ (mem_leafSettings_iff.mpr
      ⟨path, leaf, hvisited.leafAt_iff.mp hleaf, hname, rfl⟩)

/-- A flag has a setting if and only if a leaf of the document has its name, in whatever order the
entries are visited, and the setting is that of such a leaf. If all leaves of the name are set
alike, as when there is only one, the order does not matter. The spelling never does. A leaf that is
null sets its flag to null. -/
theorem find?_resolves (entries visited : List (String × Document))
    (hvisited : Document.Reordered (.map entries) (.map visited)) (flag : String) :
    (((Settings.flattenEntries "" visited []).find? flag).isSome
        ↔ ∃ path leaf, (Document.map entries).LeafAt path leaf ∧ pathName path = flag) ∧
      (∀ s, (Settings.flattenEntries "" visited []).find? flag = some s →
        ∃ path leaf, (Document.map entries).LeafAt path leaf ∧ pathName path = flag ∧
          Setting.ofLeaf leaf = s) ∧
      (∀ path leaf, (Document.map entries).LeafAt path leaf → pathName path = flag →
        (∀ path' leaf', (Document.map entries).LeafAt path' leaf' → pathName path' = flag →
          Setting.ofLeaf leaf' = Setting.ofLeaf leaf) →
        (Settings.flattenEntries "" visited []).find? flag = some (Setting.ofLeaf leaf)) ∧
      ∀ respelled, Respelled (.map visited) (.map respelled) →
        (Settings.flattenEntries "" respelled []).find? flag
          = (Settings.flattenEntries "" visited []).find? flag := by
  have hspelling (respelled : List (String × Document))
      (h : Respelled (.map visited) (.map respelled)) :
      (Settings.flattenEntries "" respelled []).find? flag
        = (Settings.flattenEntries "" visited []).find? flag := by
    rw [find?_flattenEntries, find?_flattenEntries, h.leafSettings_eq]
  -- The setting is that of some leaf of this name, or there is no leaf of this name.
  rcases find?_cases hvisited flag with ⟨path, leaf, hleaf, hname, hfound⟩ | ⟨hnone, hfound⟩
  · refine ⟨?_, fun s hs => ?_, fun path' leaf' _ _ halike => ?_, hspelling⟩
    · simpa only [hfound, Option.isSome_some, true_iff] using ⟨path, leaf, hleaf, hname⟩
    · exact ⟨path, leaf, hleaf, hname, Option.some.inj (hfound.symm.trans hs)⟩
    · rw [hfound, halike path leaf hleaf hname]
  · refine ⟨?_, fun s hs => ?_, fun path leaf hleaf hname _ => ?_, hspelling⟩
    · simp only [hfound, Option.isSome_none, Bool.false_eq_true, false_iff]
      rintro ⟨path, leaf, hleaf, hname⟩
      exact hnone path leaf hleaf hname
    · exact absurd (hfound.symm.trans hs) nofun
    · exact absurd hname (hnone path leaf hleaf)

/-- A level given below `log`, with the entries visited from the end. With a joined key it is the
same. -/
theorem find?_resolves_log :
    Document.Reordered
        (.map [("log", .map [("level", .text "debug"), ("pretty", .bool false)]),
          ("max_depth", .text "200")])
        (.map [("max_depth", .text "200"),
          ("log", .map [("pretty", .bool false), ("level", .text "debug")])]) ∧
      (Settings.flattenEntries "" [("max_depth", .text "200"),
          ("log", .map [("pretty", .bool false), ("level", .text "debug")])] []).find? "log-level"
        = some (.scalar (.text "debug")) ∧
      (Settings.flattenEntries "" [("max_depth", .text "200"), ("log-pretty", .bool false),
          ("log-level", .text "debug")] []).find? "log-level"
        = some (.scalar (.text "debug")) := by
  have hvisited : Document.Reordered
      (.map [("log", .map [("level", .text "debug"), ("pretty", .bool false)]),
        ("max_depth", .text "200")])
      (.map [("max_depth", .text "200"),
        ("log", .map [("pretty", .bool false), ("level", .text "debug")])]) :=
    .trans (.entries (.swap _ _ _))
      (@Document.Reordered.within [("max_depth", .text "200")] [] "log" _ _
        (.entries (.swap _ _ _)))
  obtain ⟨-, -, halike, hspelling⟩ := find?_resolves _ _ hvisited "log-level"
  have hgiven : leafSettings "" (.map [("log", .map [("level", .text "debug"),
      ("pretty", .bool false)]), ("max_depth", .text "200")])
        = [("log-level", .scalar (.text "debug")), ("log-pretty", .scalar (.bool false)),
          ("max-depth", .scalar (.text "200"))] := by decide
  have hfound := halike ["log", "level"] (.text "debug")
    (.under List.mem_cons_self (.under List.mem_cons_self (.here nofun))) (by decide)
    fun path leaf hleaf hname => show Setting.ofLeaf leaf = .scalar (.text "debug") by
      simpa [hgiven] using mem_leafSettings_iff.mpr ⟨path, leaf, hleaf, hname, rfl⟩
  have hjoined := @Respelled.joined [("max_depth", .text "200")] []
    [("pretty", .bool false), ("level", .text "debug")] "log" (by decide)
  exact ⟨hvisited, hfound, (hspelling _ hjoined).trans hfound⟩

/-- A key that is empty leaves no hyphen in front of the key below it: the path is `-a` when it is
joined as other paths are, but no such flag is set, and `a` is. -/
theorem emptyKey_unjoined :
    (Document.map [("", .map [("a", .text "x")])]).LeafAt ["", "a"] (.text "x") ∧
      "-".intercalate (["", "a"].map hyphenated) = "-a" ∧
      (Settings.flattenEntries "" [("", .map [("a", .text "x")])] []).find? "-a" = none ∧
      (Settings.flattenEntries "" [("", .map [("a", .text "x")])] []).find? "a"
        = some (.scalar (.text "x")) := by
  refine ⟨?_, by decide, by decide, by decide⟩
  exact .under List.mem_cons_self (.under List.mem_cons_self (.here nofun))

end Config

end TagScript
