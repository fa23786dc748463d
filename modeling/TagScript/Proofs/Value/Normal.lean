import TagScript.Globals
import TagScript.Proofs.Decimal.Whole
import TagScript.Proofs.Scope.Table
import TagScript.Scope.Tree

/-!
# `TagScript.Proofs.Value.Normal`: values from outside, normalised

An application hands in numbers and lists of its own kinds. What they come to in a template is their
content: `Value.content` reads every number as one, and every list as its elements, at any depth of
lists in lists. Maps and records are handed in whole, and no content is read out of them.

Normalisation keeps the content (`content_normalize`), and leaves only numbers and lists of the
template's own kind (`normal_normalize`). Of a value that is `Normal` there is nothing more to know
but which objects its arrays are (`Normal.anonymous_eq`). So a second normalisation changes nothing
else, and neither does it matter with which identities the first was done.

A new environment normalises its globals, and a template sees the value that was given last for a
name (`lookup_ofGlobals`). Globals that are defined by expressions are normalised twice on their way
to a template: when they have been computed, and when the environment is made.
`lookup_ofGlobals_parseGlobals` says that the template sees what it would see if only the second had
been done, and what that is.
-/

set_option autoImplicit false

namespace TagScript

open Decimal Scope

namespace Value

/-! ### What is kept -/

/-- What a value comes to in a template, apart from the identities of its arrays. -/
inductive Content where
  | number (x : Float)
  | list (items : List Content)
  /-- Null, a boolean or a text, or a map or a record as it is. -/
  | plain (v : Value)

/-- The content of a value. -/
def content : Value → Content
  | .number x => .number x
  | .single x => .number x
  | .integer _ n => .number (Float.ofInt n)
  | .array _ items => .list (items.map content)
  | .texts _ items => .list (items.map fun s => .plain (.text s))
  | .integers _ items => .list (items.map fun n => .number (Float.ofInt n))
  | .numbers _ items => .list (items.map .number)
  | v => .plain v

/-- A value with this content. All its arrays have one identity. -/
def Content.value : Content → Value
  | .number x => .number x
  | .list items => .array 0 (items.map value)
  | .plain v => v

/-- A value without the identities of its arrays. -/
def anonymous : Value → Value
  | .array _ items => .array 0 (items.map anonymous)
  | v => v

/-- All numbers and all lists in a value are of the template's own kinds, at any depth of lists in
lists. What is in a map or a record does not count. -/
inductive Normal : Value → Prop where
  | null : Normal .null
  | bool (b : Bool) : Normal (.bool b)
  | text (s : String) : Normal (.text s)
  | number (x : Float) : Normal (.number x)
  | array (identity : Nat) {items : List Value} (h : ∀ v ∈ items, Normal v) :
      Normal (.array identity items)
  | map (identity : Nat) (entries : List (String × Value)) : Normal (.map identity entries)
  | record (type field : String) (content : Option String) : Normal (.record type field content)

mutual

/-- A normalised value has the kinds of the template only. -/
theorem normal_normalize (v : Value) (next : Nat) : (v.normalize next).1.Normal := by
  cases v with
  | null => exact .null
  | bool b => exact .bool b
  | text s => exact .text s
  | number x | single x => exact .number x
  | integer kind n => exact .number _
  | array identity items => exact .array next (normal_normalizeAll items (next + 1))
  | texts identity items =>
      refine .array next fun v hv => ?_
      obtain ⟨s, -, rfl⟩ := List.mem_map.mp hv
      exact .text s
  | integers identity items =>
      refine .array next fun v hv => ?_
      obtain ⟨n, -, rfl⟩ := List.mem_map.mp hv
      exact .number _
  | numbers identity items =>
      refine .array next fun v hv => ?_
      obtain ⟨x, -, rfl⟩ := List.mem_map.mp hv
      exact .number x
  | map identity entries => exact .map identity entries
  | record type field content => exact .record type field content

/-- So have normalised items. -/
theorem normal_normalizeAll (items : List Value) (next : Nat) :
    ∀ v ∈ (normalizeAll items next).1, v.Normal := by
  cases items with
  | nil => simp [normalizeAll]
  | cons v rest =>
      simp only [normalizeAll, List.forall_mem_cons]
      exact ⟨normal_normalize v next, normal_normalizeAll rest _⟩

end

mutual

/-- Normalising keeps the content of a value. -/
theorem content_normalize (v : Value) (next : Nat) : (v.normalize next).1.content = v.content := by
  cases v with
  | array identity items =>
      simp only [normalize, content, content_normalizeAll items (next + 1)]
  | texts identity items | integers identity items | numbers identity items =>
      simp only [normalize, content, List.map_map, Function.comp_def]
  | _ => simp only [normalize, content]

/-- It keeps the contents of items, in order. -/
theorem content_normalizeAll (items : List Value) (next : Nat) :
    (normalizeAll items next).1.map content = items.map content := by
  cases items with
  | nil => rfl
  | cons v rest =>
      simp only [normalizeAll, List.map_cons, content_normalize v next, content_normalizeAll rest _]

end

/-- The content of a normal value says all but the identities. -/
theorem Normal.anonymous_eq {v : Value} (h : v.Normal) : v.anonymous = v.content.value := by
  induction h with
  | @array identity items h ih =>
      simp only [anonymous, content, Content.value, List.map_map]
      congr 1
      exact List.map_congr_left ih
  | _ => simp only [anonymous, content, Content.value]

/-- Normalised with any identities, a value comes out the same but for these. -/
theorem anonymous_normalize (v : Value) (next : Nat) :
    (v.normalize next).1.anonymous = v.content.value := by
  rw [(normal_normalize v next).anonymous_eq, content_normalize]

/-! ### Conditions -/

/-- No integer but zero is read as zero or as no number, however large it is. -/
theorem truthy_ofInt (n : Int) :
    (Float.ofInt n != 0 && !(Float.ofInt n).isNaN) = (n != 0) := by
  by_cases hn : n = 0
  · subst hn
    decide
  obtain ⟨s, hs⟩ := exists_apply_natAbs n
  have hvalue := unpack_ofInt_apply s (Int.natAbs_ne_zero.mpr hn)
  rw [← hs] at hvalue
  show (!((Float.ofInt n).toModel.unpack.compare (0 : Float).toModel.unpack == some .eq) &&
    !(Float.ofInt n).toModel.unpack.isNaN) = _
  have hzero : (0 : Float).toModel.unpack = .zero .positive := rfl
  rw [hzero, bne_iff_ne.mpr hn]
  rcases hvalue with hinfinite | ⟨m, e, hm, hfinite, -⟩
  · rw [hinfinite]
    cases s <;> rfl
  · rw [hfinite]
    cases s <;> rfl

/-- It keeps whether a condition holds. -/
theorem truthy_normalize (v : Value) (next : Nat) : (v.normalize next).1.truthy = v.truthy := by
  cases v with
  | integer kind n => exact truthy_ofInt n
  | _ => rfl

end Value

/-! ### Globals -/

/-- Globals are bound in order. What a name is bound to is the value that was given for it last,
normalised. -/
theorem find?_bindGlobals (globals : List (String × Value)) (vars : Table Value) (fresh : Nat)
    (name : String) :
    ∃ next, (Tree.bindGlobals globals vars fresh).1.find? name =
      ((Table.find? globals.reverse name).map fun v => (v.normalize next).1).or
        (vars.find? name) := by
  induction globals generalizing vars fresh with
  | nil => exact ⟨fresh, rfl⟩
  | cons g rest ih =>
      obtain ⟨key, v⟩ := g
      obtain ⟨next, hrest⟩ := ih (vars.insert key (v.normalize fresh).1) (v.normalize fresh).2
      rw [List.reverse_cons, Table.find?_append, Tree.bindGlobals]
      rw [Table.find?_insert] at hrest
      cases hlater : Table.find? rest.reverse name with
      | some later =>
          rw [hlater] at hrest
          exact ⟨next, hrest⟩
      | none =>
          -- Nothing behind this value has the name, so this is the last one if it has.
          rw [hlater] at hrest
          refine ⟨fresh, hrest.trans ?_⟩
          by_cases hkey : key = name <;> simp [Table.find?, hkey]

/-- The root of a new tree sees the value that was given last for a name, normalised. -/
theorem lookup_ofGlobals (globals : List (String × Value)) (fresh : Nat) (name : String) :
    ∃ next, (Tree.ofGlobals globals fresh).lookup 0 name =
      (Table.find? globals.reverse name).map fun v => (v.normalize next).1 := by
  obtain ⟨next, hbound⟩ := find?_bindGlobals globals [] fresh name
  have hframe : (Tree.ofGlobals globals fresh).get? 0 =
      some ⟨none, (Tree.bindGlobals globals [] fresh).1, prelude, 0, true, 0⟩ := rfl
  refine ⟨next, ?_⟩
  rw [Tree.lookup, Tree.lookupWithin, hframe]
  dsimp only
  rw [hbound]
  cases (Table.find? globals.reverse name).map fun v => (v.normalize next).1 <;> rfl

/-- A table of globals keeps its names when it is normalised. -/
theorem names_normalizeTable (vars : Table Value) (fresh : Nat) :
    (normalizeTable vars fresh).1.names = vars.names := by
  induction vars generalizing fresh with
  | nil => rfl
  | cons g rest ih => exact congrArg (g.1 :: ·) (ih _)

/-- What is found in it then is what was found before, normalised. -/
theorem find?_normalizeTable (vars : Table Value) (fresh : Nat) (name : String) :
    ∃ next, (normalizeTable vars fresh).1.find? name =
      (vars.find? name).map fun v => (v.normalize next).1 := by
  induction vars generalizing fresh with
  | nil => exact ⟨fresh, rfl⟩
  | cons g rest ih =>
      obtain ⟨key, v⟩ := g
      rw [normalizeTable]
      dsimp only
      by_cases hkey : key = name
      · exact ⟨fresh, by simp [Table.find?, hkey]⟩
      · obtain ⟨next, hrest⟩ := ih (v.normalize fresh).2
        exact ⟨next, by simpa [Table.find?, hkey] using hrest⟩

/-- Definitions make a table in which every name comes once. -/
theorem pairwise_defineGlobals {environment : String → String} {definitions : List String}
    {vars vars' : Table Value} (h : defineGlobals environment definitions vars = .ok vars')
    (hvars : vars.names.Pairwise (· < ·)) : vars'.names.Pairwise (· < ·) := by
  induction definitions generalizing vars with
  | nil => exact Except.ok.inj h ▸ hvars
  | cons definition rest ih =>
      rw [defineGlobals] at h
      split at h
      · cases h
      · split at h
        · cases h
        · exact ih h (Table.pairwise_names_insert hvars _ _)

/-- A template sees the globals that definitions define with the values that they have there,
normalised. It makes no difference whether these were normalised before. -/
theorem lookup_ofGlobals_parseGlobals (environment : String → String) (definitions : List String)
    (fresh fresh₁ fresh₂ : Nat) (name : String) :
    (parseGlobals environment definitions fresh).map (fun vars =>
        ((Tree.ofGlobals vars.1 fresh₁).lookup 0 name).map Value.anonymous) =
      (defineGlobals environment definitions []).map (fun vars =>
        ((Tree.ofGlobals vars fresh₂).lookup 0 name).map Value.anonymous) ∧
    (defineGlobals environment definitions []).map (fun vars =>
        ((Tree.ofGlobals vars fresh₂).lookup 0 name).map Value.anonymous) =
      (defineGlobals environment definitions []).map fun vars =>
        (vars.find? name).map fun v => (v.normalize fresh).1.anonymous := by
  rw [parseGlobals]
  cases hdefined : defineGlobals environment definitions [] with
  | error fault => exact ⟨rfl, rfl⟩
  | ok vars =>
      have hnodup : vars.names.Nodup :=
        Table.nodup_names (pairwise_defineGlobals hdefined List.Pairwise.nil)
      have hnodup' : (normalizeTable vars fresh).1.names.Nodup := by
        rwa [names_normalizeTable]
      have honce : ((Tree.ofGlobals vars fresh₂).lookup 0 name).map Value.anonymous =
          (vars.find? name).map fun v => (v.normalize fresh).1.anonymous := by
        obtain ⟨next, hseen⟩ := lookup_ofGlobals vars fresh₂ name
        rw [hseen, Table.find?_reverse hnodup, Option.map_map]
        simp only [Function.comp_def, Value.anonymous_normalize]
      have htwice : ((Tree.ofGlobals (normalizeTable vars fresh).1 fresh₁).lookup 0 name).map
          Value.anonymous = (vars.find? name).map fun v => (v.normalize fresh).1.anonymous := by
        obtain ⟨next, hseen⟩ := lookup_ofGlobals (normalizeTable vars fresh).1 fresh₁ name
        obtain ⟨next', hfound⟩ := find?_normalizeTable vars fresh name
        rw [hseen, Table.find?_reverse hnodup', hfound, Option.map_map, Option.map_map]
        simp only [Function.comp_def, Value.anonymous_normalize, Value.content_normalize]
      exact ⟨congrArg Except.ok (htwice.trans honce.symm), congrArg Except.ok honce⟩

/-- **Normalisation.** Take any value that an application hands in. Normalised, it has no number
and no list of the application's kinds left in it, at any depth of lists in lists and apart from
what is in maps. It has the same content: its lists are as long and nested as they were, with the
same elements. In a condition it counts as it did. And normalised twice it is the same as normalised
once, but for the identities of its arrays.

A new environment sees for each name the value that was given for it last, normalised. So globals
that are computed from definitions, and normalised for that, are seen in a new environment, which
normalises them again, as they would be if the environment alone did it, and that is with the values
that they were defined with, normalised. -/
theorem normalize_host_values :
    (∀ (v : Value) (next : Nat),
      (v.normalize next).1.Normal ∧
      (v.normalize next).1.content = v.content ∧
      (v.normalize next).1.truthy = v.truthy ∧
      ∀ later once, ((v.normalize next).1.normalize later).1.anonymous =
        (v.normalize once).1.anonymous) ∧
    (∀ (globals : List (String × Value)) (fresh : Nat) (name : String),
      ∃ next, (Tree.ofGlobals globals fresh).lookup 0 name =
        (Table.find? globals.reverse name).map fun v => (v.normalize next).1) ∧
    ∀ (environment : String → String) (definitions : List String) (fresh fresh₁ fresh₂ : Nat)
      (name : String),
      (parseGlobals environment definitions fresh).map (fun vars =>
          ((Tree.ofGlobals vars.1 fresh₁).lookup 0 name).map Value.anonymous) =
        (defineGlobals environment definitions []).map (fun vars =>
          ((Tree.ofGlobals vars fresh₂).lookup 0 name).map Value.anonymous) ∧
      (defineGlobals environment definitions []).map (fun vars =>
          ((Tree.ofGlobals vars fresh₂).lookup 0 name).map Value.anonymous) =
        (defineGlobals environment definitions []).map fun vars =>
          (vars.find? name).map fun v => (v.normalize fresh).1.anonymous := by
  refine ⟨fun v next => ⟨v.normal_normalize next, v.content_normalize next,
    v.truthy_normalize next, fun later once => ?_⟩, lookup_ofGlobals,
    lookup_ofGlobals_parseGlobals⟩
  rw [Value.anonymous_normalize, Value.content_normalize, Value.anonymous_normalize]

end TagScript
