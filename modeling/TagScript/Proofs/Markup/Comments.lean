import TagScript.Proofs.Markup.Source

/-!
# `TagScript.Proofs.Markup.Comments`: comments in templates

Comments do not become nodes, wherever they stand. So trees of markup are converted as if the
comments were deleted at every depth (`Source.convertAll_withoutComments`), and a deletion before
the blank texts at the top are dropped does as well as one behind.

There is one thing that a comment does change. A `template` element that is alone at the top is
opened, and with a comment next to it it is not alone. It stays an element of the output then,
around the nodes of its content. Apart from this case the comments of a template can be deleted
(`Source.ofTrees_withoutComments`).
-/

set_option autoImplicit false

namespace TagScript

open Markup Text

namespace Markup

/-! ### Markup without comments -/

mutual

/-- A tree without the comments in it. Of a comment nothing is left. -/
def Html.withoutComments : Html → List Html
  | .text s => [.text s]
  | .comment => []
  | .element tag space attributes children =>
    [.element tag space attributes (withoutComments children)]

/-- Trees without the comments among them and in them. -/
def withoutComments : List Html → List Html
  | [] => []
  | tree :: rest => tree.withoutComments ++ withoutComments rest

end

/-- Whether a tree is a comment. -/
def Html.isComment : Html → Bool
  | .comment => true
  | _ => false

end Markup

namespace Source

/-! ### The stages of conversion -/

mutual

/-- A tree in front of others is converted as if its comments were deleted. -/
theorem convertAll_withoutComments_append : (tree : Html) → (rest : List Html) →
    convertAll (tree.withoutComments ++ rest) = convertAll (tree :: rest)
  | .text _, _ => rfl
  | .comment, rest => by
      rw [convertAll_cons, Html.withoutComments, List.nil_append, convert]
      cases hrest : convertAll rest <;> simp [Except.bind, Except.map]
  | .element tag space attributes children, rest => by
      rw [Html.withoutComments, List.singleton_append, convertAll_cons, convertAll_cons,
        convert_element, convert_element, convertAll_withoutComments children]

/-- Trees of markup are converted as if the comments were deleted at every depth. -/
theorem convertAll_withoutComments : (trees : List Html) →
    convertAll (withoutComments trees) = convertAll trees
  | [] => rfl
  | tree :: rest => by
      rw [withoutComments, convertAll_withoutComments_append, convertAll_cons, convertAll_cons,
        convertAll_withoutComments rest]

end

/-- Comments are no texts, so it does not matter whether they or the blank texts go first. -/
theorem dropBlankTexts_withoutComments (trees : List Html) :
    dropBlankTexts (withoutComments trees) = withoutComments (dropBlankTexts trees) := by
  induction trees with
  | nil => rfl
  | cons tree rest ih =>
      rw [dropBlankTexts] at ih ⊢
      rw [withoutComments, List.filter_append, ih]
      cases tree with
      | text s =>
          by_cases hblank : allBlank s = true <;>
            simp [Html.withoutComments, dropBlankTexts, isBlankText, hblank, withoutComments]
      | comment => rfl
      | element tag space attributes children => rfl

/-- The trees at the top that are not comments are those that are left without comments. -/
theorem withoutComments_eq (trees : List Html) :
    withoutComments trees = withoutComments (trees.filter (!·.isComment)) := by
  induction trees with
  | nil => rfl
  | cons tree rest ih =>
      cases tree <;> simp [withoutComments, Html.withoutComments, Html.isComment, ih]

/-- What is left of trees none of which is a comment is an only element exactly if they are one. -/
theorem withoutComments_eq_element {trees content : List Html} {tag space : String}
    {attributes : List HtmlAttribute} (hnone : .comment ∉ trees)
    (h : withoutComments trees = [.element tag space attributes content]) :
    ∃ children, trees = [.element tag space attributes children] := by
  cases trees with
  | nil => cases h
  | cons tree rest =>
      cases tree with
      | text s => cases h
      | comment => exact absurd List.mem_cons_self hnone
      | element =>
          rw [withoutComments, Html.withoutComments, List.singleton_append, List.cons.injEq] at h
          cases h.1
          cases rest with
          | nil => exact ⟨_, rfl⟩
          | cons next rest =>
              cases next with
              | comment => exact absurd (List.mem_cons_of_mem _ List.mem_cons_self) hnone
              | text | element => cases h.2

/-! ### The top level -/

/-- Comments stand at the top, and all else there, the blank texts aside, is a `template`
element with the given content. -/
def Annotates (trees : List Html) (space : String) (attributes : List HtmlAttribute)
    (content : List Html) : Prop :=
  .comment ∈ trees ∧
    (dropBlankTexts trees).filter (!·.isComment) = [.element "template" space attributes content]

section

variable {trees content : List Html} {space : String} {attributes : List HtmlAttribute}

/-- A comment is no blank text, so it is not dropped with them. -/
theorem comment_mem_dropBlankTexts : .comment ∈ dropBlankTexts trees ↔ .comment ∈ trees := by
  simp [dropBlankTexts, isBlankText]

/-- Where there are no comments, none are deleted. -/
theorem filter_of_comment_notMem (h : .comment ∉ trees) :
    trees.filter (!·.isComment) = trees := by
  rw [List.filter_eq_self]
  rintro (_ | _ | _) hmem
  · rfl
  · rfl
  · exact absurd hmem h

/-- A `template` element that is alone at the top is opened. -/
theorem topLevel_of_eq (h : dropBlankTexts trees = [.element "template" space attributes content]) :
    topLevel trees = dropBlankTexts content := by
  rw [topLevel, h]
  rfl

/-- Anything else stays as it is, the blank texts at the top aside. -/
theorem topLevel_of_ne
    (h : ∀ space attributes content,
      dropBlankTexts trees ≠ [.element "template" space attributes content]) :
    topLevel trees = dropBlankTexts trees := by
  unfold topLevel
  split
  · next heq => exact absurd heq (h _ _ _)
  · rfl

/-- An only `template` element is opened once the comments next to it are gone. -/
theorem topLevel_withoutComments_of_eq
    (h : (dropBlankTexts trees).filter (!·.isComment)
      = [.element "template" space attributes content]) :
    topLevel (withoutComments trees) = withoutComments (dropBlankTexts content) := by
  rw [← dropBlankTexts_withoutComments]
  refine @topLevel_of_eq _ _ space attributes ?_
  rw [dropBlankTexts_withoutComments, withoutComments_eq, h]
  rfl

/-- Unless comments stand next to a lone `template` element, they may be deleted before. -/
theorem topLevel_withoutComments (h : ∀ space attributes content,
      ¬ Annotates trees space attributes content) :
    topLevel (withoutComments trees) = withoutComments (topLevel trees) := by
  by_cases hone : ∃ space attributes content, (dropBlankTexts trees).filter (!·.isComment)
      = [.element "template" space attributes content]
  · obtain ⟨space, attributes, content, hone⟩ := hone
    have hnone : .comment ∉ trees := fun hmem => h _ _ _ ⟨hmem, hone⟩
    rw [topLevel_withoutComments_of_eq hone]
    rw [filter_of_comment_notMem (mt comment_mem_dropBlankTexts.mp hnone)] at hone
    rw [topLevel_of_eq hone]
  · have hraw : topLevel trees = dropBlankTexts trees := by
      refine topLevel_of_ne fun space attributes content heq =>
        hone ⟨space, attributes, content, ?_⟩
      rw [heq]
      rfl
    rw [hraw, ← dropBlankTexts_withoutComments]
    refine topLevel_of_ne fun space attributes content heq => ?_
    rw [dropBlankTexts_withoutComments, withoutComments_eq] at heq
    obtain ⟨children, hchildren⟩ :=
      withoutComments_eq_element (by simp [Html.isComment]) heq
    exact hone ⟨_, _, children, hchildren⟩

end

/-- **Comments have no meaning, except next to an only template element.** Unless the top level of
trees of markup has comments and besides them, blank texts aside, nothing but one `template`
element, the template is the same without the comments at any depth: the same nodes or the same
fault. -/
theorem ofTrees_withoutComments (trees : List Html)
    (h : ∀ space attributes content, ¬ Annotates trees space attributes content) :
    ofTrees (withoutComments trees) = ofTrees trees := by
  rw [ofTrees, ofTrees, topLevel_withoutComments h, convertAll_withoutComments]

/-- Comments in an only `template` element, and below an element in it. -/
theorem ofTrees_withoutComments_inside :
    let trees : List Html := [.text "\n", .element "template" "" []
      [.comment, .text " ", .element "p" "" [] [.comment, .text "x"]]]
    (∀ space attributes content, ¬ Annotates trees space attributes content) ∧
      withoutComments trees
        = [.text "\n", .element "template" "" [] [.text " ", .element "p" "" [] [.text "x"]]] ∧
      ofTrees (withoutComments trees) = ofTrees trees := by
  intro trees
  have h : ∀ space attributes content, ¬ Annotates trees space attributes content :=
    fun _ _ _ hnotes => by simp [Annotates, trees] at hnotes
  exact ⟨h, rfl, ofTrees_withoutComments trees h⟩

/-- Next to comments a `template` element stays an element. Without them it is opened. -/
theorem ofTrees_of_annotates {trees content : List Html} {space : String}
    {attributes : List HtmlAttribute} (h : Annotates trees space attributes content) :
    ofTrees trees = convertAll [.element "template" space attributes content] ∧
      ofTrees (withoutComments trees) = convertAll (dropBlankTexts content) := by
  obtain ⟨hcomment, hone⟩ := h
  constructor
  · have hraw : topLevel trees = dropBlankTexts trees := by
      refine topLevel_of_ne fun space attributes content heq => ?_
      have hmem := comment_mem_dropBlankTexts.mpr hcomment
      simp [heq] at hmem
    rw [ofTrees, hraw, ← convertAll_withoutComments, withoutComments_eq, hone,
      convertAll_withoutComments]
  · rw [ofTrees, topLevel_withoutComments_of_eq hone, convertAll_withoutComments]

set_option maxRecDepth 4000 in
/-- A comment in front of a `template` element has a meaning. -/
theorem comment_changes_template :
    let trees : List Html := [.comment, .element "template" "" [] [.text "x"]]
    ofTrees (withoutComments trees) ≠ ofTrees trees := by
  intro trees
  have hnotes : Annotates trees "" [] [.text "x"] := ⟨List.mem_cons_self, rfl⟩
  obtain ⟨hwith, hwithout⟩ := ofTrees_of_annotates hnotes
  have helement : ofTrees trees = .ok [.element "template" [] [.value (some (.text "x"))]] := by
    rw [hwith]
    rfl
  have hcontent : ofTrees (withoutComments trees) = .ok [.value (some (.text "x"))] := by
    rw [hwithout]
    rfl
  rw [helement, hcontent]
  intro heq
  cases heq

end Source

end TagScript
