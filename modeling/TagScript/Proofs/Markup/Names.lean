import Mathlib.Data.List.TakeWhile
import TagScript.Markup.Construction
import TagScript.Proofs.Markup.Forest
import TagScript.Proofs.Markup.Malformed

/-!
# `TagScript.Proofs.Markup.Names`: the names of attributes

Where a tag is read, an equals sign ends the name of an attribute, except in front of it, and a
name without characters makes no attribute. So the names of all attributes are `WellNamed`.

A name gets from its tag into the tree in one of two ways. In ordinary markup it stays as it is. In
another vocabulary it may get its capital letters back, and the vocabulary in front of it is taken
off. Both leave it well named (`plainAttributes_wellNamed`, `foreignAttributes_wellNamed`). What
else the construction does is to copy elements and to move them, so a step of it keeps a store whose
attributes are well named (`Builder.WellNamed.take`), and every attribute of a fragment is well
named (`parseFragment?_wellNamed`).
-/

set_option autoImplicit false

namespace TagScript.Markup

/-- The name of an attribute in a tag: it is not empty, and no equals sign is behind its first
character. -/
def WellNamed (name : String) : Prop :=
  name ≠ "" ∧ '=' ∉ name.toList.drop 1

instance (name : String) : Decidable (WellNamed name) :=
  inferInstanceAs (Decidable (_ ∧ _))

/-! ### Names in tokens -/

/-- Putting a character in small letters does not make an equals sign of it. -/
theorem lowerAscii_eq_equals {c : Char} (h : lowerAscii c = '=') : c = '=' := by
  unfold lowerAscii at h
  split at h
  · next hcapital =>
    rw [Bool.and_eq_true, decide_eq_true_eq, decide_eq_true_eq] at hcapital
    have hrange : 65 ≤ c.toNat ∧ c.toNat ≤ 90 := hcapital
    have hvalid : (c.toNat + 32).isValidChar := .inl (by omega)
    rw [Char.ofNat, dif_pos hvalid] at h
    have hsmall : c.toNat + 32 = 61 := congrArg Char.toNat h
    omega
  · exact h

/-- An equals sign ends a name. -/
theorem notMem_takeWhile_endsName (cs : List Char) :
    '=' ∉ (cs.takeWhile fun c => !endsName c) := by
  intro hmem
  have hends := List.mem_takeWhile_imp hmem
  simp [endsName] at hends

/-- A name that is read is well named, if it has a character at all. -/
theorem attributeName_wellNamed {cs : List Char} (h : (attributeName cs).1 ≠ []) :
    WellNamed (String.ofList ((attributeName cs).1.map lowerAscii)) := by
  refine ⟨by simpa using h, ?_⟩
  have htail : '=' ∉ (attributeName cs).1.drop 1 := by
    unfold attributeName
    split
    · exact notMem_takeWhile_endsName _
    · exact fun hmem => notMem_takeWhile_endsName _ (List.mem_of_mem_drop hmem)
  rw [String.toList_ofList, ← List.map_drop]
  intro hmem
  obtain ⟨c, hc, hlower⟩ := List.mem_map.mp hmem
  exact htail (lowerAscii_eq_equals hlower ▸ hc)

/-- The attributes that are read in a tag are well named. -/
theorem attributes?_wellNamed {fuel : Nat} {slash : Bool} {cs : List Char} {run : TagRun}
    (h : attributes? fuel slash cs = some run) : ∀ a ∈ run.attributes, WellNamed a.1 := by
  -- Each attribute is in front of those that are found behind it.
  induction fuel generalizing slash cs run with
  | zero => cases h
  | succ fuel ih =>
    unfold attributes? at h
    split at h
    · cases h
    · cases h
      exact nofun
    · dsimp only at h
      split at h
      · cases h
      · split at h
        · cases h
        · next rest hrest =>
          split at h
          · cases h
            exact ih hrest
          · next hname =>
            cases h
            exact List.forall_mem_cons.mpr ⟨attributeName_wellNamed hname, ih hrest⟩

/-- The attributes of a token are well named. -/
def Token.WellNamed : Token → Prop
  | .startTag _ attributes _ => ∀ a ∈ attributes, Markup.WellNamed a.1
  | _ => True

/-- A declaration has no attributes. -/
theorem declaration_wellNamed (cdata : Bool) (cs : List Char) :
    (declaration cdata cs).1.WellNamed := by
  unfold declaration
  split
  · trivial
  · split
    · trivial
    · split <;> trivial

/-- The attributes of a token that begins like markup are well named. -/
theorem markupToken?_wellNamed {fuel : Nat} {cdata : Bool} {c : Char} {r rest : List Char}
    {token : Token} (h : markupToken? fuel cdata c r = some (token, rest)) : token.WellNamed := by
  unfold markupToken? at h
  split at h
  · split at h
    · cases h
      trivial
    · cases h
      trivial
    · split at h
      · obtain ⟨run, -, hrun⟩ := Option.map_eq_some_iff.mp h
        cases hrun
        trivial
      · cases h
        trivial
  · split at h
    · obtain rfl : (declaration cdata r).1 = token := congrArg Prod.fst (Option.some.inj h)
      exact declaration_wellNamed cdata r
    · split at h
      · cases h
        trivial
      · obtain ⟨⟨name, run⟩, htag, hrun⟩ := Option.map_eq_some_iff.mp h
        obtain ⟨run', hattributes, hname⟩ := Option.map_eq_some_iff.mp htag
        cases hname
        cases hrun
        exact attributes?_wellNamed hattributes

/-- So are those of a token outside raw text. -/
theorem plainToken?_wellNamed {fuel : Nat} {cdata : Bool} {cs rest : List Char} {token : Token}
    (h : plainToken? fuel cdata cs = some (token, rest)) : token.WellNamed := by
  unfold plainToken? at h
  split at h
  · exact markupToken?_wellNamed h
  · cases h
  · cases h
    trivial

/-- The attributes of every token are well named. -/
theorem nextToken?_wellNamed {fuel : Nat} {raw : Option String} {cdata : Bool}
    {cs rest : List Char} {token : Token} (h : nextToken? fuel raw cdata cs = some (token, rest)) :
    token.WellNamed := by
  unfold nextToken? at h
  split at h
  · exact plainToken?_wellNamed h
  · split at h
    · exact plainToken?_wellNamed h
    · cases h
      trivial

/-! ### Names in a store of nodes -/

/-- The attributes of an element are well named. -/
def Content.WellNamed : Content → Prop
  | .element _ _ attributes => ∀ a ∈ attributes, Markup.WellNamed a.name
  | _ => True

namespace Forest

/-- The attributes of all elements in a store are well named. -/
def WellNamed (f : Forest) : Prop := ∀ slot ∈ f.slots, slot.content.WellNamed

variable {f : Forest} {content : Content}

namespace WellNamed

/-- What is in a number of the store is well named. -/
theorem contentOf (hf : f.WellNamed) (i : Nat) : (f.contentOf i).WellNamed := by
  unfold Forest.contentOf
  split
  · next slot hslot => exact hf slot (Array.mem_of_getElem? hslot)
  · trivial

/-- A change of slots keeps the names if it keeps those of each slot. -/
theorem modify {slots : Array Slot} (hf : (Forest.mk slots).WellNamed) {g : Slot → Slot}
    (hg : ∀ slot, slot.content.WellNamed → (g slot).content.WellNamed) (j : Nat) :
    (Forest.mk (slots.modify j g)).WellNamed := by
  intro slot hslot
  obtain ⟨i, hi⟩ := Array.mem_iff_getElem?.mp hslot
  rw [Array.getElem?_modify] at hi
  split at hi
  · obtain ⟨before, hbefore, rfl⟩ := Option.map_eq_some_iff.mp hi
    exact hg before (hf before (Array.mem_of_getElem? hbefore))
  · exact hf slot (Array.mem_of_getElem? hi)

/-- A change of what a node is keeps the names if it keeps those of the node. -/
theorem setContent (hf : f.WellNamed) {g : Content → Content}
    (hg : ∀ content, content.WellNamed → (g content).WellNamed) (i : Nat) :
    (f.setContent i g).WellNamed :=
  modify hf (fun slot => hg slot.content) i

/-- Linking two nodes changes no names. -/
theorem link (hf : f.WellNamed) (p c : Nat) : (f.link p c).WellNamed := by
  refine modify (modify hf ?_ p) ?_ c
  all_goals exact fun _ hslot => hslot

/-- Nor does taking a node off its parent. -/
theorem detach (hf : f.WellNamed) (c : Nat) : (f.detach c).WellNamed := by
  unfold Forest.detach
  split
  · exact hf
  · refine modify (modify hf ?_ _) ?_ c
    all_goals exact fun _ hslot => hslot

/-- A node that is well named may be created. -/
theorem create (hf : f.WellNamed) (hcontent : content.WellNamed) :
    (f.create content).2.WellNamed := by
  intro slot hslot
  rcases Array.mem_push.mp hslot with hslot | rfl
  · exact hf slot hslot
  · exact hcontent

/-- It may be appended as well. -/
theorem add (hf : f.WellNamed) (hcontent : content.WellNamed) (p : Nat) :
    (f.add p content).WellNamed :=
  (hf.create hcontent).link p _

/-- Children may be moved to another node. -/
theorem moveChildren (hf : f.WellNamed) (source target : Nat) :
    (Builder.moveChildren f source target).WellNamed := by
  unfold Builder.moveChildren
  refine Array.foldl_induction (fun _ (f : Forest) => f.WellNamed) hf ?_
  exact fun _ f hf => (hf.detach _).link target _

end WellNamed

end Forest

namespace Builder

/-! ### Names on their way into the store -/

/-- In ordinary markup the names are those of the tag. -/
theorem plainAttributes_wellNamed {attributes : List (String × String)}
    (h : ∀ a ∈ attributes, Markup.WellNamed a.1) :
    ∀ a ∈ plainAttributes attributes, Markup.WellNamed a.name := by
  intro a ha
  obtain ⟨pair, hpair, rfl⟩ := List.mem_map.mp ha
  exact h pair hpair

/-- A name is well named with its capital letters as well, if those that have them are. -/
theorem restoreCase_wellNamed {names : List String} (hnames : ∀ n ∈ names, Markup.WellNamed n)
    {name : String} (h : Markup.WellNamed name) : Markup.WellNamed (restoreCase names name) := by
  unfold restoreCase
  cases hfind : names.find? fun n => n.toLower == name with
  | none => exact h
  | some n => exact hnames n (List.mem_of_find?_eq_some hfind)

/-- What is behind the name of a vocabulary is a name. -/
theorem qualifiedAttributes_wellNamed : ∀ name ∈ qualifiedAttributes,
    Markup.WellNamed (String.ofList ((name.toList.dropWhile (· ≠ ':')).drop 1)) := by
  decide +kernel

/-- In another vocabulary the names are well named after its own has been taken off. -/
theorem foreignAttributes_wellNamed (space : String) {attributes : List (String × String)}
    (h : ∀ a ∈ attributes, Markup.WellNamed a.1) :
    ∀ a ∈ foreignAttributes space attributes, Markup.WellNamed a.name := by
  intro a ha
  obtain ⟨⟨name, value⟩, hpair, rfl⟩ := List.mem_map.mp ha
  -- The name with its capital letters, before a vocabulary is taken off.
  have hname : Markup.WellNamed (if space = "svg" then restoreCase drawingAttributes name
      else if name = "definitionurl" then "definitionURL" else name) := by
    split
    · exact restoreCase_wellNamed (by decide +kernel) (h _ hpair)
    · split
      · decide +kernel
      · exact h _ hpair
  dsimp only
  generalize (if space = "svg" then restoreCase drawingAttributes name
    else if name = "definitionurl" then "definitionURL" else name) = name at hname ⊢
  split
  · next hqualified =>
    exact qualifiedAttributes_wellNamed _ (List.contains_iff_mem.mp hqualified)
  · exact hname

/-! ### Steps of the construction -/

/-- The attributes of all elements that were built are well named. -/
def WellNamed (b : Builder) : Prop := b.forest.WellNamed

namespace WellNamed

variable {b : Builder} {attributes : List HtmlAttribute}

/-- Whether the attributes are well named can be seen in the store. -/
theorem congr (hb : b.WellNamed) {b' : Builder} (h : b'.forest = b.forest) : b'.WellNamed := by
  rw [Builder.WellNamed, h]
  exact hb

/-- Closing an element leaves the store alone. -/
theorem close (hb : b.WellNamed) : b.close.WellNamed := hb.congr rfl

/-- So does forgetting the formatting elements up to the last marker. -/
theorem clearFormatting (hb : b.WellNamed) : b.clearFormatting.WellNamed := hb.congr rfl

/-- So does closing the elements whose end is implied. -/
theorem closeImplied (hb : b.WellNamed) (except : List String) :
    (b.closeImplied except).WellNamed := hb.congr rfl

/-- Where a rule has two cases, both of them keep the names. -/
theorem ite {c : Prop} [Decidable c] {b' : Builder} (hb : b.WellNamed) (hb' : b'.WellNamed) :
    (if c then b else b').WellNamed := by
  split
  · exact hb
  · exact hb'

/-- A node that is well named may be added, wherever it comes to stand. -/
theorem addNode (hb : b.WellNamed) {content : Content} (hcontent : content.WellNamed) :
    (b.addNode content).WellNamed := by
  unfold Builder.addNode
  cases content <;> exact hb.add hcontent _

/-- An element with well named attributes may be added and opened. -/
theorem addElement (hb : b.WellNamed) (tag : String)
    (hattributes : ∀ a ∈ attributes, Markup.WellNamed a.name) :
    (b.addElement tag attributes).WellNamed :=
  hb.addNode hattributes

/-- A text has no attributes, whether it is added or put behind another. -/
theorem addText (hb : b.WellNamed) (s : String) : (b.addText s).WellNamed := by
  unfold Builder.addText
  split
  · exact hb
  · split
    · split
      · refine hb.setContent ?_ _
        intro content hcontent
        cases content <;> exact hcontent
      · exact hb.addNode trivial
    · exact hb.addNode trivial

/-- Closing elements up to one in scope leaves the store alone. -/
theorem closeScope (hb : b.WellNamed) (bounds tags : List String) :
    (b.closeScope bounds tags).WellNamed := by
  unfold Builder.closeScope
  split <;> exact hb

/-- A paragraph is closed in the same way. -/
theorem closeParagraph (hb : b.WellNamed) : b.closeParagraph.WellNamed :=
  hb.closeScope _ _

/-- An end tag of no special meaning only closes elements. -/
theorem endOther (hb : b.WellNamed) (tag : String) : (b.endOther tag).WellNamed := by
  unfold Builder.endOther
  split <;> exact hb

/-- A copy of a node has the names of the node. -/
theorem copyNode (hb : b.WellNamed) (i : Nat) : (b.copyNode i).2.WellNamed :=
  hb.create (hb.contentOf i)

/-- Formatting elements are opened again as copies. -/
theorem continueEach (entries : List Formatting) (hb : b.WellNamed) (done : List Formatting) :
    (Builder.continueEach entries b done).1.WellNamed := by
  induction entries generalizing b done with
  | nil => exact hb
  | cons entry entries ih =>
    cases entry with
    | marker => exact ih hb _
    | active i =>
      refine ih ?_ _
      exact Forest.WellNamed.add hb (hb.contentOf i) _

/-- This goes for all those that are still in force. -/
theorem continueFormatting (hb : b.WellNamed) : b.continueFormatting.WellNamed := by
  unfold Builder.continueFormatting
  dsimp only
  split
  · exact hb
  · exact hb.continueEach _ []

/-- A formatting element with well named attributes may be opened. -/
theorem addFormatting (hb : b.WellNamed) (tag : String)
    (hattributes : ∀ a ∈ attributes, Markup.WellNamed a.name) :
    (b.addFormatting tag attributes).WellNamed :=
  hb.addElement tag hattributes

/-- On the way up from a misplaced end tag, elements are copied and moved only. -/
theorem climb {r : Reopening} (hr : r.builder.WellNamed) (target block fuel : Nat)
    (above : List Nat) : (Reopening.climb target block fuel r above).builder.WellNamed := by
  induction fuel generalizing r above with
  | zero => exact hr
  | succ fuel ih =>
    cases above with
    | nil => exact hr
    | cons node above =>
      unfold Reopening.climb
      dsimp only
      split
      · exact hr
      · split
        · split
          · refine ih ?_ _
            exact hr
          · refine ih ?_ _
            exact ((hr.copyNode node).detach _).link _ _
        · refine ih ?_ _
          exact hr

/-- Splitting a formatting element around a block copies and moves elements only. -/
theorem splitFormatting (hb : b.WellNamed) (target block : Nat) (opened : List Nat) :
    (b.splitFormatting target block opened).WellNamed := by
  unfold Builder.splitFormatting
  dsimp only
  -- From the last change of the store to the first.
  refine Forest.WellNamed.link (Forest.WellNamed.moveChildren (copyNode ?_ _) _ _) _ _
  refine Forest.WellNamed.link (Forest.WellNamed.detach (climb ?_ _ _ _ _) _) _ _
  exact hb

/-- So ending a formatting element keeps the names, however often it has to be split. -/
theorem endFormatting (rounds : Nat) (hb : b.WellNamed) (tag : String) :
    (Builder.endFormatting rounds b tag).WellNamed := by
  induction rounds generalizing b with
  | zero => exact hb
  | succ rounds ih =>
    unfold Builder.endFormatting
    split
    · exact hb.endOther tag
    · split
      · exact hb
      · split
        · exact hb
        · dsimp only
          split
          · exact hb
          · exact ih (hb.splitFormatting _ _ _)

/-- The end tag of a formatting element ends it. -/
theorem closeFormatting (hb : b.WellNamed) (tag : String) : (b.closeFormatting tag).WellNamed := by
  unfold Builder.closeFormatting
  split
  · exact hb
  · exact hb.endFormatting 8 tag

/-- An element without content is added like any other. -/
theorem addVoid (hb : b.WellNamed) (tag : String)
    (hattributes : ∀ a ∈ attributes, Markup.WellNamed a.name) :
    (b.addVoid tag attributes).WellNamed :=
  hb.addElement tag hattributes

/-- An element with raw text is added like any other. -/
theorem addRaw (hb : b.WellNamed) (tag : String)
    (hattributes : ∀ a ∈ attributes, Markup.WellNamed a.name) :
    (b.addRaw tag attributes).WellNamed :=
  hb.addElement tag hattributes

/-- The start tags that belong in a head add their element at most. -/
theorem startInHead (hb : b.WellNamed) (tag : String)
    (hattributes : ∀ a ∈ attributes, Markup.WellNamed a.name) :
    (b.startInHead tag attributes).WellNamed := by
  unfold Builder.startInHead
  split
  · unfold startTemplate
    split
    · exact hb
    · exact hb.addElement "template" hattributes
  · split
    · exact hb.addRaw tag hattributes
    · exact hb.addVoid tag hattributes

/-- The start tag of an item closes the items in scope and adds its element. -/
theorem startItem (hb : b.WellNamed) (tags : List String) (tag : String)
    (hattributes : ∀ a ∈ attributes, Markup.WellNamed a.name) :
    (b.startItem tags tag attributes).WellNamed := by
  unfold Builder.startItem
  dsimp only
  refine addElement (closeParagraph ?_) tag hattributes
  split <;> exact hb

/-- A link is ended in front of another one. -/
theorem closeLink (hb : b.WellNamed) : b.closeLink.WellNamed := by
  unfold Builder.closeLink
  split
  · exact hb
  · exact hb.closeFormatting "a"

/-- Every start tag in a body keeps the names if its own attributes are well named. -/
theorem startInBody (hb : b.WellNamed) (name : String) {attributes : List (String × String)}
    (h : ∀ a ∈ attributes, Markup.WellNamed a.1) (selfClosing : Bool) :
    (b.startInBody name attributes selfClosing).WellNamed := by
  have hplain := plainAttributes_wellNamed h
  have hcontinued := hb.continueFormatting
  have hclosed := hb.closeParagraph
  unfold Builder.startInBody
  dsimp only
  generalize (if name = "image" then "img" else name) = tag
  -- One line for each rule, in their order.
  refine ite hb ?_
  refine ite (hb.startInHead tag hplain) ?_
  refine ite (hclosed.addElement tag hplain) ?_
  refine ite ((ite hclosed.close hclosed).addElement tag hplain) ?_
  refine ite (hclosed.addElement tag hplain) ?_
  refine ite (ite hb (ite (hclosed.addElement tag hplain)
    ((hclosed.addElement tag hplain).congr rfl))) ?_
  refine ite (hb.startItem ["li"] tag hplain) ?_
  refine ite (hb.startItem ["dd", "dt"] tag hplain) ?_
  refine ite ((hb.closeScope [] ["button"]).continueFormatting.addElement tag hplain) ?_
  refine ite (hb.closeLink.continueFormatting.addFormatting tag hplain) ?_
  refine ite ((ite (hcontinued.closeFormatting "nobr").continueFormatting
    hcontinued).addFormatting tag hplain) ?_
  refine ite (hcontinued.addFormatting tag hplain) ?_
  refine ite ((hcontinued.addElement tag hplain).congr rfl) ?_
  refine ite (hcontinued.addVoid tag hplain) ?_
  refine ite (hb.addVoid tag hplain) ?_
  refine ite (hclosed.addVoid tag hplain) ?_
  refine ite (hb.addRaw tag hplain) ?_
  refine ite (hclosed.continueFormatting.addRaw tag hplain) ?_
  refine ite (hb.addRaw tag hplain) ?_
  refine ite ((ite hb.close hb).continueFormatting.addElement tag hplain) ?_
  refine ite ((ite (hb.closeImplied []) hb).addElement tag hplain) ?_
  refine ite ((ite (hb.closeImplied ["rtc"]) hb).addElement tag hplain) ?_
  have hforeign : (b.continueFormatting.addNode
      (.element tag tag (foreignAttributes tag attributes))).WellNamed :=
    hcontinued.addNode (foreignAttributes_wellNamed tag h)
  refine ite (ite hforeign.close hforeign) ?_
  exact hcontinued.addElement tag hplain

/-- Which rules are next leaves the store alone. -/
theorem resetMode (hb : b.WellNamed) : b.resetMode.WellNamed :=
  ite (hb.congr rfl) (hb.congr rfl)

/-- The end of a template only closes elements. -/
theorem endTemplate (hb : b.WellNamed) : b.endTemplate.WellNamed := by
  unfold Builder.endTemplate
  refine ite hb (resetMode ?_)
  refine congr (clearFormatting ?_) rfl
  exact ite (hb.congr rfl) (hb.congr rfl)

/-- So does the end of a form. -/
theorem endForm (hb : b.WellNamed) : b.endForm.WellNamed := by
  unfold Builder.endForm
  split
  · exact ite ((hb.closeImplied []).closeScope [] ["form"]) hb
  · dsimp only
    split
    · exact hb.congr rfl
    · exact ite (hb.congr rfl) (hb.congr rfl)

/-- An end tag in a body adds an element without attributes at most. -/
theorem endInBody (hb : b.WellNamed) (tag : String) : (b.endInBody tag).WellNamed := by
  have hnone : ∀ a ∈ ([] : List HtmlAttribute), Markup.WellNamed a.name := nofun
  unfold Builder.endInBody
  -- One line for each rule, in their order.
  refine ite hb ?_
  refine ite (hb.closeScope [] [tag]) ?_
  refine ite hb.endForm ?_
  refine ite (ite hb (hb.closeParagraph.addElement "p" hnone)).closeParagraph ?_
  refine ite (hb.closeScope listBounds ["li"]) ?_
  refine ite (hb.closeScope [] [tag]) ?_
  refine ite (hb.closeScope [] headings) ?_
  refine ite (hb.closeFormatting tag) ?_
  refine ite (ite (hb.closeScope [] [tag]).clearFormatting hb) ?_
  refine ite (hb.continueFormatting.addVoid "br" hnone) ?_
  refine ite hb.endTemplate ?_
  exact hb.endOther tag

/-! ### Steps of the construction: tokens -/

/-- Text in a body is added behind formatting elements that are opened again. -/
theorem textInBody (hb : b.WellNamed) (s : String) : (b.textInBody s).WellNamed :=
  ite hb (hb.continueFormatting.addText _)

variable {token : Token}

/-- The rules of a body keep the names. -/
theorem takeInBody (hb : b.WellNamed) (htoken : token.WellNamed) :
    (b.takeInBody token).WellNamed := by
  cases token with
  | text s => exact hb.textInBody s
  | startTag name attributes selfClosing => exact hb.startInBody name htoken selfClosing
  | endTag name => exact hb.endInBody name
  | comment => exact hb.addNode trivial
  | doctype => exact hb

/-- So do those of a template, which pass most tokens to the others. -/
theorem takeInTemplate (hb : b.WellNamed) (htoken : token.WellNamed) :
    (b.takeInTemplate token).WellNamed := by
  unfold Builder.takeInTemplate
  split
  · refine ite (hb.startInHead _ (plainAttributes_wellNamed htoken)) ?_
    refine startInBody ?_ _ htoken _
    exact hb.congr rfl
  · exact hb.endTemplate
  · exact hb
  · exact hb.takeInBody htoken

/-- So do those of every mode. -/
theorem takeInMode (hb : b.WellNamed) (mode : Mode) (htoken : token.WellNamed) :
    (b.takeInMode mode token).WellNamed := by
  unfold Builder.takeInMode
  split
  · exact hb.takeInBody htoken
  · exact hb.takeInTemplate htoken
  · exact hb

/-- The mode that is current is one of them, or raw text is being read. -/
theorem takeByMode (hb : b.WellNamed) (htoken : token.WellNamed) :
    (b.takeByMode token).WellNamed := by
  unfold Builder.takeByMode
  split
  · unfold takeInText
    split
    · exact hb.addText _
    · exact hb.close.congr rfl
    · refine takeInMode ?_ _ htoken
      exact hb.congr rfl
  · exact hb.takeInMode _ htoken

/-- An end tag in another vocabulary closes elements of it, or is left to the mode. -/
theorem endForeign (hb : b.WellNamed) (name : String) (nodes : List Nat) :
    (b.endForeign name nodes).WellNamed := by
  induction nodes with
  | nil => exact hb
  | cons i rest ih => exact ite (hb.takeByMode trivial) (ite (hb.congr rfl) ih)

/-- The rules of another vocabulary keep the names. -/
theorem takeForeign (hb : b.WellNamed) (htoken : token.WellNamed) :
    (b.takeForeign token).WellNamed := by
  cases token with
  | text s => exact hb.addText _
  | comment => exact hb.addNode trivial
  | doctype => exact hb
  | endTag name => exact hb.endForeign name b.stack
  | startTag name attributes selfClosing =>
    have hadded (tag : String) : (b.addNode (.element tag (b.spaceOf b.current)
        (foreignAttributes (b.spaceOf b.current) attributes))).WellNamed :=
      hb.addNode (foreignAttributes_wellNamed _ htoken)
    exact ite (hadded _).close (hadded _)

/-- A token keeps a store in which the attributes of all elements are well named. -/
theorem take (hb : b.WellNamed) (foreign : Bool) (htoken : token.WellNamed) :
    (b.take foreign token).WellNamed :=
  ite (hb.takeForeign htoken) (hb.takeByMode htoken)

/-- All tokens of a source, one after another, keep them. -/
theorem takeAll (hb : b.WellNamed) (fuel : Nat) (raw : Option String) (cs : List Char) :
    (Builder.takeAll fuel b raw cs).WellNamed := by
  induction fuel generalizing b raw cs with
  | zero => exact hb
  | succ fuel ih =>
    unfold Builder.takeAll
    split
    · exact hb
    · next token rest hnext => exact ih (hb.take _ (nextToken?_wellNamed hnext)) _ _

end WellNamed

/-- There are no attributes in the store to begin with. -/
theorem initial_wellNamed : initial.WellNamed :=
  Forest.WellNamed.create (f := Forest.empty) nofun nofun

end Builder

/-! ### Names in the trees of a fragment -/

/-- The start tags of trees are those of each of them. -/
theorem mem_startTagsAll {trees : List Html} {tag : StartTag} :
    tag ∈ startTagsAll trees ↔ ∃ tree ∈ trees, tag ∈ tree.startTags := by
  induction trees with
  | nil => simp [startTagsAll]
  | cons tree rest ih => simp [startTagsAll, ih]

/-- The tree below a node of a well named store is well named, to any height. -/
theorem Forest.WellNamed.treeWithin {f : Forest} (hf : f.WellNamed) (fuel i : Nat) :
    ∀ tag ∈ (f.treeWithin fuel i).startTags, ∀ a ∈ tag.attributes, Markup.WellNamed a.name := by
  induction fuel generalizing i with
  | zero => exact nofun
  | succ fuel ih =>
    have hi := hf.contentOf i
    intro tag htag
    unfold Forest.treeWithin at htag
    split at htag
    · cases htag
    · cases htag
    · cases htag
    · next hcontent =>
      rw [hcontent] at hi
      rw [Html.startTags, List.mem_append, List.mem_singleton] at htag
      rcases htag with htag | rfl
      · -- An element below this one.
        obtain ⟨tree, htree, htag⟩ := mem_startTagsAll.mp htag
        obtain ⟨child, -, rfl⟩ := List.mem_map.mp htree
        exact ih child tag htag
      · exact hi

/-- The names of all attributes in a fragment are well named. -/
theorem parseFragment?_wellNamed {source : String} {trees : List Html}
    (h : parseFragment? source = some trees) :
    ∀ tag ∈ startTagsAll trees, ∀ a ∈ tag.attributes, WellNamed a.name := by
  intro tag htag
  obtain ⟨tree, htree, htag⟩ := mem_startTagsAll.mp htag
  unfold parseFragment? at h
  dsimp only at h
  split at h
  · cases h
  · cases h
    obtain ⟨child, -, rfl⟩ := List.mem_map.mp htree
    exact (Builder.initial_wellNamed.takeAll _ _ _).treeWithin _ child tag htag

end TagScript.Markup
