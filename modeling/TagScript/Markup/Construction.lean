import TagScript.Markup.Forest
import TagScript.Markup.Token
import TagScript.Markup.Vocabulary

/-!
# `TagScript.Markup.Construction`: from tokens to a tree

The tokens of a fragment are read in the middle of a document's body. The state
of the construction is the stack of open elements, the list of formatting
elements that are still to be continued, and a mode. Elements close one another
by the rules of HTML: a block ends a paragraph, a list item ends the one before,
formatting that was cut off is continued, and end tags without a start are
dropped.

No more than 512 elements may be open at a time.

* `parseFragment?`: the trees of a fragment.
-/

set_option autoImplicit false

namespace TagScript.Markup

/-- How tokens are taken. -/
inductive Mode where
  /-- Ordinary content. -/
  | body
  /-- The raw text of an element. -/
  | text
  /-- The beginning of a template's content. -/
  | template
  /-- Nothing more is taken. -/
  | ended
deriving Repr, DecidableEq, Inhabited

/-- A formatting element to be continued, or a mark that none before it is. -/
inductive Formatting where
  | marker
  | active (node : Nat)
deriving Repr, DecidableEq, Inhabited

/-- The state of the construction. Both stacks have their newest entry first. -/
structure Builder where
  forest : Forest
  stack : List Nat
  formatting : List Formatting
  templates : List Mode
  mode : Mode
  /-- The mode to go back to behind raw text. -/
  afterText : Mode
  form : Option Nat
  /-- Whether more elements were open than may be. -/
  overflow : Bool

namespace Builder

/-- The number of the root, which is always the outermost open element. -/
def rootId : Nat := 0

/-- The state at the beginning of a fragment. -/
def initial : Builder where
  forest := (Forest.empty.create (.element "html" "" [])).2
  stack := [rootId]
  formatting := []
  templates := []
  mode := .body
  afterText := .body
  form := none
  overflow := false

/-- How many elements may be open. -/
def maxOpen : Nat := 512

/-- The tag of a node. -/
def tagOf (b : Builder) (i : Nat) : String :=
  match b.forest.contentOf i with
  | .element tag _ _ => tag
  | _ => ""

/-- The space of a node. -/
def spaceOf (b : Builder) (i : Nat) : String :=
  match b.forest.contentOf i with
  | .element _ space _ => space
  | _ => ""

/-- The innermost open element. -/
def current (b : Builder) : Nat :=
  b.stack.headD rootId

/-- Whether a node is special. -/
def isSpecialNode (b : Builder) (i : Nat) : Bool :=
  isSpecial (b.tagOf i) (b.spaceOf i)

/-- Open a node that is in the tree already. -/
def openNode (b : Builder) (i : Nat) : Builder :=
  let stack := i :: b.stack
  { b with stack, overflow := b.overflow || maxOpen < stack.length }

/-- Append a new node to the innermost open element, and open it if it is an
element. -/
def addNode (b : Builder) (content : Content) : Builder :=
  let i := b.forest.size
  let b := { b with forest := b.forest.add b.current content }
  match content with
  | .element _ _ _ => b.openNode i
  | _ => b

/-- Append an element of HTML and open it. -/
def addElement (b : Builder) (tag : String) (attributes : List HtmlAttribute) : Builder :=
  b.addNode (.element tag "" attributes)

/-- Close the innermost element. -/
def close (b : Builder) : Builder :=
  { b with stack := b.stack.drop 1 }

/-- Append text, to the text before it if there is one. -/
def addText (b : Builder) (s : String) : Builder :=
  if s = "" then b
  else
    match (b.forest.childrenOf b.current).back? with
    | some last =>
      match b.forest.contentOf last with
      | .text _ =>
        { b with forest := b.forest.setContent last fun c =>
            match c with
            | .text t => .text (t ++ s)
            | c => c }
      | _ => b.addNode (.text s)
    | none => b.addNode (.text s)

/-! ### Searching the open elements -/

/-- The elements outside the nearest open element with one of the tags, if the
search reaches it before an element that bounds it. -/
def searchScope (b : Builder) (bounds tags : List String) : List Nat → Option (List Nat)
  | [] => none
  | i :: rest =>
    let tag := b.tagOf i
    let space := b.spaceOf i
    if space = "" && tags.contains tag then some rest
    else if (space = "" && bounds.contains tag) || boundsScope tag space then none
    else searchScope b bounds tags rest

/-- The bound of a search for a paragraph. -/
def buttonBound : List String := ["button"]

/-- The bounds of a search for a list item. -/
def listBounds : List String := ["ol", "ul"]

/-- Whether a search finds an element with one of the tags. -/
def inScope (b : Builder) (bounds tags : List String) : Bool :=
  (b.searchScope bounds tags b.stack).isSome

/-- Close everything up to the element that a search finds. -/
def closeScope (b : Builder) (bounds tags : List String) : Builder :=
  match b.searchScope bounds tags b.stack with
  | some rest => { b with stack := rest }
  | none => b

/-- Close an open paragraph. -/
def closeParagraph (b : Builder) : Builder :=
  b.closeScope buttonBound ["p"]

/-- Whether a template is open. -/
def inTemplate (b : Builder) : Bool :=
  b.stack.any fun i => b.tagOf i == "template"

/-- Close elements whose end may be left out. -/
def closeImplied (b : Builder) (except : List String) : Builder :=
  { b with stack := b.stack.dropWhile fun i =>
      impliedEnds.contains (b.tagOf i) && !except.contains (b.tagOf i) }

/-- The stack without the nearest item of a list, unless something special other
than an address, a division or a paragraph stands before it. -/
def closeItem (b : Builder) (tags : List String) : List Nat → Option (List Nat)
  | [] => none
  | i :: rest =>
    let tag := b.tagOf i
    if tags.contains tag then some rest
    else if ["address", "div", "p"].contains tag then closeItem b tags rest
    else if b.isSpecialNode i then none
    else closeItem b tags rest

/-- Close elements up to the nearest one with the tag, if nothing special stands
before it. -/
def closeOther (b : Builder) (tag : String) : List Nat → Option (List Nat)
  | [] => none
  | i :: rest =>
    if b.tagOf i == tag then some rest
    else if b.isSpecialNode i then none
    else closeOther b tag rest

/-- Take any end tag that has no rule of its own. -/
def endOther (b : Builder) (tag : String) : Builder :=
  match b.closeOther tag b.stack with
  | some rest => { b with stack := rest }
  | none => b

/-! ### Formatting elements -/

/-- A copy of an element, without place or children. -/
def copyNode (b : Builder) (i : Nat) : Nat × Builder :=
  let (j, forest) := b.forest.create (b.forest.contentOf i)
  (j, { b with forest })

/-- Whether a formatting entry needs no continuation. -/
def settled (b : Builder) : Formatting → Bool
  | .marker => true
  | .active i => b.stack.contains i

/-- Continue each of the given formatting elements, oldest first; the entries
that take their place come back newest first. -/
def continueEach : List Formatting → Builder → List Formatting → Builder × List Formatting
  | [], b, done => (b, done)
  | .marker :: rest, b, done => continueEach rest b (.marker :: done)
  | .active i :: rest, b, done =>
    let j := b.forest.size
    let b := { b with forest := b.forest.add b.current (b.forest.contentOf i) }
    continueEach rest (b.openNode j) (.active j :: done)

/-- Continue the formatting elements that were cut off since the last one that
is still open. -/
def continueFormatting (b : Builder) : Builder :=
  let cut := b.formatting.takeWhile fun e => !b.settled e
  if cut.isEmpty then b
  else
    let kept := b.formatting.dropWhile fun e => !b.settled e
    let (b', fresh) := continueEach cut.reverse b []
    { b' with formatting := fresh ++ kept }

/-- Whether two elements look the same. -/
def sameElement (b : Builder) (i j : Nat) : Bool :=
  match b.forest.contentOf i, b.forest.contentOf j with
  | .element tag space attributes, .element tag' space' attributes' =>
    tag == tag' && space == "" && space' == "" && attributes.length == attributes'.length &&
      attributes.all fun a => attributes'.contains a
  | _, _ => false

/-- Drop every entry that looks like a node beyond the first two, back to the
last mark. -/
def limitSame (b : Builder) (node : Nat) : Nat → List Formatting → List Formatting
  | _, [] => []
  | _, .marker :: rest => .marker :: rest
  | seen, .active i :: rest =>
    if b.sameElement i node then
      if 2 ≤ seen then limitSame b node (seen + 1) rest
      else .active i :: limitSame b node (seen + 1) rest
    else .active i :: limitSame b node seen rest

/-- Append a formatting element, open it and remember it. -/
def addFormatting (b : Builder) (tag : String) (attributes : List HtmlAttribute) : Builder :=
  let b := b.addElement tag attributes
  { b with formatting := .active b.current :: b.limitSame b.current 0 b.formatting }

/-- Forget the formatting elements back to the last mark, and the mark. -/
def clearFormatting (b : Builder) : Builder :=
  { b with formatting := (b.formatting.dropWhile (· != .marker)).drop 1 }

/-- The newest remembered element with a tag, back to the last mark. -/
def findFormatting (b : Builder) (tag : String) : List Formatting → Option Nat
  | [] => none
  | .marker :: _ => none
  | .active i :: rest => if b.tagOf i == tag then some i else findFormatting b tag rest

/-- Where a formatting element that is closed too early is taken up again: the
state of the walk from the block inside it up to it. -/
structure Reopening where
  builder : Builder
  /-- The remembered elements, oldest first. -/
  remembered : List Formatting
  /-- The open elements, outermost first. -/
  opened : List Nat
  last : Nat
  bookmark : Nat
  steps : Nat

/-- Walk from the block up to the formatting element. Each remembered element on
the way is replaced by a copy around what was inside it; the others are closed. -/
def Reopening.climb (target block : Nat) : Nat → Reopening → List Nat → Reopening
  | 0, r, _ => r
  | _, r, [] => r
  | fuel + 1, r, node :: above =>
    if node == target then r
    else
      let r := { r with steps := r.steps + 1 }
      let place := r.remembered.findIdx? (· == .active node)
      match place with
      | some p =>
        if 3 < r.steps then
          let r := { r with
            remembered := r.remembered.eraseIdx p
            bookmark := if p ≤ r.bookmark then r.bookmark - 1 else r.bookmark }
          climb target block fuel r above
        else
          let (copy, b) := r.builder.copyNode node
          let bookmark := if r.last == block then p + 1 else r.bookmark
          let forest := (b.forest.detach r.last).link copy r.last
          climb target block fuel
            { r with
              builder := { b with forest }
              remembered := r.remembered.set p (.active copy)
              opened := r.opened.map fun i => if i == node then copy else i
              last := copy
              bookmark } above
      | none => climb target block fuel { r with opened := r.opened.filter (· != node) } above

/-- Move the children of one node to another. -/
def moveChildren (f : Forest) (source target : Nat) : Forest :=
  (f.childrenOf source).foldl (fun f i => (f.detach i).link target i) f

/-- Split a formatting element around a block that begins inside it. -/
def splitFormatting (b : Builder) (target block : Nat) (opened : List Nat) : Builder :=
  let remembered := b.formatting.reverse
  let ancestor := (opened.takeWhile (· != target)).getLast?.getD rootId
  let above := (opened.takeWhile (· != block)).reverse
  let start : Reopening :=
    ⟨b, remembered, opened, block, (remembered.findIdx? (· == .active target)).getD 0, 0⟩
  let r := Reopening.climb target block (above.length + 1) start above
  let forest := (r.builder.forest.detach r.last).link ancestor r.last
  let (copy, b) := { r.builder with forest }.copyNode target
  let forest := (moveChildren b.forest block copy).link block copy
  let place := r.remembered.findIdx? (· == .active target)
  let bookmark := match place with
    | some p => if p < r.bookmark then r.bookmark - 1 else r.bookmark
    | none => r.bookmark
  let remembered := (r.remembered.filter (· != .active target)).insertIdx bookmark (.active copy)
  let opened := r.opened.filter (· != target)
  let opened := opened.takeWhile (· != block) ++
    block :: copy :: (opened.dropWhile (· != block)).drop 1
  { b with forest, stack := opened.reverse, formatting := remembered.reverse }

/-- Take the end tag of a formatting element, at most `rounds` times. -/
def endFormatting : Nat → Builder → String → Builder
  | 0, b, _ => b
  | rounds + 1, b, tag =>
    match b.findFormatting tag b.formatting with
    | none => b.endOther tag
    | some target =>
      if !b.stack.contains target then
        { b with formatting := b.formatting.filter (· != .active target) }
      else if !b.inScope [] [tag] then b
      else
        let opened := b.stack.reverse
        match (opened.dropWhile (· != target)).find? b.isSpecialNode with
        | none =>
          { b with
            stack := (b.stack.dropWhile (· != target)).drop 1
            formatting := b.formatting.filter (· != .active target) }
        | some block => endFormatting rounds (b.splitFormatting target block opened) tag

/-- Take the end tag of a formatting element. -/
def closeFormatting (b : Builder) (tag : String) : Builder :=
  if b.tagOf b.current == tag && !b.formatting.contains (.active b.current) then b.close
  else endFormatting 8 b tag

/-! ### Start tags -/

/-- Plain attributes of an element. -/
def plainAttributes (attributes : List (String × String)) : List HtmlAttribute :=
  attributes.map fun (name, value) => ⟨"", name, value⟩

/-- Attributes of an element of another vocabulary. -/
def foreignAttributes (space : String) (attributes : List (String × String)) :
    List HtmlAttribute :=
  attributes.map fun (name, value) =>
    let name :=
      if space = "svg" then restoreCase drawingAttributes name
      else if name = "definitionurl" then "definitionURL" else name
    if qualifiedAttributes.contains name then
      let cs := name.toList
      ⟨String.ofList (cs.takeWhile (· ≠ ':')), String.ofList ((cs.dropWhile (· ≠ ':')).drop 1),
        value⟩
    else ⟨"", name, value⟩

/-- Append an element without content. -/
def addVoid (b : Builder) (tag : String) (attributes : List HtmlAttribute) : Builder :=
  (b.addElement tag attributes).close

/-- Append an element whose raw text comes next. -/
def addRaw (b : Builder) (tag : String) (attributes : List HtmlAttribute) : Builder :=
  { b.addElement tag attributes with afterText := b.mode, mode := .text }

/-- Begin a template. In another vocabulary it ends everything. -/
def startTemplate (b : Builder) (attributes : List HtmlAttribute) : Builder :=
  if b.stack.any fun i => b.spaceOf i != "" then { b with mode := .ended }
  else
    let b := b.addElement "template" attributes
    { b with
      formatting := .marker :: b.formatting
      mode := .template
      templates := .template :: b.templates }

/-- Elements that belong to a document's head but may stand anywhere. -/
def headElements : List String :=
  ["base", "basefont", "bgsound", "link", "meta", "noframes", "script", "style", "template",
    "title"]

/-- Take the start tag of a head element. -/
def startInHead (b : Builder) (tag : String) (attributes : List HtmlAttribute) : Builder :=
  if tag = "template" then b.startTemplate attributes
  else if ["noframes", "script", "style", "title"].contains tag then b.addRaw tag attributes
  else b.addVoid tag attributes

/-- Take the start tag of an item, closing the one before. -/
def startItem (b : Builder) (tags : List String) (tag : String)
    (attributes : List HtmlAttribute) : Builder :=
  let b := match b.closeItem tags b.stack with
    | some rest => { b with stack := rest }
    | none => b
  b.closeParagraph.addElement tag attributes

/-- Close a link that is still open before another begins. -/
def closeLink (b : Builder) : Builder :=
  match b.findFormatting "a" b.formatting with
  | none => b
  | some i =>
    let b := b.closeFormatting "a"
    { b with
      stack := b.stack.filter (· != i)
      formatting := b.formatting.filter (· != .active i) }

/-- Take a start tag in ordinary content. -/
def startInBody (b : Builder) (name : String) (attributes : List (String × String))
    (selfClosing : Bool) : Builder :=
  let tag := if name = "image" then "img" else name
  let plain := plainAttributes attributes
  if misplacedElements.contains tag then b
  else if headElements.contains tag then b.startInHead tag plain
  else if blockElements.contains tag || tag = "plaintext" || tag = "table" then
    b.closeParagraph.addElement tag plain
  else if headings.contains tag then
    let b := b.closeParagraph
    let b := if headings.contains (b.tagOf b.current) then b.close else b
    b.addElement tag plain
  else if tag = "pre" || tag = "listing" then b.closeParagraph.addElement tag plain
  else if tag = "form" then
    if b.form.isSome && !b.inTemplate then b
    else
      let b := b.closeParagraph.addElement tag plain
      if b.inTemplate then b else { b with form := some b.current }
  else if tag = "li" then b.startItem ["li"] tag plain
  else if tag = "dd" || tag = "dt" then b.startItem ["dd", "dt"] tag plain
  else if tag = "button" then
    (b.closeScope [] ["button"]).continueFormatting.addElement tag plain
  else if tag = "a" then b.closeLink.continueFormatting.addFormatting tag plain
  else if tag = "nobr" then
    let b := b.continueFormatting
    let b := if b.inScope [] ["nobr"] then (b.closeFormatting "nobr").continueFormatting else b
    b.addFormatting tag plain
  else if formattingElements.contains tag then b.continueFormatting.addFormatting tag plain
  else if ["applet", "marquee", "object"].contains tag then
    let b := b.continueFormatting.addElement tag plain
    { b with formatting := .marker :: b.formatting }
  else if inlineVoids.contains tag then b.continueFormatting.addVoid tag plain
  else if ["param", "source", "track"].contains tag then b.addVoid tag plain
  else if tag = "hr" then b.closeParagraph.addVoid tag plain
  else if tag = "textarea" then b.addRaw tag plain
  else if tag = "xmp" then b.closeParagraph.continueFormatting.addRaw tag plain
  else if ["iframe", "noembed", "noscript"].contains tag then b.addRaw tag plain
  else if tag = "optgroup" || tag = "option" then
    let b := if b.tagOf b.current == "option" then b.close else b
    b.continueFormatting.addElement tag plain
  else if tag = "rb" || tag = "rtc" then
    (if b.inScope [] ["ruby"] then b.closeImplied [] else b).addElement tag plain
  else if tag = "rp" || tag = "rt" then
    (if b.inScope [] ["ruby"] then b.closeImplied ["rtc"] else b).addElement tag plain
  else if tag = "math" || tag = "svg" then
    let b := b.continueFormatting.addNode (.element tag tag (foreignAttributes tag attributes))
    if selfClosing then b.close else b
  else b.continueFormatting.addElement tag plain

/-! ### End tags -/

/-- The mode of the innermost template, or that of the body. -/
def resetMode (b : Builder) : Builder :=
  if b.stack.any fun i => b.tagOf i == "template" && b.spaceOf i == "" then
    { b with mode := b.templates.headD .body }
  else { b with mode := .body }

/-- End a template. -/
def endTemplate (b : Builder) : Builder :=
  if !b.inTemplate then b
  else
    let b := b.closeImplied []
    let isTemplate := fun i => b.tagOf i == "template" && b.spaceOf i == ""
    let b := if b.stack.any isTemplate then
        { b with stack := (b.stack.dropWhile fun i => !isTemplate i).drop 1 }
      else b
    let b := b.clearFormatting
    { b with templates := b.templates.drop 1 }.resetMode

/-- End a form. -/
def endForm (b : Builder) : Builder :=
  if b.inTemplate then
    if b.inScope [] ["form"] then (b.closeImplied []).closeScope [] ["form"] else b
  else
    let form := b.form
    let b := { b with form := none }
    match form with
    | none => b
    | some i =>
      if b.inScope [] ["form"] && b.stack.contains i then
        let b := b.closeImplied []
        { b with stack := b.stack.filter (· != i) }
      else b

/-- Take an end tag in ordinary content. -/
def endInBody (b : Builder) (tag : String) : Builder :=
  if tag = "body" || tag = "html" then b
  else if blockEnds.contains tag then b.closeScope [] [tag]
  else if tag = "form" then b.endForm
  else if tag = "p" then
    let b := if b.inScope buttonBound ["p"] then b else b.closeParagraph.addElement "p" []
    b.closeParagraph
  else if tag = "li" then b.closeScope listBounds ["li"]
  else if tag = "dd" || tag = "dt" then b.closeScope [] [tag]
  else if headings.contains tag then b.closeScope [] headings
  else if formattingElements.contains tag then b.closeFormatting tag
  else if ["applet", "marquee", "object"].contains tag then
    if b.inScope [] [tag] then (b.closeScope [] [tag]).clearFormatting else b
  else if tag = "br" then b.continueFormatting.addVoid "br" []
  else if tag = "template" then b.endTemplate
  else b.endOther tag

/-! ### Tokens -/

/-- Drop one line feed at the beginning. -/
def dropLine (s : String) : String :=
  match s.toList with
  | '\n' :: r => String.ofList r
  | _ => s

/-- Whether the innermost element has no content yet. -/
def currentEmpty (b : Builder) : Bool :=
  (b.forest.childrenOf b.current).isEmpty

/-- Take text in ordinary content. -/
def textInBody (b : Builder) (s : String) : Builder :=
  let tag := b.tagOf b.current
  let s := if (tag == "pre" || tag == "listing") && b.currentEmpty then dropLine s else s
  let s := String.ofList (s.toList.filter fun c => c.toNat != 0)
  if s = "" then b else b.continueFormatting.addText s

/-- Take a token in ordinary content. -/
def takeInBody (b : Builder) : Token → Builder
  | .text s => b.textInBody s
  | .startTag name attributes selfClosing => b.startInBody name attributes selfClosing
  | .endTag name => b.endInBody name
  | .comment => b.addNode .comment
  | .doctype => b

/-- Take a token at the beginning of a template's content. The first start tag
that is not a head element's begins ordinary content. -/
def takeInTemplate (b : Builder) : Token → Builder
  | .startTag name attributes selfClosing =>
    if headElements.contains name then b.startInHead name (plainAttributes attributes)
    else
      { b with templates := .body :: b.templates.drop 1, mode := .body }.startInBody
        name attributes selfClosing
  | .endTag "template" => b.endTemplate
  | .endTag _ => b
  | token => b.takeInBody token

/-- Take a token by the rules of a mode other than that of raw text. -/
def takeInMode (b : Builder) : Mode → Token → Builder
  | .body, token => b.takeInBody token
  | .template, token => b.takeInTemplate token
  | _, _ => b

/-- Take a token behind the start tag of a raw text element. -/
def takeInText (b : Builder) : Token → Builder
  | .text s =>
    let s := if b.tagOf b.current == "textarea" && b.currentEmpty then dropLine s else s
    b.addText s
  | .endTag _ => { b.close with mode := b.afterText }
  | token => { b with mode := b.afterText }.takeInMode b.afterText token

/-- Take a token by the rules of the present mode. -/
def takeByMode (b : Builder) (token : Token) : Builder :=
  match b.mode with
  | .text => b.takeInText token
  | mode => b.takeInMode mode token

/-! ### Other vocabularies -/

/-- Whether ordinary markup may stand in an element of another vocabulary. -/
def isIntegrationPoint (b : Builder) (i : Nat) : Bool :=
  match b.forest.contentOf i with
  | .element tag "svg" _ => drawingTextElements.contains tag
  | .element tag "math" attributes =>
    tag == "annotation-xml" && attributes.any fun a =>
      a.name == "encoding" &&
        ["text/html", "application/xhtml+xml"].contains a.value.toLower
  | _ => false

/-- Whether a token belongs to the vocabulary of the innermost element. -/
def isForeign (b : Builder) (token : Token) : Bool :=
  let i := b.current
  let tag := b.tagOf i
  let space := b.spaceOf i
  let start := match token with
    | .startTag name _ _ => some name
    | _ => none
  let isText := match token with
    | .text _ => true
    | _ => false
  if space = "" then false
  else if space = "math" && formulaTextElements.contains tag &&
      (isText || start.any fun n => n != "mglyph" && n != "malignmark") then false
  else if space = "math" && tag = "annotation-xml" && start == some "svg" then false
  else if b.isIntegrationPoint i && (isText || start.isSome) then false
  else true

/-- Close the innermost element of another vocabulary with the tag, or leave the
end tag to the present mode where HTML begins. -/
def endForeign (b : Builder) (name : String) : List Nat → Builder
  | [] => b
  | i :: rest =>
    if b.spaceOf i == "" then b.takeByMode (.endTag name)
    else if (b.tagOf i).toLower == name then { b with stack := rest }
    else endForeign b name rest

/-- Take a token in another vocabulary. -/
def takeForeign (b : Builder) : Token → Builder
  | .text s => b.addText (String.ofList (s.toList.map fun c => if c.toNat = 0 then replacement else c))
  | .comment => b.addNode .comment
  | .doctype => b
  | .startTag name attributes selfClosing =>
    let space := b.spaceOf b.current
    let tag := if space = "svg" then restoreCase drawingNames name else name
    let b := b.addNode (.element tag space (foreignAttributes space attributes))
    if selfClosing then b.close else b
  | .endTag name => b.endForeign name b.stack

/-- Take a token that does or does not belong to another vocabulary. -/
def take (b : Builder) (foreign : Bool) (token : Token) : Builder :=
  if foreign then b.takeForeign token else b.takeByMode token

/-- The element whose raw text follows a token. In another vocabulary there is no
raw text. -/
def rawAfter (foreign : Bool) : Token → Option String
  | .startTag name _ _ => if !foreign && rawElements.contains name then some name else none
  | _ => none

/-- Take every token of the input, at most `fuel` of them. Each takes a character at
least, so the fuel stays above the number of characters. -/
def takeAll : Nat → Builder → Option String → List Char → Builder
  | 0, b, _, _ => b
  | fuel + 1, b, raw, cs =>
    match nextToken? (fuel + 1) raw (b.spaceOf b.current != "") cs with
    | none => b
    | some (token, rest) =>
      let foreign := b.isForeign token
      takeAll fuel (b.take foreign token) (rawAfter foreign token) rest

end Builder

/-- The trees of a fragment, or nothing if too many elements are open at once. -/
def parseFragment? (source : String) : Option (List Html) :=
  let cs := source.toList
  let b := Builder.takeAll (cs.length + 1) Builder.initial none cs
  if b.overflow then none else some (b.forest.trees Builder.rootId)

/-- The message of a fragment in which too many elements are open. -/
def overflowMessage : String :=
  "html: open stack of elements exceeds 512 nodes"

end TagScript.Markup
