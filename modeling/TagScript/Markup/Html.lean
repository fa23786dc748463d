/-!
# `TagScript.Markup.Html`: trees of markup, and their text

A tree of markup is made of elements, texts and comments. An element of another
vocabulary than HTML's own (drawings, formulas) carries the name of that
vocabulary, its *space*; so do some attributes.

* `Html.write`: the text of a tree, or how far it came before it could not go on.
* `writeAll`: the text of trees one after another.
-/

set_option autoImplicit false

namespace TagScript.Markup

/-- An attribute of an element. -/
structure HtmlAttribute where
  space : String
  name : String
  value : String
deriving Repr, DecidableEq, Inhabited

/-- The name of an attribute with its space in front. -/
def HtmlAttribute.fullName (a : HtmlAttribute) : String :=
  if a.space = "" then a.name else a.space ++ ":" ++ a.name

/-- A tree of markup. -/
inductive Html where
  | element (tag space : String) (attributes : List HtmlAttribute) (children : List Html)
  | text (s : String)
  /-- A comment or a declaration of the document's type, neither of which is ever shown. -/
  | comment
deriving Inhabited

/-- The elements that never have content. -/
def voidElements : List String :=
  ["area", "base", "br", "col", "embed", "hr", "img", "input", "keygen", "link", "meta",
    "param", "source", "track", "wbr"]

/-- The elements whose text is written as it is. -/
def literalElements : List String :=
  ["iframe", "noembed", "noframes", "noscript", "plaintext", "script", "style", "xmp"]

/-- The elements at whose start a line feed is dropped when they are read. -/
def lineElements : List String :=
  ["pre", "listing", "textarea"]

/-- A character of text or of an attribute value as it is written. -/
def escapeChar (c : Char) : List Char :=
  match c with
  | '&' => "&amp;".toList
  | '\'' => "&#39;".toList
  | '<' => "&lt;".toList
  | '>' => "&gt;".toList
  | '"' => "&#34;".toList
  | '\r' => "&#13;".toList
  | c => [c]

/-- Text or an attribute value as it is written. -/
def escape (s : String) : String :=
  String.ofList (s.toList.flatMap escapeChar)

/-- How writing ended. -/
inductive WriteEnd where
  | complete
  /-- Behind plain text nothing more can be written. -/
  | plaintext
  /-- An element without content has some. -/
  | voidContent (tag : String)
deriving Repr, DecidableEq, Inhabited

/-- The start tag of an element without its end. -/
def openTag (tag : String) (attributes : List HtmlAttribute) : String :=
  attributes.foldl (fun s a => s ++ " " ++ a.fullName ++ "=\"" ++ escape a.value ++ "\"") ("<" ++ tag)

/-- The line feed that keeps a text's own first line feed from being dropped. -/
def leadingLine (tag : String) : List Html → String
  | .text s :: _ => if lineElements.contains tag && s.startsWith "\n" then "\n" else ""
  | _ => ""

mutual

/-- Write a tree behind what is written already. -/
def Html.write : Html → String → String × WriteEnd
  | .text s, out => (out ++ escape s, .complete)
  | .comment, out => (out, .complete)
  | .element tag space attributes children, out =>
    let out := out ++ openTag tag attributes
    if voidElements.contains tag then
      if children.isEmpty then (out ++ "/>", .complete) else (out, .voidContent tag)
    else
      let out := out ++ ">" ++ leadingLine tag children
      let literal := space = "" && literalElements.contains tag
      match writeChildren literal children out with
      | (out, .complete) =>
        if literal && tag = "plaintext" then (out, .plaintext)
        else (out ++ "</" ++ tag ++ ">", .complete)
      | stopped => stopped

/-- Write the children of an element, their texts literally or not. -/
def writeChildren (literal : Bool) : List Html → String → String × WriteEnd
  | [], out => (out, .complete)
  | .text s :: rest, out => writeChildren literal rest (out ++ if literal then s else escape s)
  | child :: rest, out =>
    match child.write out with
    | (out, .complete) => writeChildren literal rest out
    | stopped => stopped

end

/-- Write trees one after another. Plain text ends only its own tree. -/
def writeAll : List Html → String → String × Option String
  | [], out => (out, none)
  | tree :: rest, out =>
    match tree.write out with
    | (out, .voidContent tag) => (out, some tag)
    | (out, _) => writeAll rest out

/-- The message of a tree that cannot be written. -/
def voidMessage (tag : String) : String :=
  "html: void element <" ++ tag ++ "> has child nodes"

end TagScript.Markup
