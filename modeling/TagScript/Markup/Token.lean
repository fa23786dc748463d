import TagScript.Markup.Reference

/-!
# `TagScript.Markup.Token`: the tokens of markup

Markup is a sequence of texts, start tags, end tags, comments and document type
declarations. What looks like none of these is text. Names are in lower case;
line ends are line feeds; a tag that the input ends in is no token at all.

After the start tags of some elements comes raw text, which goes up to the
element's own end tag.

* `nextToken`: the first token of the input and what follows it.
-/

set_option autoImplicit false

namespace TagScript.Markup

/-- A token. -/
inductive Token where
  | text (s : String)
  | startTag (name : String) (attributes : List (String × String)) (selfClosing : Bool)
  | endTag (name : String)
  | comment
  | doctype
deriving Repr, DecidableEq, Inhabited

/-- White space inside tags. -/
def isTagBlank (c : Char) : Bool :=
  c == ' ' || c == '\n' || c == '\r' || c == '\t' || c == '\x0c'

/-- An ASCII letter. -/
def isLetter (c : Char) : Bool :=
  ('a' ≤ c && c ≤ 'z') || ('A' ≤ c && c ≤ 'Z')

/-- The lower-case form of an ASCII letter; other characters stay. -/
def lowerAscii (c : Char) : Char :=
  if 'A' ≤ c && c ≤ 'Z' then Char.ofNat (c.toNat + 32) else c

/-- Characters with every line end as one line feed. -/
def normalizeLines : List Char → List Char
  | '\r' :: '\n' :: r => '\n' :: normalizeLines r
  | '\r' :: r => '\n' :: normalizeLines r
  | c :: r => c :: normalizeLines r
  | [] => []

/-! ### Text -/

/-- Whether a character behind `<` opens a tag, a comment or a declaration. -/
def opensMarkup (c : Char) : Bool :=
  isLetter c || c == '/' || c == '!' || c == '?'

/-- Text up to the next markup. -/
def textRun : List Char → List Char × List Char
  | [] => ([], [])
  | ['<'] => (['<'], [])
  | '<' :: c :: r =>
    if opensMarkup c then ([], '<' :: c :: r)
    else
      let (text, rest) := textRun (c :: r)
      ('<' :: text, rest)
  | c :: r =>
    let (text, rest) := textRun r
    (c :: text, rest)

/-- The token of a run of text. -/
def textToken (cs : List Char) : Token :=
  .text (String.ofList (decodeReferences false (normalizeLines cs)))

/-! ### Tags -/

/-- The end of an attribute name. -/
def endsName (c : Char) : Bool :=
  isTagBlank c || c == '/' || c == '>' || c == '='

/-- An attribute name and what follows it. An equals sign in front belongs to
the name. -/
def attributeName (cs : List Char) : List Char × List Char :=
  match cs with
  | '=' :: r => ('=' :: r.takeWhile (fun c => !endsName c), r.dropWhile fun c => !endsName c)
  | _ => (cs.takeWhile fun c => !endsName c, cs.dropWhile fun c => !endsName c)

/-- A value of an attribute. -/
structure ValueRun where
  value : List Char
  /-- Whether a slash is the last character that was read. -/
  slash : Bool
  rest : List Char

/-- An attribute value without quotes, whose first character is given. -/
def bareValue? (first : Char) (cs : List Char) : Option ValueRun :=
  let ends := fun c : Char => isTagBlank c || c == '>'
  let value := first :: cs.takeWhile fun c => !ends c
  match cs.dropWhile fun c => !ends c with
  | [] => none
  | '>' :: rest => some ⟨value, value.getLast? == some '/', '>' :: rest⟩
  | _ :: rest => some ⟨value, false, rest⟩

/-- An attribute value and what follows it, or nothing when the input ends. -/
def attributeValue? (cs : List Char) : Option ValueRun :=
  match cs.dropWhile isTagBlank with
  | [] => none
  | '/' :: rest => some ⟨[], true, rest⟩
  | '=' :: r =>
    match r.dropWhile isTagBlank with
    | [] => none
    | '>' :: rest => some ⟨[], false, '>' :: rest⟩
    | c :: rest =>
      if c == '"' || c == '\'' then
        match rest.dropWhile (· != c) with
        | [] => none
        | _ :: after => some ⟨rest.takeWhile (· != c), false, after⟩
      else bareValue? c rest
  | rest => some ⟨[], false, rest⟩

/-- What a tag holds behind its name. -/
structure TagRun where
  attributes : List (String × String)
  /-- Whether a slash stands before the end of the tag. -/
  finalSlash : Bool
  /-- What follows the tag. -/
  rest : List Char

/-- The attributes of a tag, `fuel` of them at most; `slash` tells whether a slash
stands before them. -/
def attributes? : Nat → Bool → List Char → Option TagRun
  | 0, _, _ => none
  | fuel + 1, slash, cs =>
    match cs.dropWhile isTagBlank with
    | [] => none
    | '>' :: rest => some ⟨[], slash && cs.head? == some '>', rest⟩
    | cs =>
      let (name, rest) := attributeName cs
      match attributeValue? rest with
      | none => none
      | some v =>
        match attributes? fuel v.slash v.rest with
        | none => none
        | some run =>
          if name = [] then some run
          else
            let value := decodeReferences true (normalizeLines v.value)
            let pair := (String.ofList (name.map lowerAscii), String.ofList value)
            some { run with attributes := pair :: run.attributes }

/-- The end of a tag name. -/
def endsTagName (c : Char) : Bool :=
  isTagBlank c || c == '/' || c == '>'

/-- A tag behind its `<` or `</`: its name and what it holds. -/
def tag? (fuel : Nat) (cs : List Char) : Option (String × TagRun) :=
  let name := cs.takeWhile fun c => !endsTagName c
  (attributes? fuel false (cs.dropWhile fun c => !endsTagName c)).map fun run =>
    (String.ofList (name.map lowerAscii), run)

/-! ### Comments and declarations -/

/-- What follows the next `>`. -/
def afterAngle (cs : List Char) : List Char :=
  (cs.dropWhile (· != '>')).drop 1

/-- What follows a comment, given the number of dashes just read and whether
nothing but dashes has been read. -/
def afterComment : Nat → Bool → List Char → List Char
  | _, _, [] => []
  | dashes, beginning, '-' :: r => afterComment (dashes + 1) beginning r
  | dashes, beginning, '>' :: r =>
    if 2 ≤ dashes || beginning then r else afterComment 0 false r
  | dashes, _, '!' :: r =>
    if 2 ≤ dashes then
      match r with
      | [] => []
      | '>' :: r => r
      | '-' :: r => afterComment 1 false r
      | _ :: r => afterComment 0 false r
    else afterComment 0 false r
  | _, _, _ :: r => afterComment 0 false r

/-- Whether characters begin with a lower-case word, in any case. -/
def startsWithWord (word : List Char) (cs : List Char) : Bool :=
  (cs.take word.length).map lowerAscii == word

/-- The content of a character data section and what follows it. -/
def characterData : List Char → List Char × List Char
  | [] => ([], [])
  | ']' :: ']' :: '>' :: r => ([], r)
  | c :: r =>
    let (text, rest) := characterData r
    (c :: text, rest)

/-- A declaration behind `<!`. Character data is known only where `cdata` says. -/
def declaration (cdata : Bool) (cs : List Char) : Token × List Char :=
  match cs with
  | '-' :: '-' :: r => (.comment, afterComment 0 true r)
  | _ =>
    if startsWithWord "doctype".toList cs then (.doctype, afterAngle (cs.drop 7))
    else if cdata && "[CDATA[".toList.isPrefixOf cs then
      let (text, rest) := characterData (cs.drop 7)
      (textToken text, rest)
    else (.comment, afterAngle cs)

/-! ### Raw text -/

/-- The elements whose start tag is followed by raw text. -/
def rawElements : List String :=
  ["iframe", "noembed", "noframes", "noscript", "plaintext", "script", "style", "textarea",
    "title", "xmp"]

/-- The characters behind `</` and a name, if they are that. -/
def endTagRest? (name : List Char) (cs : List Char) : Option (List Char) :=
  if startsWithWord name cs then
    match cs.drop name.length with
    | c :: _ => if endsTagName c then some (cs.drop name.length) else none
    | [] => none
  else none

/-- Raw text up to the end tag of an element. -/
def rawRun (name : List Char) : List Char → List Char × List Char
  | [] => ([], [])
  | c :: r =>
    match c, r with
    | '<', '/' :: r' =>
      if (endTagRest? name r').isSome then ([], c :: r)
      else
        let (text, rest) := rawRun name r
        (c :: text, rest)
    | _, _ =>
      let (text, rest) := rawRun name r
      (c :: text, rest)

/-- Where the reader of a script stands with respect to comments in it. -/
inductive ScriptState where
  | plain
  /-- Inside a comment, behind this many dashes. -/
  | commented (dashes : Nat)
  /-- Inside a script tag inside a comment, behind this many dashes. -/
  | nested (dashes : Nat)

/-- The text of a script up to its end tag. End tags inside a script tag inside a
comment belong to the text. -/
def scriptRun : Nat → ScriptState → List Char → List Char × List Char
  | 0, _, cs => ([], cs)
  | _, _, [] => ([], [])
  | fuel + 1, state, c :: r =>
    let go (state : ScriptState) (taken : List Char) (rest : List Char) :=
      let (text, rest) := scriptRun fuel state rest
      (taken ++ text, rest)
    let script := "script".toList
    match state, c with
    | .plain, '<' =>
      match r with
      | '/' :: r' => if (endTagRest? script r').isSome then ([], c :: r) else go .plain [c, '/'] r'
      | '!' :: '-' :: '-' :: r' => go (.commented 2) [c, '!', '-', '-'] r'
      | _ => go .plain [c] r
    | .plain, _ => go .plain [c] r
    | .commented dashes, '-' => go (.commented (dashes + 1)) [c] r
    | .commented dashes, '>' => go (if 2 ≤ dashes then .plain else .commented 0) [c] r
    | .commented _, '<' =>
      match r with
      | '/' :: r' =>
        if (endTagRest? script r').isSome then ([], c :: r) else go (.commented 0) [c, '/'] r'
      | d :: _ =>
        if isLetter d then
          match endTagRest? script r with
          | some _ => go (.nested 0) (c :: r.take 7) (r.drop 7)
          | none => go (.commented 0) [c] r
        else go .plain [c] r
      | [] => ([c], [])
    | .commented _, _ => go (.commented 0) [c] r
    | .nested dashes, '-' => go (.nested (dashes + 1)) [c] r
    | .nested dashes, '>' => go (if 2 ≤ dashes then .plain else .nested 0) [c] r
    | .nested _, '<' =>
      match r with
      | '/' :: r' =>
        if (endTagRest? script r').isSome then go (.commented 0) (c :: r.take 8) (r.drop 8)
        else go (.nested 0) [c, '/'] r'
      | _ => go (.nested 0) [c] r
    | .nested _, _ => go (.nested 0) [c] r

/-- The raw text behind a start tag, and what follows it. -/
def rawText (fuel : Nat) (name : String) (cs : List Char) : List Char × List Char :=
  if name = "plaintext" then (cs, [])
  else if name = "script" then scriptRun fuel .plain cs
  else rawRun name.toList cs

/-- The token of raw text. Only in a text area and in a title are references
read, and nowhere does the zero character survive. -/
def rawToken (name : String) (cs : List Char) : Token :=
  let cs := (normalizeLines cs).map fun c => if c.toNat = 0 then replacement else c
  let cs := if name = "textarea" ∨ name = "title" then decodeReferences false cs else cs
  .text (String.ofList cs)

/-! ### The next token -/

/-- The token at a `<` that opens markup, or nothing when the input ends in it. -/
def markupToken? (fuel : Nat) (cdata : Bool) (c : Char) (r : List Char) :
    Option (Token × List Char) :=
  if c == '/' then
    match r with
    | [] => some (.text "</", [])
    | '>' :: rest => some (.comment, rest)
    | d :: _ =>
      if isLetter d then (tag? fuel r).map fun (name, run) => (.endTag name, run.rest)
      else some (.comment, afterAngle r)
  else if c == '!' then some (declaration cdata r)
  else if c == '?' then some (.comment, afterAngle r)
  else
    (tag? fuel (c :: r)).map fun (name, run) =>
      (.startTag name run.attributes run.finalSlash, run.rest)

/-- The next token outside raw text. -/
def plainToken? (fuel : Nat) (cdata : Bool) (cs : List Char) : Option (Token × List Char) :=
  match textRun cs with
  | ([], '<' :: c :: r) => markupToken? fuel cdata c r
  | ([], _) => none
  | (text, rest) => some (textToken text, rest)

/-- The next token. `raw` names the element whose raw text comes next, and `fuel` is
greater than the number of characters. -/
def nextToken? (fuel : Nat) (raw : Option String) (cdata : Bool) (cs : List Char) :
    Option (Token × List Char) :=
  match raw with
  | none => plainToken? fuel cdata cs
  | some name =>
    match rawText fuel name cs with
    | ([], rest) => plainToken? fuel cdata rest
    | (text, rest) => some (rawToken name text, rest)

end TagScript.Markup
