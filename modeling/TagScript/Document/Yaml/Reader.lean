import TagScript.Decimal.Layout
import TagScript.Document.Basic
import TagScript.Document.Yaml.Numeral
import TagScript.Text.Blank
import TagScript.Text.Lines

/-!
# `TagScript.Document.Yaml.Reader`: YAML texts

A YAML text is read line by line: the indentation of a line tells where it
belongs, a dash begins an item and a colon ends a key. Quoted texts and the
collections in brackets may go over several lines and are read character by
character.

Anchors, tags and keys over several lines are not part of what is read.

* `Yaml.ofPlain`: the meaning of a scalar without quotes.
* `Yaml.read?`: the document of a text.
-/

set_option autoImplicit false

namespace TagScript.Yaml

open Text

/-! ### Scalars -/

/-- The meaning of a scalar without quotes. -/
def ofPlain (s : String) : Document :=
  if ["", "null", "Null", "NULL", "~"].contains s then .null
  else if ["true", "True", "TRUE"].contains s then .bool true
  else if ["false", "False", "FALSE"].contains s then .bool false
  else if [".inf", ".Inf", ".INF"].contains s then .number (1.0 / 0.0)
  else if ["-.inf", "-.Inf", "-.INF"].contains s then .number (-1.0 / 0.0)
  else if [".nan", ".NaN", ".NAN"].contains s then .number (0.0 / 0.0)
  else
    match readNumber s with
    | .integer n => .integer n
    | .real x => .number x
    | _ => .text s

/-- The key that a scalar without quotes stands for. -/
def plainKey (s : String) : String :=
  match ofPlain s with
  | .integer n => toString n
  | .number x => Decimal.general.write x
  | .bool b => if b then "true" else "false"
  | _ => s

/-- A space or a tab. -/
def isSpace (c : Char) : Bool := c == ' ' || c == '\t'

/-- Text without spaces at its end. -/
def trimEnd (cs : List Char) : List Char :=
  (cs.reverse.dropWhile isSpace).reverse

/-- Text up to a comment: a hash at the start or behind a space. -/
def dropComment (afterSpace : Bool) : List Char → List Char
  | [] => []
  | c :: rest => if c = '#' && afterSpace then [] else c :: dropComment (isSpace c) rest

/-- Whether nothing but spaces and a comment is left on a line. -/
def isIdle (cs : List Char) : Bool :=
  (dropComment true cs).all isSpace

/-- The value of a hexadecimal digit. -/
def hexValue? (c : Char) : Option Nat :=
  if Decimal.isDigitOf 16 c then some (Decimal.digitValue c) else none

/-- The value of hexadecimal digits. -/
def hexNumber? (cs : List Char) : Option Nat :=
  (cs.mapM hexValue?).map fun ds => ds.foldl (fun n d => n * 16 + d) 0

/-- The number of digits behind an escape letter. -/
def escapeWidth? : Char → Option Nat
  | 'x' => some 2
  | 'u' => some 4
  | 'U' => some 8
  | _ => none

/-- The character of a one-letter escape. -/
def escapeChar? : Char → Option Char
  | '0' => some (Char.ofNat 0)
  | 'a' => some (Char.ofNat 0x07)
  | 'b' => some (Char.ofNat 0x08)
  | 't' | '\t' => some '\t'
  | 'n' => some '\n'
  | 'v' => some (Char.ofNat 0x0b)
  | 'f' => some (Char.ofNat 0x0c)
  | 'r' => some '\r'
  | 'e' => some (Char.ofNat 0x1b)
  | ' ' => some ' '
  | '"' => some '"'
  | '/' => some '/'
  | '\\' => some '\\'
  | 'N' => some (Char.ofNat 0x85)
  | '_' => some (Char.ofNat 0xa0)
  | 'L' => some (Char.ofNat 0x2028)
  | 'P' => some (Char.ofNat 0x2029)
  | _ => none

/-- What a line end inside a quoted text stands for, and what follows it: a space,
or as many line ends as there are empty lines. -/
def foldLineEnd (cs : List Char) : List Char × List Char :=
  let space := cs.takeWhile fun c => isSpace c || c == '\n'
  let breaks := space.count '\n'
  (if breaks = 0 then [' '] else List.replicate breaks '\n', cs.drop space.length)

/-- Quoted text without the spaces at its end, the last character first. -/
def trimQuoted (reversed : List Char) : List Char := reversed.dropWhile isSpace

/-- The rest of a text in single quotes, and what follows it. -/
def singleQuoted? : Nat → List Char → List Char → Option (List Char × List Char)
  | 0, _, _ => none
  | fuel + 1, read, cs =>
    match cs with
    | [] => none
    | '\'' :: '\'' :: rest => singleQuoted? fuel ('\'' :: read) rest
    | '\'' :: rest => some (read.reverse, rest)
    | '\n' :: rest =>
      let (fold, rest) := foldLineEnd rest
      singleQuoted? fuel (fold.reverse ++ trimQuoted read) rest
    | c :: rest => singleQuoted? fuel (c :: read) rest

/-- The rest of a text in double quotes, and what follows it. -/
def doubleQuoted? : Nat → List Char → List Char → Option (List Char × List Char)
  | 0, _, _ => none
  | fuel + 1, read, cs =>
    match cs with
    | [] => none
    | '"' :: rest => some (read.reverse, rest)
    | '\\' :: '\n' :: rest => doubleQuoted? fuel read (rest.dropWhile isSpace)
    | '\\' :: c :: rest =>
      match escapeWidth? c with
      | some width =>
        match hexNumber? (rest.take width) with
        | some n =>
          if (rest.take width).length = width then
            doubleQuoted? fuel (Char.ofNat n :: read) (rest.drop width)
          else none
        | none => none
      | none =>
        match escapeChar? c with
        | some d => doubleQuoted? fuel (d :: read) rest
        | none => none
    | '\n' :: rest =>
      let (fold, rest) := foldLineEnd rest
      doubleQuoted? fuel (fold.reverse ++ trimQuoted read) rest
    | c :: rest => doubleQuoted? fuel (c :: read) rest

/-- A quoted text at the start, and what follows it. -/
def quoted? (cs : List Char) : Option (String × List Char) :=
  match cs with
  | '\'' :: rest => (singleQuoted? (cs.length + 1) [] rest).map fun r => (String.ofList r.1, r.2)
  | '"' :: rest => (doubleQuoted? (cs.length + 1) [] rest).map fun r => (String.ofList r.1, r.2)
  | _ => none

/-! ### Collections in brackets -/

/-- Text without spaces, line ends and comments at its start. -/
def skipFlow : Bool → List Char → List Char
  | _, [] => []
  | afterSpace, c :: rest =>
    if isSpace c || c == '\n' then skipFlow true rest
    else if c = '#' && afterSpace then skipComment rest
    else c :: rest
where
  /-- Text behind a comment. -/
  skipComment : List Char → List Char
    | [] => []
    | c :: rest => if c = '\n' then skipFlow true rest else skipComment rest

/-- Characters that end a scalar in brackets. -/
def isFlowMark (c : Char) : Bool :=
  c == ',' || c == '[' || c == ']' || c == '\x7b' || c == '\x7d'

/-- A scalar without quotes in brackets, and what follows it. -/
def flowPlain : List Char → List Char × List Char
  | [] => ([], [])
  | c :: rest =>
    if isFlowMark c || c == '\n' then ([], c :: rest)
    else if c == ':' && (rest.head?.all fun d => isSpace d || d == '\n' || isFlowMark d) then
      ([], c :: rest)
    else if isSpace c && rest.head? == some '#' then ([], c :: rest)
    else
      let (more, after) := flowPlain rest
      (c :: more, after)

/-- A key or a scalar in brackets: the document it is, the key it would be, and what
follows it. -/
def flowScalar? (cs : List Char) : Option (Document × String × List Char) :=
  match cs with
  | '"' :: _ | '\'' :: _ => (quoted? cs).map fun r => (.text r.1, r.1, r.2)
  | _ =>
    let (plain, rest) := flowPlain cs
    let text := String.ofList (trimEnd plain)
    if text = "" then
      match rest with
      | ':' :: _ => none
      | _ => some (.null, "", rest)
    else if ['&', '*', '!', '|', '>', '%', '@', '\x60'].contains (plain.headD ' ') then none
    else some (ofPlain text, plainKey text, rest)

mutual

/-- A value in brackets, and what follows it. -/
def flowValue? : Nat → List Char → Option (Document × List Char)
  | 0, _ => none
  | fuel + 1, cs =>
    match skipFlow true cs with
    | '[' :: rest => flowItems? fuel [] rest
    | '\x7b' :: rest => flowEntries? fuel [] rest
    | cs => (flowScalar? cs).map fun r => (r.1, r.2.2)

/-- The rest of a list in brackets, given the items before in reverse. -/
def flowItems? : Nat → List Document → List Char → Option (Document × List Char)
  | 0, _, _ => none
  | fuel + 1, items, cs =>
    match skipFlow true cs with
    | [] => none
    | ']' :: rest => some (.list items.reverse, rest)
    | ',' :: _ => none
    | cs =>
      match flowItem? fuel cs with
      | none => none
      | some (item, rest) =>
        match skipFlow true rest with
        | ',' :: rest => flowItems? fuel (item :: items) rest
        | ']' :: rest => some (.list (item :: items).reverse, rest)
        | _ => none

/-- An item of a list in brackets: a value, or a single pair. -/
def flowItem? : Nat → List Char → Option (Document × List Char)
  | 0, _ => none
  | fuel + 1, cs =>
    match cs with
    | '[' :: _ | '\x7b' :: _ => flowValue? fuel cs
    | _ =>
      match flowScalar? cs with
      | none => none
      | some (d, key, rest) =>
        match skipFlow false rest with
        | ':' :: rest => (flowValue? fuel rest).map fun r => (.map [(key, r.1)], r.2)
        | _ => some (d, rest)

/-- The rest of a map in brackets, given the entries before in reverse. -/
def flowEntries? : Nat → List (String × Document) → List Char → Option (Document × List Char)
  | 0, _, _ => none
  | fuel + 1, entries, cs =>
    match skipFlow true cs with
    | [] => none
    | '\x7d' :: rest => some (.map entries.reverse, rest)
    | cs =>
      match flowScalar? cs with
      | none => none
      | some (_, key, rest) =>
        if entries.any fun e => e.1 = key then none
        else
          match skipFlow false rest with
          | ':' :: rest =>
            match flowValue? fuel rest with
            | none => none
            | some (d, rest) => flowAfter? fuel ((key, d) :: entries) rest
          | rest => if key = "" then none else flowAfter? fuel ((key, .null) :: entries) rest

/-- What follows an entry of a map in brackets. -/
def flowAfter? : Nat → List (String × Document) → List Char → Option (Document × List Char)
  | 0, _, _ => none
  | fuel + 1, entries, cs =>
    match skipFlow true cs with
    | ',' :: rest => flowEntries? fuel entries rest
    | '\x7d' :: rest => some (.map entries.reverse, rest)
    | _ => none

end

/-! ### Lines -/

/-- Lines without their ends. -/
abbrev Lines := List (List Char)

/-- The number of spaces at the start of a line. -/
def indentOf (line : List Char) : Nat := (line.takeWhile (· == ' ')).length

/-- Lines from the first one that holds something. -/
def skipIdle (lines : Lines) : Lines := lines.dropWhile isIdle

/-- Whether text begins an item of a list. -/
def beginsItem : List Char → Bool
  | ['-'] => true
  | '-' :: c :: _ => isSpace c
  | _ => false

/-- The place of a colon that ends a key without quotes. -/
def keyEnd? (afterSpace : Bool) : List Char → Option (List Char × List Char)
  | [] => none
  | ':' :: rest =>
    if rest.head?.all isSpace then some ([], rest)
    else (keyEnd? false rest).map fun r => (':' :: r.1, r.2)
  | c :: rest =>
    if c = '#' && afterSpace then none
    else (keyEnd? (isSpace c) rest).map fun r => (c :: r.1, r.2)

/-- The key at the start of a text, and what follows its colon. -/
def splitKey? (cs : List Char) : Option (String × List Char) :=
  match cs with
  | '"' :: _ | '\'' :: _ =>
    match quoted? cs with
    | none => none
    | some (key, rest) =>
      match rest.dropWhile isSpace with
      | ':' :: rest => if rest.head?.all isSpace then some (key, rest) else none
      | _ => none
  | '[' :: _ | '\x7b' :: _ | '\t' :: _ => none
  | _ =>
    match keyEnd? true cs with
    | none => none
    | some (key, rest) =>
      let text := String.ofList (trimEnd key)
      if text = "" then none else some (plainKey text, rest)

/-- The lines that go on below an indentation, without comments among them. -/
def continuation (indent : Nat) : Lines → Lines × Lines
  | [] => ([], [])
  | line :: rest =>
    if line.all isSpace then
      let (more, after) := continuation indent rest
      if more.isEmpty then ([], line :: rest) else (line :: more, after)
    else if indentOf line < indent || isIdle line then ([], line :: rest)
    else
      let (more, after) := continuation indent rest
      (line :: more, after)

/-- Lines of a scalar as one text: a space for one line end, one line end less for
several. -/
def foldLines : List Char → Lines → List Char
  | text, [] => text
  | text, line :: rest =>
    let words := trimEnd (line.dropWhile isSpace)
    if words.isEmpty then foldLines (text ++ ['\n']) rest
    else
      let gap := if text.getLast? == some '\n' || text.isEmpty then [] else [' ']
      foldLines (text ++ gap ++ words) rest

/-- A scalar without quotes that begins with a text and goes on in lines with at
least an indentation, and the lines behind it. -/
def plainScalar? (indent : Nat) (text : List Char) (rest : Lines) : Option (Document × Lines) :=
  let body := trimEnd (dropComment true text)
  let (more, after) := if body.length < (trimEnd text).length then ([], rest)
    else continuation indent rest
  if ['&', '*', '!', '%', '@', '\x60', ']', '\x7d', ','].contains (body.headD ' ') || beginsItem body
  then none
  else if (keyEnd? true body).isSome || more.any fun l => (keyEnd? true l).isSome then none
  else
    some (ofPlain (String.ofList (foldLines body (more.map (dropComment true)))), after)

/-! ### Block scalars -/

/-- What happens to the line ends at the end of a block scalar. -/
inductive Chomp where
  | clip | strip | keep
deriving Repr, DecidableEq, Inhabited

/-- The header of a block scalar: its indentation, if told, and its end. -/
def blockHeader? : List Char → Option (Option Nat) → Chomp → Option (Option Nat × Chomp)
  | [], indent, chomp => some (indent.getD none, chomp)
  | c :: rest, indent, chomp =>
    if c = '-' then blockHeader? rest indent .strip
    else if c = '+' then blockHeader? rest indent .keep
    else if '1' ≤ c && c ≤ '9' then blockHeader? rest (some (some (c.toNat - 48))) chomp
    else if isSpace c && isIdle rest then some (indent.getD none, chomp)
    else none

/-- The lines of a block scalar with an indentation, and the lines behind it. -/
def blockLines (indent : Nat) : Lines → Lines × Lines
  | [] => ([], [])
  | line :: rest =>
    if line.all (· == ' ') || indent ≤ indentOf line then
      let (more, after) := blockLines indent rest
      (line.drop indent :: more, after)
    else ([], line :: rest)

/-- Lines of a folded scalar: single line ends become spaces, except around lines
that begin with a space. -/
def foldBlock : Lines → List Char
  | [] => []
  | [line] => line
  | line :: next :: rest =>
    let more := foldBlock (next :: rest)
    if line.isEmpty then '\n' :: more
    else if next.isEmpty then line ++ more
    else if isSpace (line.headD 'x') || isSpace (next.headD 'x') then line ++ '\n' :: more
    else line ++ ' ' :: more

/-- A block scalar behind its header, and the lines behind it. -/
def blockScalar? (folded : Bool) (parent : Option Nat) (header : List Char) (rest : Lines) :
    Option (Document × Lines) :=
  match blockHeader? header none .clip with
  | none => none
  | some (told, chomp) =>
    let above := match parent with
      | none => 0
      | some n => n + 1
    let first := (rest.dropWhile fun l => l.all (· == ' ')).headD []
    let indent := match told with
      | some n => (parent.getD 0) + n
      | none => max above (indentOf first)
    let (body, after) := blockLines indent rest
    let content := (body.reverse.dropWhile List.isEmpty).reverse
    let text := if folded then foldBlock content else joinWith '\n' content
    let ends := match chomp with
      | .strip => []
      | .clip => if content.isEmpty then [] else ['\n']
      | .keep => List.replicate (body.length - content.length + (if content.isEmpty then 0 else 1)) '\n'
    some (.text (String.ofList (text ++ ends)), after)

/-! ### Blocks -/

/-- Text over the rest of a line and the lines below it. -/
def textOver (text : List Char) (rest : Lines) : List Char := joinWith '\n' (text :: rest)

/-- The lines behind a value that ends in the middle of a line. -/
def linesBehind? (cs : List Char) : Option Lines :=
  match splitOnChar '\n' cs with
  | [] => some []
  | line :: rest => if isIdle line then some rest else none

/-- A value that begins on a line behind a key or a dash; `parent` is the
indentation of that line. -/
def inlineValue? (parent : Option Nat) (text : List Char) (rest : Lines) :
    Option (Document × Lines) :=
  match text with
  | '|' :: header => blockScalar? false parent header rest
  | '>' :: header => blockScalar? true parent header rest
  | '"' :: _ | '\'' :: _ =>
    match quoted? (textOver text rest) with
    | none => none
    | some (s, after) => (linesBehind? after).map fun lines => (.text s, lines)
  | '[' :: _ | '\x7b' :: _ =>
    let all := textOver text rest
    match flowValue? (2 * all.length + 2) all with
    | none => none
    | some (d, after) => (linesBehind? after).map fun lines => (d, lines)
  | _ => plainScalar? (match parent with | none => 0 | some n => n + 1) text rest

mutual

/-- The value on lines with at least an indentation, and the lines behind it. -/
def block? : Nat → Nat → Lines → Option (Document × Lines)
  | 0, _, _ => none
  | fuel + 1, least, lines =>
    match skipIdle lines with
    | [] => some (.null, [])
    | line :: rest =>
      let indent := indentOf line
      let text := line.drop indent
      if indent < least then some (.null, line :: rest)
      else if text.head? == some '\t' then none
      else if beginsItem text then items? fuel indent [] (line :: rest)
      else if (splitKey? text).isSome then entries? fuel indent [] (line :: rest)
      else inlineValue? (if least = 0 then none else some (least - 1)) text rest

/-- The items of a list at an indentation, given those before in reverse. -/
def items? : Nat → Nat → List Document → Lines → Option (Document × Lines)
  | 0, _, _, _ => none
  | fuel + 1, indent, items, lines =>
    match skipIdle lines with
    | [] => some (.list items.reverse, [])
    | line :: rest =>
      let text := line.drop (indentOf line)
      if indent < indentOf line then none
      else if indentOf line < indent || !beginsItem text then
        some (.list items.reverse, line :: rest)
      else
        let inner := List.replicate (indent + 1) ' ' ++ text.drop 1
        match block? fuel (indent + 1) (inner :: rest) with
        | none => none
        | some (d, after) => items? fuel indent (d :: items) after

/-- The entries of a map at an indentation, given those before in reverse. -/
def entries? : Nat → Nat → List (String × Document) → Lines → Option (Document × Lines)
  | 0, _, _, _ => none
  | fuel + 1, indent, entries, lines =>
    match skipIdle lines with
    | [] => some (.map entries.reverse, [])
    | line :: rest =>
      if indentOf line < indent then some (.map entries.reverse, line :: rest)
      else if indent < indentOf line then none
      else
        match splitKey? (line.drop indent) with
        | none => none
        | some (key, text) =>
          if entries.any fun e => e.1 = key then none
          else
            match entryValue? fuel indent (text.dropWhile isSpace) rest with
            | none => none
            | some (d, after) => entries? fuel indent ((key, d) :: entries) after

/-- The value of a key at an indentation: behind the colon, or on the lines below. A
list may stand below its key without more indentation. -/
def entryValue? : Nat → Nat → List Char → Lines → Option (Document × Lines)
  | 0, _, _, _ => none
  | fuel + 1, indent, text, rest =>
    if isIdle text then
      match skipIdle rest with
      | [] => some (.null, [])
      | line :: more =>
        if indentOf line = indent && beginsItem (line.drop indent) then
          items? fuel indent [] (line :: more)
        else block? fuel (indent + 1) (line :: more)
    else inlineValue? (some indent) text rest

end

/-! ### Documents -/

/-- Whether a line begins with a mark that stands alone. -/
def beginsWithMark (mark : List Char) (line : List Char) : Bool :=
  mark.isPrefixOf line && (line.drop mark.length).head?.all isSpace

/-- The lines of the first document. -/
def firstDocument (lines : Lines) : Lines :=
  let start := lines.dropWhile fun l => isIdle l || l.head? == some '%'
  let body := match start with
    | line :: rest =>
      if beginsWithMark ['-', '-', '-'] line then
        (List.replicate 3 ' ' ++ line.drop 3) :: rest
      else lines
    | [] => []
  body.takeWhile fun l => !beginsWithMark ['-', '-', '-'] l && !beginsWithMark ['.', '.', '.'] l

/-- The document of a text. A text without one is null. -/
def read? (source : String) : Option Document :=
  let lines := (splitOnChar '\n' source.toList).map fun l =>
    if l.getLast? == some '\r' then l.dropLast else l
  let body := firstDocument lines
  let fuel := 4 * source.length + 4 * lines.length + 16
  match block? fuel 0 body with
  | none => none
  | some (d, after) => if (skipIdle after).isEmpty then some d else none

end TagScript.Yaml
