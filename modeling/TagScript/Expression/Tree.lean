import TagScript.Expression.Token

/-!
# `TagScript.Expression.Tree`: expressions

An expression computes a value from constants and variables. Operators bind by
precedence; a comparison may be chained. Inside the second argument of `map`,
`filter` and `sum` the element at hand is written `#`.

* `Expression.parse?`: the expression that words form.
-/

set_option autoImplicit false

namespace TagScript

/-- The operators between two operands. -/
inductive Infix where
  | or | and | eq | ne | lt | gt | ge | le | isIn | contains | startsWith | endsWith | range
  | add | sub | mul | div | rem | pow | coalesce
deriving Repr, DecidableEq, Inhabited

/-- The operators in front of one operand. -/
inductive Sign where
  | not | minus | plus
deriving Repr, DecidableEq, Inhabited

/-- The functions over the elements of a list. -/
inductive Iteration where
  | map | filter | sum
deriving Repr, DecidableEq, Inhabited

/-- An expression. -/
inductive Expression where
  | null
  | bool (b : Bool)
  | integer (n : Int)
  | real (x : Float)
  | text (s : String)
  | name (s : String)
  /-- The element at hand. -/
  | element
  | sign (op : Sign) (operand : Expression)
  | binary (op : Infix) (left right : Expression)
  | choice (condition first second : Expression)
  | list (items : List Expression)
  | record (entries : List (Expression × Expression))
  /-- A member of a map or an element of a list. -/
  | member (base key : Expression)
  | call (function : String) (args : List Expression)
  | iterate (iteration : Iteration) (source body : Expression)
deriving Inhabited

namespace Expression

/-- An infix operator with its precedence. -/
def infix? : String → Option (Infix × Nat)
  | "or" | "||" => some (.or, 10)
  | "and" | "&&" => some (.and, 15)
  | "==" => some (.eq, 20)
  | "!=" => some (.ne, 20)
  | "<" => some (.lt, 20)
  | ">" => some (.gt, 20)
  | ">=" => some (.ge, 20)
  | "<=" => some (.le, 20)
  | "in" => some (.isIn, 20)
  | "contains" => some (.contains, 20)
  | "startsWith" => some (.startsWith, 20)
  | "endsWith" => some (.endsWith, 20)
  | ".." => some (.range, 25)
  | "+" => some (.add, 30)
  | "-" => some (.sub, 30)
  | "*" => some (.mul, 60)
  | "/" => some (.div, 60)
  | "%" => some (.rem, 60)
  | "**" | "^" => some (.pow, 100)
  | "??" => some (.coalesce, 500)
  | _ => none

/-- An operator in front of an operand, with its precedence. -/
def sign? : String → Option (Sign × Nat)
  | "not" | "!" => some (.not, 50)
  | "-" => some (.minus, 90)
  | "+" => some (.plus, 90)
  | _ => none

/-- The comparisons that can be chained. -/
def isComparison : Infix → Bool
  | .lt | .gt | .ge | .le => true
  | _ => false

/-- The operators that `not` may stand in front of. -/
def isNegatable : Infix → Bool
  | .isIn | .contains | .startsWith | .endsWith => true
  | _ => false

/-- The functions over the elements of a list, by name. -/
def iteration? : String → Option Iteration
  | "map" => some .map
  | "filter" => some .filter
  | "sum" => some .sum
  | _ => none

open Decimal in
/-- The constant that a numeral stands for. -/
def ofNumeral? (source : List Char) : Option Expression :=
  match source with
  | '0' :: mark :: digits =>
    if ['x', 'X', 'o', 'O', 'b', 'B'].contains mark then do
      let base ← radixBase? mark
      let n ← radixDigits? base digits
      if n < Nat.pow 2 63 then some (.integer n) else none
    else decimal source
  | _ => decimal source
where
  decimal (source : List Char) : Option Expression :=
    if source.any fun c => c == '.' || c == 'e' || c == 'E' then do
      let n ← Numeral.parse? source
      if n.toFloat.isInf then none else some (.real n.toFloat)
    else if !source.isEmpty && source.all isDigit then
      let n := ofDigits 10 digitValue source
      if n < Nat.pow 2 63 then some (.integer n) else none
    else none

/-- The words behind an expected one. -/
def expect? (t : Token) : List Token → Option (List Token)
  | u :: rest => if t = u then some rest else none
  | [] => none

/-- The words behind an infix operator that binds at least as tightly as asked,
and whether it is negated. -/
def infixAt? (precedence : Nat) : List Token → Option (Infix × Nat × Bool × List Token)
  | .operator "not" :: .operator s :: rest => do
    let (op, p) ← infix? s
    if isNegatable op && precedence ≤ p then some (op, p, true, rest) else none
  | .operator s :: rest => do
    let (op, p) ← infix? s
    if precedence ≤ p then some (op, p, false, rest) else none
  | _ => none

mutual

/-- An expression of operators that bind at least as tightly as `precedence`. The
element at hand may be named when `inside` holds. Every reading consumes a word
within a fixed number of nested calls, which bounds the fuel. -/
def expression? : Nat → Bool → Nat → List Token → Option (Expression × List Token)
  | 0, _, _, _ => none
  | fuel + 1, inside, precedence, ts => do
    let (left, ts) ← primary? fuel inside ts
    let (e, ts) ← climb? fuel inside precedence left false ts
    if precedence = 0 then choices? fuel inside e ts else some (e, ts)

/-- Operators and their right operands behind a left operand. -/
def climb? : Nat → Bool → Nat → Expression → Bool → List Token → Option (Expression × List Token)
  | 0, _, _, _, _, _ => none
  | fuel + 1, inside, precedence, left, coalesced, ts =>
    match infixAt? precedence ts with
    | none => some (left, ts)
    | some (op, p, negated, ts) => do
      if coalesced && op != .coalesce then none
      else if isComparison op then
        let (e, ts) ← comparison? fuel inside p left op ts
        climb? fuel inside precedence e false ts
      else
        let (right, ts) ← expression? fuel inside (if op == .pow then p else p + 1) ts
        let e := Expression.binary op left right
        climb? fuel inside precedence (if negated then .sign .not e else e) (op == .coalesce) ts

/-- A chain of comparisons: each operand is compared with the next. -/
def comparison? : Nat → Bool → Nat → Expression → Infix → List Token →
    Option (Expression × List Token)
  | 0, _, _, _, _, _ => none
  | fuel + 1, inside, p, left, op, ts => do
    let (right, ts) ← expression? fuel inside (p + 1) ts
    let e := Expression.binary op left right
    match ts with
    | .operator s :: rest =>
      match infix? s with
      | some (next, _) =>
        if isComparison next then
          let (more, ts) ← comparison? fuel inside p right next rest
          some (.binary .and e more, ts)
        else some (e, ts)
      | none => some (e, ts)
    | ts => some (e, ts)

/-- The branches behind a condition. -/
def choices? : Nat → Bool → Expression → List Token → Option (Expression × List Token)
  | 0, _, _, _ => none
  | fuel + 1, inside, condition, ts =>
    match ts with
    | .operator "?" :: .operator ":" :: ts => do
      let (second, ts) ← expression? fuel inside 0 ts
      choices? fuel inside (.choice condition condition second) ts
    | .operator "?" :: ts => do
      let (first, ts) ← expression? fuel inside 0 ts
      let ts ← expect? (.operator ":") ts
      let (second, ts) ← expression? fuel inside 0 ts
      choices? fuel inside (.choice condition first second) ts
    | ts => some (condition, ts)

/-- An operand. -/
def primary? : Nat → Bool → List Token → Option (Expression × List Token)
  | 0, _, _ => none
  | fuel + 1, inside, ts =>
    match ts with
    | .bracket '(' :: ts => do
      let (e, ts) ← expression? fuel inside 0 ts
      let ts ← expect? (.bracket ')') ts
      members? fuel inside e ts
    | .bracket '[' :: ts => do
      let (items, ts) ← items? fuel inside ']' ts
      members? fuel inside (.list items) ts
    | .bracket '\x7b' :: ts => do
      let (entries, ts) ← entries? fuel inside ts
      members? fuel inside (.record entries) ts
    | .name "true" :: ts => some (.bool true, ts)
    | .name "false" :: ts => some (.bool false, ts)
    | .name "nil" :: ts => some (.null, ts)
    | .name f :: .bracket '(' :: ts => do
      let (e, ts) ← call? fuel inside f ts
      members? fuel inside e ts
    | .name s :: ts => members? fuel inside (.name s) ts
    | .number source :: ts => (ofNumeral? source).map (·, ts)
    | .text s :: ts => members? fuel inside (.text s) ts
    | .operator "#" :: ts => if inside then members? fuel inside .element ts else none
    | .operator "." :: _ => if inside then members? fuel inside .element ts else none
    | .operator s :: ts => do
      let (op, p) ← sign? s
      let (e, ts) ← expression? fuel inside p ts
      members? fuel inside (.sign op e) ts
    | _ => none

/-- Members behind an operand. -/
def members? : Nat → Bool → Expression → List Token → Option (Expression × List Token)
  | 0, _, _, _ => none
  | fuel + 1, inside, e, ts =>
    match ts with
    | .operator "." :: .name _ :: .bracket '(' :: _ => none
    | .operator "." :: .name s :: ts => members? fuel inside (.member e (.text s)) ts
    | .bracket '[' :: ts => do
      let (key, ts) ← expression? fuel inside 0 ts
      let ts ← expect? (.bracket ']') ts
      members? fuel inside (.member e key) ts
    | ts => some (e, ts)

/-- Expressions divided by commas, up to a closing bracket. A comma may stand
behind the last. -/
def items? : Nat → Bool → Char → List Token → Option (List Expression × List Token)
  | 0, _, _, _ => none
  | fuel + 1, inside, closing, ts =>
    if ts.head? == some (.bracket closing) then some ([], ts.tail)
    else do
      let (e, ts) ← expression? fuel inside 0 ts
      match ts with
      | .operator "," :: ts => (items? fuel inside closing ts).map fun (es, ts) => (e :: es, ts)
      | ts => do
        let ts ← expect? (.bracket closing) ts
        some ([e], ts)

/-- The entries of a record up to its closing brace. -/
def entries? : Nat → Bool → List Token → Option (List (Expression × Expression) × List Token)
  | 0, _, _ => none
  | fuel + 1, inside, ts =>
    if ts.head? == some (.bracket '\x7d') then some ([], ts.tail)
    else do
      let (key, ts) ← match ts with
        | .number source :: ts => some (Expression.text (String.ofList source), ts)
        | .text s :: ts => some (.text s, ts)
        | .name s :: ts => some (.text s, ts)
        | .bracket '(' :: _ => expression? fuel inside 0 ts
        | _ => none
      let ts ← expect? (.operator ":") ts
      let (e, ts) ← expression? fuel inside 0 ts
      match ts with
      | .operator "," :: ts => (entries? fuel inside ts).map fun (es, ts) => ((key, e) :: es, ts)
      | ts => do
        let ts ← expect? (.bracket '\x7d') ts
        some ([(key, e)], ts)

/-- The arguments of a call behind its opening bracket. -/
def call? : Nat → Bool → String → List Token → Option (Expression × List Token)
  | 0, _, _, _ => none
  | fuel + 1, inside, f, ts =>
    match iteration? f with
    | none => (items? fuel inside ')' ts).map fun (args, ts) => (.call f args, ts)
    | some iteration => do
      let (source, ts) ← expression? fuel inside 0 ts
      match iteration, ts with
      | .sum, .bracket ')' :: ts => some (.iterate .sum source .element, ts)
      | _, .operator "," :: .bracket '\x7b' :: ts => do
        let (body, ts) ← expression? fuel true 0 ts
        let ts ← expect? (.bracket '\x7d') ts
        let ts ← expect? (.bracket ')') (dropComma ts)
        some (.iterate iteration source body, ts)
      | _, .operator "," :: ts => do
        let (body, ts) ← expression? fuel true 0 ts
        let ts ← expect? (.bracket ')') (dropComma ts)
        some (.iterate iteration source body, ts)
      | _, _ => none
where
  dropComma : List Token → List Token
    | .operator "," :: ts => ts
    | ts => ts

end

/-- The expression that words form. -/
def ofTokens? (ts : List Token) : Option Expression :=
  match expression? (16 * (ts.length + 1)) false 0 ts with
  | some (e, []) => some e
  | _ => none

/-- The expression that a text holds. -/
def parse? (source : String) : Option Expression :=
  (Token.scan? source).bind ofTokens?

end Expression

end TagScript
