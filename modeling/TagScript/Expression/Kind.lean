import TagScript.Expression.Tree
import TagScript.Value.Basic

/-!
# `TagScript.Expression.Kind`: what kind of value an expression has

An expression is refused before it is computed when its operands are of the wrong
kinds, also in a part that would not be computed. The kind of a member of a map
is not known in advance, and what is not known is not refused.

* `Expression.kind?`: the kind of an expression, if it is not refused.
-/

set_option autoImplicit false

namespace TagScript

/-- What is known of a value in advance. -/
inductive Kind where
  | unknown | null | bool | int | float | text
  | list (element : Kind)
  | map
  | function
deriving Repr, DecidableEq, Inhabited

namespace Kind

/-- The kind of a value. -/
def ofValue : Value → Kind
  | .null => .null
  | .bool _ => .bool
  | .text _ => .text
  | .number _ => .float
  | .single _ => .float
  | .integer _ _ => .int
  | .array _ _ => .list .unknown
  | .texts _ _ => .list .text
  | .integers _ _ => .list .int
  | .numbers _ _ => .list .float
  | .map _ _ => .map
  | .record _ _ _ => .unknown

/-- Whether two kinds have the same form. -/
def alike : Kind → Kind → Bool
  | .list _, .list _ => true
  | a, b => a == b

/-- A number. -/
def isNumber : Kind → Bool
  | .int | .float => true
  | _ => false

/-- Whether both kinds satisfy a test or are not known. -/
def both (test : Kind → Bool) (a b : Kind) : Bool :=
  (a == .unknown || test a) && (b == .unknown || test b)

/-- Whether values of two kinds can be compared for equality. -/
def comparable (a b : Kind) : Bool :=
  a == .unknown || b == .unknown || a == .null || b == .null || (a.isNumber && b.isNumber) ||
    a.alike b

/-- The kind of a sum, a difference or a product. -/
def ofArithmetic (a b : Kind) : Kind :=
  if a == .unknown || b == .unknown then .unknown
  else if a == .int && b == .int then .int
  else .float

/-- The kind of a value that is one of two. -/
def join (a b : Kind) : Kind :=
  if a == .null then b else if b == .null then a else if a.alike b then a else .unknown

/-- The kind of an operator's result, if the operands are of kinds it takes. -/
def ofInfix (op : Infix) (a b : Kind) : Option Kind :=
  match op with
  | .or | .and =>
    if both (· == .bool) a b then
      some (if a == .unknown || b == .unknown then .unknown else .bool)
    else none
  | .eq | .ne => if comparable a b then some .bool else none
  | .lt | .gt | .ge | .le =>
    if both isNumber a b || both (· == .text) a b then some .bool else none
  | .isIn =>
    match b with
    | .map => if a == .unknown || a == .text then some .bool else none
    | .list element => if comparable a element then some .bool else none
    | .unknown => some .bool
    | .text => if a == .unknown then some .bool else none
    | _ => none
  | .contains | .startsWith | .endsWith => if both (· == .text) a b then some .bool else none
  | .range => if both (· == .int) a b then some (.list .int) else none
  | .add =>
    if both isNumber a b then some (ofArithmetic a b)
    else if both (· == .text) a b then
      some (if a == .unknown || b == .unknown then .unknown else .text)
    else none
  | .sub | .mul => if both isNumber a b then some (ofArithmetic a b) else none
  | .div | .pow => if both isNumber a b then some .float else none
  | .rem => if both (· == .int) a b then some .int else none
  | .coalesce => some (join a b)

/-- The kind of a signed operand. -/
def ofSign (op : Sign) (a : Kind) : Option Kind :=
  match op with
  | .not => if a == .unknown || a == .bool then some .bool else none
  | .minus | .plus => if a == .unknown || a.isNumber then some a else none

/-- The kind of a member. -/
def ofMember (base key : Kind) : Option Kind :=
  match base with
  | .unknown => some .unknown
  | .map => if key == .unknown || key == .text then some .unknown else none
  | .list element => if key == .unknown || key == .int then some element else none
  | _ => none

/-- The kind of a call's result. -/
def ofCall (function : String) (args : List Kind) : Option Kind :=
  match function, args with
  | "env", [a] => if a == .unknown || a == .text then some .text else none
  | "upper", [a] => if a == .unknown || a == .text then some .text else none
  | "len", [a] =>
    match a with
    | .unknown | .text | .map | .list _ => some .int
    | _ => none
  | _, _ => none

/-- The kind of the elements of a list. -/
def element? : Kind → Option Kind
  | .unknown => some .unknown
  | .list element => some element
  | _ => none

/-- The kind of an iteration's result. -/
def ofIteration (iteration : Iteration) (element body : Kind) : Option Kind :=
  match iteration with
  | .map => some (.list body)
  | .filter => if body == .unknown || body == .bool then some (.list element) else none
  | .sum => some body

end Kind

namespace Expression

/-- Whether a name is that of a built-in function. -/
def isBuiltin (name : String) : Bool :=
  ["len", "upper", "map", "filter", "sum"].contains name

/-- The kind of a list of elements of the given kinds. -/
def listKind : List Kind → Kind
  | [] => .list .unknown
  | k :: rest => .list (if rest.all k.alike then k else .unknown)

mutual

/-- The kind of an expression, given those of the variables and of the element at
hand. A variable hides a built-in function of the same name. -/
def kind? (vars : String → Option Kind) (element : Kind) : Expression → Option Kind
  | .null => some .null
  | .bool _ => some .bool
  | .integer _ => some .int
  | .real _ => some .float
  | .text _ => some .text
  | .name "env" => some .function
  | .name s => vars s
  | .element => some element
  | .sign op e => (kind? vars element e).bind (Kind.ofSign op)
  | .binary op a b =>
    (kind? vars element a).bind fun ka => (kind? vars element b).bind (Kind.ofInfix op ka)
  | .choice c a b =>
    (kind? vars element c).bind fun kc =>
      if kc == .unknown || kc == .bool then
        (kind? vars element a).bind fun ka => (kind? vars element b).map ka.join
      else none
  | .list items => (kinds? vars element items).map listKind
  | .record entries => (entryKinds? vars element entries).map fun _ => .map
  | .member base key =>
    (kind? vars element base).bind fun kb => (kind? vars element key).bind (Kind.ofMember kb)
  | .call f args =>
    if isBuiltin f && (vars f).isSome then none
    else (kinds? vars element args).bind (Kind.ofCall f)
  | .iterate iteration source body =>
    match (kind? vars element source).bind Kind.element? with
    | none => none
    | some inner => (kind? vars inner body).bind (Kind.ofIteration iteration inner)

/-- The kinds of expressions. -/
def kinds? (vars : String → Option Kind) (element : Kind) : List Expression → Option (List Kind)
  | [] => some []
  | e :: rest =>
    (kind? vars element e).bind fun k => (kinds? vars element rest).map (k :: ·)

/-- Whether the entries of a record are not refused. -/
def entryKinds? (vars : String → Option Kind) (element : Kind) :
    List (Expression × Expression) → Option Unit
  | [] => some ()
  | (key, e) :: rest =>
    (kind? vars element key).bind fun _ =>
      (kind? vars element e).bind fun _ => entryKinds? vars element rest

end

end Expression

end TagScript
