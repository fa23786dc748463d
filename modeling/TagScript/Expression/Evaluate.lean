import TagScript.Expression.Kind
import TagScript.Decimal.Power
import TagScript.Scope.Table
import TagScript.Text.Case

/-!
# `TagScript.Expression.Evaluate`: the value of an expression

Whole numbers have 64 bits and wrap around; a whole number meeting a fractional
one becomes fractional, and a quotient or a power always is. An expression that
cannot be computed has no value.

* `Expression.value?`: the value of an expression.
* `Expression.compute?`: the value of a text, checked first.
-/

set_option autoImplicit false

namespace TagScript.Expression

open Decimal Text

/-- A whole number within 64 bits. -/
def wrap (n : Int) : Value :=
  .integer .int (n.bmod (Nat.pow 2 64))

/-- The elements of a list. -/
def elements? : Value → Option (List Value)
  | .array _ items => some items
  | .integers _ items => some (items.map (.integer .int))
  | .texts _ items => some (items.map .text)
  | .numbers _ items => some (items.map .number)
  | _ => none

/-- An operation on numbers: one for whole numbers, one for others. -/
def arithmetic? (whole : Int → Int → Int) (real : Float → Float → Float) (a b : Value) :
    Option Value :=
  match a, b with
  | .integer _ m, .integer _ n => some (wrap (whole m n))
  | _, _ => a.numeric?.bind fun x => b.numeric?.map fun y => .number (real x y)

/-- The order of two numbers or two texts, by a test for each. -/
def compare? (whole : Int → Int → Bool) (real : Float → Float → Bool)
    (text : String → String → Bool) (a b : Value) : Option Value :=
  match a, b with
  | .integer _ m, .integer _ n => some (.bool (whole m n))
  | .text s, .text t => some (.bool (text s t))
  | _, _ => a.numeric?.bind fun x => b.numeric?.map fun y => .bool (real x y)

mutual

/-- Whether two values are the same in kind and content. -/
def identical : Value → Value → Bool
  | .null, .null => true
  | .bool a, .bool b => a == b
  | .text a, .text b => a == b
  | .number a, .number b => a == b
  | .integer k a, .integer l b => k == l && a == b
  | .array _ as, .array _ bs => identicalAll as bs
  | .integers _ as, .integers _ bs => as == bs
  | .map _ as, .map _ bs => identicalEntries as bs
  | _, _ => false

/-- Whether the elements of two lists are the same. -/
def identicalAll : List Value → List Value → Bool
  | [], [] => true
  | a :: as, b :: bs => identical a b && identicalAll as bs
  | _, _ => false

/-- Whether the entries of two maps are the same. -/
def identicalEntries : List (String × Value) → List (String × Value) → Bool
  | [], [] => true
  | (k, a) :: as, (l, b) :: bs => k == l && identical a b && identicalEntries as bs
  | _, _ => false

end

mutual

/-- Whether two values are equal: numbers by what they stand for, lists element
by element, everything else by kind and content. -/
def equal : Value → Value → Bool
  | .array _ as, b =>
    match elements? b with
    | some bs => equalAll as bs
    | none => false
  | .integers _ as, b =>
    match b with
    | .array _ bs => wholeAll as bs
    | .integers _ bs => as == bs
    | _ => false
  | .integer _ m, .integer _ n => m == n
  | a, b =>
    match a.numeric?, b.numeric? with
    | some x, some y => x == y
    | _, _ => identical a b

/-- Whether the elements of two lists are equal. -/
def equalAll : List Value → List Value → Bool
  | [], [] => true
  | a :: as, b :: bs => equal a b && equalAll as bs
  | _, _ => false

/-- Whether whole numbers are equal to the elements of a list. -/
def wholeAll : List Int → List Value → Bool
  | [], [] => true
  | m :: ms, b :: bs => equalWhole m b && wholeAll ms bs
  | _, _ => false

/-- Whether a whole number is equal to a value. -/
def equalWhole (m : Int) : Value → Bool
  | .integer _ n => m == n
  | b => b.numeric?.any (Float.ofInt m == ·)

end

/-- The most elements that a range computed from variables may have. -/
def rangeBudget : Int := 1000000

/-- The whole number that a number stands for, without its fraction. -/
def whole? : Value → Option Int
  | .integer _ n => some n
  | .number x => if x.isNaN || x.isInf then none else some (truncated x)
  | _ => none
where
  truncated (x : Float) : Int :=
    if x < 0 then -((-x).floor.toUInt64.toNat : Int) else (x.floor.toUInt64.toNat : Int)

/-- The whole numbers from one to another. -/
def range? (constant : Bool) (a b : Value) : Option Value :=
  (whole? a).bind fun low => (whole? b).bind fun high =>
    let size := high - low + 1
    if size ≤ 0 then some (.integers 0 [])
    else if rangeBudget < size || (size == rangeBudget && !constant) then none
    else some (.integers 0 ((List.range size.toNat).map fun (i : Nat) => low + (i : Int)))

/-- Whether an expression is a whole number written out. -/
def isConstant : Expression → Bool
  | .integer _ => true
  | .sign .minus (.integer _) => true
  | _ => false

/-- Whether a text holds another. -/
def holds (s part : String) : Bool :=
  part == "" || 1 < (s.splitOn part).length

/-- A test of two texts; nothing holds nothing. -/
def textTest? (test : String → String → Bool) (a b : Value) : Option Value :=
  match a, b with
  | .text s, .text t => some (.bool (test s t))
  | .null, _ => some (.bool false)
  | _, .null => some (.bool false)
  | _, _ => none

/-- Whether a value is an element of a list or a key of a map. -/
def member? (needle source : Value) : Option Value :=
  match source, needle with
  | .null, _ => some (.bool false)
  | .map _ entries, .text key => some (.bool ((Table.find? entries key).isSome))
  | .map _ _, _ => none
  | source, needle => (elements? source).map fun items => .bool (items.any (equal · needle))

/-- An operator on the values of its operands. -/
def operate? (op : Infix) (constant : Bool) (a b : Value) : Option Value :=
  match op with
  | .or | .and | .coalesce => some b
  | .eq => some (.bool (equal a b))
  | .ne => some (.bool !(equal a b))
  | .lt => compare? (· < ·) (· < ·) (· < ·) a b
  | .gt => compare? (· > ·) (· > ·) (· > ·) a b
  | .ge => compare? (· ≥ ·) (· ≥ ·) (· ≥ ·) a b
  | .le => compare? (· ≤ ·) (· ≤ ·) (· ≤ ·) a b
  | .isIn => member? a b
  | .contains => textTest? holds a b
  | .startsWith => textTest? (fun s t => s.startsWith t) a b
  | .endsWith => textTest? (fun s t => s.endsWith t) a b
  | .range => range? constant a b
  | .add =>
    match a, b with
    | .text s, .text t => some (.text (s ++ t))
    | a, b => arithmetic? (· + ·) (· + ·) a b
  | .sub => arithmetic? (· - ·) (· - ·) a b
  | .mul => arithmetic? (· * ·) (· * ·) a b
  | .div => a.numeric?.bind fun x => b.numeric?.map fun y => .number (x / y)
  | .pow => a.numeric?.bind fun x => b.numeric?.map fun y => .number (power x y)
  | .rem =>
    match a, b with
    | .integer _ m, .integer _ n => if n = 0 then none else some (wrap (m.tmod n))
    | _, _ => none

/-- An operator on one value. -/
def applySign? (op : Sign) (a : Value) : Option Value :=
  match op, a with
  | .not, .bool b => some (.bool !b)
  | .minus, .integer _ n => some (wrap (-n))
  | .minus, .number x => some (.number (-x))
  | .plus, .integer k n => some (.integer k n)
  | .plus, .number x => some (.number x)
  | _, _ => none

/-- A member of a map, or an element of a list; a negative index counts from the
end. A map has nothing under a key it does not hold. -/
def get? (base key : Value) : Option Value :=
  match base, key with
  | .map _ entries, .text k => some ((Table.find? entries k).getD .null)
  | base, key =>
    (elements? base).bind fun items => (whole? key).bind fun i =>
      let i := if i < 0 then i + items.length else i
      if i < 0 then none else items[i.toNat]?

/-- A built-in function on the values of its arguments. -/
def invoke? (environment : String → String) (function : String) (args : List Value) : Option Value :=
  match function, args with
  | "env", [.text s] => some (.text (environment s))
  | "upper", [.text s] => some (.text (upper s))
  | "len", [.text s] => some (.integer .int s.length)
  | "len", [.map _ entries] => some (.integer .int entries.length)
  | "len", [v] => (elements? v).map fun items => .integer .int items.length
  | _, _ => none

/-- The elements for which a test holds. -/
def select? : List (Value × Value) → Option (List Value)
  | [] => some []
  | (item, .bool true) :: rest => (select? rest).map (item :: ·)
  | (_, .bool false) :: rest => select? rest
  | _ => none

/-- An iteration, given the elements and the values of its body for them. -/
def iterate? (iteration : Iteration) (items results : List Value) : Option Value :=
  match iteration with
  | .map => some (.array 0 results)
  | .filter => (select? (items.zip results)).map (.array 0)
  | .sum => results.foldlM (fun acc v => arithmetic? (· + ·) (· + ·) v acc) (.integer .int 0)

/-- A map of entries; of two with one key the first counts. -/
def record? : List (Value × Value) → Option (Table Value)
  | [] => some []
  | (.text key, v) :: rest => (record? rest).map (·.insert key v)
  | _ => none

mutual

/-- The value of an expression, given the variables, the environment and the
element at hand. The second operand of `and`, `or` and `??` and the branches of a
choice are computed only when they are needed. -/
def value? (vars : String → Option Value) (environment : String → String) (element : Value) :
    Expression → Option Value
  | .null => some .null
  | .bool b => some (.bool b)
  | .integer n => some (.integer .int n)
  | .real x => some (.number x)
  | .text s => some (.text s)
  | .name s => vars s
  | .element => some element
  | .sign op e => (value? vars environment element e).bind (applySign? op)
  | .binary op a b =>
    match op, value? vars environment element a with
    | _, none => none
    | .and, some (.bool false) => some (.bool false)
    | .and, some (.bool true) => value? vars environment element b
    | .and, some _ => none
    | .or, some (.bool true) => some (.bool true)
    | .or, some (.bool false) => value? vars environment element b
    | .or, some _ => none
    | .coalesce, some .null => value? vars environment element b
    | .coalesce, some v => some v
    | op, some v =>
      (value? vars environment element b).bind (operate? op (isConstant a && isConstant b) v)
  | .choice c a b =>
    match value? vars environment element c with
    | some (.bool true) => value? vars environment element a
    | some (.bool false) => value? vars environment element b
    | _ => none
  | .list items => (values? vars environment element items).map (.array 0)
  | .record entries =>
    ((entryValues? vars environment element entries).bind record?).map (.map 0)
  | .member base key =>
    (value? vars environment element base).bind fun v =>
      (value? vars environment element key).bind (get? v)
  | .call f args => (values? vars environment element args).bind (invoke? environment f)
  | .iterate iteration source body =>
    match (value? vars environment element source).bind elements? with
    | none => none
    | some items =>
      (items.mapM fun item => value? vars environment item body).bind (iterate? iteration items)

/-- The values of expressions. -/
def values? (vars : String → Option Value) (environment : String → String) (element : Value) :
    List Expression → Option (List Value)
  | [] => some []
  | e :: rest =>
    (value? vars environment element e).bind fun v =>
      (values? vars environment element rest).map (v :: ·)

/-- The keys and values of a record's entries. -/
def entryValues? (vars : String → Option Value) (environment : String → String) (element : Value) :
    List (Expression × Expression) → Option (List (Value × Value))
  | [] => some []
  | (key, e) :: rest =>
    (value? vars environment element key).bind fun k =>
      (value? vars environment element e).bind fun v =>
        (entryValues? vars environment element rest).map ((k, v) :: ·)

end

/-- The value of a text as an expression, given the variables so far. A function
is no value. -/
def compute? (vars : Table Value) (environment : String → String) (source : String) :
    Option Value :=
  (parse? source).bind fun e =>
    (e.kind? (fun s => (vars.find? s).map Kind.ofValue) .unknown).bind fun k =>
      if k == .function then none else e.value? vars.find? environment .null

end TagScript.Expression
