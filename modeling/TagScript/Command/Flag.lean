import TagScript.Config.Settings
import TagScript.Decimal.Integer
import TagScript.Files.Path
import TagScript.Log.Level
import TagScript.Text.Case

/-!
# `TagScript.Command.Flag`: flags and their values

A flag has a name, perhaps a letter, and a kind that tells how its value is read
from the command line or taken from a setting of the configuration.

* `FlagKind.ofText?`: a value that was typed.
* `FlagKind.ofSetting?`: a value from the configuration.
-/

set_option autoImplicit false

namespace TagScript.Command

open Config Decimal Text

/-- What a flag holds. -/
inductive FlagValue where
  | bool (b : Bool)
  | number (n : Int)
  | text (s : String)
  | texts (items : List String)
deriving Repr, DecidableEq, Inhabited

/-- How a flag's value is read. -/
inductive FlagKind where
  /-- On when given; a negatable one is off when given with `no-`. -/
  | switch (negatable : Bool)
  | number
  | text
  /-- One of several words. -/
  | choice (allowed : List String)
  /-- Texts, one for each time the flag is given. -/
  | texts
  /-- Paths, one for each time the flag is given. -/
  | paths
deriving Repr, DecidableEq, Inhabited

/-- A flag, and its value unless another is given. -/
structure Flag where
  name : String
  letter : Option Char
  kind : FlagKind
  initial : FlagValue
deriving Repr, DecidableEq, Inhabited

/-- Where a path from the command line begins. -/
structure Places where
  workingDirectory : String
  home : String
deriving Repr, DecidableEq, Inhabited

/-- A path that was typed, from the root. A dash stands for itself, and a tilde for
the home directory. -/
def Places.expand (places : Places) (path : String) : String :=
  if path = "-" then path
  else
    match path.toList with
    | '~' :: '/' :: rest => Files.join places.home (String.ofList rest)
    | _ => Files.absolute places.workingDirectory path

/-- The words for on and off, in any case. -/
def switchWord? (s : String) : Option Bool :=
  match lower s with
  | "true" | "1" | "yes" => some true
  | "false" | "0" | "no" => some false
  | _ => none

namespace FlagKind

/-- Whether a flag can be given without a value. -/
def isSwitch : FlagKind → Bool
  | .switch _ => true
  | _ => false

/-- Whether a flag can be given with `no-`. -/
def isNegatable : FlagKind → Bool
  | .switch negatable => negatable
  | _ => false

/-- The value that a text stands for. -/
def ofText? (places : Places) (s : String) : FlagKind → Option FlagValue
  | .switch _ => (switchWord? s).map .bool
  | .number => (parseInteger? s).map .number
  | .text | .choice _ => some (.text s)
  | .texts => some (.texts [s])
  | .paths => some (.texts [places.expand s])

/-- The texts of a list in the configuration; null stands for an empty one. -/
def textsOf? (items : List Scalar) : Option (List String) :=
  items.mapM fun item =>
    match item with
    | .null => some ""
    | .text s => some s
    | .bool _ => none

/-- The value that a setting stands for. The paths of a list are taken as they
are. -/
def ofSetting? (places : Places) (kind : FlagKind) : Setting → Option FlagValue
  | .scalar .null => none
  | .scalar (.bool b) => if kind.isSwitch then some (.bool b) else none
  | .scalar (.text s) => kind.ofText? places s
  | .list items =>
    match kind with
    | .texts | .paths => (textsOf? items).map .texts
    | _ => none

/-- Whether a value is one of those allowed. -/
def allows : FlagKind → FlagValue → Bool
  | .choice allowed, .text s => allowed.contains s
  | _, _ => true

end FlagKind

/-- A value with another one added: texts add up, else the later one counts. -/
def FlagValue.add : FlagValue → FlagValue → FlagValue
  | .texts a, .texts b => .texts (a ++ b)
  | _, b => b

end TagScript.Command
