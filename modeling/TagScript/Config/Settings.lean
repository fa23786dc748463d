import TagScript.Document.Display
import TagScript.Document.Yaml.Reader
import TagScript.Scope.Table

/-!
# `TagScript.Config.Settings`: flags from a configuration file

A configuration file is a YAML mapping. Its leaves are settings, each named by
the keys on the way to it with hyphens between them, an underscore counting as a
hyphen. A leaf is a scalar or a list of scalars, and a scalar is kept as the text
that would be typed for it.

* `Settings.flatten`: the settings of a document.
* `Settings.load`: the settings of a text; one that is no mapping has none.
* `Settings.find?`: the setting for a flag.
-/

set_option autoImplicit false

namespace TagScript.Config

open Decimal

/-- A scalar of a configuration. -/
inductive Scalar where
  | null
  | bool (b : Bool)
  | text (s : String)
deriving Repr, DecidableEq, Inhabited

/-- A setting. -/
inductive Setting where
  | scalar (s : Scalar)
  | list (items : List Scalar)
deriving Repr, DecidableEq, Inhabited

/-- Settings by name. -/
abbrev Settings := Table Setting

/-- Settings write numbers positionally whatever their size. -/
def settingLayout : Layout where
  least := -400
  beyond := 400
  exponentWidth := 2
  signedZero := true
  wholeMark := ""
  nan := "NaN"
  infinity := "+Inf"
  negativeInfinity := "-Inf"

/-- A document as a scalar; what is none is shown in brackets. -/
def Scalar.ofDocument : Document → Scalar
  | .null => .null
  | .bool b => .bool b
  | .text s => .text s
  | .integer n => .text (toString n)
  | .number x => .text (settingLayout.write x)
  | .single x => .text (settingLayout.writeSingle x)
  | d => .text d.display

/-- A key with hyphens for underscores. -/
def hyphenated (key : String) : String :=
  String.ofList (key.toList.map fun c => if c = '_' then '-' else c)

/-- The name of a setting below another name. -/
def nameBelow (above key : String) : String :=
  if above = "" then hyphenated key else above ++ "-" ++ hyphenated key

namespace Settings

mutual

/-- Enter the leaves of a document under a name. -/
def flatten (name : String) : Document → Settings → Settings
  | .map entries, settings => flattenEntries name entries settings
  | .list items, settings => settings.insert name (.list (items.map Scalar.ofDocument))
  | d, settings => settings.insert name (.scalar (Scalar.ofDocument d))

/-- Enter the leaves of entries, the later ones in place of earlier ones of the same
name. -/
def flattenEntries (above : String) : List (String × Document) → Settings → Settings
  | [], settings => settings
  | (key, d) :: rest, settings =>
    flattenEntries above rest (flatten (nameBelow above key) d settings)

end

/-- The settings of a text, or nothing if it is no mapping. A text without a
document has no settings. -/
def load? (source : String) : Option Settings :=
  match Yaml.read? source with
  | some .null => some []
  | some (.map entries) => some (flattenEntries "" entries [])
  | _ => none

/-- The setting for a flag: by its name, else by its name with underscores. -/
def find? (settings : Settings) (flag : String) : Option Setting :=
  (Table.find? settings flag).orElse fun _ =>
    Table.find? settings
      (String.ofList (flag.toList.map fun c => if c = '-' then '_' else c))

end Settings

end TagScript.Config
