import TagScript.Text.Printable

/-!
# `TagScript.Text.Quoted`: text between double quotes

A quoted text stands between double quotes, on one line, with every character
that is not printable written as an escape: one of the seven one-letter escapes
for the common control characters, two hexadecimal digits for the other ASCII
controls, four or eight for the rest.

* `quote`: the quoted form.
* `hexPadded`: hexadecimal digits, filled up with zeros on the left.
-/

set_option autoImplicit false

namespace TagScript.Text

/-- One lower-case hexadecimal digit. -/
def hexDigit (n : Nat) : Char :=
  if n < 10 then Char.ofNat (0x30 + n) else Char.ofNat (0x61 + (n - 10))

/-- The last `width` hexadecimal digits of a number. -/
def hexPadded : Nat → Nat → List Char
  | 0, _ => []
  | width + 1, n => hexPadded width (n / 16) ++ [hexDigit (n % 16)]

/-- The characters that stand for one character inside a quoted text. -/
def quoteChar (c : Char) : List Char :=
  match c with
  | '"' => ['\\', '"']
  | '\\' => ['\\', '\\']
  | _ =>
    if isPrintable c then [c]
    else match c.toNat with
      | 0x07 => ['\\', 'a']
      | 0x08 => ['\\', 'b']
      | 0x0c => ['\\', 'f']
      | 0x0a => ['\\', 'n']
      | 0x0d => ['\\', 'r']
      | 0x09 => ['\\', 't']
      | 0x0b => ['\\', 'v']
      | n =>
        if n < 0x80 then '\\' :: 'x' :: hexPadded 2 n
        else if n < 0x10000 then '\\' :: 'u' :: hexPadded 4 n
        else '\\' :: 'U' :: hexPadded 8 n

/-- Text between double quotes, with escapes for what is not printable. -/
def quote (s : String) : String :=
  String.ofList ('"' :: s.toList.flatMap quoteChar ++ ['"'])

end TagScript.Text
