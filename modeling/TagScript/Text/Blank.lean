/-!
# `TagScript.Text.Blank`: white space and trimming

Template text, configuration and command-line values are all trimmed by one
rule: the white space of the Unicode standard (its `White_Space` property, which
includes the no-break space and the line and paragraph separators).

* `trimBlank`: text without the blank characters at its two ends.
-/

set_option autoImplicit false

namespace TagScript.Text

/-- The white space of the Unicode standard. -/
def isBlank (c : Char) : Bool :=
  let n := c.toNat
  (0x09 ≤ n && n ≤ 0x0d) || n == 0x20 || n == 0x85 || n == 0xa0 || n == 0x1680 ||
  (0x2000 ≤ n && n ≤ 0x200a) || n == 0x2028 || n == 0x2029 || n == 0x202f ||
  n == 0x205f || n == 0x3000

/-- The characters that remain when blanks are dropped from both ends. -/
def trimBlankChars (cs : List Char) : List Char :=
  ((cs.dropWhile isBlank).reverse.dropWhile isBlank).reverse

/-- Text without the blank characters at its two ends. -/
def trimBlank (s : String) : String :=
  String.ofList (trimBlankChars s.toList)

/-- Text that holds nothing but blank characters, or nothing at all. -/
def allBlank (s : String) : Bool :=
  s.toList.all isBlank

end TagScript.Text
