/-!
# `TagScript.Text.Lines`: text as pieces between separators

* `splitOnChar`: the pieces between the occurrences of a character.
* `splitOnText`: the pieces between the occurrences of a text.
* `fieldsBy`: the non-empty pieces between characters of a class.
-/

set_option autoImplicit false

namespace TagScript.Text

/-- Put a character in front of the first piece. -/
def consFirst (c : Char) : List (List Char) → List (List Char)
  | [] => [[c]]
  | piece :: rest => (c :: piece) :: rest

/-- The pieces between the occurrences of a separator; there is always one more
of them than there are separators. -/
def splitOnChar (separator : Char) : List Char → List (List Char)
  | [] => [[]]
  | c :: rest =>
    if c = separator then [] :: splitOnChar separator rest
    else consFirst c (splitOnChar separator rest)

/-- Pieces with a separator between each two of them. -/
def joinWith (separator : Char) : List (List Char) → List Char
  | [] => []
  | [piece] => piece
  | piece :: rest => piece ++ separator :: joinWith separator rest

/-- The lines of a text, without their ends. -/
def lines (s : String) : List String :=
  (splitOnChar '\n' s.toList).map String.ofList

/-- The pieces between the occurrences of a text that is not empty, which are found from left to
right; the first `skip` characters belong to one that was found already. -/
def splitOnChars (separator : List Char) : Nat → List Char → List (List Char)
  | _, [] => [[]]
  | skip + 1, _ :: rest => splitOnChars separator skip rest
  | 0, c :: rest =>
    if separator.isPrefixOf (c :: rest) then
      [] :: splitOnChars separator (separator.length - 1) rest
    else consFirst c (splitOnChars separator 0 rest)

/-- The pieces between the occurrences of a text that is not empty. -/
def splitOnText (separator s : String) : List String :=
  (splitOnChars separator.toList 0 s.toList).map String.ofList

/-- The non-empty pieces between characters of a class. -/
def fieldsBy (isSeparator : Char → Bool) : List Char → List (List Char)
  | [] => []
  | c :: rest =>
    if isSeparator c then fieldsBy isSeparator rest
    else
      match rest with
      | [] => [[c]]
      | d :: _ =>
        if isSeparator d then [c] :: fieldsBy isSeparator rest
        else consFirst c (fieldsBy isSeparator rest)

/-- There is always a first piece. -/
theorem splitOnChar_ne_nil (separator : Char) (cs : List Char) : splitOnChar separator cs ≠ [] := by
  cases cs with
  | nil => simp [splitOnChar]
  | cons c rest =>
    by_cases h : c = separator
    · simp [splitOnChar, h]
    · cases hr : splitOnChar separator rest <;> simp [splitOnChar, h, hr, consFirst]

end TagScript.Text
