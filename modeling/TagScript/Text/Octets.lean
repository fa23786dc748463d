/-!
# `TagScript.Text.Octets`: text as bytes, and back

Some positions in text are counted in bytes of its UTF-8 form, and a cut at such
a position can fall inside a character. Reading bytes back therefore never
fails: a byte that does not belong to a well-formed character becomes the
replacement character.

* `octets`: the UTF-8 form of a text.
* `decode`: the characters of any bytes.
-/

set_option autoImplicit false

namespace TagScript.Text

/-- What a byte that belongs to no character is read as. -/
def replacement : Char := Char.ofNat 0xfffd

/-- The UTF-8 form of characters. -/
def encode (cs : List Char) : List UInt8 :=
  cs.flatMap String.utf8EncodeChar

/-- The UTF-8 form of a text. -/
def octets (s : String) : List UInt8 :=
  encode s.toList

/-- The six payload bits of a byte that continues a character. -/
def continuation? (b : UInt8) : Option Nat :=
  if 0x80 ≤ b.toNat && b.toNat < 0xc0 then some (b.toNat - 0x80) else none

/-- The character of a code point that takes `size` bytes and no fewer. -/
def wellFormed? (code least : Nat) : Option Char :=
  if least ≤ code && code.isValidChar then some (Char.ofNat code) else none

/-- The well-formed character at the start of bytes, and how many bytes more than
one it has. -/
def leading? (first : UInt8) (rest : List UInt8) : Option (Char × Nat) :=
  let n := first.toNat
  if n < 0x80 then some (Char.ofNat n, 0)
  else if n < 0xc0 then none
  else if n < 0xe0 then
    match rest with
    | b :: _ => do
      let b ← continuation? b
      return (← wellFormed? ((n - 0xc0) * 64 + b) 0x80, 1)
    | _ => none
  else if n < 0xf0 then
    match rest with
    | b :: c :: _ => do
      let b ← continuation? b
      let c ← continuation? c
      return (← wellFormed? (((n - 0xe0) * 64 + b) * 64 + c) 0x800, 2)
    | _ => none
  else if n < 0xf8 then
    match rest with
    | b :: c :: d :: _ => do
      let b ← continuation? b
      let c ← continuation? c
      let d ← continuation? d
      return (← wellFormed? ((((n - 0xf0) * 64 + b) * 64 + c) * 64 + d) 0x10000, 3)
    | _ => none
  else none

/-- The characters of bytes, of which the first `skip` belong to a character that
was read already. -/
def decodeFrom : Nat → List UInt8 → List Char
  | _, [] => []
  | skip + 1, _ :: rest => decodeFrom skip rest
  | 0, b :: rest =>
    match leading? b rest with
    | some (c, more) => c :: decodeFrom more rest
    | none => replacement :: decodeFrom 0 rest

/-- The characters of bytes. -/
def decode (bytes : List UInt8) : List Char :=
  decodeFrom 0 bytes

/-- The text of bytes. -/
def ofOctets (bytes : List UInt8) : String :=
  String.ofList (decode bytes)

/-- Whether a byte is the whole of the given ASCII character. -/
def isOctet (c : Char) (b : UInt8) : Bool :=
  b.toNat == c.toNat

end TagScript.Text
