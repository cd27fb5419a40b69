/-!
# Reading UTF-8

Bytes that need not be well-formed UTF-8. Each maximal start of a character that does not go on as
one is read as the replacement character.

## Main definitions

* `Text.decodeUtf8?` — the string of well-formed bytes.
* `Text.decodeUtf8Lossy` — the string of any bytes.
-/

namespace ModelSchema.Text

/-- The string whose UTF-8 form the bytes are. -/
def decodeUtf8? (bytes : ByteArray) : Option String := String.fromUTF8? bytes

/-- Length of the character that a byte starts, and the range its second byte must lie in. -/
def leadByte (b : UInt8) : Option (Nat × UInt8 × UInt8) :=
  if b < 0x80 then some (1, 0x80, 0xBF)
  else if b < 0xC2 then none
  else if b < 0xE0 then some (2, 0x80, 0xBF)
  else if b = 0xE0 then some (3, 0xA0, 0xBF)
  else if b = 0xED then some (3, 0x80, 0x9F)
  else if b < 0xF0 then some (3, 0x80, 0xBF)
  else if b = 0xF0 then some (4, 0x90, 0xBF)
  else if b < 0xF4 then some (4, 0x80, 0xBF)
  else if b = 0xF4 then some (4, 0x80, 0x8F)
  else none

/-- How many of the bytes go on with a character of which `want` bytes are missing; the first of
them must lie between `low` and `high`. -/
def continuation (want : Nat) (low high : UInt8) : List UInt8 → Nat
  | [] => 0
  | b :: bs =>
    match want with
    | 0 => 0
    | want + 1 => if low ≤ b ∧ b ≤ high then continuation want 0x80 0xBF bs + 1 else 0

/-- The code point of a lead byte of a character of `length` bytes and its continuation. -/
def codePoint (length : Nat) (lead : UInt8) (rest : List UInt8) : Nat :=
  let first := if length = 1 then lead.toNat else lead.toNat % (128 >>> length)
  rest.foldl (fun n b => n * 64 + b.toNat % 64) first

/-- The characters of the bytes, with replacement characters for what is not well-formed. -/
def decodeLossy : List UInt8 → List Char
  | [] => []
  | b :: bs =>
    match leadByte b with
    | none => '\ufffd' :: decodeLossy bs
    | some (length, low, high) =>
      let n := continuation (length - 1) low high bs
      let c := if n = length - 1 then Char.ofNat (codePoint length b (bs.take n)) else '\ufffd'
      c :: decodeLossy (bs.drop n)
termination_by bs => bs.length
decreasing_by all_goals simp only [List.length_cons, List.length_drop]; omega

/-- The string of the bytes, with replacement characters for what is not well-formed. -/
def decodeUtf8Lossy (bytes : ByteArray) : String :=
  match decodeUtf8? bytes with
  | some s => s
  | none => String.ofList (decodeLossy bytes.toList)

end ModelSchema.Text
