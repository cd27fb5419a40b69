/-!
# Decimal numerals

A numeral is a sign, digits with at most one point among them, and an exponent; sign and exponent
may be missing, and one digit on either side of the point is enough. The words `inf`, `infinity`
and `nan` are numerals too, in any letter case.

## Main definitions

* `Text.isDecimal` — whether a text is a numeral.
-/

namespace ModelSchema.Text

/-- A text without one sign at its front. -/
def dropSign : List Char → List Char
  | '+' :: cs => cs
  | '-' :: cs => cs
  | cs => cs

/-- One digit or more and nothing else. -/
def isDigits (cs : List Char) : Bool := !cs.isEmpty && cs.all Char.isDigit

/-- What may follow the digits of a numeral: nothing, or an exponent. -/
def isExponent : List Char → Bool
  | [] => true
  | c :: cs => (c == 'e' || c == 'E') && isDigits (dropSign cs)

/-- A numeral without its sign, written with digits. -/
def isUnsignedDecimal (cs : List Char) : Bool :=
  let whole := cs.takeWhile Char.isDigit
  match cs.dropWhile Char.isDigit with
  | '.' :: rest =>
    let fraction := rest.takeWhile Char.isDigit
    !(whole.isEmpty && fraction.isEmpty) && isExponent (rest.dropWhile Char.isDigit)
  | rest => !whole.isEmpty && isExponent rest

/-- Whether `cs` is a numeral. -/
def isDecimal (cs : List Char) : Bool :=
  let unsigned := dropSign cs
  isUnsignedDecimal unsigned ||
    ["inf", "infinity", "nan"].contains (String.ofList (unsigned.map Char.toLower))

end ModelSchema.Text
