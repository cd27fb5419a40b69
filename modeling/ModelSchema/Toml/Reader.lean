import ModelSchema.Toml

/-!
# Reading TOML

A reader for TOML 1.0. A text either is a document or is not; no more is told about its errors.

## Main definitions

* `Toml.Reader` — a step takes what it reads from the front of a text.
* `Toml.key?`, `Toml.value?`, `Toml.line?` — the parts of a document.
* `Toml.read?` — the table that a document describes.
-/

namespace ModelSchema.Toml

/-- A step that reads something at the front of a text and returns it with the rest. -/
abbrev Reader (α : Type) := List Char → Option (α × List Char)

/-! ## Blanks, comments and line ends -/

def skipBlanks (cs : List Char) : List Char := cs.dropWhile fun c => c == ' ' || c == '\t'

/-- Whether a control character, which may stand neither in comments nor in strings. -/
def isControl (c : Char) : Bool := (c.toNat < 0x20 && c != '\t') || c.toNat == 0x7F

/-- The text behind a line end. -/
def lineEnd? : List Char → Option (List Char)
  | '\n' :: cs => some cs
  | '\r' :: '\n' :: cs => some cs
  | _ => none

/-- The text behind the comment at its front, if there is one; a control character that ends the
comment stays. -/
def skipComment (cs : List Char) : List Char :=
  match cs with
  | '#' :: rest => rest.dropWhile (!isControl ·)
  | _ => cs

/-- The text behind blanks, a comment, and the end of the line or of the document. -/
def restOfLine? (cs : List Char) : Option (List Char) :=
  match skipComment (skipBlanks cs) with
  | [] => some []
  | rest => lineEnd? rest

/-- The text behind blanks, comments and line ends. -/
def skipSpace : Nat → List Char → List Char
  | 0, cs => cs
  | fuel + 1, cs =>
    match restOfLine? cs with
    | some rest => if rest.isEmpty then [] else skipSpace fuel rest
    | none => skipBlanks cs

/-! ## Strings -/

/-- The character with a hexadecimal number of `width` digits. -/
def unicode? (width : Nat) (cs : List Char) : Option (Char × List Char) :=
  let digits := cs.take width
  if digits.length = width ∧ digits.all fun d => d.isDigit || ('a' ≤ d.toLower && d.toLower ≤ 'f')
  then
    let n := digits.foldl (fun n d =>
      16 * n + (if d.isDigit then d.toNat - 48 else d.toLower.toNat - 87)) 0
    if n < 0xD800 ∨ (0xDFFF < n ∧ n < 0x110000) then some (Char.ofNat n, cs.drop width) else none
  else none

/-- The character of an escape, behind its backslash. -/
def escape? : List Char → Option (Char × List Char)
  | 'b' :: cs => some ('\x08', cs)
  | 't' :: cs => some ('\t', cs)
  | 'n' :: cs => some ('\n', cs)
  | 'f' :: cs => some ('\x0c', cs)
  | 'r' :: cs => some ('\r', cs)
  | '"' :: cs => some ('"', cs)
  | '\\' :: cs => some ('\\', cs)
  | 'u' :: cs => unicode? 4 cs
  | 'U' :: cs => unicode? 8 cs
  | _ => none

/-- A string in double quotes on one line, behind the opening quote. -/
def basic? : Nat → Reader (List Char)
  | 0, _ => none
  | fuel + 1, cs =>
    match cs with
    | [] => none
    | '"' :: rest => some ([], rest)
    | '\\' :: rest =>
      (escape? rest).bind fun (c, rest) => (basic? fuel rest).map fun (s, rest) => (c :: s, rest)
    | c :: rest =>
      if isControl c then none
      else (basic? fuel rest).map fun (s, rest) => (c :: s, rest)

/-- A string in single quotes on one line, behind the opening quote. -/
def literal? (cs : List Char) : Option (List Char × List Char) :=
  let body := cs.takeWhile fun c => c != '\x27' && !isControl c
  match cs.drop body.length with
  | '\x27' :: rest => some (body, rest)
  | _ => none

/-- The quotes that end a string over several lines: three, and up to two more before them that
belong to the string. -/
def closing? (quote : Char) (cs : List Char) : Option (List Char × List Char) :=
  let n := (cs.takeWhile (· == quote)).length
  if n < 3 then none
  else
    let own := min (n - 3) 2
    some (List.replicate own quote, cs.drop (own + 3))

/-- The text behind a backslash at the end of a line: blanks and line ends are left out. -/
def continued? (cs : List Char) : Option (List Char) :=
  (lineEnd? (skipBlanks cs)).map fun rest =>
    rest.dropWhile fun c => c == ' ' || c == '\t' || c == '\n' || c == '\r'

/-- A string over several lines, behind the opening quotes. Only one in double quotes has
escapes. -/
def multiline? (quote : Char) : Nat → Reader (List Char)
  | 0, _ => none
  | fuel + 1, cs =>
    match closing? quote cs with
    | some result => some result
    | none =>
      match cs with
      | [] => none
      | c :: rest =>
        if c = '\\' ∧ quote = '"' then
          match continued? rest with
          | some rest => multiline? quote fuel rest
          | none =>
            (escape? rest).bind fun (c, rest) =>
              (multiline? quote fuel rest).map fun (s, rest) => (c :: s, rest)
        else match lineEnd? cs with
          | some rest => (multiline? quote fuel rest).map fun (s, rest) => ('\n' :: s, rest)
          | none =>
            if isControl c then none
            else (multiline? quote fuel rest).map fun (s, rest) => (c :: s, rest)

/-- The text behind the line end at its front, if there is one. -/
def skipLineEnd (cs : List Char) : List Char := (lineEnd? cs).getD cs

/-- A string of any form. -/
def string? (fuel : Nat) (cs : List Char) : Option (List Char × List Char) :=
  match cs with
  | '"' :: '"' :: '"' :: rest => multiline? '"' fuel (skipLineEnd rest)
  | '\x27' :: '\x27' :: '\x27' :: rest => multiline? '\x27' fuel (skipLineEnd rest)
  | '"' :: rest => basic? fuel rest
  | '\x27' :: rest => literal? rest
  | _ => none

/-! ## Keys -/

def isBareKeyChar (c : Char) : Bool := c.isAlphanum || c == '_' || c == '-'

/-- One part of a key. -/
def simpleKey? (cs : List Char) : Option (String × List Char) :=
  match cs with
  | '"' :: rest => (basic? (rest.length + 1) rest).map fun (s, rest) => (String.ofList s, rest)
  | '\x27' :: rest => (literal? rest).map fun (s, rest) => (String.ofList s, rest)
  | _ =>
    let key := cs.takeWhile isBareKeyChar
    if key.isEmpty then none else some (String.ofList key, cs.drop key.length)

/-- How deep values may nest, and how many parts a key may have. -/
def nestingLimit : Nat := 79

/-- The parts of a key, with points between them and blanks around all of these. -/
def keyParts? : Nat → Reader (List String)
  | 0, _ => none
  | fuel + 1, cs =>
    (simpleKey? (skipBlanks cs)).bind fun (part, rest) =>
      match skipBlanks rest with
      | '.' :: rest => (keyParts? fuel rest).map fun (parts, rest) => (part :: parts, rest)
      | rest => some ([part], rest)

/-- A key: parts with points between them, not more than the limit. -/
def key? (fuel : Nat) (cs : List Char) : Option (List String × List Char) :=
  (keyParts? fuel cs).filter (·.1.length ≤ nestingLimit)

/-! ## Numbers and dates -/

/-- Whether a text is made of digits, with single underscores only between digits. -/
def isDigitRun (isDigit : Char → Bool) (cs : List Char) : Bool :=
  (Text.cut (· == '_') cs).all fun run => !run.isEmpty && run.all isDigit

/-- Whether a text is a decimal whole number without needless zeros in front. -/
def isWhole (cs : List Char) : Bool :=
  isDigitRun Char.isDigit cs && (cs.length == 1 || cs.head? != some '0')

/-- The value of digits in a base of at most sixteen; underscores count nothing. -/
def digitsValue (base : Nat) (cs : List Char) : Nat :=
  (cs.filter (· != '_')).foldl (fun n d =>
    base * n + (if d.isDigit then d.toNat - 48 else d.toLower.toNat - 87)) 0

/-- A text without one sign at its front, and whether that was a minus. -/
def splitSign : List Char → Bool × List Char
  | '-' :: cs => (true, cs)
  | '+' :: cs => (false, cs)
  | cs => (false, cs)

/-- The integer that a text spells, without a bound on its size. -/
def unboundedInteger? (cs : List Char) : Option Int :=
  match cs with
  | '0' :: 'x' :: ds =>
    if isDigitRun (fun d => d.isDigit || ('a' ≤ d.toLower && d.toLower ≤ 'f')) ds then
      some (digitsValue 16 ds) else none
  | '0' :: 'o' :: ds =>
    if isDigitRun (fun d => '0' ≤ d && d ≤ '7') ds then some (digitsValue 8 ds) else none
  | '0' :: 'b' :: ds =>
    if isDigitRun (fun d => d == '0' || d == '1') ds then some (digitsValue 2 ds) else none
  | _ =>
    let (negative, digits) := splitSign cs
    if isWhole digits then
      some (if negative then -(digitsValue 10 digits : Int) else digitsValue 10 digits)
    else none

/-- The integer that a text spells, if it fits into 64 bits with its sign. -/
def integer? (cs : List Char) : Option Int :=
  (unboundedInteger? cs).bind fun n =>
    if -0x8000000000000000 ≤ n ∧ n ≤ 0x7FFFFFFFFFFFFFFF then some n else none

/-- Whether a text is an exponent behind its letter. -/
def isExponentDigits (cs : List Char) : Bool := isDigitRun Char.isDigit (splitSign cs).2

/-- The least number that rounds to infinity: half a unit above the greatest floating-point
number, which has 53 digits in base two behind 971 more. -/
def infinityBound : Nat := Nat.pow 2 1024 - Nat.pow 2 970

/-- Whether `n` times the power of ten with that exponent rounds to infinity. The number of
digits decides unless it is that of the bound. -/
def roundsToInfinity (n : Nat) (exponent : Int) : Bool :=
  let digits : Int := (Nat.toDigits 10 n).length
  n != 0 && 309 ≤ digits + exponent &&
    (309 < digits + exponent ||
      (if 0 ≤ exponent then infinityBound ≤ n * Nat.pow 10 exponent.toNat
      else infinityBound * Nat.pow 10 (-exponent).toNat ≤ n))

/-- Whether a text spells a floating-point number. A positive one must not be too great. -/
def isFloat (cs : List Char) : Bool :=
  let (negative, digits) := splitSign cs
  if digits == "inf".toList || digits == "nan".toList then true
  else
    let isE (c : Char) : Bool := c == 'e' || c == 'E'
    let mantissa := digits.takeWhile (!isE ·)
    let hasExponent := mantissa.length < digits.length
    let whole := mantissa.takeWhile (· != '.')
    let hasFraction := whole.length < mantissa.length
    let fraction := mantissa.drop (whole.length + 1)
    let written := digits.drop (mantissa.length + 1)
    let (isBelow, power) := splitSign written
    let power : Int := digitsValue 10 power
    let places : Int := (fraction.filter (· != '_')).length
    isWhole whole && (hasExponent || hasFraction) &&
      (!hasFraction || isDigitRun Char.isDigit fraction) &&
      (!hasExponent || isExponentDigits written) &&
      (negative || !roundsToInfinity (digitsValue 10 (whole ++ fraction))
        ((if isBelow then -power else power) - places))

/-- The value of a text of exactly `n` digits. -/
def fixedDigits? (n : Nat) (cs : List Char) : Option Nat :=
  if cs.length = n ∧ cs.all Char.isDigit then some (digitsValue 10 cs) else none

/-- Whether a year has a twenty-ninth of February. -/
def isLeapYear (year : Nat) : Bool :=
  (year % 4 == 0 && year % 100 != 0) || year % 400 == 0

def daysInMonth (year month : Nat) : Nat :=
  match month with
  | 2 => if isLeapYear year then 29 else 28
  | 4 | 6 | 9 | 11 => 30
  | _ => 31

/-- Whether a text is a date of ten characters. -/
def isDate (cs : List Char) : Bool :=
  match Text.cut (· == '-') cs with
  | [year, month, day] =>
    match fixedDigits? 4 year, fixedDigits? 2 month, fixedDigits? 2 day with
    | some year, some month, some day =>
      1 ≤ month && month ≤ 12 && 1 ≤ day && day ≤ daysInMonth year month
    | _, _, _ => false
  | _ => false

/-- Whether a text is a time of day, with or without a fraction of a second. -/
def isTime (cs : List Char) : Bool :=
  match Text.cut (· == '.') cs with
  | clock :: fraction =>
    (match Text.cut (· == ':') clock with
    | [hour, minute, second] =>
      match fixedDigits? 2 hour, fixedDigits? 2 minute, fixedDigits? 2 second with
      | some hour, some minute, some second => hour < 24 && minute < 60 && second ≤ 60
      | _, _, _ => false
    | _ => false) &&
    (match fraction with
    | [] => true
    | [digits] => !digits.isEmpty && digits.all Char.isDigit
    | _ => false)
  | [] => false

/-- Whether a text is an offset from universal time in hours and minutes. -/
def isOffset (cs : List Char) : Bool :=
  match Text.cut (· == ':') cs with
  | [hour, minute] =>
    match fixedDigits? 2 hour, fixedDigits? 2 minute with
    | some hour, some minute => hour < 24 && minute < 60
    | _, _ => false
  | _ => false

/-- Whether a text is a time of day that may have an offset behind it. -/
def isOffsetTime (cs : List Char) : Bool :=
  isTime cs ||
    (match cs.reverse with
    | 'Z' :: rest | 'z' :: rest => isTime rest.reverse
    | _ => false) ||
    (let clock := cs.takeWhile fun c => c != '+' && c != '-'
    clock.length < cs.length && isTime clock && isOffset (cs.drop (clock.length + 1)))

/-- Whether a text is a date, a time, or both. -/
def isDateTime (cs : List Char) : Bool :=
  isTime cs || isDate cs ||
    (isDate (cs.take 10) && ((cs.drop 10).head?.any fun c => c == 'T' || c == 't' || c == ' ') &&
      isOffsetTime (cs.drop 11))

/-- The characters of a value without quotes and brackets. -/
def isAtomChar (c : Char) : Bool :=
  c.isAlphanum || c == '_' || c == '-' || c == '+' || c == '.' || c == ':'

/-- A value without quotes and brackets. A date and a time may have a space between them. -/
def atom? (cs : List Char) : Option (Value × List Char) :=
  let plain := cs.takeWhile isAtomChar
  let rest := cs.drop plain.length
  let extended := plain ++ ' ' :: (rest.drop 1).takeWhile isAtomChar
  if isDate plain && rest.head? == some ' ' && isDateTime extended then
    some (.dateTime, cs.drop extended.length)
  else if plain == "true".toList then some (.boolean true, rest)
  else if plain == "false".toList then some (.boolean false, rest)
  else match integer? plain with
    | some n => some (.integer n, rest)
    | none =>
      if isFloat plain then some (.float, rest)
      else if isDateTime plain then some (.dateTime, rest)
      else none

/-! ## Values -/

mutual

/-- A value of any kind that nests at most `depth` levels deep. -/
def value? : Nat → Nat → Reader Value
  | 0, _, _ => none
  | fuel + 1, depth, cs =>
    match cs, depth with
    | '[' :: _, 0 | '\x7b' :: _, 0 => none
    | '[' :: rest, depth + 1 =>
      (items? fuel depth rest).map fun (items, rest) => (.array items, rest)
    | '\x7b' :: rest, depth + 1 =>
      match skipBlanks rest with
      | '\x7d' :: rest => some (.table [], rest)
      | rest =>
        (pairs? fuel depth [] rest).map fun (entries, rest) =>
          (Item.toValue (fuel + 1) (.table .headed entries), rest)
    | '"' :: _, _ | '\x27' :: _, _ =>
      (string? (cs.length + 1) cs).map fun (s, rest) => (.string (String.ofList s), rest)
    | _, _ => atom? cs

/-- The items of an array, behind its opening bracket or a comma. -/
def items? : Nat → Nat → Reader (List Value)
  | 0, _, _ => none
  | fuel + 1, depth, cs =>
    match skipSpace (cs.length + 1) cs with
    | ']' :: rest => some ([], rest)
    | cs =>
      (value? fuel depth cs).bind fun (v, rest) =>
        match skipSpace (rest.length + 1) rest with
        | ',' :: rest => (items? fuel depth rest).map fun (vs, rest) => (v :: vs, rest)
        | ']' :: rest => some ([v], rest)
        | _ => none

/-- The pairs of an inline table, behind its opening brace or a comma. -/
def pairs? : Nat → Nat → Entries → Reader Entries
  | 0, _, _, _ => none
  | fuel + 1, depth, entries, cs =>
    (key? (cs.length + 1) cs).bind fun (key, rest) =>
      match rest with
      | '=' :: rest =>
        (value? fuel depth (skipBlanks rest)).bind fun (v, rest) =>
          (insertAt? entries key v).bind fun entries =>
            match skipBlanks rest with
            | ',' :: rest => pairs? fuel depth entries rest
            | '\x7d' :: rest => some (entries, rest)
            | _ => none
      | _ => none

end

/-! ## Documents -/

/-- A document while it is being read, and the table that its next lines belong to. -/
structure Draft where
  entries : Entries := []
  current : List String := []

/-- The document after the line at the front of a text, and the lines behind it. -/
def line? (d : Draft) (cs : List Char) : Option (Draft × List Char) :=
  match skipBlanks cs with
  | '[' :: '[' :: rest =>
    (key? (rest.length + 1) rest).bind fun (path, rest) =>
      match rest with
      | ']' :: ']' :: rest =>
        (restOfLine? rest).bind fun rest =>
          (openArrayTable? d.entries path).map fun entries => (⟨entries, path⟩, rest)
      | _ => none
  | '[' :: rest =>
    (key? (rest.length + 1) rest).bind fun (path, rest) =>
      match rest with
      | ']' :: rest =>
        (restOfLine? rest).bind fun rest =>
          (openTable? d.entries path).map fun entries => (⟨entries, path⟩, rest)
      | _ => none
  | rest =>
    match restOfLine? rest with
    | some behind => some (d, behind)
    | none =>
      (key? (rest.length + 1) rest).bind fun (key, rest) =>
        match rest with
        | '=' :: rest =>
          (value? (rest.length + 1) nestingLimit (skipBlanks rest)).bind fun (v, rest) =>
            (restOfLine? rest).bind fun rest =>
              (modifyAt? (insertAt? · key v) d.entries d.current).map fun entries =>
                (⟨entries, d.current⟩, rest)
        | _ => none

/-- The document after all lines of a text. -/
def lines? : Nat → Draft → List Char → Option Draft
  | _, d, [] => some d
  | 0, _, _ => none
  | fuel + 1, d, cs => (line? d cs).bind fun (d, rest) => lines? fuel d rest

/-- The table that a document describes; a byte order mark at its front is skipped. -/
def read? (text : String) : Option (List (String × Value)) :=
  let cs := match text.toList with
    | '\ufeff' :: cs => cs
    | cs => cs
  (lines? (cs.length + 1) {} cs).map fun d =>
    match Item.toValue (cs.length + 1) (.table .headed d.entries) with
    | .table entries => entries
    | _ => []

end ModelSchema.Toml
