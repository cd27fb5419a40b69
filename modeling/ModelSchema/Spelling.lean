import ModelSchema.Model
import ModelSchema.Text.Blank
import ModelSchema.Text.Decimal

/-!
# Spellings of types

The spelling of a type in an annotation, read only as far as a column type needs it: its members
at the bars outside all brackets, a table of known spellings, and the shape of the rest.

## Main definitions

* `Spelling.members` — the members of a union.
* `Spelling.isNullable` — whether a union admits `null` or `undefined`.
* `Spelling.columnType` — the column type for a spelling.
* `Spelling.element?` — the element type of an array spelling.

## Main statements

* `Spelling.length_lt_of_mem_members` — a member of a union of two or more is shorter than the
  union, so `Spelling.columnType` ends.
-/

namespace ModelSchema

namespace Spelling

open Text

/-! ## Members of a union -/

def isOpening (c : Char) : Bool := c == '<' || c == '(' || c == '[' || c == '\x7b'

def isClosing (c : Char) : Bool := c == '>' || c == ')' || c == ']' || c == '\x7d'

/-- The bracket depth behind `c`. The `>` of an arrow closes nothing. -/
def depthAfter (depth : Int) (afterEqual : Bool) (c : Char) : Int :=
  if isOpening c then depth + 1
  else if c == '>' && afterEqual then depth
  else if isClosing c then depth - 1
  else depth

/-- The pieces between the bars at depth 0, where the text starts at the given depth and
`afterEqual` tells whether an equals sign stands before it. Depth may become negative. -/
def pieces (depth : Int) (afterEqual : Bool) : List Char → List (List Char)
  | [] => [[]]
  | c :: cs =>
    if c = '|' ∧ depth = 0 then [] :: pieces depth false cs
    else match pieces (depthAfter depth afterEqual c) (c == '=') cs with
      | [] => [[c]]
      | p :: ps => (c :: p) :: ps

/-- The members of a union: the pieces without surrounding blanks, empty ones left out. -/
def members (cs : List Char) : List (List Char) :=
  ((pieces 0 false cs).map trim).filter (!·.isEmpty)

theorem pieces_ne_nil (depth : Int) (afterEqual : Bool) (cs : List Char) :
    pieces depth afterEqual cs ≠ [] := by
  cases cs with
  | nil => simp [pieces]
  | cons c cs =>
    simp only [pieces]
    split
    · simp
    · split <;> simp

/-- The pieces and the bars between them are the text, so a piece is shorter by the bars. -/
theorem length_add_length_pieces_le (cs : List Char) (depth : Int) (afterEqual : Bool) :
    ∀ p ∈ pieces depth afterEqual cs, p.length + (pieces depth afterEqual cs).length ≤
      cs.length + 1 := by
  induction cs generalizing depth afterEqual with
  | nil => simp [pieces]
  | cons c cs ih =>
    simp only [pieces]
    split
    · have ih := ih depth false
      obtain ⟨q, hq⟩ := List.exists_mem_of_ne_nil _ (pieces_ne_nil depth false cs)
      have hn := ih q hq
      intro p hp
      simp only [List.length_cons]
      rcases List.mem_cons.1 hp with rfl | hp
      · simp only [List.length_nil]
        omega
      · have := ih p hp
        omega
    · have ih := ih (depthAfter depth afterEqual c) (c == '=')
      split
      · simp
      · rename_i p ps heq
        rw [heq] at ih
        intro q hq
        simp only [List.length_cons] at ih ⊢
        rcases List.mem_cons.1 hq with rfl | hq
        · have := ih p List.mem_cons_self
          simp only [List.length_cons]
          omega
        · have := ih q (List.mem_cons_of_mem _ hq)
          omega

/-- A member of a union of two or more is shorter than the union. -/
theorem length_lt_of_mem_members {cs m : List Char} (h : m ∈ members cs)
    (two : 2 ≤ (members cs).length) : m.length < cs.length := by
  have hle : (members cs).length ≤ (pieces 0 false cs).length := by
    simpa [members] using List.length_filter_le (!List.isEmpty ·) ((pieces 0 false cs).map trim)
  obtain ⟨p, hp, rfl⟩ := List.mem_map.1 (List.mem_filter.1 h).1
  have := length_add_length_pieces_le cs 0 false p hp
  have := length_trim_le p
  omega

def isNullish (m : List Char) : Bool :=
  m == "null".toList || m == "undefined".toList

/-- Whether a union of two members or more admits `null` or `undefined`. -/
def isNullable (cs : List Char) : Bool :=
  decide (2 ≤ (members cs).length) && (members cs).any isNullish

/-! ## Column types -/

/-- The spellings, without blanks, that stand for a scalar. -/
def scalarTable : List (String × Scalar) := [
  ("string", .string), ("String", .string),
  ("number", .int), ("Number", .int),
  ("bigint", .bigInt), ("BigInt", .bigInt),
  ("boolean", .boolean), ("Boolean", .boolean),
  ("Date", .dateTime), ("DateTime", .dateTime),
  ("Buffer", .bytes), ("Uint8Array", .bytes), ("ArrayBuffer", .bytes),
  ("any", .json), ("object", .json), ("Object", .json),
  ("Record<string,any>", .json), ("Record<string,unknown>", .json),
  ("\x7b[key:string]:any\x7d", .json),
  ("unknown", .string)]

/-- The element types whose arrays are lists of a scalar. -/
def elementTable : List (String × Scalar) := [
  ("string", .string), ("number", .int), ("bigint", .bigInt), ("boolean", .boolean),
  ("Date", .dateTime)]

/-- The element type of an array spelling without blanks, `X[]` or `Array<X>`. -/
def element? (compacted : List Char) : Option (List Char) :=
  match "[]".toList.isSuffixOf? compacted with
  | some element => some element
  | none => ("Array<".toList.isPrefixOf? compacted).bind (">".toList.isSuffixOf? ·)

/-- The column type of a spelling that the tables know. -/
def known? (compacted : List Char) : Option ColumnType :=
  match scalarTable.lookup (String.ofList compacted) with
  | some scalar => some ⟨scalar, false⟩
  | none => (element? compacted).bind fun element =>
      (elementTable.lookup (String.ofList element)).map (⟨·, true⟩)

/-- Arrays, generics, tuples and inline object types. -/
def isContainer (compacted : List Char) : Bool :=
  "[]".toList.isSuffixOf compacted || compacted.contains '<' || compacted.head? == some '[' ||
    compacted.head? == some '\x7b'

/-- The characters that quote a literal. -/
def quotes : List Char := ['\x27', '"', '\x60']

def isStringLiteral (m : List Char) : Bool :=
  2 ≤ m.length && quotes.any fun q => m.head? == some q && m.getLast? == some q

def isNumericLiteral (m : List Char) : Bool :=
  isDecimal (m.dropWhile (· == '-'))

/-- The scalar for several members that are not nullish: text before numbers before the rest. -/
def unionScalar (present : List (List Char)) : Scalar :=
  if present.any fun m => m == "string".toList || isStringLiteral m then .string
  else if present.any fun m => m == "number".toList || isNumericLiteral m then .int
  else .json

/-- The column type for a spelling: by the tables, by the members of a union, by its shape; a
spelling that nothing recognises is a string. -/
def columnType (cs : List Char) : ColumnType :=
  match known? (compact cs) with
  | some t => t
  | none =>
    if two : 2 ≤ (members cs).length then
      match hp : (members cs).filter (!isNullish ·) with
      | [only] =>
        have : only ∈ (members cs).filter (!isNullish ·) := hp ▸ List.mem_cons_self
        have : only.length < cs.length := length_lt_of_mem_members (List.mem_filter.1 this).1 two
        columnType only
      | present => ⟨unionScalar present, false⟩
    else if isContainer (compact cs) then ⟨.json, false⟩
    else ⟨.string, false⟩
termination_by cs.length

/-! ## Spellings as strings -/

/-- The members of a union. -/
def membersOf (raw : String) : List String := (members raw.toList).map String.ofList

def isNullableOf (raw : String) : Bool := isNullable raw.toList

/-- The column type for a spelling. -/
def columnTypeOf (raw : String) : ColumnType := columnType raw.toList

end Spelling

end ModelSchema
