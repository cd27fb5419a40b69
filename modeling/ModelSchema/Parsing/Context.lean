import ModelSchema.Grammar.Token
import ModelSchema.Parsing.Source

/-!
# Tokens that the context decides on

Some tokens show only in what stands around them: the end of a statement where no semicolon is
written, the text of a template, a question mark that starts no longer mark, and comments that run
from an arrow to the end of the line.

## Main definitions

* `Expectation` — which of these tokens, and which others that bear on them, may come.
* `Context.read?` — the token of this kind at a position.
-/

namespace ModelSchema.Parsing

open Grammar

/-- Which tokens may come. -/
structure Expectation where
  lineEnd : Bool
  signatureEnd : Bool
  templateText : Bool
  questionMark : Bool
  arrowComment : Bool
  /-- The mark `||`, which shows that an expression may go on. -/
  disjunction : Bool
  escape : Bool
  regexBody : Bool
deriving DecidableEq, Repr, Inhabited

namespace Context

/-- The blanks that count between statements. -/
def isBlank (c : Char) : Bool := asciiBlanks.contains c

def isLetter (c : Char) : Bool := c.isAlpha

/-- The position behind a block comment whose text starts at a position, if it is closed. -/
def blockCommentEnd? (s : SourceText) (position : Nat) : Option Nat := Id.run do
  for i in [position:s.size] do
    if s.charAt i == '*' && s.charAt (i + 1) == '/' then return some (i + 2)
    if s.charAt i == '\x00' then return none
  return none

/-- How a stretch of blanks and comments ends. -/
structure Gap where
  stop : Nat
  hasComment : Bool
  /-- Whether it ends before a token, and not at a slash that starts no comment. -/
  isWhole : Bool

/-- Passes over blanks and comments. -/
def gapFrom (s : SourceText) (position : Nat) : Gap := Id.run do
  let mut i := position
  let mut hasComment := false
  for _ in [position:s.size + 1] do
    i := s.skipWhile isBlank i
    if s.charAt i != '/' then return ⟨i, hasComment, true⟩
    if s.charAt (i + 1) == '/' then
      i := s.skipWhile (fun c => c != '\n' && c != '\x00') (i + 2)
      hasComment := true
    else if s.charAt (i + 1) == '*' then
      match blockCommentEnd? s (i + 2) with
      | some stop =>
        i := stop
        hasComment := true
      | none => return ⟨s.size, hasComment, true⟩
    else return ⟨i + 1, hasComment, false⟩
  return ⟨i, hasComment, true⟩

/-- What is known when the end of a statement was looked for: whether it is there, where the search
ended, and whether it came past a comment. -/
structure Ending where
  isThere : Bool
  stop : Nat
  hasComment : Bool

/-- Marks at the start of a line that go on with the statement above. -/
def continues : List Char := "`,.;*%><=?^|&/:".toList

/-- Whether a word or a mark at the start of a line starts a new statement, and how far it was
looked at. -/
def startsStatement (s : SourceText) (e : Expectation) (i : Nat) : Bool × Nat :=
  match s.charAt i with
  | '{' => (!e.signatureEnd, i)
  | '(' | '[' => (!e.disjunction, i)
  | '+' => (s.charAt (i + 1) == '+', i + 1)
  | '-' => (s.charAt (i + 1) == '-', i + 1)
  | '!' => (s.charAt (i + 1) != '=', i + 1)
  | 'i' =>
    if s.charAt (i + 1) != 'n' then (true, i + 1)
    else if !isLetter (s.charAt (i + 2)) then (false, i + 2)
    else if s.hasAt (i + 2) "stanceof".toList then (isLetter (s.charAt (i + 10)), i + 10)
    else (true, i + 2)
  | c => (!continues.contains c, i)

/-- Looks for the end of a statement: the end of the source, a closing brace, or a line feed before
what cannot go on with the statement. -/
def ending (s : SourceText) (e : Expectation) (position : Nat) : Ending :=
  let i := s.skipWhile (fun c => isBlank c && c != '\n') position
  match s.charAt i with
  | '\x00' => ⟨true, i, false⟩
  | '}' =>
    let behind := s.skipWhile isBlank (i + 1)
    ⟨s.charAt behind != ':' || e.disjunction, behind, false⟩
  | '\n' =>
    let gap := gapFrom s (i + 1)
    if gap.isWhole then
      let (starts, stop) := startsStatement s e gap.stop
      ⟨starts, stop, gap.hasComment⟩
    else ⟨false, gap.stop, gap.hasComment⟩
  | _ => ⟨false, i, false⟩

/-- A question mark that starts no longer mark. -/
def questionMark? (s : SourceText) (position : Nat) : Option (Spanned Signal) :=
  let i := s.skipWhile isBlank position
  if s.charAt i != '?' || s.charAt (i + 1) == '?' then none
  else if s.charAt (i + 1) == '.' && !(s.charAt (i + 2)).isDigit then none
  else some ⟨.questionMark, i, i + 1⟩

/-- Text of a template. -/
def templateText? (s : SourceText) (position : Nat) : Option (Spanned Signal) := Id.run do
  for i in [position:s.size] do
    let c := s.charAt i
    let found := if position < i then some ⟨.templateText, position, i⟩ else none
    if c == '\x00' then return none
    if c == '\x60' || c == '\\' then return found
    if c == '$' && s.charAt (i + 1) == '{' then return found
  return none

/-- A comment from an arrow to the end of its line. -/
def arrowComment? (s : SourceText) (position : Nat) : Option (Spanned Signal) :=
  let i := s.skipWhile (fun c => isBlank c || c == '\u2028' || c == '\u2029') position
  if s.hasAt i "<!--".toList || s.hasAt i "-->".toList then
    let stop := s.skipWhile (fun c => c != '\n' && c != '\u2028' && c != '\u2029' && c != '\x00') i
    some ⟨.arrowComment, i, stop⟩
  else none

/-- The token at a position that the context decides on. -/
def read? (s : SourceText) (e : Expectation) (position : Nat) : Option (Spanned Signal) :=
  if e.templateText then
    if e.lineEnd then none else templateText? s position
  else if e.lineEnd || e.signatureEnd then
    let found := ending s e position
    if found.isThere then some ⟨.lineEnd, position, position⟩
    else if !found.hasComment && e.questionMark && s.charAt found.stop == '?' then
      questionMark? s found.stop
    else none
  else if e.questionMark then questionMark? s position
  else if e.arrowComment && !e.disjunction && !e.escape && !e.regexBody then
    arrowComment? s position
  else none

end Context

end ModelSchema.Parsing
