import ModelSchema.Grammar.Pattern
import ModelSchema.Syntax.Dialect

/-!
# Tokens

The tokens of TypeScript: fixed texts, tokens with a pattern, and tokens that show only in their
context, such as the end of a statement that has no semicolon.

## Main definitions

* `Lexeme` — the tokens with a pattern.
* `Signal` — the tokens that the context decides on.
* `Token` — all tokens; `Token.all` has them in the order in which one is preferred to another.
* `blanks` — the characters between tokens.
-/

namespace ModelSchema.Grammar

/-- A kind of token that has a pattern. -/
inductive Lexeme where
  /-- A first line for the system, as in `#!/usr/bin/env node`. -/
  | interpreterLine
  | identifier
  /-- A member name with a number sign. -/
  | privateName
  | number
  | comment
  /-- A stretch of a string up to an escape or its end. -/
  | doubleQuotedText
  | singleQuotedText
  | escape
  | regexBody
  /-- The slash behind a regular expression. -/
  | regexEnd
  | regexFlags
  /-- Text between elements. -/
  | elementText
  /-- A character by name or number, as in `&amp;`. -/
  | characterReference
  /-- A name with a hyphen. -/
  | hyphenatedName
  | doubleQuotedAttribute
  | singleQuotedAttribute
deriving DecidableEq, Repr, Hashable

/-- A token that the context decides on. -/
inductive Signal where
  /-- The end of a statement without a semicolon. -/
  | lineEnd
  /-- Text of a template up to a substitution, an escape or its end. -/
  | templateText
  /-- A question mark that is not part of a longer mark. -/
  | questionMark
  /-- A comment that runs from an arrow to the end of its line. -/
  | arrowComment
  /-- The end of a function without a body. -/
  | signatureEnd
deriving DecidableEq, Repr, Hashable

/-- A token. -/
inductive Token where
  | fixed (text : String)
  | lexeme (l : Lexeme)
  | signal (s : Signal)
deriving DecidableEq, Repr, Hashable

/-! ## Characters -/

/-- The blanks of the Unicode class of space separators. -/
def spaceSeparators : CharSet :=
  ⟨[(' ', ' '), ('\u00a0', '\u00a0'), ('\u1680', '\u1680'), ('\u2000', '\u200a'),
    ('\u202f', '\u202f'), ('\u205f', '\u205f'), ('\u3000', '\u3000')], false⟩

/-- The blanks of ASCII. -/
def asciiBlanks : CharSet := ⟨[('\t', '\r'), (' ', ' ')], false⟩

/-- Characters that join or separate without showing, and the line and paragraph separators. -/
def invisibleBlanks : CharSet := .ofString "\ufeff\u2028\u2029\u2060\u200b"

/-- The characters between tokens. -/
def blanks : CharSet := (asciiBlanks.union spaceSeparators).union invisibleBlanks

/-- Marks that end a name. -/
def marks : CharSet := .ofString ":;`\"'@#.,|^&<=>+-*/\\%?!~()[]\x7b\x7d"

/-- The characters in a name: all but controls, blanks and marks. -/
def nameChars : CharSet := (((CharSet.range '\x00' '\x1f').union blanks).union marks).compl

/-- The characters that a name starts with. -/
def nameStarts : CharSet :=
  ((((CharSet.range '\x00' '\x1f').union blanks).union marks).union .digits).compl

/-- The characters that end a line. -/
def lineBreaks : String := "\r\n\u2028\u2029"

/-! ## Patterns -/

namespace Lexeme

open Pattern

/-- A character of a name by its number. -/
def nameEscape : Pattern :=
  alt (seq (literal "\\u") (times 4 (one .hexDigits)))
    (all [literal "\\u\x7b", many1 (one .hexDigits), literal "\x7d"])

def name : Pattern :=
  seq (alt (one nameStarts) nameEscape) (many (alt (one nameChars) nameEscape))

/-- Digits with single low lines between them. -/
def digitsOf (digit : Pattern) : Pattern :=
  seq digit (many (seq (optional (oneOf "_")) digit))

def decimalDigits : Pattern := digitsOf (one .digits)

def hexNumber : Pattern := all [oneOf "0", oneOf "xX", digitsOf (one .hexDigits)]

def binaryNumber : Pattern := all [oneOf "0", oneOf "bB", digitsOf (oneOf "01")]

def octalNumber : Pattern := all [oneOf "0", oneOf "oO", digitsOf (one (.range '0' '7'))]

def exponent : Pattern := all [oneOf "eE", optional (oneOf "+-"), decimalDigits]

/-- The whole part of a decimal fraction. -/
def wholePart : Pattern :=
  alt (oneOf "0")
    (all [optional (oneOf "0"), one (.range '1' '9'),
      optional (seq (optional (oneOf "_")) decimalDigits)])

def decimalNumber : Pattern :=
  any [all [wholePart, oneOf ".", optional decimalDigits, optional exponent],
    all [oneOf ".", decimalDigits, optional exponent],
    seq wholePart exponent,
    decimalDigits]

/-- A number of any size, with an `n` behind it. -/
def bigNumber : Pattern :=
  seq (any [hexNumber, binaryNumber, octalNumber, decimalDigits]) (oneOf "n")

/-- The pattern of a token. -/
def pattern : Lexeme → Pattern
  | interpreterLine => seq (literal "#!") (many (noneOf "\n"))
  | identifier => name
  | privateName => seq (oneOf "#") name
  | number => any [hexNumber, decimalNumber, binaryNumber, octalNumber, bigNumber]
  | comment =>
    alt (seq (literal "//") (many (noneOf lineBreaks)))
      (all [literal "/*", many (noneOf "*"), many1 (oneOf "*"),
        many (all [noneOf "/*", many (noneOf "*"), many1 (oneOf "*")]), oneOf "/"])
  | doubleQuotedText => many1 (noneOf "\"\\\r\n")
  | singleQuotedText => many1 (noneOf "'\\\r\n")
  | escape =>
    seq (oneOf "\\")
      (any [noneOf "xu01234567",
        seq (one (.range '0' '7')) (upTo 2 (one (.range '0' '7'))),
        seq (oneOf "x") (times 2 (one .hexDigits)),
        seq (oneOf "u") (times 4 (one .hexDigits)),
        all [literal "u\x7b", many1 (one .hexDigits), literal "\x7d"],
        seq (oneOf "\r?") (oneOf "\n\u2028\u2029")])
  | regexBody =>
    many1 (any [
      all [oneOf "[", many (alt (seq (oneOf "\\") (noneOf "\n")) (noneOf "]\n\\")), oneOf "]"],
      seq (oneOf "\\") (noneOf "\n"),
      noneOf "/\\[\n"])
  | regexEnd => oneOf "/"
  | regexFlags => many1 (one (.range 'a' 'z'))
  | elementText => many1 (noneOf "\x7b\x7d<>&")
  | characterReference =>
    all [oneOf "&",
      alt
        (seq (oneOf "#")
          (alt (all [oneOf "xX", one .hexDigits, upTo 5 (one .hexDigits)])
            (seq (one .digits) (upTo 4 (one .digits)))))
        (seq (one .asciiLetters) (upTo 29 (one .asciiLetters))),
      oneOf ";"]
  | hyphenatedName =>
    let starts := CharSet.asciiLetters.union (.ofString "_$")
    let inner := starts.union .digits
    all [one starts, many (one inner), oneOf "-", many (one (inner.union (.ofString "-")))]
  | doubleQuotedAttribute =>
    many1 (alt (noneOf "\"&")
      (seq (oneOf "&") (outside (CharSet.asciiLetters.union (.ofString "#")))))
  | singleQuotedAttribute =>
    many1 (alt (noneOf "'&")
      (seq (oneOf "&") (outside (CharSet.asciiLetters.union (.ofString "#")))))

/-- Whether no blank may stand before the token. -/
def isImmediate : Lexeme → Bool
  | doubleQuotedText | singleQuotedText | escape | regexBody | regexEnd | regexFlags
  | doubleQuotedAttribute | singleQuotedAttribute => true
  | _ => false

/-- How a token fares against others that read the same text. -/
def rank : Lexeme → Int
  | doubleQuotedText | singleQuotedText | doubleQuotedAttribute | singleQuotedAttribute
  | regexEnd => 1
  | regexBody => -1
  | _ => 0

end Lexeme

/-! ## Order -/

namespace Token

/-- The fixed texts among tokens. -/
def fixedAll (texts : List String) : List Token := texts.map fixed

/-- Tokens of modules and statements. -/
def statementTokens : List Token :=
  lexeme .interpreterLine :: fixedAll ["export", "*", "default", "type", "import", "=", "as",
    "namespace", "\x7b", ",", "\x7d", "typeof", "from", "with", "var", "let", "const", "!", "else",
    "if", "switch", "for", "(", ";", ")", "await", "in", "of", "while", "do", "try", "break",
    "continue", "debugger", "return", "throw", ":", "case", "catch", "finally", "yield", "[", "]"]

/-- Tokens of elements. -/
def elementTokens : List Token :=
  [lexeme .elementText, lexeme .characterReference, fixed ">", fixed "<", lexeme .hyphenatedName,
    fixed ".", fixed "</", fixed "/>", fixed "\"", fixed "'", lexeme .doubleQuotedAttribute,
    lexeme .singleQuotedAttribute]

/-- Tokens of expressions. -/
def expressionTokens : List Token :=
  fixedAll [".", "class", "async", "function", "=>", "?.", "new", "using", "+=", "-=", "*=", "/=",
    "%=", "^=", "&=", "|=", ">>=", ">>>=", "<<=", "**=", "&&=", "||=", "??=", "...", "&&", "||",
    ">>", ">>>", "<<", "&", "^", "|", "+", "-", "/", "%", "**", "<", "<=", "==", "===", "!=",
    "!==", ">=", ">", "??", "instanceof", "~", "void", "delete", "++", "--", "\"", "'"] ++
  [lexeme .doubleQuotedText, lexeme .singleQuotedText, lexeme .escape, lexeme .comment,
    fixed "`", fixed "$\x7b", lexeme .regexEnd, lexeme .regexBody, lexeme .regexFlags,
    lexeme .number, lexeme .identifier, lexeme .privateName] ++
  fixedAll ["target", "meta", "this", "super", "true", "false", "null", "undefined", "@"]

/-- Tokens of members and types. -/
def typeTokens : List Token :=
  fixedAll ["static", "readonly", "get", "set", "?", "declare", "public", "private", "protected",
    "override", "module", "any", "number", "boolean", "string", "symbol", "object", "abstract",
    "accessor", "satisfies", "require", "extends", "implements", "global", "interface", "enum",
    "-?:", "+?:", "?:", "asserts", "infer", "is", "keyof", "unique", "unknown", "never", "\x7b|",
    "|\x7d"]

def signals : List Token :=
  [signal .lineEnd, signal .templateText, signal .questionMark, signal .arrowComment,
    signal .signatureEnd]

/-- The tokens of a dialect. Of two tokens that read the same text the first one is preferred. -/
def all : Dialect → List Token
  | .plain => statementTokens ++ expressionTokens ++ typeTokens ++ signals
  | .jsx =>
    statementTokens ++ elementTokens ++
      (expressionTokens.filter fun t => !elementTokens.contains t) ++ typeTokens ++ signals

/-- Whether a token is a word that is a name where the word itself may not stand. -/
def isWord : Token → Bool
  | fixed text => (text.toList.take 1).any (·.isAlpha)
  | _ => false

/-- Whether a token is looked for where the source is broken. The others are read only where they
are expected, since they take nearly any text. -/
def isLandmark : Token → Bool
  | fixed text => text != "?:" && text != "/>"
  | lexeme l =>
    match l with
    | .interpreterLine | .identifier | .privateName | .number | .comment | .escape | .regexEnd =>
      true
    | _ => false
  | signal _ => true

end Token

end ModelSchema.Grammar
