import Lexicon.Json.Numeral
import Lexicon.Unicode.Table

namespace Lexicon

open Lexicon.Unicode

/-!
# Tokens of a JSON text

A text is cut into tokens by a machine that takes one character at a time.  Between tokens it
skips blanks; words and number literals end where a character does not belong to them; strings end
at an unescaped quote.

* `Token` — the tokens;
* `Escape` — where a string stands within an escape, surrogate pairs included;
* `Lexer`, `Lexer.step` — the machine;
* `Token.ofText?` — the tokens of a text.
-/

/-- A token of a JSON text. -/
inductive Token where
  | openArray
  | closeArray
  | openObject
  | closeObject
  | colon
  | comma
  | null
  | boolean (b : Bool)
  | number (n : Number)
  | string (s : String)
deriving Repr

namespace Token

/-- The tokens of one character. -/
def ofPunctuation? : Char → Option Token
  | '[' => some openArray
  | ']' => some closeArray
  | '\x7b' => some openObject
  | '\x7d' => some closeObject
  | ':' => some colon
  | ',' => some comma
  | _ => none

/-- The tokens spelled as words. -/
def ofWord? : List Char → Option Token
  | ['n', 'u', 'l', 'l'] => some null
  | ['t', 'r', 'u', 'e'] => some (boolean true)
  | ['f', 'a', 'l', 's', 'e'] => some (boolean false)
  | _ => none

/-- The token of a number literal. -/
def ofNumeral? (cs : List Char) : Option Token := do
  return number (← (← Numeral.ofText? cs).value?)

end Token

/-! ### Escapes in strings -/

/-- Where a string stands within an escape. -/
inductive Escape where
  /-- In plain text. -/
  | plain
  /-- After a backslash. -/
  | backslash
  /-- In a code unit of which `left` more digits are due. -/
  | unit (left value : Nat)
  /-- After the first half of a surrogate pair, before the backslash of the second. -/
  | pair (high : Nat)
  /-- After the backslash of the second half. -/
  | pairBackslash (high : Nat)
  /-- In the second half, of which `left` more digits are due. -/
  | pairUnit (high left value : Nat)

/-- The character that a letter after a backslash stands for. -/
def escapedChar? : Char → Option Char
  | '"' => some '"'
  | '\\' => some '\\'
  | '/' => some '/'
  | 'b' => some '\x08'
  | 'f' => some '\x0c'
  | 'n' => some '\n'
  | 'r' => some '\r'
  | 't' => some '\t'
  | _ => none

/-- The code point of a surrogate pair. -/
def pairedCode (high low : Nat) : Nat :=
  0x10000 + (high - 0xD800) * 0x400 + (low - 0xDC00)

/-- What a string gains by one character that does not end it: the text so far, last character
first, and the new standing.  Control characters must be escaped, and surrogates must be paired. -/
def Escape.step (text : List Char) (c : Char) : Escape → Option (List Char × Escape)
  | plain =>
    if c = '\\' then some (text, backslash)
    else if c.toNat < 0x20 then none
    else some (c :: text, plain)
  | backslash =>
    if c = 'u' then some (text, unit 4 0)
    else (escapedChar? c).map fun e => (e :: text, plain)
  | unit left value => do
    let value := 16 * value + (← hexDigit? c)
    if 1 < left then some (text, unit (left - 1) value)
    -- The first half of a pair waits for the second one; a second half cannot come first.
    else if 0xD800 ≤ value ∧ value ≤ 0xDBFF then some (text, pair value)
    else if 0xDC00 ≤ value ∧ value ≤ 0xDFFF then none
    else some (Char.ofNat value :: text, plain)
  | pair high => if c = '\\' then some (text, pairBackslash high) else none
  | pairBackslash high => if c = 'u' then some (text, pairUnit high 4 0) else none
  | pairUnit high left value => do
    let value := 16 * value + (← hexDigit? c)
    if 1 < left then some (text, pairUnit high (left - 1) value)
    else if 0xDC00 ≤ value ∧ value ≤ 0xDFFF then
      some (Char.ofNat (pairedCode high value) :: text, plain)
    else none

/-! ### The machine -/

/-- What the machine is reading; texts have their last character first. -/
inductive Lexer.Mode where
  | between
  | word (text : List Char)
  | numeral (text : List Char)
  | string (text : List Char) (escape : Escape)

/-- The tokens read so far, last first, and what is being read. -/
structure Lexer where
  tokens : List Token
  mode : Lexer.Mode

namespace Lexer

/-- Characters of a number literal. -/
def isNumeralChar (c : Char) : Bool :=
  c.isDigit || c == '-' || c == '+' || c == '.' || c == 'e' || c == 'E'

/-- The blanks between tokens. -/
def isBlank (c : Char) : Bool :=
  c == ' ' || c == '\t' || c == '\n' || c == '\r'

/-- The tokens once a word or literal has ended; `none` inside a string. -/
def finish? (lexer : Lexer) : Option (List Token) :=
  match lexer.mode with
  | .between => some lexer.tokens
  | .word text => (Token.ofWord? text.reverse).map (· :: lexer.tokens)
  | .numeral text => (Token.ofNumeral? text.reverse).map (· :: lexer.tokens)
  | .string _ _ => none

/-- A character that does not continue a token: a blank, a token of its own, or the start of one. -/
def begin? (tokens : List Token) (c : Char) : Option Lexer :=
  if isBlank c then some ⟨tokens, .between⟩
  else if c = '"' then some ⟨tokens, .string [] .plain⟩
  else if c.isDigit ∨ c = '-' then some ⟨tokens, .numeral [c]⟩
  else if c.isLower then some ⟨tokens, .word [c]⟩
  else (Token.ofPunctuation? c).map fun token => ⟨token :: tokens, .between⟩

/-- The machine after one more character. -/
def step (lexer : Lexer) (c : Char) : Option Lexer :=
  match lexer.mode with
  | .between => begin? lexer.tokens c
  | .word text =>
    -- What does not go on with a token ends it, and begins the next one.
    if c.isLower then some ⟨lexer.tokens, .word (c :: text)⟩
    else do begin? (← lexer.finish?) c
  | .numeral text =>
    if isNumeralChar c then some ⟨lexer.tokens, .numeral (c :: text)⟩
    else do begin? (← lexer.finish?) c
  | .string text .plain =>
    if c = '"' then some ⟨.string (String.ofList text.reverse) :: lexer.tokens, .between⟩
    else (Escape.plain.step text c).map fun (text, escape) => ⟨lexer.tokens, .string text escape⟩
  | .string text escape =>
    (escape.step text c).map fun (text, escape) => ⟨lexer.tokens, .string text escape⟩

end Lexer

/-- The tokens of a text; `none` if the text does not fall into tokens. -/
def Token.ofText? (text : List Char) : Option (List Token) := do
  let lexer ← text.foldlM Lexer.step ⟨[], .between⟩
  return (← lexer.finish?).reverse

end Lexicon
