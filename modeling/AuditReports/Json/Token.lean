import AuditReports.Json.Number

/-!
# Tokens of JSON

A text is cut into tokens before its structure is looked at. White space is a space, a tab, a line
feed or a carriage return; a byte order mark is not. Control characters may not stand in a string.
A string whose escapes do not make up a text is a token nevertheless, without a text.
-/

namespace AuditReports.Json

inductive Token where
  | openArray
  | closeArray
  | openObject
  | closeObject
  | comma
  | colon
  | null
  | boolean (value : Bool)
  | number (literal : Literal)
  | string (text : Option String)

namespace Token

def isSpace (character : Char) : Bool :=
  character == ' ' || character == '\t' || character == '\n' || character == '\r'

/-! ## Strings -/

/-- A character of a string, or the half of a surrogate pair that an escape stands for. -/
inductive Piece where
  | character (character : Char)
  | surrogate (code : Nat)

/-- The text that pieces make up, if every surrogate has its other half. -/
def join : List Piece → Option (List Char)
  | [] => some []
  | .character character :: rest => (join rest).map (character :: ·)
  | .surrogate high :: .surrogate low :: rest =>
      if high < 0xDC00 && 0xDC00 ≤ low then
        (join rest).map
          (Char.ofNat (0x10000 + (high - 0xD800) * 0x400 + (low - 0xDC00)) :: ·)
      else none
  | .surrogate _ :: _ => none

def hexValue? (character : Char) : Option Nat :=
  if character.isDigit then some (character.toNat - '0'.toNat)
  else if 'a' ≤ character && character ≤ 'f' then some (character.toNat - 'a'.toNat + 10)
  else if 'A' ≤ character && character ≤ 'F' then some (character.toNat - 'A'.toNat + 10)
  else none

/-- The value of four hexadecimal digits. -/
def code? (first second third fourth : Char) : Option Nat := do
  let first ← hexValue? first
  let second ← hexValue? second
  let third ← hexValue? third
  let fourth ← hexValue? fourth
  return ((first * 16 + second) * 16 + third) * 16 + fourth

def pieceOfCode (code : Nat) : Piece :=
  if 0xD800 ≤ code && code ≤ 0xDFFF then .surrogate code else .character (Char.ofNat code)

/-- The character that a short escape stands for. -/
def escaped? (mark : Char) : Option Char :=
  match mark with
  | '"' => some '"'
  | '\\' => some '\\'
  | '/' => some '/'
  | 'b' => some '\x08'
  | 'f' => some '\x0c'
  | 'n' => some '\n'
  | 'r' => some '\r'
  | 't' => some '\t'
  | _ => none

/-- Reads a string up to its closing quote; the pieces come in reverse. -/
def scanString (pieces : List Piece) : List Char → Option (List Piece × List Char)
  | [] => none
  | '"' :: rest => some (pieces, rest)
  | '\\' :: 'u' :: first :: second :: third :: fourth :: rest =>
      match code? first second third fourth with
      | some code => scanString (pieceOfCode code :: pieces) rest
      | none => none
  | '\\' :: mark :: rest =>
      match escaped? mark with
      | some character => scanString (.character character :: pieces) rest
      | none => none
  | character :: rest =>
      if character == '\\' || character.toNat < 0x20 then none
      else scanString (.character character :: pieces) rest

/-! ## Numbers -/

def digitsValue (digits : List Char) : Nat :=
  digits.foldl (fun value digit => 10 * value + (digit.toNat - '0'.toNat)) 0

/-- A whole part is a single zero or starts with another digit. -/
def scanWhole : List Char → Option (Nat × List Char)
  | [] => none
  | '0' :: rest => some (0, rest)
  | characters =>
      let digits := characters.takeWhile (·.isDigit)
      if digits.isEmpty then none
      else some (digitsValue digits, characters.dropWhile (·.isDigit))

/-- A fraction has at least one digit. -/
def scanFraction : List Char → Option (List Nat × List Char)
  | '.' :: rest =>
      let digits := rest.takeWhile (·.isDigit)
      if digits.isEmpty then none
      else some (digits.map (fun digit => digit.toNat - '0'.toNat), rest.dropWhile (·.isDigit))
  | rest => some ([], rest)

/-- The sign of an exponent, and what follows it. -/
def scanSign : List Char → Bool × List Char
  | '+' :: rest => (false, rest)
  | '-' :: rest => (true, rest)
  | rest => (false, rest)

/-- An exponent has at least one digit. -/
def scanExponent : List Char → Option (Option Int × List Char)
  | [] => some (none, [])
  | mark :: rest =>
      if mark == 'e' || mark == 'E' then
        let (negative, rest) := scanSign rest
        let digits := rest.takeWhile (·.isDigit)
        if digits.isEmpty then none
        else
          let value : Int := digitsValue digits
          some (some (if negative then -value else value), rest.dropWhile (·.isDigit))
      else some (none, mark :: rest)

/-- Reads a number without its sign. -/
def scanUnsigned (negative : Bool) (characters : List Char) : Option (Token × List Char) := do
  let (whole, rest) ← scanWhole characters
  let (fraction, rest) ← scanFraction rest
  let (exponent, rest) ← scanExponent rest
  return (.number ⟨negative, whole, fraction, exponent⟩, rest)

/-! ## Texts -/

/-- Reads the token that starts with a given character. -/
def scanOne (first : Char) (rest : List Char) : Option (Token × List Char) :=
  match first with
  | '[' => some (.openArray, rest)
  | ']' => some (.closeArray, rest)
  | '\x7b' => some (.openObject, rest)
  | '\x7d' => some (.closeObject, rest)
  | ',' => some (.comma, rest)
  | ':' => some (.colon, rest)
  | '"' =>
      (scanString [] rest).map fun (pieces, rest) =>
        (.string ((join pieces.reverse).map String.ofList), rest)
  | '-' => scanUnsigned true rest
  | 't' =>
      match rest with
      | 'r' :: 'u' :: 'e' :: rest => some (.boolean true, rest)
      | _ => none
  | 'f' =>
      match rest with
      | 'a' :: 'l' :: 's' :: 'e' :: rest => some (.boolean false, rest)
      | _ => none
  | 'n' =>
      match rest with
      | 'u' :: 'l' :: 'l' :: rest => some (.null, rest)
      | _ => none
  | _ => scanUnsigned false (first :: rest)

/-- Reads the tokens that are left; the ones before come in reverse. Every token has at least one
character, so the number of characters bounds the number of steps. -/
def scanOnto (tokens : List Token) : Nat → List Char → Option (List Token)
  | _, [] => some tokens.reverse
  | 0, _ :: _ => none
  | budget + 1, character :: rest =>
      if isSpace character then scanOnto tokens budget rest
      else
        match scanOne character rest with
        | some (token, rest) => scanOnto (token :: tokens) budget rest
        | none => none

def scan? (characters : List Char) : Option (List Token) :=
  scanOnto [] characters.length characters

end Token

end AuditReports.Json
