import AuditReports.Text.Decomposition.Table
import AuditReports.Text.Table

/-!
# Compatibility decomposition

Normalization form KD: every character is replaced by its full compatibility decomposition, and the
combining marks that follow one another are then put into the order of their combining classes,
marks of one class staying as they were. Hangul syllables decompose by arithmetic into their two or
three letters. The characters of ASCII decompose into themselves and are never combining marks.
-/

namespace AuditReports.Text

namespace Decomposition

open Table

/-- The characters of `span` decompose into `target`; in a span of several, the first character
of the decomposition moves along with the character that is decomposed. -/
structure Row where
  span : Span
  target : List Nat

/-- Reads `A-B:T.T`. -/
def Row.ofText (text : List Char) : Row :=
  let (span, target) := cutFirst ':' text
  ⟨Span.ofText span, (fields '.' (target.getD [])).map hexadecimal⟩

def rows : List Row :=
  (entries mappingTable).map Row.ofText

/-- A span of combining marks and their class. -/
structure ClassRow where
  span : Span
  combiningClass : Nat

/-- Reads `A-B:C`. -/
def ClassRow.ofText (text : List Char) : ClassRow :=
  let (span, combiningClass) := cutFirst ':' text
  ⟨Span.ofText span, decimal (combiningClass.getD [])⟩

def classRows : List ClassRow :=
  (entries classTable).map ClassRow.ofText

/-- The letters of the Hangul syllable that stands at `index` among all syllables. -/
def hangulLetters (index : Nat) : List Char :=
  let leading := Char.ofNat (0x1100 + index / 588)
  let vowel := Char.ofNat (0x1161 + index % 588 / 28)
  if index % 28 == 0 then [leading, vowel] else [leading, vowel, Char.ofNat (0x11A7 + index % 28)]

/-- The full compatibility decomposition of one character. -/
def parts (character : Char) : List Char :=
  let code := character.toNat
  if code < 0x80 then [character]
  else if 0xAC00 ≤ code && code ≤ 0xD7A3 then hangulLetters (code - 0xAC00)
  else
    match rows.find? (·.span.contains code) with
    | none => [character]
    | some row =>
        match row.target with
        | [single] => [Char.ofNat (single + (code - row.span.first))]
        | several => several.map Char.ofNat

/-- The canonical combining class; zero for a character that is no combining mark. -/
def combiningClass (character : Char) : Nat :=
  let code := character.toNat
  if code < 0x300 then 0
  else ((classRows.find? (·.span.contains code)).map (·.combiningClass)).getD 0

/-- Puts a mark before the first of the following marks whose class is not lower. -/
def place (character : Char) : List Char → List Char
  | [] => [character]
  | next :: rest =>
      if 0 < combiningClass next && combiningClass next < combiningClass character then
        next :: place character rest
      else character :: next :: rest

/-- Orders every run of combining marks by class. -/
def order (characters : List Char) : List Char :=
  characters.foldr place []

end Decomposition

/-- The compatibility decomposition of a text. -/
def decompose (characters : List Char) : List Char :=
  Decomposition.order (characters.flatMap Decomposition.parts)

end AuditReports.Text
