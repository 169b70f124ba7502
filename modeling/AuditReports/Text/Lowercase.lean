import AuditReports.Text.Lowercase.Table
import AuditReports.Text.Table

/-!
# Lower case

The full lower case of a text. Every letter has one lower case letter, with two exceptions: a
capital I with a dot above becomes a small i followed by the dot as a mark of its own, and a capital
sigma becomes a final sigma at the end of a word and a medial one elsewhere. It ends a word when a
cased letter stands before it and none after it, where ignorable characters are passed over on both
sides. The letters of ASCII are lowered by arithmetic, so no table is consulted for them.
-/

namespace AuditReports.Text

namespace Lowercase

open Table

/-- The letters from `span`, `step` apart, have the lower cases that start at `target`. -/
structure Row where
  span : Span
  step : Nat
  target : Nat

/-- Reads `A-B/S:T`. -/
def Row.ofText (text : List Char) : Row :=
  let (span, data) := cutFirst '/' text
  let (step, target) := cutFirst ':' (data.getD [])
  ⟨Span.ofText span, decimal step, hexadecimal (target.getD [])⟩

def rows : List Row :=
  (entries letterTable).map Row.ofText

def casedSpans : List Span :=
  spans casedTable

def ignorableSpans : List Span :=
  spans ignorableTable

/-- The lower case of a letter that has a single one; other characters stay. -/
def letter (character : Char) : Char :=
  let code := character.toNat
  if code < 0x80 then character.toLower
  else
    match rows.find? fun row =>
        row.span.contains code && (code - row.span.first) % row.step == 0 with
    | some row => Char.ofNat (row.target + (code - row.span.first))
    | none => character

def cased (character : Char) : Bool :=
  casedSpans.any (·.contains character.toNat)

def ignorable (character : Char) : Bool :=
  ignorableSpans.any (·.contains character.toNat)

/-- A cased letter comes next, ignorable characters aside. -/
def meetsCased : List Char → Bool
  | [] => false
  | character :: rest => if ignorable character then meetsCased rest else cased character

/-- Lowers the characters that follow the ones in `before`, which is kept in reverse. -/
def lowerAfter (before : List Char) : List Char → List Char
  | [] => []
  | character :: rest =>
      let lowered :=
        if character == 'İ' then ['i', Char.ofNat 0x307]
        else if character == 'Σ' then
          if meetsCased before && !meetsCased rest then ['ς'] else ['σ']
        else [letter character]
      lowered ++ lowerAfter (character :: before) rest

end Lowercase

/-- The full lower case of a text. -/
def lowercase (characters : List Char) : List Char :=
  Lowercase.lowerAfter [] characters

end AuditReports.Text
