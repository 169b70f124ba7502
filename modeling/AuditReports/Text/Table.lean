import AuditReports.Text.Fields

/-!
# Tables of character properties

The properties of Unicode that slugs need are kept as text: entries separated by white space, each
entry one code point or a span of code points in hexadecimal, with what belongs to the entry after
a mark of its own. This module reads such texts.
-/

namespace AuditReports.Text.Table

/-- The value of a hexadecimal digit; other characters count as zero. -/
def digitValue (character : Char) : Nat :=
  if character.isDigit then character.toNat - '0'.toNat
  else if 'A' ≤ character && character ≤ 'F' then character.toNat - 'A'.toNat + 10
  else 0

def hexadecimal (digits : List Char) : Nat :=
  digits.foldl (fun value digit => 16 * value + digitValue digit) 0

def decimal (digits : List Char) : Nat :=
  digits.foldl (fun value digit => 10 * value + digitValue digit) 0

/-- The code points from `first` to `last`, both included. -/
structure Span where
  first : Nat
  last : Nat

namespace Span

def contains (span : Span) (code : Nat) : Bool :=
  span.first ≤ code && code ≤ span.last

/-- Reads `A` as one code point and `A-B` as a span. -/
def ofText (text : List Char) : Span :=
  match cutFirst '-' text with
  | (first, none) => ⟨hexadecimal first, hexadecimal first⟩
  | (first, some last) => ⟨hexadecimal first, hexadecimal last⟩

end Span

/-- The entries of a table. -/
def entries (table : String) : List (List Char) :=
  (fieldsBy (fun character => character == ' ' || character == '\n') table.toList).filter
    (fun entry => !entry.isEmpty)

/-- A table of spans without further data. -/
def spans (table : String) : List Span :=
  (entries table).map Span.ofText

end AuditReports.Text.Table
