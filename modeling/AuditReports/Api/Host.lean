import AuditReports.Text.Fields
import AuditReports.Text.Percent

/-!
# Hosts

An address for the web names a host: by a number of six or of four parts, or by a name. A name whose
last part is a number is taken for a number of four parts and has to be one. Names in other scripts
than ASCII are not looked into.
-/

namespace AuditReports.Host

/-- May not stand in the name of a host. -/
def isForbidden (character : Char) : Bool :=
  character.toNat ≤ 0x20 || character.toNat == 0x7F || character == Text.Utf8.replacement ||
    "#/:<>?@[\\]^|%".toList.contains character

/-! ## Numbers of four parts -/

def digitValue? (base : Nat) (character : Char) : Option Nat :=
  let lower := character.toLower
  let value :=
    if lower.isDigit then lower.toNat - '0'.toNat
    else if 'a' ≤ lower && lower ≤ 'f' then lower.toNat - 'a'.toNat + 10
    else base
  if value < base then some value else none

def digitsValue? (base : Nat) (digits : List Char) : Option Nat :=
  digits.foldlM (fun value digit => (digitValue? base digit).map (base * value + ·)) 0

/-- The value of a part, which may be written in hexadecimal and in octal digits. -/
def partValue? (part : List Char) : Option Nat :=
  match part with
  | [] => none
  | '0' :: 'x' :: digits | '0' :: 'X' :: digits => digitsValue? 16 digits
  | '0' :: second :: digits => digitsValue? 8 (second :: digits)
  | digits => digitsValue? 10 digits

/-- The parts of a name; a dot at the end does not begin another one. -/
def partsOf (name : List Char) : List (List Char) :=
  let parts := Text.fields '.' name
  if parts.length > 1 && parts.getLast? == some [] then parts.dropLast else parts

/-- The last part of the name is a number. -/
def endsInNumber (name : List Char) : Bool :=
  match (partsOf name).getLast? with
  | none => false
  | some part => (!part.isEmpty && part.all (·.isDigit)) || (partValue? part).isSome

/-- The name is a number of at most four parts, of which the last one fills up what is missing. -/
def isNumber (name : List Char) : Bool :=
  let parts := partsOf name
  match parts.mapM partValue? with
  | none => false
  | some values =>
      values.length ≤ 4 && values.dropLast.all (· < 0x100) &&
        values.getLast?.any (· < Nat.pow 0x100 (5 - values.length))

/-! ## Numbers of six parts -/

/-- Four numbers below 256 without leading zeros. -/
def isPlainNumber (name : List Char) : Bool :=
  let parts := Text.fields '.' name
  parts.length == 4 && parts.all fun part =>
    part.all (·.isDigit) && (part == ['0'] || part.head? != some '0') &&
      (digitsValue? 10 part).any (· < 0x100) && !part.isEmpty

/-- How many pieces of sixteen bits are written; the last may be two, as a plain number. -/
def pieces? (pieces : List (List Char)) : Option Nat :=
  match pieces with
  | [] => some 0
  | piece :: rest =>
      if !piece.isEmpty && piece.length ≤ 4 && (digitsValue? 16 piece).isSome then
        (pieces? rest).map (1 + ·)
      else if rest.isEmpty && isPlainNumber piece then some 2
      else none

/-- The pieces of a text between colons; the empty text has none. -/
def piecesOf (text : List Char) : List (List Char) :=
  if text.isEmpty then [] else Text.fields ':' text

/-- Cuts at the first two colons in a row. -/
def cutGap : List Char → List Char × Option (List Char)
  | ':' :: ':' :: rest => ([], some rest)
  | [] => ([], none)
  | character :: rest =>
      let (before, after) := cutGap rest
      (character :: before, after)

/-- Eight pieces, or fewer with a gap for those that are missing. -/
def isLongNumber (text : List Char) : Bool :=
  match cutGap text with
  | (whole, none) => pieces? (Text.fields ':' whole) == some 8
  | (before, some after) =>
      before.all (· != '.') &&
        match pieces? (piecesOf before), pieces? (piecesOf after) with
        | some first, some last => first + last < 8
        | _, _ => false

/-- A name that is decoded from the text of an address. -/
def isName (text : List Char) : Bool :=
  let name := Text.Utf8.decodeLenient (Text.Percent.decodeBytes (Text.Utf8.encode text))
  !name.isEmpty && !name.any isForbidden && (!endsInNumber name || isNumber name)

end AuditReports.Host
