import AuditReports.Text.Utf8

/-!
# Percent-encoding

A byte is written as a percent sign and two hexadecimal digits unless it belongs to a set that may
stand for itself. An identifier that is to stay one segment of a path keeps only the unreserved
characters. Reading never fails: a percent sign that two hexadecimal digits do not follow stands for
itself. What is read is bytes, which need not be a text.
-/

namespace AuditReports.Text.Percent

/-- A hexadecimal digit, in capitals. -/
def hexDigit (value : Nat) : Char :=
  if value < 10 then Char.ofNat ('0'.toNat + value) else Char.ofNat ('A'.toNat + (value - 10))

/-- The value of a byte as a hexadecimal digit of either case. -/
def hexValue? (byte : UInt8) : Option Nat :=
  if 0x30 ≤ byte && byte ≤ 0x39 then some (byte.toNat - 0x30)
  else if 0x41 ≤ byte && byte ≤ 0x46 then some (byte.toNat - 0x41 + 10)
  else if 0x61 ≤ byte && byte ≤ 0x66 then some (byte.toNat - 0x61 + 10)
  else none

def escape (byte : UInt8) : List Char :=
  ['%', hexDigit (byte.toNat / 16), hexDigit (byte.toNat % 16)]

def isAlphanumeric (byte : UInt8) : Bool :=
  (0x30 ≤ byte && byte ≤ 0x39) || (0x41 ≤ byte && byte ≤ 0x5A) || (0x61 ≤ byte && byte ≤ 0x7A)

/-- Letters, digits, and the four marks `-`, `_`, `.` and `~`. -/
def isUnreserved (byte : UInt8) : Bool :=
  isAlphanumeric byte || byte == 0x2D || byte == 0x2E || byte == 0x5F || byte == 0x7E

/-- One byte of a path segment. -/
def encodeByte (byte : UInt8) : List Char :=
  if isUnreserved byte then [Char.ofNat byte.toNat] else escape byte

/-- A text as a single path segment. -/
def encodeList (characters : List Char) : List Char :=
  (Utf8.encode characters).flatMap encodeByte

def encode (text : String) : String :=
  String.ofList (encodeList text.toList)

/-- Replaces every escaped form by the byte it stands for. -/
def decodeBytes : List UInt8 → List UInt8
  | [] => []
  | 0x25 :: high :: low :: rest =>
      match hexValue? high, hexValue? low with
      | some highValue, some lowValue =>
          UInt8.ofNat (16 * highValue + lowValue) :: decodeBytes rest
      | _, _ => 0x25 :: decodeBytes (high :: low :: rest)
  | byte :: rest => byte :: decodeBytes rest

/-- Reads a text, unless the bytes it stands for are no text. -/
def decode? (characters : List Char) : Option (List Char) :=
  Utf8.decode? (decodeBytes (Utf8.encode characters))

end AuditReports.Text.Percent
