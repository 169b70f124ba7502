import AuditReports.Text.Fields
import AuditReports.Text.Percent

/-!
# Form encoding

The query of an address holds name and value pairs in the `application/x-www-form-urlencoded` form:
pairs are joined by ampersands and a name is joined to its value by an equals sign. A space is
written as a plus sign; letters, digits and four marks stand for themselves and every other byte is
escaped.
-/

namespace AuditReports.Text.Form

/-- One byte of a name or a value. -/
def encodeByte (byte : UInt8) : List Char :=
  if byte == 0x20 then ['+']
  else if Percent.isAlphanumeric byte || byte == 0x2A || byte == 0x2D || byte == 0x2E ||
      byte == 0x5F then
    [Char.ofNat byte.toNat]
  else Percent.escape byte

def encodeList (characters : List Char) : List Char :=
  (Utf8.encode characters).flatMap encodeByte

def pair (entry : String × String) : List Char :=
  encodeList entry.1.toList ++ '=' :: encodeList entry.2.toList

/-- The pairs in the order given. -/
def encode : List (String × String) → List Char
  | [] => []
  | [entry] => pair entry
  | entry :: rest => pair entry ++ '&' :: encode rest

/-- Reads a name or a value. -/
def decodeText (characters : List Char) : String :=
  String.ofList (Utf8.decodeLenient (Percent.decodeBytes (Utf8.encode
    (characters.map fun character => if character == '+' then ' ' else character))))

/-- Reads the pairs of a query; empty ones are passed over, and a missing value is empty. -/
def decode (query : List Char) : List (String × String) :=
  ((fields '&' query).filter (fun field => !field.isEmpty)).map fun field =>
    let (name, value) := cutFirst '=' field
    (decodeText name, decodeText (value.getD []))

end AuditReports.Text.Form
