import AuditReports.Text.Blank
import AuditReports.Text.Fields
import AuditReports.Text.Utf8

/-!
# Character sets

The content type of a body may name the character set of its text. Which character sets there are,
and how a content type names one, is left to a library: there are many more of them than a client
has any use for. What is fixed here is how the library is used. A byte order mark at the beginning
decides before any name does, and is not part of the text; without either, and if the library does
not know the name, the text is in UTF-8. Reading never fails: what is no text becomes a replacement
character.

The basic library knows UTF-8, UTF-16 in both byte orders and the Western code page that also
answers to the names of ASCII and Latin-1.
-/

namespace AuditReports.Text

inductive Charset where
  | utf8
  | utf16Little
  | utf16Big
  | western
  deriving DecidableEq, Repr

namespace Charset

/-- The characters for the bytes from 80 to 9F in the Western code page. -/
def westernControls : List Nat :=
  [0x20AC, 0x81, 0x201A, 0x192, 0x201E, 0x2026, 0x2020, 0x2021, 0x2C6, 0x2030, 0x160, 0x2039,
    0x152, 0x8D, 0x17D, 0x8F, 0x90, 0x2018, 0x2019, 0x201C, 0x201D, 0x2022, 0x2013, 0x2014,
    0x2DC, 0x2122, 0x161, 0x203A, 0x153, 0x9D, 0x17E, 0x178]

def westernCharacter (byte : UInt8) : Char :=
  Char.ofNat ((if byte < 0x80 then none else westernControls[byte.toNat - 0x80]?).getD byte.toNat)

/-- Joins bytes to units of sixteen bits; a last single byte makes no unit. -/
def units (big : Bool) : List UInt8 → List (Option Nat)
  | first :: second :: rest =>
      some (if big then first.toNat * 0x100 + second.toNat
        else second.toNat * 0x100 + first.toNat) :: units big rest
  | [_] => [none]
  | [] => []

def isLeading (unit : Nat) : Bool :=
  0xD800 ≤ unit && unit < 0xDC00

def isTrailing (unit : Nat) : Bool :=
  0xDC00 ≤ unit && unit < 0xE000

/-- The text of units, where a half of a surrogate pair without the other is replaced. -/
def joinUnits : List (Option Nat) → List Char
  | [] => []
  | none :: rest => Utf8.replacement :: joinUnits rest
  | some leading :: some trailing :: rest =>
      if isLeading leading && isTrailing trailing then
        Char.ofNat (0x10000 + (leading - 0xD800) * 0x400 + (trailing - 0xDC00)) :: joinUnits rest
      else
        (if isLeading leading || isTrailing leading then Utf8.replacement
          else Char.ofNat leading) :: joinUnits (some trailing :: rest)
  | some unit :: rest =>
      (if isLeading unit || isTrailing unit then Utf8.replacement else Char.ofNat unit) ::
        joinUnits rest

/-- Reads bytes that have no byte order mark. -/
def decode (charset : Charset) (bytes : List UInt8) : List Char :=
  match charset with
  | .utf8 => Utf8.decodeLenient bytes
  | .utf16Little => joinUnits (units false bytes)
  | .utf16Big => joinUnits (units true bytes)
  | .western => bytes.map westernCharacter

/-! ## Names -/

def names : Charset → List String
  | .utf8 =>
      ["utf-8", "utf8", "unicode-1-1-utf-8", "unicode11utf8", "unicode20utf8", "x-unicode20utf8"]
  | .utf16Little =>
      ["utf-16", "utf-16le", "ucs-2", "unicode", "unicodefeff", "csunicode", "iso-10646-ucs-2"]
  | .utf16Big => ["utf-16be", "unicodefffe"]
  | .western =>
      ["ascii", "us-ascii", "ansi_x3.4-1968", "latin1", "l1", "iso-8859-1", "iso8859-1",
        "iso_8859-1", "iso_8859-1:1987", "iso88591", "iso-ir-100", "csisolatin1", "cp819", "ibm819",
        "windows-1252", "cp1252", "x-cp1252"]

def ofName? (name : String) : Option Charset :=
  let name := String.ofList ((trimList name.toList).map Char.toLower)
  [utf8, utf16Little, utf16Big, western].find? fun charset => charset.names.contains name

/-- The value of a parameter, without the quotes that it may stand in. -/
def unquoted (value : List Char) : List Char :=
  match value with
  | '"' :: rest => rest.takeWhile (· != '"')
  | value => value

def parameter? (name : String) (parameter : List Char) : Option String :=
  match cutFirst '=' parameter with
  | (found, some value) =>
      if (trimList found).map Char.toLower == name.toList then
        some (String.ofList (unquoted (trimList value)))
      else none
  | _ => none

/-- The name of the character set in a content type. -/
def nameIn? (contentType : String) : Option String :=
  (fields ';' contentType.toList).drop 1 |>.findSome? (parameter? "charset")

/-! ## Libraries -/

/-- What a client knows of character sets. -/
structure Library where
  /-- The name of a character set in a content type. -/
  nameIn? : String → Option String
  /-- How bytes are read in the character set of a name. -/
  decode? : String → Option (List UInt8 → List Char)

namespace Library

def basic : Library where
  nameIn? := Charset.nameIn?
  decode? name := (ofName? name).map Charset.decode

/-- How bytes are read by a content type. -/
def reader (library : Library) (contentType : Option String) : List UInt8 → List Char :=
  ((contentType.bind library.nameIn?).bind library.decode?).getD Utf8.decodeLenient

/-- The text of bytes; a byte order mark decides over the content type. -/
def read (library : Library) (contentType : Option String) (bytes : List UInt8) : List Char :=
  match bytes with
  | 0xEF :: 0xBB :: 0xBF :: rest => decode .utf8 rest
  | 0xFE :: 0xFF :: rest => decode .utf16Big rest
  | 0xFF :: 0xFE :: rest => decode .utf16Little rest
  | bytes => library.reader contentType bytes

end Library

end Charset

end AuditReports.Text
