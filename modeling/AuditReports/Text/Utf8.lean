/-!
# UTF-8

Texts travel as UTF-8. Writing and strict reading are the library's own. Reading what a server sent
must not fail, so the lenient reader replaces every byte sequence that cannot be continued to a
character by one replacement character, and a sequence that breaks off inside a character by one
for the part that was there.
-/

namespace AuditReports.Text.Utf8

/-- The bytes of a text. -/
def encode (characters : List Char) : List UInt8 :=
  characters.flatMap String.utf8EncodeChar

/-- The text with these bytes, if they are the bytes of a text. -/
def decode? (bytes : List UInt8) : Option (List Char) :=
  (String.fromUTF8? ⟨bytes.toArray⟩).map String.toList

/-- What stands for bytes that are no text. -/
def replacement : Char := Char.ofNat 0xFFFD

/-- How many bytes follow a leading byte, and between which limits the first of them must lie;
the other ones must lie between 80 and BF. -/
def continuation? (lead : UInt8) : Option (Nat × UInt8 × UInt8) :=
  if 0xC2 ≤ lead && lead ≤ 0xDF then some (1, 0x80, 0xBF)
  else if lead == 0xE0 then some (2, 0xA0, 0xBF)
  else if lead == 0xED then some (2, 0x80, 0x9F)
  else if 0xE1 ≤ lead && lead ≤ 0xEF then some (2, 0x80, 0xBF)
  else if lead == 0xF0 then some (3, 0x90, 0xBF)
  else if 0xF1 ≤ lead && lead ≤ 0xF3 then some (3, 0x80, 0xBF)
  else if lead == 0xF4 then some (3, 0x80, 0x8F)
  else none

/-- The bits that a leading byte with this many bytes after it contributes. -/
def leadBits (following : Nat) (lead : UInt8) : Nat :=
  lead.toNat % (if following == 1 then 0x20 else if following == 2 then 0x10 else 0x08)

/-- The character that is being read: its bits so far, how many bytes are missing, and the limits
of the next one. -/
structure Partial where
  bits : Nat
  missing : Nat
  low : UInt8
  high : UInt8

/-- Reads a byte when no character is open: the finished characters, and the character it opens. -/
def opening (byte : UInt8) : List Char × Option Partial :=
  if byte < 0x80 then ([Char.ofNat byte.toNat], none)
  else
    match continuation? byte with
    | none => ([replacement], none)
    | some (following, low, high) => ([], some ⟨leadBits following byte, following, low, high⟩)

def advance (state : Option Partial) (byte : UInt8) : List Char × Option Partial :=
  match state with
  | none => opening byte
  | some pending =>
      if pending.low ≤ byte && byte ≤ pending.high then
        let bits := pending.bits * 0x40 + byte.toNat % 0x40
        if pending.missing == 1 then ([Char.ofNat bits], none)
        else ([], some ⟨bits, pending.missing - 1, 0x80, 0xBF⟩)
      else
        let (characters, next) := opening byte
        (replacement :: characters, next)

def decodeFrom (state : Option Partial) : List UInt8 → List Char
  | [] => if state.isSome then [replacement] else []
  | byte :: rest =>
      let (characters, next) := advance state byte
      characters ++ decodeFrom next rest

/-- The text of any bytes. -/
def decodeLenient (bytes : List UInt8) : List Char :=
  decodeFrom none bytes

end AuditReports.Text.Utf8
