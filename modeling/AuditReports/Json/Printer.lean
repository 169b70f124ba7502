import AuditReports.Json.Node

/-!
# Writing JSON

A document is written without white space. In a string the quote, the backslash and the control
characters are escaped, with the short escape where there is one; all other characters stand for
themselves.
-/

namespace AuditReports.Json

namespace Literal

def text (literal : Literal) : String :=
  let sign := if literal.negative then "-" else ""
  let fraction :=
    if literal.fraction.isEmpty then ""
    else "." ++ String.join (literal.fraction.map toString)
  let exponent := literal.exponent.elim "" fun value => "e" ++ toString value
  sign ++ toString literal.whole ++ fraction ++ exponent

end Literal

namespace Printer

def hexDigit (value : Nat) : Char :=
  if value < 10 then Char.ofNat ('0'.toNat + value) else Char.ofNat ('a'.toNat + (value - 10))

/-- One character of a string. -/
def character (character : Char) : List Char :=
  match character with
  | '"' => ['\\', '"']
  | '\\' => ['\\', '\\']
  | '\x08' => ['\\', 'b']
  | '\x0c' => ['\\', 'f']
  | '\n' => ['\\', 'n']
  | '\r' => ['\\', 'r']
  | '\t' => ['\\', 't']
  | other =>
      if other.toNat < 0x20 then
        ['\\', 'u', '0', '0', hexDigit (other.toNat / 16), hexDigit (other.toNat % 16)]
      else [other]

def quoted (text : String) : String :=
  String.ofList ('"' :: text.toList.flatMap character ++ ['"'])

end Printer

namespace Node

mutual

/-- Writes a document; a string without a text is written as an empty one. -/
def text : Node → String
  | .null => "null"
  | .boolean value => if value then "true" else "false"
  | .number literal => literal.text
  | .string content => Printer.quoted (content.getD "")
  | .array items => "[" ++ itemsText items ++ "]"
  | .object members => "\x7b" ++ membersText members ++ "\x7d"

def itemsText : List Node → String
  | [] => ""
  | [item] => text item
  | item :: rest => text item ++ "," ++ itemsText rest

def membersText : List (Option String × Node) → String
  | [] => ""
  | [(name, node)] => Printer.quoted (name.getD "") ++ ":" ++ text node
  | (name, node) :: rest =>
      Printer.quoted (name.getD "") ++ ":" ++ text node ++ "," ++ membersText rest

end

end Node

end AuditReports.Json
