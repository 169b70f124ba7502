import AuditReports.Text.Percent

/-!
# File names in headers

A server may name the file that it sends in a `Content-Disposition` header. The name is looked for
anywhere in the header, at the leftmost place where it can be found: the extended form, whose value
reaches to the next semicolon, or the plain form, whose value may stand in quotes and reaches to the
next quote or semicolon. The words around the value may be in any case. Either value is read as
percent-encoded, unless the bytes that it stands for are no text; then it is taken as it stands.
-/

namespace AuditReports.Disposition

/-- Passes over a word given in small letters, whatever the case of the letters. -/
def skipWord : List Char → List Char → Option (List Char)
  | [], text => some text
  | _ :: _, [] => none
  | expected :: word, character :: text =>
      if character.toLower == expected then skipWord word text else none

/-- The longest prefix without any of the closing characters, if it is not empty. -/
def valueUntil (closes : Char → Bool) (text : List Char) : Option (List Char) :=
  let value := text.takeWhile fun character => !closes character
  if value.isEmpty then none else some value

/-- The value of an extended name that starts here. -/
def extendedValue? (text : List Char) : Option (List Char) :=
  (skipWord "filename*=utf-8''".toList text).bind (valueUntil (· == ';'))

def skipQuote : List Char → List Char
  | '"' :: rest => rest
  | rest => rest

def plainValue? (text : List Char) : Option (List Char) :=
  (skipWord "filename=".toList text).bind fun rest =>
    valueUntil (fun character => character == '"' || character == ';') (skipQuote rest)

/-- The value of the leftmost name. -/
def value? : List Char → Option (List Char)
  | [] => none
  | character :: rest =>
      match extendedValue? (character :: rest) with
      | some value => some value
      | none =>
          match plainValue? (character :: rest) with
          | some value => some value
          | none => value? rest

def filename? (header : String) : Option String :=
  (value? header.toList).map fun value =>
    String.ofList ((Text.Percent.decode? value).getD value)

end AuditReports.Disposition
