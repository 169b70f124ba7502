import AuditReports.Api.Host
import AuditReports.Text.Form

/-!
# Addresses on the wire

Before a request is sent, the text of its address is read by the rules of the URL standard. Tabs and
line breaks are taken out, a backslash counts as a slash, segments that are a dot or two are
resolved, also where their dots are escaped, characters that may not stand in a path or a query are
escaped, and the fragment is dropped. What remains is the target of the request: its path and its
query. An address that is not an absolute one for the web has no target, and neither has one whose
host is none.
-/

namespace AuditReports

/-- What is asked for on a host. -/
structure Target where
  path : List Char
  query : Option (List Char)
  deriving DecidableEq, Repr

namespace Target

def text (target : Target) : String :=
  String.ofList (target.path ++ target.query.elim [] fun query => '?' :: query)

/-! ## Cutting up the text -/

def isControlOrSpace (character : Char) : Bool :=
  character.toNat ≤ 0x20

/-- Removes control characters and spaces at both ends, and tabs and line breaks anywhere. -/
def clean (characters : List Char) : List Char :=
  let trimmed := (characters.dropWhile isControlOrSpace).reverse.dropWhile isControlOrSpace
  trimmed.reverse.filter fun character =>
    character != '\t' && character != '\n' && character != '\r'

def isSlash (character : Char) : Bool :=
  character == '/' || character == '\\'

/-- What follows the scheme of an address for the web. -/
def afterScheme? (characters : List Char) : Option (List Char) :=
  match Text.cutFirst ':' characters with
  | (scheme, some rest) =>
      let scheme := scheme.map Char.toLower
      if scheme == "http".toList || scheme == "https".toList then some rest else none
  | (_, none) => none

/-- Ends the part of an address that names the host. -/
def endsAuthority (character : Char) : Bool :=
  isSlash character || character == '?' || character == '#'

/-- After the name of a host and a colon there is a number below 65536, or nothing. -/
def validNumber (number : Option (List Char)) : Bool :=
  match number with
  | none => true
  | some digits => digits.all (·.isDigit) && digits.foldl
      (fun value digit => 10 * value + (digit.toNat - '0'.toNat)) 0 < 65536

/-- The part of an authority after the last at sign. -/
def withoutUser (authority : List Char) : List Char :=
  ((Text.fields '@' authority).getLast?).getD []

/-- There is a host, and its name or number and the number of its port are possible ones. -/
def validAuthority (authority : List Char) : Bool :=
  let host := withoutUser authority
  match host with
  | '[' :: inside =>
      let number := inside.takeWhile (· != ']')
      Host.isLongNumber number && match inside.drop number.length with
        | [']'] => true
        | ']' :: ':' :: port => validNumber (some port)
        | _ => false
  | _ =>
      let (name, port) := Text.cutFirst ':' host
      Host.isName name && validNumber port

/-! ## Paths and queries -/

/-- Escapes the bytes of a character if it is one to be escaped. -/
def escapeIf (escapes : Char → Bool) (character : Char) : List Char :=
  if escapes character then (Text.Utf8.encode [character]).flatMap Text.Percent.escape
  else [character]

/-- May not stand in a path. -/
def escapesInPath (character : Char) : Bool :=
  character.toNat ≤ 0x20 || 0x7F ≤ character.toNat ||
    "\"#<>?^`\x7b\x7d".toList.contains character

/-- May not stand in a query. -/
def escapesInQuery (character : Char) : Bool :=
  character.toNat ≤ 0x20 || 0x7F ≤ character.toNat || "\"#<>'".toList.contains character

/-- A segment that stands for the one it is in. -/
def isSingleDot (segment : List Char) : Bool :=
  let segment := segment.map Char.toLower
  segment == ".".toList || segment == "%2e".toList

/-- A segment that leads one segment up. -/
def isDoubleDot (segment : List Char) : Bool :=
  let segment := segment.map Char.toLower
  segment == "..".toList || segment == ".%2e".toList || segment == "%2e.".toList ||
    segment == "%2e%2e".toList

/-- Resolves the segments that are left; the ones before come in reverse. A dot segment at the end
leaves an empty segment behind. -/
def resolve (before : List (List Char)) : List (List Char) → List (List Char)
  | [] => before.reverse
  | segment :: rest =>
      if isDoubleDot segment then
        resolve (if rest.isEmpty then [] :: before.drop 1 else before.drop 1) rest
      else if isSingleDot segment then
        resolve (if rest.isEmpty then [] :: before else before) rest
      else resolve (segment.flatMap (escapeIf escapesInPath) :: before) rest

/-- The path from the slash after the host on. -/
def pathOf (characters : List Char) : List Char :=
  let segments :=
    match characters with
    | [] => [[]]
    | _ :: rest => Text.fieldsBy isSlash rest
  (resolve [] segments).flatMap fun segment => '/' :: segment

/-- The query, which reaches from a question mark to the fragment. -/
def queryOf (characters : List Char) : Option (List Char) :=
  match characters with
  | '?' :: rest => some ((rest.takeWhile (· != '#')).flatMap (escapeIf escapesInQuery))
  | _ => none

def ofUrl? (url : String) : Option Target := do
  let rest ← afterScheme? (clean url.toList)
  let rest := rest.dropWhile isSlash
  let authority := rest.takeWhile fun character => !endsAuthority character
  let rest := rest.drop authority.length
  if validAuthority authority then
    let path := rest.takeWhile fun character => character != '?' && character != '#'
    some ⟨pathOf path, queryOf (rest.drop path.length)⟩
  else none

/-- Adds pairs to the query. A query without anything in it is dropped. -/
def withPairs (target : Target) (pairs : List (String × String)) : Target :=
  let given := target.query.getD []
  let added := Text.Form.encode pairs
  let query :=
    if given.isEmpty then added
    else if pairs.isEmpty then given
    else given ++ '&' :: added
  { target with query := if query.isEmpty then none else some query }

end Target

end AuditReports
