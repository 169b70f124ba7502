/-!
# Blank characters

What an operator types, and what the server sends, is judged after surrounding white space has been
removed. White space here is the `White_Space` property of Unicode, twenty-five characters in all:
the zero width space and the byte order mark are not among them, the no-break space and the
ideographic space are. All text is cut by character, so the operations are given on lists of
characters and lifted to strings.
-/

namespace AuditReports.Text

/-- The `White_Space` property of Unicode. -/
def isBlank (character : Char) : Bool :=
  let code := character.toNat
  (0x09 ≤ code && code ≤ 0x0D) || code == 0x20 || code == 0x85 || code == 0xA0 || code == 0x1680 ||
    (0x2000 ≤ code && code ≤ 0x200A) || code == 0x2028 || code == 0x2029 || code == 0x202F ||
    code == 0x205F || code == 0x3000

/-- Removes the longest suffix whose characters all satisfy the test. -/
def dropTrailing (test : Char → Bool) : List Char → List Char
  | [] => []
  | character :: rest =>
      match dropTrailing test rest with
      | [] => if test character then [] else [character]
      | kept => character :: kept

/-- Removes white space at both ends. -/
def trimList (characters : List Char) : List Char :=
  dropTrailing isBlank (characters.dropWhile isBlank)

def trim (text : String) : String :=
  String.ofList (trimList text.toList)

/-- A text that is empty once trimmed. -/
def blank (text : String) : Bool :=
  trim text == ""

/-- The trimmed text, unless nothing is left of it. -/
def content? (text : String) : Option String :=
  let trimmed := trim text
  if trimmed == "" then none else some trimmed

/-- The trimmed text, or a dash where there is nothing to show. -/
def contentOrDash (text : Option String) : String :=
  (text.bind content?).getD "-"

end AuditReports.Text
