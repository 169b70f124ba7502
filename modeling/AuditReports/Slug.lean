import AuditReports.Text.Blank
import AuditReports.Text.Decomposition
import AuditReports.Text.Lowercase

/-!
# Slugs

A slug names a report file after an address. The address is lowered and decomposed, every run of
characters other than small letters and digits of ASCII becomes one dash, dashes at the ends are
removed, and at most the first sixty-four characters are kept. The cut comes last, so it may leave a
dash at the end; nothing else does.
-/

namespace AuditReports

namespace Slug

/-- The small letters and the digits of ASCII. -/
def isPlain (character : Char) : Bool :=
  ('a' ≤ character && character ≤ 'z') || ('0' ≤ character && character ≤ '9')

/-- The form of an address in which its plain characters are looked for. -/
def fold (address : String) : List Char :=
  Text.decompose (Text.lowercase address.toList)

/-- Writes one dash for every run of characters that are not plain. The flag says that the
character before was not plain either, so that its dash has been written. -/
def dashed (afterDash : Bool) : List Char → List Char
  | [] => []
  | character :: rest =>
      if isPlain character then character :: dashed false rest
      else if afterDash then dashed true rest
      else '-' :: dashed true rest

/-- Removes the dashes at both ends. -/
def trimDashes (characters : List Char) : List Char :=
  Text.dropTrailing (· == '-') (characters.dropWhile (· == '-'))

/-- The longest slug. -/
def limit : Nat := 64

end Slug

/-- The slug of an address, `report` when nothing of the address is left. -/
def slug (address : String) : String :=
  let kept := (Slug.trimDashes (Slug.dashed false (Slug.fold address))).take Slug.limit
  if kept.isEmpty then "report" else String.ofList kept

end AuditReports
