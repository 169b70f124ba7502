/-!
# Separated fields

A text is cut at every occurrence of a separator. There is always one field more than there are
separators, so the empty text has one empty field, and joining the fields again gives the text back.
-/

namespace AuditReports.Text

/-- Cuts at every character that satisfies the test; the separators themselves are dropped. -/
def fieldsBy (separates : Char → Bool) : List Char → List (List Char)
  | [] => [[]]
  | character :: rest =>
      if separates character then [] :: fieldsBy separates rest
      else
        match fieldsBy separates rest with
        | [] => [[character]]
        | field :: others => (character :: field) :: others

/-- Cuts at one separator. -/
def fields (separator : Char) (characters : List Char) : List (List Char) :=
  fieldsBy (· == separator) characters

/-- The text before the first separator and the text after it, if there is one. -/
def cutFirst (separator : Char) : List Char → List Char × Option (List Char)
  | [] => ([], none)
  | character :: rest =>
      if character == separator then ([], some rest)
      else
        let (before, after) := cutFirst separator rest
        (character :: before, after)

end AuditReports.Text
