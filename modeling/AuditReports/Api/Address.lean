import AuditReports.Text.Blank
import AuditReports.Text.Percent

/-!
# Addresses of the service

The address of a call is put together from three parts: the base that the operator gives, the prefix
under which the service is mounted, and the path of the call. Each part may have been typed with
more slashes or fewer, so the result has one slash where there is a run of them. Two slashes stay
after a colon, where they follow the scheme, and at the very beginning.
-/

namespace AuditReports

/-- Where the service is: a base without slashes at its end, and a prefix. -/
structure Mount where
  base : String
  apiPath : String
  deriving DecidableEq, Repr

namespace Mount

def standardPath : String := "/webhook"

/-- Writes every run of slashes as one slash. The number says how many slashes may be written where
the text goes on. -/
def collapseFrom (allowed : Nat) : List Char → List Char
  | [] => []
  | character :: rest =>
      if character == '/' then
        match allowed with
        | 0 => collapseFrom 0 rest
        | left + 1 => '/' :: collapseFrom left rest
      else character :: collapseFrom (if character == ':' then 2 else 1) rest

/-- Writes every run of slashes as one slash, or two after a colon and at the beginning. -/
def collapse (characters : List Char) : List Char :=
  collapseFrom 2 characters

/-- The base without white space around it and without slashes at its end. -/
def canonicalBase (base : String) : String :=
  String.ofList (Text.dropTrailing (· == '/') (Text.trimList base.toList))

def withLeadingSlash : List Char → List Char
  | '/' :: rest => '/' :: rest
  | rest => '/' :: rest

/-- Removes one slash at the end, if there is one. -/
def withoutTrailingSlash (characters : List Char) : List Char :=
  if characters.getLast? == some '/' then characters.dropLast else characters

/-- The prefix with a slash in front and without the slash at its end; the default for a blank one.
A single slash is no prefix at all. -/
def canonicalPath (path : String) : String :=
  let trimmed := Text.trimList path.toList
  let given := if trimmed.isEmpty then standardPath.toList else trimmed
  String.ofList (withoutTrailingSlash (withLeadingSlash given))

def ofBase (base : String) : Mount :=
  ⟨canonicalBase base, canonicalPath standardPath⟩

def under (mount : Mount) (path : String) : Mount :=
  { mount with apiPath := canonicalPath path }

/-- The address of a path of the service. -/
def address (mount : Mount) (path : String) : String :=
  String.ofList (collapse (mount.base.toList ++ mount.apiPath.toList ++ path.toList))

/-! ## Paths of the calls

An identifier is encoded so that it is always a single segment. -/

def pathOfReport (jobId : String) : String :=
  "/reports/" ++ Text.Percent.encode jobId

def pathOfDownload (jobId : String) : String :=
  pathOfReport jobId ++ "/download"

def pathOfAudit (auditId : String) : String :=
  "/audits/" ++ Text.Percent.encode auditId

def pathOfDeficiency (auditId : String) (deficiencyId : Int) : String :=
  pathOfAudit auditId ++ "/deficiencies/" ++ toString deficiencyId

end Mount

end AuditReports
