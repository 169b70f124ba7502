import AuditReports.Slug

/-!
# Report artifacts

The finished report is downloaded as bytes. It keeps the name that the server gave it; without one
it is named after the address, with an ending that its content type decides.
-/

namespace AuditReports

/-- A finished report as it comes from the server. -/
structure Download where
  body : List UInt8
  filename : Option String
  contentType : Option String
  deriving DecidableEq, Repr

/-- A finished report that has a name. -/
structure Artifact where
  jobId : String
  bytes : List UInt8
  filename : String
  contentType : Option String
  deriving DecidableEq, Repr

namespace Artifact

/-- The first list occurs in the second one without a gap. -/
def occursIn (word : List Char) : List Char → Bool
  | [] => word.isEmpty
  | character :: rest => word.isPrefixOf (character :: rest) || occursIn word rest

def mentions (contentType : String) (word : String) : Bool :=
  occursIn word.toList contentType.toList

/-- `pdf` if the content type says so and says nothing of `zip`; otherwise `zip`. -/
def extension (contentType : Option String) : String :=
  match contentType with
  | none => "zip"
  | some contentType =>
      if mentions contentType "zip" then "zip"
      else if mentions contentType "pdf" then "pdf"
      else "zip"

/-- The name that the server gave, or one made from the address. -/
def chooseName (given contentType : Option String) (address : String) : String :=
  match given.bind Text.content? with
  | some name => name
  | none => s!"audit-report-{slug address}.{extension contentType}"

/-- Names a download. -/
def ofDownload (jobId : String) (download : Download) (address : String) : Artifact where
  jobId := jobId
  bytes := download.body
  filename := chooseName download.filename download.contentType address
  contentType := download.contentType

end Artifact

end AuditReports
