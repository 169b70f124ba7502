import AuditReports.Files.Tree
import AuditReports.Report.Artifact

/-!
# Saving artifacts

An artifact is written into a directory, which is created if need be. Whatever path the server may
have given as a name, only its last component is used; if that is no name, one is made from the job.
-/

namespace AuditReports.Files

/-- What could not be done, and why. -/
structure SaveError where
  action : String
  cause : FileError
  deriving DecidableEq, Repr

namespace SaveError

def message (error : SaveError) : String :=
  error.action ++ ": " ++ error.cause.message

end SaveError

/-- The name under which an artifact is saved. -/
def savedName (artifact : Artifact) : String :=
  (Path.fileName? artifact.filename).getD s!"audit-report-{artifact.jobId}.zip"

def savedPath (directory : String) (artifact : Artifact) : String :=
  Path.join directory (savedName artifact)

/-- Saves an artifact; the result is the path to it. -/
def save (tree : Tree) (directory : String) (artifact : Artifact) :
    Tree × Except SaveError String :=
  match tree.createDirectories directory with
  | (tree, some error) =>
      (tree, .error ⟨"failed to create output directory " ++ directory, error⟩)
  | (tree, none) =>
      let path := savedPath directory artifact
      match tree.writeFile path artifact.bytes with
      | .ok tree => (tree, .ok path)
      | .error error => (tree, .error ⟨"failed to write " ++ path, error⟩)

end AuditReports.Files
