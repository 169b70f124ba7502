import AuditReports.Files.Path

/-!
# Files and directories

The part of a file system that can be reached from a working directory by relative paths. At first
there are only the working directory and the directories above it. Every operation walks along a
path one component after another; the first component that cannot be followed decides the error. A
name has at most 255 bytes and a path fewer than 4096.
-/

namespace AuditReports.Files

/-- A place: so many directories up from the working directory, and then down along names, of which
the innermost comes first. -/
structure Place where
  up : Nat
  names : List String
  deriving DecidableEq, Repr

namespace Place

def here : Place := ⟨0, []⟩

def above (place : Place) : Place :=
  match place.names with
  | [] => ⟨place.up + 1, []⟩
  | _ :: names => ⟨place.up, names⟩

def child (place : Place) (name : String) : Place :=
  ⟨place.up, name :: place.names⟩

/-- The path from the working directory to a place below it. -/
def path (place : Place) : String :=
  "/".intercalate place.names.reverse

end Place

/-- What a name may stand for. -/
inductive Entry where
  | directory
  | file (bytes : List UInt8)
  deriving DecidableEq, Repr

namespace Entry

/-- A path as it is listed: that of a directory ends in a slash. -/
def listed (path : String) : Entry → String
  | .directory => path ++ "/"
  | .file _ => path

end Entry

inductive FileError where
  | notFound
  | exists
  | notADirectory
  | isADirectory
  | nameTooLong
  | nulByte
  deriving DecidableEq, Repr

namespace FileError

def message : FileError → String
  | .notFound => "No such file or directory (os error 2)"
  | .exists => "File exists (os error 17)"
  | .notADirectory => "Not a directory (os error 20)"
  | .isADirectory => "Is a directory (os error 21)"
  | .nameTooLong => "File name too long (os error 36)"
  | .nulByte => "file name contained an unexpected NUL byte"

end FileError

/-- What has been created, place by place. -/
structure Tree where
  entries : List (Place × Entry)
  deriving DecidableEq, Repr

namespace Tree

def empty : Tree := ⟨[]⟩

/-- What is at a place, if anything is. The working directory and those above it always exist. -/
def entry? (tree : Tree) (place : Place) : Option Entry :=
  if place.names.isEmpty then some .directory
  else (tree.entries.find? (·.1 == place)).map (·.2)

def put (tree : Tree) (place : Place) (entry : Entry) : Tree :=
  ⟨tree.entries.filter (·.1 != place) ++ [(place, entry)]⟩

def longestName : Nat := 255

def longestPath : Nat := 4095

/-- What is wrong with a path before anything is looked up. -/
def pathError? (path : String) : Option FileError :=
  if path.toList.contains '\x00' then some .nulByte
  else if longestPath < path.utf8ByteSize then some .nameTooLong
  else none

def lookup (tree : Tree) (place : Place) (name : String) : Except FileError (Option Entry) :=
  if longestName < name.utf8ByteSize then .error .nameTooLong
  else .ok (tree.entry? (place.child name))

/-- Creates the directories along a path that do not exist yet. The last one is created only if the
path names it; otherwise it has to exist. The tree is returned with an error too, since the
directories before the one that failed have been created. -/
def createFrom (tree : Tree) (place : Place) (named : Bool) : List String → Tree × Option FileError
  | [] => (tree, none)
  | name :: rest =>
      if name == ".." then createFrom tree place.above named rest
      else
        match tree.lookup place name with
        | .error error => (tree, some error)
        | .ok none =>
            if rest.isEmpty && !named then (tree, some .notFound)
            else
              createFrom (tree.put (place.child name) .directory) (place.child name) named rest
        | .ok (some .directory) => createFrom tree (place.child name) named rest
        | .ok (some (.file _)) =>
            (tree, some (if rest.isEmpty && named then .exists else .notADirectory))

/-- Creates a directory with all the directories above it. A path that ends in a dot does not name
the directory that it leads to. -/
def createDirectories (tree : Tree) (path : String) : Tree × Option FileError :=
  match pathError? path with
  | some error => (tree, some error)
  | none => createFrom tree .here (!Path.endsInDot path) (Path.components path)

/-- Writes a file whose path is left to be followed from a place. -/
def writeFrom (tree : Tree) (place : Place) (bytes : List UInt8) :
    List String → Except FileError Tree
  | [] => .error .isADirectory
  | name :: rest =>
      if name == ".." then writeFrom tree place.above bytes rest
      else
        match tree.lookup place name with
        | .error error => .error error
        | .ok (some .directory) => writeFrom tree (place.child name) bytes rest
        | .ok entry =>
            if rest.isEmpty then .ok (tree.put (place.child name) (.file bytes))
            else if entry.isNone then .error .notFound
            else .error .notADirectory

/-- Writes a file, replacing one that exists. -/
def writeFile (tree : Tree) (path : String) (bytes : List UInt8) : Except FileError Tree :=
  match pathError? path with
  | some error => .error error
  | none => writeFrom tree .here bytes (Path.components path)

/-- Inserts into a list that is ordered by the listed paths. -/
def insertByPath (item : String × Entry) : List (String × Entry) → List (String × Entry)
  | [] => [item]
  | other :: rest =>
      if item.1 < other.1 then item :: other :: rest else other :: insertByPath item rest

/-- Everything below the working directory, ordered by the listed paths. -/
def listing (tree : Tree) : List (String × Entry) :=
  (tree.entries.filter (·.1.up == 0)).foldl
    (fun items (place, entry) => insertByPath (entry.listed place.path, entry) items) []

end Tree

end AuditReports.Files
