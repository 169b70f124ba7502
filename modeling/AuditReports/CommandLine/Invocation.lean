import AuditReports.CommandLine.Command
import AuditReports.CommandLine.Grammar
import AuditReports.Text.Integer

/-!
# Command lines

A command line names one command. Options that every command has may stand before the name and after
it; the arguments of the command follow its name. The word `help` asks for help, perhaps on a
command.
-/

namespace AuditReports.CommandLine

/-- A command line that has been understood. -/
structure Invocation where
  switches : Switches
  command : Command
  deriving DecidableEq, Repr

/-! ## Kinds of values -/

namespace Intake

variable {α : Type}

def text (set : String → α → α) : Intake α :=
  fun value => .ok (set value)

/-- A path, which may not be empty. -/
def path (set : String → α → α) : Intake α :=
  fun value => if value == "" then .error .invalidValue else .ok (set value)

/-- A whole number of sixty-four bits with a sign, if it lies within bounds. -/
def wholeNumber (least greatest : Int) (set : Int → α → α) : Intake α :=
  fun value =>
    match Text.integer (Nat.pow 2 63 - 1) value.toList with
    | .error _ => .error .malformedNumber
    | .ok number =>
        if least ≤ number && number ≤ greatest then .ok (set number)
        else .error .malformedNumber

/-- An identifier, any number of sixty-four bits with a sign. -/
def identifier (set : Int → α → α) : Intake α :=
  wholeNumber (-(Nat.pow 2 63)) (Nat.pow 2 63 - 1) set

/-- A count, a number of thirty-two bits without a sign. A zero may be written with a minus sign. -/
def count (set : Nat → α → α) : Intake α :=
  wholeNumber 0 (Nat.pow 2 32 - 1) fun number => set number.toNat

end Intake

/-! ## Options -/

namespace Choice

variable {α : Type}

def valued (name : String) (intake : Intake α) : Choice α :=
  ⟨name, none, .valued intake, false⟩

def flag (name : String) (set : α → α) : Choice α :=
  ⟨name, none, .flag set, false⟩

def help : Choice α :=
  ⟨"help", some 'h', .halt .helpRequested, false⟩

def version : Choice α :=
  ⟨"version", some 'V', .halt .versionRequested, false⟩

/-- The options of every command. -/
def common : List (Choice α) :=
  [⟨"quiet", some 'q', .switch fun switches => { switches with quiet := true }, false⟩,
    ⟨"verbose", some 'v', .switch fun switches => { switches with verbose := true }, false⟩,
    help]

def directory (set : String → α → α) : Choice α :=
  ⟨"out", some 'o', .valued (.path set), false⟩

end Choice

/-! ## The grammars of the commands -/

namespace Grammar

variable {α : Type}

/-- A command whose options may be combined freely and left out. -/
def free (choices : List (Choice α)) (positionals : List (Intake α)) : Grammar α :=
  ⟨Choice.common ++ choices, positionals, fun _ => false, fun _ => true⟩

def submit : Grammar SubmitArguments :=
  free
    [.valued "location-id" (.identifier fun value arguments =>
        { arguments with locationId := some value }),
      .valued "owner" (.text fun value arguments => { arguments with owner := some value }),
      .valued "street" (.text fun value arguments => { arguments with street := some value }),
      .valued "city" (.text fun value arguments => { arguments with city := some value }),
      .valued "state" (.text fun value arguments => { arguments with state := some value }),
      .valued "zip" (.text fun value arguments => { arguments with zip := some value }),
      .valued "contact-name" (.text fun value arguments =>
        { arguments with contactName := some value }),
      .valued "contact-email" (.text fun value arguments =>
        { arguments with contactEmail := some value }),
      .valued "notes" (.text fun value arguments => { arguments with notes := some value }),
      .valued "recommendations" (.text fun value arguments =>
        { arguments with recommendations := some value }),
      .flag "deficiency-only" fun arguments => { arguments with deficiencyOnly := true },
      { Choice.valued "visit" (.text fun value arguments =>
          { arguments with visits := arguments.visits ++ [value] }) with isRepeatable := true },
      .directory fun value arguments => { arguments with directory := value },
      .flag "no-download" fun arguments => { arguments with noDownload := true }]
    [.text fun value arguments => { arguments with address := value }]

def status : Grammar String :=
  free [] [.text fun value _ => value]

def download : Grammar DownloadArguments :=
  free
    [.valued "address" (.text fun value arguments => { arguments with address := some value }),
      .directory fun value arguments => { arguments with directory := value }]
    [.text fun value arguments => { arguments with jobId := value }]

def locations : Grammar ListArguments :=
  free
    [.valued "page" (.count fun value arguments => { arguments with page := value }),
      .valued "page-size" (.count fun value arguments =>
        { arguments with pageSize := some value }),
      .valued "search" (.text fun value arguments => { arguments with search := some value })]
    []

def location : Grammar LocationKey :=
  free
    [.valued "location-id" (.identifier fun value key => { key with locationId := some value })]
    [.text fun value key => { key with address := value }]

def audit : Grammar String :=
  free [] [.text fun value _ => value]

/-- A deficiency is either resolved or reopened. -/
def deficiency : Grammar DeficiencyArguments where
  choices := Choice.common ++
    [.flag "resolved" fun arguments => { arguments with resolved := true },
      .flag "open" fun arguments => { arguments with reopened := true }]
  positionals :=
    [.text fun value arguments => { arguments with auditId := value },
      .identifier fun value arguments => { arguments with deficiencyId := value }]
  isConflicting arguments := arguments.resolved && arguments.reopened
  isComplete arguments := arguments.resolved || arguments.reopened

/-- What may stand before the name of a command. -/
def leading : Grammar Unit :=
  free [Choice.version] []

end Grammar

/-! ## Reading a command line -/

namespace Command

/-- A command whose grammar has been found is read from what follows its name. -/
abbrev Reader : Type :=
  Switches → List String → Except UsageError (Switches × Command)

/-- Reads the arguments of a command. -/
def reader {α : Type} (grammar : Grammar α) (initial : α) (make : α → Command) : Reader :=
  fun switches words =>
    (grammar.read switches initial words).map fun (switches, arguments) =>
      (switches, make arguments)

def readers : List (String × Reader) :=
  [("submit", reader .submit
      ⟨"", none, none, none, none, none, none, none, none, none, none, false, [], ".", false⟩
      .submit),
    ("status", reader .status "" .status),
    ("download", reader .download ⟨"", none, "."⟩ .download),
    ("locations", reader .locations ⟨1, none, none⟩ .locations),
    ("location", reader .location ⟨"", none⟩ .location),
    ("audit", reader .audit "" .audit),
    ("deficiency", reader .deficiency ⟨"", 0, false, false⟩ .deficiency)]

def reader? (name : String) : Option Reader :=
  readers.lookup name

end Command

namespace Invocation

/-- Names a command or asks for help. -/
def isCommand (word : String) : Bool :=
  word == "help" || (Command.reader? word).isSome

/-- Help may be asked for on one command, which has to exist. -/
def helpOn (words : List String) : UsageError :=
  match words with
  | [] => .helpRequested
  | [word] => if isCommand word then .helpRequested else .unknownCommand
  | _ => .unknownCommand

/-- What is wrong if no command is named after two dashes on their own, where none can be. -/
def withoutCommand (reading : Reading Unit) (words : List String) : UsageError :=
  match words with
  | [] => if reading.taken.isEmpty then .nothingGiven else .missingCommand
  | word :: _ => if isCommand word then .unknownArgument else .unknownCommand

/-- Reads a command line from the word where the reading has come to. -/
def readFrom (reading : Reading Unit) : List String → Except UsageError Invocation
  | [] => .error (withoutCommand reading [])
  | word :: rest =>
      match Word.ofText word with
      | .separator => .error (withoutCommand reading rest)
      | .plain name =>
          if name == "help" then .error (helpOn rest)
          else
            match Command.reader? name with
            | none => .error .unknownCommand
            | some reader => do
                let (switches, command) ← reader reading.switches rest
                return ⟨switches, command⟩
      | word => do readFrom (← Grammar.leading.readWord reading word) rest

def ofArguments (words : List String) : Except UsageError Invocation :=
  readFrom (.start .leading ⟨false, false⟩ ()) words

end Invocation

end AuditReports.CommandLine
