import AuditReports.CommandLine.Usage
import AuditReports.Text.Fields

/-!
# The grammar of a command

What may follow the name of a command is described by its grammar: options, which are found by their
name or by a letter, and positional arguments, which are told apart by their order. Every argument
says how it changes the arguments gathered so far.

A command line is read from the left. A value that follows its option as a word of its own, and a
positional argument, are taken in only when the next argument begins, so a mistake in the name of
the next argument is noticed before a mistake in the value. A value that is attached to its option
is taken in at once. After two dashes on their own every word is a positional argument.
-/

namespace AuditReports.CommandLine

/-- Options that every command has. -/
structure Switches where
  quiet : Bool
  verbose : Bool
  deriving DecidableEq, Repr

/-- How a text is taken in; it may not be a possible value. -/
abbrev Intake (α : Type) : Type :=
  String → Except UsageError (α → α)

/-- What an option does. -/
inductive Effect (α : Type) where
  | switch (set : Switches → Switches)
  | flag (set : α → α)
  | valued (intake : Intake α)
  /-- It stops the reading. -/
  | halt (reason : UsageError)

/-- An option of a command whose arguments have type `α`. -/
structure Choice (α : Type) where
  name : String
  letter : Option Char
  effect : Effect α
  isRepeatable : Bool

structure Grammar (α : Type) where
  choices : List (Choice α)
  positionals : List (Intake α)
  /-- Some of the arguments exclude each other. -/
  isConflicting : α → Bool
  /-- Everything that is required is there, positional arguments apart. -/
  isComplete : α → Bool

/-! ## Words -/

inductive Word where
  /-- Two dashes, a name, and perhaps a value after an equals sign. -/
  | named (name : List Char) (value : Option (List Char))
  /-- A dash and letters. -/
  | letters (letters : List Char)
  /-- Two dashes on their own. -/
  | separator
  | plain (text : String)
  deriving DecidableEq, Repr

namespace Word

/-- A single dash is a plain word. -/
def ofText (text : String) : Word :=
  match text.toList with
  | ['-'] => .plain text
  | ['-', '-'] => .separator
  | '-' :: '-' :: rest =>
      let (name, value) := Text.cutFirst '=' rest
      .named name value
  | '-' :: rest => .letters rest
  | _ => .plain text

end Word

/-! ## Reading -/

/-- An argument that has begun and has not been taken in yet. -/
inductive Pending (α : Type) where
  | nothing
  /-- An option that waits for its value. -/
  | awaiting (choice : Choice α) (intake : Intake α)
  | given (choice : Choice α) (intake : Intake α) (value : String)
  | positional (intake : Intake α) (value : String)

/-- How far a command line has been read. -/
structure Reading (α : Type) where
  switches : Switches
  gathered : α
  /-- The names of the options that have been taken in. -/
  taken : List String
  pending : Pending α
  /-- The positional arguments that are still to come. -/
  remaining : List (Intake α)
  /-- Two dashes on their own have been read. -/
  isLiteral : Bool

namespace Reading

variable {α : Type}

def start (grammar : Grammar α) (switches : Switches) (initial : α) : Reading α :=
  ⟨switches, initial, [], .nothing, grammar.positionals, false⟩

/-- Counts an option as taken in, unless it may not be given again. -/
def mark (reading : Reading α) (choice : Choice α) : Except UsageError (Reading α) :=
  if !choice.isRepeatable && reading.taken.contains choice.name then .error .conflict
  else .ok { reading with taken := choice.name :: reading.taken }

def absorb (reading : Reading α) (intake : Intake α) (value : String) :
    Except UsageError (Reading α) :=
  (intake value).map fun change => { reading with gathered := change reading.gathered }

def accept (reading : Reading α) (choice : Choice α) (intake : Intake α) (value : String) :
    Except UsageError (Reading α) := do
  (← reading.mark choice).absorb intake value

/-- Takes in the argument that has begun. -/
def settle (reading : Reading α) : Except UsageError (Reading α) :=
  let cleared := { reading with pending := .nothing }
  match reading.pending with
  | .nothing => .ok reading
  | .awaiting _ _ => .error .invalidValue
  | .given choice intake value => cleared.accept choice intake value
  | .positional intake value => cleared.absorb intake value

/-- Begins an option without a value attached to it. -/
def begin (reading : Reading α) (choice : Choice α) : Except UsageError (Reading α) := do
  let reading ← reading.settle
  match choice.effect with
  | .valued intake => return { reading with pending := .awaiting choice intake }
  | .halt reason => throw reason
  | .switch set => return { ← reading.mark choice with switches := set reading.switches }
  | .flag set => return { ← reading.mark choice with gathered := set reading.gathered }

def attach (reading : Reading α) (choice : Choice α) (value : List Char) :
    Except UsageError (Reading α) :=
  match choice.effect with
  | .valued intake => do (← reading.settle).accept choice intake (String.ofList value)
  | _ => .error .unexpectedValue

/-- Reads a word that is neither an option nor the separator. It is the value of an option that
waits for one, and otherwise the next positional argument. -/
def place (reading : Reading α) (text : String) : Except UsageError (Reading α) :=
  match reading.pending, reading.isLiteral with
  | .awaiting choice intake, false => .ok { reading with pending := .given choice intake text }
  | _, _ =>
      match reading.remaining with
      | [] => .error .unknownArgument
      | intake :: remaining => do
          return { ← reading.settle with
            pending := .positional intake text, remaining := remaining }

end Reading

namespace Grammar

variable {α : Type} (grammar : Grammar α)

def named? (name : List Char) : Option (Choice α) :=
  grammar.choices.find? (·.name.toList == name)

def lettered? (letter : Char) : Option (Choice α) :=
  grammar.choices.find? (·.letter == some letter)

/-- Reads the letters after a dash. Each is an option; the first that has a value takes the letters
after it as the value, without an equals sign in front of them. -/
def readLetters (reading : Reading α) : List Char → Except UsageError (Reading α)
  | [] => .ok reading
  | letter :: rest =>
      match grammar.lettered? letter with
      | none => .error .unknownArgument
      | some choice =>
          match choice.effect, rest with
          | .valued _, '=' :: value => reading.attach choice value
          | .valued _, value@(_ :: _) => reading.attach choice value
          | _, rest => do readLetters (← reading.begin choice) rest

/-- Reads a word before the two dashes on their own. -/
def readWord (reading : Reading α) : Word → Except UsageError (Reading α)
  | .separator => .ok { reading with isLiteral := true }
  | .letters letters => grammar.readLetters reading letters
  | .plain text => reading.place text
  | .named name value =>
      match grammar.named? name with
      | none => .error .unknownArgument
      | some choice =>
          match value with
          | none => reading.begin choice
          | some value => reading.attach choice value

def readText (reading : Reading α) (text : String) : Except UsageError (Reading α) :=
  if reading.isLiteral then reading.place text
  else grammar.readWord reading (Word.ofText text)

/-- Takes in the last argument and looks at the arguments as a whole. -/
def finish (reading : Reading α) : Except UsageError (Switches × α) := do
  let reading ← reading.settle
  if grammar.isConflicting reading.gathered then throw .conflict
  else if reading.remaining.isEmpty && grammar.isComplete reading.gathered then
    return (reading.switches, reading.gathered)
  else throw .missingArgument

/-- Reads everything that follows the name of a command. -/
def read (switches : Switches) (initial : α) (words : List String) :
    Except UsageError (Switches × α) := do
  grammar.finish (← words.foldlM grammar.readText (.start grammar switches initial))

end Grammar

end AuditReports.CommandLine
