import Mathlib.Data.List.Flatten
import AuditReports.Proofs.CommandLine.Hushing
import AuditReports.Proofs.CommandLine.Submitting
import AuditReports.Proofs.Text.RoundTrips

/-!
# What being quiet changes

An operator who wants quiet says so with an option, which may stand in front of everything else.
That nothing but the output changes then is a statement about two runs of the program, and it has
two parts.

First, both command lines have to be understood as the same command. The reading of a command line
goes in steps. Two readings that differ in that one operator wants quiet are followed through every
step, and remain in step. The option may have been taken in by one of them and not by the other, and
may not be taken in twice; so this is about command lines that do not have it themselves.

Then the command is carried out. It has the option at hand whenever it prints something, and does
nothing else with it: what it prints is a part of what it prints aloud, and all else is the same.
The text of a line can take up several lines of the output, and all of them are left out or none.
-/

namespace AuditReports.CommandLine

/-! ## Reading the same command -/

theorem bind_eq_ok {α β : Type} {first : Except UsageError α} {rest : α → Except UsageError β}
    {value : β} :
    (first >>= rest) = .ok value ↔ ∃ between, first = .ok between ∧ rest between = .ok value := by
  cases first with
  | error error => simp [bind, Except.bind]
  | ok between => simp [bind, Except.bind]

/-- The same, but quiet. -/
def Switches.hushed (switches : Switches) : Switches :=
  { switches with quiet := true }

namespace Choice

variable {α : Type} (choice : Choice α)

def SetsQuiet : Prop :=
  ∃ set, choice.effect = .switch set ∧ ∀ switches, (set switches).quiet = true

def LeavesQuiet : Prop :=
  choice.name ≠ "quiet" ∧ ∀ set, choice.effect = .switch set → ∀ switches,
    (set switches).quiet = switches.quiet ∧ set switches.hushed = (set switches).hushed

/-- An option is either the one for being quiet, or not about that at all. -/
def IsFair : Prop :=
  choice.SetsQuiet ∨ choice.LeavesQuiet

variable {choice}

theorem IsFair.name_ne (fair : choice.IsFair)
    (sets : ∀ set, choice.effect ≠ .switch set) : choice.name ≠ "quiet" := by
  rcases fair with ⟨set, switches, -⟩ | leaves
  · exact absurd switches (sets set)
  · exact leaves.1

end Choice

def Grammar.IsFair {α : Type} (grammar : Grammar α) : Prop :=
  ∀ choice ∈ grammar.choices, choice.IsFair

/-- What has begun is not the option `quiet`. -/
def Pending.IsFair {α : Type} : Pending α → Prop
  | .nothing => True
  | .awaiting choice _ => choice.name ≠ "quiet"
  | .given choice _ _ => choice.name ≠ "quiet"
  | .positional _ _ => True

namespace Reading

variable {α : Type} {names : List String} {reading next : Reading α}

/-- The same reading, where the operator wants quiet and some names have been taken in before all
others. -/
def hushed (names : List String) (reading : Reading α) : Reading α :=
  { reading with switches := reading.switches.hushed, taken := reading.taken ++ names }

/-- A step leads from a reading and the same one, hushed, to such a pair again, unless it takes in
the option itself. -/
def Hushes (names : List String) (step : Reading α → Except UsageError (Reading α)) : Prop :=
  ∀ reading next, reading.pending.IsFair → step reading = .ok next →
    next.pending.IsFair ∧
      (next.switches.quiet = false →
        reading.switches.quiet = false ∧
          step (reading.hushed names) = .ok (next.hushed names))

theorem Hushes.bind {first second : Reading α → Except UsageError (Reading α)}
    (before : Hushes names first) (after : Hushes names second) :
    Hushes names fun reading => first reading >>= second := by
  intro reading last fair result
  rcases bind_eq_ok.mp result with ⟨between, reached, left⟩
  rcases before reading between fair reached with ⟨fairBetween, loudBefore⟩
  rcases after between last fairBetween left with ⟨fairLast, loudBetween⟩
  refine ⟨fairLast, fun loud => ?_⟩
  rcases loudBetween loud with ⟨quietBetween, same⟩
  rcases loudBefore quietBetween with ⟨quiet, reachedSame⟩
  exact ⟨quiet, bind_eq_ok.mpr ⟨_, reachedSame, same⟩⟩

/-- It is enough that a step leaves the switches alone and commutes with asking for quiet. -/
theorem Hushes.of_map {step : Reading α → Except UsageError (Reading α)}
    (keeps : ∀ {reading next}, step reading = .ok next → next.switches = reading.switches ∧
      (reading.pending.IsFair → next.pending.IsFair))
    (follows : ∀ {reading}, reading.pending.IsFair →
      step (reading.hushed names) = (step reading).map (hushed names)) : Hushes names step := by
  intro reading next fair result
  rcases keeps result with ⟨switches, fairNext⟩
  rw [follows fair, result, switches]
  exact ⟨fairNext fair, fun loud => ⟨loud, rfl⟩⟩

theorem Hushes.refl : Hushes names fun reading : Reading α => .ok reading := by
  refine .of_map (fun same => ?_) fun _ => rfl
  rcases Except.ok.inj same with rfl
  exact ⟨rfl, id⟩

section Steps

variable (only : ∀ name ∈ names, name = "quiet")

include only

theorem mark_hushed {choice : Choice α} (other : choice.name ≠ "quiet") :
    (reading.hushed names).mark choice = (reading.mark choice).map (hushed names) := by
  have absent : names.contains choice.name = false := by
    simpa using fun listed => other (only _ listed)
  simp only [mark, hushed, List.contains_append, absent, Bool.or_false]
  split <;> rfl

omit only in
theorem absorb_hushed (intake : Intake α) (value : String) :
    (reading.hushed names).absorb intake value =
      (reading.absorb intake value).map (hushed names) := by
  simp only [absorb, hushed]
  cases intake value <;> rfl

theorem accept_hushed {choice : Choice α} (other : choice.name ≠ "quiet") (intake : Intake α)
    (value : String) :
    (reading.hushed names).accept choice intake value =
      (reading.accept choice intake value).map (hushed names) := by
  rw [accept, accept, mark_hushed only other]
  cases reading.mark choice with
  | error error => rfl
  | ok marked => exact absorb_hushed intake value

theorem settle_hushed (fair : reading.pending.IsFair) :
    (reading.hushed names).settle = reading.settle.map (hushed names) := by
  rcases reading with ⟨switches, gathered, taken, pending, remaining, isLiteral⟩
  cases pending with
  | nothing => rfl
  | awaiting choice intake => rfl
  | given choice intake value =>
      change (hushed names ⟨switches, gathered, taken, .nothing, remaining, isLiteral⟩).accept
        choice intake value = _
      exact accept_hushed only fair intake value
  | positional intake value =>
      change (hushed names ⟨switches, gathered, taken, .nothing, remaining, isLiteral⟩).absorb
        intake value = _
      exact absorb_hushed intake value

end Steps

theorem mark_spec {choice : Choice α} (marked : reading.mark choice = .ok next) :
    next.switches = reading.switches ∧ next.pending = reading.pending := by
  rw [mark] at marked
  split at marked
  · cases marked
  · rcases Except.ok.inj marked with rfl
    exact ⟨rfl, rfl⟩

theorem absorb_spec {intake : Intake α} {value : String}
    (absorbed : reading.absorb intake value = .ok next) :
    next.switches = reading.switches ∧ next.pending = reading.pending := by
  rw [absorb] at absorbed
  cases result : intake value with
  | error error =>
      rw [result] at absorbed
      cases absorbed
  | ok change =>
      rw [result] at absorbed
      rcases Except.ok.inj absorbed with rfl
      exact ⟨rfl, rfl⟩

theorem accept_spec {choice : Choice α} {intake : Intake α} {value : String}
    (accepted : reading.accept choice intake value = .ok next) :
    next.switches = reading.switches ∧ next.pending = reading.pending := by
  rcases bind_eq_ok.mp accepted with ⟨between, marked, absorbed⟩
  rcases mark_spec marked with ⟨switches, pending⟩
  rcases absorb_spec absorbed with ⟨switches', pending'⟩
  exact ⟨switches'.trans switches, pending'.trans pending⟩

/-- Nothing is left to be taken in, and the switches are as they were. -/
theorem settle_spec (settled : reading.settle = .ok next) :
    next.switches = reading.switches ∧ next.pending = .nothing := by
  rw [settle] at settled
  split at settled
  · next none =>
      rcases Except.ok.inj settled with rfl
      exact ⟨rfl, none⟩
  · cases settled
  · exact accept_spec settled
  · exact absorb_spec settled

variable (only : ∀ name ∈ names, name = "quiet")

include only

theorem hushes_settle : Hushes names fun reading : Reading α => reading.settle := by
  refine .of_map (fun settled => ?_) (settle_hushed only)
  rcases settle_spec settled with ⟨switches, pending⟩
  exact ⟨switches, fun _ => by rw [pending]; trivial⟩

theorem hushes_begin {choice : Choice α} (fairChoice : choice.IsFair) :
    Hushes names (begin · choice) := by
  refine (hushes_settle only).bind ?_
  cases does : choice.effect with
  | valued intake =>
      have other := fairChoice.name_ne (by simp [does])
      refine .of_map (fun begun => ?_) fun _ => rfl
      rcases Except.ok.inj begun with rfl
      exact ⟨rfl, fun _ => other⟩
  | halt reason =>
      intro reading next fair begun
      cases begun
  | switch set =>
      intro reading next fair begun
      rcases bind_eq_ok.mp begun with ⟨marked, marks, switched⟩
      rcases Except.ok.inj switched with rfl
      refine ⟨(mark_spec marks).2 ▸ fair, fun loud => ?_⟩
      rcases fairChoice with ⟨quieten, sets, quiet⟩ | ⟨other, leaves⟩
      · -- The option itself has been taken in, so the reading that it leads to is not loud.
        rcases Effect.switch.inj (does.symm.trans sets) with rfl
        cases loud.symm.trans (quiet reading.switches)
      · rcases leaves set does reading.switches with ⟨same, commutes⟩
        have marksHushed : (reading.hushed names).mark choice = .ok (marked.hushed names) := by
          rw [mark_hushed only other, marks]
          rfl
        refine ⟨same.symm.trans loud, bind_eq_ok.mpr ⟨_, marksHushed, ?_⟩⟩
        simp only [hushed, commutes]
        rfl
  | flag set =>
      have other := fairChoice.name_ne (by simp [does])
      refine .of_map (fun begun => ?_) fun {reading} _ => ?_
      · rcases bind_eq_ok.mp begun with ⟨marked, marks, flagged⟩
        rcases Except.ok.inj flagged with rfl
        rcases mark_spec marks with ⟨switches, pending⟩
        exact ⟨switches, (pending ▸ ·)⟩
      · simp only [mark_hushed only other]
        cases reading.mark choice <;> rfl

theorem hushes_attach {choice : Choice α} (fairChoice : choice.IsFair) (value : List Char) :
    Hushes names (attach · choice value) := by
  cases does : choice.effect with
  | valued intake =>
      have other := fairChoice.name_ne (by simp [does])
      simp only [attach, does]
      refine (hushes_settle only).bind (.of_map (fun accepted => ?_) fun _ => ?_)
      · rcases accept_spec accepted with ⟨switches, pending⟩
        exact ⟨switches, (pending ▸ ·)⟩
      · exact accept_hushed only other intake _
  | halt reason | switch set | flag set =>
      intro reading next fair attached
      simp only [attach, does] at attached
      cases attached

theorem hushes_place (text : String) :
    Hushes names fun reading : Reading α => reading.place text := by
  refine .of_map (fun {reading next} placed => ?_) fun {reading} fair => ?_
  · simp only [place] at placed
    split at placed
    · next choice intake waits _ =>
        rcases Except.ok.inj placed with rfl
        rw [waits]
        exact ⟨rfl, id⟩
    · split at placed
      · cases placed
      · rcases bind_eq_ok.mp placed with ⟨settled, settles, begun⟩
        rcases Except.ok.inj begun with rfl
        exact ⟨(settle_spec settles).1, fun _ => trivial⟩
  · simp only [place]
    have pending : (reading.hushed names).pending = reading.pending := rfl
    have literal : (reading.hushed names).isLiteral = reading.isLiteral := rfl
    have remaining : (reading.hushed names).remaining = reading.remaining := rfl
    rw [pending, literal, remaining]
    split
    · rfl
    · split
      · rfl
      · rw [settle_hushed only fair]
        cases reading.settle <;> rfl

end Reading

namespace Grammar

variable {α : Type} {grammar : Grammar α} {names : List String}
  (only : ∀ name ∈ names, name = "quiet") (fair : grammar.IsFair)

include only fair

theorem hushes_readLetters (letters : List Char) :
    Reading.Hushes names (grammar.readLetters · letters) := by
  induction letters with
  | nil => exact .refl
  | cons letter rest ih =>
      simp only [readLetters]
      split
      · intro reading next _ failed
        cases failed
      · next choice found =>
          have fairChoice := fair choice (List.mem_of_find?_eq_some found)
          split
          · exact Reading.hushes_attach only fairChoice _
          · exact Reading.hushes_attach only fairChoice _
          · exact (Reading.hushes_begin only fairChoice).bind ih

theorem hushes_readWord (word : Word) : Reading.Hushes names (grammar.readWord · word) := by
  cases word with
  | separator =>
      refine .of_map (fun read => ?_) fun _ => rfl
      rcases Except.ok.inj read with rfl
      exact ⟨rfl, id⟩
  | letters letters => exact hushes_readLetters only fair letters
  | plain text => exact Reading.hushes_place only text
  | named name value =>
      simp only [readWord]
      split
      · intro reading next _ failed
        cases failed
      · next choice found =>
          have fairChoice := fair choice (List.mem_of_find?_eq_some found)
          cases value with
          | none => exact Reading.hushes_begin only fairChoice
          | some value => exact Reading.hushes_attach only fairChoice value

theorem hushes_readText (text : String) : Reading.Hushes names (grammar.readText · text) := by
  intro reading next fairReading result
  simp only [readText] at result
  have literal : (reading.hushed names).isLiteral = reading.isLiteral := rfl
  simp only [readText, literal]
  split at result
  · next isLiteral =>
      simp only [isLiteral, if_true]
      exact Reading.hushes_place only text reading next fairReading result
  · next notLiteral =>
      simp only [notLiteral]
      exact hushes_readWord only fair (Word.ofText text) reading next fairReading result

theorem hushes_foldlM (words : List String) :
    Reading.Hushes names (words.foldlM grammar.readText ·) := by
  induction words with
  | nil => exact .refl
  | cons word words ih =>
      simp only [List.foldlM_cons]
      exact (hushes_readText only fair word).bind ih

omit fair in
theorem finish_hushed {reading : Reading α} (fairReading : reading.pending.IsFair)
    {switches : Switches} {arguments : α}
    (finished : grammar.finish reading = .ok (switches, arguments))
    (loud : switches.quiet = false) :
    reading.switches.quiet = false ∧
      grammar.finish (reading.hushed names) = .ok (switches.hushed, arguments) := by
  rcases bind_eq_ok.mp finished with ⟨settled, settles, rest⟩
  split at rest
  · cases rest
  · next consistent =>
      split at rest
      · next complete =>
          rcases Prod.mk.inj (Except.ok.inj rest) with ⟨rfl, rfl⟩
          rcases (Reading.hushes_settle only reading settled fairReading settles).2 loud with
            ⟨quiet, same⟩
          refine ⟨quiet, bind_eq_ok.mpr ⟨_, same, ?_⟩⟩
          simp only [Reading.hushed, consistent, complete]
          rfl
      · cases rest

omit only in
/-- What follows the name of a command is read in the same way if the operator wants quiet. -/
theorem read_hushed {before after : Switches} {initial arguments : α} {words : List String}
    (read : grammar.read before initial words = .ok (after, arguments))
    (loud : after.quiet = false) :
    before.quiet = false ∧
      grammar.read before.hushed initial words = .ok (after.hushed, arguments) := by
  -- The names that were taken in before the command do not count any more.
  have none : ∀ name ∈ ([] : List String), name = "quiet" := fun _ listed => by cases listed
  rcases bind_eq_ok.mp read with ⟨reading, reached, finished⟩
  have steps := hushes_foldlM none fair words (.start grammar before initial) reading trivial
    reached
  rcases finish_hushed none steps.1 finished loud with ⟨quiet, same⟩
  rcases steps.2 quiet with ⟨quietBefore, reachedSame⟩
  exact ⟨quietBefore, bind_eq_ok.mpr ⟨_, reachedSame, same⟩⟩

end Grammar

/-! ## The grammars of the program -/

section Fair

variable {α : Type}

theorem Choice.isFair_of_name_ne {choice : Choice α} (other : choice.name ≠ "quiet")
    (sets : ∀ set, choice.effect ≠ .switch set) : choice.IsFair :=
  .inr ⟨other, fun set switches => absurd switches (sets set)⟩

theorem Choice.isFair_common {choice : Choice α} (listed : choice ∈ common) : choice.IsFair := by
  simp only [common, List.mem_cons, List.not_mem_nil, or_false] at listed
  rcases listed with rfl | rfl | rfl
  · exact .inl ⟨_, rfl, fun _ => rfl⟩
  · refine .inr ⟨by simp, fun set sets switches => ?_⟩
    rcases Effect.switch.inj sets with rfl
    exact ⟨rfl, rfl⟩
  · exact isFair_of_name_ne (by simp [help]) (by simp [help])

/-- Only the options that every command has can be about quiet. -/
theorem Grammar.isFair_of_choices {grammar : Grammar α} {own : List (Choice α)}
    (whole : grammar.choices = Choice.common ++ own)
    (other : ∀ choice ∈ own, choice.name ≠ "quiet" ∧ ∀ set, choice.effect ≠ .switch set) :
    grammar.IsFair := by
  intro choice listed
  rw [whole] at listed
  rcases List.mem_append.mp listed with common | listed
  · exact Choice.isFair_common common
  · exact Choice.isFair_of_name_ne (other choice listed).1 (other choice listed).2

end Fair

namespace Command

def Reader.Hushes (reader : Reader) : Prop :=
  ∀ before after words command, reader before words = .ok (after, command) →
    after.quiet = false →
      before.quiet = false ∧ reader before.hushed words = .ok (after.hushed, command)

theorem hushes_reader {α : Type} {grammar : Grammar α} (fair : grammar.IsFair) (initial : α)
    (make : α → Command) : (reader grammar initial make).Hushes := by
  intro before after words command result loud
  rw [reader] at result
  cases read : grammar.read before initial words with
  | error error =>
      rw [read] at result
      cases result
  | ok found =>
      rcases found with ⟨switches, arguments⟩
      rw [read] at result
      rcases Prod.mk.inj (Except.ok.inj result) with ⟨rfl, rfl⟩
      rcases Grammar.read_hushed fair read loud with ⟨quiet, same⟩
      refine ⟨quiet, ?_⟩
      rw [reader, same]
      rfl

theorem hushes_of_reader? {name : String} {reader : Reader} (found : reader? name = some reader) :
    reader.Hushes := by
  have listed : (name, reader) ∈ readers := by
    rcases List.lookup_eq_some_iff.mp found with ⟨before, after, whole, -⟩
    rw [whole]
    exact List.mem_append_right before List.mem_cons_self
  simp only [readers, List.mem_cons, List.not_mem_nil, or_false, Prod.mk.injEq] at listed
  rcases listed with ⟨-, rfl⟩ | ⟨-, rfl⟩ | ⟨-, rfl⟩ | ⟨-, rfl⟩ | ⟨-, rfl⟩ | ⟨-, rfl⟩ | ⟨-, rfl⟩
  all_goals
    apply hushes_reader
    exact Grammar.isFair_of_choices rfl (by simp [Choice.valued, Choice.flag, Choice.directory])

end Command

namespace Invocation

/-- The same command, but quiet. -/
def hushed (invocation : Invocation) : Invocation :=
  { invocation with switches := invocation.switches.hushed }

theorem readFrom_hushed {reading : Reading Unit} (fair : reading.pending.IsFair)
    {words : List String} {loud : Invocation} (understood : readFrom reading words = .ok loud)
    (isLoud : loud.switches.quiet = false) :
    reading.switches.quiet = false ∧
      readFrom (reading.hushed ["quiet"]) words = .ok loud.hushed := by
  have only : ∀ name ∈ ["quiet"], name = "quiet" := fun _ listed => List.mem_singleton.mp listed
  have leading : Grammar.leading.IsFair :=
    Grammar.isFair_of_choices rfl (by simp [Choice.version])
  induction words generalizing reading with
  | nil => cases understood
  | cons word rest ih =>
      rw [readFrom] at understood ⊢
      split at understood
      · cases understood
      · next name =>
          split at understood
          · cases understood
          · next other =>
              split at understood
              · cases understood
              · next reader found =>
                  rcases bind_eq_ok.mp understood with ⟨⟨switches, command⟩, read, made⟩
                  rcases Except.ok.inj made with rfl
                  rcases Command.hushes_of_reader? found _ _ _ _ read isLoud with ⟨quiet, same⟩
                  refine ⟨quiet, ?_⟩
                  rw [if_neg other]
                  exact bind_eq_ok.mpr ⟨_, same, rfl⟩
      · rcases bind_eq_ok.mp understood with ⟨next, read, later⟩
        have step := Grammar.hushes_readWord only leading (Word.ofText word) reading next fair read
        rcases ih step.1 later with ⟨quietNext, same⟩
        rcases step.2 quietNext with ⟨quiet, reached⟩
        exact ⟨quiet, bind_eq_ok.mpr ⟨_, reached, same⟩⟩

/-- Quiet may be asked for in front of everything else. -/
theorem ofArguments_quiet {words : List String} {loud : Invocation}
    (understood : ofArguments words = .ok loud) (isLoud : loud.switches.quiet = false) :
    ofArguments ("--quiet" :: words) = .ok loud.hushed := by
  have fair : (Reading.start Grammar.leading ⟨false, false⟩ ()).pending.IsFair := trivial
  exact (readFrom_hushed fair understood isLoud).2

end Invocation

/-! ## Printing fewer lines -/

theorem fields_printed (quiet : Bool) (lines : List Line) :
    Text.fields '\n' (printed quiet lines).toList =
      (Line.shown quiet lines).flatMap (Text.fields '\n' ·.text.toList) ++ [[]] := by
  rw [printed]
  induction Line.shown quiet lines with
  | nil => rfl
  | cons line rest ih =>
      have first : (String.join ((line :: rest).map fun line => line.text ++ "\n")).toList =
          line.text.toList ++
            '\n' :: (String.join (rest.map fun line => line.text ++ "\n")).toList := by
        simp
      rw [first, Text.fields_append_cons, ih, List.flatMap_cons, List.append_assoc]

/-- Aloud, everything is printed that has not been left out before. -/
theorem printed_shown (quiet : Bool) (lines : List Line) :
    printed false (Line.shown quiet lines) = printed quiet lines := by
  have all : Line.shown false (Line.shown quiet lines) = Line.shown quiet lines := by
    rw [Line.shown, List.filter_eq_self]
    exact fun line _ => Bool.or_true _
  rw [printed, all, printed]

theorem fields_printed_sublist (lines : List Line) :
    (Text.fields '\n' (printed true lines).toList).Sublist
      (Text.fields '\n' (printed false lines).toList) := by
  rw [fields_printed, fields_printed]
  have shown : (Line.shown true lines).Sublist (Line.shown false lines) :=
    List.monotone_filter_right lines fun line _ => by simp [Line.isShown]
  exact (shown.flatMap _).append (List.Sublist.refl _)

namespace Printout

variable {τ : Type} (quiet : Bool) (outcome : Outcome τ)

theorem output_ofOutcome_shown :
    (ofOutcome (outcome.shown quiet)).output = printed quiet outcome.lines := by
  rw [output_ofOutcome, Outcome.shown, printed_shown]

theorem errors_ofOutcome_shown :
    (ofOutcome (outcome.shown quiet)).errors = (ofOutcome outcome).errors := by
  rw [ofOutcome, ofOutcome, show (outcome.shown quiet).ending = outcome.ending from rfl]
  cases outcome.ending <;> rfl

theorem exitCode_ofOutcome_shown :
    (ofOutcome (outcome.shown quiet)).exitCode = (ofOutcome outcome).exitCode := by
  rw [exitCode_ofOutcome, exitCode_ofOutcome]
  rfl

end Printout

/-- An operator who wants quiet may say so in front of any command line that does not say so
already, and it is the same command then. Whenever the same command is given by two command lines,
one with the option and one without it, and is carried out under the same circumstances, the same
requests are sent and the same answers come, the same files are left behind, and the error and the
exit code are the same. All lines of the one output are lines of the other, in the same order. -/
theorem quiet_hides_lines_only {words : List String} {loud : Invocation}
    (understood : Invocation.ofArguments words = .ok loud) (isLoud : loud.switches.quiet = false) :
    Invocation.ofArguments ("--quiet" :: words) = .ok loud.hushed ∧
      ∀ (quietWords : List String) (quiet : Invocation),
        Invocation.ofArguments quietWords = .ok quiet → quiet.switches.quiet = true →
        quiet.command = loud.command →
        ∀ {τ : Type} (transport : Transport τ) (environment : Environment) (schedule : Schedule)
          (state : τ),
          let outcome := loud.run transport.recorded environment schedule (state, [])
          let quietOutcome := quiet.run transport.recorded environment schedule (state, [])
          let printout := run transport.recorded environment schedule words (state, [])
          let quietPrintout := run transport.recorded environment schedule quietWords (state, [])
          quietOutcome.state = outcome.state ∧ quietOutcome.tree = outcome.tree ∧
            quietPrintout.errors = printout.errors ∧
            quietPrintout.exitCode = printout.exitCode ∧
            (Text.fields '\n' quietPrintout.output.toList).Sublist
              (Text.fields '\n' printout.output.toList) := by
  refine ⟨Invocation.ofArguments_quiet understood isLoud, ?_⟩
  intro quietWords quiet understoodToo isQuiet same τ transport environment schedule state outcome
    quietOutcome printout quietPrintout
  have carried : quietOutcome = outcome.shown true := by
    simp only [quietOutcome, outcome, Invocation.run, same, isQuiet, isLoud]
    exact run_quiet transport.recorded environment schedule loud.command .empty (state, [])
  have loudly : printout = .ofOutcome outcome := by
    simp only [printout, run, understood, outcome]
  have quietly : quietPrintout = .ofOutcome (outcome.shown true) := by
    rw [← carried]
    simp only [quietPrintout, run, understoodToo, quietOutcome]
  rw [carried, loudly, quietly]
  refine ⟨rfl, rfl, Printout.errors_ofOutcome_shown true outcome,
    Printout.exitCode_ofOutcome_shown true outcome, ?_⟩
  rw [Printout.output_ofOutcome_shown, Printout.output_ofOutcome]
  exact fields_printed_sublist outcome.lines

theorem quiet_status_hides_heading :
    let words := ["status", "3f2a-91"]
    let printout := run prompt.transport.recorded localhost (.prompt 5) words (1, [])
    let quietPrintout :=
      run prompt.transport.recorded localhost (.prompt 5) ("--quiet" :: words) (1, [])
    ∃ loud, Invocation.ofArguments words = .ok loud ∧ loud.switches.quiet = false ∧
      Invocation.ofArguments ("--quiet" :: words) = .ok loud.hushed ∧
      printout.output = "\nReport job 3f2a-91\n" ++ quietPrintout.output ∧
      quietPrintout.exitCode = printout.exitCode ∧
      (Text.fields '\n' quietPrintout.output.toList).Sublist
        (Text.fields '\n' printout.output.toList) := by
  intro words printout quietPrintout
  have understood : Invocation.ofArguments words = .ok ⟨⟨false, false⟩, .status "3f2a-91"⟩ := by
    decide +kernel
  have difference : printout.output = "\nReport job 3f2a-91\n" ++ quietPrintout.output := by
    decide +kernel
  rcases quiet_hides_lines_only understood rfl with ⟨hushed, hides⟩
  rcases hides ("--quiet" :: words) _ hushed rfl rfl prompt.transport localhost (.prompt 5) 1 with
    ⟨-, -, -, exit, lines⟩
  exact ⟨_, understood, rfl, hushed, difference, exit, lines⟩

end AuditReports.CommandLine
