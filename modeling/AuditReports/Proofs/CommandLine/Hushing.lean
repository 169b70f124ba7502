import AuditReports.CommandLine.Program

/-!
# Commands that are quiet

Whether the operator wants quiet is known to every command, and could decide what it does. Here a
command is carried out twice, as the operator wants it and aloud, and the two are followed side by
side. They remain in step: what is left out at any point are lines that are not essential, and
nothing else is different. For the commands that print the result of a call this is said of what
they print. A job is watched in turns, and there the induction is on the turns; the two have printed
different lines by then, but they remember the same message as the last one.
-/

namespace AuditReports.CommandLine

/-! ## Lines -/

namespace Line

variable (quiet : Bool)

@[simp]
theorem shown_append (lines later : List Line) :
    shown quiet (lines ++ later) = shown quiet lines ++ shown quiet later :=
  List.filter_append ..

@[simp]
theorem shown_nil : shown quiet [] = [] := rfl

@[simp]
theorem shown_cons_essential (text : String) (later : List Line) :
    shown quiet (essential text :: later) = essential text :: shown quiet later := rfl

@[simp]
theorem shown_cons_field (label value : String) (later : List Line) :
    shown quiet (field label value :: later) = field label value :: shown quiet later := rfl

/-- Lines that are all essential are all shown. -/
theorem shown_map {α : Type} {describe : α → Line}
    (essential : ∀ value, (describe value).isEssential = true) (values : List α) :
    shown quiet (values.map describe) = values.map describe := by
  refine List.filter_eq_self.mpr fun line listed => ?_
  rcases List.mem_map.mp listed with ⟨value, _, rfl⟩
  simp [isShown, essential value]

theorem shown_option {α : Type} {describe : α → Line}
    (essential : ∀ value, (describe value).isEssential = true) (value : Option α) :
    shown quiet (value.map describe).toList = (value.map describe).toList := by
  rw [Option.toList_map]
  exact shown_map quiet essential _

theorem shown_flatMap {α : Type} {describe : α → List Line}
    (whole : ∀ value, shown quiet (describe value) = describe value) (values : List α) :
    shown quiet (values.flatMap describe) = values.flatMap describe := by
  rw [shown, List.filter_flatMap]
  exact congrArg (values.flatMap ·) (funext whole)

end Line

namespace Context

variable (context : Context)

/-- The same, but the operator does not want quiet. -/
def loud : Context :=
  { context with quiet := false }

theorem remark_eq (text : String) :
    context.remark text = Line.shown context.quiet (context.loud.remark text) := by
  rcases context with ⟨settings, _ | _⟩ <;> rfl

theorem heading_eq (text : String) :
    context.heading text = Line.shown context.quiet (context.loud.heading text) := by
  rcases context with ⟨settings, _ | _⟩ <;> rfl

end Context

/-! ## What is displayed -/

namespace Display

variable (context : Context)

theorem job_eq (value : Job) :
    job context value = Line.shown context.quiet (job context.loud value) := by
  have ready : (if value.downloadReady then
        context.remark s!"Ready: reportctl download {value.id}" else []) =
      Line.shown context.quiet (if value.downloadReady then
        context.loud.remark s!"Ready: reportctl download {value.id}" else []) := by
    split
    · exact context.remark_eq _
    · rfl
  simp only [job, Line.shown_append, Line.shown_cons_field, Line.shown_nil, ← context.heading_eq,
    ← ready]
  rw [Line.shown_option _ fun _ => rfl, Line.shown_option _ fun _ => rfl,
    Line.shown_option _ fun _ => rfl]

theorem locationPage_eq (page : LocationPage) :
    locationPage context page = Line.shown context.quiet (locationPage context.loud page) := by
  unfold locationPage
  split
  · exact context.remark_eq _
  · have rows : ∀ entry, (locationEntry entry).isEssential = true := fun _ => rfl
    simp [Line.shown_map _ rows, locationRow]

theorem listing_eq (title absence : String) {items : List Line}
    (whole : Line.shown context.quiet items = items) :
    listing context title absence items =
      Line.shown context.quiet (listing context.loud title absence items) := by
  unfold listing
  rw [Line.shown_append, ← context.heading_eq]
  congr 1
  split
  · rfl
  · exact whole.symm

theorem locationDetail_eq (detail : Location) :
    locationDetail context detail =
      Line.shown context.quiet (locationDetail context.loud detail) := by
  have visits : Line.shown context.quiet (detail.visits.map visit) = _ :=
    Line.shown_map _ (fun _ => rfl) _
  have versions (reports : List IssuedReport) :
      Line.shown context.quiet (reports.map version) = _ :=
    Line.shown_map _ (fun _ => rfl) _
  simp only [locationDetail, Line.shown_append, Line.shown_cons_field, Line.shown_nil,
    ← context.heading_eq, ← listing_eq context _ _ visits,
    ← listing_eq context _ _ (versions _)]
  rw [Line.shown_option _ fun _ => rfl]

theorem shown_deficiency (quiet : Bool) (value : Deficiency) :
    Line.shown quiet (deficiency value) = deficiency value := by
  rw [deficiency, Line.shown_cons_essential, Line.shown_option _ fun _ => rfl]

theorem auditDetail_eq (detail : Audit) :
    auditDetail context detail = Line.shown context.quiet (auditDetail context.loud detail) := by
  simp only [auditDetail, Line.shown_append, Line.shown_cons_field, Line.shown_nil,
    ← context.heading_eq, Line.shown_flatMap _ (shown_deficiency context.quiet)]

theorem deficiencyUpdate_eq (deficiencyId : Int) (update : DeficiencyChange) :
    deficiencyUpdate context deficiencyId update =
      Line.shown context.quiet (deficiencyUpdate context.loud deficiencyId update) := by
  unfold deficiencyUpdate
  split <;> exact context.remark_eq _

end Display

/-! ## Watching -/

section Watch

variable {τ : Type} (transport : Transport τ) (context : Context)

/-- The watching, where an operator is not to see all lines. -/
def Watched.shown (quiet : Bool) (watched : Watched τ) : Watched τ :=
  { watched with lines := Line.shown quiet watched.lines }

theorem letHappen_loud (world : World τ) (incidents : List Incident) :
    letHappen transport context.loud world incidents =
      letHappen transport context world incidents := by
  induction incidents generalizing world with
  | nil => rfl
  | cons incident later ih =>
      rw [letHappen, letHappen, ih]
      rfl

theorem progressLine_eq (last : Option String) (snapshot : Snapshot) :
    progressLine context last snapshot =
      Line.shown context.quiet (progressLine context.loud last snapshot) := by
  unfold progressLine
  split
  · rfl
  · split
    · rfl
    · exact context.remark_eq _

/-- A look prints the same, and remembers the same message. -/
theorem look_eq (last : Option String) (watcher : Watcher) (world : World τ)
    {wait waitAloud : Option String → Watched τ}
    (waits : ∀ last, wait last = (waitAloud last).shown context.quiet) :
    look context last watcher world wait =
      (look context.loud last watcher world waitAloud).shown context.quiet := by
  unfold look
  simp only [progressLine_eq context, waits]
  split
  · rfl
  · simp only [Watched.after, Watched.shown, Line.shown_append]

theorem await_eq (watcher : Watcher) (world : World τ) (turns : Turns) (last : Option String) :
    await transport context watcher world turns last =
      (await transport context.loud watcher world turns last).shown context.quiet := by
  induction turns generalizing watcher world last with
  | nil => rfl
  | cons incidents later ih =>
      rw [await, await, letHappen_loud]
      split
      · rfl
      · split
        · exact ih watcher _ last
        · exact look_eq context last _ _ fun last => ih _ _ last

theorem watch_eq (world : World τ) (turns : Turns) :
    watch transport context world turns =
      (watch transport context.loud world turns).shown context.quiet :=
  look_eq context none _ _ fun last => await_eq transport context _ _ turns last

theorem awaitResult_loud (world : World τ) (turns : Turns) :
    awaitResult transport context.loud world turns = awaitResult transport context world turns := by
  induction turns generalizing world with
  | nil => rfl
  | cons incidents later ih =>
      rw [awaitResult, awaitResult, ih]
      rfl

end Watch

/-! ## Carrying out commands -/

section Run

variable {τ : Type} (transport : Transport τ) (context : Context)

/-- The outcome, where an operator is not to see all lines. -/
def Outcome.shown (quiet : Bool) (outcome : Outcome τ) : Outcome τ :=
  { outcome with lines := Line.shown quiet outcome.lines }

theorem Outcome.shown_after (quiet : Bool) (lines : List Line) (outcome : Outcome τ) :
    (outcome.after lines).shown quiet = (outcome.shown quiet).after (Line.shown quiet lines) := by
  simp only [Outcome.shown, Outcome.after, Line.shown_append]

theorem display_eq {α : Type} (tree : Files.Tree) (attempt : String)
    {describe : Context → α → List Line}
    (describes : ∀ value, describe context value =
      Line.shown context.quiet (describe context.loud value))
    (answer : Except CallError α × τ) :
    display context tree attempt describe answer =
      (display context.loud tree attempt describe answer).shown context.quiet := by
  unfold display
  split
  · simp only [Outcome.shown, describes]
  · rfl

theorem saveReport_eq (directory : String) (artifact : Artifact) (tree : Files.Tree) (state : τ) :
    saveReport context directory artifact tree state =
      (saveReport context.loud directory artifact tree state).shown context.quiet := by
  unfold saveReport
  split
  · simp only [Outcome.shown, ← context.remark_eq]
  · rfl

theorem download_eq (arguments : DownloadArguments) (tree : Files.Tree) (state : τ) :
    download transport context arguments tree state =
      (download transport context.loud arguments tree state).shown context.quiet := by
  unfold download
  rw [show context.loud.mount = context.mount from rfl]
  split
  · rfl
  · exact saveReport_eq context _ _ _ _

theorem complete_eq (arguments : SubmitArguments) (jobId : String) (settled : Snapshot)
    (world : World τ) (tree : Files.Tree) :
    complete transport context arguments jobId settled world tree =
      (complete transport context.loud arguments jobId settled world tree).shown
        context.quiet := by
  have notice : settled.notice.elim [] context.remark =
      Line.shown context.quiet (settled.notice.elim [] context.loud.remark) := by
    cases settled.notice with
    | none => rfl
    | some notice => exact context.remark_eq notice
  unfold complete
  rw [show context.loud.service transport = context.service transport from rfl, notice]
  split
  · simp only [Outcome.shown, Line.shown_append, ← context.remark_eq]
  · split
    · rfl
    · rw [Outcome.shown_after, ← saveReport_eq]

theorem follow_eq (turns : Turns) (arguments : SubmitArguments) (jobId : String) (world : World τ)
    (tree : Files.Tree) :
    follow transport context turns arguments jobId world tree =
      (follow transport context.loud turns arguments jobId world tree).shown context.quiet := by
  unfold follow
  rw [watch_eq transport context]
  simp only [Watched.shown, Outcome.shown_after]
  congr 1
  split
  · rfl
  · simp only [Outcome.shown, ← context.remark_eq]
  · rw [apply_ite (Outcome.shown context.quiet), ← complete_eq]
    rfl

theorem submit_eq (turns : Turns) (arguments : SubmitArguments) (tree : Files.Tree) (state : τ) :
    submit transport context turns arguments tree state =
      (submit transport context.loud turns arguments tree state).shown context.quiet := by
  unfold submit
  simp only [Outcome.shown_after, ← context.heading_eq, awaitResult_loud,
    show context.loud.policy = context.policy from rfl]
  congr 1
  split
  · rfl
  · split
    · rfl
    · rfl
    · rw [Outcome.shown_after, ← context.remark_eq, ← follow_eq]

theorem perform_eq (schedule : Schedule) (command : Command) (tree : Files.Tree) (state : τ) :
    command.perform transport context schedule tree state =
      (command.perform transport context.loud schedule tree state).shown context.quiet := by
  cases command <;> unfold Command.perform
  case submit arguments => exact submit_eq transport context _ arguments tree state
  case status jobId => exact display_eq context tree _ (Display.job_eq context) _
  case download arguments => exact download_eq transport context arguments tree state
  case locations arguments => exact display_eq context tree _ (Display.locationPage_eq context) _
  case location key => exact display_eq context tree _ (Display.locationDetail_eq context) _
  case audit auditId => exact display_eq context tree _ (Display.auditDetail_eq context) _
  case deficiency arguments =>
    exact display_eq context tree _ (Display.deficiencyUpdate_eq context _) _

/-- What a command does does not depend on whether the operator wants quiet, and what it prints is
what the operator is to see of the lines that are printed aloud. -/
theorem run_quiet (environment : Environment) (schedule : Schedule) (command : Command)
    (tree : Files.Tree) (state : τ) :
    command.run transport environment true schedule tree state =
      (command.run transport environment false schedule tree state).shown true := by
  unfold Command.run
  split
  · rfl
  · exact perform_eq transport ⟨_, true⟩ schedule command tree state

end Run

end AuditReports.CommandLine
