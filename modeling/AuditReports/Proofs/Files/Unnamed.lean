import AuditReports.Proofs.Files.Saving

/-!
# Saving a download without a name

A download to which the server has given no name is named after the address. Such a name is a
single component and a short one, so once the output directory is there, only one thing can keep the
file from being written: that a directory stands in its place. In a fresh working directory there
are no directories but those that have just been created, and these are the ones that the path of
the output directory leads through. It leads through the place of the file only if it goes down into
a directory of that very name and comes up again; then the file cannot be written, and otherwise it
is.
-/

namespace AuditReports.Files

namespace Place

variable {place target : Place}

/-- A path leads through every place where a part of it ends, its own end included. -/
def LeadsThrough (place : Place) (names : List String) (target : Place) : Prop :=
  ∃ front, front <+: names ∧ place.follow front = target

theorem leadsThrough_nil : place.LeadsThrough [] target ↔ place = target := by
  constructor
  · rintro ⟨front, within, rfl⟩
    rw [List.prefix_nil.mp within]
    rfl
  · rintro rfl
    exact ⟨[], List.nil_prefix, rfl⟩

theorem leadsThrough_cons {name : String} {names : List String} :
    place.LeadsThrough (name :: names) target ↔
      place = target ∨
        (if name = ".." then place.above else place.child name).LeadsThrough names target := by
  have onward : ∀ front, place.follow (name :: front) =
      (if name = ".." then place.above else place.child name).follow front := by
    intro front
    rw [follow]
    split <;> rfl
  constructor
  · rintro ⟨front, within, rfl⟩
    rcases List.prefix_cons_iff.mp within with rfl | ⟨later, rfl, inside⟩
    · exact .inl rfl
    · exact .inr ⟨later, inside, (onward later).symm⟩
  · rintro (rfl | ⟨front, within, rfl⟩)
    · exact ⟨[], List.nil_prefix, rfl⟩
    · exact ⟨name :: front, (List.prefix_cons_inj name).mpr within, onward front⟩

end Place

namespace Tree

variable {tree made : Tree} {place other : Place} {named : Bool} {names : List String}

/-- The directory above a directory is one, too. -/
def Closed (tree : Tree) : Prop :=
  ∀ place, tree.entry? place = some .directory → tree.entry? place.above = some .directory

/-- A path can be followed: every name on it is that of a directory. -/
def Walks (tree : Tree) (place : Place) : List String → Prop
  | [] => True
  | name :: rest =>
      if name = ".." then tree.Walks place.above rest
      else tree.lookup place name = .ok (some .directory) ∧ tree.Walks (place.child name) rest

theorem lookup_eq_ok_iff {name : String} {found : Option Entry} :
    tree.lookup place name = .ok found ↔
      name.utf8ByteSize ≤ longestName ∧ tree.entry? (place.child name) = found := by
  rw [lookup]
  split
  · next long => simp [Nat.not_le.mpr long]
  · next short => simp [Nat.not_lt.mp short]

/-! ## Creating directories -/

theorem entry?_put_directory (place : Place) (name : String) (other : Place) :
    entry? (tree.put (place.child name) .directory) other = some .directory ↔
      other = place.child name ∨ tree.entry? other = some .directory := by
  rw [entry?_put (List.cons_ne_nil _ _)]
  by_cases same : other = place.child name
  · simp [same]
  · simp [same]

/-- What is a directory remains one. -/
theorem directory_of_createFrom (created : tree.createFrom place named names = (made, none))
    (isDirectory : tree.entry? other = some .directory) : made.entry? other = some .directory := by
  fun_induction createFrom tree place named names with
  | case1 =>
      rcases (Prod.mk.inj created).1 with rfl
      exact isDirectory
  | case2 _ _ _ _ _ ih => exact ih created isDirectory
  | case3 => cases created
  | case4 => cases created
  | case5 tree place name rest _ _ _ ih =>
      exact ih created ((entry?_put_directory place name other).mpr (.inr isDirectory))
  | case6 _ _ _ _ _ _ ih => exact ih created isDirectory
  | case7 => cases created

/-- A path along which directories have been created can be followed. -/
theorem walks_createFrom (created : tree.createFrom place named names = (made, none)) :
    made.Walks place names := by
  fun_induction createFrom tree place named names with
  | case1 => trivial
  | case2 _ _ _ _ dots ih =>
      rw [Walks, if_pos (beq_iff_eq.mp dots)]
      exact ih created
  | case3 => cases created
  | case4 => cases created
  | case5 tree place name rest proper free _ ih =>
      rw [Walks, if_neg (by simpa using proper)]
      refine ⟨lookup_eq_ok_iff.mpr ⟨(lookup_eq_ok_iff.mp free).1, ?_⟩, ih created⟩
      exact directory_of_createFrom created ((entry?_put_directory place name _).mpr (.inl rfl))
  | case6 tree place name rest proper found ih =>
      rw [Walks, if_neg (by simpa using proper)]
      rcases lookup_eq_ok_iff.mp found with ⟨short, isDirectory⟩
      exact ⟨lookup_eq_ok_iff.mpr ⟨short, directory_of_createFrom created isDirectory⟩,
        ih created⟩
  | case7 => cases created

theorem closed_createFrom (closed : tree.Closed)
    (isDirectory : tree.entry? place = some .directory) :
    (tree.createFrom place named names).1.Closed := by
  fun_induction createFrom tree place named names with
  | case1 => exact closed
  | case2 tree place _ _ _ ih => exact ih closed (closed place isDirectory)
  | case3 => exact closed
  | case4 => exact closed
  | case5 tree place name rest _ _ _ ih =>
      refine ih (fun other found => ?_) ((entry?_put_directory place name _).mpr (.inl rfl))
      rw [entry?_put_directory] at found ⊢
      rcases found with rfl | found
      · exact .inr isDirectory
      · exact .inr (closed other found)
  | case6 _ _ _ _ _ found ih => exact ih closed (lookup_eq_ok_iff.mp found).2
  | case7 => exact closed

/-- No directories are created but those that the path leads through. -/
theorem leadsThrough_of_createFrom
    (isDirectory : entry? (tree.createFrom place named names).1 other = some .directory) :
    tree.entry? other = some .directory ∨ place.LeadsThrough names other := by
  fun_induction createFrom tree place named names with
  | case1 => exact .inl isDirectory
  | case2 _ _ _ _ dots ih =>
      rw [Place.leadsThrough_cons, if_pos (beq_iff_eq.mp dots)]
      rcases ih isDirectory with before | through
      · exact .inl before
      · exact .inr (.inr through)
  | case3 => exact .inl isDirectory
  | case4 => exact .inl isDirectory
  | case5 tree place name rest proper _ _ ih =>
      rw [Place.leadsThrough_cons, if_neg (by simpa using proper)]
      rcases ih isDirectory with before | through
      · rcases (entry?_put_directory place name other).mp before with rfl | before
        · exact .inr (.inr ⟨[], List.nil_prefix, rfl⟩)
        · exact .inl before
      · exact .inr (.inr through)
  | case6 _ _ _ _ proper _ ih =>
      rw [Place.leadsThrough_cons, if_neg (by simpa using proper)]
      rcases ih isDirectory with before | through
      · exact .inl before
      · exact .inr (.inr through)
  | case7 => exact .inl isDirectory

/-- All that a path leads through is a directory, if the path can be followed. -/
theorem directory_of_leadsThrough (closed : tree.Closed)
    (isDirectory : tree.entry? place = some .directory) (walks : tree.Walks place names)
    (through : place.LeadsThrough names other) : tree.entry? other = some .directory := by
  induction names generalizing place with
  | nil =>
      rcases Place.leadsThrough_nil.mp through with rfl
      exact isDirectory
  | cons name names ih =>
      rw [Walks] at walks
      rcases Place.leadsThrough_cons.mp through with rfl | through
      · exact isDirectory
      · split at walks
        · next dots =>
            rw [if_pos dots] at through
            exact ih (closed place isDirectory) walks through
        · next proper =>
            rw [if_neg proper] at through
            exact ih (lookup_eq_ok_iff.mp walks.1).2 walks.2 through

theorem closed_empty : empty.Closed := by
  intro place isDirectory
  rcases place with ⟨up, _ | ⟨name, names⟩⟩
  · rfl
  · cases isDirectory

section Created

variable {directory : String} (created : empty.createDirectories directory = (made, none))

include created

theorem createFrom_of_created :
    pathError? directory = none ∧
      empty.createFrom .here (!Path.endsInDot directory) (Path.components directory) =
        (made, none) := by
  rw [createDirectories] at created
  split at created
  · cases created
  · next proper => exact ⟨proper, created⟩

theorem walks_of_created : made.Walks .here (Path.components directory) :=
  walks_createFrom (createFrom_of_created created).2

/-- In a fresh working directory, the directories that are created along a path are those that it
leads through. -/
theorem directory_iff_leadsThrough (below : other.names ≠ []) :
    made.entry? other = some .directory ↔
      Place.here.LeadsThrough (Path.components directory) other := by
  have result : (empty.createFrom .here (!Path.endsInDot directory)
      (Path.components directory)).1 = made :=
    congrArg Prod.fst (createFrom_of_created created).2
  constructor
  · intro isDirectory
    rw [← result] at isDirectory
    rcases leadsThrough_of_createFrom isDirectory with before | through
    · simp [below, empty, entry?] at before
    · exact through
  · intro through
    have closed : made.Closed := by
      rw [← result]
      exact closed_createFrom closed_empty rfl
    exact directory_of_leadsThrough closed rfl (walks_of_created created) through

end Created

/-! ## Writing the file -/

theorem writeFrom_of_walks {name : String} {bytes : List UInt8} (walks : tree.Walks place names) :
    tree.writeFrom place bytes (names ++ [name]) =
      tree.writeFrom (place.follow names) bytes [name] := by
  induction names generalizing place with
  | nil => rfl
  | cons first names ih =>
      rw [Walks] at walks
      rw [List.cons_append, writeFrom, Place.follow]
      split at walks
      · next dots =>
          rw [if_pos (beq_iff_eq.mpr dots), if_pos dots]
          exact ih walks
      · next proper =>
          rw [if_neg (by simpa using proper), if_neg proper, walks.1]
          exact ih walks.2

/-- A directory is not replaced by a file. -/
theorem writeFrom_singleton {name : String} (bytes : List UInt8) (proper : name ≠ "..")
    (short : name.utf8ByteSize ≤ longestName) :
    tree.writeFrom place bytes [name] =
      if tree.entry? (place.child name) = some .directory then .error .isADirectory
      else .ok (tree.put (place.child name) (.file bytes)) := by
  have looked : tree.lookup place name = .ok (tree.entry? (place.child name)) :=
    lookup_eq_ok_iff.mpr ⟨short, rfl⟩
  rw [writeFrom, if_neg (by simpa using proper), looked]
  cases tree.entry? (place.child name) with
  | none => rfl
  | some entry => cases entry <;> rfl

end Tree

/-! ## Saving -/

theorem pathError?_eq_none_iff {path : String} :
    Tree.pathError? path = none ↔
      '\x00' ∉ path.toList ∧ path.utf8ByteSize ≤ Tree.longestPath := by
  rw [Tree.pathError?]
  split_ifs <;> simp_all

theorem not_mem_join {directory name : String} {character : Char} (other : character ≠ '/')
    (outside : character ∉ directory.toList) (apart : character ∉ name.toList) :
    character ∉ (Path.join directory name).toList := by
  rw [Path.join]
  split
  · exact apart
  · split <;> simp_all

section Save

variable {made : Tree} {directory : String} {artifact : Artifact}

/-- Once the output directory is there, only a directory in its place keeps a file with a short
name from being written. -/
theorem save_of_created (created : Tree.empty.createDirectories directory = (made, none))
    (isName : Path.IsName (savedName artifact)) (clean : '\x00' ∉ (savedName artifact).toList)
    (short : (savedName artifact).utf8ByteSize ≤ Tree.longestName)
    (fits : (savedPath directory artifact).utf8ByteSize ≤ Tree.longestPath) :
    let target := (Place.here.follow (Path.components directory)).child (savedName artifact)
    save .empty directory artifact =
      if made.entry? target = some .directory then
        (made, .error ⟨"failed to write " ++ savedPath directory artifact, .isADirectory⟩)
      else (made.put target (.file artifact.bytes), .ok (savedPath directory artifact)) := by
  intro target
  have proper : Tree.pathError? (savedPath directory artifact) = none := by
    have outside := (pathError?_eq_none_iff.mp (Tree.createFrom_of_created created).1).1
    exact pathError?_eq_none_iff.mpr ⟨not_mem_join (by decide) outside clean, fits⟩
  have written : made.writeFile (savedPath directory artifact) artifact.bytes =
      if made.entry? target = some .directory then .error .isADirectory
      else .ok (made.put target (.file artifact.bytes)) := by
    rw [Tree.writeFile, proper, savedPath, Path.components_join directory isName]
    simp only
    rw [Tree.writeFrom_of_walks (Tree.walks_of_created created),
      Tree.writeFrom_singleton artifact.bytes isName.2.2.2 short]
  rw [save, created]
  simp only [written]
  split_ifs <;> rfl

/-- An artifact that is named after the address is saved under its own name. -/
theorem savedName_of_unnamed {jobId address : String} {download : Download}
    (unnamed : download.filename.bind Text.content? = none) :
    savedName (Artifact.ofDownload jobId download address) =
      (Artifact.ofDownload jobId download address).filename :=
  savedName_of_fileName? (Path.fileName?_of_isName (Artifact.isName_chooseName unnamed))

end Save

/-- A download to which the server has given no name, or a blank one, is named after the address, by
a single component of at most 81 bytes. In a fresh working directory it is saved into every output
directory that can be created, as far as the path is not too long, and it is the only file then. The
exception is an output directory whose path leads through the place of the file. -/
theorem unnamed_download_is_saved (jobId address : String) (download : Download)
    (unnamed : ∀ name, download.filename = some name → Text.blank name = true) :
    let artifact := Artifact.ofDownload jobId download address
    artifact.filename =
        "audit-report-" ++ slug address ++ "." ++ Artifact.extension download.contentType ∧
      Path.IsName artifact.filename ∧ artifact.filename.utf8ByteSize ≤ 81 ∧
      ∀ directory made, Tree.empty.createDirectories directory = (made, none) →
        let path := Path.join directory artifact.filename
        let target := (Place.here.follow (Path.components directory)).child artifact.filename
        path.utf8ByteSize ≤ Tree.longestPath →
        (¬Place.here.LeadsThrough (Path.components directory) target →
          ∃ after, save .empty directory artifact = (after, .ok path) ∧
            ∀ place, after.file? place = if place = target then some download.body else none) ∧
        (Place.here.LeadsThrough (Path.components directory) target →
          save .empty directory artifact =
            (made, .error ⟨"failed to write " ++ path, .isADirectory⟩)) := by
  have missing : download.filename.bind Text.content? = none := by
    rw [Option.bind_eq_none_iff]
    intro name given
    have blank := Text.blank_iff.mp (unnamed name given)
    simp [Text.content?, blank]
  intro artifact
  have isName : Path.IsName artifact.filename := Artifact.isName_chooseName missing
  have small : artifact.filename.utf8ByteSize ≤ 81 := Artifact.utf8ByteSize_chooseName_le missing
  have saved : savedName artifact = artifact.filename := savedName_of_unnamed missing
  refine ⟨Artifact.chooseName_of_unnamed missing, isName, small, ?_⟩
  intro directory made created path target fits
  have clean : '\x00' ∉ artifact.filename.toList := by
    intro listed
    exact absurd (Artifact.mem_chooseName missing '\x00' listed) (by decide)
  have short : artifact.filename.utf8ByteSize ≤ Tree.longestName := Nat.le_trans small (by decide)
  have outcome : save .empty directory artifact =
      if made.entry? target = some .directory then
        (made, .error ⟨"failed to write " ++ path, .isADirectory⟩)
      else (made.put target (.file artifact.bytes), .ok path) := by
    have written := @save_of_created made directory artifact created
    rw [savedPath, saved] at written
    exact written isName clean short fits
  have taken : made.entry? target = some .directory ↔ _ :=
    Tree.directory_iff_leadsThrough created (List.cons_ne_nil _ _)
  refine ⟨fun free => ?_, fun through => ?_⟩
  · rw [if_neg (mt taken.mp free)] at outcome
    refine ⟨_, outcome, fun place => ?_⟩
    have single : savedPath directory artifact = path := by rw [savedPath, saved]
    have files := file?_of_save outcome place
    rwa [← single, follow_savedPath (saved ▸ isName), saved, Tree.file?_empty] at files
  · rwa [if_pos (taken.mpr through)] at outcome

/-- Here the output directory is two levels below the working directory and does not exist yet. -/
theorem unnamed_download_is_saved_below :
    let artifact := Artifact.ofDownload "job-7" ⟨[0x50, 0x4B], some " ", some "application/pdf"⟩
      "Unit 4B"
    let outcome := save .empty "reports/./2024/" artifact
    outcome.2 = .ok "reports/./2024/audit-report-unit-4b.pdf" ∧
      ∀ place, outcome.1.file? place =
        if place = ⟨0, ["audit-report-unit-4b.pdf", "2024", "reports"]⟩ then some [0x50, 0x4B]
        else none := by
  intro artifact outcome
  have blank : ∀ name, some " " = some name → Text.blank name = true := by
    rintro name ⟨⟩
    decide +kernel
  rcases unnamed_download_is_saved "job-7" "Unit 4B"
    ⟨[0x50, 0x4B], some " ", some "application/pdf"⟩ blank with ⟨-, -, -, saves⟩
  let made : Tree := ⟨[(⟨0, ["reports"]⟩, .directory), (⟨0, ["2024", "reports"]⟩, .directory)]⟩
  have created : Tree.empty.createDirectories "reports/./2024/" = (made, none) := by decide +kernel
  have parts : Path.components "reports/./2024/" = ["reports", "2024"] := by decide +kernel
  have named : artifact.filename = "audit-report-unit-4b.pdf" := by decide +kernel
  have target : (Place.here.follow (Path.components "reports/./2024/")).child artifact.filename =
      ⟨0, ["audit-report-unit-4b.pdf", "2024", "reports"]⟩ := by
    rw [parts, named]
    decide
  have free : ¬Place.here.LeadsThrough (Path.components "reports/./2024/")
      ⟨0, ["audit-report-unit-4b.pdf", "2024", "reports"]⟩ := by
    simp [parts, Place.leadsThrough_cons, Place.leadsThrough_nil, Place.here, Place.child]
  rcases (saves "reports/./2024/" made created (by decide +kernel)).1 (target ▸ free) with
    ⟨after, saved, files⟩
  have same : outcome = (after, .ok (Path.join "reports/./2024/" artifact.filename)) := saved
  have path : Path.join "reports/./2024/" "audit-report-unit-4b.pdf" =
      "reports/./2024/audit-report-unit-4b.pdf" := by decide +kernel
  rw [same, named, path]
  refine ⟨rfl, fun place => ?_⟩
  rw [← target]
  exact files place

/-- The output directory is the working directory, but on the way there a directory is created that
has the name of the file. -/
theorem unnamed_download_meets_directory :
    let artifact := Artifact.ofDownload "job-7" ⟨[0x50, 0x4B], none, some "application/zip"⟩
      "12 Elm St"
    let directory := "audit-report-12-elm-st.zip/.."
    (∃ made, Tree.empty.createDirectories directory = (made, none)) ∧
      (Path.join directory artifact.filename).utf8ByteSize ≤ Tree.longestPath ∧
      (save .empty directory artifact).2 =
        .error ⟨"failed to write audit-report-12-elm-st.zip/../audit-report-12-elm-st.zip",
          .isADirectory⟩ := by
  refine ⟨⟨⟨[(⟨0, ["audit-report-12-elm-st.zip"]⟩, .directory)]⟩, ?_⟩, ?_, ?_⟩ <;> decide +kernel

end AuditReports.Files
