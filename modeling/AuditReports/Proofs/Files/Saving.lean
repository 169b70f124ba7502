import AuditReports.Files.Save
import AuditReports.Proofs.Report.Names

/-!
# Where artifacts are saved

To save an artifact, the directory is created first and then one file is written. Creating
directories leaves every file as it is, and writing changes no file but the one at the end of the
path. If the name of the artifact is a single component, this file lies in the directory; a name
with slashes in it may lead anywhere.

The name that the server gave is cut down to its last component before it is used. The name that is
made from the job, for the case that this component is no name, is used as it is, so everything
hinges on the id of the job there.
-/

namespace AuditReports.Files

/-- Where a path leads from a place, if nothing is in the way. -/
def Place.follow (place : Place) : List String → Place
  | [] => place
  | name :: rest => if name = ".." then place.above.follow rest else (place.child name).follow rest

theorem Place.follow_concat {name : String} (proper : name ≠ "..") (place : Place)
    (names : List String) :
    place.follow (names ++ [name]) = (place.follow names).child name := by
  induction names generalizing place with
  | nil => exact if_neg proper
  | cons first names ih =>
      rw [List.cons_append, follow, follow]
      split
      · exact ih _
      · exact ih _

namespace Tree

variable {tree after : Tree} {place other : Place}

/-- What is in the file at a place, if there is one. -/
def file? (tree : Tree) (place : Place) : Option (List UInt8) :=
  match tree.entry? place with
  | some (.file bytes) => some bytes
  | _ => none

/-! ## Putting entries into a tree -/

theorem file?_empty (place : Place) : empty.file? place = none := by
  rw [file?, entry?]
  cases place.names.isEmpty <;> rfl

theorem entry?_put (below : place.names ≠ []) (entry : Entry) (other : Place) :
    Tree.entry? (tree.put place entry) other =
      if other = place then some entry else tree.entry? other := by
  by_cases same : other = place
  · subst same
    have gone : (tree.entries.filter (·.1 != other)).find? (·.1 == other) = none := by
      simp [List.find?_eq_none]
    simp [put, entry?, below, gone, List.find?_append]
  · have kept : (tree.entries.filter (·.1 != place)).find? (·.1 == other) =
        tree.entries.find? (·.1 == other) := by
      rw [List.find?_filter]
      congr 1
      funext entry
      by_cases found : entry.1 = other <;> simp [found, same]
    have apart : place ≠ other := Ne.symm same
    simp [put, entry?, kept, same, apart, List.find?_append]

theorem file?_put_file (below : place.names ≠ []) (bytes : List UInt8) (other : Place) :
    (tree.put place (.file bytes)).file? other =
      if other = place then some bytes else tree.file? other := by
  rw [file?, file?, entry?_put below]
  by_cases same : other = place <;> simp [same]

/-- A new directory takes the place of no file. -/
theorem file?_put_directory (below : place.names ≠ []) (free : tree.entry? place = none)
    (other : Place) : (tree.put place .directory).file? other = tree.file? other := by
  rw [file?, file?, entry?_put below]
  by_cases same : other = place <;> simp [same, free]

theorem entry?_of_lookup {name : String} {found : Option Entry}
    (looked : tree.lookup place name = .ok found) : tree.entry? (place.child name) = found := by
  rw [lookup] at looked
  split at looked
  · cases looked
  · exact Except.ok.inj looked

/-! ## Following a path -/

/-- Creating directories leaves every file as it is. -/
theorem file?_createFrom (tree : Tree) (place : Place) (named : Bool) (names : List String)
    (other : Place) : (tree.createFrom place named names).1.file? other = tree.file? other := by
  fun_induction createFrom tree place named names with
  | case1 => rfl
  | case2 _ _ _ _ _ ih => exact ih
  | case3 => rfl
  | case4 => rfl
  | case5 tree place name rest _ free _ ih =>
      rw [ih]
      exact file?_put_directory (List.cons_ne_nil _ _) (entry?_of_lookup free) other
  | case6 _ _ _ _ _ _ ih => exact ih
  | case7 => rfl

/-- A file is written at the end of its path. -/
theorem writeFrom_eq {bytes : List UInt8} {names : List String}
    (written : tree.writeFrom place bytes names = .ok after) :
    after = tree.put (place.follow names) (.file bytes) ∧ (place.follow names).names ≠ [] := by
  induction names generalizing place with
  | nil => cases written
  | cons name rest ih =>
      rw [writeFrom] at written
      rw [Place.follow]
      split at written
      · next dots =>
          rw [if_pos (beq_iff_eq.mp dots)]
          exact ih written
      · next proper =>
          rw [if_neg (by simpa using proper)]
          split at written
          · cases written
          · exact ih written
          · -- Only the last name of the path may stand for anything else than a directory.
            split at written
            · next last =>
                rcases List.isEmpty_iff.mp last with rfl
                exact ⟨(Except.ok.inj written).symm, List.cons_ne_nil _ _⟩
            · split at written <;> cases written

end Tree

/-! ## Saving -/

section Saving

variable {tree after : Tree} {directory path : String} {artifact : Artifact}

theorem save_eq_ok (saved : save tree directory artifact = (after, .ok path)) :
    path = savedPath directory artifact ∧ ∃ made,
      tree.createDirectories directory = (made, none) ∧
        made.writeFile path artifact.bytes = .ok after := by
  rw [save] at saved
  split at saved
  · cases saved
  · next made created =>
      simp only at saved
      split at saved
      · next written =>
          cases saved
          exact ⟨rfl, made, created, written⟩
      · cases saved

/-- Creating the directory of an artifact changes no file. -/
theorem file?_createDirectories (tree : Tree) (path : String) (place : Place) :
    (tree.createDirectories path).1.file? place = tree.file? place := by
  rw [Tree.createDirectories]
  split
  · rfl
  · exact Tree.file?_createFrom tree .here _ _ place

/-- The one file that is different after an artifact has been saved is at the end of its path. -/
theorem file?_of_save (saved : save tree directory artifact = (after, .ok path)) (place : Place) :
    after.file? place =
      if place = Place.here.follow (Path.components path) then some artifact.bytes
      else tree.file? place := by
  rcases save_eq_ok saved with ⟨-, made, created, written⟩
  have same : made.file? place = tree.file? place := by
    rw [← file?_createDirectories tree directory place, created]
  rw [Tree.writeFile] at written
  split at written
  · cases written
  · rcases Tree.writeFrom_eq written with ⟨rfl, below⟩
    rw [Tree.file?_put_file below, same]

/-- The path of a name in a directory ends in the directory. -/
theorem follow_savedPath (isName : Path.IsName (savedName artifact)) :
    Place.here.follow (Path.components (savedPath directory artifact)) =
      (Place.here.follow (Path.components directory)).child (savedName artifact) := by
  rw [savedPath, Path.components_join directory isName, Place.follow_concat isName.2.2.2]

end Saving

/-! ## Names -/

theorem savedName_of_fileName? {artifact : Artifact} {name : String}
    (last : Path.fileName? artifact.filename = some name) : savedName artifact = name := by
  rw [savedName, last]
  rfl

theorem toList_savedName_of_none {artifact : Artifact}
    (none : Path.fileName? artifact.filename = none) :
    (savedName artifact).toList =
      'a' :: ("udit-report-".toList ++ artifact.jobId.toList ++ ".zip".toList) := by
  rw [savedName, none]
  change ("audit-report-" ++ artifact.jobId ++ ".zip").toList = _
  rw [String.toList_append, String.toList_append]
  rfl

/-- A name made from the job is one if the id has no slash in it. -/
theorem isName_savedName_iff {artifact : Artifact} :
    Path.IsName (savedName artifact) ↔
      (Path.fileName? artifact.filename).isSome = true ∨ '/' ∉ artifact.jobId.toList := by
  cases last : Path.fileName? artifact.filename with
  | some name =>
      rw [savedName_of_fileName? last]
      exact iff_of_true (Path.isName_of_fileName? last) (.inl rfl)
  | none =>
      have written := toList_savedName_of_none last
      have listed : '/' ∈ (savedName artifact).toList ↔ '/' ∈ artifact.jobId.toList := by
        have others : '/' ≠ 'a' ∧ '/' ∉ "udit-report-".toList ∧ '/' ∉ ".zip".toList := by decide
        rw [written, List.mem_cons, List.mem_append, List.mem_append]
        simp only [others, false_or, or_false]
      simp only [Option.isSome_none, Bool.false_eq_true, false_or]
      rw [← listed]
      exact ⟨fun isName => isName.1, Path.isName_of_head written (by decide)⟩

/-- With an id that has a slash in it, the server must not give a name that ends in none. -/
theorem isName_savedName_ofDownload_iff {jobId address : String} {download : Download} :
    Path.IsName (savedName (Artifact.ofDownload jobId download address)) ↔
      ('/' ∈ jobId.toList → ∀ name, download.filename.bind Text.content? = some name →
        (Path.fileName? name).isSome = true) := by
  rw [isName_savedName_iff, or_comm, ← Decidable.imp_iff_not_or]
  refine imp_congr_right fun _ => ?_
  change (Path.fileName? (Artifact.chooseName download.filename download.contentType
    address)).isSome = true ↔ _
  cases given : download.filename.bind Text.content? with
  | none =>
      rw [Path.fileName?_of_isName (Artifact.isName_chooseName given)]
      simp
  | some name =>
      rw [Artifact.chooseName, given]
      simp

/-- An artifact is saved under a single name in the output directory, unless the last component of
the name that the server gave is no name and the id of the job has a slash in it. Under a single
name, the one file that is new or changed lies in the output directory and holds the bytes of the
artifact. -/
theorem save_stays_inside (directory jobId address : String) (download : Download) :
    let artifact := Artifact.ofDownload jobId download address
    ((∃ name, Path.IsName name ∧ savedPath directory artifact = Path.join directory name) ↔
      ('/' ∈ jobId.toList → ∀ name, download.filename.bind Text.content? = some name →
        (Path.fileName? name).isSome = true)) ∧
    ∀ name, Path.IsName name → savedPath directory artifact = Path.join directory name →
      ∀ tree after path, save tree directory artifact = (after, .ok path) →
        path = Path.join directory name ∧
        ∀ place, after.file? place =
          if place = (Place.here.follow (Path.components directory)).child name then
            some download.body
          else tree.file? place := by
  intro artifact
  constructor
  · rw [← isName_savedName_ofDownload_iff]
    constructor
    · rintro ⟨name, isName, same⟩
      rwa [Path.join_inj.mp same]
    · exact fun isName => ⟨_, isName, rfl⟩
  · intro name isName same tree after path saved
    have named := Path.join_inj.mp same
    subst named
    have path := (save_eq_ok saved).1
    refine ⟨path, fun place => ?_⟩
    rw [file?_of_save saved, path, follow_savedPath isName]
    rfl

/-- A path of the server's own is cut down to its last component. -/
theorem owner_report_is_saved_inside :
    let artifact := Artifact.ofDownload "a/b"
      ⟨[0x50, 0x4B], some "../../etc/owner-report.zip", none⟩ ""
    let outcome := save .empty "out" artifact
    outcome.2 = .ok "out/owner-report.zip" ∧
      ∀ place, outcome.1.file? place =
        if place = ⟨0, ["owner-report.zip", "out"]⟩ then some [0x50, 0x4B] else none := by
  intro artifact outcome
  rcases save_stays_inside "out" "a/b" "" ⟨[0x50, 0x4B], some "../../etc/owner-report.zip", none⟩
    with ⟨single, inside⟩
  have saved : outcome.2 = .ok "out/owner-report.zip" := by decide +kernel
  have isName : Path.IsName "owner-report.zip" := by decide +kernel
  have path : savedPath "out" artifact = Path.join "out" "owner-report.zip" := by decide +kernel
  have written : outcome = (outcome.1, .ok "out/owner-report.zip") := by rw [← saved]
  have below : (Place.here.follow (Path.components "out")).child "owner-report.zip" =
      ⟨0, ["owner-report.zip", "out"]⟩ := by decide +kernel
  refine ⟨saved, fun place => ?_⟩
  rw [(inside _ isName path .empty outcome.1 _ written).2 place, below, Tree.file?_empty]

/-- The name made from a job with slashes in its id leads out of the output directory, here from the
directory `x` to the one above it. -/
theorem slashes_in_id_lead_outside :
    let directory := "x/audit-report-a/.."
    let artifact := Artifact.ofDownload "a/../../evil" ⟨[0x50, 0x4B], some "..", none⟩ ""
    let outcome := save .empty directory artifact
    (¬ ∃ name, Path.IsName name ∧ savedPath directory artifact = Path.join directory name) ∧
      outcome.2 = .ok "x/audit-report-a/../audit-report-a/../../evil.zip" ∧
      Place.here.follow (Path.components directory) = ⟨0, ["x"]⟩ ∧
      outcome.1.file? ⟨0, ["evil.zip"]⟩ = some [0x50, 0x4B] := by
  intro directory artifact outcome
  refine ⟨?_, by decide +kernel, by decide +kernel, by decide +kernel⟩
  rintro ⟨name, isName, same⟩
  have named : name = savedName artifact := (Path.join_inj.mp same).symm
  rw [named] at isName
  exact absurd isName (by decide +kernel)

end AuditReports.Files
