import AuditReports.Files.Path
import AuditReports.Proofs.Text.RoundTrips

/-!
# Names in paths

A name is a component that leads to an entry of the directory it stands in: it has no slash, and it
is neither empty nor one of the two components made of dots. Joined to a directory it is the last
component of the path, and the other components are those of the directory. The last component of
any path is a name unless there is none or it is two dots.
-/

namespace AuditReports.Files.Path

/-- A component that names an entry of a directory. -/
def IsName (name : String) : Prop :=
  '/' ∉ name.toList ∧ name ≠ "" ∧ name ≠ "." ∧ name ≠ ".."
  deriving Decidable

theorem isName_of_head {name : String} {character : Char} {rest : List Char}
    (begins : name.toList = character :: rest) (solid : character ≠ '.')
    (apart : '/' ∉ name.toList) : IsName name := by
  have other : ∀ text : String, text.toList.head? ∈ [none, some '.'] → name ≠ text := by
    rintro _ among rfl
    rw [begins, List.head?_cons] at among
    simp [solid] at among
  exact ⟨apart, other "" (by decide), other "." (by decide), other ".." (by decide)⟩

/-! ## Components -/

theorem components_append_slash (first second : String) :
    components (first ++ "/" ++ second) = components first ++ components second := by
  have cut : Text.fields '/' (first ++ "/" ++ second).toList =
      Text.fields '/' first.toList ++ Text.fields '/' second.toList := by
    rw [String.toList_append, String.toList_append, List.append_assoc]
    exact Text.fieldsBy_append_cons rfl _ _
  rw [components, cut, List.map_append, List.filter_append]
  rfl

theorem components_of_isName {name : String} (isName : IsName name) : components name = [name] := by
  rcases isName with ⟨apart, nonempty, noDot, _⟩
  have single : Text.fields '/' name.toList = [name.toList] :=
    Text.fieldsBy_of_forall_not fun character inside =>
      beq_eq_false_iff_ne.mpr fun same => apart (same ▸ inside)
  simp [components, single, nonempty, noDot]

theorem components_join (directory : String) {name : String} (isName : IsName name) :
    components (join directory name) = components directory ++ [name] := by
  rw [join, ← components_of_isName isName]
  split
  · next empty =>
      rw [beq_iff_eq.mp empty]
      rfl
  · split
    · next ends =>
        -- The slash is there already, and what follows it in the directory is empty.
        rcases List.getLast?_eq_some_iff.mp (beq_iff_eq.mp ends) with ⟨before, whole⟩
        have split : directory = String.ofList before ++ "/" := by
          rw [← String.toList_inj, whole, String.toList_append, String.toList_ofList]
          rfl
        have bare : components directory = components (String.ofList before) := by
          have cut := components_append_slash (String.ofList before) ""
          rw [String.append_empty, ← split] at cut
          rw [cut]
          exact List.append_nil _
        rw [bare, split, components_append_slash]
    · exact components_append_slash directory name

/-- A path tells which name was joined to the directory. -/
theorem join_inj {directory first second : String} :
    join directory first = join directory second ↔ first = second := by
  refine ⟨fun same => ?_, fun same => same ▸ rfl⟩
  rw [join, join] at same
  split at same
  · exact same
  · split at same
    · exact (String.append_right_inj directory).mp same
    · exact (String.append_right_inj (directory ++ "/")).mp same

/-! ## The last component -/

theorem fileName?_of_isName {name : String} (isName : IsName name) :
    fileName? name = some name := by
  rw [fileName?, components_of_isName isName]
  simp [isName.2.2.2]

theorem isName_of_fileName? {path name : String} (last : fileName? path = some name) :
    IsName name := by
  rw [fileName?] at last
  split at last
  · cases last
  · next component found =>
      split at last
      · cases last
      · next proper =>
          rcases Option.some.inj last with rfl
          have listed := List.mem_of_getLast? found
          rw [components, List.mem_filter, List.mem_map] at listed
          rcases listed with ⟨⟨field, cut, rfl⟩, shown⟩
          rw [Bool.and_eq_true, bne_iff_ne, bne_iff_ne] at shown
          refine ⟨fun inside => ?_, shown.1, shown.2, fun same => proper (beq_iff_eq.mpr same)⟩
          rw [String.toList_ofList] at inside
          exact absurd (Text.separates_of_mem_fieldsBy cut '/' inside) (by decide)

end AuditReports.Files.Path
