import AuditReports.Proofs.Api.FileNames
import AuditReports.Proofs.Text.Escapes

/-!
# Plain file names

A plain name stands in quotes and needs no decoding, since anything but a quote and a semicolon may
be in it. It is decoded nevertheless, like an extended one. So a name is taken as it stands if and
only if nothing in it looks escaped, or the bytes that it would stand for are no text; a percent
sign that belongs to the name may be taken for an escape.

A server that has a name outside ASCII sends both forms, the plain one for those who cannot read the
other. Which of the two is taken is not decided by their forms but by their order: the search ends
at the first of them. Of a header with the plain name in front the extended one is never read.
-/

namespace AuditReports.Disposition

open Text.Percent (HasEscape)

/-- What is made of the value of a name, in either form. -/
def reading (value : List Char) : String :=
  String.ofList ((Text.Percent.decode? value).getD value)

theorem filename?_eq (header : String) :
    filename? header = (value? header.toList).map reading :=
  rfl

/-- A value is taken as it stands if and only if nothing in it is escaped, or if what it stands for
is no text. -/
theorem reading_eq_iff (name : String) :
    reading name.toList = name ↔
      ¬HasEscape name.toList ∨ Text.Percent.decode? name.toList = none := by
  have self := Text.Percent.decode?_eq_self_iff name.toList
  rw [reading]
  cases decoded : Text.Percent.decode? name.toList with
  | none => simp
  | some characters =>
      rw [decoded, Option.some.injEq] at self
      rw [← self, ← String.toList_inj]
      simp

/-! ## One name -/

theorem filename?_plain {name : String} (named : name ≠ "")
    (quotable : ∀ character ∈ name.toList, character ≠ '"' ∧ character ≠ ';')
    {lead marker : String} (nameless : Nameless lead.toList)
    (word : marker.toList.map Char.toLower = "filename=".toList) (behind : String) :
    filename? (lead ++ marker ++ "\"" ++ name ++ "\"" ++ behind) = some (reading name.toList) := by
  have nonempty : name.toList ≠ [] := mt String.toList_eq_nil_iff.mp named
  have header : (lead ++ marker ++ "\"" ++ name ++ "\"" ++ behind).toList =
      lead.toList ++ (marker.toList ++ '"' :: (name.toList ++ '"' :: behind.toList)) := by simp
  rw [filename?_eq, header, value?_plain nameless word quotable nonempty, Option.map_some]

/-- A plain name in quotes is found wherever it stands behind a text that opens no name, and it is
decoded as if it were an extended one. It is taken as it stands if and only if nothing in it is
escaped, or if what it stands for is no text. -/
theorem plain_name_is_decoded {name : String} (named : name ≠ "")
    (quotable : ∀ character ∈ name.toList, character ≠ '"' ∧ character ≠ ';')
    {lead marker : String} (nameless : Nameless lead.toList)
    (word : marker.toList.map Char.toLower = "filename=".toList) (behind : String) :
    let found := filename? (lead ++ marker ++ "\"" ++ name ++ "\"" ++ behind)
    found = some (reading name.toList) ∧
      (∀ extended : String, extended.toList.map Char.toLower = "filename*=utf-8''".toList →
        found = filename? (lead ++ extended ++ name)) ∧
      (found = some name ↔
        ¬HasEscape name.toList ∨ Text.Percent.decode? name.toList = none) := by
  intro found
  have read : found = some (reading name.toList) :=
    filename?_plain named quotable nameless word behind
  have nonempty : name.toList ≠ [] := mt String.toList_eq_nil_iff.mp named
  have apart : ';' ∉ name.toList := fun listed => (quotable ';' listed).2 rfl
  refine ⟨read, fun extended words => ?_, ?_⟩
  · have header : (lead ++ extended ++ name).toList =
        lead.toList ++ (extended.toList ++ (name.toList ++ [])) := by simp
    rw [read, filename?_eq, header, value?_extended nameless words apart nonempty (by simp),
      Option.map_some]
  · rw [read, Option.some.injEq, reading_eq_iff]

/-- Of the two percent signs only the second one has two digits behind it. -/
theorem plain_name_is_decoded_in_part :
    ("50% of a%41.zip" ≠ "" ∧
        (∀ character ∈ "50% of a%41.zip".toList, character ≠ '"' ∧ character ≠ ';') ∧
        Nameless "attachment; size=12; ".toList ∧
        "FileName=".toList.map Char.toLower = "filename=".toList) ∧
      filename? "attachment; size=12; FileName=\"50% of a%41.zip\"; version=3" =
        some "50% of aA.zip" := by
  have named : "50% of a%41.zip" ≠ "" := by decide
  have quotable : ∀ character ∈ "50% of a%41.zip".toList, character ≠ '"' ∧ character ≠ ';' :=
    List.all_iff_forall_prop.mp (by decide +kernel)
  have nameless : Nameless "attachment; size=12; ".toList := by decide +kernel
  have word : "FileName=".toList.map Char.toLower = "filename=".toList := by decide +kernel
  have read : reading "50% of a%41.zip".toList = "50% of aA.zip" := by decide +kernel
  refine ⟨⟨named, quotable, nameless, word⟩, ?_⟩
  have found := (plain_name_is_decoded named quotable nameless word "; version=3").1
  rw [read] at found
  exact found

/-- A percent sign that belongs to the name is lost. -/
theorem plain_name_loses_escape :
    let name := "100%25.zip"
    name ≠ "" ∧ (∀ character ∈ name.toList, character ≠ '"' ∧ character ≠ ';') ∧
      filename? ("attachment; filename=\"" ++ name ++ "\"") = some "100%.zip" :=
  ⟨by decide, List.all_iff_forall_prop.mp (by decide +kernel), by decide +kernel⟩

/-! ## Two names -/

/-- Of a plain name and an extended one in one header, the one that comes first is read, however the
extended one is spelled. So the extended name is the result in both orders if and only if the plain
one is read as the same name. -/
theorem first_name_is_read {plain extended : String} (named : plain ≠ "") (named' : extended ≠ "")
    (quotable : ∀ character ∈ plain.toList, character ≠ '"' ∧ character ≠ ';')
    {lead marker marker' written : String} (nameless : Nameless lead.toList)
    (word : marker.toList.map Char.toLower = "filename=".toList)
    (words : marker'.toList.map Char.toLower = "filename*=utf-8''".toList)
    (spells : Text.Percent.Spells (Text.Utf8.encode extended.toList) written.toList)
    (between behind : String) :
    let extendedFirst := filename? (lead ++ marker' ++ written ++
      (";" ++ between ++ marker ++ "\"" ++ plain ++ "\"" ++ behind))
    let plainFirst := filename? (lead ++ marker ++ "\"" ++ plain ++ "\"" ++
      (";" ++ between ++ marker' ++ written ++ behind))
    extendedFirst = some extended ∧
      plainFirst = some (reading plain.toList) ∧
      (extendedFirst = some extended ∧ plainFirst = some extended ↔
        reading plain.toList = extended) := by
  intro extendedFirst plainFirst
  have first : extendedFirst = some extended := by
    apply filename?_extended named' nameless words _ spells
    intro character listed
    simpa [eq_comm] using listed
  have second : plainFirst = some (reading plain.toList) :=
    filename?_plain named quotable nameless word _
  refine ⟨first, second, ?_⟩
  rw [second, Option.some.injEq]
  exact and_iff_right first

/-- A server that puts the plain name in front, and one that puts it behind. -/
theorem first_name_is_read_of_both :
    ("plan.zip" ≠ "" ∧ "plän.zip" ≠ "" ∧
        (∀ character ∈ "plan.zip".toList, character ≠ '"' ∧ character ≠ ';') ∧
        Nameless "attachment; ".toList ∧
        "filename=".toList.map Char.toLower = "filename=".toList ∧
        "filename*=UTF-8''".toList.map Char.toLower = "filename*=utf-8''".toList ∧
        Text.Percent.Spells (Text.Utf8.encode "plän.zip".toList) "pl%C3%A4n.zip".toList) ∧
      filename? "attachment; filename*=UTF-8''pl%C3%A4n.zip; filename=\"plan.zip\"" =
        some "plän.zip" ∧
      filename? "attachment; filename=\"plan.zip\"; filename*=UTF-8''pl%C3%A4n.zip" =
        some "plan.zip" := by
  have quotable : ∀ character ∈ "plan.zip".toList, character ≠ '"' ∧ character ≠ ';' :=
    List.all_iff_forall_prop.mp (by decide +kernel)
  have nameless : Nameless "attachment; ".toList := by decide +kernel
  have word : "filename=".toList.map Char.toLower = "filename=".toList := by decide +kernel
  have words : "filename*=UTF-8''".toList.map Char.toLower = "filename*=utf-8''".toList := by
    decide +kernel
  have encoded : "pl%C3%A4n.zip".toList = Text.Percent.encodeList "plän.zip".toList := by
    decide +kernel
  have spells := Text.Percent.spells_encodeList "plän.zip".toList
  rw [← encoded] at spells
  have read : reading "plan.zip".toList = "plan.zip" := by decide +kernel
  rcases first_name_is_read (by decide) (by decide) quotable nameless word words spells " " ""
    with ⟨first, second, -⟩
  rw [read] at second
  exact ⟨⟨by decide, by decide, quotable, nameless, word, words, spells⟩, first, second⟩

/-- The extended name does not take precedence over a plain one in front of it. -/
theorem extended_name_is_passed_over :
    let plain := "plan.zip"
    let extended := "plän.zip"
    plain ≠ "" ∧ extended ≠ "" ∧
      (∀ character ∈ plain.toList, character ≠ '"' ∧ character ≠ ';') ∧
      filename? ("attachment; filename=\"" ++ plain ++ "\"; filename*=UTF-8''" ++
        Text.Percent.encode extended) = some plain ∧ plain ≠ extended :=
  ⟨by decide, by decide, List.all_iff_forall_prop.mp (by decide +kernel), by decide +kernel,
    by decide⟩

end AuditReports.Disposition
