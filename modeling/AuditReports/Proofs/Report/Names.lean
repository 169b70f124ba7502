import AuditReports.Proofs.Files.Paths
import AuditReports.Proofs.Report.Slugs
import AuditReports.Report.Artifact

/-!
# Names of artifacts

A name that is made from the address consists of a slug between fixed texts, and a slug has nothing
but plain characters and dashes in it. So such a name is always one that a directory can hold, and
never a long one, which cannot be said of the names that the server gives.
-/

namespace AuditReports

namespace Text.Utf8

theorem utf8ByteSize_of_ascii {text : String}
    (ascii : ∀ character ∈ text.toList, character.toNat < 0x80) :
    text.utf8ByteSize = text.length := by
  have bytes := toByteArray_ofList text.toList
  rw [String.ofList_toList, encode_of_ascii ascii] at bytes
  have size : text.utf8ByteSize = (text.toList.map fun character =>
      UInt8.ofNat character.toNat).toArray.size :=
    congrArg ByteArray.size bytes
  rw [size, List.size_toArray, List.length_map, String.length_toList]

end Text.Utf8

theorem Slug.utf8ByteSize_slug_le (address : String) : (slug address).utf8ByteSize ≤ 64 := by
  have ascii : ∀ character ∈ (slug address).toList, character.toNat < 0x80 :=
    fun character listed => ((shaped_slug address).consists character listed).folded.1
  rw [Text.Utf8.utf8ByteSize_of_ascii ascii, ← String.length_toList]
  exact length_toList_slug_le address

namespace Artifact

theorem extension_eq (contentType : Option String) :
    extension contentType = "zip" ∨ extension contentType = "pdf" := by
  cases contentType with
  | none => exact .inl rfl
  | some contentType =>
      simp only [extension]
      split
      · exact .inl rfl
      · split
        · exact .inr rfl
        · exact .inl rfl

section Unnamed

variable {given contentType : Option String} {address : String}
  (unnamed : given.bind Text.content? = none)

include unnamed

theorem chooseName_of_unnamed :
    chooseName given contentType address =
      "audit-report-" ++ slug address ++ "." ++ extension contentType := by
  rw [chooseName, unnamed]
  rfl

theorem utf8ByteSize_chooseName_le : (chooseName given contentType address).utf8ByteSize ≤ 81 := by
  have longest := Slug.utf8ByteSize_slug_le address
  have ending : (extension contentType).utf8ByteSize = 3 := by
    rcases extension_eq contentType with ending | ending <;> rw [ending] <;> rfl
  have first : "audit-report-".utf8ByteSize = 13 := rfl
  have point : ".".utf8ByteSize = 1 := rfl
  rw [chooseName_of_unnamed unnamed]
  simp only [String.utf8ByteSize_append]
  omega

theorem mem_chooseName :
    ∀ character ∈ (chooseName given contentType address).toList,
      Slug.MayStand character ∨ character = '.' := by
  have fixed {text : String}
      (all : text.toList.all fun character => Slug.MayStand character ∨ character = '.') :
      ∀ character ∈ text.toList, Slug.MayStand character ∨ character = '.' :=
    fun character listed => of_decide_eq_true (List.all_eq_true.mp all character listed)
  intro character listed
  rw [chooseName_of_unnamed unnamed] at listed
  simp only [String.toList_append, List.mem_append] at listed
  rcases listed with ((front | slug) | point) | ending
  · exact fixed (by decide) character front
  · exact .inl ((Slug.shaped_slug address).consists character slug)
  · exact fixed (by decide) character point
  · apply fixed ?_ character ending
    rcases extension_eq contentType with ending | ending <;> rw [ending] <;> decide

/-- Without a name from the server, an artifact has one that a directory can hold. -/
theorem isName_chooseName : Files.Path.IsName (chooseName given contentType address) := by
  have begins : (chooseName given contentType address).toList =
      'a' :: ("udit-report-" ++ slug address ++ "." ++ extension contentType).toList := by
    rw [chooseName_of_unnamed unnamed]
    simp [String.toList_append]
  apply Files.Path.isName_of_head begins (by decide)
  intro slash
  exact absurd (mem_chooseName unnamed '/' slash) (by decide)

end Unnamed

end Artifact

end AuditReports
