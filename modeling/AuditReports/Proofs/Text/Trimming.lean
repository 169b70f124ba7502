import Mathlib.Data.List.DropRight
import AuditReports.Text.Blank

/-!
# Trimmed texts

A text is trimmed at its beginning and then at its end. The second step leaves the first character
where it is, if it leaves anything at all, so a text that has been trimmed stays as it is when it is
trimmed once more. Whether something is left is therefore the same before and after.
-/

namespace AuditReports.Text

theorem dropTrailing_eq (test : Char → Bool) (characters : List Char) :
    dropTrailing test characters = characters.rdropWhile test := by
  induction characters with
  | nil => rfl
  | cons character rest ih =>
      have cut : (character :: rest).rdropWhile test =
          if rest.rdropWhile test = [] then [character].dropWhile test
          else character :: rest.rdropWhile test := by
        rw [List.rdropWhile, List.rdropWhile, List.reverse_cons, List.dropWhile_append]
        cases rest.reverse.dropWhile test <;> cases fails : test character <;> simp [fails]
      rw [cut, dropTrailing, ih]
      cases rest.rdropWhile test with
      | nil => cases fails : test character <;> simp [fails]
      | cons first kept => simp

/-- What is in front of a character that stays does not decide what is removed behind it. -/
theorem dropTrailing_append_of_shown {test : Char → Bool} {front : List Char}
    (shown : ∀ character ∈ front, test character = false) (rest : List Char) :
    dropTrailing test (front ++ rest) = front ++ dropTrailing test rest := by
  induction front with
  | nil => rfl
  | cons character front ih =>
      rcases List.forall_mem_cons.mp shown with ⟨first, others⟩
      simp only [List.cons_append, dropTrailing, ih others, first]
      split
      · next empty => simp [empty]
      · rfl

theorem dropTrailing_cons_of_hidden {test : Char → Bool} {character : Char}
    (hidden : test character = true) (rest : List Char) :
    dropTrailing test (character :: rest) =
      if dropTrailing test rest = [] then [] else character :: dropTrailing test rest := by
  rw [dropTrailing]
  split
  · next empty => simp [empty, hidden]
  · next nonempty => exact (if_neg nonempty).symm

/-- A text stays as it is if neither its first character nor its last one is to be removed. -/
theorem dropTrailing_dropWhile_of_shown {test : Char → Bool} {characters : List Char}
    (begins : ∀ character ∈ characters.head?, test character = false)
    (ends : ∀ character ∈ characters.getLast?, test character = false) :
    dropTrailing test (characters.dropWhile test) = characters := by
  have led : characters.dropWhile test = characters := by
    cases characters with
    | nil => rfl
    | cons first rest => exact List.dropWhile_cons_of_neg (by simp [begins first rfl])
  have trailed : characters.rdropWhile test = characters :=
    List.rdropWhile_eq_self_iff.mpr fun some => by
      simpa using ends _ (List.getLast?_eq_some_getLast some)
  rw [led, dropTrailing_eq, trailed]

/-- Nothing is trimmed twice. -/
theorem trimList_trimList (characters : List Char) :
    trimList (trimList characters) = trimList characters := by
  simp only [trimList, dropTrailing_eq]
  have led : (characters.dropWhile isBlank).dropWhile isBlank = characters.dropWhile isBlank :=
    List.dropWhile_idempotent _ _
  generalize characters.dropWhile isBlank = rest at led
  have stays : (rest.rdropWhile isBlank).dropWhile isBlank = rest.rdropWhile isBlank := by
    rcases List.rdropWhile_prefix isBlank rest with ⟨dropped, whole⟩
    cases kept : rest.rdropWhile isBlank with
    | nil => rfl
    | cons character kept' =>
        rw [kept] at whole
        have shown : isBlank character = false := by
          have first := List.dropWhile_eq_self_iff.mp led (by rw [← whole]; simp)
          simpa [← whole] using first
        exact List.dropWhile_cons_of_neg (by simp [shown])
  rw [stays, List.rdropWhile_idempotent]

/-- A text with no white space at either end stays as it is. -/
theorem trimList_of_shown {characters : List Char}
    (begins : ∀ character ∈ characters.head?, isBlank character = false)
    (ends : ∀ character ∈ characters.getLast?, isBlank character = false) :
    trimList characters = characters :=
  dropTrailing_dropWhile_of_shown begins ends

@[simp]
theorem trim_trim (text : String) : trim (trim text) = trim text := by
  rw [trim, trim, String.toList_ofList, trimList_trimList]

theorem blank_iff {text : String} : blank text = true ↔ trim text = "" :=
  beq_iff_eq

theorem not_blank_iff {text : String} : blank text = false ↔ trim text ≠ "" :=
  beq_eq_false_iff_ne

theorem content?_eq_some_iff {text kept : String} :
    content? text = some kept ↔ kept = trim text ∧ trim text ≠ "" := by
  rw [content?]
  by_cases empty : trim text = ""
  · simp [empty]
  · simpa [empty] using eq_comm

/-- A text that begins with a character that is not white space is not blank. -/
theorem not_blank_of_head {text : String} {character : Char} {rest : List Char}
    (begins : text.toList = character :: rest) (shown : isBlank character = false) :
    blank text = false := by
  rw [not_blank_iff, trim, Ne, String.ofList_eq_empty_iff, trimList, dropTrailing_eq, begins,
    List.dropWhile_cons_of_neg (by simp [shown]), List.rdropWhile_eq_nil_iff]
  intro all
  have hidden := all character List.mem_cons_self
  rw [shown] at hidden
  cases hidden

end AuditReports.Text
