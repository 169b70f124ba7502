import AuditReports.Api.Disposition

/-!
# Where a name starts

The name of a file is looked for from the left, and the first place at which one of the two forms
can be read decides. Both forms open with a word that ends in an equals sign and has the letter f in
front and nowhere else. Such a word cannot lie across the place where a name begins, since the
letter with which that one begins would be inside it. So what stands in front of a name does not
matter, as long as neither of the two words is in it.

No choice is left at the place itself. Behind the same eight letters one form has a star and the
other has none, so only one of them can be read there, and it is of no consequence which of the two
is tried first.
-/

namespace AuditReports.Disposition

theorem toLower_eq_equals_iff {character : Char} : character.toLower = '=' ↔ character = '=' := by
  constructor
  · intro same
    by_cases capital : character.val ≥ 'A'.val ∧ character.val ≤ 'Z'.val
    · have lowered : character.toLower = _ := dif_pos capital
      have code : (character.toNat + 32) % 2 ^ 32 = 61 := by
        simpa using congrArg Char.toNat (lowered.symm.trans same)
      have low : 65 ≤ character.toNat := UInt32.le_iff_toNat_le.mp capital.1
      have high : character.toNat ≤ 90 := UInt32.le_iff_toNat_le.mp capital.2
      omega
    · have kept : character.toLower = character := dif_neg capital
      rw [← kept, same]
  · rintro rfl
    rfl

/-! ## Words -/

/-- A word is found whatever the case of its letters. -/
theorem skipWord_eq_some_iff {word text rest : List Char} :
    skipWord word text = some rest ↔
      ∃ found : List Char, text = found ++ rest ∧ found.map Char.toLower = word := by
  fun_induction skipWord word text with
  | case1 text => simp [eq_comm]
  | case2 expected word => simp +contextual [eq_comm]
  | case3 expected word character text same ih =>
      rw [beq_iff_eq] at same
      simp only [ih, List.map_eq_cons_iff]
      constructor
      · rintro ⟨found, rfl, isWord⟩
        exact ⟨character :: found, rfl, character, found, rfl, same, isWord⟩
      · rintro ⟨_, whole, first, found, rfl, -, isWord⟩
        exact ⟨found, (List.cons.inj whole).2, isWord⟩
  | case4 expected word character text differs =>
      rw [beq_iff_eq] at differs
      simp only [List.map_eq_cons_iff]
      constructor
      · exact nofun
      · rintro ⟨_, whole, first, found, rfl, initial, -⟩
        exact absurd ((List.cons.inj whole).1 ▸ initial) differs

theorem skipWord_append {word found : List Char} (same : found.map Char.toLower = word)
    (rest : List Char) : skipWord word (found ++ rest) = some rest :=
  skipWord_eq_some_iff.mpr ⟨found, rfl, same⟩

/-- What opens a name, in small letters. -/
def openers : List (List Char) :=
  ["filename=".toList, "filename*=".toList]

/-- Nothing in the text opens a name. -/
def Nameless (text : List Char) : Prop :=
  ∀ opener ∈ openers, ¬opener <:+: text.map Char.toLower
  deriving Decidable

theorem Nameless.of_cons {character : Char} {text : List Char}
    (nameless : Nameless (character :: text)) : Nameless text := by
  intro opener listed within
  apply nameless opener listed
  rw [List.map_cons, List.infix_cons_iff]
  exact .inr within

/-- Nothing opens a name without an equals sign. -/
theorem nameless_of_not_mem {text : List Char} (apart : '=' ∉ text) : Nameless text := by
  have sign : ∀ opener ∈ openers, '=' ∈ opener := by decide
  intro opener listed within
  rcases List.mem_map.mp (within.subset (sign opener listed)) with ⟨character, inside, same⟩
  exact apart (toLower_eq_equals_iff.mp same ▸ inside)

/-! ## Places -/

section Places

variable {lead text : List Char} (begins : ∀ character ∈ text.head?, character.toLower = 'f')

include begins

/-- A word that starts in front of a name ends there, too. -/
theorem opener_in_front {opener rest : List Char} (once : 'f' ∉ opener.tail) (nonempty : lead ≠ [])
    (skipped : skipWord opener (lead ++ text) = some rest) :
    opener <+: lead.map Char.toLower := by
  rcases skipWord_eq_some_iff.mp skipped with ⟨found, whole, rfl⟩
  rcases List.append_eq_append_iff.mp whole with ⟨inside, rfl, behind⟩ | ⟨others, rfl, -⟩
  · cases inside with
    | nil => simp
    | cons character inside =>
        -- The word reaches into the name, and the letter that opens the name is inside the word.
        have initial : character.toLower = 'f' := begins character (by simp [behind])
        rcases List.exists_cons_of_ne_nil nonempty with ⟨first, lead, rfl⟩
        exact absurd (by simp [initial]) once
  · simp

theorem skipWord_eq_none (nameless : Nameless lead) (nonempty : lead ≠ []) :
    ∀ opener ∈ openers, skipWord opener (lead ++ text) = none := by
  have once : ∀ opener ∈ openers, 'f' ∉ opener.tail := by decide
  intro opener listed
  rw [Option.eq_none_iff_forall_ne_some]
  intro rest skipped
  exact nameless opener listed
    (opener_in_front begins (once opener listed) nonempty skipped).isInfix

end Places

variable {text value : List Char}

/-- The whole word of the extended form has its opener in front. -/
theorem exists_skipWord_of_extendedValue? (named : extendedValue? text = some value) :
    ∃ rest, skipWord "filename*=".toList text = some rest := by
  have word : "filename*=utf-8''".toList = "filename*=".toList ++ "utf-8''".toList := by decide
  rcases Option.bind_eq_some_iff.mp named with ⟨rest, skipped, -⟩
  rcases skipWord_eq_some_iff.mp skipped with ⟨found, rfl, same⟩
  rw [word, List.map_eq_append_iff] at same
  rcases same with ⟨opener, charset, rfl, isOpener, -⟩
  exact ⟨charset ++ rest, skipWord_eq_some_iff.mpr ⟨opener, by simp, isOpener⟩⟩

theorem extendedValue?_of_unopened (unopened : skipWord "filename*=".toList text = none) :
    extendedValue? text = none := by
  rw [Option.eq_none_iff_forall_ne_some]
  intro value named
  rcases exists_skipWord_of_extendedValue? named with ⟨rest, opened⟩
  rw [unopened] at opened
  cases opened

theorem plainValue?_of_unopened (unopened : skipWord "filename=".toList text = none) :
    plainValue? text = none := by
  rw [plainValue?, unopened, Option.bind_none]

/-- The two forms cannot be read at the same place. -/
theorem extendedValue?_eq_none {rest : List Char}
    (plain : skipWord "filename=".toList text = some rest) : extendedValue? text = none := by
  rw [Option.eq_none_iff_forall_ne_some]
  intro value named
  rcases exists_skipWord_of_extendedValue? named with ⟨rest', extended⟩
  rcases skipWord_eq_some_iff.mp plain with ⟨found, whole, same⟩
  rcases skipWord_eq_some_iff.mp extended with ⟨found', whole', same'⟩
  -- The words agree in their first eight characters; the ninth tells them apart.
  have lowered := congrArg (List.map Char.toLower) (whole.symm.trans whole')
  rw [List.map_append, List.map_append, same, same'] at lowered
  have ninth : some '=' = some '*' := congrArg (fun text : List Char => text[8]?) lowered
  exact absurd ninth (by decide)

theorem value?_cons (character : Char) (rest : List Char) :
    value? (character :: rest) =
      ((extendedValue? (character :: rest)).or (plainValue? (character :: rest))).or
        (value? rest) := by
  rw [value?]
  cases extendedValue? (character :: rest) with
  | some value => rfl
  | none =>
      cases plainValue? (character :: rest) with
      | some value => rfl
      | none => rfl

/-- What stands in front of a name does not matter if nothing in it opens one. -/
theorem value?_append {lead : List Char} (nameless : Nameless lead)
    (begins : ∀ character ∈ text.head?, character.toLower = 'f') :
    value? (lead ++ text) = value? text := by
  induction lead with
  | nil => rfl
  | cons character lead ih =>
      have unopened := skipWord_eq_none begins nameless (List.cons_ne_nil _ _)
      rw [List.cons_append] at unopened ⊢
      rw [value?_cons, extendedValue?_of_unopened (unopened _ (by decide)),
        plainValue?_of_unopened (unopened _ (by decide))]
      exact ih nameless.of_cons

theorem value?_of_extendedValue? (named : extendedValue? text = some value) :
    value? text = some value := by
  cases text with
  | nil => cases named
  | cons character rest => rw [value?_cons, named, Option.some_or, Option.some_or]

theorem value?_of_plainValue? (named : plainValue? text = some value) :
    value? text = some value := by
  rcases Option.bind_eq_some_iff.mp named with ⟨rest, opened, -⟩
  cases text with
  | nil => cases named
  | cons character rest =>
      rw [value?_cons, extendedValue?_eq_none opened, named, Option.none_or, Option.some_or]

/-! ## Values -/

/-- A value reaches to the first character that closes it. -/
theorem valueUntil_append {closes : Char → Bool}
    (within : ∀ character ∈ value, closes character = false) (nonempty : value ≠ [])
    {rest : List Char} (closed : ∀ character ∈ rest.head?, closes character = true) :
    valueUntil closes (value ++ rest) = some value := by
  have taken : (value ++ rest).takeWhile (fun character => !closes character) = value := by
    rw [List.takeWhile_append_of_pos (by simpa using within)]
    cases rest with
    | nil => exact List.append_nil value
    | cons character rest =>
        rw [List.takeWhile_cons_of_neg (by simp [closed character rfl]), List.append_nil]
  simp only [valueUntil, taken, List.isEmpty_eq_false_iff.mpr nonempty, Bool.false_eq_true,
    if_false]

/-- An extended name that starts here, whichever case the words are written in. -/
theorem extendedValue?_append {marker behind : List Char}
    (words : marker.map Char.toLower = "filename*=utf-8''".toList) (apart : ';' ∉ value)
    (nonempty : value ≠ []) (ends : ∀ character ∈ behind.head?, character = ';') :
    extendedValue? (marker ++ (value ++ behind)) = some value := by
  rw [extendedValue?, skipWord_append words, Option.bind_some]
  refine valueUntil_append (fun character listed => ?_) nonempty fun character first => ?_
  · exact beq_eq_false_iff_ne.mpr fun same => apart (same ▸ listed)
  · exact beq_iff_eq.mpr (ends character first)

/-- A plain name in quotes that starts here. -/
theorem plainValue?_append {marker : List Char}
    (word : marker.map Char.toLower = "filename=".toList)
    (quotable : ∀ character ∈ value, character ≠ '"' ∧ character ≠ ';') (nonempty : value ≠ [])
    (behind : List Char) :
    plainValue? (marker ++ '"' :: (value ++ '"' :: behind)) = some value := by
  rw [plainValue?, skipWord_append word, Option.bind_some]
  refine valueUntil_append (fun character listed => ?_) nonempty fun character first => ?_
  · simp [quotable character listed]
  · rcases Option.some.inj first with rfl
    rfl

theorem begins_of_word {marker word : List Char} (same : marker.map Char.toLower = 'f' :: word)
    (rest : List Char) : ∀ character ∈ (marker ++ rest).head?, character.toLower = 'f' := by
  cases marker with
  | nil => cases same
  | cons first marker =>
      intro character listed
      rcases Option.some.inj listed with rfl
      exact (List.cons.inj same).1

section Headers

variable {lead marker : List Char} (nameless : Nameless lead)

include nameless

theorem value?_extended {behind : List Char}
    (words : marker.map Char.toLower = "filename*=utf-8''".toList) (apart : ';' ∉ value)
    (nonempty : value ≠ []) (ends : ∀ character ∈ behind.head?, character = ';') :
    value? (lead ++ (marker ++ (value ++ behind))) = some value := by
  rw [value?_append nameless (begins_of_word words _)]
  exact value?_of_extendedValue? (extendedValue?_append words apart nonempty ends)

theorem value?_plain (word : marker.map Char.toLower = "filename=".toList)
    (quotable : ∀ character ∈ value, character ≠ '"' ∧ character ≠ ';') (nonempty : value ≠ [])
    (behind : List Char) :
    value? (lead ++ (marker ++ '"' :: (value ++ '"' :: behind))) = some value := by
  rw [value?_append nameless (begins_of_word word _)]
  exact value?_of_plainValue? (plainValue?_append word quotable nonempty behind)

end Headers

end AuditReports.Disposition
