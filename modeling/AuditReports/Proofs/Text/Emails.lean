import AuditReports.Proofs.Text.RoundTrips
import AuditReports.Text.Email

/-!
# Email addresses

The check on an address cuts it at the at signs and then looks for a dot. What it accepts can be
said without a scan: the address is a mailbox, an at sign, a domain, a dot and an ending, none of
the three parts is empty, and white space and further at signs occur in none of them. The domain and
the ending may have dots of their own, so an address can be split in more than one way.
-/

namespace AuditReports.Text.Email

/-- A part of an address: not empty, without white space and without an at sign. -/
def IsPart (characters : List Char) : Prop :=
  characters ≠ [] ∧ ∀ character ∈ characters, isBlank character = false ∧ character ≠ '@'

/-- An address in its parts. -/
def Matches (characters : List Char) : Prop :=
  ∃ mailbox domain ending, characters = mailbox ++ '@' :: (domain ++ '.' :: ending) ∧
    IsPart mailbox ∧ IsPart domain ∧ IsPart ending

theorem hasInnerDot_iff {characters : List Char} :
    hasInnerDot characters = true ↔
      ∃ before after, characters = before ++ '.' :: after ∧ after ≠ [] := by
  fun_induction hasInnerDot characters with
  | case1 => simp
  | case2 character =>
      simp only [Bool.false_eq_true, false_iff]
      rintro ⟨_ | ⟨_, _ | _⟩, after, whole, nonempty⟩ <;> simp_all
  | case3 next rest => exact iff_of_true rfl ⟨[], next :: rest, rfl, List.cons_ne_nil _ _⟩
  | case4 character next rest isDot ih =>
      rw [ih]
      constructor
      · rintro ⟨before, after, whole, nonempty⟩
        exact ⟨character :: before, after, by rw [whole, List.cons_append], nonempty⟩
      · rintro ⟨_ | ⟨first, before⟩, after, whole, nonempty⟩
        · rcases List.cons.inj whole with ⟨dot, rest⟩
          exact absurd dot (by simpa using isDot)
        · exact ⟨before, after, (List.cons.inj whole).2, nonempty⟩

theorem wellFormedHost_iff {characters : List Char} :
    wellFormedHost characters = true ↔
      ∃ domain ending, characters = domain ++ '.' :: ending ∧ domain ≠ [] ∧ ending ≠ [] := by
  cases characters with
  | nil => simp [wellFormedHost]
  | cons first rest =>
      rw [wellFormedHost, hasInnerDot_iff]
      constructor
      · rintro ⟨before, after, rfl, nonempty⟩
        exact ⟨first :: before, after, rfl, List.cons_ne_nil _ _, nonempty⟩
      · rintro ⟨_ | ⟨_, before⟩, ending, whole, named, nonempty⟩
        · exact absurd rfl named
        · exact ⟨before, ending, (List.cons.inj whole).2, nonempty⟩

/-- The check accepts the addresses that can be split into parts, and no others. -/
theorem wellFormed_iff {characters : List Char} :
    wellFormed characters = true ↔ Matches characters := by
  rw [wellFormed, Bool.and_eq_true, Bool.not_eq_true', List.any_eq_false]
  constructor
  · rintro ⟨shown, split⟩
    split at split
    case h_2 => cases split
    case h_1 mailbox host cut =>
      have whole : characters = mailbox ++ '@' :: host := by simpa using eq_of_fields cut
      have isPart : ∀ field ∈ [mailbox, host], ∀ part, part ≠ [] → part ⊆ field → IsPart part := by
        intro field listed part nonempty within
        refine ⟨nonempty, fun character inside => ⟨?_, ?_⟩⟩
        · refine Bool.eq_false_iff.mpr (shown character ?_)
          simp only [List.mem_cons, List.not_mem_nil, or_false] at listed
          rcases listed with rfl | rfl <;> simp [whole, within inside]
        · exact beq_eq_false_iff_ne.mp
            (separates_of_mem_fieldsBy (cut ▸ listed) character (within inside))
      rw [Bool.and_eq_true, Bool.not_eq_true', List.isEmpty_eq_false_iff,
        wellFormedHost_iff] at split
      rcases split with ⟨named, domain, ending, rfl, before, after⟩
      have behind : domain ++ '.' :: ending ∈ [mailbox, domain ++ '.' :: ending] :=
        List.mem_cons_of_mem _ List.mem_cons_self
      exact ⟨mailbox, domain, ending, whole,
        isPart _ List.mem_cons_self mailbox named (List.Subset.refl _),
        isPart _ behind domain before (List.subset_append_left _ _),
        isPart _ behind ending after
          (List.subset_append_of_subset_right _ (List.subset_cons_self _ _))⟩
  · rintro ⟨mailbox, domain, ending, rfl, ⟨named, first⟩, ⟨before, second⟩, ⟨after, third⟩⟩
    have cut : fields '@' (mailbox ++ '@' :: (domain ++ '.' :: ending)) =
        [mailbox, domain ++ '.' :: ending] := by
      have apart : ∀ field ∈ [mailbox, domain ++ '.' :: ending], '@' ∉ field := by
        simp only [List.mem_cons, List.not_mem_nil, or_false, forall_eq_or_imp, forall_eq,
          List.mem_append, not_or]
        exact ⟨fun inside => (first _ inside).2 rfl, fun inside => (second _ inside).2 rfl,
          by decide, fun inside => (third _ inside).2 rfl⟩
      simpa using fields_append_flatMap apart
    have host : wellFormedHost (domain ++ '.' :: ending) = true :=
      wellFormedHost_iff.mpr ⟨domain, ending, rfl, before, after⟩
    refine ⟨fun character inside => ?_, ?_⟩
    · have solid : isBlank '@' = false ∧ isBlank '.' = false := by decide
      simp only [List.mem_append, List.mem_cons] at inside
      rw [Bool.not_eq_true]
      rcases inside with inside | rfl | inside | rfl | inside
      · exact (first _ inside).1
      · exact solid.1
      · exact (second _ inside).1
      · exact solid.2
      · exact (third _ inside).1
    · rw [cut]
      simp [named, host]

end AuditReports.Text.Email
