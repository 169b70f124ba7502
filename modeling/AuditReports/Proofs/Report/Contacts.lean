import Mathlib.Computability.Language
import AuditReports.Proofs.Report.Requests

/-!
# Contact addresses

The form that is asked of a contact address is a regular one: a part, an at sign, a part, a dot and
a part, where a part is one character or more, and none of them is white space or an at sign. The
dot belongs to the characters of a part, so a host with several dots can be read in several ways,
and whoever looks for a match may have to try them all.

There is nothing to try once it is said which addresses have that form. The at sign is the only one,
so what stands on its sides is known; and in the part behind it any dot will do that is neither the
first nor the last character. A request with everything filled in is turned down for its contact
address exactly if the trimmed address is not like that.
-/

namespace AuditReports

namespace Text.Email

/-- One character that may stand in a part. -/
def inPart : Language Char :=
  {word | ∃ character, word = [character] ∧ isBlank character = false ∧ character ≠ '@'}

/-- One such character or more. -/
def part : Language Char :=
  inPart * KStar.kstar inPart

/-- The form of an address. -/
def form : Language Char :=
  part * {['@']} * part * {['.']} * part

/-- What stands before the first at sign. -/
def mailboxOf (characters : List Char) : List Char :=
  characters.takeWhile (· != '@')

/-- What stands behind the first at sign. -/
def hostOf (characters : List Char) : List Char :=
  (characters.dropWhile (· != '@')).tail

/-- A single at sign with something in front of it, no white space, and behind the at sign a dot
that is neither the first nor the last character. -/
structure Fits (characters : List Char) : Prop where
  single : characters.count '@' = 1
  shown : ∀ character ∈ characters, isBlank character = false
  mailbox : mailboxOf characters ≠ []
  dot : ∃ position, 0 < position ∧ position + 1 < (hostOf characters).length ∧
    (hostOf characters)[position]? = some '.'

/-! ## The form in its parts -/

theorem mem_kstar_inPart_iff {word : List Char} :
    word ∈ KStar.kstar inPart ↔
      ∀ character ∈ word, isBlank character = false ∧ character ≠ '@' := by
  rw [Language.mem_kstar]
  constructor
  · rintro ⟨letters, rfl, every⟩ character listed
    rcases List.mem_flatten.mp listed with ⟨letter, among, within⟩
    rcases every letter among with ⟨_, rfl, fits⟩
    exact List.mem_singleton.mp within ▸ fits
  · intro every
    refine ⟨word.map ([·]), by rw [← List.flatMap_def, List.flatMap_singleton'], ?_⟩
    intro letter listed
    rcases List.mem_map.mp listed with ⟨character, within, rfl⟩
    exact ⟨character, rfl, every character within⟩

theorem mem_part_iff {word : List Char} : word ∈ part ↔ IsPart word := by
  rw [part, Language.mem_mul]
  constructor
  · rintro ⟨_, ⟨character, rfl, fits⟩, rest, others, rfl⟩
    refine ⟨List.cons_ne_nil _ _, List.forall_mem_cons.mpr ⟨fits, ?_⟩⟩
    exact mem_kstar_inPart_iff.mp others
  · rintro ⟨nonempty, every⟩
    cases word with
    | nil => exact absurd rfl nonempty
    | cons character rest =>
        rcases List.forall_mem_cons.mp every with ⟨fits, others⟩
        exact ⟨_, ⟨character, rfl, fits⟩, rest, mem_kstar_inPart_iff.mpr others, rfl⟩

theorem mem_form_iff {characters : List Char} : characters ∈ form ↔ Matches characters := by
  simp only [form, Language.mem_mul, mem_part_iff, Matches]
  constructor
  · rintro ⟨_, ⟨_, ⟨_, ⟨mailbox, first, _, rfl, rfl⟩, domain, second, rfl⟩, _, rfl, rfl⟩, ending,
      third, rfl⟩
    exact ⟨mailbox, domain, ending, by simp, first, second, third⟩
  · rintro ⟨mailbox, domain, ending, rfl, first, second, third⟩
    exact ⟨_, ⟨_, ⟨_, ⟨mailbox, first, _, rfl, rfl⟩, domain, second, rfl⟩, _, rfl, rfl⟩, ending,
      third, by simp⟩

/-! ## The form by its at sign and its dots -/

theorem ne_at_of_not_mem {mailbox : List Char} (apart : '@' ∉ mailbox) :
    ∀ character ∈ mailbox, (character != '@') = true :=
  fun _ listed => bne_iff_ne.mpr fun same => apart (same ▸ listed)

theorem mailboxOf_append {mailbox : List Char} (apart : '@' ∉ mailbox) (host : List Char) :
    mailboxOf (mailbox ++ '@' :: host) = mailbox := by
  rw [mailboxOf, List.takeWhile_append_of_pos (ne_at_of_not_mem apart),
    List.takeWhile_cons_of_neg (by simp), List.append_nil]

theorem hostOf_append {mailbox : List Char} (apart : '@' ∉ mailbox) (host : List Char) :
    hostOf (mailbox ++ '@' :: host) = host := by
  rw [hostOf, List.dropWhile_append_of_pos (ne_at_of_not_mem apart),
    List.dropWhile_cons_of_neg (by simp), List.tail_cons]

/-- A dot inside a host, by its position and by what it separates. -/
theorem exists_dot_iff {host : List Char} :
    (∃ position, 0 < position ∧ position + 1 < host.length ∧ host[position]? = some '.') ↔
      ∃ domain ending, host = domain ++ '.' :: ending ∧ domain ≠ [] ∧ ending ≠ [] := by
  constructor
  · rintro ⟨position, first, last, dot⟩
    rcases List.getElem?_eq_some_iff.mp dot with ⟨inside, dot⟩
    refine ⟨host.take position, host.drop (position + 1), ?_, ?_, ?_⟩
    · rw [← dot, List.getElem_cons_drop, List.take_append_drop]
    · exact List.ne_nil_of_length_pos (by rw [List.length_take]; omega)
    · exact List.ne_nil_of_length_pos (by rw [List.length_drop]; omega)
  · rintro ⟨domain, ending, rfl, before, after⟩
    have before := List.length_pos_of_ne_nil before
    have after := List.length_pos_of_ne_nil after
    exact ⟨domain.length, before, by simp; omega, by simp⟩

theorem IsPart.not_mem {characters : List Char} (isPart : IsPart characters) :
    '@' ∉ characters :=
  fun listed => (isPart.2 _ listed).2 rfl

/-- White space is found in no part, and it is neither an at sign nor a dot. -/
theorem Matches.shown {characters : List Char} (matched : Matches characters) :
    ∀ character ∈ characters, isBlank character = false := by
  have accepted : wellFormed characters = true := wellFormed_iff.mpr matched
  rw [wellFormed, Bool.and_eq_true, Bool.not_eq_true', List.any_eq_false] at accepted
  exact fun character listed => Bool.eq_false_iff.mpr (accepted.1 character listed)

theorem Matches.fits {characters : List Char} (matched : Matches characters) :
    Fits characters := by
  have shown := matched.shown
  rcases matched with ⟨mailbox, domain, ending, rfl, first, second, third⟩
  refine ⟨?_, shown, ?_, ?_⟩
  · simp [List.count_append, List.count_eq_zero_of_not_mem first.not_mem,
      List.count_eq_zero_of_not_mem second.not_mem, List.count_eq_zero_of_not_mem third.not_mem]
  · rw [mailboxOf_append first.not_mem]
    exact first.1
  · rw [hostOf_append first.not_mem, exists_dot_iff]
    exact ⟨domain, ending, rfl, second.1, third.1⟩

theorem Fits.matches {characters : List Char} (fits : Fits characters) : Matches characters := by
  rcases fits with ⟨single, shown, named, dotted⟩
  have listed : '@' ∈ characters := List.count_pos_iff.mp (by omega)
  rcases List.eq_append_cons_of_mem listed with ⟨mailbox, host, rfl, apart⟩
  rw [mailboxOf_append apart] at named
  rw [hostOf_append apart, exists_dot_iff] at dotted
  rcases dotted with ⟨domain, ending, rfl, before, after⟩
  have others : '@' ∉ domain ++ '.' :: ending := by
    rw [List.count_append, List.count_cons_self] at single
    exact List.count_eq_zero.mp (by omega)
  have isPart : ∀ part, part ≠ [] → '@' ∉ part →
      part ⊆ mailbox ++ '@' :: (domain ++ '.' :: ending) → IsPart part :=
    fun part nonempty free within =>
      ⟨nonempty, fun _ listed => ⟨shown _ (within listed), fun same => free (same ▸ listed)⟩⟩
  simp only [List.mem_append, List.mem_cons, not_or] at others
  refine ⟨mailbox, domain, ending, rfl, isPart _ named apart ?_, isPart _ before others.1 ?_,
    isPart _ after others.2.2 ?_⟩
  all_goals
    intro character inside
    simp [inside]

theorem matches_iff_fits {characters : List Char} : Matches characters ↔ Fits characters :=
  ⟨Matches.fits, Fits.matches⟩

end Text.Email

open Text

/-- The check on an address accepts the texts of the form, and these are the ones with a single at
sign that has something in front of it, without white space, and with a dot inside what follows the
at sign. A request is turned down for its contact address exactly if all that comes before is filled
in and the trimmed address does not fit. -/
theorem contact_form_is_exact (text : String) (request : ReportRequest) :
    (Email.wellFormed text.toList = true ↔ Email.Fits text.toList) ∧
      (text.toList ∈ Email.form ↔ Email.Fits text.toList) ∧
      (request.check = .error .invalidEmail ↔
        trim request.address ≠ "" ∧ (∀ field ∈ request.cover.texts, trim field ≠ "") ∧
          ¬ Email.Fits (trim request.cover.contactEmail).toList) := by
  refine ⟨?_, ?_, ?_⟩
  · rw [Email.wellFormed_iff, Email.matches_iff_fits]
  · rw [Email.mem_form_iff, Email.matches_iff_fits]
  · rw [ReportRequest.check_eq_error_iff, ← Email.matches_iff_fits]
    constructor
    · intro fails
      cases fails with
      | email address cover malformed => exact ⟨address, cover, malformed⟩
    · rintro ⟨address, cover, malformed⟩
      exact .email address cover malformed

/-- A host may begin and end with a dot as long as it has another one inside. -/
theorem contact_form_is_exact_with_many_dots :
    let stray := { ReportRequest.crowded with
      cover := { ReportRequest.crowded.cover with contactEmail := " dana@.example " } }
    Email.wellFormed "d.reyes@.acme..example.".toList = true ∧
      Email.Fits "d.reyes@.acme..example.".toList ∧
      "d.reyes@.acme..example.".toList ∈ Email.form ∧
      stray.check = .error .invalidEmail ∧
      ¬ Email.Fits (trim stray.cover.contactEmail).toList := by
  intro stray
  have accepted : Email.wellFormed "d.reyes@.acme..example.".toList = true := by decide +kernel
  have refused : stray.check = .error .invalidEmail := by decide +kernel
  rcases contact_form_is_exact "d.reyes@.acme..example." stray with ⟨check, form, request⟩
  exact ⟨accepted, check.mp accepted, form.mpr (check.mp accepted), refused,
    (request.mp refused).2.2⟩

end AuditReports
