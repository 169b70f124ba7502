import Mathlib.Data.Bool.AllAny
import Mathlib.Data.List.Chain
import Mathlib.Data.List.DropRight
import AuditReports.Proofs.Text.Trimming
import AuditReports.Slug

/-!
# Slugs as runs

A slug is computed in four steps over one text, and each of them looks only at the characters next
to where it is: folding, one dash for every gap, no dashes at the ends, sixty-four characters at
most. What they come to is a statement about the text as a whole. The folded address has maximal
runs of plain characters with gaps around them, in one way only, and the slug consists of the runs
with single dashes between them, up to the cut.

The dash that a leading gap leaves is removed at once, so writing and then removing it is the same
as starting as if a dash had been written already. From there on every run is followed by a gap or
by the end, and a gap is kept as a dash if and only if another run follows.

The cut comes last. It keeps what holds of every beginning of a text: what it consists of, that no
two dashes touch, that there is none in front. It does not keep what holds at the end, so a slug of
full length may end in a dash. One that does not is its own slug.
-/

namespace AuditReports

namespace Slug

/-! ## What a slug consists of -/

/-- What a slug consists of. -/
def MayStand (character : Char) : Prop :=
  isPlain character = true ∨ character = '-'
  deriving Decidable

theorem isPlain_dash : isPlain '-' = false := by
  decide

theorem ne_dash_of_isPlain {character : Char} (plain : isPlain character = true) :
    character ≠ '-' := by
  rintro rfl
  rw [isPlain_dash] at plain
  cases plain

theorem mayStand_of_mem_dashed {afterDash : Bool} {characters : List Char} :
    ∀ character ∈ dashed afterDash characters, MayStand character := by
  induction characters generalizing afterDash with
  | nil => exact fun _ listed => by cases listed
  | cons first rest ih =>
      rw [dashed]
      split
      · next plain => exact List.forall_mem_cons.mpr ⟨.inl plain, ih⟩
      · split
        · exact ih
        · exact List.forall_mem_cons.mpr ⟨.inr rfl, ih⟩

/-- Dashes are only removed at the ends. -/
theorem trimDashes_within (characters : List Char) : trimDashes characters <:+: characters := by
  rw [trimDashes, Text.dropTrailing_eq]
  exact (List.rdropWhile_prefix _ _).isInfix.trans (List.dropWhile_suffix _).isInfix

theorem getLast?_trimDashes (characters : List Char) :
    (trimDashes characters).getLast? ≠ some '-' := by
  rw [trimDashes, Text.dropTrailing_eq]
  intro last
  rcases List.getLast?_eq_some_iff.mp last with ⟨front, whole⟩
  have shown := List.rdropWhile_last_not (· == '-') (characters.dropWhile (· == '-'))
    (by simp [whole])
  simp [whole] at shown

/-! ## Runs -/

/-- A text without plain characters. -/
def IsGap (gap : List Char) : Prop :=
  ∀ character ∈ gap, isPlain character = false

/-- A text of plain characters that is not empty. -/
structure IsRun (run : List Char) : Prop where
  nonempty : run ≠ []
  plain : ∀ character ∈ run, isPlain character = true

/-- The maximal runs of plain characters in a text, in order. What stands in front of a run is a
gap, and what stands behind it does not begin with a plain character. -/
inductive Runs : List Char → List (List Char) → Prop
  | gap {gap : List Char} (isGap : IsGap gap) : Runs gap []
  | run {gap run rest : List Char} {runs : List (List Char)} (isGap : IsGap gap)
      (isRun : IsRun run) (ends : ∀ character ∈ rest.head?, isPlain character = false)
      (later : Runs rest runs) : Runs (gap ++ run ++ rest) (run :: runs)

namespace Runs

variable {text : List Char} {runs : List (List Char)}

theorem isRun (cut : Runs text runs) : ∀ run ∈ runs, IsRun run := by
  induction cut with
  | gap => exact fun _ listed => by cases listed
  | run _ isRun _ _ ih => exact List.forall_mem_cons.mpr ⟨isRun, ih⟩

theorem skip {character : Char} (other : isPlain character = false) (cut : Runs text runs) :
    Runs (character :: text) runs := by
  cases cut with
  | gap isGap => exact .gap (List.forall_mem_cons.mpr ⟨other, isGap⟩)
  | run isGap isRun ends later =>
      exact .run (List.forall_mem_cons.mpr ⟨other, isGap⟩) isRun ends later

/-- A plain character makes the first run longer if it stands next to it, and is a run of its own
otherwise. -/
theorem take {character : Char} (plain : isPlain character = true) (cut : Runs text runs) :
    ∃ longer, Runs (character :: text) longer := by
  have noGap : IsGap [] := fun _ listed => by cases listed
  have single : IsRun [character] := ⟨List.cons_ne_nil _ _, by simpa using plain⟩
  cases cut with
  | gap isGap =>
      refine ⟨[[character]], .run noGap single (fun first listed => ?_) (.gap isGap)⟩
      exact isGap first (List.mem_of_mem_head? listed)
  | @run gap run rest runs isGap isRun ends later =>
      cases gap with
      | nil =>
          have longer : IsRun (character :: run) :=
            ⟨List.cons_ne_nil _ _, List.forall_mem_cons.mpr ⟨plain, isRun.plain⟩⟩
          exact ⟨_, .run noGap longer ends later⟩
      | cons first gap =>
          refine ⟨_, .run noGap single (fun other listed => ?_) (.run isGap isRun ends later)⟩
          rcases Option.some.inj listed with rfl
          exact isGap first List.mem_cons_self

end Runs

theorem exists_runs (text : List Char) : ∃ runs, Runs text runs := by
  induction text with
  | nil => exact ⟨[], .gap fun _ listed => by cases listed⟩
  | cons character text ih =>
      rcases ih with ⟨runs, cut⟩
      cases plain : isPlain character with
      | true => exact cut.take plain
      | false => exact ⟨runs, cut.skip plain⟩

/-! ### Runs that are joined -/

theorem intercalate_eq_nil_iff {runs : List (List Char)} (areRuns : ∀ run ∈ runs, IsRun run) :
    ['-'].intercalate runs = [] ↔ runs = [] := by
  constructor
  · intro empty
    match runs with
    | [] => rfl
    | [run] =>
        rw [List.intercalate_singleton] at empty
        exact absurd empty (areRuns run List.mem_cons_self).nonempty
    | run :: next :: runs =>
        rw [List.intercalate_cons_cons] at empty
        simp at empty
  · rintro rfl
    rfl

/-- Runs that are joined can be told apart again, since they have no dash. -/
theorem eq_of_intercalate {first second : List (List Char)} (areRuns : ∀ run ∈ first, IsRun run)
    (areRuns' : ∀ run ∈ second, IsRun run)
    (same : ['-'].intercalate first = ['-'].intercalate second) : first = second := by
  have apart : ∀ {runs : List (List Char)}, (∀ run ∈ runs, IsRun run) → ∀ run ∈ runs, '-' ∉ run :=
    fun areRuns run listed inside => ne_dash_of_isPlain ((areRuns run listed).plain _ inside) rfl
  by_cases empty : first = []
  · rw [empty, eq_comm]
    rw [empty] at same
    exact (intercalate_eq_nil_iff areRuns').mp same.symm
  · have nonempty : second ≠ [] := by
      rintro rfl
      exact empty ((intercalate_eq_nil_iff areRuns).mp same)
    rw [← List.splitOn_intercalate '-' (apart areRuns) empty, same,
      List.splitOn_intercalate '-' (apart areRuns') nonempty]

/-! ## What the steps do to runs -/

theorem dashed_gap_append {gap : List Char} (isGap : IsGap gap) (rest : List Char) :
    dashed true (gap ++ rest) = dashed true rest := by
  induction gap with
  | nil => rfl
  | cons character gap ih =>
      have other : isPlain character = false := isGap character List.mem_cons_self
      simp only [List.cons_append, dashed, other, Bool.false_eq_true, if_false, if_true]
      exact ih fun each listed => isGap each (List.mem_cons_of_mem _ listed)

theorem dashed_run_append {run : List Char} (isRun : IsRun run) (afterDash : Bool)
    (rest : List Char) : dashed afterDash (run ++ rest) = run ++ dashed false rest := by
  rcases isRun with ⟨nonempty, plain⟩
  induction run generalizing afterDash with
  | nil => exact absurd rfl nonempty
  | cons character run ih =>
      rcases List.forall_mem_cons.mp plain with ⟨first, others⟩
      rw [List.cons_append, dashed, if_pos first, List.cons_append]
      cases run with
      | nil => rfl
      | cons next run => rw [ih false (List.cons_ne_nil _ _) others]

/-- A gap is written as if it stood behind a dash, and with that dash. -/
theorem dashed_false_of_not_plain {character : Char} (other : isPlain character = false)
    (rest : List Char) :
    dashed false (character :: rest) = '-' :: dashed true (character :: rest) := by
  simp [dashed, other]

/-- No dash stands in front where one has just been written. -/
theorem head?_dashed_true (text : List Char) : (dashed true text).head? ≠ some '-' := by
  induction text with
  | nil => exact nofun
  | cons character text ih =>
      rw [dashed]
      split
      case isTrue plain => exact fun first => ne_dash_of_isPlain plain (Option.some.inj first)
      case isFalse => exact ih

theorem dropWhile_dashed (text : List Char) :
    (dashed false text).dropWhile (· == '-') = dashed true text := by
  have clear : (dashed true text).dropWhile (· == '-') = dashed true text := by
    have first := head?_dashed_true text
    cases written : dashed true text with
    | nil => rfl
    | cons character rest =>
        rw [written] at first
        exact List.dropWhile_cons_of_neg fun dash => first (congrArg some (beq_iff_eq.mp dash))
  cases text with
  | nil => rfl
  | cons character text =>
      cases plain : isPlain character with
      | true =>
          have same : dashed false (character :: text) = dashed true (character :: text) := by
            simp only [dashed, plain, if_true]
          rw [same, clear]
      | false => simp [dashed_false_of_not_plain plain, clear]

theorem trimDashes_dashed (text : List Char) :
    trimDashes (dashed false text) = Text.dropTrailing (· == '-') (dashed true text) := by
  rw [trimDashes, dropWhile_dashed]

/-- The runs with single dashes between them are left of a text. -/
theorem trimDashes_dashed_eq {text : List Char} {runs : List (List Char)} (cut : Runs text runs) :
    trimDashes (dashed false text) = ['-'].intercalate runs := by
  rw [trimDashes_dashed]
  induction cut with
  | @gap gap isGap =>
      have nothing : dashed true gap = [] := by
        simpa [dashed] using dashed_gap_append isGap []
      rw [nothing]
      rfl
  | @run gap run rest runs isGap isRun ends later ih =>
      have shown : ∀ character ∈ run, (character == '-') = false := fun character listed =>
        beq_eq_false_iff_ne.mpr (ne_dash_of_isPlain (isRun.plain character listed))
      -- Behind a run the next gap is one dash, and it is dropped if no run follows it.
      have behind : Text.dropTrailing (· == '-') (dashed false rest) =
          if runs = [] then [] else '-' :: ['-'].intercalate runs := by
        have none : ['-'].intercalate runs = [] ↔ runs = [] := intercalate_eq_nil_iff later.isRun
        cases rest with
        | nil =>
            have empty : runs = [] := none.mp ih.symm
            simp [empty, dashed, Text.dropTrailing]
        | cons character rest =>
            have other : isPlain character = false := ends character rfl
            simp [dashed_false_of_not_plain other, Text.dropTrailing_cons_of_hidden, ih, none]
      rw [List.append_assoc, dashed_gap_append isGap, dashed_run_append isRun,
        Text.dropTrailing_append_of_shown shown, behind]
      cases runs with
      | nil => simp
      | cons next runs => simp [List.intercalate_cons_cons]

/-! ## What holds of every slug -/

/-- Two characters that may stand next to each other. -/
def Apart (first second : Char) : Prop :=
  ¬(first = '-' ∧ second = '-')
  deriving Decidable

theorem isChain_dashed (afterDash : Bool) (text : List Char) :
    (dashed afterDash text).IsChain Apart := by
  induction text generalizing afterDash with
  | nil => exact .nil
  | cons character text ih =>
      rw [dashed]
      split
      case isTrue plain =>
        rw [List.isChain_cons]
        exact ⟨fun _ _ both => ne_dash_of_isPlain plain both.1, ih false⟩
      case isFalse =>
        split
        · exact ih true
        · rw [List.isChain_cons]
          refine ⟨fun next listed both => ?_, ih true⟩
          rw [both.2] at listed
          exact head?_dashed_true text listed

/-- Plain characters and dashes, no two dashes next to each other and none in front. Every beginning
of such a text is one, too. -/
structure Shaped (text : List Char) : Prop where
  consists : ∀ character ∈ text, MayStand character
  apart : text.IsChain Apart
  begins : text.head? ≠ some '-'

namespace Shaped

variable {text : List Char}

theorem beginning (shaped : Shaped text) {front : List Char} (isFront : front <+: text) :
    Shaped front where
  consists := fun character listed => shaped.consists character (isFront.subset listed)
  apart := shaped.apart.prefix isFront
  begins := by
    intro first
    rcases isFront with ⟨rest, rfl⟩
    apply shaped.begins
    simp [first]

theorem not_infix (shaped : Shaped text) : ¬['-', '-'] <:+: text := by
  intro double
  have pair : List.IsChain Apart ['-', '-'] := List.IsChain.infix shaped.apart double
  exact (List.isChain_cons_cons.mp pair).1 ⟨rfl, rfl⟩

/-- Such a text is already written as it would be. -/
theorem dashed_eq (shaped : Shaped text) : dashed false text = text := by
  rcases shaped with ⟨consists, apart, -⟩
  -- The flag is set behind each dash that is kept, so the induction is over both of its values.
  have either : ∀ afterDash, (afterDash = true → text.head? ≠ some '-') →
      dashed afterDash text = text := by
    induction text with
    | nil => exact fun _ _ => rfl
    | cons character text ih =>
        intro afterDash begins
        rcases List.forall_mem_cons.mp consists with ⟨first, others⟩
        rcases List.isChain_cons.mp apart with ⟨next, later⟩
        rcases first with plain | rfl
        · rw [dashed, if_pos plain, ih others later false nofun]
        · have fresh : afterDash = false := by
            cases afterDash with
            | false => rfl
            | true => exact absurd rfl (begins rfl)
          have behind : text.head? ≠ some '-' := fun dash => next '-' dash ⟨rfl, rfl⟩
          simp [dashed, isPlain_dash, fresh, ih others later true fun _ => behind]
  exact either false nofun

end Shaped

/-- The slug of an address before it is cut. -/
def uncut (address : String) : List Char :=
  trimDashes (dashed false (fold address))

theorem uncut_eq {address : String} {runs : List (List Char)} (cut : Runs (fold address) runs) :
    uncut address = ['-'].intercalate runs :=
  trimDashes_dashed_eq cut

theorem toList_slug (address : String) :
    (slug address).toList =
      if uncut address = [] then "report".toList else (uncut address).take limit := by
  have kept : (uncut address).take limit = [] ↔ uncut address = [] := by
    simp [limit]
  rw [slug]
  change (if ((uncut address).take limit).isEmpty then "report"
    else String.ofList ((uncut address).take limit)).toList = _
  simp only [List.isEmpty_iff, kept]
  split
  · rfl
  · exact String.toList_ofList

theorem toList_slug_ne_nil (address : String) : (slug address).toList ≠ [] := by
  rw [toList_slug]
  split
  case isTrue => decide
  case isFalse some => simpa [limit] using some

theorem length_toList_slug_le (address : String) : (slug address).toList.length ≤ limit := by
  rw [toList_slug]
  split
  case isTrue => decide
  case isFalse => exact List.length_take_le _ _

theorem shaped_uncut (address : String) : Shaped (uncut address) where
  consists := fun character listed =>
    mayStand_of_mem_dashed character ((trimDashes_within _).subset listed)
  apart := List.IsChain.infix (isChain_dashed false (fold address)) (trimDashes_within _)
  begins := by
    rw [uncut, trimDashes_dashed, Text.dropTrailing_eq]
    intro first
    rcases List.rdropWhile_prefix (· == '-') (dashed true (fold address)) with ⟨rest, whole⟩
    apply head?_dashed_true (fold address)
    rw [← whole]
    simp [first]

theorem shaped_slug (address : String) : Shaped (slug address).toList := by
  rw [toList_slug]
  split
  case isTrue => exact ⟨List.all_iff_forall_prop.mp (by decide), by decide, by decide⟩
  case isFalse => exact (shaped_uncut address).beginning (List.take_prefix _ _)

/-- A slug ends in a dash if and only if it is cut behind one. -/
theorem getLast?_slug_iff (address : String) :
    (slug address).toList.getLast? = some '-' ↔ (uncut address)[63]? = some '-' := by
  have ends : (uncut address).getLast? ≠ some '-' := getLast?_trimDashes _
  rw [toList_slug]
  split
  case isTrue empty => simp [empty]
  case isFalse =>
    rw [List.getLast?_take, if_neg (by decide), limit]
    cases (uncut address)[63]? with
    | none => simpa using ends
    | some character => simp

/-- A slug that is not cut does not end in a dash. -/
theorem getLast?_slug_of_lt {address : String} (short : (slug address).length < 64) :
    (slug address).toList.getLast? ≠ some '-' := by
  intro last
  have reaches : 63 < (uncut address).length :=
    (List.getElem?_eq_some_iff.mp ((getLast?_slug_iff address).mp last)).choose
  have nonempty : uncut address ≠ [] := by
    intro empty
    simp [empty] at reaches
  rw [← String.length_toList, toList_slug, if_neg nonempty, List.length_take, limit] at short
  omega

/-- A slug has between one and sixty-four characters, and they are small letters, digits and dashes.
No two dashes are next to each other and none stands in front. None stands at the end of a slug of
less than sixty-four characters; one stands at the end if and only if the runs of the address with
dashes between them have it in the sixty-fourth place, where they are cut. -/
theorem slug_is_well_formed (address : String) :
    1 ≤ (slug address).length ∧ (slug address).length ≤ 64 ∧
      (∀ character ∈ (slug address).toList, isPlain character = true ∨ character = '-') ∧
      ¬['-', '-'] <:+: (slug address).toList ∧
      (slug address).toList.head? ≠ some '-' ∧
      ((slug address).length < 64 → (slug address).toList.getLast? ≠ some '-') ∧
      ∃ runs : List (List Char), Runs (fold address) runs ∧
        ((slug address).toList.getLast? = some '-' ↔ (['-'].intercalate runs)[63]? = some '-') := by
  have shaped := shaped_slug address
  rcases exists_runs (fold address) with ⟨runs, cut⟩
  refine ⟨?_, ?_, shaped.consists, shaped.not_infix, shaped.begins, getLast?_slug_of_lt, runs, cut,
    ?_⟩
  · rw [← String.length_toList]
    exact List.length_pos_iff.mpr (toList_slug_ne_nil address)
  · rw [← String.length_toList]
    exact length_toList_slug_le address
  · rw [getLast?_slug_iff, uncut_eq cut]

/-- An address whose slug is cut behind a dash. -/
theorem cut_leaves_dash :
    let address := "The Residences at Old Mill Crossing, 4500 North Lake Shore Drive, Chicago"
    slug address = "the-residences-at-old-mill-crossing-4500-north-lake-shore-drive-" ∧
      (slug address).toList.getLast? = some '-' := by
  decide +kernel

end Slug

/-! ## Folding what is folded -/

namespace Text

theorem Lowercase.lowerAfter_of_ascii {text : List Char}
    (ascii : ∀ character ∈ text, character.toNat < 0x80) (before : List Char) :
    lowerAfter before text = text.map Char.toLower := by
  induction text generalizing before with
  | nil => rfl
  | cons character text ih =>
      rcases List.forall_mem_cons.mp ascii with ⟨first, others⟩
      have dotted : character ≠ 'İ' := by
        rintro rfl
        exact absurd first (by decide)
      have sigma : character ≠ 'Σ' := by
        rintro rfl
        exact absurd first (by decide)
      simp [lowerAfter, dotted, sigma, letter, first, ih others]

/-- Text of ASCII is lowered letter by letter. -/
theorem lowercase_of_ascii {text : List Char}
    (ascii : ∀ character ∈ text, character.toNat < 0x80) :
    lowercase text = text.map Char.toLower :=
  Lowercase.lowerAfter_of_ascii ascii []

/-- A character that is no mark stays in front of what follows it. -/
theorem Decomposition.place_of_combiningClass_eq_zero {character : Char}
    (none : combiningClass character = 0) (rest : List Char) :
    place character rest = character :: rest := by
  cases rest with
  | nil => rfl
  | cons next rest => simp [place, none]

/-- Text of ASCII cannot be decomposed. -/
theorem decompose_of_ascii {text : List Char}
    (ascii : ∀ character ∈ text, character.toNat < 0x80) : decompose text = text := by
  induction text with
  | nil => rfl
  | cons character text ih =>
      rcases List.forall_mem_cons.mp ascii with ⟨first, others⟩
      have whole : Decomposition.parts character = [character] := by
        simp [Decomposition.parts, first]
      have none : Decomposition.combiningClass character = 0 := by
        have below : character.toNat < 0x300 := by omega
        simp [Decomposition.combiningClass, below]
      have later := ih others
      simp only [decompose, Decomposition.order] at later ⊢
      simp [whole, later, Decomposition.place_of_combiningClass_eq_zero none]

end Text

namespace Slug

theorem MayStand.folded {character : Char} (mayStand : MayStand character) :
    character.toNat < 0x80 ∧ character.toLower = character := by
  have ascii : character.toNat < 0x80 := by
    rcases mayStand with plain | rfl
    · simp only [isPlain, Bool.or_eq_true, Bool.and_eq_true, decide_eq_true_eq, Char.le_def,
        UInt32.le_iff_toNat_le] at plain
      have lastLetter : 'z'.val.toNat = 0x7A := rfl
      have lastDigit : '9'.val.toNat = 0x39 := rfl
      change character.val.toNat < 0x80
      omega
    · decide
  have all : ∀ code < 0x80, MayStand (Char.ofNat code) →
      (Char.ofNat code).toLower = Char.ofNat code := by
    decide
  refine ⟨ascii, ?_⟩
  rw [← character.ofNat_toNat] at mayStand ⊢
  exact all _ ascii mayStand

theorem Shaped.fold_eq {text : String} (shaped : Shaped text.toList) : fold text = text.toList := by
  have ascii : ∀ character ∈ text.toList, character.toNat < 0x80 := fun character listed =>
    (shaped.consists character listed).folded.1
  have low : text.toList.map Char.toLower = text.toList.map id :=
    List.map_congr_left fun character listed => (shaped.consists character listed).folded.2
  rw [fold, Text.lowercase_of_ascii ascii, low, List.map_id, Text.decompose_of_ascii ascii]

/-- A slug that does not end in a dash is its own slug. -/
theorem slug_slug_of_getLast? {address : String}
    (ends : (slug address).toList.getLast? ≠ some '-') : slug (slug address) = slug address := by
  have shaped := shaped_slug address
  have same : uncut (slug address) = (slug address).toList := by
    rw [uncut, shaped.fold_eq, shaped.dashed_eq]
    apply Text.dropTrailing_dropWhile_of_shown
    · intro character first
      exact beq_eq_false_iff_ne.mpr fun dash => shaped.begins (dash ▸ first)
    · intro character last
      exact beq_eq_false_iff_ne.mpr fun dash => ends (dash ▸ last)
  apply String.toList_injective
  rw [toList_slug, same, if_neg (toList_slug_ne_nil address)]
  exact List.take_of_length_le (length_toList_slug_le address)

/-- The folded address has one list of maximal runs. Its slug consists of them with single dashes
between them, up to the sixty-fourth character, or is `report` if there are none; and a shorter one
is its own slug. -/
theorem slug_joins_runs (address : String) :
    ∃ runs : List (List Char),
      (∀ others, Runs (Text.decompose (Text.lowercase address.toList)) others ↔ others = runs) ∧
      slug address =
        (if runs = [] then "report" else String.ofList ((['-'].intercalate runs).take 64)) ∧
      ((slug address).length < 64 → slug (slug address) = slug address) := by
  rcases exists_runs (fold address) with ⟨runs, cut⟩
  have joined : uncut address = ['-'].intercalate runs := uncut_eq cut
  refine ⟨runs, fun others => ⟨fun cut' => ?_, ?_⟩, ?_, fun short => ?_⟩
  · exact eq_of_intercalate cut'.isRun cut.isRun ((uncut_eq cut').symm.trans joined)
  · rintro rfl
    exact cut
  · apply String.toList_injective
    rw [toList_slug, joined]
    simp only [intercalate_eq_nil_iff cut.isRun, apply_ite String.toList, String.toList_ofList]
    rfl
  · exact slug_slug_of_getLast? (getLast?_slug_of_lt short)

example : slug "  12 Elm Ave., #3" = "12-elm-ave-3" := by
  decide +kernel

end Slug

end AuditReports
