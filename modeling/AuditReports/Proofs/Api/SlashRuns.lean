import Mathlib.Data.List.DropRight
import AuditReports.Proofs.Api.Slashes
import AuditReports.Proofs.Text.Trimming

/-!
# Runs of slashes

The rewriting of slashes carries a number along, which hides what it does to a text as a whole. A
text is made of the slashes it begins with and of its other characters, each with the slashes behind
it. There is one way to see it like that, and no run of slashes in it touches another. The rewriting
keeps the other characters and shortens every run by itself: to two slashes at the beginning and
behind a colon, to one anywhere else. Replacing, from the left, what stands for too many slashes has
the same result, although the character in front of a match may then be a slash itself.

So of the slashes between two parts of an address only one is left, as long as the first part ends
in something that is neither a slash nor a colon. This is why it does not matter how many slashes
were typed at the end of the base, around the prefix and in front of the path.
-/

namespace AuditReports.Mount

/-- This many slashes. -/
def slashes (count : Nat) : List Char :=
  List.replicate count '/'

theorem eq_of_mem_slashes {count : Nat} {character : Char} (listed : character ∈ slashes count) :
    character = '/' :=
  List.eq_of_mem_replicate listed

theorem slashes_succ (count : Nat) : slashes (count + 1) = slashes count ++ ['/'] :=
  List.replicate_succ'

theorem slashes_append_slashes (first second : Nat) :
    slashes first ++ slashes second = slashes (first + second) :=
  List.replicate_append_replicate

/-- A character that is no slash. -/
abbrev Solid :=
  {character : Char // character ≠ '/'}

/-- How many slashes may stand behind a character. -/
def limit (character : Solid) : Nat :=
  if character.val = ':' then 2 else 1

/-- A text cut at its slashes: how many it begins with, and its other characters, each with the
number of slashes behind it. -/
@[ext]
structure SlashRuns where
  leading : Nat
  others : List (Solid × Nat)

namespace SlashRuns

/-- A character and the slashes behind it. -/
def spelled (other : Solid × Nat) : List Char :=
  other.1.val :: slashes other.2

def text (runs : SlashRuns) : List Char :=
  slashes runs.leading ++ runs.others.flatMap spelled

/-- The same character with no more slashes behind it than may stand there. -/
def shorten (other : Solid × Nat) : Solid × Nat :=
  (other.1, min other.2 (limit other.1))

def shortened (runs : SlashRuns) : SlashRuns :=
  ⟨min runs.leading 2, runs.others.map shorten⟩

def ofText : List Char → SlashRuns
  | [] => ⟨0, []⟩
  | character :: rest =>
      if slash : character = '/' then { ofText rest with leading := (ofText rest).leading + 1 }
      else ⟨0, (⟨character, slash⟩, (ofText rest).leading) :: (ofText rest).others⟩

theorem text_ofText (characters : List Char) : (ofText characters).text = characters := by
  induction characters with
  | nil => rfl
  | cons character rest ih =>
      rw [ofText]
      split
      case isTrue slash =>
        rw [slash, ← congrArg ('/' :: ·) ih]
        rfl
      case isFalse =>
        rw [← congrArg (character :: ·) ih]
        rfl

theorem ofText_slashes_append (count : Nat) (rest : List Char) :
    ofText (slashes count ++ rest) =
      { ofText rest with leading := (ofText rest).leading + count } := by
  induction count with
  | zero => rfl
  | succ count ih =>
      have first : slashes (count + 1) ++ rest = '/' :: (slashes count ++ rest) := rfl
      rw [first, ofText, dif_pos rfl, ih]
      rfl

theorem ofText_flatMap (others : List (Solid × Nat)) :
    ofText (others.flatMap spelled) = ⟨0, others⟩ := by
  induction others with
  | nil => rfl
  | cons other others ih =>
      have first : (other :: others).flatMap spelled =
          other.1.val :: (slashes other.2 ++ others.flatMap spelled) := rfl
      rw [first, ofText, dif_neg other.1.property, ofText_slashes_append, ih, Nat.zero_add]

/-- No text can be cut in two ways. -/
theorem ofText_text (runs : SlashRuns) : ofText runs.text = runs := by
  rw [text, ofText_slashes_append, ofText_flatMap, Nat.zero_add]

theorem text_eq_iff {runs : SlashRuns} {characters : List Char} :
    runs.text = characters ↔ runs = ofText characters :=
  ⟨fun cut => by rw [← cut, ofText_text], fun same => by rw [same, text_ofText]⟩

theorem shortened_shortened (runs : SlashRuns) : runs.shortened.shortened = runs.shortened := by
  ext1 <;> simp [shortened, shorten]

end SlashRuns

/-! ## What the rewriting does to runs -/

theorem collapseFrom_slashes_append (allowed count : Nat) (rest : List Char) :
    collapseFrom allowed (slashes count ++ rest) =
      slashes (min count allowed) ++ collapseFrom (allowed - count) rest := by
  induction count generalizing allowed with
  | zero => simp [slashes]
  | succ count ih =>
      have first : slashes (count + 1) ++ rest = '/' :: (slashes count ++ rest) := rfl
      rw [first]
      cases allowed with
      | zero =>
          have none := ih 0
          rw [Nat.min_zero, Nat.zero_sub] at none ⊢
          exact none
      | succ left =>
          rw [Nat.add_min_add_right, Nat.add_sub_add_right]
          exact congrArg ('/' :: ·) (ih left)

theorem collapseFrom_cons_solid (allowed : Nat) (character : Solid) (rest : List Char) :
    collapseFrom allowed (character.val :: rest) =
      character.val :: collapseFrom (limit character) rest := by
  simp [collapseFrom, limit, character.property]

theorem collapseFrom_flatMap_spelled (allowed : Nat) (others : List (Solid × Nat)) :
    collapseFrom allowed (others.flatMap SlashRuns.spelled) =
      (others.map SlashRuns.shorten).flatMap SlashRuns.spelled := by
  induction others generalizing allowed with
  | nil => rfl
  | cons other others ih =>
      rw [List.flatMap_cons, SlashRuns.spelled, List.cons_append, collapseFrom_cons_solid,
        collapseFrom_slashes_append, ih]
      rfl

/-- The rewriting shortens every run by itself. -/
theorem collapse_text (runs : SlashRuns) : collapse runs.text = runs.shortened.text := by
  rw [collapse, SlashRuns.text, collapseFrom_slashes_append, collapseFrom_flatMap_spelled]
  rfl

example : collapse "///a:///b//c/".toList = "//a://b/c/".toList := by
  decide +kernel

theorem collapse_collapse (characters : List Char) :
    collapse (collapse characters) = collapse characters := by
  rw [← SlashRuns.text_ofText characters, collapse_text, collapse_text,
    SlashRuns.shortened_shortened]

/-! ## The same by replacement -/

/-- Replaces, from the left, a character other than a colon and two slashes or more behind it by
that character and one slash. The character may be a slash. -/
def replaceRuns : List Char → List Char
  | [] => []
  | first :: '/' :: '/' :: rest =>
      if first = ':' then first :: replaceRuns ('/' :: '/' :: rest)
      else first :: '/' :: replaceRuns (rest.dropWhile (· == '/'))
  | first :: rest => first :: replaceRuns rest
termination_by characters => characters.length
decreasing_by
  · simp
  · have shorter := (List.dropWhile_sublist (l := rest) (· == '/')).length_le
    simp only [List.length_cons]
    omega
  · simp

theorem replaceRuns_cons_of_single {first : Char} {rest : List Char}
    (single : ∀ more, rest ≠ '/' :: '/' :: more) :
    replaceRuns (first :: rest) = first :: replaceRuns rest := by
  rw [replaceRuns]
  exact single

theorem replaceRuns_colon (rest : List Char) :
    replaceRuns (':' :: rest) = ':' :: replaceRuns rest := by
  by_cases double : ∃ more, rest = '/' :: '/' :: more
  · rcases double with ⟨more, rfl⟩
    rw [replaceRuns, if_pos rfl]
  · exact replaceRuns_cons_of_single fun more same => double ⟨more, same⟩

/-- What stands behind a run does not begin with a slash. -/
theorem flatMap_spelled_ne (others : List (Solid × Nat)) (rest : List Char) :
    others.flatMap SlashRuns.spelled ≠ '/' :: rest := by
  cases others with
  | nil => exact List.cons_ne_nil _ _ ∘ Eq.symm
  | cons other others => exact fun same => other.1.property (List.cons.inj same).1

theorem dropWhile_slashes_append (count : Nat) (others : List (Solid × Nat)) :
    (slashes count ++ others.flatMap SlashRuns.spelled).dropWhile (· == '/') =
      others.flatMap SlashRuns.spelled := by
  rw [List.dropWhile_append_of_pos fun _ listed => beq_iff_eq.mpr (eq_of_mem_slashes listed)]
  cases others with
  | nil => rfl
  | cons other others => exact List.dropWhile_cons_of_neg (by simpa using other.1.property)

/-- At the beginning, and behind a colon, the first slash of a run is what may be matched. -/
theorem replaceRuns_slashes_append (count : Nat) (others : List (Solid × Nat)) :
    replaceRuns (slashes count ++ others.flatMap SlashRuns.spelled) =
      slashes (min count 2) ++ replaceRuns (others.flatMap SlashRuns.spelled) := by
  have single : replaceRuns ('/' :: others.flatMap SlashRuns.spelled) =
      '/' :: replaceRuns (others.flatMap SlashRuns.spelled) :=
    replaceRuns_cons_of_single fun _ => flatMap_spelled_ne others _
  match count with
  | 0 => rfl
  | 1 => exact single
  | 2 =>
      refine (replaceRuns_cons_of_single fun more same => ?_).trans (congrArg _ single)
      exact flatMap_spelled_ne others _ (List.cons.inj same).2
  | count + 3 =>
      have cut : slashes (count + 3) ++ others.flatMap SlashRuns.spelled =
          '/' :: '/' :: '/' :: (slashes count ++ others.flatMap SlashRuns.spelled) := rfl
      rw [cut, replaceRuns, if_neg (by decide), dropWhile_slashes_append,
        Nat.min_eq_right (by omega)]
      rfl

/-- Elsewhere it is the character in front of the run. -/
theorem replaceRuns_spelled_append (other : Solid × Nat) (others : List (Solid × Nat)) :
    replaceRuns (SlashRuns.spelled other ++ others.flatMap SlashRuns.spelled) =
      SlashRuns.spelled (SlashRuns.shorten other) ++
        replaceRuns (others.flatMap SlashRuns.spelled) := by
  rcases other with ⟨character, count⟩
  by_cases colon : character.val = ':'
  · have run := replaceRuns_slashes_append count others
    simp only [SlashRuns.spelled, SlashRuns.shorten, limit, colon, if_true, List.cons_append,
      replaceRuns_colon, run]
  · simp only [SlashRuns.spelled, SlashRuns.shorten, limit, colon, if_false, List.cons_append]
    match count with
    | 0 => exact replaceRuns_cons_of_single fun _ => flatMap_spelled_ne others _
    | 1 =>
        have run := replaceRuns_slashes_append 1 others
        refine (replaceRuns_cons_of_single fun more same => ?_).trans (congrArg _ run)
        exact flatMap_spelled_ne others _ (List.cons.inj same).2
    | count + 2 =>
        have cut : slashes (count + 2) ++ others.flatMap SlashRuns.spelled =
            '/' :: '/' :: (slashes count ++ others.flatMap SlashRuns.spelled) := rfl
        rw [cut, replaceRuns, if_neg colon, dropWhile_slashes_append, Nat.min_eq_right (by omega)]
        rfl

theorem replaceRuns_text (runs : SlashRuns) : replaceRuns runs.text = runs.shortened.text := by
  have later : ∀ others : List (Solid × Nat), replaceRuns (others.flatMap SlashRuns.spelled) =
      (others.map SlashRuns.shorten).flatMap SlashRuns.spelled := by
    intro others
    induction others with
    | nil => rw [List.flatMap_nil, replaceRuns]; rfl
    | cons other others ih => rw [List.flatMap_cons, replaceRuns_spelled_append, ih]; rfl
  rw [SlashRuns.text, replaceRuns_slashes_append, later]
  rfl

/-- Writing no more slashes than may stand, and replacing those that are too many, are the same. -/
theorem collapse_eq_replaceRuns (characters : List Char) :
    collapse characters = replaceRuns characters := by
  rw [← SlashRuns.text_ofText characters, collapse_text, replaceRuns_text]

/-- The parts of an address can be cut at their slashes in one way. The address has the same
characters other than slashes in the same order; of the slashes that it begins with and of those
behind a colon there are two at most, and of those behind any other character one. It is what
replacing makes of the parts, and taken as a base of its own it stays as it is. -/
theorem address_shortens_runs (base apiPath path : String) :
    ∃ runs : SlashRuns,
      (∀ other : SlashRuns,
        other.text = base.toList ++ apiPath.toList ++ path.toList ↔ other = runs) ∧
      ((⟨base, apiPath⟩ : Mount).address path).toList = runs.shortened.text ∧
      ((⟨base, apiPath⟩ : Mount).address path).toList =
        replaceRuns (base.toList ++ apiPath.toList ++ path.toList) ∧
      (⟨(⟨base, apiPath⟩ : Mount).address path, ""⟩ : Mount).address "" =
        (⟨base, apiPath⟩ : Mount).address path := by
  have whole : ((⟨base, apiPath⟩ : Mount).address path).toList =
      collapse (base.toList ++ apiPath.toList ++ path.toList) := String.toList_ofList
  refine ⟨.ofText (base.toList ++ apiPath.toList ++ path.toList),
    fun other => SlashRuns.text_eq_iff, ?_, ?_, ?_⟩
  · rw [whole, ← collapse_text, SlashRuns.text_ofText]
  · rw [whole, collapse_eq_replaceRuns]
  · have alone : ∀ text : String,
        (⟨text, ""⟩ : Mount).address "" = String.ofList (collapse text.toList) := by
      intro text
      simp [address]
    rw [alone, whole, collapse_collapse, ← whole, String.ofList_toList]

/-! ## Slashes between the parts -/

/-- Not empty, without white space at either end, and ending neither in a slash nor in a colon. -/
structure IsTidy (text : String) : Prop where
  nonempty : text ≠ ""
  begins : ∀ character ∈ text.toList.head?, Text.isBlank character = false
  ends : ∀ character ∈ text.toList.getLast?, Text.isBlank character = false
  solid : ∀ character ∈ text.toList.getLast?, character ≠ '/' ∧ character ≠ ':'

theorem IsTidy.exists_concat {text : String} (tidy : IsTidy text) :
    ∃ front last, text.toList = front ++ [last] ∧ last ≠ '/' ∧ last ≠ ':' := by
  rcases text.toList.eq_nil_or_concat with empty | ⟨front, last, whole⟩
  · exact absurd (String.toList_eq_nil_iff.mp empty) tidy.nonempty
  · rw [List.concat_eq_append] at whole
    exact ⟨front, last, whole, tidy.solid last (by simp [whole])⟩

def typedSlashes (count : Nat) : String :=
  String.ofList (slashes count)

theorem toList_typedSlashes (count : Nat) : (typedSlashes count).toList = slashes count :=
  String.toList_ofList

theorem isBlank_of_mem_slashes {count : Nat} {character : Char}
    (listed : character ∈ slashes count) : Text.isBlank character = false := by
  rw [eq_of_mem_slashes listed]
  rfl

theorem trimList_slashes (count : Nat) : Text.trimList (slashes count) = slashes count :=
  Text.trimList_of_shown (fun _ first => isBlank_of_mem_slashes (List.mem_of_mem_head? first))
    fun _ last => isBlank_of_mem_slashes (List.mem_of_mem_getLast? last)

/-- Slashes around a text are not white space. -/
theorem IsTidy.trimList_eq {text : String} (tidy : IsTidy text) (before behind : Nat) :
    Text.trimList (slashes before ++ text.toList ++ slashes behind) =
      slashes before ++ text.toList ++ slashes behind := by
  apply Text.trimList_of_shown
  · intro character first
    simp only [List.head?_append, Option.mem_def, Option.or_eq_some_iff] at first
    rcases first with (slash | ⟨_, first⟩) | ⟨_, slash⟩
    · exact isBlank_of_mem_slashes (List.mem_of_mem_head? slash)
    · exact tidy.begins character first
    · exact isBlank_of_mem_slashes (List.mem_of_mem_head? slash)
  · intro character last
    simp only [List.getLast?_append, Option.mem_def, Option.or_eq_some_iff] at last
    rcases last with slash | ⟨_, last | ⟨_, slash⟩⟩
    · exact isBlank_of_mem_slashes (List.mem_of_mem_getLast? slash)
    · exact tidy.ends character last
    · exact isBlank_of_mem_slashes (List.mem_of_mem_getLast? slash)

theorem IsTidy.canonicalBase_eq {base : String} (tidy : IsTidy base) (count : Nat) :
    canonicalBase (base ++ typedSlashes count) = base := by
  rcases tidy.exists_concat with ⟨front, last, whole, solid, _⟩
  have trimmed : Text.trimList (base.toList ++ slashes count) = base.toList ++ slashes count :=
    tidy.trimList_eq 0 count
  have all : ∀ character ∈ (slashes count).reverse, (character == '/') = true :=
    fun _ listed => beq_iff_eq.mpr (eq_of_mem_slashes (List.mem_reverse.mp listed))
  have dropped : (base.toList ++ slashes count).rdropWhile (· == '/') = base.toList := by
    rw [List.rdropWhile, List.reverse_append, List.dropWhile_append_of_pos all, whole,
      List.reverse_concat, List.dropWhile_cons_of_neg (by simpa using solid), List.reverse_cons,
      List.reverse_reverse]
  rw [canonicalBase, String.toList_append, toList_typedSlashes, trimmed, Text.dropTrailing_eq,
    dropped, String.ofList_toList]

theorem withoutTrailingSlash_concat (front : List Char) :
    withoutTrailingSlash (front ++ ['/']) = front := by
  simp [withoutTrailingSlash]

theorem withoutTrailingSlash_append_slashes {front : List Char} {last : Char} (solid : last ≠ '/')
    (count : Nat) :
    withoutTrailingSlash (front ++ [last] ++ slashes count) =
      front ++ [last] ++ slashes (count - 1) := by
  cases count with
  | zero => simp [withoutTrailingSlash, slashes, solid]
  | succ count => rw [slashes_succ, ← List.append_assoc, withoutTrailingSlash_concat]; rfl

theorem withLeadingSlash_slashes_append {core : List Char} (bare : core.head? ≠ some '/')
    (count : Nat) : withLeadingSlash (slashes count ++ core) = slashes (max count 1) ++ core := by
  cases count with
  | zero =>
      rw [slashes, List.replicate_zero, List.nil_append, withLeadingSlash]
      · rfl
      · rintro rest rfl
        exact bare rfl
  | succ count =>
      rw [Nat.max_eq_left (Nat.le_add_left 1 count)]
      rfl

theorem IsTidy.toList_canonicalPath {core : String} (tidy : IsTidy core)
    (bare : core.toList.head? ≠ some '/') (before behind : Nat) :
    (canonicalPath
        (typedSlashes before ++ core ++ typedSlashes behind)).toList =
      slashes (max before 1) ++ core.toList ++ slashes (behind - 1) := by
  rcases tidy.exists_concat with ⟨front, last, whole, solid, _⟩
  have given : (slashes before ++ core.toList ++ slashes behind).isEmpty = false := by
    simp [whole]
  have headed : (core.toList ++ slashes behind).head? ≠ some '/' := by
    rw [List.head?_append, Ne, Option.or_eq_some_iff]
    rintro (slash | ⟨empty, _⟩)
    · exact bare slash
    · exact tidy.nonempty (by simpa using empty)
  rw [canonicalPath, String.toList_ofList, String.toList_append, String.toList_append,
    toList_typedSlashes, toList_typedSlashes, tidy.trimList_eq, given, if_neg Bool.false_ne_true,
    List.append_assoc, withLeadingSlash_slashes_append headed, ← List.append_assoc, whole,
    ← List.append_assoc, withoutTrailingSlash_append_slashes solid]

theorem toList_canonicalPath_slashes (count : Nat) :
    (canonicalPath (typedSlashes (count + 1))).toList = slashes count := by
  have given : (slashes (count + 1)).isEmpty = false := rfl
  have led : withLeadingSlash (slashes (count + 1)) = slashes (count + 1) := rfl
  rw [canonicalPath, String.toList_ofList, toList_typedSlashes, trimList_slashes, given,
    if_neg Bool.false_ne_true, led, slashes_succ, withoutTrailingSlash_concat]

theorem allowance_concat (allowed : Nat) (front : List Char) {last : Char} (solid : last ≠ '/')
    (other : last ≠ ':') : allowance allowed (front ++ [last]) = 1 := by
  induction front generalizing allowed with
  | nil => simp [allowance, solid, other]
  | cons character front ih => simp [allowance, ih]

/-- Behind a part that ends in something solid a single slash is left. -/
theorem IsTidy.collapseFrom_append {text : String} (tidy : IsTidy text) {count : Nat}
    (typed : 0 < count) (allowed : Nat) (rest : List Char) :
    collapseFrom allowed (text.toList ++ (slashes count ++ rest)) =
      collapseFrom allowed text.toList ++ '/' :: collapseFrom 0 rest := by
  rcases tidy.exists_concat with ⟨front, last, whole, solid, other⟩
  have single : min count 1 = 1 ∧ 1 - count = 0 := by omega
  rw [Mount.collapseFrom_append, collapseFrom_slashes_append, whole,
    allowance_concat allowed front solid other, single.1, single.2]
  rfl

/-- What an address is made of, whatever number of slashes was typed between its parts. -/
theorem IsTidy.toList_address {base core : String} (tidy : IsTidy base) (isCore : IsTidy core)
    (bare : core.toList.head? ≠ some '/') (rest : String) (atEnd before behind : Nat)
    {inFront : Nat} (typed : 0 < inFront) :
    (((Mount.ofBase (base ++ typedSlashes atEnd)).under
        (typedSlashes before ++ core ++ typedSlashes behind)).address
          (typedSlashes inFront ++ rest)).toList =
      collapse base.toList ++
        '/' :: (collapseFrom 0 core.toList ++ '/' :: collapseFrom 0 rest.toList) := by
  have joined : base.toList ++ (slashes (max before 1) ++ core.toList ++ slashes (behind - 1)) ++
        (slashes inFront ++ rest.toList) =
      base.toList ++ (slashes (max before 1) ++
        (core.toList ++ (slashes (behind - 1 + inFront) ++ rest.toList))) := by
    simp only [← slashes_append_slashes, List.append_assoc]
  rw [address, under, ofBase, tidy.canonicalBase_eq, isCore.toList_canonicalPath bare,
    String.toList_append, String.toList_ofList, toList_typedSlashes, joined, collapse,
    tidy.collapseFrom_append (by omega), isCore.collapseFrom_append (by omega)]
  rfl

theorem IsTidy.toList_address_of_slashes {base : String} (tidy : IsTidy base) (rest : String)
    (atEnd alone : Nat) {inFront : Nat} (typed : 0 < inFront) :
    (((Mount.ofBase (base ++ typedSlashes atEnd)).under
        (typedSlashes (alone + 1))).address
          (typedSlashes inFront ++ rest)).toList =
      collapse base.toList ++ '/' :: collapseFrom 0 rest.toList := by
  have joined : base.toList ++ slashes alone ++ (slashes inFront ++ rest.toList) =
      base.toList ++ (slashes (alone + inFront) ++ rest.toList) := by
    simp only [← slashes_append_slashes, List.append_assoc]
  rw [address, under, ofBase, tidy.canonicalBase_eq, toList_canonicalPath_slashes,
    String.toList_append, String.toList_ofList, toList_typedSlashes, joined, collapse,
    tidy.collapseFrom_append (by omega)]
  rfl

/-- How many slashes were typed at the end of the base, around the prefix and in front of the path
makes no difference, if there is at least one in front of the path. A prefix of nothing but slashes
is no prefix, however many there are. -/
theorem typed_slashes_do_not_matter {base core : String} (isBase : IsTidy base)
    (isCore : IsTidy core) (bare : core.toList.head? ≠ some '/') (rest : String)
    (atEnd before behind : Nat) {inFront alone : Nat} (typed : 0 < inFront)
    (someAlone : 0 < alone) :
    ((Mount.ofBase (base ++ typedSlashes atEnd)).under
        (typedSlashes before ++ core ++ typedSlashes behind)).address
          (typedSlashes inFront ++ rest) =
        ((Mount.ofBase base).under core).address ("/" ++ rest) ∧
      ((Mount.ofBase (base ++ typedSlashes atEnd)).under
          (typedSlashes alone)).address (typedSlashes inFront ++ rest) =
        ((Mount.ofBase base).under "/").address ("/" ++ rest) ∧
      ((Mount.ofBase base).under "/").apiPath = "" := by
  have untyped :
      base ++ typedSlashes 0 = base ∧ typedSlashes 0 ++ core ++ typedSlashes 0 = core := by
    simp [typedSlashes, slashes]
  refine ⟨String.toList_inj.mp ?_, String.toList_inj.mp ?_, rfl⟩
  · have once := isBase.toList_address isCore bare rest 0 0 0 Nat.one_pos
    rw [untyped.1, untyped.2] at once
    exact (isBase.toList_address isCore bare rest atEnd before behind typed).trans once.symm
  · have once := isBase.toList_address_of_slashes rest 0 0 Nat.one_pos
    rw [untyped.1] at once
    rw [← Nat.sub_add_cancel someAlone]
    exact (isBase.toList_address_of_slashes rest atEnd (alone - 1) typed).trans once.symm

/-- The base and the rest have slashes of their own, which are dealt with alike. -/
theorem typed_slashes_do_not_matter_here :
    (IsTidy "https://audits.example.com//v1" ∧ IsTidy "api//v2" ∧
        "api//v2".toList.head? ≠ some '/' ∧ 0 < 3 ∧ 0 < 4) ∧
      ((Mount.ofBase "https://audits.example.com//v1//").under "//api//v2///").address
          "///reports//abc" = "https://audits.example.com/v1/api/v2/reports/abc" ∧
      ((Mount.ofBase "https://audits.example.com//v1//").under "////").address "///reports//abc" =
        "https://audits.example.com/v1/reports/abc" := by
  have isBase : IsTidy "https://audits.example.com//v1" :=
    ⟨by decide, by simp [Text.isBlank], by simp [Text.isBlank], by simp⟩
  have isCore : IsTidy "api//v2" :=
    ⟨by decide, by simp [Text.isBlank], by simp [Text.isBlank], by simp⟩
  have bare : "api//v2".toList.head? ≠ some '/' := by decide +kernel
  rcases typed_slashes_do_not_matter isBase isCore bare "reports//abc" 2 2 3
    (show 0 < 3 by decide) (show 0 < 4 by decide) with ⟨prefixed, unprefixed, _⟩
  refine ⟨⟨isBase, isCore, bare, by decide, by decide⟩, Eq.trans ?_ (prefixed.trans ?_),
    Eq.trans ?_ (unprefixed.trans ?_)⟩
  all_goals decide +kernel

end AuditReports.Mount
