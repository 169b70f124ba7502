import AuditReports.Api.Address

/-!
# Addresses by their parts

In an address a run of slashes is written as one. The rewriting reads the text from the left, and
all it carries along is how many slashes it may still write. So what it makes of the front of an
address, which belongs to the client, and what it makes of the path of a call can be told apart: the
front is the same for all calls, and a path that has no run of slashes in it is left alone.
-/

namespace AuditReports.Mount

/-- How many slashes may be written after a text. -/
def allowance (allowed : Nat) : List Char → Nat
  | [] => allowed
  | character :: rest =>
      if character == '/' then allowance (allowed - 1) rest
      else allowance (if character == ':' then 2 else 1) rest

theorem collapseFrom_append (allowed : Nat) (first second : List Char) :
    collapseFrom allowed (first ++ second) =
      collapseFrom allowed first ++ collapseFrom (allowance allowed first) second := by
  induction first generalizing allowed with
  | nil => rfl
  | cons character first ih =>
      by_cases slash : character = '/'
      · cases allowed <;> simp [collapseFrom, allowance, slash, ih]
      · simp [collapseFrom, allowance, slash, ih]

/-- A slash at the end is written, unless slashes that are not stand for it. -/
theorem collapseFrom_concat_slash (allowed : Nat) (characters : List Char) :
    (allowed = 0 ∧ collapseFrom allowed (characters ++ ['/']) = []) ∨
      ∃ front, collapseFrom allowed (characters ++ ['/']) = front ++ ['/'] := by
  induction characters generalizing allowed with
  | nil =>
      cases allowed with
      | zero => exact Or.inl ⟨rfl, rfl⟩
      | succ left => exact Or.inr ⟨[], rfl⟩
  | cons character rest ih =>
      by_cases slash : character = '/'
      · cases allowed with
        | zero =>
            rcases ih 0 with ⟨_, none⟩ | ⟨front, some⟩
            · exact Or.inl ⟨rfl, by simpa [collapseFrom, slash] using none⟩
            · exact Or.inr ⟨front, by simpa [collapseFrom, slash] using some⟩
        | succ left =>
            rcases ih left with ⟨_, none⟩ | ⟨front, some⟩
            · exact Or.inr ⟨[], by simpa [collapseFrom, slash] using none⟩
            · exact Or.inr ⟨'/' :: front, by simpa [collapseFrom, slash] using some⟩
      · right
        rcases ih (if character = ':' then 2 else 1) with ⟨none, _⟩ | ⟨front, some⟩
        · split at none <;> cases none
        · exact ⟨character :: front, by simpa [collapseFrom, slash] using some⟩

/-- Characters that are no slashes stay. -/
theorem mem_collapseFrom_iff {allowed : Nat} {characters : List Char} {character : Char}
    (other : character ≠ '/') :
    character ∈ collapseFrom allowed characters ↔ character ∈ characters := by
  induction characters generalizing allowed with
  | nil => rfl
  | cons first rest ih =>
      by_cases slash : first = '/'
      · cases allowed <;> simp [collapseFrom, slash, other, ih]
      · simp [collapseFrom, slash, ih]

theorem allowance_of_solid (allowed : Nat) {characters : List Char}
    (solid : ∀ character ∈ characters, character ≠ '/' ∧ character ≠ ':') :
    allowance allowed characters = if characters = [] then allowed else 1 := by
  induction characters generalizing allowed with
  | nil => rfl
  | cons character rest ih =>
      rcases solid character List.mem_cons_self with ⟨slash, colon⟩
      simp only [allowance, beq_iff_eq, slash, colon, if_false]
      rw [ih 1 fun _ listed => solid _ (List.mem_cons_of_mem _ listed)]
      simp

theorem collapseFrom_of_no_slash (allowed : Nat) {characters : List Char}
    (solid : ∀ character ∈ characters, character ≠ '/') :
    collapseFrom allowed characters = characters := by
  induction characters generalizing allowed with
  | nil => rfl
  | cons character rest ih =>
      have slash := solid character List.mem_cons_self
      simp only [collapseFrom, beq_iff_eq, slash, if_false]
      rw [ih _ fun _ listed => solid _ (List.mem_cons_of_mem _ listed)]

/-- Segments with a slash in front of each have no run of slashes. -/
theorem collapseFrom_flatMap {segments : List (List Char)}
    (solid : ∀ segment ∈ segments, segment ≠ [] ∧
      ∀ character ∈ segment, character ≠ '/' ∧ character ≠ ':') :
    collapseFrom 1 (segments.flatMap ('/' :: ·)) = segments.flatMap ('/' :: ·) := by
  induction segments with
  | nil => rfl
  | cons segment segments ih =>
      rcases solid segment List.mem_cons_self with ⟨nonempty, plain⟩
      have others := ih fun _ listed => solid _ (List.mem_cons_of_mem _ listed)
      have slash : ∀ rest, collapseFrom 1 ('/' :: rest) = '/' :: collapseFrom 0 rest :=
        fun _ => rfl
      rw [List.flatMap_cons, List.cons_append, slash, collapseFrom_append,
        collapseFrom_of_no_slash 0 fun _ listed => (plain _ listed).1, allowance_of_solid 0 plain,
        if_neg nonempty, others]

variable (mount : Mount)

/-- What all addresses begin with: the address of the root, without the slash at its end. -/
def front : List Char :=
  (mount.address "/").toList.dropLast

/-- How many slashes may be written after the address of the root. -/
def frontAllowance : Nat :=
  allowance 2 (mount.base.toList ++ mount.apiPath.toList ++ ['/'])

theorem toList_address_root : (mount.address "/").toList = mount.front ++ ['/'] := by
  have root : (mount.address "/").toList =
      collapseFrom 2 (mount.base.toList ++ mount.apiPath.toList ++ ['/']) := String.toList_ofList
  rcases collapseFrom_concat_slash 2 (mount.base.toList ++ mount.apiPath.toList) with
    ⟨none, _⟩ | ⟨front, ends⟩
  · cases none
  · rw [Mount.front, root, ends, List.dropLast_concat]

/-- An address is what all addresses begin with and what becomes of the path. -/
theorem toList_address {path : String} {rest : List Char} (slash : path.toList = '/' :: rest) :
    (mount.address path).toList =
      mount.front ++ '/' :: collapseFrom mount.frontAllowance rest := by
  have root : collapseFrom 2 (mount.base.toList ++ mount.apiPath.toList ++ ['/']) =
      mount.front ++ ['/'] := String.toList_ofList.symm.trans mount.toList_address_root
  have cut : mount.base.toList ++ mount.apiPath.toList ++ path.toList =
      mount.base.toList ++ mount.apiPath.toList ++ ['/'] ++ rest := by simp [slash]
  rw [address, String.toList_ofList, collapse, cut, collapseFrom_append, root, List.append_assoc]
  rfl

/-- Segments that have something in them stay as they are. -/
theorem toList_address_of_segments {path : String} {segments : List (List Char)}
    (joined : path.toList = segments.flatMap ('/' :: ·)) (some : segments ≠ [])
    (solid : ∀ segment ∈ segments, segment ≠ [] ∧
      ∀ character ∈ segment, character ≠ '/' ∧ character ≠ ':') :
    (mount.address path).toList = mount.front ++ path.toList := by
  cases segments with
  | nil => exact absurd rfl some
  | cons segment segments =>
      have slash : path.toList = '/' :: (segment ++ segments.flatMap ('/' :: ·)) := joined
      rcases solid segment List.mem_cons_self with ⟨nonempty, plain⟩
      rw [mount.toList_address slash, collapseFrom_append,
        collapseFrom_of_no_slash _ fun _ listed => (plain _ listed).1, allowance_of_solid _ plain,
        if_neg nonempty,
        collapseFrom_flatMap fun _ listed => solid _ (List.mem_cons_of_mem _ listed), slash]

theorem mem_front_iff {character : Char} (other : character ≠ '/') :
    character ∈ mount.front ↔ character ∈ mount.base.toList ∨ character ∈ mount.apiPath.toList := by
  have root : collapseFrom 2 (mount.base.toList ++ mount.apiPath.toList ++ ['/']) =
      mount.front ++ ['/'] := String.toList_ofList.symm.trans mount.toList_address_root
  have both : character ∈ collapseFrom 2 (mount.base.toList ++ mount.apiPath.toList ++ ['/']) ↔
      character ∈ mount.base.toList ++ mount.apiPath.toList ++ ['/'] := mem_collapseFrom_iff other
  rw [root] at both
  simpa [other] using both

end AuditReports.Mount
