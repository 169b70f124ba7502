import AuditReports.Json.Record
import AuditReports.Proofs.Json.Documents
import Mathlib.Data.List.Perm.Basic
import Mathlib.Data.List.Sort

/-!
# Values and the order of members

The members of a kept object stand in the order of their names, so a list of named values with
distinct names is kept the same way in whatever order it comes. By induction on the document this
holds at every depth: if the members of each object have distinct names, then documents that differ
in the order of members only have the same value.
-/

namespace AuditReports.Json

/-! ## Reading all of a list -/

section

variable {α β γ : Type} {read : α → Option β} {items others : List α}

theorem mapM_eq_some_iff {results : List β} :
    items.mapM read = some results ↔
      List.Forall₂ (fun item result => read item = some result) items results := by
  induction items generalizing results with
  | nil => cases results <;> simp
  | cons item items ih =>
      cases results with
      | nil => simp [Option.bind_eq_some_iff]
      | cons result results =>
          simp only [List.mapM_cons, bind, Option.bind_eq_some_iff, pure, Option.some.injEq,
            List.cons.injEq, List.forall₂_cons, ← ih]
          constructor
          · rintro ⟨_, first, _, rest, rfl, rfl⟩
            exact ⟨first, rest⟩
          · rintro ⟨first, rest⟩
            exact ⟨_, first, _, rest, rfl, rfl⟩

theorem exists_of_mapM {results : List β} (all : items.mapM read = some results) {item : α}
    (listed : item ∈ items) : ∃ result ∈ results, read item = some result := by
  induction mapM_eq_some_iff.mp all with
  | nil => cases listed
  | cons first rest ih =>
      rcases List.mem_cons.mp listed with rfl | listed
      · exact ⟨_, List.mem_cons_self .., first⟩
      · rcases ih (mapM_eq_some_iff.mpr rest) listed with ⟨result, among, found⟩
        exact ⟨result, List.mem_cons_of_mem _ among, found⟩

theorem mem_of_mapM {results : List β} (all : items.mapM read = some results) {result : β} :
    result ∈ results ↔ ∃ item ∈ items, read item = some result := by
  induction mapM_eq_some_iff.mp all with
  | nil => simp
  | cons first rest ih => simp [first, ih (mapM_eq_some_iff.mpr rest), eq_comm]

theorem mapM_congr_of_mem {other : α → Option β} (same : ∀ item ∈ items, read item = other item) :
    items.mapM read = items.mapM other := by
  induction items with
  | nil => rfl
  | cons item items ih =>
      simp only [List.mapM_cons, same item (List.mem_cons_self ..),
        ih fun item listed => same item (List.mem_cons_of_mem _ listed)]

/-- The results of a list in another order are the results in another order. -/
theorem exists_mapM_of_perm (perm : items.Perm others) {results : List β}
    (all : others.mapM read = some results) :
    ∃ reordered, items.mapM read = some reordered ∧ reordered.Perm results := by
  rcases List.perm_comp_forall₂ perm (mapM_eq_some_iff.mp all) with ⟨reordered, each, same⟩
  exact ⟨reordered, mapM_eq_some_iff.mpr each, same⟩

/-- What does not depend on the order of the results does not depend on the order of the list. -/
theorem map_mapM_of_perm {collect : List β → γ} (perm : items.Perm others)
    (same : ∀ {results reordered}, others.mapM read = some results → reordered.Perm results →
      collect reordered = collect results) :
    (items.mapM read).map collect = (others.mapM read).map collect := by
  rcases all : others.mapM read with _ | results
  · rcases some : items.mapM read with _ | results
    · rfl
    · rcases exists_mapM_of_perm perm.symm some with ⟨_, all', _⟩
      rw [all] at all'
      cases all'
  · rcases exists_mapM_of_perm perm all with ⟨reordered, found, permuted⟩
    rw [found, Option.map_some, Option.map_some, same all permuted]

end

/-! ## Named values in ascending order -/

namespace Members

def Ascending (members : Members) : Prop :=
  members.Pairwise (·.1 < ·.1)

variable {members : Members} {name : String} {value : Value}

theorem mem_insert (ascending : Ascending members) {member : String × Value} :
    member ∈ members.insert name value ↔
      member = (name, value) ∨ member ∈ members ∧ member.1 ≠ name := by
  induction members with
  | nil => simp [insert]
  | cons first rest ih =>
      rcases first with ⟨other, kept⟩
      rcases List.pairwise_cons.mp ascending with ⟨least, ascending⟩
      rw [insert]
      split_ifs with before same
      · have all : ∀ member ∈ (other, kept) :: rest, member.1 ≠ name := by
          rintro member listed rfl
          rcases List.mem_cons.mp listed with rfl | listed
          · exact String.lt_irrefl _ before
          · exact String.lt_irrefl _ (String.lt_trans before (least _ listed))
        grind
      · have same : name = other := by simpa using same
        have rest : ∀ member ∈ rest, member.1 ≠ name := by
          rintro member listed rfl
          exact String.lt_irrefl _ (same ▸ least _ listed)
        grind
      · have other : other ≠ name := fun equal => same (by simp [equal])
        rw [List.mem_cons, ih ascending]
        grind

theorem ascending_insert (ascending : Ascending members) :
    Ascending (members.insert name value) := by
  induction members with
  | nil => simp [insert, Ascending]
  | cons first rest ih =>
      rcases first with ⟨other, kept⟩
      rcases List.pairwise_cons.mp ascending with ⟨least, tail⟩
      rw [insert]
      split_ifs with before same
      · refine List.pairwise_cons.mpr ⟨fun member listed => ?_, ascending⟩
        rcases List.mem_cons.mp listed with rfl | listed
        · exact before
        · exact String.lt_trans before (least member listed)
      · have same : name = other := by simpa using same
        exact List.pairwise_cons.mpr ⟨same ▸ least, tail⟩
      · refine List.pairwise_cons.mpr ⟨fun member listed => ?_, ih tail⟩
        rcases (mem_insert tail).mp listed with rfl | ⟨listed, _⟩
        · refine Std.lt_of_le_of_ne (String.not_lt.mp before) fun equal => same ?_
          simpa using equal.symm
        · exact least member listed

/-- What has been collected stays in ascending order, and names that are distinct displace nothing
but what was collected before. -/
theorem collected (ascending : Ascending members) {listed : List (String × Value)}
    (distinct : (listed.map (·.1)).Nodup) :
    let collected :=
      listed.foldl (fun collected (name, value) => collected.insert name value) members
    Ascending collected ∧ ∀ member, member ∈ collected ↔
      member ∈ listed ∨ member ∈ members ∧ member.1 ∉ listed.map (·.1) := by
  induction listed generalizing members with
  | nil => simpa using ascending
  | cons first rest ih =>
      rcases List.nodup_cons.mp distinct with ⟨new, distinct⟩
      rcases ih (ascending_insert ascending) distinct with ⟨ordered, kept⟩
      refine ⟨ordered, fun member => ?_⟩
      simp only [List.foldl_cons, kept, mem_insert ascending]
      grind

variable {listed others : List (String × Value)}

theorem ascending_ofList (distinct : (listed.map (·.1)).Nodup) : Ascending (ofList listed) :=
  (collected .nil distinct).1

theorem mem_ofList (distinct : (listed.map (·.1)).Nodup) {member : String × Value} :
    member ∈ ofList listed ↔ member ∈ listed := by
  rw [ofList, (collected .nil distinct).2]
  simp

/-- Named values with distinct names are kept alike in whatever order they come. -/
theorem ofList_of_perm (distinct : (listed.map (·.1)).Nodup) (perm : others.Perm listed) :
    ofList others = ofList listed := by
  have distinct' : (others.map (·.1)).Nodup := (perm.map _).nodup_iff.mpr distinct
  have irreflexive : Std.Irrefl fun first second : String × Value => first.1 < second.1 :=
    ⟨fun _ => String.lt_irrefl _⟩
  have antisymmetric : Std.Antisymm fun first second : String × Value => first.1 < second.1 :=
    ⟨fun _ _ less greater => absurd (String.lt_trans less greater) (String.lt_irrefl _)⟩
  refine List.Pairwise.eq_of_mem_iff (ascending_ofList distinct') (ascending_ofList distinct) ?_
  intro member
  rw [mem_ofList distinct', mem_ofList distinct, perm.mem_iff]

end Members

/-! ## Documents in another order -/

namespace Node

/-- The names of the members of each object in a document are distinct, as far as they are texts. -/
def DistinctNames (node : Node) : Prop :=
  ∀ members, (Node.object members).Occurs node → (members.filterMap (·.1)).Nodup

/-- The documents differ in the order of members only, at any depth. -/
inductive Reordered : Node → Node → Prop
  | same (node : Node) : Reordered node node
  | array {items others : List Node} (pairs : List (Node × Node))
      (before : items = pairs.map (·.1)) (after : others = pairs.map (·.2))
      (each : ∀ pair ∈ pairs, Reordered pair.1 pair.2) :
      Reordered (.array items) (.array others)
  | object {members others : List (Option String × Node)}
      (parts : List (Option String × Node × Node))
      (before : members = parts.map fun part => (part.1, part.2.1))
      (after : others.Perm (parts.map fun part => (part.1, part.2.2)))
      (each : ∀ part ∈ parts, Reordered part.2.1 part.2.2) :
      Reordered (.object members) (.object others)

theorem DistinctNames.item {items : List Node} (distinct : (Node.array items).DistinctNames)
    {item : Node} (listed : item ∈ items) : item.DistinctNames :=
  fun members occurs => distinct members (.item listed occurs)

theorem DistinctNames.member {members : List (Option String × Node)}
    (distinct : (Node.object members).DistinctNames) {member : Option String × Node}
    (listed : member ∈ members) : member.2.DistinctNames :=
  fun inner occurs => distinct inner (.member listed occurs)

theorem distinctNames_of_not_compound {node : Node} (noArray : ∀ items, node ≠ .array items)
    (noObject : ∀ members, node ≠ .object members) : node.DistinctNames := by
  intro members occurs
  cases occurs with
  | self => exact absurd rfl (noObject members)
  | item => exact absurd rfl (noArray _)
  | member => exact absurd rfl (noObject _)

theorem distinctNames_array_iff {items : List Node} :
    (Node.array items).DistinctNames ↔ ∀ item ∈ items, item.DistinctNames := by
  refine ⟨fun distinct item => distinct.item, fun each members occurs => ?_⟩
  cases occurs with
  | item listed inside => exact each _ listed members inside

theorem distinctNames_object_iff {members : List (Option String × Node)} :
    (Node.object members).DistinctNames ↔
      (members.filterMap (·.1)).Nodup ∧ ∀ member ∈ members, member.2.DistinctNames := by
  refine ⟨fun distinct => ⟨distinct _ .self, fun member => distinct.member⟩, ?_⟩
  rintro ⟨names, each⟩ inner occurs
  cases occurs with
  | self => exact names
  | member listed inside => exact each _ listed inner inside

/-- A member with its value, if its name is a text. -/
def memberValue? (levels : Nat) (member : Option String × Node) : Option (String × Value) := do
  let name ← member.1
  let value ← value? levels member.2
  return (name, value)

theorem value?_object (levels : Nat) (members : List (Option String × Node)) :
    value? (levels + 1) (.object members) =
      ((members.mapM (memberValue? levels)).map Members.ofList).map .object := by
  rw [Option.map_map]
  rfl

theorem memberValue?_eq_some_iff {levels : Nat} {member : Option String × Node}
    {named : String × Value} :
    memberValue? levels member = some named ↔
      member.1 = some named.1 ∧ value? levels member.2 = some named.2 := by
  simp only [memberValue?, bind, Option.bind_eq_some_iff, pure, Option.some.injEq]
  constructor
  · rintro ⟨_, name, _, value, rfl⟩
    exact ⟨name, value⟩
  · rintro ⟨name, value⟩
    exact ⟨_, name, _, value, rfl⟩

theorem names_of_mapM_memberValue? {levels : Nat} {members : List (Option String × Node)}
    {named : List (String × Value)} (all : members.mapM (memberValue? levels) = some named) :
    members.filterMap (·.1) = named.map (·.1) := by
  induction mapM_eq_some_iff.mp all with
  | nil => rfl
  | cons first rest ih =>
      simp [(memberValue?_eq_some_iff.mp first).1, ih (mapM_eq_some_iff.mpr rest)]

/-- Members with the same names and values are kept alike in whatever order they come. -/
theorem map_ofList_of_parts {levels : Nat} {others : List (Option String × Node)}
    {parts : List (Option String × Node × Node)} (distinct : (parts.filterMap (·.1)).Nodup)
    (after : others.Perm (parts.map fun part => (part.1, part.2.2)))
    (same : ∀ part ∈ parts, value? levels part.2.2 = value? levels part.2.1) :
    (others.mapM (memberValue? levels)).map Members.ofList =
      ((parts.map fun part => (part.1, part.2.1)).mapM (memberValue? levels)).map
        Members.ofList := by
  rw [map_mapM_of_perm after, List.mapM_map, List.mapM_map]
  · congr 1
    refine mapM_congr_of_mem fun part listed => ?_
    simp only [Function.comp_apply, memberValue?, same part listed]
  · intro results reordered all perm
    refine Members.ofList_of_perm ?_ perm
    rw [← names_of_mapM_memberValue? all]
    simpa [List.filterMap_map, Function.comp_def] using distinct

/-- Documents that differ in the order of members only have the same value. -/
theorem Reordered.value?_eq {node other : Node} (reordered : Reordered node other)
    (distinct : node.DistinctNames) (levels : Nat) : other.value? levels = node.value? levels := by
  induction reordered generalizing levels with
  | same => rfl
  | array pairs before after each ih =>
      subst before after
      cases levels with
      | zero => rfl
      | succ levels =>
          simp only [value?, List.mapM_map]
          congr 1
          exact mapM_congr_of_mem fun pair listed =>
            ih pair listed (distinct.item (List.mem_map_of_mem listed)) levels
  | object parts before after each ih =>
      subst before
      cases levels with
      | zero => rfl
      | succ levels =>
          have names := distinct _ .self
          rw [value?_object, value?_object, map_ofList_of_parts _ after]
          · exact fun part listed =>
              ih part listed (distinct.member (List.mem_map_of_mem listed)) levels
          · simpa [List.filterMap_map, Function.comp_def] using names

end Node

end AuditReports.Json
