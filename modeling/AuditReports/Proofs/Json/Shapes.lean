import AuditReports.Proofs.Json.Records
import AuditReports.Proofs.Json.Values

/-!
# Shapes of records

What is declared of a record has a shape: which fields there are, of what shape each of them is, and
whether the record collects the other members. For a reader that knows the shape of a document, the
order of members does not count at any depth, and neither do members that are not declared, unless
they are collected. This is shown by going down the shape once. A reader of a single value finds
nothing in an array or an object, so it cannot tell such documents apart; a record hands the
difference on to the readers of its fields; and what is collected is a value, which does not depend
on the order of members.
-/

namespace AuditReports.Json

/-- What is declared of the form of a document. -/
inductive Shape where
  | plain
  | list (item : Shape)
  | record (collects : Bool) (declared : List String) (inner : String → Shape)

/-- The shape of a member of a record. -/
def Shape.member (declared : List String) (inner : String → Shape) : Option String → Shape
  | some name => if name ∈ declared then inner name else .plain
  | none => .plain

namespace Node

/-- For a shape, one document is as good as another: the order of members may be another one at any
depth, and a record of the shape that collects nothing may have further members. -/
inductive Alike : Shape → Node → Node → Prop
  | reordered {shape : Shape} {node other : Node} (reordered : Reordered node other) :
      Alike shape node other
  | list {shape : Shape} {items others : List Node} (pairs : List (Node × Node))
      (before : items = pairs.map (·.1)) (after : others = pairs.map (·.2))
      (each : ∀ pair ∈ pairs, Alike shape pair.1 pair.2) :
      Alike (.list shape) (.array items) (.array others)
  | record {collects : Bool} {declared : List String} {inner : String → Shape}
      {members others : List (Option String × Node)}
      (parts : List (Option String × Node × Node)) (added : List (String × Node))
      (before : members = parts.map fun part => (part.1, part.2.1))
      (after : others.Perm ((parts.map fun part => (part.1, part.2.2)) ++
        added.map fun member => (some member.1, member.2)))
      (undeclared : ∀ member ∈ added, member.1 ∉ declared)
      (uncollected : collects = true → added = [])
      (each : ∀ part ∈ parts, Alike (.member declared inner part.1) part.2.1 part.2.2) :
      Alike (.record collects declared inner) (.object members) (.object others)

/-- An array or an object. -/
def IsCompound : Node → Prop
  | .array _ => True
  | .object _ => True
  | _ => False

theorem Reordered.isCompound {node other : Node} (reordered : Reordered node other) :
    other = node ∨ node.IsCompound ∧ other.IsCompound := by
  cases reordered with
  | same => exact Or.inl rfl
  | array => exact Or.inr ⟨trivial, trivial⟩
  | object => exact Or.inr ⟨trivial, trivial⟩

theorem Alike.isCompound {shape : Shape} {node other : Node} (alike : Alike shape node other) :
    other = node ∨ node.IsCompound ∧ other.IsCompound := by
  cases alike with
  | reordered reordered => exact reordered.isCompound
  | list => exact Or.inr ⟨trivial, trivial⟩
  | record => exact Or.inr ⟨trivial, trivial⟩

theorem Reordered.array_inv {items : List Node} {other : Node}
    (reordered : Reordered (.array items) other) :
    ∃ pairs : List (Node × Node), items = pairs.map (·.1) ∧ other = .array (pairs.map (·.2)) ∧
      ∀ pair ∈ pairs, Reordered pair.1 pair.2 := by
  cases reordered with
  | same =>
      refine ⟨items.map fun item => (item, item), by simp [Function.comp_def],
        by simp [Function.comp_def], ?_⟩
      simpa using fun item _ => .same item
  | array pairs before after each => exact ⟨pairs, before, after ▸ rfl, each⟩

theorem Alike.array_inv {shape : Shape} {items : List Node} {other : Node}
    (alike : Alike (.list shape) (.array items) other) :
    ∃ pairs : List (Node × Node), items = pairs.map (·.1) ∧ other = .array (pairs.map (·.2)) ∧
      ∀ pair ∈ pairs, Alike shape pair.1 pair.2 := by
  cases alike with
  | reordered reordered =>
      rcases reordered.array_inv with ⟨pairs, before, after, each⟩
      exact ⟨pairs, before, after, fun pair listed => .reordered (each pair listed)⟩
  | list pairs before after each => exact ⟨pairs, before, after ▸ rfl, each⟩

theorem Alike.plain_inv {node other : Node} (alike : Alike .plain node other) :
    Reordered node other := by
  cases alike with
  | reordered reordered => exact reordered

/-- Each member of a record has a counterpart in another record, in which there may be others. -/
structure Counterparts (collects : Bool) (declared : List String) (inner : String → Shape)
    (members others : List (Option String × Node)) (parts : List (Option String × Node × Node))
    (added : List (String × Node)) : Prop where
  before : members = parts.map fun part => (part.1, part.2.1)
  after : others.Perm ((parts.map fun part => (part.1, part.2.2)) ++
    added.map fun member => (some member.1, member.2))
  undeclared : ∀ member ∈ added, member.1 ∉ declared
  uncollected : collects = true → added = []
  each : ∀ part ∈ parts, Alike (.member declared inner part.1) part.2.1 part.2.2

theorem Alike.object_inv {collects : Bool} {declared : List String} {inner : String → Shape}
    {members : List (Option String × Node)} {other : Node}
    (alike : Alike (.record collects declared inner) (.object members) other) :
    ∃ others parts added, other = .object others ∧
      Counterparts collects declared inner members others parts added := by
  cases alike with
  | reordered reordered =>
      cases reordered with
      | same =>
          refine ⟨members, members.map fun member => (member.1, member.2, member.2), [], rfl,
            by simp [Function.comp_def], by simp [Function.comp_def], by simp, fun _ => rfl, ?_⟩
          intro part listed
          rcases List.mem_map.mp listed with ⟨member, _, rfl⟩
          exact .reordered (.same member.2)
      | object parts before after each =>
          exact ⟨_, parts, [], rfl, before, by simpa using after, by simp, fun _ => rfl,
            fun part listed => .reordered (each part listed)⟩
  | record parts added before after undeclared uncollected each =>
      exact ⟨_, parts, added, rfl, before, after, undeclared, uncollected, each⟩

end Node

open Node

/-! ## Readers of a shape -/

namespace Shape

variable {α : Type} {shape : Shape} {read : Node → Option α}

/-- A reader of a shape reads documents that are alike for the shape alike. -/
def ReadBy (shape : Shape) (read : Node → Option α) : Prop :=
  ∀ node other, node.DistinctNames → Alike shape node other → read other = read node

/-- Arrays and objects are nothing for a reader of single values. -/
theorem ReadBy.of_single (single : ∀ node : Node, node.IsCompound → read node = none) :
    shape.ReadBy read := by
  intro node other _ alike
  rcases alike.isCompound with rfl | ⟨before, after⟩
  · rfl
  · rw [single node before, single other after]

theorem ReadBy.text? : shape.ReadBy Node.text? :=
  .of_single fun node compound => by cases node <;> trivial

theorem ReadBy.boolean? : shape.ReadBy Node.boolean? :=
  .of_single fun node compound => by cases node <;> trivial

theorem ReadBy.integer? : shape.ReadBy Node.integer? :=
  .of_single fun node compound => by cases node <;> trivial

theorem ReadBy.count? : shape.ReadBy Node.count? :=
  .of_single fun node compound => by cases node <;> trivial

theorem ReadBy.size? : shape.ReadBy Node.size? :=
  .of_single fun node compound => by cases node <;> trivial

theorem ReadBy.map {β : Type} (reads : shape.ReadBy read) (convert : α → β) :
    shape.ReadBy fun node => (read node).map convert :=
  fun node other distinct alike => congrArg (Option.map convert) (reads node other distinct alike)

theorem ReadBy.value? (levels : Nat) : Shape.plain.ReadBy (Node.value? levels) :=
  fun _ _ distinct alike => alike.plain_inv.value?_eq distinct levels

theorem ReadBy.list? (reads : shape.ReadBy read) : (Shape.list shape).ReadBy (Node.list? read) := by
  intro node other distinct alike
  cases node with
  | array items =>
      rcases alike.array_inv with ⟨pairs, rfl, rfl, each⟩
      simp only [Node.list?, List.mapM_map]
      exact mapM_congr_of_mem fun pair listed =>
        reads _ _ (distinct.item (List.mem_map_of_mem listed)) (each pair listed)
  | _ =>
      cases alike with
      | reordered reordered => cases reordered <;> rfl

end Shape

/-! ## Fields -/

/-- A field is missing from both of two records, or what stands in the one is as good as what stands
in the other. -/
def Shape.Matches (shape : Shape) (field other : Option Node) : Prop :=
  Option.Rel (fun node other => node.DistinctNames ∧ Alike shape node other) field other

namespace Fields

variable {α : Type} {declared : List String} {inner : String → Shape} {fields others : Fields}
  {read : Node → Option α}

/-- The declared fields are alike, each for its shape. -/
def Agree (declared : List String) (inner : String → Shape) (fields others : Fields) : Prop :=
  ∀ name ∈ declared, (inner name).Matches (fields name) (others name)

theorem Agree.required (agree : Agree declared inner fields others) (name : String)
    (reads : (inner name).ReadBy read) (isDeclared : name ∈ declared) :
    others.required name read = fields.required name read := by
  have field := agree name isDeclared
  rw [Fields.required, Fields.required]
  generalize fields name = before, others name = after at field ⊢
  cases field with
  | none => rfl
  | some alike => exact reads _ _ alike.1 alike.2

theorem Agree.defaulted (agree : Agree declared inner fields others) (name : String)
    {default : α} (reads : (inner name).ReadBy read) (isDeclared : name ∈ declared) :
    others.defaulted name default read = fields.defaulted name default read := by
  have field := agree name isDeclared
  rw [Fields.defaulted, Fields.defaulted]
  generalize fields name = before, others name = after at field ⊢
  cases field with
  | none => rfl
  | some alike => exact reads _ _ alike.1 alike.2

theorem Agree.optional (agree : Agree declared inner fields others) (name : String)
    (reads : (inner name).ReadBy read) (isDeclared : name ∈ declared) :
    others.optional name read = fields.optional name read := by
  have field := agree name isDeclared
  rw [Fields.optional, Fields.optional]
  generalize fields name = before, others name = after at field ⊢
  cases field with
  | none => rfl
  | @some node other alike =>
      have same := reads _ _ alike.1 alike.2
      -- Only what is not an array or an object can be null, and then both documents are.
      rcases alike.2.isCompound with rfl | ⟨before, after⟩
      · rfl
      · cases node <;> cases other <;> simp_all [IsCompound]

end Fields

/-! ## Records -/

namespace Record

/-- The name is not a declared one. -/
def isFurther (declared : List String) (name : Option String) : Bool :=
  name.all fun name => !declared.contains name

theorem member_of_isFurther {declared : List String} {inner : String → Shape}
    {name : Option String} (further : isFurther declared name = true) :
    Shape.member declared inner name = .plain := by
  cases name with
  | none => rfl
  | some name => simp_all [isFurther, Shape.member]

variable {members : List (Option String × Node)} {named : List (String × Node)} {name : String}

theorem countP_of_named? (all : named? members = some named) (name : String) :
    named.countP (·.1 == name) = members.countP (·.1 == some name) := by
  rw [named?_eq_some_iff.mp all, List.countP_map]
  simp [Function.comp_def]

theorem named?_isSome_iff : (named? members).isSome ↔ ∀ member ∈ members, member.1.isSome := by
  constructor
  · intro isSome
    rcases Option.isSome_iff_exists.mp isSome with ⟨named, all⟩
    rw [named?_eq_some_iff.mp all, List.forall_mem_map]
    exact fun _ _ => rfl
  · intro texts
    induction members with
    | nil => rfl
    | cons member members ih =>
        rcases List.forall_mem_cons.mp texts with ⟨text, texts⟩
        rcases Option.isSome_iff_exists.mp (ih texts) with ⟨rest, all⟩
        rcases member with ⟨_ | name, node⟩
        · cases text
        · exact Option.isSome_iff_exists.mpr ⟨(name, node) :: rest, named?_eq_some_iff.mpr
            (congrArg (_ :: ·) (named?_eq_some_iff.mp all))⟩

end Record

namespace Node.Counterparts

open Record

variable {collects : Bool} {declared : List String} {inner : String → Shape}
  {members others : List (Option String × Node)} {parts : List (Option String × Node × Node)}
  {added : List (String × Node)} {named named' : List (String × Node)} {name : String}

theorem isSome_named?
    (counterparts : Counterparts collects declared inner members others parts added) :
    (named? others).isSome ↔ (named? members).isSome := by
  rw [named?_isSome_iff, named?_isSome_iff, counterparts.before]
  simp only [counterparts.after.mem_iff, List.forall_mem_append, List.forall_mem_map,
    Option.isSome_some, implies_true, and_true]

theorem countP_declared
    (counterparts : Counterparts collects declared inner members others parts added)
    (isDeclared : name ∈ declared) :
    others.countP (·.1 == some name) = members.countP (·.1 == some name) := by
  have none : added.countP (·.1 == name) = 0 := by
    refine List.countP_eq_zero.mpr fun member listed same => ?_
    exact counterparts.undeclared member listed (beq_iff_eq.mp same ▸ isDeclared)
  rw [counterparts.after.countP_eq, counterparts.before]
  simpa [List.countP_map, Function.comp_def] using none

theorem mem_declared
    (counterparts : Counterparts collects declared inner members others parts added)
    (isDeclared : name ∈ declared) {other : Node} :
    (some name, other) ∈ others ↔ ∃ node, (some name, node, other) ∈ parts := by
  have undeclared : (some name, other) ∉ added.map fun member => (some member.1, member.2) := by
    intro listed
    rcases List.mem_map.mp listed with ⟨member, among, same⟩
    cases same
    exact counterparts.undeclared member among isDeclared
  rw [counterparts.after.mem_iff, List.mem_append, or_iff_left undeclared]
  simp

theorem distinct_eq (counterparts : Counterparts collects declared inner members others parts added)
    (all : named? members = some named) (all' : named? others = some named') :
    distinct declared named' = distinct declared named := by
  refine Bool.eq_iff_iff.mpr ?_
  simp only [distinct, List.all_eq_true]
  refine forall₂_congr fun name isDeclared => ?_
  rw [countP_of_named? all, countP_of_named? all', counterparts.countP_declared isDeclared]

theorem agree (counterparts : Counterparts collects declared inner members others parts added)
    (distinctNames : (Node.object members).DistinctNames)
    (all : named? members = some named) (all' : named? others = some named')
    (once : distinct declared named = true) :
    Fields.Agree declared inner (lookup named) (lookup named') := by
  intro name isDeclared
  have once' := (counterparts.distinct_eq all all').trans once
  have found : ∀ node, lookup named name = some node ↔
      ∃ other, (some name, node, other) ∈ parts := by
    intro node
    rw [lookup_eq_some_iff_mem once isDeclared, mem_of_named? all, counterparts.before]
    simp
  have found' : ∀ other, lookup named' name = some other ↔
      ∃ node, (some name, node, other) ∈ parts := by
    intro other
    rw [lookup_eq_some_iff_mem once' isDeclared, mem_of_named? all',
      counterparts.mem_declared isDeclared]
  rcases field : lookup named name with _ | node
  · rcases field' : lookup named' name with _ | other
    · exact .none
    · rcases (found' other).mp field' with ⟨node, listed⟩
      have field' := (found node).mpr ⟨other, listed⟩
      rw [field] at field'
      cases field'
  · rcases (found node).mp field with ⟨other, listed⟩
    rw [(found' other).mpr ⟨node, listed⟩]
    have alike := counterparts.each _ listed
    rw [Shape.member, if_pos isDeclared] at alike
    have member : (some name, node) ∈ members := by
      rw [counterparts.before]
      exact List.mem_map_of_mem listed
    exact .some ⟨distinctNames.member member, alike⟩

/-- What the one object collects, the other collects too. -/
theorem collected_eq {levels : Nat}
    (counterparts : Counterparts true declared inner members others parts added)
    (distinctNames : (Node.object members).DistinctNames) :
    ((others.filter fun member => isFurther declared member.1).mapM (memberValue? levels)).map
        Members.ofList =
      ((members.filter fun member => isFurther declared member.1).mapM (memberValue? levels)).map
        Members.ofList := by
  have names := distinctNames _ .self
  rcases counterparts with ⟨rfl, after, _, uncollected, each⟩
  rw [uncollected rfl, List.map_nil, List.append_nil] at after
  have kept := after.filter fun member => isFurther declared member.1
  simp only [List.filter_map, Function.comp_def] at kept ⊢
  refine map_ofList_of_parts ?_ kept ?_
  · refine List.Nodup.sublist ((List.filter_sublist ..).filterMap _) ?_
    simpa [List.filterMap_map, Function.comp_def] using names
  · intro part listed
    rcases List.mem_filter.mp listed with ⟨listed, further⟩
    have alike := each part listed
    rw [member_of_isFurther further] at alike
    exact alike.plain_inv.value?_eq (distinctNames.member (List.mem_map_of_mem listed)) levels

end Node.Counterparts

namespace Record

variable {declared : List String} {inner : String → Shape} {node other : Node}

/-- A record written as an array has its fields in their declared places. -/
theorem agree_of_pairs {pairs : List (Node × Node)}
    (distinctNames : ∀ pair ∈ pairs, pair.1.DistinctNames)
    (each : ∀ pair ∈ pairs, Reordered pair.1 pair.2) :
    Fields.Agree declared inner (lookup (declared.zip (pairs.map (·.1))))
      (lookup (declared.zip (pairs.map (·.2)))) := by
  intro name _
  simp only [lookup, List.zip_map_right, List.find?_map, Option.map_map, Function.comp_def,
    Prod.map_fst, Prod.map_snd, id_eq]
  rcases found : (declared.zip pairs).find? (·.1 == name) with _ | ⟨_, pair⟩
  · rw [found]
    exact .none
  · rw [found]
    have listed := (List.of_mem_zip (List.mem_of_find?_eq_some found)).2
    exact .some ⟨distinctNames pair listed, .reordered (each pair listed)⟩

/-- The fields of a record that collects nothing agree with those of a record that is alike. -/
theorem fields?_agree {collects : Bool} (distinctNames : node.DistinctNames)
    (alike : Alike (.record collects declared inner) node other) :
    Option.Rel (Fields.Agree declared inner) (fields? declared node) (fields? declared other) := by
  cases node with
  | object members =>
      rcases alike.object_inv with ⟨others, parts, added, rfl, counterparts⟩
      have together := counterparts.isSome_named?
      rcases all : named? members with _ | named <;> rcases all' : named? others with _ | named'
      · simp [fields?, all, all']
      · simp [all, all'] at together
      · simp [all, all'] at together
      · have same := counterparts.distinct_eq all all'
        simp only [fields?, all, all', bind, Option.bind_some, same]
        by_cases once : distinct declared named = true
        · simpa [once] using counterparts.agree distinctNames all all' once
        · simp [once]
  | array items =>
      cases alike with
      | reordered reordered =>
          rcases reordered.array_inv with ⟨pairs, rfl, rfl, each⟩
          simp only [fields?, List.length_map]
          split_ifs
          · exact .some (agree_of_pairs
              (fun pair listed => distinctNames.item (List.mem_map_of_mem listed)) each)
          · exact .none
  | _ =>
      cases alike with
      | reordered reordered => cases reordered; exact .none

/-- An open record has its fields as any record, and collects the other members. -/
theorem openFields?_object (declared : List String) (levels : Nat)
    (members : List (Option String × Node)) :
    openFields? declared levels (.object members) =
      (fields? declared (.object members)).bind fun fields =>
        (((members.filter fun member => isFurther declared member.1).mapM
          (memberValue? levels)).map Members.ofList).map fun extra => (fields, extra) := by
  rcases all : named? members with _ | named
  · simp [openFields?, fields?, all]
  · have others : (members.filter fun member => isFurther declared member.1).mapM
          (memberValue? levels) =
        (named.filter fun field => !declared.contains field.1).mapM fun field =>
          (field.2.value? levels).map fun value => (field.1, value) := by
      rw [named?_eq_some_iff.mp all, List.filter_map, List.mapM_map]
      refine mapM_congr_of_mem fun member _ => ?_
      cases h : member.2.value? levels <;> simp [memberValue?, h]
    simp only [openFields?, fields?, all, others, bind, Option.bind_some]
    split_ifs
    · simp only [Option.bind_some, Option.bind_assoc, Option.map_eq_bind, Function.comp_def]
    · rfl

theorem openFields?_agree (levels : Nat) (distinctNames : node.DistinctNames)
    (alike : Alike (.record true declared inner) node other) :
    Option.Rel
      (fun before after => Fields.Agree declared inner before.1 after.1 ∧ after.2 = before.2)
      (openFields? declared levels node) (openFields? declared levels other) := by
  cases node with
  | object members =>
      have agree := fields?_agree distinctNames alike
      rcases alike.object_inv with ⟨others, parts, added, rfl, counterparts⟩
      rw [openFields?_object, openFields?_object, counterparts.collected_eq distinctNames]
      generalize fields? declared (.object members) = fields,
        fields? declared (.object others) = fields' at agree ⊢
      cases agree with
      | none => exact .none
      | some agree =>
          simp only [Option.bind_some]
          cases ((members.filter fun member => isFurther declared member.1).mapM
            (memberValue? levels)).map Members.ofList with
          | none => exact .none
          | some extra => exact .some ⟨agree, rfl⟩
  | array items =>
      cases alike with
      | reordered reordered => cases reordered <;> exact .none
  | _ =>
      cases alike with
      | reordered reordered => cases reordered; exact .none

/-- What is collected of the members of an object: those that are not declared, each with its value,
and nothing else. So no member is lost. -/
structure Collects (declared : List String) (levels : Nat) (members : List (Option String × Node))
    (extra : Members) : Prop where
  ascending : extra.Ascending
  mem_iff : ∀ name value, (name, value) ∈ extra ↔ name ∉ declared ∧
    ∃ node, (some name, node) ∈ members ∧ node.value? levels = some value
  complete : ∀ member ∈ members, ∃ name, member.1 = some name ∧
    (name ∈ declared ∨ ∃ value, (name, value) ∈ extra)

theorem mem_filter_isFurther {members : List (Option String × Node)} {name : String} {node : Node} :
    (some name, node) ∈ members.filter (fun member => isFurther declared member.1) ↔
      name ∉ declared ∧ (some name, node) ∈ members := by
  simp [isFurther, and_comm]

theorem object_of_openFields? {levels : Nat} {opened : Fields × Members}
    (found : openFields? declared levels node = some opened) :
    ∃ members, node = .object members := by
  cases node with
  | object members => exact ⟨members, rfl⟩
  | _ => cases found

theorem fields?_of_openFields? {levels : Nat} {fields : Fields} {extra : Members}
    (opened : openFields? declared levels node = some (fields, extra)) :
    fields? declared node = some fields := by
  rcases object_of_openFields? opened with ⟨members, rfl⟩
  rw [openFields?_object] at opened
  rcases Option.bind_eq_some_iff.mp opened with ⟨_, closed, opened⟩
  rcases Option.map_eq_some_iff.mp opened with ⟨_, _, same⟩
  cases same
  exact closed

theorem collects_of_openFields? {levels : Nat} {fields : Fields} {extra : Members}
    (distinctNames : node.DistinctNames)
    (opened : openFields? declared levels node = some (fields, extra)) :
    ∃ members, node = .object members ∧ Collects declared levels members extra := by
  have closed := fields?_of_openFields? opened
  rcases object_of_openFields? opened with ⟨members, rfl⟩
  rw [openFields?_object, closed, Option.bind_some] at opened
  rcases Option.map_eq_some_iff.mp opened with ⟨_, collected, same⟩
  cases same
  rcases Option.map_eq_some_iff.mp collected with ⟨values, all, rfl⟩
  have distinct : (values.map (·.1)).Nodup := by
    rw [← names_of_mapM_memberValue? all]
    exact (distinctNames _ .self).sublist ((List.filter_sublist ..).filterMap _)
  have listed : ∀ name value, (name, value) ∈ values ↔
      ∃ node, (some name, node) ∈ members.filter (fun member => isFurther declared member.1) ∧
        node.value? levels = some value := by
    intro name value
    rw [mem_of_mapM all]
    simp [memberValue?_eq_some_iff, Prod.exists]
  have kept : ∀ name value, (name, value) ∈ Members.ofList values ↔ name ∉ declared ∧
      ∃ node, (some name, node) ∈ members ∧ node.value? levels = some value := by
    intro name value
    rw [Members.mem_ofList distinct, listed]
    simp only [mem_filter_isFurther, and_assoc, exists_and_left]
  refine ⟨members, rfl, Members.ascending_ofList distinct, kept, fun member among => ?_⟩
  rcases fields?_object_eq_some_iff.mp closed with ⟨named, all', _⟩
  rcases member with ⟨_ | name, node⟩
  · simp [named?_eq_some_iff.mp all'] at among
  refine ⟨name, rfl, or_iff_not_imp_left.mpr fun further => ?_⟩
  rcases exists_of_mapM all (mem_filter_isFurther.mpr ⟨further, among⟩) with ⟨_, _, read⟩
  rcases memberValue?_eq_some_iff.mp read with ⟨_, value⟩
  exact ⟨_, (kept name _).mpr ⟨further, node, among, value⟩⟩

end Record

namespace Shape

variable {α : Type} {declared : List String} {inner : String → Shape}

/-- A record is read by a reader of its shape if the readers of its fields are. -/
theorem ReadBy.record {collects : Bool} {body : Fields → Option α}
    (same : ∀ {fields others}, Fields.Agree declared inner fields others →
      body others = body fields) :
    (Shape.record collects declared inner).ReadBy fun node =>
      (Record.fields? declared node).bind body := by
  intro node other distinctNames alike
  have agree := Record.fields?_agree distinctNames alike
  change (Record.fields? declared other).bind body = (Record.fields? declared node).bind body
  generalize Record.fields? declared node = fields, Record.fields? declared other = fields'
    at agree ⊢
  cases agree with
  | none => rfl
  | some agree => exact same agree

theorem ReadBy.openRecord {levels : Nat} {body : Fields × Members → Option α}
    (same : ∀ {fields others}, Fields.Agree declared inner fields others →
      ∀ extra, body (others, extra) = body (fields, extra)) :
    (Shape.record true declared inner).ReadBy fun node =>
      (Record.openFields? declared levels node).bind body := by
  intro node other distinctNames alike
  have agree := Record.openFields?_agree levels distinctNames alike
  change (Record.openFields? declared levels other).bind body =
    (Record.openFields? declared levels node).bind body
  generalize Record.openFields? declared levels node = fields,
    Record.openFields? declared levels other = fields' at agree ⊢
  cases agree with
  | none => rfl
  | @some before after agree =>
      rcases before with ⟨fields, extra⟩
      rcases after with ⟨others, extra'⟩
      rcases agree with ⟨agree, rfl⟩
      exact same agree extra'

end Shape

end AuditReports.Json
