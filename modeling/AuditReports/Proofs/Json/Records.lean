import AuditReports.Json.Record

/-!
# Fields of records

A declared field occurs at most once in a record that is read, so what is found under its name is
what the record has there, wherever it stands. Numbers are read within bounds: what has been read
lies within them, and of what is written that is all that can be read back.
-/

namespace AuditReports.Json

namespace Record

theorem named?_eq_some_iff {members : List (Option String × Node)}
    {named : List (String × Node)} :
    named? members = some named ↔
      members = named.map fun member => (some member.1, member.2) := by
  induction members generalizing named with
  | nil => cases named <;> simp [named?]
  | cons member members ih =>
      rcases member with ⟨_ | name, node⟩
      · cases named <;> simp [named?]
      · have rest : named? ((some name, node) :: members) =
            (named? members).map ((name, node) :: ·) := by
          rw [named?, List.mapM_cons]
          change Option.bind (named? members) _ = _
          cases named? members <;> rfl
        rw [rest, Option.map_eq_some_iff]
        constructor
        · rintro ⟨others, found, rfl⟩
          simp [ih.mp found]
        · intro written
          cases named with
          | nil => cases written
          | cons first others =>
              simp only [List.map_cons, List.cons.injEq, Prod.mk.injEq,
                Option.some.injEq] at written
              rcases written with ⟨⟨rfl, rfl⟩, others⟩
              exact ⟨_, ih.mpr others, rfl⟩

/-- A field that is declared alone has a value if just one member has its name. -/
theorem lookup_eq_some_iff {named : List (String × Node)} {name : String} {node : Node} :
    distinct [name] named = true ∧ lookup named name = some node ↔
      ∃ before after, named = before ++ (name, node) :: after ∧
        ∀ member ∈ before ++ after, member.1 ≠ name := by
  have others : ∀ members : List (String × Node),
      members.countP (·.1 == name) = 0 ↔ ∀ member ∈ members, member.1 ≠ name := by
    intro members
    simp [List.countP_eq_zero]
  have once : distinct [name] named = true ↔ named.countP (·.1 == name) ≤ 1 := by
    simp [distinct]
  rw [once]
  constructor
  · rintro ⟨atMost, found⟩
    rcases Option.map_eq_some_iff.mp found with ⟨⟨first, value⟩, place, rfl⟩
    rcases List.find?_eq_some_iff_append.mp place with ⟨same, before, after, rfl, earlier⟩
    cases beq_iff_eq.mp same
    refine ⟨before, after, rfl, ?_⟩
    rw [List.countP_append, List.countP_cons_of_pos (by simp)] at atMost
    have later := (others after).mp (by omega)
    intro member listed
    rcases List.mem_append.mp listed with listed | listed
    · simpa using earlier member listed
    · exact later member listed
  · rintro ⟨before, after, rfl, distinct⟩
    have early := (others before).mpr fun _ listed => distinct _ (List.mem_append_left _ listed)
    have late := (others after).mpr fun _ listed => distinct _ (List.mem_append_right _ listed)
    constructor
    · rw [List.countP_append, List.countP_cons_of_pos (by simp)]
      omega
    · rw [lookup, List.find?_append]
      have none : before.find? (·.1 == name) = none := by
        simpa using fun _ _ listed => distinct _ (List.mem_append_left _ listed)
      simp [none]

/-- A declared field is found wherever it stands. -/
theorem lookup_eq_some_iff_mem {declared : List String} {named : List (String × Node)}
    (atMostOnce : distinct declared named = true) {name : String} (isDeclared : name ∈ declared)
    {node : Node} : lookup named name = some node ↔ (name, node) ∈ named := by
  have once : distinct [name] named = true := by
    simpa [distinct] using List.all_eq_true.mp atMostOnce name isDeclared
  constructor
  · intro found
    rcases lookup_eq_some_iff.mp ⟨once, found⟩ with ⟨before, after, rfl, _⟩
    simp
  · intro listed
    have some : (lookup named name).isSome = true := by
      simpa [lookup] using ⟨node, listed⟩
    rcases Option.isSome_iff_exists.mp some with ⟨other, found⟩
    rcases lookup_eq_some_iff.mp ⟨once, found⟩ with ⟨before, after, rfl, others⟩
    simp only [List.mem_append, List.mem_cons] at listed others
    rcases listed with early | same | late
    · exact absurd rfl (others _ (Or.inl early))
    · cases same
      exact found
    · exact absurd rfl (others _ (Or.inr late))

theorem fields?_object_eq_some_iff {declared : List String}
    {members : List (Option String × Node)} {fields : Fields} :
    fields? declared (.object members) = some fields ↔
      ∃ named, named? members = some named ∧ distinct declared named = true ∧
        lookup named = fields := by
  simp [fields?, Option.bind_eq_some_iff]

theorem mem_of_named? {members : List (Option String × Node)} {named : List (String × Node)}
    (all : named? members = some named) {name : String} {node : Node} :
    (name, node) ∈ named ↔ (some name, node) ∈ members := by
  simp [named?_eq_some_iff.mp all]

end Record

namespace Fields

variable {α : Type} {fields : Fields} {name : String} {value? : Node → Option α}

theorem optional_text?_eq_some_iff {fields : Fields} {name text : String} :
    fields.optional name Node.text? = some (some text) ↔ fields name = some (.ofText text) := by
  rw [Fields.optional]
  rcases fields name with _ | node
  · simp
  · cases node <;> simp [Node.text?, Node.ofText]

theorem optional_of_ne_null {node : Node} (found : fields name = some node) (set : node ≠ .null) :
    fields.optional name value? = (value? node).map some := by
  rw [optional, found]
  cases node with
  | null => exact absurd rfl set
  | _ => rfl

theorem exists_of_optional {content : α}
    (read : fields.optional name value? = some (some content)) :
    ∃ node, fields name = some node ∧ value? node = some content := by
  rcases found : fields name with _ | node
  · simp [optional, found] at read
  by_cases unset : node = .null
  · simp [optional, found, unset] at read
  · simpa [optional_of_ne_null found unset] using read

/-- What may be unset is read back, whether it is set or not. -/
theorem optional_ofOption {encode : α → Node} {value : Option α}
    (written : fields name = some (.ofOption encode value))
    (set : ∀ content ∈ value, encode content ≠ .null)
    (back : ∀ content ∈ value, value? (encode content) = some content) :
    fields.optional name value? = some value := by
  cases value with
  | none => rw [optional, written, Node.ofOption]
  | some content =>
      rw [optional_of_ne_null written (set content rfl), Node.ofOption, back content rfl]
      rfl

end Fields

/-! ## Numbers -/

theorem Literal.integer?_ofInt (value : Int) : (Literal.ofInt value).integer? = some value := by
  by_cases negative : value < 0
  · have some : (value.natAbs == 0) = false := beq_eq_false_iff_ne.mpr (by omega)
    have back : -(value.natAbs : Int) = value := by omega
    simp only [Literal.ofInt, Literal.integer?, negative, decide_true, some, back,
      List.isEmpty_nil, Option.isSome_none, Bool.not_true, Bool.or_self, Bool.false_eq_true,
      if_false, if_true]
  · have back : (value.natAbs : Int) = value := by omega
    simp only [Literal.ofInt, Literal.integer?, negative, decide_false, back, List.isEmpty_nil,
      Option.isSome_none, Bool.not_true, Bool.or_self, Bool.false_eq_true, if_false]

namespace Node

variable {low high value : Int} {node : Node}

theorem bounds_of_between? (read : node.between? low high = some value) :
    low ≤ value ∧ value ≤ high := by
  cases node with
  | number literal =>
      simp only [between?, Option.bind_eq_some_iff, Option.ite_none_right_eq_some,
        Bool.and_eq_true, decide_eq_true_eq] at read
      rcases read with ⟨_, _, within, ⟨⟩⟩
      exact within
  | _ => cases read

theorem between?_ofInt (within : low ≤ value ∧ value ≤ high) :
    (ofInt value).between? low high = some value := by
  simp [ofInt, between?, Literal.integer?_ofInt, within]

theorem le_of_natural? {limit count : Nat} (read : node.natural? limit = some count) :
    count ≤ limit := by
  rcases Option.map_eq_some_iff.mp read with ⟨value, whole, rfl⟩
  have bounds := bounds_of_between? whole
  omega

theorem natural?_ofInt {limit count : Nat} (within : count ≤ limit) :
    (ofInt count).natural? limit = some count := by
  rw [natural?, between?_ofInt (by omega)]
  simp

end Node

/-! ## What may be unset -/

namespace Fields

variable {fields : Fields} {name : String}

theorem optional_text?_ofOption {content : Option String}
    (written : fields name = some (.ofOption .ofText content)) :
    fields.optional name Node.text? = some content :=
  optional_ofOption written (fun _ _ => Node.noConfusion) fun _ _ => rfl

theorem optional_between?_ofOption {low high : Int} {value : Option Int}
    (written : fields name = some (.ofOption .ofInt value))
    (within : ∀ number ∈ value, low ≤ number ∧ number ≤ high) :
    fields.optional name (Node.between? low high) = some value :=
  optional_ofOption written (fun _ _ => Node.noConfusion) fun number set =>
    Node.between?_ofInt (within number set)

theorem optional_natural?_ofOption {limit : Nat} {value : Option Nat}
    (written : fields name = some (.ofOption (fun count => .ofInt (count : Nat)) value))
    (within : ∀ count ∈ value, count ≤ limit) :
    fields.optional name (Node.natural? limit) = some value :=
  optional_ofOption written (fun _ _ => Node.noConfusion) fun count set =>
    Node.natural?_ofInt (within count set)

end Fields

end AuditReports.Json
