import AuditReports.Proofs.Json.Tokens

/-!
# Documents that are read back

A document is written as the tokens of its parts with commas and colons between them and brackets
around them. The tokens determine the document: the machine that reads them hands every part, once
it is read, to the array or object around it, and so it has the parts in the order in which they
were written. Together with the reading of tokens this makes the text of a document another form of
the document, in which nothing is lost.
-/

namespace AuditReports.Json

namespace Node

mutual

/-- The tokens of a document. -/
def tokens : Node → List Token
  | .null => [.null]
  | .boolean value => [.boolean value]
  | .number literal => [.number literal]
  | .string text => [.string text]
  | .array items => .openArray :: (itemsTokens items ++ [.closeArray])
  | .object members => .openObject :: (membersTokens members ++ [.closeObject])

def itemsTokens : List Node → List Token
  | [] => []
  | [item] => tokens item
  | item :: rest => tokens item ++ .comma :: itemsTokens rest

def membersTokens : List (Option String × Node) → List Token
  | [] => []
  | [(name, node)] => .string name :: .colon :: tokens node
  | (name, node) :: rest => .string name :: .colon :: tokens node ++ .comma :: membersTokens rest

end

/-- All strings of a document are texts, and fractions are written in decimal digits. -/
inductive Legible : Node → Prop
  | null : Legible .null
  | boolean (value : Bool) : Legible (.boolean value)
  | number {literal : Literal} (decimal : ∀ digit ∈ literal.fraction, digit < 10) :
      Legible (.number literal)
  | string (text : String) : Legible (.string (some text))
  | array {items : List Node} (each : ∀ item ∈ items, Legible item) : Legible (.array items)
  | object {members : List (Option String × Node)}
      (named : ∀ member ∈ members, member.1.isSome = true)
      (each : ∀ member ∈ members, Legible member.2) : Legible (.object members)

/-- A part of a document, or all of it. -/
inductive Occurs (part : Node) : Node → Prop
  | self : Occurs part part
  | item {items : List Node} {item : Node} (listed : item ∈ items) (inside : Occurs part item) :
      Occurs part (.array items)
  | member {members : List (Option String × Node)} {member : Option String × Node}
      (listed : member ∈ members) (inside : Occurs part member.2) : Occurs part (.object members)

theorem Legible.ofText (text : String) : (Node.ofText text).Legible :=
  .string text

theorem Legible.ofInt (value : Int) : (Node.ofInt value).Legible :=
  .number fun _ listed => by cases listed

theorem Legible.ofOption {α : Type} {encode : α → Node} (each : ∀ content, (encode content).Legible)
    (value : Option α) : (Node.ofOption encode value).Legible := by
  cases value with
  | none => exact .null
  | some content => exact each content

theorem Legible.ofMembers {members : List (String × Node)}
    (each : ∀ member ∈ members, member.2.Legible) : (ofMembers members).Legible := by
  refine .object ?_ ?_
  · intro member listed
    rcases List.mem_map.mp listed with ⟨_, _, rfl⟩
    rfl
  · intro member listed
    rcases List.mem_map.mp listed with ⟨other, inside, rfl⟩
    exact each other inside

theorem Occurs.ofMembers {part : Node} {members : List (String × Node)}
    (occurs : part.Occurs (ofMembers members)) (proper : part ≠ ofMembers members) :
    ∃ member ∈ members, part.Occurs member.2 := by
  cases occurs with
  | self => exact absurd rfl proper
  | member listed inside =>
      rcases List.mem_map.mp listed with ⟨member, named, rfl⟩
      exact ⟨member, named, inside⟩

end Node

open Node Token

/-! ## From the text to the tokens -/

theorem reads_comma (rest : List Char) : Reads [','] rest [.comma] :=
  Spells.reads ⟨',', [], rfl, rfl, rfl⟩

theorem ends_of_mem {next : Char} (separates : next ∈ [',', ']', '\x7d']) (rest : List Char) :
    Ends (next :: rest) := by
  rintro _ ⟨⟩
  exact separates

theorem reads_itemsText {items : List Node}
    (each : ∀ item ∈ items, ∀ rest, Ends rest → Reads item.text.toList rest item.tokens)
    {rest : List Char} (ends : Ends rest) :
    Reads (itemsText items).toList rest (itemsTokens items) := by
  induction items with
  | nil => exact .nil rest
  | cons item items ih =>
      have first := each item List.mem_cons_self
      have later := ih fun other listed => each other (List.mem_cons_of_mem _ listed)
      cases items with
      | nil => exact first rest ends
      | cons next items =>
          have more : next :: items ≠ [] := List.cons_ne_nil _ _
          rw [itemsText, itemsTokens, String.toList_append, String.toList_append, List.append_assoc]
          · exact .append (first _ (ends_of_mem (by decide) _)) ((reads_comma _).append later)
          · exact more
          · exact more

theorem reads_member (name : String) {node : Node} {rest : List Char}
    (reads : Reads node.text.toList rest node.tokens) :
    Reads (Printer.quoted name ++ ":" ++ node.text).toList rest
      (.string (some name) :: .colon :: node.tokens) := by
  have colon : Reads [':'] (node.text.toList ++ rest) [.colon] :=
    Spells.reads ⟨':', [], rfl, rfl, rfl⟩
  rw [String.toList_append, String.toList_append, List.append_assoc]
  exact .append (spells_string name _).reads (colon.append reads)

theorem reads_membersText {members : List (Option String × Node)}
    (named : ∀ member ∈ members, member.1.isSome = true)
    (each : ∀ member ∈ members, ∀ rest, Ends rest →
      Reads member.2.text.toList rest member.2.tokens)
    {rest : List Char} (ends : Ends rest) :
    Reads (membersText members).toList rest (membersTokens members) := by
  induction members with
  | nil => exact .nil rest
  | cons member members ih =>
      rcases member with ⟨_ | name, node⟩
      · cases named _ List.mem_cons_self
      have first := each (some name, node) List.mem_cons_self
      have later := ih (fun other listed => named other (List.mem_cons_of_mem _ listed))
        fun other listed => each other (List.mem_cons_of_mem _ listed)
      cases members with
      | nil => exact reads_member name (first rest ends)
      | cons next members =>
          have more : next :: members ≠ [] := List.cons_ne_nil _ _
          rw [membersText, membersTokens, String.toList_append, String.toList_append,
            List.append_assoc]
          · exact .append (reads_member name (first _ (ends_of_mem (by decide) _)))
              ((reads_comma _).append later)
          · exact more
          · exact more

/-- The text of a document is read as its tokens. -/
theorem Node.Legible.reads {node : Node} (legible : node.Legible) :
    ∀ rest, Ends rest → Reads node.text.toList rest node.tokens := by
  induction legible with
  | null => exact fun rest _ => Spells.reads ⟨'n', ['u', 'l', 'l'], rfl, rfl, rfl⟩
  | boolean value =>
      intro rest _
      cases value with
      | true => exact Spells.reads ⟨'t', ['r', 'u', 'e'], rfl, rfl, rfl⟩
      | false => exact Spells.reads ⟨'f', ['a', 'l', 's', 'e'], rfl, rfl, rfl⟩
  | number decimal => exact fun rest ends => (spells_number decimal ends).reads
  | string text => exact fun rest _ => (spells_string text rest).reads
  | @array items _ ih =>
      intro rest _
      have opens : Reads ['['] ((itemsText items).toList ++ [']'] ++ rest) [.openArray] :=
        Spells.reads ⟨'[', [], rfl, rfl, rfl⟩
      have closes : Reads [']'] rest [.closeArray] := Spells.reads ⟨']', [], rfl, rfl, rfl⟩
      rw [text, String.toList_append, String.toList_append, List.append_assoc]
      exact opens.append ((reads_itemsText ih (ends_of_mem (by decide) _)).append closes)
  | @object members named _ ih =>
      intro rest _
      have opens : Reads ['\x7b'] ((membersText members).toList ++ ['\x7d'] ++ rest)
          [.openObject] := Spells.reads ⟨'\x7b', [], rfl, rfl, rfl⟩
      have closes : Reads ['\x7d'] rest [.closeObject] :=
        Spells.reads ⟨'\x7d', [], rfl, rfl, rfl⟩
      rw [text, String.toList_append, String.toList_append, List.append_assoc]
      exact opens.append ((reads_membersText named ih (ends_of_mem (by decide) _)).append closes)

/-! ## From the tokens to the document -/

namespace Reader

theorem run_append (state : State) (first second : List Token) :
    run state (first ++ second) = (run state first).bind (run · second) := by
  induction first generalizing state with
  | nil => rfl
  | cons token first ih =>
      rw [List.cons_append, run, run]
      cases step state token with
      | none => rfl
      | some next => exact ih next

theorem run_singleton (state : State) (token : Token) : run state [token] = step state token := by
  rw [run]
  cases step state token <;> rfl

/-- Reading a value hands it to what it stands in. -/
def Supplies (node : Node) : Prop :=
  ∀ stack, run ⟨stack, .value⟩ node.tokens = supply stack node

/-- A value does not begin with a closing bracket. -/
theorem run_valueOrEnd (stack : List Frame) (node : Node) :
    run ⟨stack, .valueOrEnd⟩ node.tokens = run ⟨stack, .value⟩ node.tokens := by
  cases node <;> rfl

theorem run_itemsTokens {items : List Node} (each : ∀ item ∈ items, Supplies item)
    (nonempty : items ≠ []) (before : List Node) (stack : List Frame) :
    run ⟨.array before :: stack, .value⟩ (itemsTokens items ++ [.closeArray]) =
      supply stack (.array (before.reverse ++ items)) := by
  induction items generalizing before with
  | nil => exact absurd rfl nonempty
  | cons item items ih =>
      have first : run ⟨.array before :: stack, .value⟩ item.tokens =
          some ⟨.array (item :: before) :: stack, .commaOrEnd⟩ :=
        each item List.mem_cons_self (.array before :: stack)
      cases items with
      | nil =>
          rw [itemsTokens, run_append, first, Option.bind_some, run_singleton, ← List.reverse_cons]
          rfl
      | cons next items =>
          have more : next :: items ≠ [] := List.cons_ne_nil _ _
          have later := ih (fun other listed => each other (List.mem_cons_of_mem _ listed)) more
            (item :: before)
          rw [itemsTokens, List.append_assoc, run_append, first, Option.bind_some]
          · rw [List.reverse_cons, List.append_assoc] at later
            exact later
          · exact more

theorem run_membersTokens {members : List (Option String × Node)}
    (each : ∀ member ∈ members, Supplies member.2) (nonempty : members ≠ [])
    (before : List (Option String × Node)) (stack : List Frame) :
    run ⟨.object before :: stack, .name⟩ (membersTokens members ++ [.closeObject]) =
      supply stack (.object (before.reverse ++ members)) := by
  induction members generalizing before with
  | nil => exact absurd rfl nonempty
  | cons member members ih =>
      rcases member with ⟨name, node⟩
      have first : run ⟨.object before :: stack, .name⟩ (.string name :: .colon :: node.tokens) =
          some ⟨.object ((name, node) :: before) :: stack, .commaOrEnd⟩ :=
        each (name, node) List.mem_cons_self (.member before name :: stack)
      cases members with
      | nil =>
          rw [membersTokens, run_append, first, Option.bind_some, run_singleton,
            ← List.reverse_cons]
          rfl
      | cons next members =>
          have more : next :: members ≠ [] := List.cons_ne_nil _ _
          have later := ih (fun other listed => each other (List.mem_cons_of_mem _ listed)) more
            ((name, node) :: before)
          rw [membersTokens, List.append_assoc, run_append, first, Option.bind_some]
          · rw [List.reverse_cons, List.append_assoc] at later
            exact later
          · exact more

/-- What stands first in an array is read as what stands later. -/
theorem run_itemsTokens_valueOrEnd (stack : List Frame) {items : List Node} (nonempty : items ≠ [])
    (rest : List Token) :
    run ⟨stack, .valueOrEnd⟩ (itemsTokens items ++ rest) =
      run ⟨stack, .value⟩ (itemsTokens items ++ rest) := by
  match items with
  | [item] => rw [itemsTokens, run_append, run_append, run_valueOrEnd]
  | item :: next :: later =>
      rw [itemsTokens, List.append_assoc, run_append, run_append ⟨stack, .value⟩, run_valueOrEnd]
      exact List.cons_ne_nil _ _

/-- The tokens of a document are put together to the document. -/
theorem supplies_of_legible {node : Node} (legible : node.Legible) : Supplies node := by
  induction legible with
  | null => exact fun stack => run_singleton _ _
  | boolean value => exact fun stack => run_singleton _ _
  | number decimal => exact fun stack => run_singleton _ _
  | string text => exact fun stack => run_singleton _ _
  | @array items _ ih =>
      intro stack
      have opened : run ⟨stack, .value⟩ (Node.array items).tokens =
          run ⟨.array [] :: stack, .valueOrEnd⟩ (itemsTokens items ++ [.closeArray]) := rfl
      rw [opened]
      cases items with
      | nil => exact run_singleton _ _
      | cons item items =>
          have nonempty : item :: items ≠ [] := List.cons_ne_nil _ _
          rw [run_itemsTokens_valueOrEnd _ nonempty]
          exact run_itemsTokens ih nonempty [] stack
  | @object members _ _ ih =>
      intro stack
      have opened : run ⟨stack, .value⟩ (Node.object members).tokens =
          run ⟨.object [] :: stack, .nameOrEnd⟩ (membersTokens members ++ [.closeObject]) := rfl
      rw [opened]
      match members with
      | [] => exact run_singleton _ _
      | (name, node) :: later =>
          have named : run ⟨.object [] :: stack, .nameOrEnd⟩
              (membersTokens ((name, node) :: later) ++ [.closeObject]) =
              run ⟨.object [] :: stack, .name⟩
                (membersTokens ((name, node) :: later) ++ [.closeObject]) := by
            cases later <;> rfl
          rw [named]
          exact run_membersTokens ih (List.cons_ne_nil _ _) [] stack

end Reader

/-- The text of a document is read as the document. -/
theorem Node.parse?_text {node : Node} (legible : node.Legible) :
    parse? node.text = some node := by
  have read : Token.scan? node.text.toList = some node.tokens :=
    (legible.reads [] fun _ begins => by cases begins).scan?
  rw [parse?, read, Option.bind_some, ofTokens?, Reader.supplies_of_legible legible []]
  rfl

end AuditReports.Json
