import Mathlib.Data.Bool.AllAny
import AuditReports.Json.Printer
import AuditReports.Json.Reader
import AuditReports.Proofs.Text.Integers

/-!
# Tokens that are read back

A document is written token by token, and every token that is written is read as itself: a string
character by character, since each has an escape of its own or stands for itself, and a number
digit by digit. Only a number has no end of its own. It must be followed by nothing or by a
character that cannot go on with it, and in a document it is.
-/

namespace AuditReports.Json.Token

/-! ## Strings -/

/-- The code of a control character. -/
theorem code?_hexDigit {code : Nat} (control : code < 0x20) :
    code? '0' '0' (Printer.hexDigit (code / 16)) (Printer.hexDigit (code % 16)) = some code := by
  have all : ∀ code < 0x20, code? '0' '0' (Printer.hexDigit (code / 16))
      (Printer.hexDigit (code % 16)) = some code := by decide
  exact all code control

/-- A character that is written is read as itself. -/
theorem scanString_character (pieces : List Piece) (character : Char) (rest : List Char) :
    scanString pieces (Printer.character character ++ rest) =
      scanString (.character character :: pieces) rest := by
  unfold Printer.character
  split
  case h_8 _ notQuote notBackslash _ _ _ _ _ =>
    split
    · next control =>
        have piece : pieceOfCode character.toNat = .character character := by
          rw [pieceOfCode, character.ofNat_toNat]
          exact if_neg (by simp; omega)
        simp only [List.cons_append, List.nil_append]
        rw [scanString, code?_hexDigit control]
        simp only [piece]
    · next plain =>
        have literal : (character == '\\' || decide (character.toNat < 0x20)) = false := by
          have other : character ≠ '\\' := notBackslash
          simpa [other] using plain
        simp only [List.cons_append, List.nil_append]
        rw [scanString, literal]
        · rfl
        · exact notQuote
        · exact fun _ _ _ _ _ same => absurd same notBackslash
        · exact fun _ _ same => absurd same notBackslash
  all_goals simp [scanString, escaped?]

theorem scanString_flatMap (pieces : List Piece) (characters rest : List Char) :
    scanString pieces (characters.flatMap Printer.character ++ '"' :: rest) =
      some ((characters.map Piece.character).reverse ++ pieces, rest) := by
  induction characters generalizing pieces with
  | nil => rfl
  | cons character characters ih =>
      rw [List.flatMap_cons, List.append_assoc, scanString_character, ih]
      simp

theorem join_map_character (characters : List Char) :
    join (characters.map Piece.character) = some characters := by
  induction characters with
  | nil => rfl
  | cons character characters ih => rw [List.map_cons, join, ih, Option.map_some]

/-! ## Numbers -/

/-- A number begins with a digit. -/
theorem exists_toDigits (number : Nat) :
    ∃ digit others, Nat.toDigits 10 number = digit :: others ∧ digit.isDigit = true := by
  rcases List.exists_cons_of_ne_nil (Nat.toDigits_ne_nil (n := number) (b := 10)) with
    ⟨digit, others, digits⟩
  exact ⟨digit, others, digits, Text.isDigit_toDigits number digit (digits ▸ List.mem_cons_self)⟩

theorem digitsValue_toDigits (number : Nat) : digitsValue (Nat.toDigits 10 number) = number :=
  Nat.ofDigitChars_ten_toDigits

/-- No number but zero begins with a zero. -/
theorem head?_toDigits_ne {number : Nat} (positive : 0 < number) :
    (Nat.toDigits 10 number).head? ≠ some '0' := by
  induction number using Nat.strongRecOn with
  | ind number ih =>
      rcases Nat.lt_or_ge number 10 with single | more
      · rw [Nat.toDigits_of_lt_base single, List.head?_cons]
        simp
        omega
      · have earlier := ih (number / 10) (by omega) (by omega)
        rw [Nat.toDigits_of_base_le (by omega) more]
        rcases exists_toDigits (number / 10) with ⟨digit, others, digits, _⟩
        rwa [digits] at earlier ⊢

theorem scanWhole_toDigits (number : Nat) {rest : List Char}
    (apart : ∀ next ∈ rest.head?, next.isDigit = false) :
    scanWhole (Nat.toDigits 10 number ++ rest) = some (number, rest) := by
  rcases Nat.eq_zero_or_pos number with rfl | positive
  · rfl
  · have taken := Text.takeWhile_isDigit (Text.isDigit_toDigits number) apart
    have left := Text.dropWhile_isDigit (Text.isDigit_toDigits number) apart
    have value := digitsValue_toDigits number
    have first := head?_toDigits_ne positive
    rcases exists_toDigits number with ⟨digit, others, digits, _⟩
    rw [digits] at taken left value first ⊢
    rw [List.cons_append] at taken left ⊢
    rw [scanWhole, taken, left, value]
    · rfl
    · exact fun empty => by cases empty
    · rintro zeros same
      exact first (congrArg some (List.cons.inj same).1)

theorem toList_join_toString {digits : List Nat} (decimal : ∀ digit ∈ digits, digit < 10) :
    (String.join (digits.map toString)).toList = digits.map Nat.digitChar := by
  induction digits with
  | nil => rfl
  | cons digit digits ih =>
      have single : (toString digit).toList = [digit.digitChar] :=
        Nat.toList_repr.trans (Nat.toDigits_of_lt_base (decimal digit List.mem_cons_self))
      rw [List.map_cons, String.join_cons, String.toList_append, single,
        ih fun _ listed => decimal _ (List.mem_cons_of_mem _ listed)]
      rfl

theorem scanFraction_digits {digits : List Nat} (decimal : ∀ digit ∈ digits, digit < 10)
    (some : digits ≠ []) {rest : List Char} (apart : ∀ next ∈ rest.head?, next.isDigit = false) :
    scanFraction ('.' :: (digits.map Nat.digitChar ++ rest)) = .some (digits, rest) := by
  have characters : ∀ digit ∈ digits.map Nat.digitChar, digit.isDigit = true := by
    intro digit listed
    rcases List.mem_map.mp listed with ⟨value, inside, rfl⟩
    simpa using decimal value inside
  have values : (digits.map Nat.digitChar).map (fun digit => digit.toNat - '0'.toNat) = digits := by
    rw [List.map_map]
    exact (List.map_congr_left fun value inside =>
      Nat.toNat_digitChar_sub_48_of_lt_ten (decimal value inside)).trans (List.map_id digits)
  rw [scanFraction, Text.takeWhile_isDigit characters apart, Text.dropWhile_isDigit characters apart, values]
  simp [some]

theorem scanFraction_of_head {rest : List Char} (other : ∀ next ∈ rest.head?, next ≠ '.') :
    scanFraction rest = some ([], rest) := by
  rw [scanFraction]
  rintro later rfl
  exact other '.' rfl rfl

theorem scanSign_of_isDigit {digit : Char} (decimal : digit.isDigit = true) (rest : List Char) :
    scanSign (digit :: rest) = (false, digit :: rest) := by
  rw [scanSign]
  · rintro later same
    cases (List.cons.inj same).1
    cases decimal
  · rintro later same
    cases (List.cons.inj same).1
    cases decimal

/-- An exponent, once its sign has been read. -/
theorem scanExponent_toDigits {negative : Bool} {signed rest : List Char} (magnitude : Nat)
    (sign : scanSign signed = (negative, Nat.toDigits 10 magnitude ++ rest))
    (apart : ∀ next ∈ rest.head?, next.isDigit = false) :
    scanExponent ('e' :: signed) =
      some (some (if negative then -(magnitude : Int) else magnitude), rest) := by
  have digits := Text.isDigit_toDigits magnitude
  have nonempty := List.isEmpty_eq_false_iff.mpr (Nat.toDigits_ne_nil (n := magnitude) (b := 10))
  simp only [scanExponent, sign, Text.takeWhile_isDigit digits apart, Text.dropWhile_isDigit digits apart,
    digitsValue_toDigits, nonempty]
  rfl

theorem scanExponent_toString (exponent : Int) {rest : List Char}
    (apart : ∀ next ∈ rest.head?, next.isDigit = false) :
    scanExponent ('e' :: ((toString exponent).toList ++ rest)) = some (some exponent, rest) := by
  cases exponent with
  | ofNat magnitude =>
      have written : (toString (Int.ofNat magnitude)).toList = Nat.toDigits 10 magnitude :=
        Nat.toList_repr
      have sign : scanSign (Nat.toDigits 10 magnitude ++ rest) =
          (false, Nat.toDigits 10 magnitude ++ rest) := by
        rcases exists_toDigits magnitude with ⟨digit, others, digits, isDigit⟩
        rw [digits]
        exact scanSign_of_isDigit isDigit _
      rw [written, scanExponent_toDigits magnitude sign apart]
      rfl
  | negSucc magnitude =>
      have written : (toString (Int.negSucc magnitude)).toList =
          '-' :: Nat.toDigits 10 (magnitude + 1) := by
        rw [Int.toString_eq_repr, Int.repr, String.toList_append, Nat.toList_repr]
        rfl
      have sign : scanSign ('-' :: (Nat.toDigits 10 (magnitude + 1) ++ rest)) =
          (true, Nat.toDigits 10 (magnitude + 1) ++ rest) := rfl
      rw [written, List.cons_append, scanExponent_toDigits (magnitude + 1) sign apart]
      rfl

theorem scanExponent_of_head {rest : List Char}
    (other : ∀ next ∈ rest.head?, next ≠ 'e' ∧ next ≠ 'E') :
    scanExponent rest = some (none, rest) := by
  cases rest with
  | nil => rfl
  | cons next rest =>
      rcases other next rfl with ⟨lower, upper⟩
      simp [scanExponent, lower, upper]

/-- What may follow a number in a document: nothing, or what separates or closes. -/
def Ends (rest : List Char) : Prop :=
  ∀ next ∈ rest.head?, next ∈ [',', ']', '\x7d']

theorem Ends.apart {rest : List Char} (ends : Ends rest) :
    ∀ next ∈ rest.head?,
      next.isDigit = false ∧ next ≠ '.' ∧ next ≠ 'e' ∧ next ≠ 'E' := by
  have all : ∀ next ∈ [',', ']', '\x7d'],
      next.isDigit = false ∧ next ≠ '.' ∧ next ≠ 'e' ∧ next ≠ 'E' :=
    List.all_iff_forall_prop.mp (by decide)
  exact fun next begins => all next (ends next begins)

/-- The exponent of a number, if it has one, and what it begins with. -/
theorem scanExponent_elim (exponent : Option Int) {rest : List Char} (ends : Ends rest) :
    let written := (exponent.elim "" fun value => "e" ++ toString value).toList ++ rest
    scanExponent written = some (exponent, rest) ∧
      ∀ next ∈ written.head?, next.isDigit = false ∧ next ≠ '.' := by
  cases exponent with
  | none =>
      refine ⟨scanExponent_of_head fun next begins => (ends.apart next begins).2.2, ?_⟩
      exact fun next begins => ⟨(ends.apart next begins).1, (ends.apart next begins).2.1⟩
  | some exponent =>
      have written : ("e" ++ toString exponent).toList = 'e' :: (toString exponent).toList := by
        rw [String.toList_append]
        rfl
      rw [Option.elim_some, written, List.cons_append]
      refine ⟨scanExponent_toString exponent fun next begins => (ends.apart next begins).1, ?_⟩
      rintro next begins
      rcases Option.some.inj begins with rfl
      decide

/-- The fraction of a number, if it has one, and what it begins with. -/
theorem scanFraction_ite {digits : List Nat} (decimal : ∀ digit ∈ digits, digit < 10)
    {rest : List Char} (apart : ∀ next ∈ rest.head?, next.isDigit = false ∧ next ≠ '.') :
    let written := (if digits.isEmpty then "" else
      "." ++ String.join (digits.map toString)).toList ++ rest
    scanFraction written = some (digits, rest) ∧
      ∀ next ∈ written.head?, next.isDigit = false := by
  cases digits with
  | nil =>
      exact ⟨scanFraction_of_head fun next begins => (apart next begins).2,
        fun next begins => (apart next begins).1⟩
  | cons digit digits =>
      have written : ("." ++ String.join ((digit :: digits).map toString)).toList =
          '.' :: (digit :: digits).map Nat.digitChar := by
        rw [String.toList_append, toList_join_toString decimal]
        rfl
      rw [List.isEmpty_cons, if_neg Bool.false_ne_true, written, List.cons_append]
      refine ⟨scanFraction_digits decimal (List.cons_ne_nil _ _)
        fun next begins => (apart next begins).1, ?_⟩
      rintro next begins
      rcases Option.some.inj begins with rfl
      decide

/-- A number that is written is read as itself, up to its sign. -/
theorem scanUnsigned_text (negative : Bool) {literal : Literal} {rest : List Char}
    (decimal : ∀ digit ∈ literal.fraction, digit < 10) (ends : Ends rest) :
    scanUnsigned negative ({ literal with negative := false }.text.toList ++ rest) =
      some (.number { literal with negative := negative }, rest) := by
  rcases literal with ⟨_, whole, fraction, exponent⟩
  rcases scanExponent_elim exponent ends with ⟨readExponent, apart⟩
  rcases scanFraction_ite decimal apart with ⟨readFraction, apart⟩
  have readWhole := scanWhole_toDigits whole apart
  have written : (toString whole).toList = Nat.toDigits 10 whole := Nat.toList_repr
  simp only [Literal.text, Bool.false_eq_true, if_false, String.empty_append, String.toList_append,
    List.append_assoc, written, scanUnsigned]
  simp only [readWhole, readFraction, readExponent, Option.bind_eq_bind, Option.bind_some]
  rfl

/-! ## Texts -/

/-- A text that is read as one token when a rest follows. -/
def Spells (spelling rest : List Char) (token : Token) : Prop :=
  ∃ first others, spelling = first :: others ∧ isSpace first = false ∧
    scanOne first (others ++ rest) = some (token, rest)

theorem scanOne_of_isDigit {digit : Char} (decimal : digit.isDigit = true) (rest : List Char) :
    scanOne digit rest = scanUnsigned false (digit :: rest) := by
  rw [scanOne]
  all_goals
    rintro rfl
    cases decimal

theorem isSpace_of_isDigit {digit : Char} (decimal : digit.isDigit = true) :
    isSpace digit = false := by
  rw [← Bool.not_eq_true]
  intro space
  simp only [isSpace, Bool.or_eq_true, beq_iff_eq] at space
  rcases space with ((rfl | rfl) | rfl) | rfl <;> cases decimal

theorem spells_number {literal : Literal} {rest : List Char}
    (decimal : ∀ digit ∈ literal.fraction, digit < 10) (ends : Ends rest) :
    Spells literal.text.toList rest (.number literal) := by
  have unsigned := fun negative => scanUnsigned_text negative decimal ends
  rcases literal with ⟨negative, whole, fraction, exponent⟩
  cases negative with
  | true =>
      have signed : (Literal.mk true whole fraction exponent).text.toList =
          '-' :: (Literal.mk false whole fraction exponent).text.toList := by
        simp [Literal.text, String.toList_append]
      exact ⟨'-', _, signed, by decide, unsigned true⟩
  | false =>
      have digits : ∃ more, (Literal.mk false whole fraction exponent).text.toList =
          Nat.toDigits 10 whole ++ more := by
        simp [Literal.text, String.toList_append, List.append_assoc]
      rcases digits with ⟨more, written⟩
      rcases exists_toDigits whole with ⟨digit, others, digits, isDigit⟩
      rw [digits] at written
      refine ⟨digit, others ++ more, written, isSpace_of_isDigit isDigit, ?_⟩
      rw [scanOne_of_isDigit isDigit, ← List.cons_append, ← List.cons_append, ← written]
      exact unsigned false

theorem spells_string (text : String) (rest : List Char) :
    Spells (Printer.quoted text).toList rest (.string (some text)) := by
  refine ⟨'"', text.toList.flatMap Printer.character ++ ['"'], String.toList_ofList, by decide, ?_⟩
  rw [List.append_assoc, List.singleton_append, scanOne, scanString_flatMap]
  simp [join_map_character]

/-- A text that is read as a list of tokens when a rest follows. -/
def Reads (spelling rest : List Char) (tokens : List Token) : Prop :=
  ∀ before budget, (spelling ++ rest).length ≤ budget → ∃ left, rest.length ≤ left ∧
    scanOnto before budget (spelling ++ rest) = scanOnto (tokens.reverse ++ before) left rest

theorem Reads.nil (rest : List Char) : Reads [] rest [] :=
  fun _ budget enough => ⟨budget, enough, rfl⟩

theorem Reads.append {first second rest : List Char} {tokens later : List Token}
    (reads : Reads first (second ++ rest) tokens) (goesOn : Reads second rest later) :
    Reads (first ++ second) rest (tokens ++ later) := by
  intro before budget enough
  rw [List.append_assoc] at enough ⊢
  rcases reads before budget enough with ⟨left, ample, read⟩
  rcases goesOn (tokens.reverse ++ before) left ample with ⟨last, remains, readOn⟩
  refine ⟨last, remains, ?_⟩
  rw [read, readOn, List.reverse_append, List.append_assoc]

theorem Spells.reads {spelling rest : List Char} {token : Token}
    (spells : Spells spelling rest token) : Reads spelling rest [token] := by
  rcases spells with ⟨first, others, rfl, solid, read⟩
  intro before budget enough
  cases budget with
  | zero => cases enough
  | succ budget =>
      have remains : (others ++ rest).length ≤ budget := Nat.le_of_succ_le_succ enough
      rw [List.length_append] at remains
      refine ⟨budget, by omega, ?_⟩
      rw [List.cons_append, scanOnto, if_neg (by simp [solid]), read]
      rfl

/-- A text is read as a list of tokens if nothing follows. -/
theorem Reads.scan? {spelling : List Char} {tokens : List Token}
    (reads : Reads spelling [] tokens) : scan? spelling = some tokens := by
  rcases reads [] spelling.length (by simp) with ⟨left, _, read⟩
  rw [List.append_nil] at read
  rw [Token.scan?, read, scanOnto]
  simp

end AuditReports.Json.Token
