import Mathlib.Data.Bool.AllAny
import AuditReports.Proofs.Text.Integers
import AuditReports.Text.Fields
import AuditReports.Text.Percent

/-!
# What is written can be read again

An identifier goes into an address as UTF-8 bytes, each of which either stands for itself or is
escaped, and a number goes into it in decimal. Reading gives back what was written, for every text
and for every number within the bounds of the reader.

All that an encoded text consists of are letters, digits, four marks and the percent sign. What an
address is later cut at or cleaned of is decided character by character, so it is enough to look at
these sixty-seven. -/

namespace AuditReports.Text

namespace Utf8

@[simp]
theorem encode_nil : encode [] = [] := rfl

@[simp]
theorem encode_append (first second : List Char) :
    encode (first ++ second) = encode first ++ encode second :=
  List.flatMap_append

theorem encode_cons (character : Char) (rest : List Char) :
    encode (character :: rest) = encode [character] ++ encode rest :=
  encode_append [character] rest

/-- A character of ASCII is a single byte. -/
theorem encode_singleton {character : Char} (ascii : character.toNat < 0x80) :
    encode [character] = [UInt8.ofNat character.toNat] := by
  have small : character.val.toNat ≤ 0x7F := Nat.le_of_lt_succ ascii
  simp only [encode, List.flatMap_cons, List.flatMap_nil, List.append_nil, String.utf8EncodeChar]
  exact if_pos small

theorem encode_cons_of_ascii {character : Char} (ascii : character.toNat < 0x80)
    (rest : List Char) :
    encode (character :: rest) = UInt8.ofNat character.toNat :: encode rest := by
  rw [encode_cons, encode_singleton ascii]
  rfl

theorem encode_of_ascii {characters : List Char}
    (ascii : ∀ character ∈ characters, character.toNat < 0x80) :
    encode characters = characters.map fun character => UInt8.ofNat character.toNat := by
  induction characters with
  | nil => rfl
  | cons character rest ih =>
      rw [encode_cons_of_ascii (ascii _ List.mem_cons_self),
        ih fun _ listed => ascii _ (List.mem_cons_of_mem _ listed)]
      rfl

theorem toByteArray_ofList (characters : List Char) :
    (String.ofList characters).toByteArray = ⟨(encode characters).toArray⟩ := by
  rw [String.toByteArray_ofList]
  exact ByteArray.ext List.data_toByteArray

theorem decode?_encode (characters : List Char) :
    decode? (encode characters) = some characters := by
  have valid : (String.ofList characters).toByteArray.IsValidUTF8 :=
    (String.ofList characters).isValidUTF8
  simp only [decode?, ← toByteArray_ofList, String.fromUTF8?, valid, dite_true, Option.map_some]
  exact congrArg some String.toList_ofList

/-- The bytes of a text are the only ones that are read as it. -/
theorem decode?_eq_some_iff {bytes : List UInt8} {characters : List Char} :
    decode? bytes = some characters ↔ bytes = encode characters := by
  constructor
  · intro read
    simp only [decode?, String.fromUTF8?] at read
    split at read
    case isTrue valid =>
      have text : (String.fromUTF8 ⟨bytes.toArray⟩ valid).toList = characters :=
        Option.some.inj read
      have same := toByteArray_ofList (String.fromUTF8 ⟨bytes.toArray⟩ valid).toList
      rw [String.ofList_toList, text] at same
      exact List.toArray_inj (ByteArray.mk.inj same)
    case isFalse => cases read
  · rintro rfl
    exact decode?_encode characters

theorem encode_injective {first second : List Char} (same : encode first = encode second) :
    first = second := by
  have read := decode?_encode first
  rw [same, decode?_encode] at read
  exact (Option.some.inj read).symm

end Utf8

namespace Percent

/-! ## Bytes -/

theorem forall_byte {holds : UInt8 → Prop} (all : ∀ code < 256, holds (UInt8.ofNat code))
    (byte : UInt8) : holds byte := by
  rw [← byte.ofNat_toNat]
  exact all byte.toNat byte.toNat_lt

theorem hexValue?_hexDigit {value : Nat} (digit : value < 16) :
    hexValue? (UInt8.ofNat (hexDigit value).toNat) = some value := by
  have all : ∀ value < 16, hexValue? (UInt8.ofNat (hexDigit value).toNat) = some value := by
    decide
  exact all value digit

theorem decodeBytes_cons_of_ne {byte : UInt8} (other : byte ≠ 0x25) (rest : List UInt8) :
    decodeBytes (byte :: rest) = byte :: decodeBytes rest := by
  rcases rest with _ | ⟨second, _ | ⟨third, rest⟩⟩
  · simp [decodeBytes]
  · simp [decodeBytes]
  · rw [decodeBytes]
    intro high low last same
    exact absurd same other

/-- The bytes of the escaped form of a byte. -/
def escaped (byte : UInt8) : List UInt8 :=
  (escape byte).map fun character => UInt8.ofNat character.toNat

theorem decodeBytes_escaped (byte : UInt8) (rest : List UInt8) :
    decodeBytes (escaped byte ++ rest) = byte :: decodeBytes rest := by
  have size : byte.toNat < 256 := byte.toNat_lt
  have high := hexValue?_hexDigit (show byte.toNat / 16 < 16 by omega)
  have low := hexValue?_hexDigit (show byte.toNat % 16 < 16 by omega)
  have value : 16 * (byte.toNat / 16) + byte.toNat % 16 = byte.toNat := Nat.div_add_mod _ _
  have written : escaped byte =
      [0x25, UInt8.ofNat (hexDigit (byte.toNat / 16)).toNat,
        UInt8.ofNat (hexDigit (byte.toNat % 16)).toNat] := rfl
  simp only [written, List.cons_append, List.nil_append, decodeBytes, high, low, value,
    UInt8.ofNat_toNat]

/-- Bytes that stand for themselves or are escaped can be read again, whichever are escaped. -/
theorem decodeBytes_flatMap {spelling : UInt8 → List UInt8}
    (faithful : ∀ byte, spelling byte = [byte] ∧ byte ≠ 0x25 ∨ spelling byte = escaped byte)
    (bytes : List UInt8) : decodeBytes (bytes.flatMap spelling) = bytes := by
  induction bytes with
  | nil => rfl
  | cons byte bytes ih =>
      rw [List.flatMap_cons]
      rcases faithful byte with ⟨itself, other⟩ | escaped
      · rw [itself, List.singleton_append, decodeBytes_cons_of_ne other, ih]
      · rw [escaped, decodeBytes_escaped, ih]

/-- The bytes of the characters with which a byte is written. -/
def spelled (byte : UInt8) : List UInt8 :=
  (encodeByte byte).map fun character => UInt8.ofNat character.toNat

theorem spelled_eq (byte : UInt8) :
    spelled byte = [byte] ∧ byte ≠ 0x25 ∨ spelled byte = escaped byte := by
  revert byte
  exact forall_byte (by decide +kernel)

/-! ## Texts -/

/-- What an encoded text consists of. -/
def plain : List Char :=
  "%-.0123456789ABCDEFGHIJKLMNOPQRSTUVWXYZ_abcdefghijklmnopqrstuvwxyz~".toList

theorem escape_subset_plain (byte : UInt8) : escape byte ⊆ plain := by
  have all : ∀ byte : UInt8, (escape byte).all (· ∈ plain) = true :=
    forall_byte (by decide +kernel)
  exact fun character => List.all_iff_forall_prop.mp (all byte) character

theorem encodeByte_subset_plain (byte : UInt8) : encodeByte byte ⊆ plain := by
  have all : ∀ byte : UInt8, (encodeByte byte).all (· ∈ plain) = true :=
    forall_byte (by decide +kernel)
  exact fun character => List.all_iff_forall_prop.mp (all byte) character

theorem encodeList_subset_plain (characters : List Char) : encodeList characters ⊆ plain := by
  intro character listed
  rcases List.mem_flatMap.mp listed with ⟨byte, _, written⟩
  exact encodeByte_subset_plain byte written

theorem encode_plain {characters : List Char} (isPlain : characters ⊆ plain) :
    Utf8.encode characters = characters.map fun character => UInt8.ofNat character.toNat := by
  have ascii : ∀ character ∈ plain, character.toNat < 0x80 :=
    List.all_iff_forall_prop.mp (by decide)
  exact Utf8.encode_of_ascii fun _ listed => ascii _ (isPlain listed)

theorem decodeBytes_encodeList (characters : List Char) :
    decodeBytes (Utf8.encode (encodeList characters)) = Utf8.encode characters := by
  have bytes : Utf8.encode (encodeList characters) = (Utf8.encode characters).flatMap spelled := by
    rw [encode_plain (encodeList_subset_plain characters), encodeList, List.map_flatMap]
    rfl
  rw [bytes, decodeBytes_flatMap spelled_eq]

/-- Every text can be read again. -/
theorem decode?_encodeList (characters : List Char) :
    decode? (encodeList characters) = some characters := by
  rw [decode?, decodeBytes_encodeList, Utf8.decode?_encode]

theorem encodeList_ne_nil {characters : List Char} (some : characters ≠ []) :
    encodeList characters ≠ [] := by
  intro empty
  have read := decode?_encodeList characters
  rw [empty, ← show encodeList [] = [] from rfl, decode?_encodeList] at read
  exact some (Option.some.inj read).symm

end Percent

/-! ## Fields -/

section Fields

variable {separates : Char → Bool}

theorem fieldsBy_ne_nil (characters : List Char) : fieldsBy separates characters ≠ [] := by
  cases characters with
  | nil => exact List.cons_ne_nil _ _
  | cons character rest =>
      rw [fieldsBy]
      split
      · exact List.cons_ne_nil _ _
      · split <;> exact List.cons_ne_nil _ _

theorem fieldsBy_cons_of_not {character : Char} (within : separates character = false)
    {rest field : List Char} {others : List (List Char)}
    (fields : fieldsBy separates rest = field :: others) :
    fieldsBy separates (character :: rest) = (character :: field) :: others := by
  simp [fieldsBy, within, fields]

/-- A separator ends a field. -/
theorem fieldsBy_append_cons {separator : Char} (ends : separates separator = true)
    (first second : List Char) :
    fieldsBy separates (first ++ separator :: second) =
      fieldsBy separates first ++ fieldsBy separates second := by
  induction first with
  | nil => simp [fieldsBy, ends]
  | cons character first ih =>
      have nonempty : fieldsBy separates first ≠ [] := fieldsBy_ne_nil first
      rcases List.exists_cons_of_ne_nil nonempty with ⟨field, others, fields⟩
      rw [fields] at ih
      cases within : separates character with
      | true => simp [fieldsBy, within, ih, fields]
      | false =>
          rw [List.cons_append, fieldsBy_cons_of_not within ih, fieldsBy_cons_of_not within fields]
          rfl

/-- A text without a separator is a single field. -/
theorem fieldsBy_of_forall_not {characters : List Char}
    (within : ∀ character ∈ characters, separates character = false) :
    fieldsBy separates characters = [characters] := by
  induction characters with
  | nil => rfl
  | cons character rest ih =>
      exact fieldsBy_cons_of_not (within character List.mem_cons_self)
        (ih fun _ listed => within _ (List.mem_cons_of_mem _ listed))

/-- Fields that are joined can be cut apart again. -/
theorem fieldsBy_append_flatMap {separator : Char} (ends : separates separator = true)
    {field : List Char} {others : List (List Char)}
    (within : ∀ each ∈ field :: others, ∀ character ∈ each, separates character = false) :
    fieldsBy separates (field ++ others.flatMap (separator :: ·)) = field :: others := by
  have first := fieldsBy_of_forall_not (within field List.mem_cons_self)
  induction others generalizing field with
  | nil => simpa using first
  | cons next others ih =>
      have later : ∀ each ∈ next :: others, ∀ character ∈ each, separates character = false :=
        fun each listed => within each (List.mem_cons_of_mem _ listed)
      rw [List.flatMap_cons, List.cons_append, fieldsBy_append_cons ends, first,
        ih later (fieldsBy_of_forall_not (later next List.mem_cons_self))]
      rfl

/-- No separator is left in a field. -/
theorem separates_of_mem_fieldsBy {characters field : List Char}
    (listed : field ∈ fieldsBy separates characters) :
    ∀ character ∈ field, separates character = false := by
  induction characters generalizing field with
  | nil =>
      rcases List.mem_singleton.mp listed with rfl
      exact fun _ none => by cases none
  | cons character rest ih =>
      cases within : separates character with
      | true =>
          rw [fieldsBy, if_pos within] at listed
          rcases List.mem_cons.mp listed with rfl | later
          · exact fun _ none => by cases none
          · exact ih later
      | false =>
          have nonempty : fieldsBy separates rest ≠ [] := fieldsBy_ne_nil rest
          rcases List.exists_cons_of_ne_nil nonempty with ⟨first, others, fields⟩
          rw [fieldsBy_cons_of_not within fields] at listed
          rw [fields] at ih
          rcases List.mem_cons.mp listed with rfl | later
          · exact List.forall_mem_cons.mpr ⟨within, ih List.mem_cons_self⟩
          · exact ih (List.mem_cons_of_mem _ later)

/-- A text that is cut apart can be joined again, where only one character cuts. -/
theorem eq_of_fieldsBy {separator : Char}
    (single : ∀ character, separates character = true → character = separator)
    {characters field : List Char} {others : List (List Char)}
    (cut : fieldsBy separates characters = field :: others) :
    characters = field ++ others.flatMap (separator :: ·) := by
  induction characters generalizing field others with
  | nil =>
      rcases List.cons.inj cut with ⟨rfl, rfl⟩
      rfl
  | cons character rest ih =>
      have nonempty : fieldsBy separates rest ≠ [] := fieldsBy_ne_nil rest
      rcases List.exists_cons_of_ne_nil nonempty with ⟨first, later, fields⟩
      have joined : rest = first ++ later.flatMap (separator :: ·) := ih fields
      cases within : separates character with
      | true =>
          rw [fieldsBy, if_pos within, fields] at cut
          rcases List.cons.inj cut with ⟨rfl, rfl⟩
          simp [single character within, joined]
      | false =>
          rw [fieldsBy_cons_of_not within fields] at cut
          rcases List.cons.inj cut with ⟨rfl, rfl⟩
          rw [joined]
          rfl

theorem eq_of_fields {separator : Char} {characters field : List Char} {others : List (List Char)}
    (cut : fields separator characters = field :: others) :
    characters = field ++ others.flatMap (separator :: ·) :=
  eq_of_fieldsBy (fun _ same => beq_iff_eq.mp same) cut

theorem fields_append_cons {separator : Char} (first second : List Char) :
    fields separator (first ++ separator :: second) =
      fields separator first ++ fields separator second := by
  apply fieldsBy_append_cons
  exact beq_self_eq_true separator

theorem fields_append_flatMap {separator : Char} {field : List Char} {others : List (List Char)}
    (within : ∀ each ∈ field :: others, separator ∉ each) :
    fields separator (field ++ others.flatMap (separator :: ·)) = field :: others := by
  apply fieldsBy_append_flatMap
  · exact beq_self_eq_true separator
  · intro each listed character inside
    exact beq_eq_false_iff_ne.mpr fun same => within each listed (same ▸ inside)

end Fields

/-! ## Numbers -/

theorem someDigits_toDigits {limit number : Nat} (excess : IntegerError)
    (bounded : number ≤ limit) :
    someDigits limit excess (Nat.toDigits 10 number) = .ok number := by
  apply someDigits_eq_ok_iff.mpr
  exact ⟨Nat.toDigits_ne_nil, isDigit_toDigits number, Nat.ofDigitChars_ten_toDigits, bounded⟩

theorem integer_of_digit {limit : Nat} {digit : Char} {rest : List Char}
    (isDigit : digit.isDigit = true) :
    integer limit (digit :: rest) = (someDigits limit .tooLarge (digit :: rest)).map Int.ofNat := by
  unfold integer
  split
  · rename_i empty
    cases empty
  · rename_i digits minus
    cases minus
    cases isDigit
  · rename_i digits plus
    cases plus
    cases isDigit
  · rfl

/-- A whole number within the bounds of the reader can be read again. -/
theorem integer_toString {limit : Nat} {number : Int} (low : -(limit : Int) - 1 ≤ number)
    (high : number ≤ limit) : integer limit (toString number).toList = .ok number := by
  cases number with
  | ofNat number =>
      have written : (toString (Int.ofNat number)).toList = Nat.toDigits 10 number :=
        Nat.toList_repr
      have read : someDigits limit .tooLarge (Nat.toDigits 10 number) = .ok number :=
        someDigits_toDigits .tooLarge (Int.ofNat_le.mp high)
      rw [written]
      cases digits : Nat.toDigits 10 number with
      | nil => exact absurd digits Nat.toDigits_ne_nil
      | cons digit rest =>
          have isDigit := isDigit_toDigits number digit (by simp [digits])
          rw [integer_of_digit isDigit, ← digits, read]
          rfl
  | negSucc number =>
      have written : (toString (Int.negSucc number)).toList =
          '-' :: Nat.toDigits 10 (number + 1) := by
        rw [Int.toString_eq_repr, Int.repr, String.toList_append, Nat.toList_repr]
        rfl
      have read : someDigits (limit + 1) .tooSmall (Nat.toDigits 10 (number + 1)) =
          .ok (number + 1) := someDigits_toDigits .tooSmall (by omega)
      rw [written, integer, read]
      rfl

/-- What a number in decimal consists of. -/
def decimal : List Char :=
  "-0123456789".toList

theorem toString_subset_decimal (number : Int) : (toString number).toList ⊆ decimal := by
  have digits : ∀ code < 58, 48 ≤ code → Char.ofNat code ∈ decimal := by decide
  have natural : ∀ number : Nat, Nat.toDigits 10 number ⊆ decimal := by
    intro number character listed
    have isDigit := isDigit_toDigits number character listed
    simp only [Char.isDigit, Bool.and_eq_true, decide_eq_true_eq] at isDigit
    rw [← character.ofNat_toNat]
    exact digits character.toNat (Nat.lt_succ_of_le isDigit.2) isDigit.1
  intro character listed
  cases number with
  | ofNat number => exact natural number (by simpa [Int.repr] using listed)
  | negSucc number =>
      have cases : character = '-' ∨ character ∈ Nat.toDigits 10 (number + 1) := by
        simpa [Int.repr] using listed
      rcases cases with rfl | digit
      · decide
      · exact natural (number + 1) digit

/-- A number in decimal has only characters that an encoded text may have. -/
theorem toString_subset_plain (number : Int) : (toString number).toList ⊆ Percent.plain :=
  List.Subset.trans (toString_subset_decimal number) (by decide)

theorem toList_toString_ne_nil (number : Int) : (toString number).toList ≠ [] := by
  cases number with
  | ofNat number => simp [Int.repr]
  | negSucc number => simp [Int.repr]

end AuditReports.Text
