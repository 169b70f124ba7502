import AuditReports.Proofs.Api.NamePlaces
import AuditReports.Proofs.Text.RoundTrips

/-!
# Extended file names

A server that has more to say than fits into a plain name sends an extended one: the bytes of the
name in UTF-8, each as itself or escaped. Whoever reads the header looks for a place where a name
starts, from the left, and comes to this one if nothing in front of it opens a name.

Where the value ends is decided by semicolons, and no spelling of a name has one. Reading undoes
every spelling, whichever bytes are escaped and in whichever case the digits are written.
-/

namespace AuditReports

namespace Text.Percent

/-- The two ways to write a digit. -/
def IsDigit (value : Nat) (digit : Char) : Prop :=
  digit = hexDigit value ∨ digit = (hexDigit value).toLower

/-- A text in which every byte is written as itself or escaped. A byte that is written as itself is
a character of ASCII, but no percent sign and no semicolon. -/
inductive Spells : List UInt8 → List Char → Prop
  | nil : Spells [] []
  | itself {byte : UInt8} {bytes : List UInt8} {text : List Char} (ascii : byte < 0x80)
      (free : byte ≠ 0x25 ∧ byte ≠ 0x3B) (rest : Spells bytes text) :
      Spells (byte :: bytes) (Char.ofNat byte.toNat :: text)
  | escaped {byte : UInt8} {high low : Char} {bytes : List UInt8} {text : List Char}
      (first : IsDigit (byte.toNat / 16) high) (second : IsDigit (byte.toNat % 16) low)
      (rest : Spells bytes text) : Spells (byte :: bytes) ('%' :: high :: low :: text)

theorem IsDigit.read {value : Nat} {digit : Char} (small : value < 16)
    (isDigit : IsDigit value digit) :
    digit.toNat < 0x80 ∧ digit ≠ ';' ∧ hexValue? (UInt8.ofNat digit.toNat) = some value := by
  rcases isDigit with rfl | rfl
  · revert value
    decide
  · revert value
    decide

theorem read_itself (byte : UInt8) (ascii : byte < 0x80) :
    (Char.ofNat byte.toNat).toNat = byte.toNat ∧
      (Char.ofNat byte.toNat = ';' → byte = 0x3B) := by
  have all : ∀ byte : UInt8, byte < 0x80 → (Char.ofNat byte.toNat).toNat = byte.toNat ∧
      (Char.ofNat byte.toNat = ';' → byte = 0x3B) := forall_byte (by decide +kernel)
  exact all byte ascii

namespace Spells

variable {bytes : List UInt8} {text : List Char}

theorem not_mem (spells : Spells bytes text) : ';' ∉ text := by
  induction spells with
  | nil => exact List.not_mem_nil
  | itself ascii free _ ih =>
      rw [List.mem_cons, not_or]
      exact ⟨fun same => free.2 ((read_itself _ ascii).2 same.symm), ih⟩
  | @escaped byte _ _ _ _ first second _ ih =>
      have size : byte.toNat < 256 := byte.toNat_lt
      have high := (first.read (by omega)).2.1
      have low := (second.read (by omega)).2.1
      simp only [List.mem_cons, not_or]
      exact ⟨by decide, high.symm, low.symm, ih⟩

theorem ne_nil (spells : Spells bytes text) (nonempty : bytes ≠ []) : text ≠ [] := by
  cases spells with
  | nil => exact absurd rfl nonempty
  | itself => exact List.cons_ne_nil _ _
  | escaped => exact List.cons_ne_nil _ _

/-- Reading gives back what was spelled. -/
theorem decodeBytes_encode (spells : Spells bytes text) :
    decodeBytes (Utf8.encode text) = bytes := by
  induction spells with
  | nil => rfl
  | @itself byte _ _ ascii free _ ih =>
      have code := (read_itself byte ascii).1
      have small : (Char.ofNat byte.toNat).toNat < 0x80 := by
        rw [code]
        exact UInt8.lt_iff_toNat_lt.mp ascii
      rw [Utf8.encode_cons_of_ascii small, code, UInt8.ofNat_toNat, decodeBytes_cons_of_ne free.1,
        ih]
  | @escaped byte high low _ _ first second _ ih =>
      have size : byte.toNat < 256 := byte.toNat_lt
      rcases first.read (by omega) with ⟨highAscii, _, highRead⟩
      rcases second.read (by omega) with ⟨lowAscii, _, lowRead⟩
      have percent : UInt8.ofNat '%'.toNat = 0x25 := rfl
      rw [Utf8.encode_cons_of_ascii (by decide), Utf8.encode_cons_of_ascii highAscii,
        Utf8.encode_cons_of_ascii lowAscii, percent]
      simp only [decodeBytes, highRead, lowRead, Nat.div_add_mod, UInt8.ofNat_toNat, ih]

theorem decode?_eq {characters : List Char} (spells : Spells (Utf8.encode characters) text) :
    decode? text = some characters := by
  rw [decode?, spells.decodeBytes_encode, Utf8.decode?_encode]

end Spells

/-- The encoding of a path segment is one of the spellings. -/
theorem spells_encodeList (characters : List Char) :
    Spells (Utf8.encode characters) (encodeList characters) := by
  have unreserved : ∀ byte : UInt8, isUnreserved byte = true →
      byte < 0x80 ∧ byte ≠ 0x25 ∧ byte ≠ 0x3B := forall_byte (by decide +kernel)
  rw [encodeList]
  induction Utf8.encode characters with
  | nil => exact .nil
  | cons byte bytes ih =>
      rw [List.flatMap_cons, encodeByte]
      split
      case isTrue kept => exact .itself (unreserved byte kept).1 (unreserved byte kept).2 ih
      case isFalse => exact .escaped (.inl rfl) (.inl rfl) ih

end Text.Percent

/-! ## Names that are read back -/

namespace Disposition

theorem filename?_extended {name : String} (named : name ≠ "")
    {lead marker written behind : String} (nameless : Nameless lead.toList)
    (words : marker.toList.map Char.toLower = "filename*=utf-8''".toList)
    (ends : ∀ character ∈ behind.toList.head?, character = ';')
    (spells : Text.Percent.Spells (Text.Utf8.encode name.toList) written.toList) :
    filename? (lead ++ marker ++ written ++ behind) = some name := by
  have bytes : Text.Utf8.encode name.toList ≠ [] := by
    intro empty
    have same := Text.Utf8.encode_injective (empty.trans Text.Utf8.encode_nil.symm)
    exact named (String.toList_eq_nil_iff.mp same)
  have header : (lead ++ marker ++ written ++ behind).toList =
      lead.toList ++ (marker.toList ++ (written.toList ++ behind.toList)) := by simp
  have found := value?_extended nameless words spells.not_mem (spells.ne_nil bytes) ends
  rw [filename?, header, found, Option.map_some, spells.decode?_eq, Option.getD_some,
    String.ofList_toList]

theorem filename?_of_spells {name : String} (named : name ≠ "")
    {lead marker written behind : String} (apart : '=' ∉ lead.toList)
    (words : marker.toList.map Char.toLower = "filename*=utf-8''".toList)
    (ends : ∀ character ∈ behind.toList.head?, character = ';')
    (spells : Text.Percent.Spells (Text.Utf8.encode name.toList) written.toList) :
    filename? (lead ++ marker ++ written ++ behind) = some name :=
  filename?_extended named (nameless_of_not_mem apart) words ends spells

/-- A name in extended form is read back, whatever it consists of and however it is spelled, from
any place in a header, if no equals sign stands before it and a semicolon or nothing behind it. -/
theorem extended_name_is_read_back {name : String} (named : name ≠ "")
    {lead marker behind : String} (apart : '=' ∉ lead.toList)
    (words : marker.toList.map Char.toLower = "filename*=utf-8''".toList)
    (ends : ∀ character ∈ behind.toList.head?, character = ';') :
    filename? (lead ++ marker ++ Text.Percent.encode name ++ behind) = some name ∧
      ∀ written : String,
        Text.Percent.Spells (Text.Utf8.encode name.toList) written.toList →
        filename? (lead ++ marker ++ written ++ behind) = some name := by
  refine ⟨filename?_of_spells named apart words ends ?_,
    fun written spells => filename?_of_spells named apart words ends spells⟩
  rw [Text.Percent.encode, String.toList_ofList]
  exact Text.Percent.spells_encodeList name.toList

/-- The name has a semicolon of its own, what stands before it almost starts a name, and a plain
name follows. The second spelling mixes the cases of its digits. -/
theorem extended_name_is_read_back_among_others :
    ("é;" ≠ "" ∧ '=' ∉ "inline; filename*; ".toList ∧
        "FileName*=utf-8''".toList.map Char.toLower = "filename*=utf-8''".toList ∧
        (∀ character ∈ "; filename=e.pdf".toList.head?, character = ';') ∧
        Text.Percent.Spells (Text.Utf8.encode "é;".toList) "%c3%A9%3b".toList) ∧
      filename? "inline; filename*; FileName*=utf-8''%C3%A9%3B; filename=e.pdf" = some "é;" ∧
      filename? "inline; filename*; FileName*=utf-8''%c3%A9%3b; filename=e.pdf" = some "é;" := by
  have named : "é;" ≠ "" := by decide
  have apart : '=' ∉ "inline; filename*; ".toList := by decide +kernel
  have words : "FileName*=utf-8''".toList.map Char.toLower = "filename*=utf-8''".toList := by
    decide +kernel
  have ends : ∀ character ∈ "; filename=e.pdf".toList.head?, character = ';' := by simp
  have spells : Text.Percent.Spells (Text.Utf8.encode "é;".toList) "%c3%A9%3b".toList := by
    have bytes : Text.Utf8.encode "é;".toList = [0xC3, 0xA9, 0x3B] := by decide +kernel
    have text : "%c3%A9%3b".toList = ['%', 'c', '3', '%', 'A', '9', '%', '3', 'b'] := by
      decide +kernel
    rw [bytes, text]
    exact .escaped (.inr rfl) (.inl rfl) (.escaped (.inl rfl) (.inl rfl)
      (.escaped (.inl rfl) (.inr rfl) .nil))
  rcases extended_name_is_read_back named apart words ends with ⟨encoded, spelled⟩
  refine ⟨⟨named, apart, words, ends, spells⟩, Eq.trans (congrArg filename? ?_) encoded,
    Eq.trans (congrArg filename? ?_) (spelled _ spells)⟩
  · decide +kernel
  · decide +kernel

end Disposition

end AuditReports
