import AuditReports.Proofs.Text.RoundTrips
import AuditReports.Text.Form

/-!
# Forms can be read again

The pairs of a query are read in three steps: the query is cut into pairs and each pair into a name
and a value, what is escaped is turned into bytes, and the bytes are read as a text. Each step takes
back what was done when the pairs were written. No ampersand and no equals sign is left in a name or
in a value once it is encoded, so the cuts are where the pairs were joined. A plus sign stands for a
space, and one that was there before is escaped. And the bytes are those of a text, so that the
lenient reader finds nothing to replace.
-/

namespace AuditReports.Text

namespace Utf8

/-! ## Reading leniently -/

section Continuation

variable {bits digit : Nat} {low high : UInt8} (small : digit < 0x40)
  (above : low.toNat ≤ digit + 0x80) (below : digit + 0x80 ≤ high.toNat)

include small above below

theorem advance_of_within (missing : Nat) :
    advance (some ⟨bits, missing, low, high⟩) (UInt8.ofNat (digit + 0x80)) =
      if missing == 1 then ([Char.ofNat (bits * 0x40 + digit)], none)
      else ([], some ⟨bits * 0x40 + digit, missing - 1, 0x80, 0xBF⟩) := by
  have size : (UInt8.ofNat (digit + 0x80)).toNat = digit + 0x80 :=
    UInt8.toNat_ofNat_of_lt' (show digit + 0x80 < 256 by omega)
  have within : (low ≤ UInt8.ofNat (digit + 0x80) && UInt8.ofNat (digit + 0x80) ≤ high) = true := by
    simp only [UInt8.le_iff_toNat_le, size, Bool.and_eq_true, decide_eq_true_eq]
    exact ⟨above, below⟩
  have value : (digit + 0x80) % 0x40 = digit := by omega
  simp only [advance, within, size, value, if_true]

/-- A byte after which others follow in the same character. -/
theorem decodeFrom_continued (missing : Nat) (rest : List UInt8) :
    decodeFrom (some ⟨bits, missing + 2, low, high⟩) (UInt8.ofNat (digit + 0x80) :: rest) =
      decodeFrom (some ⟨bits * 0x40 + digit, missing + 1, 0x80, 0xBF⟩) rest := by
  rw [decodeFrom, advance_of_within small above below]
  rfl

end Continuation

theorem decodeFrom_opened {lead low high : UInt8} {following : Nat} (extended : 0x80 ≤ lead)
    (continues : continuation? lead = some (following, low, high)) (rest : List UInt8) :
    decodeFrom none (lead :: rest) =
      decodeFrom (some ⟨leadBits following lead, following, low, high⟩) rest := by
  have notAscii : ¬lead < 0x80 := UInt8.not_lt.mpr extended
  simp [decodeFrom, advance, opening, notAscii, continues]

/-- The bytes after the second one are all between the same limits. -/
theorem within_limits {digit : Nat} (small : digit < 0x40) :
    (0x80 : UInt8).toNat ≤ digit + 0x80 ∧ digit + 0x80 ≤ (0xBF : UInt8).toNat :=
  ⟨Nat.le_add_left _ _, Nat.add_le_add_right (Nat.le_of_lt_succ small) _⟩

/-- The last byte of a character. -/
theorem decodeFrom_finished {bits digit : Nat} (small : digit < 0x40) (rest : List UInt8) :
    decodeFrom (some ⟨bits, 1, 0x80, 0xBF⟩) (UInt8.ofNat (digit + 0x80) :: rest) =
      Char.ofNat (bits * 0x40 + digit) :: decodeFrom none rest := by
  rw [decodeFrom, advance_of_within small (within_limits small).1 (within_limits small).2]
  rfl

section Lengths

variable {value : Nat} (rest : List UInt8)

theorem decodeFrom_one (small : value ≤ 0x7F) :
    decodeFrom none (UInt8.ofNat value :: rest) = Char.ofNat value :: decodeFrom none rest := by
  have size : (UInt8.ofNat value).toNat = value :=
    UInt8.toNat_ofNat_of_lt' (show value < 256 by omega)
  have ascii : UInt8.ofNat value < 0x80 := by
    rw [UInt8.lt_iff_toNat_lt, size]
    exact Nat.lt_succ_of_le small
  simp only [decodeFrom, advance, opening, ascii, if_true, size]
  rfl

theorem decodeFrom_two (large : 0x7F < value) (small : value ≤ 0x7FF) :
    decodeFrom none (UInt8.ofNat (value / 64 % 0x20 + 0xC0) ::
        UInt8.ofNat (value % 0x40 + 0x80) :: rest) =
      Char.ofNat value :: decodeFrom none rest := by
  have leads : ∀ top < 32, 2 ≤ top →
      0x80 ≤ UInt8.ofNat (top + 0xC0) ∧
        continuation? (UInt8.ofNat (top + 0xC0)) = some (1, 0x80, 0xBF) ∧
        leadBits 1 (UInt8.ofNat (top + 0xC0)) = top := by
    decide
  rcases leads (value / 64 % 32) (by omega) (by omega) with ⟨extended, continues, top⟩
  have last : value % 64 < 64 := by omega
  have whole : value / 64 % 32 * 64 + value % 64 = value := by omega
  rw [decodeFrom_opened extended continues, top, decodeFrom_finished last, whole]

/-- The second byte has a limit of its own after the least lead, where the character would have a
shorter form, and after the lead of the surrogates. -/
theorem decodeFrom_three (large : 0x7FF < value) (small : value ≤ 0xFFFF)
    (valid : value < 0xD800 ∨ 0xDFFF < value) :
    decodeFrom none (UInt8.ofNat (value / 4096 % 0x10 + 0xE0) ::
        UInt8.ofNat (value / 64 % 0x40 + 0x80) :: UInt8.ofNat (value % 0x40 + 0x80) :: rest) =
      Char.ofNat value :: decodeFrom none rest := by
  have leads : ∀ top < 16,
      0x80 ≤ UInt8.ofNat (top + 0xE0) ∧
        continuation? (UInt8.ofNat (top + 0xE0)) =
          some (2, if top = 0 then 0xA0 else 0x80, if top = 13 then 0x9F else 0xBF) ∧
        leadBits 2 (UInt8.ofNat (top + 0xE0)) = top := by
    decide
  rcases leads (value / 4096 % 16) (by omega) with ⟨extended, continues, top⟩
  have second : value / 64 % 64 < 64 := by omega
  have last : value % 64 < 64 := by omega
  have above : (if value / 4096 % 16 = 0 then (0xA0 : UInt8) else 0x80).toNat ≤
      value / 64 % 64 + 0x80 := by
    split
    · exact show 160 ≤ _ by omega
    · exact (within_limits second).1
  have below : value / 64 % 64 + 0x80 ≤
      (if value / 4096 % 16 = 13 then (0x9F : UInt8) else 0xBF).toNat := by
    split
    · exact show _ ≤ 159 by omega
    · exact (within_limits second).2
  have whole : (value / 4096 % 16 * 64 + value / 64 % 64) * 64 + value % 64 = value := by omega
  rw [decodeFrom_opened extended continues, top, decodeFrom_continued second above below,
    decodeFrom_finished last, whole]

/-- The second byte has a limit of its own after the least lead and after the greatest one. -/
theorem decodeFrom_four (large : 0xFFFF < value) (small : value < 0x110000) :
    decodeFrom none (UInt8.ofNat (value / 262144 % 8 + 0xF0) ::
        UInt8.ofNat (value / 4096 % 0x40 + 0x80) :: UInt8.ofNat (value / 64 % 0x40 + 0x80) ::
        UInt8.ofNat (value % 0x40 + 0x80) :: rest) =
      Char.ofNat value :: decodeFrom none rest := by
  have leads : ∀ top < 5,
      0x80 ≤ UInt8.ofNat (top + 0xF0) ∧
        continuation? (UInt8.ofNat (top + 0xF0)) =
          some (3, if top = 0 then 0x90 else 0x80, if top = 4 then 0x8F else 0xBF) ∧
        leadBits 3 (UInt8.ofNat (top + 0xF0)) = top := by
    decide
  rcases leads (value / 262144 % 8) (by omega) with ⟨extended, continues, top⟩
  have second : value / 4096 % 64 < 64 := by omega
  have third : value / 64 % 64 < 64 := by omega
  have last : value % 64 < 64 := by omega
  have above : (if value / 262144 % 8 = 0 then (0x90 : UInt8) else 0x80).toNat ≤
      value / 4096 % 64 + 0x80 := by
    split
    · exact show 144 ≤ _ by omega
    · exact (within_limits second).1
  have below : value / 4096 % 64 + 0x80 ≤
      (if value / 262144 % 8 = 4 then (0x8F : UInt8) else 0xBF).toNat := by
    split
    · exact show _ ≤ 143 by omega
    · exact (within_limits second).2
  have whole : ((value / 262144 % 8 * 64 + value / 4096 % 64) * 64 + value / 64 % 64) * 64 +
      value % 64 = value := by omega
  rw [decodeFrom_opened extended continues, top, decodeFrom_continued second above below,
    decodeFrom_continued third (within_limits third).1 (within_limits third).2,
    decodeFrom_finished last, whole]

end Lengths

/-- A character can be read again, whatever follows it. -/
theorem decodeFrom_encodeChar (character : Char) (rest : List UInt8) :
    decodeFrom none (String.utf8EncodeChar character ++ rest) =
      character :: decodeFrom none rest := by
  have same : Char.ofNat character.val.toNat = character := character.ofNat_toNat
  have valid : character.val.toNat < 0xD800 ∨
      0xDFFF < character.val.toNat ∧ character.val.toNat < 0x110000 := character.valid
  conv => rhs; rw [← same]
  simp only [String.utf8EncodeChar]
  split
  · exact decodeFrom_one rest (by assumption)
  split
  · exact decodeFrom_two rest (by omega) (by assumption)
  split
  · exact decodeFrom_three rest (by omega) (by assumption) (by omega)
  · exact decodeFrom_four rest (by omega) (by omega)

/-- Nothing is replaced in the bytes of a text. -/
theorem decodeLenient_encode (characters : List Char) :
    decodeLenient (encode characters) = characters := by
  rw [decodeLenient]
  induction characters with
  | nil => rfl
  | cons character characters ih =>
      rw [encode, List.flatMap_cons, decodeFrom_encodeChar, ← encode, ih]

end Utf8

/-! ## Cutting at the first separator -/

section Cut

variable {separator : Char} {first : List Char} (absent : separator ∉ first)

include absent

theorem cutFirst_of_not_mem : cutFirst separator first = (first, none) := by
  induction first with
  | nil => rfl
  | cons character first ih =>
      rcases not_or.mp (mt List.mem_cons.mpr absent) with ⟨other, later⟩
      simp [cutFirst, Ne.symm other, ih later]

theorem cutFirst_append_cons (second : List Char) :
    cutFirst separator (first ++ separator :: second) = (first, some second) := by
  induction first with
  | nil => simp [cutFirst]
  | cons character first ih =>
      rcases not_or.mp (mt List.mem_cons.mpr absent) with ⟨other, later⟩
      simp [cutFirst, Ne.symm other, ih later]

end Cut

namespace Form

/-! ## Names and values -/

/-- What an encoded name or value consists of. -/
def plain : List Char :=
  "%*+-.0123456789ABCDEFGHIJKLMNOPQRSTUVWXYZ_abcdefghijklmnopqrstuvwxyz".toList

theorem encodeByte_subset_plain (byte : UInt8) : encodeByte byte ⊆ plain := by
  have all : ∀ byte : UInt8, (encodeByte byte).all (· ∈ plain) = true :=
    Percent.forall_byte (by decide +kernel)
  exact fun character => List.all_iff_forall_prop.mp (all byte) character

theorem encodeList_subset_plain (characters : List Char) : encodeList characters ⊆ plain := by
  intro character listed
  rcases List.mem_flatMap.mp listed with ⟨byte, _, written⟩
  exact encodeByte_subset_plain byte written

/-- A plus sign stands for a space. -/
def spaced (character : Char) : Char :=
  if character == '+' then ' ' else character

/-- The bytes that are read where a byte was written. -/
def spelled (byte : UInt8) : List UInt8 :=
  (encodeByte byte).map fun character => UInt8.ofNat (spaced character).toNat

/-- A byte is read as itself, or its escaped form is read. -/
theorem spelled_eq (byte : UInt8) :
    spelled byte = [byte] ∧ byte ≠ 0x25 ∨ spelled byte = Percent.escaped byte := by
  revert byte
  exact Percent.forall_byte (by decide +kernel)

/-- Every name and every value can be read again. -/
theorem decodeText_encodeList (text : String) : decodeText (encodeList text.toList) = text := by
  have ascii : ∀ character ∈ plain, (spaced character).toNat < 0x80 :=
    List.all_iff_forall_prop.mp (by decide)
  have bytes : Utf8.encode ((encodeList text.toList).map spaced) =
      (Utf8.encode text.toList).flatMap spelled := by
    rw [Utf8.encode_of_ascii, List.map_map, encodeList, List.map_flatMap]
    · rfl
    · intro character listed
      rcases List.mem_map.mp listed with ⟨written, within, rfl⟩
      exact ascii written (encodeList_subset_plain _ within)
  change String.ofList (Utf8.decodeLenient (Percent.decodeBytes
    (Utf8.encode ((encodeList text.toList).map spaced)))) = text
  rw [bytes, Percent.decodeBytes_flatMap spelled_eq, Utf8.decodeLenient_encode,
    String.ofList_toList]

/-! ## Pairs -/

theorem encode_cons (entry : String × String) (entries : List (String × String)) :
    encode (entry :: entries) = pair entry ++ (entries.map pair).flatMap ('&' :: ·) := by
  induction entries generalizing entry with
  | nil => simp [encode]
  | cons next entries ih =>
      have joined : encode (entry :: next :: entries) =
          pair entry ++ '&' :: encode (next :: entries) := rfl
      rw [joined, ih]
      rfl

theorem pair_ne_nil (entry : String × String) : pair entry ≠ [] :=
  List.append_ne_nil_of_right_ne_nil _ (List.cons_ne_nil _ _)

theorem encode_eq_nil_iff {entries : List (String × String)} :
    encode entries = [] ↔ entries = [] := by
  cases entries with
  | nil => exact ⟨fun _ => rfl, fun _ => rfl⟩
  | cons entry entries => simp [encode_cons, pair_ne_nil]

theorem not_mem_pair (entry : String × String) : '&' ∉ pair entry := by
  have name := encodeList_subset_plain entry.1.toList
  have value := encodeList_subset_plain entry.2.toList
  have absent : '&' ∉ plain := by decide
  intro listed
  rcases List.mem_append.mp listed with listed | listed
  · exact absent (name listed)
  · rcases List.mem_cons.mp listed with equals | listed
    · cases equals
    · exact absent (value listed)

theorem cutFirst_pair (entry : String × String) :
    cutFirst '=' (pair entry) = (encodeList entry.1.toList, some (encodeList entry.2.toList)) := by
  apply cutFirst_append_cons
  intro listed
  exact absurd (encodeList_subset_plain _ listed) (by decide)

/-- All pairs can be read again, in their order. -/
theorem decode_encode (entries : List (String × String)) : decode (encode entries) = entries := by
  cases entries with
  | nil => rfl
  | cons entry entries =>
      have cut : fields '&' (encode (entry :: entries)) = (entry :: entries).map pair := by
        rw [encode_cons]
        apply fields_append_flatMap
        intro field listed
        rcases List.mem_map.mp (List.map_cons ▸ listed : field ∈ (entry :: entries).map pair) with
          ⟨written, _, rfl⟩
        exact not_mem_pair written
      have some : ((entry :: entries).map pair).filter (fun field => !field.isEmpty) =
          (entry :: entries).map pair := by
        rw [List.filter_eq_self]
        intro field listed
        rcases List.mem_map.mp listed with ⟨written, _, rfl⟩
        simp [pair_ne_nil]
      rw [decode, cut, some, List.map_map]
      conv => rhs; rw [← List.map_id (entry :: entries)]
      refine List.map_congr_left fun written _ => ?_
      simp [cutFirst_pair, decodeText_encodeList]

end Form

end AuditReports.Text
