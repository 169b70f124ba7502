import AuditReports.Proofs.Text.RoundTrips

/-!
# What reading leaves alone

Reading an encoded text replaces every percent sign with two hexadecimal digits behind it and
nothing else, and it starts anew behind each. So a text stands for itself if and only if there is no
such place in it.

That place is a matter of bytes, and a text is one of characters. What keeps the two together is
that the bytes of all other characters lie above ASCII: a text of ASCII occurs among the bytes of a
text exactly where it occurs in the text.
-/

namespace AuditReports.Text

/-! ## ASCII among the bytes of a text -/

namespace Utf8

/-- The bytes of other characters lie above ASCII. -/
theorem le_of_mem_encode_singleton {character : Char} (other : 0x80 ≤ character.toNat)
    {byte : UInt8} (listed : byte ∈ encode [character]) : 0x80 ≤ byte.toNat := by
  have large : ¬character.val.toNat ≤ 0x7F := Nat.not_le.mpr other
  have above : ∀ bits, 0x80 ≤ bits → bits < 0x100 → 0x80 ≤ (UInt8.ofNat bits).toNat := by
    intro bits low high
    rw [UInt8.toNat_ofNat_of_lt' high]
    exact low
  simp only [encode, List.flatMap_cons, List.flatMap_nil, List.append_nil, String.utf8EncodeChar,
    large, if_false] at listed
  split at listed
  · simp only [List.mem_cons, List.not_mem_nil, or_false] at listed
    rcases listed with rfl | rfl <;> exact above _ (by omega) (by omega)
  · split at listed
    · simp only [List.mem_cons, List.not_mem_nil, or_false] at listed
      rcases listed with rfl | rfl | rfl <;> exact above _ (by omega) (by omega)
    · simp only [List.mem_cons, List.not_mem_nil, or_false] at listed
      rcases listed with rfl | rfl | rfl | rfl <;> exact above _ (by omega) (by omega)

theorem ofNat_inj_of_ascii {first second : Char} (ascii : first.toNat < 0x80)
    (ascii' : second.toNat < 0x80) :
    UInt8.ofNat first.toNat = UInt8.ofNat second.toNat ↔ first = second := by
  constructor
  · intro same
    have codes := congrArg UInt8.toNat same
    rw [UInt8.toNat_ofNat_of_lt' (show first.toNat < 256 by omega),
      UInt8.toNat_ofNat_of_lt' (show second.toNat < 256 by omega)] at codes
    exact Char.toNat_inj.mp codes
  · rintro rfl
    rfl

theorem not_mem_encode_of_ascii {character other : Char} (ascii : character.toNat < 0x80)
    (above : 0x80 ≤ other.toNat) : UInt8.ofNat character.toNat ∉ encode [other] := by
  intro listed
  have high := le_of_mem_encode_singleton above listed
  rw [UInt8.toNat_ofNat_of_lt' (show character.toNat < 256 by omega)] at high
  omega

theorem infix_append_iff_of_not_mem {byte : UInt8} {bytes others rest : List UInt8}
    (absent : byte ∉ others) : byte :: bytes <:+: others ++ rest ↔ byte :: bytes <:+: rest := by
  induction others with
  | nil => rfl
  | cons other others ih =>
      rcases not_or.mp (mt List.mem_cons.mpr absent) with ⟨differs, absent⟩
      rw [List.cons_append, List.infix_cons_iff, List.cons_prefix_cons]
      simp [differs, ih absent]

variable {word : List Char} (ascii : ∀ character ∈ word, character.toNat < 0x80)

include ascii

theorem encode_prefix_iff (text : List Char) : encode word <+: encode text ↔ word <+: text := by
  induction word generalizing text with
  | nil => simp
  | cons character word ih =>
      rcases List.forall_mem_cons.mp ascii with ⟨first, others⟩
      rw [encode_cons_of_ascii first]
      cases text with
      | nil => simp
      | cons next text =>
          rw [List.cons_prefix_cons]
          rcases Nat.lt_or_ge next.toNat 0x80 with low | above
          · rw [encode_cons_of_ascii low, List.cons_prefix_cons, ofNat_inj_of_ascii first low,
              ih others]
          · have differs : character ≠ next := by
              rintro rfl
              omega
            have absent := not_mem_encode_of_ascii first above
            rw [encode_cons next text]
            cases bytes : encode [next] with
            | nil => simp [encode] at bytes
            | cons byte others =>
                rw [bytes, List.mem_cons, not_or] at absent
                simp [differs, absent.1]

/-- A text of ASCII occurs among the bytes of a text if and only if it occurs in the text. -/
theorem encode_infix_iff (text : List Char) : encode word <:+: encode text ↔ word <:+: text := by
  induction text with
  | nil =>
      have start := encode_prefix_iff ascii []
      rw [encode_nil, List.prefix_nil, List.prefix_nil] at start
      rw [encode_nil, List.infix_nil, List.infix_nil, start]
  | cons next text ih =>
      have start := encode_prefix_iff ascii (next :: text)
      rcases Nat.lt_or_ge next.toNat 0x80 with low | above
      · rw [encode_cons_of_ascii low] at start ⊢
        rw [List.infix_cons_iff, List.infix_cons_iff, start, ih]
      · cases word with
        | nil => simp
        | cons character word =>
            have first : character.toNat < 0x80 := ascii character List.mem_cons_self
            have differs : character ≠ next := by
              rintro rfl
              omega
            have absent := not_mem_encode_of_ascii first above
            rw [encode_cons_of_ascii first] at ih ⊢
            rw [encode_cons next text, infix_append_iff_of_not_mem absent, ih, List.infix_cons_iff,
              List.cons_prefix_cons]
            simp [differs]

end Utf8

/-! ## Escaped forms -/

namespace Percent

/-- The hexadecimal digits of either case. -/
def hexDigits : List Char :=
  "0123456789ABCDEFabcdef".toList

/-- Somewhere in the text there is a percent sign with two hexadecimal digits behind it. -/
def HasEscape (text : List Char) : Prop :=
  ∃ high ∈ hexDigits, ∃ low ∈ hexDigits, ['%', high, low] <:+: text

/-- The same among bytes. -/
def HasEscapedByte (bytes : List UInt8) : Prop :=
  ∃ high low, (hexValue? high).isSome ∧ (hexValue? low).isSome ∧ [0x25, high, low] <:+: bytes

theorem isSome_hexValue?_iff (byte : UInt8) :
    (hexValue? byte).isSome ↔ ∃ digit ∈ hexDigits, UInt8.ofNat digit.toNat = byte := by
  have all : ∀ byte, (hexValue? byte).isSome = hexDigits.any (UInt8.ofNat ·.toNat == byte) :=
    forall_byte (by decide +kernel)
  simp [all byte]

theorem hasEscapedByte_encode_iff (text : List Char) :
    HasEscapedByte (Utf8.encode text) ↔ HasEscape text := by
  have digit : ∀ digit ∈ hexDigits, digit.toNat < 0x80 :=
    List.all_iff_forall_prop.mp (by decide +kernel)
  have occurs : ∀ high ∈ hexDigits, ∀ low ∈ hexDigits,
      ([0x25, UInt8.ofNat high.toNat, UInt8.ofNat low.toNat] <:+: Utf8.encode text ↔
        ['%', high, low] <:+: text) := by
    intro high isHigh low isLow
    have form : ∀ character ∈ ['%', high, low], character.toNat < 0x80 := by
      simp [digit high isHigh, digit low isLow]
    rw [← Utf8.encode_infix_iff form, Utf8.encode_of_ascii form]
    rfl
  constructor
  · rintro ⟨_, _, highRead, lowRead, within⟩
    rcases (isSome_hexValue?_iff _).mp highRead with ⟨high, isHigh, rfl⟩
    rcases (isSome_hexValue?_iff _).mp lowRead with ⟨low, isLow, rfl⟩
    exact ⟨high, isHigh, low, isLow, (occurs high isHigh low isLow).mp within⟩
  · rintro ⟨high, isHigh, low, isLow, within⟩
    exact ⟨_, _, (isSome_hexValue?_iff _).mpr ⟨high, isHigh, rfl⟩,
      (isSome_hexValue?_iff _).mpr ⟨low, isLow, rfl⟩, (occurs high isHigh low isLow).mpr within⟩

theorem length_decodeBytes_le (bytes : List UInt8) : (decodeBytes bytes).length ≤ bytes.length := by
  fun_induction decodeBytes bytes with
  | case1 => exact Nat.le_refl _
  | case2 => simp only [List.length_cons]; omega
  | case3 => simp only [List.length_cons] at *; omega
  | case4 => simp only [List.length_cons]; omega

/-- An escaped form stands at the beginning or later on. -/
theorem hasEscapedByte_cons_iff (byte : UInt8) (rest : List UInt8) :
    HasEscapedByte (byte :: rest) ↔
      (∃ high low more, byte = 0x25 ∧ rest = high :: low :: more ∧
        (hexValue? high).isSome ∧ (hexValue? low).isSome) ∨ HasEscapedByte rest := by
  simp only [HasEscapedByte, List.infix_cons_iff]
  constructor
  · rintro ⟨high, low, highRead, lowRead, ⟨more, first⟩ | later⟩
    · rcases List.cons.inj first with ⟨percent, behind⟩
      exact .inl ⟨high, low, more, percent.symm, behind.symm, highRead, lowRead⟩
    · exact .inr ⟨high, low, highRead, lowRead, later⟩
  · rintro (⟨high, low, more, rfl, rfl, highRead, lowRead⟩ | ⟨high, low, highRead, lowRead, later⟩)
    · exact ⟨high, low, highRead, lowRead, .inl ⟨more, rfl⟩⟩
    · exact ⟨high, low, highRead, lowRead, .inr later⟩

/-- Bytes are read as themselves unless there is an escaped form among them, which makes them
fewer. -/
theorem decodeBytes_eq_self_iff (bytes : List UInt8) :
    decodeBytes bytes = bytes ↔ ¬HasEscapedByte bytes := by
  fun_induction decodeBytes bytes with
  | case1 => simp [HasEscapedByte]
  | case2 high low rest highValue lowValue lowRead highRead _ =>
      have shorter := length_decodeBytes_le rest
      have escaped : HasEscapedByte (0x25 :: high :: low :: rest) :=
        (hasEscapedByte_cons_iff _ _).mpr
          (.inl ⟨high, low, rest, rfl, rfl, by simp [highRead], by simp [lowRead]⟩)
      -- Three bytes become one and no other becomes more, so the lengths cannot be the same.
      refine iff_of_false (fun same => ?_) (not_not_intro escaped)
      have lengths := congrArg List.length same
      simp only [List.length_cons] at lengths
      omega
  | case3 high low rest unread ih =>
      rw [List.cons_inj_right, ih, hasEscapedByte_cons_iff 0x25]
      refine not_congr (or_iff_right ?_).symm
      rintro ⟨_, _, more, -, same, highRead, lowRead⟩
      cases same
      exact unread _ _ (Option.some_get highRead).symm (Option.some_get lowRead).symm
  | case4 byte rest other ih =>
      rw [List.cons_inj_right, ih, hasEscapedByte_cons_iff byte]
      refine not_congr (or_iff_right ?_).symm
      rintro ⟨high, low, more, percent, same, -, -⟩
      exact other high low more percent same

/-- A text stands for itself if and only if nothing in it is escaped. -/
theorem decode?_eq_self_iff (text : List Char) : decode? text = some text ↔ ¬HasEscape text := by
  rw [decode?, Utf8.decode?_eq_some_iff, decodeBytes_eq_self_iff, hasEscapedByte_encode_iff]

end Percent

end AuditReports.Text
