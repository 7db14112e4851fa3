import NameFraming.Encoding.Utf8

/-! Which bytes are UTF-8. Reading and writing are inverse to each other, and a byte below 80 always
stands between two characters, so it can be put in or taken out without joining what is left and
right of it. -/

namespace NameFraming.Utf8

variable {text : Text} {bytes front back : Bytes} {byte : UInt8} {c : Char}

@[simp] theorem encode_nil : encode [] = [] := rfl

@[simp] theorem encode_cons (c : Char) (rest : Text) :
    encode (c :: rest) = String.utf8EncodeChar c ++ encode rest := rfl

@[simp] theorem encode_append (text later : Text) :
    encode (text ++ later) = encode text ++ encode later :=
  List.flatMap_append

theorem decode?_eq_some_iff : decode? bytes = some text ↔ bytes = encode text := by
  rw [decode?, Option.map_eq_some_iff]
  constructor
  · intro ⟨read, found, same⟩
    unfold String.fromUTF8? at found
    split at found
    · rename_i valid
      cases found
      apply List.toByteArray_inj.mp
      rw [← same]
      exact (@String.utf8Encode_toList (.fromUTF8 bytes.toByteArray valid)).symm
    · cases found
  · intro same
    have valid : bytes.toByteArray.IsValidUTF8 := ⟨text, by rw [same]; rfl⟩
    refine ⟨.ofList text, ?_, String.toList_ofList⟩
    rw [String.fromUTF8?, dif_pos valid, Option.some.injEq, ← String.toByteArray_inj,
      String.toByteArray_ofList]
    exact congrArg List.toByteArray same

@[simp] theorem decode?_encode (text : Text) : decode? (encode text) = some text :=
  decode?_eq_some_iff.mpr rfl

/-- The bytes are those of a text. -/
def IsUtf8 (bytes : Bytes) : Prop :=
  ∃ text, bytes = encode text

theorem decode?_eq_none_iff : decode? bytes = none ↔ ¬ IsUtf8 bytes := by
  cases found : decode? bytes with
  | none =>
      simp only [true_iff]
      intro ⟨text, same⟩
      rw [decode?_eq_some_iff.mpr same] at found
      cases found
  | some text => simpa using ⟨text, decode?_eq_some_iff.mp found⟩

theorem isUtf8_encode (text : Text) : IsUtf8 (encode text) :=
  ⟨text, rfl⟩

theorem IsUtf8.append (first : IsUtf8 front) (second : IsUtf8 back) : IsUtf8 (front ++ back) := by
  obtain ⟨text, rfl⟩ := first
  obtain ⟨later, rfl⟩ := second
  exact ⟨text ++ later, by simp⟩

/-- A character is one byte below 80, or all its bytes are above. -/
theorem utf8EncodeChar_cases (c : Char) :
    (∃ byte : UInt8, byte < 0x80 ∧ String.utf8EncodeChar c = [byte]) ∨
      ∀ byte ∈ String.utf8EncodeChar c, 0x80 ≤ byte ∧ byte < 0xF8 := by
  unfold String.utf8EncodeChar
  simp only [UInt8.lt_iff_toNat_lt, UInt8.le_iff_toNat_le]
  split
  · rename_i one
    rw [Char.toNat_val] at one
    refine .inl ⟨_, ?_, rfl⟩
    simp
    omega
  · -- A byte of a longer form is a sum with a lead or continuation bit.
    refine .inr fun byte member => ?_
    split at member
    · simp only [List.mem_cons, List.not_mem_nil, or_false] at member
      rcases member with rfl | rfl <;> simp <;> omega
    · split at member
      · simp only [List.mem_cons, List.not_mem_nil, or_false] at member
        rcases member with rfl | rfl | rfl <;> simp <;> omega
      · simp only [List.mem_cons, List.not_mem_nil, or_false] at member
        rcases member with rfl | rfl | rfl | rfl <;> simp <;> omega

theorem utf8EncodeChar_eq_singleton (member : byte ∈ String.utf8EncodeChar c)
    (ascii : byte < 0x80) : String.utf8EncodeChar c = [byte] := by
  rcases utf8EncodeChar_cases c with ⟨only, _, whole⟩ | high
  · rw [whole] at member ⊢
    rw [List.mem_singleton.mp member]
  · exact absurd ascii (UInt8.not_lt.mpr (high byte member).1)

theorem IsUtf8.lt_of_mem (valid : IsUtf8 bytes) (member : byte ∈ bytes) : byte < 0xF8 := by
  obtain ⟨text, rfl⟩ := valid
  obtain ⟨c, _, ofChar⟩ := List.mem_flatMap.mp member
  rcases utf8EncodeChar_cases c with ⟨only, ascii, whole⟩ | high
  · rw [whole, List.mem_singleton] at ofChar
    exact ofChar ▸ UInt8.lt_trans ascii (by decide)
  · exact (high byte ofChar).2

theorem IsUtf8.split (ascii : byte < 0x80) (valid : IsUtf8 (front ++ byte :: back)) :
    IsUtf8 front ∧ IsUtf8 back := by
  obtain ⟨text, whole⟩ := valid
  induction text generalizing front with
  | nil => simp at whole
  | cons c rest ih =>
      rw [encode_cons, List.append_eq_append_iff] at whole
      rcases whole with ⟨more, char, tail⟩ | ⟨more, frontEq, tail⟩
      · cases more with
        | nil =>
            rw [List.append_nil] at char
            obtain ⟨_, ofBack⟩ := @ih [] tail
            exact ⟨⟨[c], by simp [char]⟩, ofBack⟩
        | cons first others =>
            rw [List.cons_append, List.cons.injEq] at tail
            obtain ⟨rfl, backEq⟩ := tail
            have member : byte ∈ String.utf8EncodeChar c := by simp [char]
            rw [utf8EncodeChar_eq_singleton member ascii] at char
            cases front with
            | nil =>
                simp only [List.nil_append, List.cons.injEq, true_and] at char
                subst char
                exact ⟨isUtf8_encode [], rest, backEq⟩
            | cons _ _ => simp at char
      · obtain ⟨ofMore, ofBack⟩ := ih tail.symm
        have ofChar : IsUtf8 (String.utf8EncodeChar c) := ⟨[c], by simp⟩
        exact ⟨frontEq ▸ ofChar.append ofMore, ofBack⟩

theorem IsUtf8.of_ascii_append {middle : Bytes} (ascii : ∀ byte ∈ middle, byte < 0x80)
    (valid : IsUtf8 (middle ++ back)) : IsUtf8 back := by
  induction middle with
  | nil => exact valid
  | cons byte rest ih =>
      obtain ⟨byteAscii, restAscii⟩ := List.forall_mem_cons.mp ascii
      exact ih restAscii (@IsUtf8.split [] (rest ++ back) byte byteAscii valid).2

theorem isUtf8_of_ascii (ascii : ∀ byte ∈ bytes, byte < 0x80) : IsUtf8 bytes := by
  have single : ∀ code < 128, String.utf8EncodeChar (Char.ofNat code) = [UInt8.ofNat code] := by
    decide
  induction bytes with
  | nil => exact isUtf8_encode []
  | cons byte rest ih =>
      obtain ⟨byteAscii, restAscii⟩ := List.forall_mem_cons.mp ascii
      have one := single byte.toNat byteAscii
      rw [UInt8.ofNat_toNat] at one
      have ofByte : IsUtf8 [byte] := ⟨[Char.ofNat byte.toNat], by simp [one]⟩
      exact ofByte.append (ih restAscii)

/-- Bytes below 80 separate what stands before and behind them. -/
theorem isUtf8_around_iff {middle : Bytes} (nonempty : middle ≠ [])
    (ascii : ∀ byte ∈ middle, byte < 0x80) :
    IsUtf8 (front ++ middle ++ back) ↔ IsUtf8 front ∧ IsUtf8 back := by
  constructor
  · intro valid
    obtain ⟨byte, rest, rfl⟩ := List.exists_cons_of_ne_nil nonempty
    obtain ⟨byteAscii, restAscii⟩ := List.forall_mem_cons.mp ascii
    rw [List.append_assoc] at valid
    obtain ⟨ofFront, ofRest⟩ := IsUtf8.split byteAscii valid
    exact ⟨ofFront, ofRest.of_ascii_append restAscii⟩
  · intro ⟨ofFront, ofBack⟩
    exact (ofFront.append (isUtf8_of_ascii ascii)).append ofBack

/-- The character that a byte order mark is. -/
def mark : Char := '\uFEFF'

theorem encode_mark : encode [mark] = signature := by decide

theorem signature_isPrefixOf_encode_iff :
    signature.isPrefixOf (encode text) = true ↔ text.head? = some mark := by
  rw [List.isPrefixOf_iff_prefix, ← encode_mark]
  constructor
  · intro ⟨rest, whole⟩
    have arrays := congrArg List.toByteArray whole
    rw [List.toByteArray_append] at arrays
    have starts : [mark] <+: text :=
      List.isPrefix_of_utf8Encode_append_eq_utf8Encode rest.toByteArray arrays
    obtain ⟨later, rfl⟩ := starts
    rfl
  · intro first
    obtain ⟨later, rfl⟩ : ∃ later, text = mark :: later := List.head?_eq_some_iff.mp first
    exact ⟨encode later, rfl⟩

end NameFraming.Utf8
