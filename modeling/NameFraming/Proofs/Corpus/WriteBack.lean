import NameFraming.Proofs.Corpus.Isolation

/-! What writing a program back does to its bytes. Every encoding but one gives back the bytes that
were read; a text in UTF-16 is written with the little-endian mark, whatever it was read from. -/

namespace NameFraming

/-- The second list is the first one with bars put in around some parts, and taken away around
others. -/
inductive Reframed {α : Type} (bar : List α) : List α → List α → Prop
  | nil : Reframed bar [] []
  | keep (part : List α) {text after : List α} :
      Reframed bar text after → Reframed bar (part ++ text) (part ++ after)
  | frame (word : List α) {text after : List α} :
      Reframed bar text after → Reframed bar (word ++ text) (bar ++ word ++ bar ++ after)
  | strip (word : List α) {text after : List α} :
      Reframed bar text after → Reframed bar (bar ++ word ++ bar ++ text) (word ++ after)

namespace Reframed

variable {α β : Type} {bar text after : List α}

theorem refl (bar text : List α) : Reframed bar text text := by
  simpa using Reframed.keep text .nil

theorem append {later laterAfter : List α} (first : Reframed bar text after)
    (second : Reframed bar later laterAfter) :
    Reframed bar (text ++ later) (after ++ laterAfter) := by
  induction first with
  | nil => exact second
  | keep part _ ih => simpa using Reframed.keep part ih
  | frame word _ ih => simpa using Reframed.frame word ih
  | strip word _ ih => simpa using Reframed.strip word ih

theorem flatMap (code : α → List β) (reframed : Reframed bar text after) :
    Reframed (bar.flatMap code) (text.flatMap code) (after.flatMap code) := by
  induction reframed with
  | nil => exact .nil
  | keep part _ ih => simpa using ih.keep (part.flatMap code)
  | frame word _ ih => simpa using ih.frame (word.flatMap code)
  | strip word _ ih => simpa using ih.strip (word.flatMap code)

theorem mem {item : α} (reframed : Reframed bar text after) (member : item ∈ after) :
    item ∈ bar ∨ item ∈ text := by
  induction reframed with
  | nil => cases member
  | keep part _ ih => simp only [List.mem_append] at member ⊢; tauto
  | frame word _ ih => simp only [List.mem_append] at member ⊢; tauto
  | strip word _ ih => simp only [List.mem_append] at member ⊢; tauto

end Reframed

theorem Framer.reframed_transform {materials : List Text} {preposition : Text}
    (vocabulary : Vocabulary) (canonical : ∀ material ∈ materials, CanonicalWord material)
    (isCanonical : CanonicalWord preposition) (text : Text) :
    Reframed [delimiter] text
      ((withMaterials vocabulary materials preposition).transform text) := by
  have composes : Composes (Reframed [delimiter]) := ⟨.refl _, .append⟩
  refine composes.transform vocabulary canonical isCanonical ?_ ?_ text
  · intro word _
    have framed := (Reframed.nil : Reframed [delimiter] _ _).frame word
    rwa [List.append_nil, List.append_nil] at framed
  · intro material _
    have stripped := (Reframed.nil : Reframed [delimiter] _ _).strip material
    rwa [List.append_nil, List.append_nil] at stripped

namespace Encoding

variable {encoding : Encoding} {text after : Text} {bytes : Bytes}

/-- What stands in front of every text in an encoding. -/
def opening : Encoding → Bytes
  | utf8Signed => Utf8.signature
  | utf16 => Utf16.signature
  | _ => []

/-- The bytes of a character. -/
def charBytes : Encoding → Char → Bytes
  | singleByte table => table.charBytes
  | utf8 | utf8Signed => String.utf8EncodeChar
  | utf16 => Utf16.charBytes .little
  | utf16Ordered order => Utf16.charBytes order

theorem eq_opening_append (encoded : encoding.encode text = .ok bytes) :
    bytes = encoding.opening ++ text.flatMap encoding.charBytes := by
  cases encoding with
  | singleByte table =>
      simp only [encode] at encoded
      split at encoded
      · rename_i found
        cases encoded
        exact SingleByte.eq_flatMap_charBytes found
      · cases encoded
  | utf8 => cases encoded; rfl
  | utf8Signed => cases encoded; rfl
  | utf16 => cases encoded; rfl
  | utf16Ordered order => cases encoded; rfl

theorem exists_encode (encoded : encoding.encode text = .ok bytes)
    (known : ∀ c ∈ after, c.toNat < 0x80 ∨ c ∈ text) :
    ∃ written, encoding.encode after = .ok written := by
  cases encoding with
  | singleByte table =>
      simp only [encode] at encoded ⊢
      split at encoded
      · rename_i found
        obtain ⟨written, ofAfter⟩ := SingleByte.exists_encode?_of_known found known
        exact ⟨written, by simp only [ofAfter]⟩
      · cases encoded
  | utf8 => exact ⟨_, rfl⟩
  | utf8Signed => exact ⟨_, rfl⟩
  | utf16 => exact ⟨_, rfl⟩
  | utf16Ordered order => exact ⟨_, rfl⟩

/-- Of bytes that are not UTF-8, only those in UTF-16 without the little-endian mark are not
written as they were read. -/
theorem encode_eq_ok_iff (notUtf8 : ¬ Utf8.IsUtf8 bytes)
    (decoded : encoding.decode? bytes = some text) :
    encoding.encode text = .ok bytes ↔ (encoding = .utf16 → Utf16.signature <+: bytes) := by
  cases encoding with
  | singleByte table =>
      have encoded : table.encode? text = some bytes := SingleByte.encode?_eq_some_iff.mpr decoded
      simp [encode, encoded]
  | utf8 => exact absurd (isUtf8_of_decode? (.inl rfl) decoded) notUtf8
  | utf8Signed => exact absurd (isUtf8_of_decode? (.inr rfl) decoded) notUtf8
  | utf16 =>
      simp only [encode, Except.ok.injEq, true_imp_iff]
      constructor
      · intro same
        exact ⟨_, same⟩
      · intro starts
        obtain ⟨rest, rfl⟩ := starts
        exact congrArg (Utf16.signature ++ ·) (Utf16.decode?_eq_some_iff.mp decoded).symm
  | utf16Ordered order => simp [encode, ← Utf16.decode?_eq_some_iff.mp decoded]

end Encoding

section Programs

variable {answer : Option String} {bytes : Bytes}

/-- The bytes of a program are those of its text, in the encoding that it was found in. -/
def DecodedProgram.IsLossless (decoded : DecodedProgram) (bytes : Bytes) : Prop :=
  decoded.encoding.encode decoded.text = .ok bytes

theorem Trusted.isLossless_iff (trusted : Trusted answer bytes) :
    (decodeProgram answer bytes).IsLossless bytes ↔
      ((decodeProgram answer bytes).encoding = .utf16 → Utf16.signature <+: bytes) := by
  unfold DecodedProgram.IsLossless
  cases trusted with
  | signed text written =>
      rw [written, decodeProgram_signed]
      simp [Encoding.encode]
  | unsigned text unmarked written =>
      rw [written, decodeProgram_unsigned answer unmarked]
      simp [Encoding.encode]
  | answered encoding text notUtf8 found decoded =>
      rw [decodeProgram_answered notUtf8 found decoded]
      exact Encoding.encode_eq_ok_iff notUtf8 decoded

/-- Written back with a framed text, a program has the bytes of the delimiter put in around names
and taken away around materials, and no other byte is changed. -/
theorem DecodedProgram.IsLossless.reframed {decoded : DecodedProgram} {after : Text}
    (lossless : decoded.IsLossless bytes) (reframed : Reframed [delimiter] decoded.text after) :
    ∃ written, decoded.encoding.encode after = .ok written ∧
      Reframed (decoded.encoding.charBytes delimiter) bytes written := by
  have known : ∀ c ∈ after, c.toNat < 0x80 ∨ c ∈ decoded.text := by
    intro c member
    refine (reframed.mem member).imp_left fun inBar => ?_
    rw [List.mem_singleton.mp inBar]
    decide
  obtain ⟨written, encoded⟩ := Encoding.exists_encode lossless known
  refine ⟨written, encoded, ?_⟩
  rw [Encoding.eq_opening_append lossless, Encoding.eq_opening_append encoded]
  have ofBytes := (reframed.flatMap decoded.encoding.charBytes).keep decoded.encoding.opening
  rwa [List.flatMap_singleton] at ofBytes

end Programs

theorem Framer.mem_writes {framer : Framer} {options : BatchOptions} {disk : Disk} {path : Path}
    {bytes : Bytes} {entry : Path × Bytes} (read : disk.read path = .ok bytes)
    (member : entry ∈ (framer.frameFile options disk path).writes) :
    entry.1 = path ∧ (decodeProgram options.answer bytes).encoding.encode
      (framer.transform (decodeProgram options.answer bytes).text) = .ok entry.2 := by
  rcases framer.frameFile_cases options disk path with
    ⟨_, none, _⟩ | ⟨before, written, readAgain, back, _, _, _, one⟩
  · rw [none] at member
    cases member
  · cases read.symm.trans readAgain
    rw [one, List.mem_singleton] at member
    rw [member]
    exact ⟨rfl, back.encoded⟩

/-- A program that needs no repair is written back as it was read, unless it is in UTF-16 without
the little-endian mark. Then, with any of the standard framers, a file gets delimiters put in and
taken away, in its own encoding, and keeps all its other bytes. -/
theorem Framer.isLossless_decodeProgram_iff (answer : Option String) (bytes : Bytes)
    (trust : (decodeProgram answer bytes).report.fallback = false) :
    Encoding.find (decodeProgram answer bytes).report.used =
        .ok (decodeProgram answer bytes).encoding ∧
      ((decodeProgram answer bytes).IsLossless bytes ↔
        ((decodeProgram answer bytes).encoding = .utf16 → Utf16.signature <+: bytes)) ∧
      ∀ (vocabulary : Vocabulary) (materials : List Text) (preposition : Text),
        (∀ material ∈ materials, CanonicalWord material) → CanonicalWord preposition →
        (decodeProgram answer bytes).IsLossless bytes →
        ∃ written, Reframed ((decodeProgram answer bytes).encoding.charBytes delimiter) bytes
            written ∧
          (decodeProgram answer bytes).encoding.encode
            ((withMaterials vocabulary materials preposition).transform
              (decodeProgram answer bytes).text) = .ok written ∧
          ∀ (suffix : Text) (write : Bool) (disk : Disk) (path : Path),
            disk.read path = .ok bytes →
            ∀ entry ∈ ((withMaterials vocabulary materials preposition).frameFile
              { suffix, write, answer } disk path).writes, entry = (path, written) := by
  have trusted := trusted_of_decodeProgram trust
  refine ⟨trusted.find_used, trusted.isLossless_iff, ?_⟩
  intro vocabulary materials preposition canonical isCanonical lossless
  obtain ⟨written, encoded, reframed⟩ := lossless.reframed
    (reframed_transform vocabulary canonical isCanonical (decodeProgram answer bytes).text)
  refine ⟨written, reframed, encoded, ?_⟩
  intro suffix write disk path read entry member
  obtain ⟨samePath, alsoEncoded⟩ := mem_writes read member
  exact Prod.ext samePath (Except.ok.inj (alsoEncoded.symm.trans encoded))

/-- `S €ÿ` in Windows-1252, and `S` in big-endian UTF-16 with its mark. -/
theorem Framer.isLossless_decodeProgram_iff_marks :
    (decodeProgram (some "cp1252") [0x53, 0x20, 0x80, 0xFF]).report.fallback = false ∧
      (decodeProgram (some "cp1252") [0x53, 0x20, 0x80, 0xFF]).IsLossless
        [0x53, 0x20, 0x80, 0xFF] ∧
      (decodeProgram (some "utf_16") [0xFE, 0xFF, 0x00, 0x53]).report.fallback = false ∧
      ¬ (decodeProgram (some "utf_16") [0xFE, 0xFF, 0x00, 0x53]).IsLossless
        [0xFE, 0xFF, 0x00, 0x53] := by
  have notUtf8 : ∀ {bytes : Bytes}, 0xFF ∈ bytes → ¬ Utf8.IsUtf8 bytes :=
    fun member valid => absurd (valid.lt_of_mem member) (by decide)
  have windows := @decodeProgram_answered (some "cp1252") [0x53, 0x20, 0x80, 0xFF] "S €ÿ".toList
    (.singleByte .windows1252) (notUtf8 (by decide)) (by decide +kernel) (by decide +kernel)
  have wide := @decodeProgram_answered (some "utf_16") [0xFE, 0xFF, 0x00, 0x53] ['S'] .utf16
    (notUtf8 (by decide)) (by decide +kernel) (by decide +kernel)
  have trustWindows := congrArg (fun decoded => decoded.report.fallback) windows
  have trustWide := congrArg (fun decoded => decoded.report.fallback) wide
  refine ⟨trustWindows, ?_, trustWide, ?_⟩
  · rw [(isLossless_decodeProgram_iff _ _ trustWindows).2.1, windows]
    intro isUtf16
    cases isUtf16
  · rw [(isLossless_decodeProgram_iff _ _ trustWide).2.1, wide]
    intro signed
    exact absurd (signed rfl) (by decide)

end NameFraming
