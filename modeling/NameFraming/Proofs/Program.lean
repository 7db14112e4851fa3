import NameFraming.Program
import NameFraming.Proofs.Encoding.RoundTrip
import NameFraming.Proofs.Framer.Edits

/-! Which encoding the text of a program is found in. It is the same for a program and for what is
written back after an edit: the bytes stay UTF-8 or stay something else, and a byte order mark is
neither lost nor won. -/

namespace NameFraming

open Utf8 (IsUtf8 mark signature)

variable {answer : Option String} {bytes : Bytes} {text after : Text}

section Own

@[simp] theorem ownEncoding_signed (rest : Bytes) :
    ownEncoding (signature ++ rest) = (.utf8Signed, "utf-8-sig") := by
  have starts : signature.isPrefixOf (signature ++ rest) = true :=
    List.isPrefixOf_iff_prefix.mpr (List.prefix_append _ _)
  rw [ownEncoding, if_pos starts]

theorem ownEncoding_unsigned (unsigned : signature.isPrefixOf bytes = false) :
    ownEncoding bytes = (.utf8, "utf-8") := by
  rw [ownEncoding, if_neg (by simp [unsigned])]

theorem decode?_signed (rest : Bytes) :
    Encoding.utf8Signed.decode? (signature ++ rest) = Utf8.decode? rest := by
  have starts : signature.isPrefixOf (signature ++ rest) = true :=
    List.isPrefixOf_iff_prefix.mpr (List.prefix_append _ _)
  rw [Encoding.decode?, if_pos starts]
  rfl

theorem isUtf8_signed_iff {rest : Bytes} : IsUtf8 (signature ++ rest) ↔ IsUtf8 rest := by
  constructor
  · intro ⟨text, whole⟩
    have starts : signature.isPrefixOf (Utf8.encode text) = true :=
      List.isPrefixOf_iff_prefix.mpr ⟨rest, whole⟩
    have marked := Utf8.signature_isPrefixOf_encode_iff.mp starts
    obtain ⟨later, rfl⟩ := List.head?_eq_some_iff.mp marked
    rw [← List.singleton_append, Utf8.encode_append, Utf8.encode_mark] at whole
    exact ⟨later, List.append_cancel_left whole⟩
  · intro ofRest
    rw [← Utf8.encode_mark]
    exact (Utf8.isUtf8_encode [mark]).append ofRest

/-- Taking off a byte order mark does not change whether bytes are UTF-8. -/
theorem decode?_own_eq_none_iff :
    (ownEncoding bytes).1.decode? bytes = none ↔ ¬ IsUtf8 bytes := by
  cases starts : signature.isPrefixOf bytes with
  | true =>
      obtain ⟨rest, rfl⟩ := List.isPrefixOf_iff_prefix.mp starts
      rw [ownEncoding_signed, decode?_signed, Utf8.decode?_eq_none_iff, isUtf8_signed_iff]
  | false =>
      rw [ownEncoding_unsigned starts]
      exact Utf8.decode?_eq_none_iff

end Own

namespace Codecs

variable {ε : Type} {codecs : Codecs ε} {encoding : ε}

/-- The name is that of no encoding, or of one that the bytes are not in. -/
def Refuses (codecs : Codecs ε) (name : String) (bytes : Bytes) : Prop :=
  codecs.read name bytes = .ok none ∨
    ∃ error, codecs.read name bytes = .error error ∧ error.isLookup = true

theorem read_cases (codecs : Codecs ε) (name : String) (bytes : Bytes) :
    (∃ encoding text, codecs.read name bytes = .ok (some (encoding, text))) ∨
      codecs.Refuses name bytes ∨
      ∃ error, codecs.read name bytes = .error error ∧ error.isLookup = false := by
  rcases result : codecs.read name bytes with error | (_ | ⟨encoding, text⟩)
  · cases lookup : error.isLookup with
    | true => exact .inr (.inl (.inr ⟨error, result, lookup⟩))
    | false => exact .inr (.inr ⟨error, rfl, lookup⟩)
  · exact .inr (.inl (.inl result))
  · exact .inl ⟨encoding, text, rfl⟩

theorem decodeProgram_signed (codecs : Codecs ε) (answer : Option String) (text : Text) :
    codecs.decodeProgram answer (signature ++ Utf8.encode text) =
      .ok ⟨text, codecs.known .utf8Signed, ⟨none, "utf-8-sig", false⟩⟩ := by
  simp only [decodeProgram, ownEncoding_signed, decode?_signed, Utf8.decode?_encode]

theorem decodeProgram_unsigned (codecs : Codecs ε) (answer : Option String)
    (unmarked : text.head? ≠ some mark) :
    codecs.decodeProgram answer (Utf8.encode text) =
      .ok ⟨text, codecs.known .utf8, ⟨none, "utf-8", false⟩⟩ := by
  have unsigned : signature.isPrefixOf (Utf8.encode text) = false := by
    rw [Bool.eq_false_iff, ne_eq, Utf8.signature_isPrefixOf_encode_iff]
    exact unmarked
  simp only [decodeProgram, ownEncoding_unsigned unsigned, Encoding.decode?, Utf8.decode?_encode]

theorem decodeProgram_of_isUtf8 (codecs : Codecs ε) (answer : Option String)
    (valid : IsUtf8 bytes) :
    ∃ text, codecs.decodeProgram answer bytes =
      .ok ⟨text, codecs.known (ownEncoding bytes).1, ⟨none, (ownEncoding bytes).2, false⟩⟩ ∧
        (ownEncoding bytes).1.decode? bytes = some text := by
  cases own : (ownEncoding bytes).1.decode? bytes with
  | none => exact absurd valid (decode?_own_eq_none_iff.mp own)
  | some text => exact ⟨text, by simp only [decodeProgram, own], rfl⟩

section Asked

variable (notUtf8 : ¬ IsUtf8 bytes)
include notUtf8

theorem decodeProgram_of_read
    (read : codecs.read (answeredEncoding answer) bytes = .ok (some (encoding, text))) :
    codecs.decodeProgram answer bytes =
      .ok ⟨text, encoding, ⟨answer, answeredEncoding answer, false⟩⟩ := by
  simp only [decodeProgram, decode?_own_eq_none_iff.mpr notUtf8, read]

theorem decodeProgram_of_refuses (refuses : codecs.Refuses (answeredEncoding answer) bytes) :
    codecs.decodeProgram answer bytes = .ok (codecs.repaired answer bytes) := by
  rcases refuses with read | ⟨error, read, lookup⟩
  · simp only [decodeProgram, decode?_own_eq_none_iff.mpr notUtf8, read]
  · simp only [decodeProgram, decode?_own_eq_none_iff.mpr notUtf8, read, lookup, if_true]

theorem decodeProgram_of_error {error : EncodingError}
    (read : codecs.read (answeredEncoding answer) bytes = .error error)
    (noLookup : error.isLookup = false) : codecs.decodeProgram answer bytes = .error error := by
  simp only [decodeProgram, decode?_own_eq_none_iff.mpr notUtf8, read, noLookup,
    Bool.false_eq_true, if_false]

end Asked

/-- Only a detector's answer that is asked for can keep a program from being read. -/
theorem decodeProgram_eq_error_iff {error : EncodingError} :
    codecs.decodeProgram answer bytes = .error error ↔
      ¬ IsUtf8 bytes ∧ codecs.read (answeredEncoding answer) bytes = .error error ∧
        error.isLookup = false := by
  constructor
  · intro failed
    by_cases valid : IsUtf8 bytes
    · obtain ⟨text, found, _⟩ := codecs.decodeProgram_of_isUtf8 answer valid
      cases found.symm.trans failed
    · rcases codecs.read_cases (answeredEncoding answer) bytes with
        ⟨encoding, text, read⟩ | refuses | ⟨other, read, noLookup⟩
      · cases (decodeProgram_of_read valid read).symm.trans failed
      · cases (decodeProgram_of_refuses valid refuses).symm.trans failed
      · cases (decodeProgram_of_error valid read noLookup).symm.trans failed
        exact ⟨valid, read, noLookup⟩
  · intro ⟨notUtf8, read, noLookup⟩
    exact decodeProgram_of_error notUtf8 read noLookup

end Codecs

section Known

theorem decodeProgram_of_ok {decoded : DecodedProgram}
    (found : Encoding.codecs.decodeProgram answer bytes = .ok decoded) :
    decodeProgram answer bytes = decoded := by
  rw [decodeProgram, found]

theorem decodeProgram_signed (answer : Option String) (text : Text) :
    decodeProgram answer (signature ++ Utf8.encode text) =
      ⟨text, .utf8Signed, ⟨none, "utf-8-sig", false⟩⟩ :=
  decodeProgram_of_ok (Encoding.codecs.decodeProgram_signed answer text)

theorem decodeProgram_unsigned (answer : Option String) (unmarked : text.head? ≠ some mark) :
    decodeProgram answer (Utf8.encode text) = ⟨text, .utf8, ⟨none, "utf-8", false⟩⟩ :=
  decodeProgram_of_ok (Encoding.codecs.decodeProgram_unsigned answer unmarked)

theorem decodeProgram_answered {encoding : Encoding} (notUtf8 : ¬ IsUtf8 bytes)
    (found : Encoding.find (answeredEncoding answer) = .ok encoding)
    (decoded : encoding.decode? bytes = some text) :
    decodeProgram answer bytes = ⟨text, encoding, ⟨answer, answeredEncoding answer, false⟩⟩ := by
  have read := Encoding.codecs.read_known found bytes
  rw [decoded, Option.map_some] at read
  exact decodeProgram_of_ok (Codecs.decodeProgram_of_read notUtf8 read)

/-- A name under which nothing can be read is no better than none. -/
theorem decodeProgram_unanswered (notUtf8 : ¬ IsUtf8 bytes)
    (unread : ∀ encoding text, Encoding.codecs.read (answeredEncoding answer) bytes ≠
      .ok (some (encoding, text))) :
    decodeProgram answer bytes = Encoding.codecs.repaired answer bytes := by
  rcases Encoding.codecs.read_cases (answeredEncoding answer) bytes with
    ⟨encoding, text, read⟩ | refuses | ⟨error, read, noLookup⟩
  · exact absurd read (unread encoding text)
  · exact decodeProgram_of_ok (Codecs.decodeProgram_of_refuses notUtf8 refuses)
  · rw [decodeProgram, Codecs.decodeProgram_of_error notUtf8 read noLookup]

theorem Encoding.find_of_read {name : String} {encoding : Encoding}
    (read : Encoding.codecs.read name bytes = .ok (some (encoding, text))) :
    Encoding.find name = .ok encoding ∧ encoding.decode? bytes = some text := by
  cases found : Encoding.find name with
  | error error => simp [Encoding.codecs, found, Except.map] at read
  | ok other =>
      rw [Encoding.codecs.read_known found, Except.ok.injEq, Option.map_eq_some_iff] at read
      obtain ⟨_, decoded, same⟩ := read
      cases same
      exact ⟨rfl, decoded⟩

theorem Encoding.read_eq_error_iff {name : String} {error : EncodingError} :
    Encoding.codecs.read name bytes = .error error ↔ Encoding.find name = .error error := by
  cases found : Encoding.find name <;> simp [Encoding.codecs, found, Except.map]

/-- All that can go wrong with a name, but for a null character in it, is that it is looked up in
vain. -/
theorem Encoding.find_noLookup_iff {name : String} {error : EncodingError} :
    Encoding.find name = .error error ∧ error.isLookup = false ↔
      Encoding.find name = .error .nullCharacter ∧ error = .nullCharacter := by
  constructor
  · intro ⟨failed, noLookup⟩
    suffices null : error = .nullCharacter from ⟨null ▸ failed, null⟩
    simp only [find] at failed
    split at failed
    · cases failed
      rfl
    · repeat' split at failed
      all_goals cases failed
      all_goals cases noLookup
  · rintro ⟨failed, rfl⟩
    exact ⟨failed, rfl⟩

theorem answerError?_eq_some_iff {error : EncodingError} :
    answerError? answer bytes = some error ↔
      ¬ IsUtf8 bytes ∧ Encoding.find (answeredEncoding answer) = .error .nullCharacter ∧
        error = .nullCharacter := by
  have failed : answerError? answer bytes = some error ↔
      Encoding.codecs.decodeProgram answer bytes = .error error := by
    rw [answerError?]
    cases Encoding.codecs.decodeProgram answer bytes <;> simp
  rw [failed, Codecs.decodeProgram_eq_error_iff, Encoding.read_eq_error_iff,
    Encoding.find_noLookup_iff]

theorem answerError?_eq_none
    (lookedUp : Encoding.find (answeredEncoding answer) ≠ .error .nullCharacter) :
    answerError? answer bytes = none :=
  Option.eq_none_iff_forall_ne_some.mpr fun _ failed =>
    lookedUp (answerError?_eq_some_iff.mp failed).2.1

end Known

/-- How a text is found that needs no repair. -/
inductive Trusted (answer : Option String) (bytes : Bytes) : Prop
  | signed (text : Text) (written : bytes = signature ++ Utf8.encode text)
  | unsigned (text : Text) (unmarked : text.head? ≠ some mark) (written : bytes = Utf8.encode text)
  | answered (encoding : Encoding) (text : Text) (notUtf8 : ¬ IsUtf8 bytes)
      (found : Encoding.find (answeredEncoding answer) = .ok encoding)
      (decoded : encoding.decode? bytes = some text)

theorem trusted_of_isUtf8 (valid : IsUtf8 bytes) : Trusted answer bytes := by
  obtain ⟨text, rfl⟩ := valid
  by_cases marked : text.head? = some mark
  · obtain ⟨later, rfl⟩ := List.head?_eq_some_iff.mp marked
    exact .signed later (by rw [← Utf8.encode_mark]; rfl)
  · exact .unsigned text marked rfl

theorem trusted_of_decodeProgram (trust : (decodeProgram answer bytes).report.fallback = false) :
    Trusted answer bytes := by
  by_cases valid : IsUtf8 bytes
  · exact trusted_of_isUtf8 valid
  · by_contra untrusted
    have unanswered := decodeProgram_unanswered valid fun encoding text read =>
      have ⟨found, decoded⟩ := Encoding.find_of_read read
      untrusted (.answered encoding text valid found decoded)
    rw [unanswered] at trust
    cases trust

/-- The reported name is one of the encoding that the text was found in. -/
theorem Trusted.find_used (trusted : Trusted answer bytes) :
    Encoding.find (decodeProgram answer bytes).report.used =
      .ok (decodeProgram answer bytes).encoding := by
  cases trusted with
  | signed text written =>
      rw [written, decodeProgram_signed]
      exact (by decide +kernel : Encoding.find "utf-8-sig" = .ok .utf8Signed)
  | unsigned text unmarked written =>
      rw [written, decodeProgram_unsigned answer unmarked]
      exact (by decide +kernel : Encoding.find "utf-8" = .ok .utf8)
  | answered encoding text notUtf8 found decoded =>
      rw [decodeProgram_answered notUtf8 found decoded]
      exact found

/-- With or without a signature, bytes that are read in a form of UTF-8 are UTF-8. -/
theorem Encoding.isUtf8_of_decode? {encoding : Encoding}
    (own : encoding = .utf8 ∨ encoding = .utf8Signed)
    (decoded : encoding.decode? bytes = some text) : IsUtf8 bytes := by
  rcases own with rfl | rfl
  · exact ⟨text, Utf8.decode?_eq_some_iff.mp decoded⟩
  · cases starts : signature.isPrefixOf bytes with
    | true =>
        obtain ⟨rest, rfl⟩ := List.isPrefixOf_iff_prefix.mp starts
        rw [decode?_signed, Utf8.decode?_eq_some_iff] at decoded
        exact isUtf8_signed_iff.mpr ⟨text, decoded⟩
    | false =>
        simp only [Encoding.decode?, starts, Bool.false_eq_true, if_false] at decoded
        exact ⟨text, Utf8.decode?_eq_some_iff.mp decoded⟩

/-- What is read in an encoding can be written in it after an edit, is read back, and does not
become UTF-8 by it. -/
theorem Encoding.encode_edited {encoding : Encoding} (notUtf8 : ¬ IsUtf8 bytes)
    (decoded : encoding.decode? bytes = some text) (edited : Edited text after) :
    ∃ written, encoding.encode after = .ok written ∧ encoding.decode? written = some after ∧
      ¬ IsUtf8 written := by
  cases encoding with
  | utf8 => exact absurd (isUtf8_of_decode? (.inl rfl) decoded) notUtf8
  | utf8Signed => exact absurd (isUtf8_of_decode? (.inr rfl) decoded) notUtf8
  | utf16 =>
      -- The mark in front of every such text is no UTF-8.
      refine ⟨_, rfl, Utf16.decodeMarked?_encodeMarked after, fun valid => ?_⟩
      have below := valid.lt_of_mem (List.mem_cons_self : (0xFF : UInt8) ∈ _)
      exact absurd below (by decide)
  | utf16Ordered order =>
      refine ⟨_, rfl, Utf16.decode?_eq_some_iff.mpr rfl, fun valid => notUtf8 ?_⟩
      have earlier := @Edited.isUtf8 text after (Utf16.charBytes order)
        (fun _ => Utf16.charBytes_of_ascii) edited [] valid
      rw [Utf16.decode?_eq_some_iff.mp decoded]
      exact earlier
  | singleByte table =>
      have encoded : table.encode? text = some bytes := SingleByte.encode?_eq_some_iff.mpr decoded
      have known : ∀ c ∈ after, c.toNat < 0x80 ∨ c ∈ text := by
        intro c member
        rcases edited.mem member with rfl | inText
        · exact .inl (by decide)
        · exact .inr inText
      obtain ⟨written, encodedAfter⟩ := SingleByte.exists_encode?_of_known encoded known
      refine ⟨written, by simp only [Encoding.encode, encodedAfter],
        SingleByte.encode?_eq_some_iff.mp encodedAfter, fun valid => notUtf8 ?_⟩
      rw [SingleByte.eq_flatMap_charBytes encodedAfter] at valid
      rw [SingleByte.eq_flatMap_charBytes encoded]
      exact @Edited.isUtf8 text after table.charBytes (fun _ => SingleByte.charBytes_of_ascii)
        edited [] valid

/-- The text of a program after an edit is written in the encoding that it was found in, and found
in the same way again. -/
theorem Trusted.decodeProgram_edited (trusted : Trusted answer bytes)
    (edited : Edited (decodeProgram answer bytes).text after) :
    ∃ written, (decodeProgram answer bytes).encoding.encode after = .ok written ∧
      decodeProgram answer written = { decodeProgram answer bytes with text := after } ∧
      (IsUtf8 written ↔ IsUtf8 bytes) := by
  cases trusted with
  | signed text written =>
      rw [written, decodeProgram_signed] at edited ⊢
      refine ⟨_, rfl, decodeProgram_signed answer after, ?_⟩
      simp only [isUtf8_signed_iff, Utf8.isUtf8_encode]
  | unsigned text unmarked written =>
      rw [written, decodeProgram_unsigned answer unmarked] at edited ⊢
      refine ⟨_, rfl, decodeProgram_unsigned answer ?_, ?_⟩
      · exact fun marked => unmarked (edited.head?_eq_mark marked)
      · simp only [Utf8.isUtf8_encode]
  | answered encoding text notUtf8 found decoded =>
      rw [decodeProgram_answered notUtf8 found decoded] at edited ⊢
      obtain ⟨written, encoded, again, stillNot⟩ := encoding.encode_edited notUtf8 decoded edited
      exact ⟨written, encoded, decodeProgram_answered stillNot found again,
        iff_of_false stillNot notUtf8⟩

theorem answerError?_congr {written : Bytes} (same : IsUtf8 written ↔ IsUtf8 bytes) :
    answerError? answer written = answerError? answer bytes := by
  apply Option.ext
  intro error
  rw [answerError?_eq_some_iff, answerError?_eq_some_iff, same]

end NameFraming
