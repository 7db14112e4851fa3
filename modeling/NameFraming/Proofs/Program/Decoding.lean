import NameFraming.Proofs.Program

/-! What a detector's answer decides, whatever encodings there are. Bytes that are UTF-8 are read
without one; for others the answer is taken when it fits, and else the text is repaired, in one way
for all answers. -/

namespace NameFraming

open Utf8 (IsUtf8 mark signature)

theorem Encoding.find_eq_nullCharacter_iff {name : String} :
    Encoding.find name = .error .nullCharacter ↔ '\x00' ∈ name.toList := by
  unfold find
  simp only [List.contains_iff_mem]
  split
  · simp [*]
  · repeat' split
    all_goals simp [*]

namespace Codecs

variable {ε : Type} {codecs : Codecs ε} {encoding : ε} {answer : Option String} {bytes : Bytes}
  {text : Text}

/-- What detectors answer with: the name of an encoding that bytes are in or are not in, or one that
is looked up in vain. -/
def Answerable (codecs : Codecs ε) (answer : Option String) : Prop :=
  ∀ name ∈ answer, ∀ bytes error, codecs.read name bytes = .error error → error.isLookup = true

/-- Of the encodings of `Encoding`, and of names that none of them has, only those with a null
character are no answers. -/
theorem answerable_encoding_iff :
    Encoding.codecs.Answerable answer ↔ ∀ name ∈ answer, '\x00' ∉ name.toList := by
  refine forall₂_congr fun name _ => ?_
  simp only [Encoding.read_eq_error_iff, ← Encoding.find_eq_nullCharacter_iff]
  constructor
  · intro lookup null
    cases lookup [] _ null
  · intro notNull _ error failed
    by_contra noLookup
    exact notNull (Encoding.find_noLookup_iff.mp ⟨failed, Bool.eq_false_iff.mpr noLookup⟩).1

/-- UTF-8 stands for a missing answer. It was tried before, so it is refused. -/
theorem refuses_or_eq_some (codecs : Codecs ε) (answer : Option String) (notUtf8 : ¬ IsUtf8 bytes) :
    codecs.Refuses (answeredEncoding answer) bytes ∨ answer = some (answeredEncoding answer) := by
  have ofOwn : answeredEncoding answer = "utf-8" →
      codecs.Refuses (answeredEncoding answer) bytes := by
    intro isOwn
    have own : Encoding.find "utf-8" = .ok .utf8 := by decide +kernel
    have unread : Encoding.utf8.decode? bytes = none := Utf8.decode?_eq_none_iff.mpr notUtf8
    exact .inl (by rw [isOwn, codecs.read_known own, unread, Option.map_none])
  cases answer with
  | none => exact .inl (ofOwn rfl)
  | some name =>
      by_cases empty : name.isEmpty = true
      · exact .inl (ofOwn (if_pos empty))
      · exact .inr (congrArg some (if_neg empty).symm)

theorem Answerable.read_or_refuses (answerable : codecs.Answerable answer)
    (notUtf8 : ¬ IsUtf8 bytes) :
    (∃ encoding text, codecs.read (answeredEncoding answer) bytes = .ok (some (encoding, text))) ∨
      codecs.Refuses (answeredEncoding answer) bytes := by
  rcases codecs.refuses_or_eq_some answer notUtf8 with refuses | named
  · exact .inr refuses
  · rcases codecs.read_cases (answeredEncoding answer) bytes with read | refuses | ⟨error, read, no⟩
    · exact .inl read
    · exact .inr refuses
    · rw [answerable _ named bytes error read] at no
      cases no

theorem not_refuses_of_read {name : String}
    (read : codecs.read name bytes = .ok (some (encoding, text))) :
    ¬ codecs.Refuses name bytes := by
  rintro (refused | ⟨_, failed, _⟩)
  · cases read.symm.trans refused
  · cases read.symm.trans failed

/-- The answer does not matter for bytes that are UTF-8. For others it decides. A program is read
with every answer that detectors give; only an encoding that breaks down can prevent it. -/
theorem decodeProgram_decides (codecs : Codecs ε) (answer other : Option String) (bytes : Bytes) :
    (∀ error, codecs.decodeProgram answer bytes = .error error ↔
      ¬ IsUtf8 bytes ∧ codecs.read (answeredEncoding answer) bytes = .error error ∧
        error.isLookup = false) ∧
    (IsUtf8 bytes → ∃ decoded,
      codecs.decodeProgram answer bytes = .ok decoded ∧
      codecs.decodeProgram other bytes = .ok decoded ∧
      decoded.report =
        ⟨none, if signature.isPrefixOf bytes then "utf-8-sig" else "utf-8", false⟩) ∧
    (∀ text, ∃ written, Encoding.utf8Signed.encode text = .ok written ∧
      codecs.decodeProgram answer written =
        .ok ⟨text, codecs.known .utf8Signed, ⟨none, "utf-8-sig", false⟩⟩) ∧
    (∀ text, text.head? ≠ some mark → ∃ written, Encoding.utf8.encode text = .ok written ∧
      codecs.decodeProgram answer written =
        .ok ⟨text, codecs.known .utf8, ⟨none, "utf-8", false⟩⟩) ∧
    (¬ IsUtf8 bytes → codecs.Answerable answer → ∃ decoded,
      codecs.decodeProgram answer bytes = .ok decoded ∧
      decoded.report.detected = answer ∧
      (decoded.report.fallback = true ↔ codecs.Refuses (answeredEncoding answer) bytes) ∧
      (decoded.report.fallback = true →
        decoded.report.used = "utf-8" ∧ decoded.text = Utf8.repair bytes) ∧
      (decoded.report.fallback = false → answer = some decoded.report.used ∧
        codecs.read decoded.report.used bytes = .ok (some (decoded.encoding, decoded.text)))) := by
  refine ⟨fun error => decodeProgram_eq_error_iff, fun valid => ?_, fun text => ?_,
    fun text unmarked => ?_, fun notUtf8 answerable => ?_⟩
  · obtain ⟨text, found, decoded⟩ := codecs.decodeProgram_of_isUtf8 answer valid
    obtain ⟨_, alsoFound, alsoDecoded⟩ := codecs.decodeProgram_of_isUtf8 other valid
    cases decoded.symm.trans alsoDecoded
    refine ⟨_, found, alsoFound, ?_⟩
    rw [ownEncoding, apply_ite Prod.snd]
  · exact ⟨_, rfl, codecs.decodeProgram_signed answer text⟩
  · exact ⟨_, rfl, codecs.decodeProgram_unsigned answer unmarked⟩
  · rcases answerable.read_or_refuses notUtf8 with ⟨encoding, text, read⟩ | refuses
    · have fits := not_refuses_of_read read
      have named := (codecs.refuses_or_eq_some answer notUtf8).resolve_left fits
      refine ⟨_, decodeProgram_of_read notUtf8 read, rfl, iff_of_false Bool.false_ne_true fits,
        fun repaired => ?_, fun _ => ⟨named, read⟩⟩
      cases repaired
    · refine ⟨_, decodeProgram_of_refuses notUtf8 refuses, rfl, iff_of_true rfl refuses,
        fun _ => ⟨rfl, rfl⟩, fun trust => ?_⟩
      cases trust

/-- `café` in Latin-1, with an answer that fits and with one that names nothing. -/
theorem decodeProgram_decides_cafe :
    let bytes : Bytes := [0x63, 0x61, 0x66, 0xE9]
    ¬ IsUtf8 bytes ∧
      (∃ decoded, Encoding.codecs.decodeProgram (some "LATIN1") bytes = .ok decoded ∧
        decoded.report.fallback = false ∧ decoded.report.used = "LATIN1") ∧
      ∃ decoded, Encoding.codecs.decodeProgram (some "nope") bytes = .ok decoded ∧
        decoded.report.fallback = true ∧ decoded.text = "caf\uFFFD".toList := by
  intro bytes
  have notUtf8 : ¬ IsUtf8 bytes := by
    rw [← Utf8.decode?_eq_none_iff]
    decide +kernel
  have answerable : ∀ name : String, '\x00' ∉ name.toList →
      Encoding.codecs.Answerable (some name) := by
    intro name sound
    rw [answerable_encoding_iff]
    rintro _ ⟨⟩
    exact sound
  refine ⟨notUtf8, ?_, ?_⟩
  · have read : Encoding.codecs.read "LATIN1" bytes =
        .ok (some (.singleByte .latin1, "café".toList)) := by decide +kernel
    obtain ⟨_, _, _, _, asked⟩ := decodeProgram_decides Encoding.codecs (some "LATIN1") none bytes
    obtain ⟨decoded, found, _, repaired, _, trusted⟩ :=
      asked notUtf8 (answerable _ (by decide +kernel))
    have trust : decoded.report.fallback = false :=
      Bool.eq_false_iff.mpr fun fallback => not_refuses_of_read read (repaired.mp fallback)
    exact ⟨decoded, found, trust, (Option.some.inj (trusted trust).1).symm⟩
  · have refuses : Encoding.codecs.Refuses "nope" bytes :=
      .inr ⟨.unknown "nope", by decide +kernel, rfl⟩
    obtain ⟨_, _, _, _, asked⟩ := decodeProgram_decides Encoding.codecs (some "nope") none bytes
    obtain ⟨decoded, found, _, repaired, replaced, _⟩ :=
      asked notUtf8 (answerable _ (by decide +kernel))
    have fallback := repaired.mpr refuses
    refine ⟨decoded, found, fallback, (replaced fallback).2.trans ?_⟩
    decide +kernel

end Codecs

end NameFraming
