import NameFraming.Proofs.Framer.Idempotence
import NameFraming.Proofs.Program

/-! The envelope of a framed program, sent in again. Its content is UTF-8 and there is nothing left
to frame in it, but a byte order mark that stands in front of it is taken off. -/

namespace NameFraming

open Utf8 (mark)

namespace Base64

theorem idxOf?_symbol {sextet : Nat} (small : sextet < 64) :
    alphabet.idxOf? (symbol sextet) = some sextet ∧ symbol sextet ≠ '=' := by
  have each : ∀ sextet < 64,
      alphabet.idxOf? (symbol sextet) = some sextet ∧ symbol sextet ≠ '=' := by decide +kernel
  exact each sextet small

theorem ofNat_eq {value : Nat} {byte : UInt8} (same : value = byte.toNat) :
    UInt8.ofNat value = byte := by
  rw [same, UInt8.ofNat_toNat]

theorem decode?_encode (bytes : Bytes) : decode? (encode bytes) = some bytes := by
  fun_induction encode bytes with
  | case1 => rfl
  | case2 a =>
      have aBound := a.toNat_lt
      have first := @idxOf?_symbol (a.toNat / 4) (by omega)
      have second := @idxOf?_symbol (a.toNat % 4 * 16) (by omega)
      rw [decode?.eq_2]
      simp only [first.1, second.1, bind, Option.bind, pure]
      rw [@ofNat_eq _ a (by omega)]
  | case3 a b =>
      have aBound := a.toNat_lt
      have bBound := b.toNat_lt
      have first := @idxOf?_symbol (a.toNat / 4) (by omega)
      have second := @idxOf?_symbol (a.toNat % 4 * 16 + b.toNat / 16) (by omega)
      have third := @idxOf?_symbol (b.toNat % 16 * 4) (by omega)
      -- The third symbol is no fill character, so this is the group of two bytes.
      rw [decode?.eq_3 _ _ _ third.2]
      simp only [first.1, second.1, third.1, bind, Option.bind, pure]
      rw [@ofNat_eq _ a (by omega), @ofNat_eq _ b (by omega)]
  | case4 a b c rest ih =>
      have aBound := a.toNat_lt
      have bBound := b.toNat_lt
      have cBound := c.toNat_lt
      have first := @idxOf?_symbol (a.toNat / 4) (by omega)
      have second := @idxOf?_symbol (a.toNat % 4 * 16 + b.toNat / 16) (by omega)
      have third := @idxOf?_symbol (b.toNat % 16 * 4 + c.toNat / 64) (by omega)
      have fourth := @idxOf?_symbol (c.toNat % 64) (by omega)
      rw [decode?.eq_4 _ _ _ _ _ (fun _ fill _ => fourth.2 fill) (fun fill _ => fourth.2 fill)]
      simp only [first.1, second.1, third.1, fourth.1, ih, bind, Option.bind, pure]
      rw [@ofNat_eq _ a (by omega), @ofNat_eq _ b (by omega), @ofNat_eq _ c (by omega)]

end Base64

theorem Utf8.encode_injective {text later : Text} (same : Utf8.encode text = Utf8.encode later) :
    text = later := by
  have decoded := Utf8.decode?_encode text
  rw [same, Utf8.decode?_encode] at decoded
  exact (Option.some.inj decoded).symm

/-- Both texts start with a byte order mark, or neither does. -/
structure SameStart (text after : Text) : Prop where
  empty : after = [] ↔ text = []
  marked : after.head? = some mark ↔ text.head? = some mark

theorem composes_sameStart : Composes SameStart := by
  refine ⟨fun text => ⟨.rfl, .rfl⟩, ?_⟩
  intro text after later laterAfter first second
  refine ⟨by simp only [List.append_eq_nil_iff, first.empty, second.empty], ?_⟩
  cases text with
  | nil => rw [first.empty.mpr rfl, List.nil_append, List.nil_append, second.marked]
  | cons c rest =>
      have nonempty : after ≠ [] := fun none => absurd (first.empty.mp none) (by simp)
      rw [List.head?_append_of_ne_nil _ nonempty, List.head?_append_of_ne_nil _ (by simp),
        first.marked]

theorem sameStart_frameWord {word : Text} (nonempty : word ≠ [])
    (wordChars : ∀ c ∈ word, isWordChar c = true) : SameStart word (frameWord word) := by
  have unmarked : word.head? ≠ some mark := by
    intro marked
    exact absurd (wordChars mark (List.mem_of_mem_head? marked)) (by decide +kernel)
  have framed : (frameWord word).head? ≠ some mark := by
    intro marked
    cases marked
  exact ⟨iff_of_false (by simp [frameWord]) nonempty, iff_of_false framed unmarked⟩

namespace Framer

variable {vocabulary : Vocabulary} {materials : List Text} {preposition : Text}
  (canonical : ∀ material ∈ materials, CanonicalWord material)
  (isCanonical : CanonicalWord preposition)
include canonical isCanonical

/-- A byte order mark is no part of a name: it stays in front, and none comes there. -/
theorem sameStart_transform (text : Text) :
    SameStart text ((withMaterials vocabulary materials preposition).transform text) := by
  refine composes_sameStart.transform vocabulary canonical isCanonical ?_ ?_ text
  · intro word name
    obtain ⟨nonempty, wordChars, _⟩ := isBareName_iff.mp name
    exact sameStart_frameWord nonempty wordChars
  · intro material member
    have ⟨nonempty, wordChars, _⟩ := canonical material member
    have framed := sameStart_frameWord nonempty wordChars
    exact ⟨framed.empty.symm, framed.marked.symm⟩

theorem count_transform {c : Char} (other : c ≠ delimiter) (text : Text) :
    ((withMaterials vocabulary materials preposition).transform text).count c = text.count c := by
  have framed : ∀ word, (frameWord word).count c = word.count c := by
    intro word
    rw [frameWord, List.count_cons_of_ne other.symm, List.count_append]
    simp [other.symm]
  have composes : Composes fun text after => after.count c = text.count c := by
    refine ⟨fun _ => rfl, fun first second => ?_⟩
    rw [List.count_append, List.count_append, first, second]
  exact composes.transform vocabulary canonical isCanonical (fun word _ => framed word)
    (fun material _ => (framed material).symm) text

end Framer

namespace Framer

theorem content_frameProgram (framer : Framer) (answer : Option String) (bytes : Bytes) :
    (framer.frameProgram answer bytes).content =
      Utf8.encode (framer.transform (decodeProgram answer bytes).text) := rfl

theorem frameProgram_unmarked (framer : Framer) (answer : Option String) {text : Text}
    (unmarked : text.head? ≠ some mark) :
    framer.frameProgram answer (Utf8.encode text) =
      .ofOutcome ⟨none, "utf-8", false⟩ (framer.frame text) := by
  rw [frameProgram, decodeProgram_unsigned answer unmarked]

theorem frameProgram_marked (framer : Framer) (answer : Option String) (rest : Text) :
    framer.frameProgram answer (Utf8.encode (mark :: rest)) =
      .ofOutcome ⟨none, "utf-8-sig", false⟩ (framer.frame rest) := by
  have signed : Utf8.encode (mark :: rest) = Utf8.signature ++ Utf8.encode rest := by
    rw [← Utf8.encode_mark]
    rfl
  rw [signed, frameProgram, decodeProgram_signed]

theorem fallback_frameProgram_encode (framer : Framer) (answer : Option String) (text : Text) :
    (framer.frameProgram answer (Utf8.encode text)).decoding.fallback = false := by
  by_cases marked : text.head? = some mark
  · obtain ⟨rest, rfl⟩ := List.head?_eq_some_iff.mp marked
    rw [frameProgram_marked]
    rfl
  · rw [frameProgram_unmarked framer answer marked]
    rfl

/-- A framer that is done after one run gives back its own output, when no mark is in front. -/
theorem Idempotent.frameProgram_again {framer : Framer} (idempotent : framer.Idempotent)
    (again : Option String) {text : Text} (unmarked : (framer.transform text).head? ≠ some mark) :
    (framer.frameProgram again (Utf8.encode (framer.transform text))).content =
        Utf8.encode (framer.transform text) ∧
      (framer.frameProgram again (Utf8.encode (framer.transform text))).outcome.changed =
        false := by
  obtain ⟨fixed, unchanged⟩ := idempotent text
  rw [frameProgram_unmarked framer again unmarked]
  exact ⟨congrArg Utf8.encode fixed, unchanged⟩

/-- A mark in front is taken off, and a framer puts none back. -/
theorem content_frameProgram_marked_ne {framer : Framer}
    (counts : ∀ text, (framer.transform text).count mark = text.count mark)
    (again : Option String) (rest : Text) :
    (framer.frameProgram again (Utf8.encode (mark :: rest))).content ≠
      Utf8.encode (mark :: rest) := by
  intro same
  rw [frameProgram_marked] at same
  have longer : framer.transform rest = mark :: rest := Utf8.encode_injective same
  have count := counts rest
  rw [longer, List.count_cons_self] at count
  omega

/-- The standard rules, over their own envelope. The second content is the first one again exactly
when the text of the program does not start with a byte order mark. -/
theorem frameProgram_again_iff (vocabulary : Vocabulary) (answer again : Option String)
    (bytes : Bytes) :
    let framer : Framer := { vocabulary }
    let text := (decodeProgram answer bytes).text
    let first := framer.frameProgram answer bytes
    let second := framer.frameProgram again first.content
    first.content = Utf8.encode (framer.transform text) ∧
      Base64.decode? first.base64 = some first.content ∧
      second.decoding.fallback = false ∧
      (second.content = first.content ↔ text.head? ≠ some mark) ∧
      (text.head? ≠ some mark →
        second.base64 = first.base64 ∧ second.sha256 = first.sha256 ∧
          second.outcome.changed = false) := by
  intro framer text first second
  have canonical := MaterialQuality.standardMaterials_canonical
  have isCanonical := MaterialQuality.standardPreposition_canonical
  have start : SameStart text (framer.transform text) :=
    @sameStart_transform vocabulary _ _ canonical isCanonical text
  have counts : ∀ text, (framer.transform text).count mark = text.count mark :=
    @count_transform vocabulary _ _ canonical isCanonical mark (by decide)
  have idempotent : framer.Idempotent := idempotent_standard vocabulary
  have written : first.content = Utf8.encode (framer.transform text) :=
    content_frameProgram framer answer bytes
  have sent : second = framer.frameProgram again (Utf8.encode (framer.transform text)) :=
    congrArg (framer.frameProgram again) written
  clear_value framer text first second
  have ofUnmarked : text.head? ≠ some mark →
      second.content = first.content ∧ second.outcome.changed = false := by
    intro unmarked
    rw [sent, written]
    exact idempotent.frameProgram_again again (mt start.marked.mp unmarked)
  refine ⟨written, Base64.decode?_encode first.content, ?_, ⟨?_, fun h => (ofUnmarked h).1⟩, ?_⟩
  · rw [sent]
    exact fallback_frameProgram_encode framer again _
  · intro same marked
    obtain ⟨rest, framed⟩ := List.head?_eq_some_iff.mp (start.marked.mpr marked)
    rw [sent, written, framed] at same
    exact content_frameProgram_marked_ne counts again rest same
  · intro unmarked
    obtain ⟨same, unchanged⟩ := ofUnmarked unmarked
    exact ⟨congrArg Base64.encode same, congrArg Sha256.hexDigest same, unchanged⟩

/-- A byte order mark in front of a byte that is no UTF-8: the repaired text keeps the mark. -/
theorem frameProgram_again_iff_repaired :
    let first := frameProgram {} none [0xEF, 0xBB, 0xBF, 0xFF]
    (decodeProgram none [0xEF, 0xBB, 0xBF, 0xFF]).text = [mark, Utf8.replacement] ∧
      (frameProgram {} none first.content).content ≠ first.content := by
  intro first
  have repaired : (decodeProgram none [0xEF, 0xBB, 0xBF, 0xFF]).text =
      [mark, Utf8.replacement] := by decide +kernel
  refine ⟨repaired, fun same => ?_⟩
  have unmarked := (frameProgram_again_iff .reserved none none _).2.2.2.1.mp same
  rw [repaired] at unmarked
  exact unmarked rfl

end Framer

end NameFraming
