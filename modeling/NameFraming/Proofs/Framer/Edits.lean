import NameFraming.Proofs.Encoding.Utf8
import NameFraming.Proofs.Framer.Alignment

/-! A framed text as an edit of the text. Delimiters are put around names and taken away around
materials, and since both are ASCII, no edit joins bytes that stood apart before. -/

namespace NameFraming

/-- Words that may lose their delimiters. -/
structure AsciiWord (word : Text) : Prop where
  nonempty : word ≠ []
  ascii : ∀ c ∈ word, c.toNat < 0x80

namespace AsciiWord

variable {word : Text}

theorem delimiter : AsciiWord [delimiter] := by
  refine ⟨by simp, fun c member => ?_⟩
  rw [List.mem_singleton.mp member]
  decide

theorem frameWord (ascii : AsciiWord word) : AsciiWord (frameWord word) := by
  refine ⟨by simp [NameFraming.frameWord], fun c member => ?_⟩
  rcases @Token.mem_framed c ⟨.word, word⟩ member with rfl | inWord
  · decide
  · exact ascii.ascii c inWord

theorem flatMap {code : Char → Bytes}
    (asciiCode : ∀ c, c.toNat < 0x80 → code c ≠ [] ∧ ∀ byte ∈ code c, byte < 0x80)
    (ascii : AsciiWord word) :
    word.flatMap code ≠ [] ∧ ∀ byte ∈ word.flatMap code, byte < 0x80 := by
  constructor
  · obtain ⟨c, rest, rfl⟩ := List.exists_cons_of_ne_nil ascii.nonempty
    have written := (asciiCode c (ascii.ascii c List.mem_cons_self)).1
    simp [written]
  · intro byte member
    obtain ⟨c, inWord, ofChar⟩ := List.mem_flatMap.mp member
    exact (asciiCode c (ascii.ascii c inWord)).2 byte ofChar

end AsciiWord

/-- The second text is the first one with delimiters put in and taken away. -/
inductive Edited : Text → Text → Prop
  | nil : Edited [] []
  | keep (part : Text) {text after : Text} :
      Edited text after → Edited (part ++ text) (part ++ after)
  | frame (word : Text) {text after : Text} :
      Edited text after → Edited (word ++ text) (frameWord word ++ after)
  | strip {word text after : Text} :
      AsciiWord word → Edited text after → Edited (frameWord word ++ text) (word ++ after)

namespace Edited

variable {text after : Text}

theorem refl (text : Text) : Edited text text := by
  simpa using Edited.keep text .nil

theorem append {later laterAfter : Text} (first : Edited text after)
    (second : Edited later laterAfter) : Edited (text ++ later) (after ++ laterAfter) := by
  induction first with
  | nil => exact second
  | keep part _ ih => simpa using Edited.keep part ih
  | frame word _ ih => simpa using Edited.frame word ih
  | strip ascii _ ih => simpa using Edited.strip ascii ih

theorem mem {c : Char} (edited : Edited text after) (member : c ∈ after) :
    c = delimiter ∨ c ∈ text := by
  induction edited with
  | nil => cases member
  | keep part _ ih =>
      rcases List.mem_append.mp member with inPart | inRest
      · exact .inr (List.mem_append_left _ inPart)
      · exact (ih inRest).imp_right (List.mem_append_right _)
  | frame word _ ih =>
      rcases List.mem_append.mp member with inWord | inRest
      · exact (@Token.mem_framed _ ⟨.word, word⟩ inWord).imp_right (List.mem_append_left _)
      · exact (ih inRest).imp_right (List.mem_append_right _)
  | strip _ _ ih =>
      rcases List.mem_append.mp member with inWord | inRest
      · exact .inr (by simp [frameWord, inWord])
      · exact (ih inRest).imp_right (List.mem_append_right _)

/-- A byte order mark in front was there before. -/
theorem head?_eq_mark (edited : Edited text after) (marked : after.head? = some Utf8.mark) :
    text.head? = some Utf8.mark := by
  induction edited with
  | nil => exact marked
  | keep part _ ih =>
      cases part with
      | nil => exact ih marked
      | cons c rest => exact marked
  | frame word _ _ => cases marked
  | strip ascii _ _ =>
      rename_i word _ _ _ _
      cases word with
      | nil => exact absurd rfl ascii.nonempty
      | cons c rest =>
          have small := ascii.ascii c List.mem_cons_self
          cases marked
          exact absurd small (by decide)

/-- Bytes that are UTF-8 after an edit were so before, in any encoding that writes ASCII as bytes
below 80. -/
theorem isUtf8 {code : Char → Bytes}
    (asciiCode : ∀ c, c.toNat < 0x80 → code c ≠ [] ∧ ∀ byte ∈ code c, byte < 0x80)
    (edited : Edited text after) {front : Bytes}
    (valid : Utf8.IsUtf8 (front ++ after.flatMap code)) :
    Utf8.IsUtf8 (front ++ text.flatMap code) := by
  induction edited generalizing front with
  | nil => exact valid
  | keep part _ ih =>
      rw [List.flatMap_append, ← List.append_assoc] at valid ⊢
      exact ih valid
  | frame word _ ih =>
      rename_i text after _
      obtain ⟨barNonempty, barAscii⟩ := AsciiWord.delimiter.flatMap asciiCode
      have parts : front ++ (frameWord word ++ after).flatMap code =
          front ++ [delimiter].flatMap code ++
            (word.flatMap code ++ [delimiter].flatMap code ++ after.flatMap code) := by
        simp [frameWord]
      rw [parts, Utf8.isUtf8_around_iff barNonempty barAscii,
        Utf8.isUtf8_around_iff barNonempty barAscii] at valid
      obtain ⟨ofFront, ofWord, ofAfter⟩ := valid
      have ofText : Utf8.IsUtf8 (text.flatMap code) := @ih [] ofAfter
      rw [List.flatMap_append]
      exact ofFront.append (ofWord.append ofText)
  | strip ascii _ ih =>
      obtain ⟨wordNonempty, wordAscii⟩ := ascii.flatMap asciiCode
      obtain ⟨framedNonempty, framedAscii⟩ := ascii.frameWord.flatMap asciiCode
      rw [List.flatMap_append, ← List.append_assoc] at valid ⊢
      rw [Utf8.isUtf8_around_iff wordNonempty wordAscii] at valid
      rw [Utf8.isUtf8_around_iff framedNonempty framedAscii]
      exact ⟨valid.1, @ih [] valid.2⟩

end Edited

/-- A relation between texts that holds of two texts when it holds of their parts. -/
structure Composes (related : Text → Text → Prop) : Prop where
  refl : ∀ text, related text text
  append : ∀ {text after later laterAfter : Text}, related text after → related later laterAfter →
    related (text ++ later) (after ++ laterAfter)

namespace Composes

variable {related : Text → Text → Prop} (composes : Composes related)
include composes

theorem render {before after : List Token} (length : after.length = before.length)
    (each : ∀ (index : Nat) (old new : Token), before[index]? = some old →
      after[index]? = some new → related old.text new.text) :
    related (render before) (render after) := by
  induction before generalizing after with
  | nil =>
      rw [List.length_nil, List.length_eq_zero_iff] at length
      subst length
      exact composes.refl []
  | cons old rest ih =>
      cases after with
      | nil => cases length
      | cons new later =>
          have first := each 0 old new rfl rfl
          exact composes.append first (ih (Nat.succ.inj length) fun index => each (index + 1))

theorem render_aligned {rule : MaterialQuality} {before after : List Token}
    (aligned : Aligned rule before after)
    (frames : ∀ word, isBareName word = true → related word (frameWord word))
    (strips : ∀ material ∈ rule.materials, related (frameWord material) material) :
    related (NameFraming.render before) (NameFraming.render after) := by
  refine composes.render aligned.length fun index old new oldFound newFound => ?_
  rcases aligned.each index old oldFound with
    same | ⟨_, name, framed⟩ | ⟨material, member, rfl, ⟨bare, bareFound, rfl⟩, _⟩
  · cases newFound.symm.trans same
    exact composes.refl _
  · cases newFound.symm.trans framed
    exact frames old.text name
  · cases newFound.symm.trans bareFound
    exact strips _ member

theorem unlines {rewriteLine : Text → Text} (each : ∀ line, related line (rewriteLine line))
    (lines : List Text) : related (Text.unlines lines) (Text.unlines (lines.map rewriteLine)) := by
  match lines with
  | [] => exact composes.refl _
  | [line] => simpa [Text.unlines] using each line
  | first :: second :: rest =>
      have later := unlines each (second :: rest)
      simp only [List.map_cons, Text.unlines_cons_cons] at later ⊢
      exact composes.append (each first) (composes.append (composes.refl ['\n']) later)

/-- Framing does two things to a text: it frames names, and it strips materials. -/
theorem transform {materials : List Text} {preposition : Text} (vocabulary : Vocabulary)
    (canonical : ∀ material ∈ materials, CanonicalWord material)
    (isCanonical : CanonicalWord preposition)
    (frames : ∀ word, isBareName word = true → related word (frameWord word))
    (strips : ∀ material ∈ materials, related (frameWord material) material) (text : Text) :
    related text
      ((Framer.withMaterials vocabulary materials preposition).transform text) := by
  have same := MaterialQuality.ofWords_of_canonical canonical isCanonical
  have ofLine : ∀ line, related line
      ((Framer.withMaterials vocabulary materials preposition).frameLine line) := by
    intro line
    cases passed : isPassthrough commentMarker line with
    | true =>
        rw [Framer.frameLine_of_passthrough _ passed]
        exact composes.refl line
    | false =>
        obtain ⟨stripping, _⟩ := @Framer.stripsExactly_frameLine vocabulary materials preposition
          line passed (same ▸ canonical)
        rw [same] at stripping
        have aligned := Framer.aligned_of_stripsExactly (lineTokens_tokenize passed) stripping
        simpa only [render_tokenize] using composes.render_aligned aligned frames strips
  rw [Framer.transform_eq_unlines]
  simpa only [Text.unlines_lines] using composes.unlines ofLine text.lines

end Composes

theorem Framer.edited_transform {materials : List Text} {preposition : Text}
    (vocabulary : Vocabulary) (canonical : ∀ material ∈ materials, CanonicalWord material)
    (isCanonical : CanonicalWord preposition)
    (ascii : ∀ material ∈ materials, AsciiWord material) (text : Text) :
    Edited text ((withMaterials vocabulary materials preposition).transform text) := by
  have composes : Composes Edited := ⟨.refl, .append⟩
  refine composes.transform vocabulary canonical isCanonical ?_ ?_ text
  · intro word _
    simpa using Edited.frame word .nil
  · intro material member
    simpa using Edited.strip (ascii material member) .nil

end NameFraming
