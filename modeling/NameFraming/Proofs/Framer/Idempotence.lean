import NameFraming.Proofs.Framer.Instability
import NameFraming.Proofs.Settings

/-! When framing a framed text changes nothing. -/

namespace NameFraming

namespace Framer

/-- A framed text is a fixed point, and framing it reports no change. -/
def Idempotent (framer : Framer) : Prop :=
  ∀ text, framer.transform (framer.transform text) = framer.transform text ∧
    (framer.frame (framer.transform text)).changed = false

theorem idempotent_iff_fixed {framer : Framer} : framer.Idempotent ↔
    ∀ text, framer.transform (framer.transform text) = framer.transform text := by
  refine forall_congr' fun text => and_iff_left_of_imp fun fixed => ?_
  have changed : (framer.frame (framer.transform text)).changed =
      (framer.transform (framer.transform text) != framer.transform text) := rfl
  rw [changed, fixed, bne_self_eq_false]

theorem idempotent_iff (framer : Framer) : framer.Idempotent ↔ ¬ framer.ChangesTwice := by
  rw [idempotent_iff_fixed]
  constructor
  · intro fixed ⟨line, noBreak, changes⟩
    have still : '\n' ∉ framer.frameLine line := by
      have lines := framer.lines_transform line
      rw [Text.lines_of_newline_not_mem noBreak, List.map_singleton] at lines
      exact Text.newline_not_mem_of_mem_lines (lines ▸ List.mem_singleton_self _)
    have fixedLine := fixed line
    rw [framer.transform_of_newline_not_mem noBreak, framer.transform_of_newline_not_mem still]
      at fixedLine
    exact changes fixedLine
  · intro settled text
    rw [framer.transform_eq_unlines (framer.transform text), framer.lines_transform, List.map_map,
      framer.transform_eq_unlines text]
    congr 1
    apply List.map_congr_left
    intro line member
    by_contra changes
    exact settled ⟨line, Text.newline_not_mem_of_mem_lines member, changes⟩

section Materials

variable {vocabulary : Vocabulary} {materials : List Text} {preposition : Text}

theorem frameLine_frameLine
    (canonical : ∀ material ∈ (MaterialQuality.ofWords materials preposition).materials,
      CanonicalWord material)
    (stable : ¬ Unstable vocabulary (.ofWords materials preposition)) (line : Text) :
    (withMaterials vocabulary materials preposition).frameLine
        ((withMaterials vocabulary materials preposition).frameLine line) =
      (withMaterials vocabulary materials preposition).frameLine line := by
  cases passed : isPassthrough commentMarker line with
  | true => rw [frameLine_of_passthrough _ passed, frameLine_of_passthrough _ passed]
  | false =>
      obtain ⟨firstRun, lookedInto⟩ := stripsExactly_frameLine passed canonical
      obtain ⟨secondRun, _⟩ := stripsExactly_frameLine lookedInto canonical
      have again := firstRun.again (lineTokens_tokenize passed) canonical stable
      have sameTokens := secondRun.unique again
      rw [← render_tokenize commentMarker (frameLine _ (frameLine _ line)), sameTokens,
        render_tokenize]

/-- The exact condition: a run is final unless a stripped material completes a phrase. -/
theorem idempotent_withMaterials_iff
    (canonical : ∀ material ∈ materials, CanonicalWord material)
    (isCanonical : CanonicalWord preposition) :
    (withMaterials vocabulary materials preposition).Idempotent ↔
      ¬ Unstable vocabulary ⟨materials, preposition⟩ := by
  have same := MaterialQuality.ofWords_of_canonical canonical isCanonical
  rw [idempotent_iff, not_iff_not]
  constructor
  · intro ⟨line, _, changes⟩
    by_contra stable
    exact changes (frameLine_frameLine (same ▸ canonical) (same ▸ stable) line)
  · exact changesTwice_of_unstable canonical same

theorem not_unstable (apart : ∀ word ∈ ["PLACED", "AS", "PUT", "TOGETHER"].map String.toList,
      ¬ (word ∈ materials ∧ vocabulary.isKeyword word = true)) :
    ¬ Unstable vocabulary ⟨materials, preposition⟩ := by
  intro unstable
  cases unstable with
  | marker _ reclaimed => exact apart _ (by decide) reclaimed
  | markerEnd reclaimed => exact apart _ (by decide) reclaimed
  | operator _ reclaimed => exact apart _ (by decide) reclaimed
  | operatorEnd reclaimed => exact apart _ (by decide) reclaimed

end Materials

/-- The standard materials are in no phrase, so any vocabulary will do. -/
theorem idempotent_standard (vocabulary : Vocabulary) :
    (withMaterials vocabulary MaterialQuality.standardMaterials
      MaterialQuality.standardPreposition).Idempotent := by
  refine (idempotent_withMaterials_iff MaterialQuality.standardMaterials_canonical
    MaterialQuality.standardPreposition_canonical).mpr (not_unstable ?_)
  intro word listed both
  have notMaterial : ∀ word ∈ ["PLACED", "AS", "PUT", "TOGETHER"].map String.toList,
      word ∉ MaterialQuality.standardMaterials := by decide
  exact notMaterial word listed both.1

/-- A second run changes nothing when no word of the two phrases is both a material and reserved. -/
theorem idempotent_of_apart :
    (∀ (vocabulary : Vocabulary) (materials : List Text) (preposition : Text),
      (∀ material ∈ materials, CanonicalWord material) → CanonicalWord preposition →
      (∀ word ∈ ["PLACED", "AS", "PUT", "TOGETHER"].map String.toList,
        ¬ (word ∈ materials ∧ vocabulary.isKeyword word = true)) →
      (withMaterials vocabulary materials preposition).Idempotent) ∧
    Idempotent {} ∧
    ∀ settings : Settings, settings.Accepted →
      settings.materialQualities.Disjoint settings.extraKeywords →
      (Framer.ofSettings settings).Idempotent := by
  have general : ∀ (vocabulary : Vocabulary) (materials : List Text) (preposition : Text),
      (∀ material ∈ materials, CanonicalWord material) → CanonicalWord preposition →
      (∀ word ∈ ["PLACED", "AS", "PUT", "TOGETHER"].map String.toList,
        ¬ (word ∈ materials ∧ vocabulary.isKeyword word = true)) →
      (withMaterials vocabulary materials preposition).Idempotent := by
    intro vocabulary materials preposition canonical isCanonical apart
    exact (idempotent_withMaterials_iff canonical isCanonical).mpr (not_unstable apart)
  refine ⟨general, ?_, ?_⟩
  · apply general .reserved _ _ MaterialQuality.standardMaterials_canonical
      MaterialQuality.standardPreposition_canonical
    intro word listed both
    revert word
    decide +kernel
  · intro settings accepted disjoint
    have canonical := accepted.canonical
    apply general _ _ _ canonical.materials canonical.preposition
    intro word _ ⟨member, reserved⟩
    exact disjoint member ((canonical.isKeyword_material_iff member).mp reserved)

/-- Here `PUT` is a material that is not reserved, and its preposition is a word of the phrase. -/
theorem idempotent_of_apart_put :
    (∀ material ∈ ["PUT".toList], CanonicalWord material) ∧ CanonicalWord "TOGETHER".toList ∧
    (∀ word ∈ ["PLACED", "AS", "PUT", "TOGETHER"].map String.toList,
      ¬ (word ∈ ["PUT".toList] ∧
        (Vocabulary.reserved.without ["PUT".toList]).isKeyword word = true)) ∧
    (withMaterials (.without .reserved ["PUT".toList]) ["PUT".toList]
      "TOGETHER".toList).Idempotent ∧
    Settings.Accepted {} ∧ (Framer.ofSettings {}).Idempotent := by
  have canonical : ∀ material ∈ ["PUT".toList], CanonicalWord material := by
    intro material member
    rw [List.mem_singleton.mp member]
    exact canonicalWord_of_tests (by decide)
  have isCanonical : CanonicalWord "TOGETHER".toList := canonicalWord_of_tests (by decide)
  have apart : ∀ word ∈ ["PLACED", "AS", "PUT", "TOGETHER"].map String.toList,
      ¬ (word ∈ ["PUT".toList] ∧
        (Vocabulary.reserved.without ["PUT".toList]).isKeyword word = true) := by
    intro word _ ⟨member, reserved⟩
    have kept := (Vocabulary.isKeyword_without_iff.mp reserved).2
    exact kept ⟨word, member, rfl⟩
  have accepted : Settings.Accepted {} := ⟨[], rfl⟩
  exact ⟨canonical, isCanonical, apart, idempotent_of_apart.1 _ _ _ canonical isCanonical apart,
    accepted, idempotent_of_apart.2.2 {} accepted (List.disjoint_nil_right _)⟩

/-- For accepted settings, which may reserve their materials again, a second run changes nothing
exactly when no stripped material completes a phrase. -/
theorem fixed_ofSettings_iff (settings : Settings) (accepted : settings.Accepted) :
    (∀ text, (ofSettings settings).transform ((ofSettings settings).transform text) =
        (ofSettings settings).transform text) ↔
      ¬ Unstable (ofSettings settings).vocabulary
        ⟨settings.materialQualities, settings.materialPreposition⟩ := by
  have canonical := accepted.canonical
  rw [← idempotent_iff_fixed]
  exact idempotent_withMaterials_iff canonical.materials canonical.preposition

/-- A material that is reserved again: `OF |PLACED| AS` loses its delimiters in the first run, and
the second one takes `OF` for the target of an assignment. -/
theorem fixed_ofSettings_iff_reclaimed :
    ∃ settings : Settings, settings.Accepted ∧ settings.materialQualities = ["PLACED".toList] ∧
      settings.extraKeywords = ["PLACED".toList] ∧
      ¬ ∀ text, (ofSettings settings).transform ((ofSettings settings).transform text) =
        (ofSettings settings).transform text := by
  have accepted : Settings.Accepted
      { materialQualities := ["PLACED".toList], extraKeywords := ["PLACED".toList] } :=
    ⟨[("material_qualities", .list [.text "PLACED".toList]),
      ("extra_keywords", .list [.text "PLACED".toList])], rfl⟩
  refine ⟨_, accepted, rfl, rfl, fun fixed => (fixed_ofSettings_iff _ accepted).mp fixed ?_⟩
  refine .marker "OF".toList ⟨List.mem_singleton_self _, ?_⟩ (by decide) ?_ (by decide)
  · exact Vocabulary.isKeyword_extended_iff.mpr (.inl ⟨_, List.mem_singleton_self _, rfl⟩)
  · refine Vocabulary.isKeyword_extended_iff.mpr (.inr (Vocabulary.isKeyword_without_iff.mpr ?_))
    exact ⟨Vocabulary.isKeyword_ofWords_iff.mpr ⟨"OF".toList, by decide +kernel, rfl⟩, by decide⟩

end Framer

end NameFraming
