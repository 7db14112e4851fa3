import NameFraming.Proofs.Correction.MaterialQuality
import NameFraming.Proofs.Vocabulary
import NameFraming.Settings

/-! What accepted settings promise to a framer: every word in them is in canonical form, and a
material is reserved only when it is also among the extra keywords. -/

namespace NameFraming

section Checks

variable {α β : Type} {value : β}

theorem Checked.and_eq_valid {function : Checked (α → β)} {checked : Checked α}
    (valid : function.and checked = .valid value) :
    ∃ f part, function = .valid f ∧ checked = .valid part ∧ f part = value := by
  cases function with
  | invalid issues => cases checked <;> cases valid
  | valid f =>
      cases checked with
      | invalid issues => cases valid
      | valid part =>
          cases valid
          exact ⟨f, part, rfl, rfl, rfl⟩

theorem Checked.andThen_eq_valid {checked : Checked α} {next : α → Checked β}
    (valid : checked.andThen next = .valid value) :
    ∃ part, checked = .valid part ∧ next part = .valid value := by
  cases checked with
  | valid part => exact ⟨part, rfl, valid⟩
  | invalid issues => cases valid

theorem Checked.under_eq_valid {step : LocationStep} {checked : Checked β}
    (valid : checked.under step = .valid value) : checked = .valid value := by
  cases checked with
  | valid part => exact valid
  | invalid issues => cases valid

theorem Settings.checkField_eq_valid {given : List (String × Value)} {name : String} {standard : β}
    {check : Value → Checked β} (valid : checkField given name standard check = .valid value) :
    value = standard ∨ ∃ source, check source = .valid value := by
  unfold checkField at valid
  split at valid
  · exact .inr ⟨_, Checked.under_eq_valid valid⟩
  · cases valid
    exact .inl rfl

end Checks

section CanonicalForms

variable {values words : List Text}

theorem canonicalWord_of_isWord {value : Text} (isWord : isWord (canonicalWord value) = true) :
    CanonicalWord (canonicalWord value) := by
  simp only [NameFraming.isWord, Bool.and_eq_true, Bool.not_eq_true', List.isEmpty_eq_false_iff,
    List.all_eq_true] at isWord
  exact ⟨isWord.1, isWord.2, upper_upper value.strip⟩

theorem canonicalWordsFrom_canonical {held : List Text}
    (canonical : ∀ word ∈ held, CanonicalWord word)
    (accepted : canonicalWordsFrom held values = .ok words) :
    ∀ word ∈ words, CanonicalWord word := by
  induction values generalizing held with
  | nil =>
      cases accepted
      exact canonical
  | cons value rest ih =>
      simp only [canonicalWordsFrom] at accepted
      split at accepted
      · rename_i isWord
        refine ih ?_ accepted
        split
        · exact canonical
        · intro word member
          rcases List.mem_append.mp member with earlier | last
          · exact canonical word earlier
          · rw [List.mem_singleton.mp last]
            exact canonicalWord_of_isWord isWord
      · cases accepted

theorem canonicalWords_canonical (accepted : canonicalWords values = .ok words) :
    ∀ word ∈ words, CanonicalWord word :=
  @canonicalWordsFrom_canonical values words [] (by simp) accepted

theorem Settings.checkWords_canonical (accepted : checkWords values = .valid words) :
    ∀ word ∈ words, CanonicalWord word := by
  unfold checkWords at accepted
  split at accepted
  · rename_i found
    cases accepted
    exact canonicalWords_canonical found
  · cases accepted

theorem Settings.checkPreposition_canonical {value word : Text}
    (accepted : checkPreposition value = .valid word) : CanonicalWord word := by
  unfold checkPreposition at accepted
  split at accepted
  · rename_i isWord
    cases accepted
    exact canonicalWord_of_isWord isWord
  · cases accepted

theorem canonicalWord_of_tests {word : Text}
    (passes : (isWord word && upper word == word) = true) : CanonicalWord word := by
  simp only [isWord, Bool.and_eq_true, Bool.not_eq_true', List.isEmpty_eq_false_iff,
    List.all_eq_true, beq_iff_eq] at passes
  exact ⟨passes.1.1, passes.1.2, passes.2⟩

theorem MaterialQuality.standardMaterials_canonical :
    ∀ word ∈ standardMaterials, CanonicalWord word := by
  have passes : standardMaterials.all (fun word => isWord word && upper word == word) = true := by
    decide +kernel
  intro word member
  exact canonicalWord_of_tests (List.all_eq_true.mp passes word member)

theorem MaterialQuality.standardPreposition_canonical : CanonicalWord standardPreposition :=
  canonicalWord_of_tests (by decide +kernel)

end CanonicalForms

namespace Settings

/-- Settings that come out of the checks. -/
def Accepted (settings : Settings) : Prop :=
  ∃ given, check given = .valid settings

/-- The words in settings are in canonical form. -/
structure Canonical (settings : Settings) : Prop where
  preposition : CanonicalWord settings.materialPreposition
  materials : ∀ word ∈ settings.materialQualities, CanonicalWord word
  keywords : ∀ word ∈ settings.extraKeywords, CanonicalWord word

/-- The check of every field, with the value that comes out of it. -/
structure FieldsValid (given : List (String × Value)) (settings : Settings) : Prop where
  corpusDir : checkField given "corpus_dir" ({} : Settings).corpusDir Value.asString =
    .valid settings.corpusDir
  corpusSuffix : checkField given "corpus_suffix" ({} : Settings).corpusSuffix
    (fun value => value.asString.andThen checkSuffix) = .valid settings.corpusSuffix
  materialPreposition : checkField given "material_preposition" ({} : Settings).materialPreposition
    (fun value => value.asString.andThen checkPreposition) = .valid settings.materialPreposition
  materialQualities : checkField given "material_qualities" ({} : Settings).materialQualities
    (fun value => (value.asList givenText).andThen checkGivenWords) =
      .valid settings.materialQualities
  extraKeywords : checkField given "extra_keywords" ({} : Settings).extraKeywords
    (fun value => (value.asList givenText).andThen checkGivenWords) = .valid settings.extraKeywords
  logLevel : checkField given "log_level" ({} : Settings).logLevel Value.asString =
    .valid settings.logLevel
  logJson : checkField given "log_json" ({} : Settings).logJson Value.asBool =
    .valid settings.logJson

theorem check_eq_valid_iff {given : List (String × Value)} {settings : Settings} :
    check given = .valid settings ↔ FieldsValid given settings := by
  constructor
  · intro valid
    obtain ⟨_, _, sixth, json, whole⟩ := Checked.and_eq_valid valid
    obtain ⟨_, _, fifth, level, rfl⟩ := Checked.and_eq_valid sixth
    obtain ⟨_, _, fourth, keywords, rfl⟩ := Checked.and_eq_valid fifth
    obtain ⟨_, _, third, materials, rfl⟩ := Checked.and_eq_valid fourth
    obtain ⟨_, _, second, preposition, rfl⟩ := Checked.and_eq_valid third
    obtain ⟨_, _, first, suffix, rfl⟩ := Checked.and_eq_valid second
    obtain ⟨_, _, constructed, dir, rfl⟩ := Checked.and_eq_valid first
    cases constructed
    cases whole
    exact ⟨dir, suffix, preposition, materials, keywords, level, json⟩
  · intro ⟨dir, suffix, preposition, materials, keywords, level, json⟩
    simp only [check, dir, suffix, preposition, materials, keywords, level, json]
    rfl

/-- Every field that is checked has come out of its check, also the fields that were not given. -/
structure Passed (settings : Settings) : Prop where
  suffix : ∃ value, checkSuffix value = .valid settings.corpusSuffix
  preposition : ∃ value, checkPreposition value = .valid settings.materialPreposition
  materials : ∃ values, checkWords values = .valid settings.materialQualities
  keywords : ∃ values, checkWords values = .valid settings.extraKeywords

theorem exists_checkWords {source : Value} {words : List Text}
    (checked : (source.asList givenText).andThen checkGivenWords = .valid words) :
    ∃ values, checkWords values = .valid words := by
  obtain ⟨given, _, accepted⟩ := Checked.andThen_eq_valid checked
  simp only [checkGivenWords] at accepted
  split at accepted
  · cases accepted
  · exact ⟨_, accepted⟩

theorem Accepted.passed {settings : Settings} (accepted : settings.Accepted) : settings.Passed := by
  obtain ⟨given, valid⟩ := accepted
  have fields := check_eq_valid_iff.mp valid
  -- A standard value passes its own check as it is.
  refine ⟨?_, ?_, ?_, ?_⟩
  · rcases checkField_eq_valid fields.corpusSuffix with standard | ⟨source, checked⟩
    · exact standard ▸ ⟨standardSuffix, rfl⟩
    · obtain ⟨text, _, passed⟩ := Checked.andThen_eq_valid checked
      exact ⟨text, passed⟩
  · rcases checkField_eq_valid fields.materialPreposition with standard | ⟨source, checked⟩
    · exact standard ▸ ⟨MaterialQuality.standardPreposition, rfl⟩
    · obtain ⟨text, _, passed⟩ := Checked.andThen_eq_valid checked
      exact ⟨text, passed⟩
  · rcases checkField_eq_valid fields.materialQualities with standard | ⟨source, checked⟩
    · exact standard ▸ ⟨MaterialQuality.standardMaterials, rfl⟩
    · exact exists_checkWords checked
  · rcases checkField_eq_valid fields.extraKeywords with standard | ⟨source, checked⟩
    · exact standard ▸ ⟨[], rfl⟩
    · exact exists_checkWords checked

theorem Accepted.canonical {settings : Settings} (accepted : settings.Accepted) :
    settings.Canonical := by
  obtain ⟨_, ⟨_, preposition⟩, ⟨_, materials⟩, ⟨_, keywords⟩⟩ := accepted.passed
  exact ⟨checkPreposition_canonical preposition, checkWords_canonical materials,
    checkWords_canonical keywords⟩

end Settings

theorem Vocabulary.upper_of_mem_reservedWords :
    ∀ word ∈ reservedWords, upper word = word := by
  have passes : reservedWords.all (fun word => upper word == word) = true := by decide +kernel
  intro word member
  exact beq_iff_eq.mp (List.all_eq_true.mp passes word member)

/-- Extra keywords come last, so they are reserved even when they are materials. -/
theorem Settings.Canonical.isKeyword_iff {settings : Settings} {word : Text}
    (canonical : settings.Canonical) :
    (Framer.ofSettings settings).isKeyword word = true ↔
      upper word ∈ settings.extraKeywords ∨
        upper word ∈ Vocabulary.reservedWords ∧ upper word ∉ settings.materialQualities := by
  have keywords := @Vocabulary.exists_upper_eq_iff word settings.extraKeywords fun word member =>
    (canonical.keywords word member).upper
  have materials :=
    @Vocabulary.exists_upper_eq_iff word settings.materialQualities fun word member =>
      (canonical.materials word member).upper
  rw [Framer.isKeyword, Framer.ofSettings, Vocabulary.isKeyword_extended_iff,
    Vocabulary.isKeyword_without_iff, Vocabulary.reserved, Vocabulary.isKeyword_ofWords_iff,
    Vocabulary.exists_upper_eq_iff Vocabulary.upper_of_mem_reservedWords, keywords, materials]

theorem Settings.Canonical.isKeyword_material_iff {settings : Settings} {word : Text}
    (canonical : settings.Canonical) (member : word ∈ settings.materialQualities) :
    (Framer.ofSettings settings).isKeyword word = true ↔ word ∈ settings.extraKeywords := by
  rw [canonical.isKeyword_iff, (canonical.materials word member).upper]
  exact or_iff_left fun standard => standard.2 member

end NameFraming
