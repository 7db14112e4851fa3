import Mathlib.Data.List.DropRight
import NameFraming.Proofs.Settings

/-! The checks of settings bring words and the suffix into a form that the same checks leave alone:
what has been accepted once is accepted again, as it is. -/

namespace NameFraming

namespace Text

theorem strip_eq_self {text : Text} (start : ∀ c ∈ text.head?, isBlank c = false)
    (last : ∀ c ∈ text.getLast?, isBlank c = false) : text.strip = text := by
  have startKept : text.stripStart = text := by
    cases text with
    | nil => rfl
    | cons c rest => exact stripStart_cons_of_not_blank (start c rfl) rest
  rw [strip, startKept]
  refine List.rdropWhile_eq_self_iff.mpr fun nonempty => ?_
  simp [last _ (List.getLast?_eq_getLast_of_ne_nil nonempty)]

theorem getLast?_strip_not_blank {text : Text} : ∀ c ∈ text.strip.getLast?, isBlank c = false := by
  intro c member
  have nonempty : text.strip ≠ [] := by
    intro empty
    simp [empty] at member
  rw [List.getLast?_eq_getLast_of_ne_nil nonempty, Option.mem_some_iff] at member
  rw [← member]
  exact Bool.eq_false_iff.mpr (List.rdropWhile_last_not isBlank text.stripStart nonempty)

end Text

/-- What is left of a value is no word: it is empty, or holds a character that is no part of one. -/
def NotOneWord (value : Text) : Prop :=
  canonicalWord value = [] ∨ ∃ c ∈ canonicalWord value, isWordChar c = false

theorem isWord_canonicalWord_iff {value : Text} :
    isWord (canonicalWord value) = true ↔ ¬ NotOneWord value := by
  simp [isWord, NotOneWord]

theorem not_isWord_canonicalWord_iff {value : Text} :
    (!isWord (canonicalWord value)) = true ↔ NotOneWord value := by
  rw [Bool.not_eq_true', ← Bool.not_eq_true, isWord_canonicalWord_iff, not_not]

/-- `words` holds each of `all` once, in the order in which they first occur there. -/
structure FirstOccurrences (words all : List Text) : Prop where
  mem_iff : ∀ word, word ∈ words ↔ word ∈ all
  inOrder : words.Pairwise fun earlier later => all.idxOf earlier < all.idxOf later

namespace FirstOccurrences

variable {words all : List Text}

theorem nodup (occurrences : FirstOccurrences words all) : words.Nodup :=
  occurrences.inOrder.imp fun before same => by simp [same] at before

theorem add (occurrences : FirstOccurrences words all) (word : Text) :
    FirstOccurrences (if words.contains word then words else words ++ [word]) (all ++ [word]) := by
  have kept : words.Pairwise fun earlier later =>
      (all ++ [word]).idxOf earlier < (all ++ [word]).idxOf later := by
    refine occurrences.inOrder.imp_of_mem fun inWords alsoInWords before => ?_
    rwa [List.idxOf_append_of_mem ((occurrences.mem_iff _).mp inWords),
      List.idxOf_append_of_mem ((occurrences.mem_iff _).mp alsoInWords)]
  split
  · rename_i held
    have inAll := (occurrences.mem_iff word).mp (List.contains_iff_mem.mp held)
    refine ⟨fun other => ?_, kept⟩
    rw [occurrences.mem_iff, List.mem_append, List.mem_singleton]
    exact ⟨.inl, fun either => either.elim id fun same => same ▸ inAll⟩
  · rename_i new
    have notInAll : word ∉ all := fun inAll =>
      new (List.contains_iff_mem.mpr ((occurrences.mem_iff word).mpr inAll))
    refine ⟨fun other => ?_, List.pairwise_append.mpr ⟨kept, List.pairwise_singleton _ _, ?_⟩⟩
    · rw [List.mem_append, List.mem_append, occurrences.mem_iff]
    · intro other inWords last isLast
      have inAll := (occurrences.mem_iff other).mp inWords
      rw [List.mem_singleton.mp isLast, List.idxOf_append_of_mem inAll,
        List.idxOf_append_of_notMem notInAll]
      exact Nat.lt_add_right _ (List.idxOf_lt_length_of_mem inAll)

end FirstOccurrences

section CanonicalWords

variable {held values words : List Text} {value : Text}

/-- What has been held so far does not matter for what fails. -/
theorem canonicalWordsFrom_eq_error_iff :
    canonicalWordsFrom held values = .error value ↔
      values.find? (fun value => !isWord (canonicalWord value)) = some value := by
  induction values generalizing held with
  | nil => simp [canonicalWordsFrom]
  | cons first rest ih =>
      simp only [canonicalWordsFrom, List.find?_cons]
      cases isWord (canonicalWord first) with
      | true => exact ih
      | false => simp

theorem canonicalWords_eq_error_iff :
    canonicalWords values = .error value ↔
      ∃ before after, values = before ++ value :: after ∧ NotOneWord value ∧
        ∀ earlier ∈ before, ¬ NotOneWord earlier := by
  rw [canonicalWords, canonicalWordsFrom_eq_error_iff, List.find?_eq_some_iff_append]
  simp only [← isWord_canonicalWord_iff, not_isWord_canonicalWord_iff, Bool.not_not]
  constructor
  · intro ⟨fails, before, after, split, pass⟩
    exact ⟨before, after, split, fails, pass⟩
  · intro ⟨before, after, split, fails, pass⟩
    exact ⟨fails, before, after, split, pass⟩

theorem exists_canonicalWords_iff :
    (∃ words, canonicalWords values = .ok words) ↔ ∀ value ∈ values, ¬ NotOneWord value := by
  have noFault : values.find? (fun value => !isWord (canonicalWord value)) = none ↔
      ∀ value ∈ values, ¬ NotOneWord value := by
    simp only [List.find?_eq_none, ← isWord_canonicalWord_iff, Bool.not_eq_true', Bool.not_eq_false]
  rw [← noFault]
  cases found : canonicalWords values with
  | ok words =>
      refine iff_of_true ⟨words, rfl⟩ (Option.eq_none_iff_forall_ne_some.mpr fun value fault => ?_)
      rw [canonicalWords, canonicalWordsFrom_eq_error_iff.mpr fault] at found
      cases found
  | error value =>
      have fault := canonicalWordsFrom_eq_error_iff.mp found
      simp [fault]

/-- The words that are held are always the first occurrences among the canonical forms so far. -/
theorem canonicalWordsFrom_firstOccurrences {all : List Text}
    (occurrences : FirstOccurrences held all)
    (accepted : canonicalWordsFrom held values = .ok words) :
    FirstOccurrences words (all ++ values.map canonicalWord) := by
  induction values generalizing held all with
  | nil =>
      cases accepted
      simpa using occurrences
  | cons first rest ih =>
      simp only [canonicalWordsFrom] at accepted
      split at accepted
      · have later := ih (occurrences.add (canonicalWord first)) accepted
        rwa [List.append_assoc] at later
      · cases accepted

theorem CanonicalWord.strip {word : Text} (canonical : CanonicalWord word) : word.strip = word :=
  Text.strip_eq_self
    (fun c member => isBlank_eq_false_of_isWordChar
      (canonical.wordChars c (List.mem_of_mem_head? member)))
    (fun c member => isBlank_eq_false_of_isWordChar
      (canonical.wordChars c (List.mem_of_getLast? member)))

theorem CanonicalWord.canonicalWord_eq {word : Text} (canonical : CanonicalWord word) :
    canonicalWord word = word := by
  rw [canonicalWord, canonical.strip, canonical.upper]

theorem CanonicalWord.isWord {word : Text} (canonical : CanonicalWord word) :
    isWord word = true := by
  simpa [NameFraming.isWord, canonical.nonempty] using canonical.wordChars

theorem canonicalWordsFrom_of_canonical (canonical : ∀ word ∈ words, CanonicalWord word)
    (nodup : (held ++ words).Nodup) : canonicalWordsFrom held words = .ok (held ++ words) := by
  induction words generalizing held with
  | nil => simp [canonicalWordsFrom]
  | cons first rest ih =>
      obtain ⟨ofFirst, ofRest⟩ := List.forall_mem_cons.mp canonical
      have new : first ∉ held := fun member =>
        (List.nodup_append.mp nodup).2.2 first member first List.mem_cons_self rfl
      have shifted : held ++ first :: rest = held ++ [first] ++ rest := by simp
      rw [shifted] at nodup ⊢
      simp only [canonicalWordsFrom, ofFirst.canonicalWord_eq, ofFirst.isWord, if_true]
      rw [if_neg fun found => new (List.contains_iff_mem.mp found), ih ofRest nodup]

theorem canonicalWords_of_canonical (canonical : ∀ word ∈ words, CanonicalWord word)
    (nodup : words.Nodup) : canonicalWords words = .ok words :=
  canonicalWordsFrom_of_canonical canonical nodup

theorem canonicalWords_firstOccurrences (accepted : canonicalWords values = .ok words) :
    FirstOccurrences words (values.map canonicalWord) := by
  have start : FirstOccurrences [] [] := ⟨by simp, .nil⟩
  exact canonicalWordsFrom_firstOccurrences start accepted

theorem canonicalWords_canonicalWords (accepted : canonicalWords values = .ok words) :
    canonicalWords words = .ok words :=
  canonicalWords_of_canonical (canonicalWords_canonical accepted)
    (canonicalWords_firstOccurrences accepted).nodup

end CanonicalWords

/-- A point, and no white space at either end. -/
structure CanonicalSuffix (suffix : Text) : Prop where
  point : suffix.head? = some '.'
  stripped : suffix.strip = suffix

section Suffix

variable {value suffix : Text}

theorem canonicalSuffix_canonical (found : canonicalSuffix value = some suffix) :
    CanonicalSuffix suffix := by
  have last := @Text.getLast?_strip_not_blank value
  have canonical : ∀ rest : Text, (∀ c ∈ rest.getLast?, isBlank c = false) →
      CanonicalSuffix ('.' :: rest) := by
    intro rest restLast
    have point : isBlank '.' = false := by decide
    refine ⟨rfl, Text.strip_eq_self (fun c start => ?_) ?_⟩
    · cases start
      exact point
    cases rest with
    | nil => simpa using point
    | cons c more => simpa using restLast
  unfold canonicalSuffix at found
  split at found
  · cases found
  · rename_i rest stripped
    cases found
    refine canonical rest fun c member => last c ?_
    rw [stripped]
    cases rest with
    | nil => cases member
    | cons d more => simpa using member
  · cases found
    exact canonical _ last

theorem CanonicalSuffix.canonicalSuffix_eq (canonical : CanonicalSuffix suffix) :
    canonicalSuffix suffix = some suffix := by
  obtain ⟨rest, rfl⟩ := List.head?_eq_some_iff.mp canonical.point
  simp only [canonicalSuffix, canonical.stripped]

end Suffix

namespace Settings

variable {settings : Settings} {words : List Text}

/-- The values of all settings, as they are given to a check. -/
def given (settings : Settings) : List (String × Value) :=
  [("corpus_dir", .text settings.corpusDir), ("corpus_suffix", .text settings.corpusSuffix),
    ("material_preposition", .text settings.materialPreposition),
    ("material_qualities", .list (settings.materialQualities.map .text)),
    ("extra_keywords", .list (settings.extraKeywords.map .text)),
    ("log_level", .text settings.logLevel), ("log_json", .bool settings.logJson)]

theorem items_givenText (words : List Text) (index : Nat) :
    Checked.items givenText index (words.map .text) = .valid (words.map .ok) := by
  induction words generalizing index with
  | nil => rfl
  | cons word rest ih =>
      rw [List.map_cons, Checked.items, ih]
      rfl

theorem leadingTexts_map_ok (words : List Text) : leadingTexts (words.map .ok) = (words, none) := by
  induction words with
  | nil => rfl
  | cons word rest ih => rw [List.map_cons, leadingTexts, ih]

theorem checkGivenWords_of_checkWords (fixed : checkWords words = .valid words) :
    ((Value.list (words.map .text)).asList givenText).andThen checkGivenWords = .valid words := by
  have texts : (Value.list (words.map .text)).asList givenText = .valid (words.map .ok) :=
    items_givenText words 0
  rw [texts]
  simp only [Checked.andThen, checkGivenWords, leadingTexts_map_ok, fixed]

theorem checkWords_checkWords {values : List Text} (accepted : checkWords values = .valid words) :
    checkWords words = .valid words := by
  unfold checkWords at accepted ⊢
  split at accepted
  · rename_i found
    cases accepted
    rw [canonicalWords_canonicalWords found]
  · cases accepted

theorem checkPreposition_checkPreposition {value word : Text}
    (accepted : checkPreposition value = .valid word) : checkPreposition word = .valid word := by
  have canonical := checkPreposition_canonical accepted
  rw [checkPreposition, canonical.canonicalWord_eq, if_pos canonical.isWord]

theorem checkSuffix_canonical {value suffix : Text} (accepted : checkSuffix value = .valid suffix) :
    CanonicalSuffix suffix := by
  unfold checkSuffix at accepted
  split at accepted
  · rename_i found
    cases accepted
    exact canonicalSuffix_canonical found
  · cases accepted

theorem checkSuffix_of_canonical {suffix : Text} (canonical : CanonicalSuffix suffix) :
    checkSuffix suffix = .valid suffix := by
  rw [checkSuffix, canonical.canonicalSuffix_eq]

theorem checkField_of_lookup {α : Type} {given : List (String × Value)} {name : String}
    {standard value : α} {check : Value → Checked α} {source : Value}
    (found : given.lookup name = some source) (passes : check source = .valid value) :
    checkField given name standard check = .valid value := by
  rw [checkField, found]
  exact congrArg (Checked.under (.field name.toList)) passes

/-- Values that come behind, such as those of the environment, do not matter any more. -/
theorem Accepted.check_given (accepted : settings.Accepted) (others : List (String × Value)) :
    check (settings.given ++ others) = .valid settings := by
  obtain ⟨⟨_, suffix⟩, ⟨_, preposition⟩, ⟨_, materials⟩, ⟨_, keywords⟩⟩ := accepted.passed
  exact check_eq_valid_iff.mpr {
    corpusDir := checkField_of_lookup rfl rfl
    corpusSuffix := checkField_of_lookup rfl
      (checkSuffix_of_canonical (checkSuffix_canonical suffix))
    materialPreposition := checkField_of_lookup rfl (checkPreposition_checkPreposition preposition)
    materialQualities := checkField_of_lookup rfl
      (checkGivenWords_of_checkWords (checkWords_checkWords materials))
    extraKeywords := checkField_of_lookup rfl
      (checkGivenWords_of_checkWords (checkWords_checkWords keywords))
    logLevel := checkField_of_lookup rfl rfl
    logJson := checkField_of_lookup rfl rfl }

end Settings

/-- Word lists: what fails and which value is to blame, what comes out, and that it comes out again.
Together with what the suffix is brought to, this makes accepted settings a fixed point of their
check, whatever other values come behind. -/
theorem canonicalWords_settle :
    (∀ values value, canonicalWords values = .error value ↔
      ∃ before after, values = before ++ value :: after ∧ NotOneWord value ∧
        ∀ earlier ∈ before, ¬ NotOneWord earlier) ∧
    (∀ values, (∃ words, canonicalWords values = .ok words) ↔
      ∀ value ∈ values, ¬ NotOneWord value) ∧
    (∀ values words, canonicalWords values = .ok words →
      words.Nodup ∧ (∀ word ∈ words, CanonicalWord word ∧ word.strip = word) ∧
        FirstOccurrences words (values.map canonicalWord) ∧ canonicalWords words = .ok words) ∧
    (∀ value suffix, Settings.checkSuffix value = .valid suffix → CanonicalSuffix suffix) ∧
    ∀ settings : Settings, settings.Accepted →
      ∀ others, Settings.check (settings.given ++ others) = .valid settings := by
  refine ⟨fun values value => canonicalWords_eq_error_iff, fun values => exists_canonicalWords_iff,
    fun values words accepted => ?_, fun value suffix => Settings.checkSuffix_canonical,
    fun settings accepted => accepted.check_given⟩
  have occurrences := canonicalWords_firstOccurrences accepted
  have canonical := canonicalWords_canonical accepted
  exact ⟨occurrences.nodup,
    fun word member => ⟨canonical word member, (canonical word member).strip⟩, occurrences,
    canonicalWords_canonicalWords accepted⟩

/-- Two spellings of one word, one of them longer, and a suffix without its point. -/
theorem canonicalWords_settle_spellings :
    let values := [" straße".toList, "oak".toList, "STRASSE".toList]
    let words := ["STRASSE".toList, "OAK".toList]
    let settings : Settings := { materialQualities := words, corpusSuffix := ".weil".toList }
    canonicalWords values = .ok words ∧ canonicalWords words = .ok words ∧
      settings.Accepted ∧ Settings.check settings.given = .valid settings := by
  intro values words settings
  have found : canonicalWords values = .ok words := by decide +kernel
  have accepted : settings.Accepted :=
    ⟨[("material_qualities", .list (values.map .text)), ("corpus_suffix", .text "weil ".toList)],
      rfl⟩
  obtain ⟨_, _, settles, _, again⟩ := canonicalWords_settle
  have checked := again settings accepted []
  rw [List.append_nil] at checked
  exact ⟨found, (settles values words found).2.2.2, accepted, checked⟩

end NameFraming
