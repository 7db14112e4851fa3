import NameFraming.Correction.Phrase
import NameFraming.Proofs.Token.Passthrough

/-! What stands at an index of a token list. The corrections are loops over suffixes of a list; here
their conditions are said by indices, which a rewrite of single tokens leaves alone. -/

namespace NameFraming

variable {tokens : List Token} {index : Nat} {word : Text}

def BlankAt (tokens : List Token) (index : Nat) : Prop :=
  ∃ token, tokens[index]? = some token ∧ token.isBlank = true

/-- The token at an index is a word that reads as the given one. -/
def WordAt (tokens : List Token) (index : Nat) (word : Text) : Prop :=
  ∃ token, tokens[index]? = some token ∧ token.isWord word = true

/-- The token at an index is a word that could be framed. -/
def NameAt (tokens : List Token) (index : Nat) : Prop :=
  ∃ token, tokens[index]? = some token ∧ token.kind = .word ∧ isBareName token.text = true

theorem Token.isBlank_iff {token : Token} :
    token.isBlank = true ↔
      token.kind = .other ∧ token.text ≠ [] ∧ token.text.all NameFraming.isBlank = true := by
  simp [Token.isBlank, and_assoc]

theorem Token.isWord_iff {token : Token} :
    token.isWord word = true ↔ token.kind = .word ∧ upper token.text = word := by
  simp [Token.isWord]

theorem blankAt_cons {first : Token} : BlankAt (first :: tokens) 0 ↔ first.isBlank = true := by
  simp [BlankAt]

theorem blankAt_cons_succ {first : Token} :
    BlankAt (first :: tokens) (index + 1) ↔ BlankAt tokens index := by
  simp [BlankAt]

theorem wordAt_cons {first : Token} :
    WordAt (first :: tokens) 0 word ↔ first.isWord word = true := by
  simp [WordAt]

theorem nameAt_cons {first : Token} :
    NameAt (first :: tokens) 0 ↔ first.kind = .word ∧ isBareName first.text = true := by
  simp [NameAt]

theorem nameAt_cons_succ {first : Token} :
    NameAt (first :: tokens) (index + 1) ↔ NameAt tokens index := by
  simp [NameAt]

theorem blankAt_drop {start : Nat} :
    BlankAt (tokens.drop start) index ↔ BlankAt tokens (start + index) := by
  simp [BlankAt]

theorem wordAt_drop {start : Nat} :
    WordAt (tokens.drop start) index word ↔ WordAt tokens (start + index) word := by
  simp [WordAt]

theorem not_blankAt_of_kind {token : Token} (found : tokens[index]? = some token)
    (kind : token.kind ≠ .other) : ¬ BlankAt tokens index := by
  intro ⟨blank, sameFound, isBlank⟩
  cases found.symm.trans sameFound
  exact kind (Token.isBlank_iff.mp isBlank).1

theorem wordAt_unique {other : Text} (reads : WordAt tokens index word)
    (alsoReads : WordAt tokens index other) : word = other := by
  obtain ⟨token, found, first⟩ := reads
  obtain ⟨_, sameFound, second⟩ := alsoReads
  cases found.symm.trans sameFound
  rw [← (Token.isWord_iff.mp first).2, ← (Token.isWord_iff.mp second).2]

namespace Phrase

theorem begins_iff {phrase : Phrase} :
    phrase.begins tokens = true ↔
      ∀ n word, phrase[n]? = some word →
        WordAt tokens (2 * n) word ∧ (0 < n → BlankAt tokens (2 * n - 1)) := by
  fun_induction begins phrase tokens with
  | case1 => simp
  | case2 only token rest =>
      have head : token.isWord only = true ↔ WordAt (token :: rest) 0 only := wordAt_cons.symm
      rw [head]
      constructor
      · intro reads n word found
        cases n with
        | zero => exact ⟨by simpa using (Option.some.inj found) ▸ reads, by simp⟩
        | succ n => simp at found
      · intro all
        exact (all 0 only rfl).1
  | case3 first next later token gap rest ih =>
      simp only [Bool.and_eq_true, ih]
      constructor
      · intro ⟨⟨reads, blank⟩, all⟩ n word found
        cases n with
        | zero => exact ⟨wordAt_cons.mpr ((Option.some.inj found) ▸ reads), by simp⟩
        | succ n =>
            obtain ⟨laterReads, laterBlank⟩ := all n word found
            refine ⟨by simpa [Nat.mul_add, WordAt] using laterReads, fun _ => ?_⟩
            cases n with
            | zero => exact blankAt_cons_succ.mpr (blankAt_cons.mpr blank)
            | succ n =>
                have moved : 2 * (n + 1 + 1) - 1 = 2 * (n + 1) - 1 + 1 + 1 := by omega
                rw [moved, blankAt_cons_succ, blankAt_cons_succ]
                exact laterBlank (by omega)
      · intro all
        refine ⟨⟨wordAt_cons.mp (all 0 first rfl).1, ?_⟩, ?_⟩
        · exact blankAt_cons.mp (blankAt_cons_succ.mp ((all 1 next rfl).2 (by omega)))
        · intro n word found
          obtain ⟨reads, blank⟩ := all (n + 1) word found
          refine ⟨by simpa [Nat.mul_add, WordAt] using reads, fun positive => ?_⟩
          have moved : 2 * (n + 1) - 1 = 2 * n - 1 + 1 + 1 := by omega
          have shifted := blank (by omega)
          rwa [moved, blankAt_cons_succ, blankAt_cons_succ] at shifted
  | case4 phrase tokens nonempty notOne notMore =>
      -- There are words left, and no tokens for them.
      simp only [Bool.false_eq_true, false_iff, not_forall]
      match phrase, tokens with
      | [], _ => exact absurd rfl nonempty
      | word :: later, [] => exact ⟨0, word, rfl, by simp [WordAt]⟩
      | [word], token :: rest => exact absurd rfl (notOne word token rest rfl)
      | word :: next :: later, [token] => exact ⟨1, next, rfl, by simp [WordAt]⟩
      | word :: next :: later, token :: gap :: rest =>
          exact absurd rfl (notMore word next later token gap rest rfl)

theorem standsAt_iff {phrase : Phrase} {start : Nat} :
    phrase.standsAt tokens start = true ↔
      ∀ n word, phrase[n]? = some word →
        WordAt tokens (start + 2 * n) word ∧ (0 < n → BlankAt tokens (start + 2 * n - 1)) := by
  rw [standsAt, begins_iff]
  constructor
  · intro all n word found
    obtain ⟨reads, blank⟩ := all n word found
    refine ⟨wordAt_drop.mp reads, fun positive => ?_⟩
    have moved : start + 2 * n - 1 = start + (2 * n - 1) := by omega
    exact moved ▸ blankAt_drop.mp (blank positive)
  · intro all n word found
    obtain ⟨reads, blank⟩ := all n word found
    refine ⟨wordAt_drop.mpr reads, fun positive => blankAt_drop.mpr ?_⟩
    have moved : start + (2 * n - 1) = start + 2 * n - 1 := by omega
    exact moved ▸ blank positive

theorem standsAt_pair_iff {first second : Text} {start : Nat} :
    standsAt [first, second] tokens start = true ↔
      WordAt tokens start first ∧ BlankAt tokens (start + 1) ∧
        WordAt tokens (start + 2) second := by
  rw [standsAt_iff]
  constructor
  · intro all
    exact ⟨(all 0 first rfl).1, (all 1 second rfl).2 (by omega), (all 1 second rfl).1⟩
  · intro ⟨firstReads, blank, secondReads⟩ n word found
    match n with
    | 0 => exact ⟨(Option.some.inj found) ▸ firstReads, by simp⟩
    | 1 => exact ⟨(Option.some.inj found) ▸ secondReads, fun _ => blank⟩
    | n + 2 => simp at found

end Phrase

end NameFraming
