import NameFraming.Encoding
import NameFraming.Proofs.Encoding.Utf8

/-! Writing in each encoding, and reading what was written. Apart from byte order marks, a text is
written character by character, and no bytes have two texts. -/

namespace NameFraming

theorem ofNat_lt_of_ascii {code : Nat} (ascii : code < 0x80) : UInt8.ofNat code < 0x80 := by
  rw [UInt8.lt_iff_toNat_lt, UInt8.toNat_ofNat']
  exact Nat.lt_of_le_of_lt (Nat.mod_le code _) ascii

namespace SingleByte

variable {table : SingleByte} {byte : UInt8} {c : Char} {text : Text} {bytes : Bytes}

theorem encodeChar?_of_decodeByte? (decoded : table.decodeByte? byte = some c) :
    table.encodeChar? c = some byte := by
  have each : ∀ code < 256, (table.decodeByte? (UInt8.ofNat code)).all
      (fun c => table.encodeChar? c == some (UInt8.ofNat code)) = true := by
    cases table <;> decide +kernel
  have found := each byte.toNat byte.toNat_lt
  rw [UInt8.ofNat_toNat, decoded] at found
  simpa using found

theorem decodeByte?_of_encodeChar? (encoded : table.encodeChar? c = some byte) :
    table.decodeByte? byte = some c := by
  cases table with
  | ascii =>
      simp only [encodeChar?, Option.ite_none_right_eq_some, Option.some.injEq] at encoded
      obtain ⟨small, rfl⟩ := encoded
      have byteSized : c.toNat < 256 := by omega
      rw [decodeByte?, if_pos (ofNat_lt_of_ascii small), UInt8.toNat_ofNat_of_lt' byteSized,
        Char.ofNat_toNat]
  | latin1 =>
      simp only [encodeChar?, Option.ite_none_right_eq_some, Option.some.injEq] at encoded
      obtain ⟨small, rfl⟩ := encoded
      rw [decodeByte?, UInt8.toNat_ofNat_of_lt' small, Char.ofNat_toNat]
  | windows1252 =>
      simp only [encodeChar?] at encoded
      split at encoded
      · rename_i direct
        cases encoded
        have small : c.toNat < 256 := by omega
        have outside : ¬ (0x80 ≤ UInt8.ofNat c.toNat ∧ UInt8.ofNat c.toNat < 0xA0) := by
          rw [UInt8.le_iff_toNat_le, UInt8.lt_iff_toNat_lt, UInt8.toNat_ofNat_of_lt' small]
          simp only [UInt8.reduceToNat]
          omega
        rw [decodeByte?, if_neg outside, UInt8.toNat_ofNat_of_lt' small, Char.ofNat_toNat]
      · obtain ⟨index, found, rfl⟩ := Option.map_eq_some_iff.mp encoded
        obtain ⟨bound, same, _⟩ := List.findIdx?_eq_some_iff_getElem.mp found
        have short : windowsHigh.length = 32 := rfl
        have byteSized : 0x80 + index < 256 := by omega
        have value := UInt8.toNat_ofNat_of_lt' byteSized
        have inside : 0x80 ≤ UInt8.ofNat (0x80 + index) ∧ UInt8.ofNat (0x80 + index) < 0xA0 := by
          rw [UInt8.le_iff_toNat_le, UInt8.lt_iff_toNat_lt, value]
          simp only [UInt8.reduceToNat]
          omega
        rw [decodeByte?, if_pos inside, value, Nat.add_sub_cancel_left,
          List.getElem?_eq_getElem bound, eq_of_beq same]
        rfl

theorem encode?_eq_some_iff : table.encode? text = some bytes ↔ table.decode? bytes = some text := by
  have char : ∀ c byte, table.encodeChar? c = some byte ↔ table.decodeByte? byte = some c :=
    fun c byte => ⟨decodeByte?_of_encodeChar?, encodeChar?_of_decodeByte?⟩
  simp only [encode?, decode?]
  induction text generalizing bytes with
  | nil => cases bytes <;> simp [Option.bind_eq_some_iff]
  | cons c rest ih =>
      cases bytes with
      | nil => simp [Option.bind_eq_some_iff]
      | cons byte later => simp [Option.bind_eq_some_iff, char, ih]

/-- The bytes of a character: one or none. -/
def charBytes (table : SingleByte) (c : Char) : Bytes :=
  (table.encodeChar? c).toList

theorem eq_flatMap_charBytes (encoded : table.encode? text = some bytes) :
    bytes = text.flatMap table.charBytes := by
  induction text generalizing bytes with
  | nil =>
      cases encoded
      rfl
  | cons c rest ih =>
      simp only [encode?, List.mapM_cons, Option.bind_eq_bind, Option.bind_eq_some_iff] at encoded
      obtain ⟨byte, ofChar, later, ofRest, whole⟩ := encoded
      cases whole
      rw [List.flatMap_cons, charBytes, ofChar, ← ih ofRest]
      rfl

theorem exists_encode? (each : ∀ c ∈ text, (table.encodeChar? c).isSome) :
    ∃ bytes, table.encode? text = some bytes := by
  induction text with
  | nil => exact ⟨[], rfl⟩
  | cons c rest ih =>
      obtain ⟨ofChar, ofRest⟩ := List.forall_mem_cons.mp each
      obtain ⟨byte, encodedChar⟩ := Option.isSome_iff_exists.mp ofChar
      obtain ⟨later, encodedRest⟩ := ih ofRest
      refine ⟨byte :: later, ?_⟩
      rw [encode?] at encodedRest ⊢
      simp [encodedChar, encodedRest]

theorem isSome_encodeChar?_of_mem (encoded : table.encode? text = some bytes) (member : c ∈ text) :
    (table.encodeChar? c).isSome := by
  induction text generalizing bytes with
  | nil => cases member
  | cons first rest ih =>
      simp only [encode?, List.mapM_cons, Option.bind_eq_bind, Option.bind_eq_some_iff] at encoded
      obtain ⟨byte, ofChar, later, ofRest, _⟩ := encoded
      rcases List.mem_cons.mp member with rfl | inRest
      · simp [ofChar]
      · exact ih ofRest inRest

theorem encodeChar?_of_ascii (ascii : c.toNat < 0x80) :
    table.encodeChar? c = some (UInt8.ofNat c.toNat) := by
  cases table with
  | ascii => simp [encodeChar?, ascii]
  | latin1 => simp [encodeChar?, (by omega : c.toNat < 0x100)]
  | windows1252 => simp [encodeChar?, ascii]

/-- A text can be written when its characters are in ASCII or in a text that can be written. -/
theorem exists_encode?_of_known {after : Text} (encoded : table.encode? text = some bytes)
    (known : ∀ c ∈ after, c.toNat < 0x80 ∨ c ∈ text) :
    ∃ written, table.encode? after = some written := by
  refine exists_encode? fun c member => ?_
  rcases known c member with ascii | inText
  · rw [encodeChar?_of_ascii ascii]
    rfl
  · exact isSome_encodeChar?_of_mem encoded inText

theorem charBytes_of_ascii (ascii : c.toNat < 0x80) :
    table.charBytes c ≠ [] ∧ ∀ byte ∈ table.charBytes c, byte < 0x80 := by
  simp [charBytes, encodeChar?_of_ascii ascii, ofNat_lt_of_ascii ascii]

end SingleByte

namespace Utf16

variable {order : ByteOrder} {units : List Nat} {text : Text} {bytes : Bytes}

theorem toNat_unitBytes {unit : Nat} (small : unit < 0x10000) :
    (UInt8.ofNat (unit / 0x100)).toNat * 0x100 + (UInt8.ofNat unit).toNat = unit := by
  simp only [UInt8.toNat_ofNat']
  omega

theorem units?_flatMap_unitBytes (small : ∀ unit ∈ units, unit < 0x10000) :
    units? order (units.flatMap (unitBytes order)) = some units := by
  induction units with
  | nil => rfl
  | cons unit rest ih =>
      obtain ⟨unitSmall, restSmall⟩ := List.forall_mem_cons.mp small
      have value := toNat_unitBytes unitSmall
      rw [List.flatMap_cons]
      cases order <;>
        simp only [unitBytes, List.cons_append, List.nil_append, units?, ih restSmall, value,
          Option.map_some]

theorem unitBytes_toNat (high low : UInt8) :
    unitBytes .little (high.toNat * 0x100 + low.toNat) = [low, high] ∧
      unitBytes .big (high.toNat * 0x100 + low.toNat) = [high, low] := by
  have lowBound := low.toNat_lt
  have highPart : (high.toNat * 0x100 + low.toNat) / 0x100 = high.toNat := by omega
  have lowPart : UInt8.ofNat (high.toNat * 0x100 + low.toNat) = low := by
    apply UInt8.toNat_inj.mp
    simp only [UInt8.toNat_ofNat']
    omega
  simp only [unitBytes, highPart, lowPart, UInt8.ofNat_toNat, and_self]

theorem eq_flatMap_unitBytes {bytes : Bytes} {units : List Nat}
    (found : units? order bytes = some units) :
    bytes = units.flatMap (unitBytes order) ∧ ∀ unit ∈ units, unit < 0x10000 := by
  match bytes with
  | [] =>
      cases found
      simp
  | [_] => cases found
  | first :: second :: rest =>
      obtain ⟨later, foundLater, rfl⟩ := Option.map_eq_some_iff.mp found
      obtain ⟨restEq, restSmall⟩ := eq_flatMap_unitBytes foundLater
      have firstBound := first.toNat_lt
      have secondBound := second.toNat_lt
      refine ⟨?_, List.forall_mem_cons.mpr ⟨?_, restSmall⟩⟩
      · rw [List.flatMap_cons, ← restEq]
        cases order <;> simp [unitBytes_toNat]
      · cases order <;> simp only <;> omega

/-- No character is a surrogate. -/
theorem not_surrogate (c : Char) : c.toNat < 0xD800 ∨ 0xDFFF < c.toNat ∧ c.toNat < 0x110000 :=
  c.valid

theorem charUnits_small (c : Char) : ∀ unit ∈ charUnits c, unit < 0x10000 := by
  have valid := not_surrogate c
  intro unit member
  unfold charUnits at member
  split at member
  · rw [List.mem_singleton] at member
    omega
  · simp only [List.mem_cons, List.not_mem_nil, or_false] at member
    omega

theorem chars?_charUnits_append (c : Char) (later : List Nat) :
    chars? (charUnits c ++ later) = (chars? later).map (c :: ·) := by
  have valid := not_surrogate c
  unfold charUnits
  split
  · have notHigh : isHigh c.toNat = false := by simp [isHigh]; omega
    have notLow : isLow c.toNat = false := by simp [isLow]; omega
    rw [List.singleton_append, chars?.eq_def]
    simp only [notHigh, notLow, Bool.false_eq_true, if_false, Char.ofNat_toNat]
  · -- The two units of a pair give back the number they were made from.
    have high : isHigh (0xD800 + (c.toNat - 0x10000) / 0x400) = true := by simp [isHigh]; omega
    have low : isLow (0xDC00 + (c.toNat - 0x10000) % 0x400) = true := by simp [isLow]; omega
    have joined : 0x10000 + (0xD800 + (c.toNat - 0x10000) / 0x400 - 0xD800) * 0x400 +
        (0xDC00 + (c.toNat - 0x10000) % 0x400 - 0xDC00) = c.toNat := by omega
    simp only [List.cons_append, List.nil_append, chars?, high, low, if_true, joined,
      Char.ofNat_toNat]

theorem chars?_flatMap_charUnits (text : Text) : chars? (text.flatMap charUnits) = some text := by
  induction text with
  | nil => rfl
  | cons c rest ih => rw [List.flatMap_cons, chars?_charUnits_append, ih, Option.map_some]

theorem toNat_ofNat {code : Nat} (valid : code.isValidChar) : (Char.ofNat code).toNat = code := by
  rw [Char.ofNat, dif_pos valid]
  rfl

theorem charUnits_pair {high low : Nat} (first : isHigh high = true) (second : isLow low = true) :
    charUnits (Char.ofNat (0x10000 + (high - 0xD800) * 0x400 + (low - 0xDC00))) = [high, low] := by
  simp only [isHigh, isLow, Bool.and_eq_true, decide_eq_true_eq] at first second
  have valid : (0x10000 + (high - 0xD800) * 0x400 + (low - 0xDC00)).isValidChar :=
    .inr (by omega)
  have highPart : 0xD800 + (0x10000 + (high - 0xD800) * 0x400 + (low - 0xDC00) - 0x10000) / 0x400 =
      high := by omega
  have lowPart : 0xDC00 + (0x10000 + (high - 0xD800) * 0x400 + (low - 0xDC00) - 0x10000) % 0x400 =
      low := by omega
  rw [charUnits, toNat_ofNat valid, if_neg (by omega), highPart, lowPart]

theorem charUnits_single {unit : Nat} (small : unit < 0x10000) (notHigh : ¬ isHigh unit = true)
    (notLow : ¬ isLow unit = true) : charUnits (Char.ofNat unit) = [unit] := by
  simp only [isHigh, isLow, Bool.and_eq_true, decide_eq_true_eq] at notHigh notLow
  have valid : unit.isValidChar := by
    unfold Nat.isValidChar
    omega
  rw [charUnits, toNat_ofNat valid, if_pos small]

theorem eq_flatMap_charUnits (small : ∀ unit ∈ units, unit < 0x10000)
    (found : chars? units = some text) : units = text.flatMap charUnits := by
  fun_induction chars? units generalizing text with
  | case1 =>
      cases found
      rfl
  | case2 unit isHigh low later isLow ih =>
      obtain ⟨rest, foundRest, rfl⟩ := Option.map_eq_some_iff.mp found
      have laterSmall := fun unit member =>
        small unit (List.mem_cons_of_mem _ (List.mem_cons_of_mem _ member))
      rw [List.flatMap_cons, charUnits_pair isHigh isLow, ← ih laterSmall foundRest]
      rfl
  | case3 => cases found
  | case4 => cases found
  | case5 => cases found
  | case6 unit rest notHigh notLow ih =>
      obtain ⟨later, foundLater, rfl⟩ := Option.map_eq_some_iff.mp found
      obtain ⟨unitSmall, restSmall⟩ := List.forall_mem_cons.mp small
      rw [List.flatMap_cons, charUnits_single unitSmall notHigh notLow, ← ih restSmall foundLater]
      rfl

/-- The bytes of a character in a byte order. -/
def charBytes (order : ByteOrder) (c : Char) : Bytes :=
  (charUnits c).flatMap (unitBytes order)

theorem encode_eq_flatMap_unitBytes (order : ByteOrder) (text : Text) :
    encode order text = (text.flatMap charUnits).flatMap (unitBytes order) :=
  List.flatMap_assoc.symm

theorem decode?_eq_some_iff : decode? order bytes = some text ↔ bytes = encode order text := by
  rw [decode?, Option.bind_eq_some_iff, encode_eq_flatMap_unitBytes]
  constructor
  · intro ⟨units, foundUnits, foundText⟩
    obtain ⟨bytesEq, small⟩ := eq_flatMap_unitBytes foundUnits
    rw [bytesEq, eq_flatMap_charUnits small foundText]
  · intro same
    have small : ∀ unit ∈ text.flatMap charUnits, unit < 0x10000 := by
      intro unit member
      obtain ⟨c, _, ofChar⟩ := List.mem_flatMap.mp member
      exact charUnits_small c unit ofChar
    exact ⟨_, same ▸ units?_flatMap_unitBytes small, chars?_flatMap_charUnits text⟩

theorem decodeMarked?_encodeMarked (text : Text) :
    decodeMarked? (encodeMarked text) = some text :=
  decode?_eq_some_iff.mpr rfl

theorem charBytes_of_ascii {c : Char} (ascii : c.toNat < 0x80) :
    charBytes order c ≠ [] ∧ ∀ byte ∈ charBytes order c, byte < 0x80 := by
  have single : charUnits c = [c.toNat] := if_pos (by omega)
  have high : UInt8.ofNat (c.toNat / 0x100) = 0 := by
    rw [Nat.div_eq_of_lt (by omega)]
    rfl
  rw [charBytes, single]
  cases order <;> simp [unitBytes, high, ofNat_lt_of_ascii ascii]

end Utf16

end NameFraming
