import NameFraming.Proofs.Corpus.WriteBack
import NameFraming.Proofs.Framer.Conservation

/-! What a rewrite does to the bytes of a file. Where a character in ASCII is one byte, no other
character has the byte of the delimiter in it, and so all the other bytes of a file stay as they are,
whatever the rules take away or put in. -/

namespace NameFraming

/-- The delimiter in ASCII. -/
def barByte : UInt8 := 0x7C

theorem Utf8.encodeChar_delimiter : String.utf8EncodeChar delimiter = [barByte] := by decide

theorem Utf8.eq_delimiter_of_mem {c : Char} (member : barByte ∈ String.utf8EncodeChar c) :
    c = delimiter := by
  have alone := utf8EncodeChar_eq_singleton member (by decide)
  have same : encode [c] = encode [delimiter] := by
    simp only [encode_cons, encode_nil, alone, encodeChar_delimiter]
  have decoded := decode?_encode [c]
  rw [same, decode?_encode] at decoded
  exact (List.singleton_inj.mp (Option.some.inj decoded)).symm

theorem SingleByte.charBytes_delimiter (table : SingleByte) :
    table.charBytes delimiter = [barByte] := by
  rw [charBytes, encodeChar?_of_ascii (by decide)]
  rfl

theorem SingleByte.eq_delimiter_of_mem {table : SingleByte} {c : Char}
    (member : barByte ∈ table.charBytes c) : c = delimiter := by
  have ofChar := decodeByte?_of_encodeChar? (Option.mem_toList.mp member)
  have ofBar : table.decodeByte? barByte = some delimiter := by cases table <;> decide
  exact Option.some.inj (ofChar.symm.trans ofBar)

namespace Encoding

variable {encoding : Encoding} {text : Text} {c : Char}

/-- Encodings whose unit is two bytes. -/
def isWide : Encoding → Bool
  | utf16 | utf16Ordered _ => true
  | singleByte _ | utf8 | utf8Signed => false

theorem charBytes_delimiter (narrow : encoding.isWide = false) :
    encoding.charBytes delimiter = [barByte] := by
  cases encoding with
  | singleByte table => exact table.charBytes_delimiter
  | utf8 => exact Utf8.encodeChar_delimiter
  | utf8Signed => exact Utf8.encodeChar_delimiter
  | utf16 => cases narrow
  | utf16Ordered order => cases narrow

theorem barByte_not_mem (narrow : encoding.isWide = false) (other : c ≠ delimiter) :
    barByte ∉ encoding.charBytes c := by
  intro member
  cases encoding with
  | singleByte table => exact other (SingleByte.eq_delimiter_of_mem member)
  | utf8 => exact other (Utf8.eq_delimiter_of_mem member)
  | utf8Signed => exact other (Utf8.eq_delimiter_of_mem member)
  | utf16 => cases narrow
  | utf16Ordered order => cases narrow

/-- Taking the byte of the delimiter out is taking the delimiter out. -/
theorem filter_flatMap_charBytes (narrow : encoding.isWide = false) (text : Text) :
    (text.flatMap encoding.charBytes).filter (· ≠ barByte) =
      (text.filter (· ≠ delimiter)).flatMap encoding.charBytes := by
  induction text with
  | nil => rfl
  | cons c rest ih =>
      rw [List.flatMap_cons, List.filter_append, ih]
      by_cases bar : c = delimiter
      · rw [List.filter_cons_of_neg (by simpa using bar), bar, charBytes_delimiter narrow]
        rfl
      · have kept : (encoding.charBytes c).filter (· ≠ barByte) = encoding.charBytes c := by
          refine List.filter_eq_self.mpr fun byte member => ?_
          simp only [ne_eq, decide_not, Bool.not_eq_true', decide_eq_false_iff_not]
          rintro rfl
          exact barByte_not_mem narrow bar member
        rw [List.filter_cons_of_pos (by simpa using bar), List.flatMap_cons, kept]

theorem filter_encode {bytes written : Bytes} {after : Text} (narrow : encoding.isWide = false)
    (encoded : encoding.encode text = .ok bytes) (encodedAfter : encoding.encode after = .ok written)
    (rest : after.filter (· ≠ delimiter) = text.filter (· ≠ delimiter)) :
    written.filter (· ≠ barByte) = bytes.filter (· ≠ barByte) := by
  rw [eq_opening_append encoded, eq_opening_append encodedAfter, List.filter_append,
    List.filter_append, filter_flatMap_charBytes narrow, filter_flatMap_charBytes narrow, rest]

end Encoding

theorem filter_eq_of_filter_ne {bytes written : Bytes} {kept : UInt8 → Bool}
    (noBar : kept barByte = false)
    (rest : written.filter (· ≠ barByte) = bytes.filter (· ≠ barByte)) :
    written.filter kept = bytes.filter kept := by
  have within : ∀ bytes : Bytes, (bytes.filter (· ≠ barByte)).filter kept = bytes.filter kept := by
    intro bytes
    rw [List.filter_filter]
    refine List.filter_congr fun byte _ => ?_
    by_cases bar : byte = barByte
    · simp [bar, noBar]
    · simp [bar]
  rw [← within written, rest, within]

/-- A file that is written back in an encoding for bytes keeps all its bytes but those of the
delimiter, in their order, and its byte order mark stays in front. -/
theorem Framer.frameFile_keeps_other_bytes (framer : Framer) (suffix : Text)
    (answer : Option String) (disk : Disk) (path : Path) (location : Location) (bytes : Bytes)
    (name : String) (encoding : Encoding) (wellFormed : disk.WellFormed)
    (located : disk.locate path = .ok location)
    (found : disk.node? location = some (.file bytes))
    (fixed : (framer.frameFile { suffix, write := true, answer } disk path).outcome.status = .fixed)
    (reported : (framer.frameFile { suffix, write := true, answer } disk path).outcome.encoding =
      some name.toList)
    (known : Encoding.find name = .ok encoding) (narrow : encoding.isWide = false) :
    ∃ written,
      (framer.frameFile { suffix, write := true, answer } disk path).disk.node? location =
        some (.file written) ∧
      written.filter (· ≠ barByte) = bytes.filter (· ≠ barByte) ∧
      (∀ kept : UInt8 → Bool, kept barByte = false → written.filter kept = bytes.filter kept) ∧
      encoding.opening <+: bytes ∧ encoding.opening <+: written := by
  rcases framer.frameFile_cases { suffix, write := true, answer } disk path with
    ⟨_, _, notFixed⟩ | ⟨before, written, read, back, _, _, stored, _⟩
  · exact absurd ⟨rfl, fixed⟩ notFixed
  have sameBytes : before = bytes := by
    rcases Disk.read_cases located found with readable | ⟨_, _, _, unreadable⟩
    · exact Except.ok.inj (read.symm.trans readable)
    · cases read.symm.trans unreadable
  subst sameBytes
  have sameName : name = (decodeProgram answer before).report.used :=
    String.toList_inj.mp (Option.some.inj (reported.symm.trans back.named))
  have sameEncoding : encoding = (decodeProgram answer before).encoding := by
    rw [sameName, back.known] at known
    exact (Except.ok.inj known).symm
  have trusted := trusted_of_decodeProgram (fallback_of_fixed read fixed)
  have lossless : encoding.encode (decodeProgram answer before).text = .ok before := by
    rw [sameEncoding] at narrow ⊢
    refine trusted.isLossless_iff.mpr fun wide => ?_
    rw [wide] at narrow
    cases narrow
  have encoded : encoding.encode (framer.transform (decodeProgram answer before).text) =
      .ok written := sameEncoding ▸ back.encoded
  have rest := Encoding.filter_encode narrow lossless encoded (framer.filter_transform _)
  refine ⟨written, ?_, rest, fun kept noBar => filter_eq_of_filter_ne noBar rest,
    ⟨_, (Encoding.eq_opening_append lossless).symm⟩,
    ⟨_, (Encoding.eq_opening_append encoded).symm⟩⟩
  rw [Disk.eq_put_of_write located stored, Disk.node?_put wellFormed found, if_pos rfl]

/-- `S €` and `OF |A Ÿ|` on two lines in Windows-1252, where `A Ÿ` is a material of two words. -/
theorem Framer.frameFile_keeps_other_bytes_windows :
    let bytes : Bytes :=
      [0x53, 0x20, 0x80, 0x0D, 0x0A, 0x4F, 0x46, 0x20, 0x7C, 0x41, 0x20, 0x9F, 0x7C]
    let disk : Disk := { nodes := [(["a.lw".toList], .file bytes)] }
    let framer : Framer :=
      { vocabulary := .ofWords ["OF".toList]
        rules := [.materialQuality (.ofWords ["A Ÿ".toList] "OF".toList)] }
    let run := framer.frameFile { suffix := ".lw".toList, write := true, answer := some "cp1252" }
      disk ⟨[], ["a.lw".toList]⟩
    disk.WellFormed ∧ run.outcome.status = .fixed ∧ run.outcome.encoding = some "cp1252".toList ∧
      ∃ written, run.disk.node? ["a.lw".toList] = some (.file written) ∧
        written.filter (· ≠ barByte) = bytes.filter (· ≠ barByte) := by
  intro bytes disk framer run
  have wellFormed : disk.WellFormed := by decide
  have fixed : run.outcome.status = .fixed := by decide +kernel
  have reported : run.outcome.encoding = some "cp1252".toList := by decide +kernel
  have isRun : run = framer.frameFile _ disk _ := rfl
  clear_value run
  rw [isRun] at fixed reported ⊢
  obtain ⟨written, stored, rest, _⟩ := framer.frameFile_keeps_other_bytes ".lw".toList
    (some "cp1252") disk ⟨[], ["a.lw".toList]⟩ ["a.lw".toList] bytes "cp1252"
    (.singleByte .windows1252) wellFormed (by decide +kernel) (by decide +kernel) fixed reported
    (by decide +kernel) rfl
  exact ⟨wellFormed, fixed, reported, written, stored, rest⟩

end NameFraming
