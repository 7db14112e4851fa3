import NameFraming.Encoding.SingleByte
import NameFraming.Encoding.Utf16

/-! The encodings that programs are read and written in, and the names they go by. These are not all
that there are: a system may hold encodings that are only known by what comes of reading in them
(`Codecs`). -/

namespace NameFraming

inductive Encoding where
  | singleByte (table : SingleByte)
  | utf8
  /-- UTF-8 with a byte order mark in front. -/
  | utf8Signed
  /-- UTF-16 with a byte order mark in front. -/
  | utf16
  | utf16Ordered (order : Utf16.ByteOrder)
deriving DecidableEq

inductive EncodingError where
  | unknown (name : String)
  /-- The name is that of a transformation between bytes. -/
  | notText (name : String)
  /-- The name holds a null character and cannot even be looked up. -/
  | nullCharacter
  /-- An encoding broke down, which is more than bytes that are not in it. -/
  | breakdown (message : String)
deriving DecidableEq

namespace EncodingError

def message : EncodingError → String
  | unknown name => s!"unknown encoding: {name}"
  | notText name =>
      s!"'{name}' is not a text encoding; use codecs.encode() to handle arbitrary codecs"
  | nullCharacter => "embedded null character"
  | breakdown message => message

/-- Whether the name was looked up and found to name no encoding. -/
def isLookup : EncodingError → Bool
  | unknown _ => true
  | notText _ => true
  | _ => false

end EncodingError

namespace Encoding

def decode? : Encoding → Bytes → Option Text
  | singleByte table, bytes => table.decode? bytes
  | utf8, bytes => Utf8.decode? bytes
  | utf8Signed, bytes =>
      Utf8.decode? (if Utf8.signature.isPrefixOf bytes then bytes.drop 3 else bytes)
  | utf16, bytes => Utf16.decodeMarked? bytes
  | utf16Ordered order, bytes => Utf16.decode? order bytes

def encode : Encoding → Text → Except String Bytes
  | singleByte table, text =>
      match table.encode? text with
      | some bytes => .ok bytes
      | none => .error table.refusal
  | utf8, text => .ok (Utf8.encode text)
  | utf8Signed, text => .ok (Utf8.signature ++ Utf8.encode text)
  | utf16, text => .ok (Utf16.encodeMarked text)
  | utf16Ordered order, text => .ok (Utf16.encode order text)

/-- Lower-case letters, digits and points of ASCII, with one underscore for what stands between
them. -/
def normalizeFrom (gap : Bool) (held : Text) : Text → Text
  | [] => held.reverse
  | c :: rest =>
      if c.isAlphanum || c == '.' then
        let spaced := if gap && !held.isEmpty then '_' :: held else held
        normalizeFrom false (c.toLower :: spaced) rest
      else normalizeFrom true held rest

def normalize (name : String) : String :=
  String.ofList (normalizeFrom false [] name.toList)

def names : Encoding → List String
  | singleByte .ascii =>
      ["ascii", "646", "ansi_x3.4_1968", "ansi_x3_4_1968", "ansi_x3.4_1986", "cp367", "csascii",
        "ibm367", "iso646_us", "iso_646.irv_1991", "iso_ir_6", "us", "us_ascii"]
  | singleByte .latin1 =>
      ["latin_1", "8859", "cp819", "csisolatin1", "ibm819", "iso8859", "iso8859_1", "iso_8859_1",
        "iso_8859_1_1987", "iso_ir_100", "l1", "latin", "latin1"]
  | singleByte .windows1252 => ["cp1252", "1252", "windows_1252"]
  | utf8 => ["utf_8", "u8", "utf", "utf8", "utf8_ucs2", "utf8_ucs4", "cp65001"]
  | utf8Signed => ["utf_8_sig"]
  | utf16 => ["utf_16", "u16", "utf16"]
  | utf16Ordered .little => ["utf_16_le", "unicodelittleunmarked", "utf_16le"]
  | utf16Ordered .big => ["utf_16_be", "unicodebigunmarked", "utf_16be"]

def all : List Encoding :=
  [.singleByte .ascii, .singleByte .latin1, .singleByte .windows1252, .utf8, .utf8Signed, .utf16,
    .utf16Ordered .little, .utf16Ordered .big]

def transformationNames : List (List String) :=
  [["base64_codec", "base64", "base_64"], ["bz2_codec", "bz2"], ["hex_codec", "hex"],
    ["quopri_codec", "quopri", "quoted_printable", "quotedprintable"], ["rot_13", "rot13"],
    ["uu_codec", "uu"], ["zlib_codec", "zip", "zlib"]]

/-- Whether a normalized name is one of these. The first of them is the proper name; in the others a
point may stand for an underscore. -/
def isAmong (spelling : String) (names : List String) : Bool :=
  let plain := String.ofList (spelling.toList.map fun c => if c = '.' then '_' else c)
  names.contains spelling || names.tail.contains plain

/-- Finds one of these encodings by any of its names, in any case and with any separators. -/
def find (name : String) : Except EncodingError Encoding :=
  let spelling := normalize name
  if name.toList.contains '\x00' then .error .nullCharacter
  else
    match all.find? fun encoding => isAmong spelling encoding.names with
    | some encoding => .ok encoding
    | none =>
        if transformationNames.any (isAmong spelling) then .error (.notText name)
        else .error (.unknown name)

end Encoding

end NameFraming
