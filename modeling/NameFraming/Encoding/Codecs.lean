import NameFraming.Encoding

/-! Encodings as a system offers them, by name. It may offer more of them than are written out here;
of those no more is said than what comes of reading bytes in them. -/

namespace NameFraming

/-- A collection of encodings, those of `Encoding` among them. Bytes are read to a text and the
encoding that it was found in, or to nothing if they are not in the encoding of that name. -/
structure Codecs (ε : Type) where
  known : Encoding → ε
  read : String → Bytes → Except EncodingError (Option (ε × Text))
  read_known : ∀ {name encoding}, Encoding.find name = .ok encoding → ∀ bytes,
    read name bytes = .ok ((encoding.decode? bytes).map fun text => (known encoding, text))

/-- The collection without any others. -/
def Encoding.codecs : Codecs Encoding where
  known encoding := encoding
  read name bytes :=
    (find name).map fun encoding => (encoding.decode? bytes).map fun text => (encoding, text)
  read_known found bytes := by
    rw [found]
    rfl

end NameFraming
