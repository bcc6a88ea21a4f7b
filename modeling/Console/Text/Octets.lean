import Console.Text.Utf8

/-! Octets: texts whose every character stands for one byte, by its code point below 256. Names of
    files and scripts are made of bytes, and in this form bytes are matched and joined like any
    text. -/

namespace Console.Octets

/-- The octets of a text. -/
def ofText (t : Text) : Text := (Text.toUtf8 t).toList.map fun b => Char.ofNat b.toNat

/-- The octets of bytes. -/
def ofBytes (bytes : ByteArray) : Text := bytes.toList.map fun b => Char.ofNat b.toNat

/-- The bytes that octets stand for. -/
def toBytes (t : Text) : ByteArray := ⟨(t.map fun c => UInt8.ofNat c.toNat).toArray⟩

/-- The text of octets. -/
def toText (t : Text) : Text := Text.ofBytes (toBytes t)

end Console.Octets
