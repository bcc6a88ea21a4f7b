import Console.Text.Basic

/-! UTF-8: the bytes of a text, the text of well-formed bytes, and the reading of arbitrary bytes in
    which every maximal piece of an ill-formed sequence is read as U+FFFD. -/

namespace Console.Text

/-- The bytes of a text. -/
def toUtf8 (t : Text) : ByteArray := (String.ofList t).toUTF8

/-- The text of well-formed bytes. -/
def ofUtf8? (bytes : ByteArray) : Option Text := (String.fromUTF8? bytes).map String.toList

/-- The number of bytes of a text. -/
def byteCount : Text → Nat
  | [] => 0
  | c :: rest => c.utf8Size + byteCount rest

/-- A sequence of bytes that still needs continuation bytes; the next one is bounded, so that no
    overlong form, surrogate or too large value begins. -/
structure OpenSequence where
  needed : Nat
  low : Nat
  high : Nat
  value : Nat

/-- What a first byte begins: a character, a longer sequence, or nothing. -/
def firstByte (b : Nat) : Option (Char ⊕ OpenSequence) :=
  if b < 0x80 then some (.inl (Char.ofNat b))
  else if b < 0xC2 then none
  else if b < 0xE0 then some (.inr ⟨1, 0x80, 0xBF, b - 0xC0⟩)
  else if b < 0xF0 then
    some (.inr ⟨2, if b = 0xE0 then 0xA0 else 0x80, if b = 0xED then 0x9F else 0xBF, b - 0xE0⟩)
  else if b < 0xF5 then
    some (.inr ⟨3, if b = 0xF0 then 0x90 else 0x80, if b = 0xF4 then 0x8F else 0xBF, b - 0xF0⟩)
  else none

/-- Reads bytes after an open sequence, if there is one. -/
def readBytes : Option OpenSequence → List UInt8 → Text
  | none, [] => []
  | some _, [] => ['\ufffd']
  | state, byte :: rest =>
    let b := byte.toNat
    let begin (front : Text) : Text :=
      match firstByte b with
      | some (.inl c) => front ++ c :: readBytes none rest
      | some (.inr s) => front ++ readBytes (some s) rest
      | none => front ++ '\ufffd' :: readBytes none rest
    match state with
    | none => begin []
    | some s =>
      if s.low ≤ b && b ≤ s.high then
        let value := s.value * 64 + (b - 0x80)
        if s.needed ≤ 1 then Char.ofNat value :: readBytes none rest
        else readBytes (some ⟨s.needed - 1, 0x80, 0xBF, value⟩) rest
      else begin ['\ufffd']

/-- The text of arbitrary bytes. -/
def ofBytes (bytes : ByteArray) : Text := readBytes none bytes.toList

end Console.Text
