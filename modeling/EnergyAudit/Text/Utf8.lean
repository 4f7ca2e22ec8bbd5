/-! # UTF-8

`decode?` accepts well-formed UTF-8 only.  `decodeLossy` reads any bytes: every longest stretch that
begins a character and cannot be completed becomes one replacement character. -/

namespace EnergyAudit.Text

/-- Number of bytes that the characters take. -/
def utf8Width (s : List Char) : Nat := s.foldl (fun n c => n + c.utf8Size) 0

/-- The text that the bytes encode, if they are well-formed UTF-8. -/
def decode? (bytes : ByteArray) : Option String :=
  String.fromUTF8? bytes

theorem decode?_toUTF8 (s : String) : decode? s.toUTF8 = some s := by
  have valid : s.toUTF8.IsValidUTF8 := s.isValidUTF8
  simp only [decode?, String.fromUTF8?]
  rw [dif_pos valid]
  rfl

/-- Stands for bytes that are no text. -/
def replacement : Char := '\ufffd'

/-- A character that has begun: how many bytes it still lacks, the range in which the next of them
has to lie, and the bits read so far. -/
structure OpenChar where
  missing : Nat
  low : UInt8
  high : UInt8
  bits : Nat

/-- What a byte between two characters yields: finished characters, and the one it opens. -/
def openChar (b : UInt8) : List Char × Option OpenChar :=
  if b < 0x80 then ([Char.ofNat b.toNat], none)
  else if b < 0xc2 then ([replacement], none)
  else if b < 0xe0 then ([], some ⟨1, 0x80, 0xbf, b.toNat % 0x20⟩)
  else if b == 0xe0 then ([], some ⟨2, 0xa0, 0xbf, 0⟩)
  else if b == 0xed then ([], some ⟨2, 0x80, 0x9f, 0xd⟩)
  else if b < 0xf0 then ([], some ⟨2, 0x80, 0xbf, b.toNat % 0x10⟩)
  else if b == 0xf0 then ([], some ⟨3, 0x90, 0xbf, 0⟩)
  else if b < 0xf4 then ([], some ⟨3, 0x80, 0xbf, b.toNat % 0x8⟩)
  else if b == 0xf4 then ([], some ⟨3, 0x80, 0x8f, 4⟩)
  else ([replacement], none)

/-- Goes on with the next byte.  A byte that does not fit the open character ends it as a
replacement character and is then read afresh. -/
def stepChar : Option OpenChar → UInt8 → List Char × Option OpenChar
  | none, b => openChar b
  | some c, b =>
      if c.low ≤ b && b ≤ c.high then
        let bits := c.bits * 0x40 + b.toNat % 0x40
        if c.missing ≤ 1 then ([Char.ofNat bits], none)
        else ([], some ⟨c.missing - 1, 0x80, 0xbf, bits⟩)
      else
        let next := openChar b
        (replacement :: next.1, next.2)

/-- Characters of the bytes read so far, last one first, and the open character. -/
def decodeStep (state : List Char × Option OpenChar) (b : UInt8) : List Char × Option OpenChar :=
  let next := stepChar state.2 b
  (next.1.reverse ++ state.1, next.2)

/-- The text of the bytes, with replacement characters for what is not UTF-8. -/
def decodeLossy (bytes : List UInt8) : String :=
  let final := bytes.foldl decodeStep ([], none)
  String.ofList ((if final.2.isSome then replacement :: final.1 else final.1).reverse)

end EnergyAudit.Text
