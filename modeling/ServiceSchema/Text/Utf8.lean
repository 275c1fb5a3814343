/-
Reading bytes as text. A byte sequence that is no UTF-8 is still readable: every
longest beginning of a character that breaks off, and every byte that can begin
none, stands as one replacement character `U+FFFD`.
-/
namespace ServiceSchema.Text

/-- A character of which some bytes have been read: how many are missing, the bits
so far, and the least and greatest next byte. -/
structure Partial where
  missing : Nat
  bits : Nat
  least : Nat
  greatest : Nat

def replacement : Char := Char.ofNat 0xFFFD

/-- Reads a byte at the start of a character. -/
def beginChar (b : Nat) : List Char × Option Partial :=
  if b < 0x80 then ([Char.ofNat b], none)
  else if 0xC2 ≤ b && b ≤ 0xDF then ([], some ⟨1, b - 0xC0, 0x80, 0xBF⟩)
  else if b == 0xE0 then ([], some ⟨2, 0, 0xA0, 0xBF⟩)
  else if b == 0xED then ([], some ⟨2, 0xD, 0x80, 0x9F⟩)
  else if 0xE1 ≤ b && b ≤ 0xEF then ([], some ⟨2, b - 0xE0, 0x80, 0xBF⟩)
  else if b == 0xF0 then ([], some ⟨3, 0, 0x90, 0xBF⟩)
  else if 0xF1 ≤ b && b ≤ 0xF3 then ([], some ⟨3, b - 0xF0, 0x80, 0xBF⟩)
  else if b == 0xF4 then ([], some ⟨3, 4, 0x80, 0x8F⟩)
  else ([replacement], none)

/-- Reads one byte, after `state`: the characters that are now complete, and the
character that is not. -/
def feedByte (state : Option Partial) (b : Nat) : List Char × Option Partial :=
  match state with
  | none => beginChar b
  | some p =>
    if p.least ≤ b && b ≤ p.greatest then
      let bits := p.bits * 64 + (b - 0x80)
      if p.missing ≤ 1 then ([Char.ofNat bits], none)
      else ([], some ⟨p.missing - 1, bits, 0x80, 0xBF⟩)
    else
      let (cs, next) := beginChar b
      (replacement :: cs, next)

def decodeFrom (state : Option Partial) : List UInt8 → List Char
  | [] => if state.isSome then [replacement] else []
  | b :: rest =>
    let (cs, next) := feedByte state b.toNat
    cs ++ decodeFrom next rest

/-- The text of a byte sequence, with replacements where it is no UTF-8. -/
def decodeLossy (bytes : List UInt8) : String :=
  String.ofList (decodeFrom none bytes)

end ServiceSchema.Text
