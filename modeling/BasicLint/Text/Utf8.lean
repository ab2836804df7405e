/-!
# Decoding bytes

Bytes are read as UTF-8. The lossy reader puts a replacement character for each longest run of bytes
that starts a character but does not finish it, and for each byte that starts none.
-/
namespace BasicLint.Text

def replacement : Char := Char.ofNat 0xFFFD

/-- How a character goes on behind its first byte: the number of bytes that follow, the bounds of
the next one, and the bits of the first. -/
structure Lead where
  following : Nat
  low : Nat
  high : Nat
  bits : Nat
  deriving DecidableEq, Repr

/-- What the first byte of a character of more than one byte announces. -/
def lead? (b : Nat) : Option Lead :=
  if 0xC2 ≤ b ∧ b ≤ 0xDF then some ⟨1, 0x80, 0xBF, b - 0xC0⟩
  else if b = 0xE0 then some ⟨2, 0xA0, 0xBF, 0⟩
  else if b = 0xED then some ⟨2, 0x80, 0x9F, 0xD⟩
  else if 0xE1 ≤ b ∧ b ≤ 0xEF then some ⟨2, 0x80, 0xBF, b - 0xE0⟩
  else if b = 0xF0 then some ⟨3, 0x90, 0xBF, 0⟩
  else if 0xF1 ≤ b ∧ b ≤ 0xF3 then some ⟨3, 0x80, 0xBF, b - 0xF0⟩
  else if b = 0xF4 then some ⟨3, 0x80, 0x8F, 4⟩
  else none

/-- What a byte means where a character may start: the characters it completes, and what is then
pending. -/
def startByte (b : Nat) : List Char × Option Lead :=
  if b < 0x80 then ([Char.ofNat b], none)
  else match lead? b with
    | none => ([replacement], none)
    | some lead => ([], some lead)

/-- What a byte means behind what is pending. -/
def nextByte (pending : Option Lead) (b : Nat) : List Char × Option Lead :=
  match pending with
  | none => startByte b
  | some lead =>
    if lead.low ≤ b ∧ b ≤ lead.high then
      let bits := 64 * lead.bits + (b - 0x80)
      if lead.following ≤ 1 then ([Char.ofNat bits], none)
      else ([], some ⟨lead.following - 1, 0x80, 0xBF, bits⟩)
    else
      let (chars, pending) := startByte b
      (replacement :: chars, pending)

def decodeFrom : (pending : Option Lead) → List UInt8 → List Char
  | none, [] => []
  | some _, [] => [replacement]
  | pending, b :: bytes =>
    let (chars, pending) := nextByte pending b.toNat
    chars ++ decodeFrom pending bytes

/-- The text of bytes, whatever they are. -/
def decodeLossy (bytes : List UInt8) : List Char := decodeFrom none bytes

/-- The text of well-formed bytes. -/
def decode? (bytes : List UInt8) : Option (List Char) :=
  let text := decodeLossy bytes
  if (String.ofList text).toUTF8.toList = bytes then some text else none

example : decodeLossy [0xE9, 0x0A] = [replacement, '\n'] := by decide
example : decodeLossy [0xF0, 0x9F, 0x98, 0x80] = [Char.ofNat 0x1F600] := by decide
example : decodeLossy [0xE2, 0x82, 0xFF] = [replacement, replacement] := by decide

end BasicLint.Text
