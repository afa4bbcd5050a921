/-! Texts as bytes in UTF-8, and where bytes are no text. -/

namespace PagedQuery.Text

/-- A place where bytes stop being text. -/
structure Utf8Fault where
  /-- How many bytes lie in front of it. -/
  offset : Nat
  /-- How many bytes there belong together without being a character, or none when the bytes end
  inside a character. -/
  length : Option Nat
deriving DecidableEq, Repr

def Utf8Fault.message (f : Utf8Fault) : String :=
  match f.length with
  | some n => s!"invalid utf-8 sequence of {n} bytes from index {f.offset}"
  | none => s!"incomplete utf-8 byte sequence from index {f.offset}"

/-- What stands in front of bytes: a character, or a number of bytes that are none, as in
`Utf8Fault.length`; and the bytes behind it. -/
abbrev Utf8Piece := Except (Option Nat) Char × List UInt8

/-- The piece whose first `taken` bytes make up `value`, where `missing` more are to come, the first
of them from `low` to `high`. -/
def readTail (value taken low high : Nat) : Nat → List UInt8 → Utf8Piece
  | 0, bs => (.ok (Char.ofNat value), bs)
  | _ + 1, [] => (.error none, [])
  | missing + 1, b :: bs =>
    if low ≤ b.toNat ∧ b.toNat ≤ high then
      readTail (64 * value + b.toNat % 64) (taken + 1) 0x80 0xBF missing bs
    else (.error (some taken), b :: bs)

/-- The piece that begins with `b`. The first byte says how many follow, and some first bytes leave
less room to the second, so that every character has one spelling. -/
def readPiece (b : UInt8) (bs : List UInt8) : Utf8Piece :=
  let n := b.toNat
  if n < 0x80 then (.ok (Char.ofNat n), bs)
  else if n < 0xC2 then (.error (some 1), bs)
  else if n < 0xE0 then readTail (n - 0xC0) 1 0x80 0xBF 1 bs
  else if n < 0xF0 then
    readTail (n - 0xE0) 1 (if n = 0xE0 then 0xA0 else 0x80) (if n = 0xED then 0x9F else 0xBF) 2 bs
  else if n < 0xF5 then
    readTail (n - 0xF0) 1 (if n = 0xF0 then 0x90 else 0x80) (if n = 0xF4 then 0x8F else 0xBF) 3 bs
  else (.error (some 1), bs)

/-- The pieces of bytes one after the other; `fuel` bounds the number of bytes. -/
def piecesFrom : Nat → List UInt8 → List (Except (Option Nat) Char)
  | 0, _ | _, [] => []
  | fuel + 1, b :: bs =>
    let (piece, rest) := readPiece b bs
    piece :: piecesFrom fuel rest

/-- The pieces of bytes. -/
def utf8Pieces (bs : List UInt8) : List (Except (Option Nat) Char) := piecesFrom bs.length bs

/-- The characters of pieces behind `offset` bytes, if all of them are characters. -/
def charactersFrom (offset : Nat) : List (Except (Option Nat) Char) → Except Utf8Fault (List Char)
  | [] => .ok []
  | .ok c :: rest => (charactersFrom (offset + c.utf8Size) rest).map (c :: ·)
  | .error length :: _ => .error ⟨offset, length⟩

def ofUtf8 (bs : List UInt8) : Except Utf8Fault String :=
  (charactersFrom 0 (utf8Pieces bs)).map String.ofList

/-- The text that bytes are, with a sign of replacement for what is no character. -/
def ofUtf8Lossy (bs : List UInt8) : String :=
  String.ofList ((utf8Pieces bs).map fun
    | .ok c => c
    | .error _ => '\uFFFD')

end PagedQuery.Text
