import LibraryCatalogue.Number.Binary64
import LibraryCatalogue.Text.Basic
import LibraryCatalogue.Text.Utf8

/-!
# Texts read piece by piece

A file of text is not read at once.  Bytes are taken from it in pieces, and the characters that they
write are handed out as they are asked for; a character or a line end that a piece cuts in two waits for
the next piece.  Bytes that write no text are only noticed when their piece is taken.

* `beginsCharacter`, `splitIncomplete` — the bytes at the end of a piece that only begin a character;
* `TextStream` — what is left of a file, and what was taken from it and not handed out;
* `TextStream.read` — the next characters;
* `TextStream.readAll` — a whole file, some characters at a time.
-/

namespace LibraryCatalogue

/-- Whether a second byte may follow a first one that begins a character of three or four bytes. -/
def secondFits (a b : UInt8) : Bool :=
  (continuation? b).isSome && (a != 0xe0 || 0xa0 ≤ b) && (a != 0xed || b < 0xa0) &&
    (a != 0xf0 || 0x90 ≤ b) && (a != 0xf4 || b < 0x90)

/-- Whether bytes begin a character and leave it incomplete. -/
def beginsCharacter : List UInt8 → Bool
  | [a] => 0xc2 ≤ a && a ≤ 0xf4
  | [a, b] => 0xe0 ≤ a && a ≤ 0xf4 && secondFits a b
  | [a, b, c] => 0xf0 ≤ a && a ≤ 0xf4 && secondFits a b && (continuation? c).isSome
  | _ => false

/-- Bytes without those at the end that leave a character incomplete, and these. -/
def splitIncomplete (bytes : List UInt8) : List UInt8 × List UInt8 :=
  match [1, 2, 3].find? fun n => beginsCharacter (bytes.drop (bytes.length - n)) with
  | some n => bytes.splitAt (bytes.length - n)
  | none => (bytes, [])

/-- A file of text that is being read. -/
structure TextStream where
  /-- The bytes that have not been taken. -/
  bytes : List UInt8
  /-- The bytes that were taken and leave a character incomplete. -/
  held : List UInt8
  /-- Whether a carriage return was taken that may belong to the line end that follows. -/
  heldReturn : Bool
  /-- The characters that were taken and not handed out. -/
  ahead : List Char
  /-- The numbers of bytes and of characters of the last piece. -/
  lastPiece : Nat × Nat
deriving Repr

namespace TextStream

/-- A file of which nothing has been taken. -/
def start (bytes : List UInt8) : TextStream := ⟨bytes, [], false, [], (0, 0)⟩

/-- The size of a piece of its own. -/
def usualSize : Nat := 8192

/-- A number times the quotient of two others, both rounded to binary numbers, without its fraction. -/
def scaledUp (n : Nat) : Nat × Nat → Nat
  | (num, den) =>
    let ratio := Binary64.ofRatio false num den
    let (num, den) := Binary64.scaled (ratio.significand * n) 1 (-ratio.exponent)
    let product := Binary64.ofRatio false num den
    let (num, den) := Binary64.scaled product.significand 1 (-product.exponent)
    num / den

/-- The number of bytes that are taken when some characters are wanted: as many as they would need if
they were like those of the last piece. -/
def pieceSize (s : TextStream) (wanted : Nat) : Nat :=
  if s.lastPiece.1 ≤ s.lastPiece.2 || s.lastPiece.2 == 0 then max usualSize wanted
  else max usualSize (scaledUp wanted s.lastPiece)

/-- The stream with a piece in front of what is not taken, which is empty at the end of the file;
nothing when the bytes write no text. -/
def decodePiece? (s : TextStream) (piece rest : List UInt8) : Option TextStream := do
  let atEnd := piece.isEmpty
  let data := s.held ++ piece
  let (whole, held) := if atEnd then (data, []) else splitIncomplete data
  let cs ← decodeUtf8 whole
  let released := s.heldReturn && (atEnd || !cs.isEmpty)
  let cs := if released then '\r' :: cs else cs
  let holds := !atEnd && cs.getLast? == some '\r'
  let ahead := unifyNewlines (if holds then cs.dropLast else cs)
  return {
    bytes := rest
    held
    heldReturn := holds || (s.heldReturn && !released)
    ahead
    lastPiece := (piece.length, ahead.length) }

/-- Takes a piece when some characters are wanted. -/
def takePiece? (s : TextStream) (wanted : Nat) : Option TextStream :=
  match s.bytes with
  | [] => s.decodePiece? [] []
  | bytes =>
    let size := s.pieceSize wanted
    s.decodePiece? (bytes.take size) (bytes.drop size)

/-- The next `n` characters, or all if there are fewer, and the stream behind them; nothing when a
piece that is needed for them writes no text.  The first argument bounds the number of pieces. -/
def readFrom : Nat → Nat → TextStream → Option (List Char × TextStream)
  | 0, _, s => some ([], s)
  | fuel + 1, n, s =>
    let got := s.ahead.take n
    let s := { s with ahead := s.ahead.drop n }
    if got.length == n then some (got, s)
    else do
      let s ← s.takePiece? (n - got.length)
      if s.lastPiece == (0, 0) then return (got, s)
      let (more, s) ← readFrom fuel (n - got.length) s
      return (got ++ more, s)

/-- The next `n` characters, or all if there are fewer. -/
def read? (s : TextStream) (n : Nat) : Option (List Char × TextStream) :=
  readFrom (s.bytes.length + 3) n s

/-- All that is read `n` characters at a time, and whether the end of the file was reached.  The first
argument bounds the number of times. -/
def readAllFrom (n : Nat) : Nat → TextStream → List (List Char) × Bool
  | 0, _ => ([], true)
  | fuel + 1, s =>
    match s.read? n with
    | none => ([], false)
    | some ([], _) => ([], true)
    | some (cs, s) =>
      let (more, complete) := readAllFrom n fuel s
      (cs :: more, complete)

/-- What the bytes of a file write, read `n` characters at a time up to a piece that writes no text, and
whether the end of the file was reached. -/
def readAll (n : Nat) (bytes : List UInt8) : List (List Char) × Bool :=
  readAllFrom n (bytes.length + 2) (start bytes)

end TextStream

end LibraryCatalogue
