import HostAgent.Text.Decimal

/-!
# Bytes as UTF-8 text

A byte string falls into pieces: characters, and stretches that belong to none. A stretch is as long
as a prefix of some well-formed sequence is present, at least one byte, and the last one of a byte
string may simply be cut short.

* `pieces` -- the pieces of a byte string;
* `text?` -- the text, when every piece is a character; `fault?` -- else the first piece that is not,
  and where;
* `lossy` -- the text with U+FFFD for each piece that is no character;
* `encode` -- the bytes of a text.
-/

namespace HostAgent

/-- A string of bytes. -/
abbrev Bytes := List UInt8

namespace Utf8

/-! ## 1. Pieces -/

/-- One piece of a byte string. -/
inductive Piece where
  /-- a well-formed sequence -/
  | char (c : Char)
  /-- a stretch of `length` bytes that no well-formed sequence continues as the next byte does -/
  | broken (length : Nat)
  /-- a proper prefix of a well-formed sequence at the end of the bytes -/
  | cut (length : Nat)
  deriving DecidableEq, Repr

/-- Bytes that may come next, as a closed range. -/
abbrev Range := UInt8 × UInt8

/-- A continuation byte. -/
def tail : Range := (0x80, 0xBF)

/-- The byte lies in the range. -/
def Range.holds (r : Range) (b : UInt8) : Bool := r.1 ≤ b && b ≤ r.2

/-- What must follow a first byte: one range per byte; nothing for a byte that starts no sequence. -/
def followers (b : UInt8) : Option (List Range) :=
  if b ≤ 0x7F then some []
  else if b < 0xC2 then none
  else if b ≤ 0xDF then some [tail]
  else if b = 0xE0 then some [(0xA0, 0xBF), tail]
  else if b = 0xED then some [(0x80, 0x9F), tail]
  else if b ≤ 0xEF then some [tail, tail]
  else if b = 0xF0 then some [(0x90, 0xBF), tail, tail]
  else if b ≤ 0xF3 then some [tail, tail, tail]
  else if b = 0xF4 then some [(0x80, 0x8F), tail, tail]
  else none

/-- The payload bits of a first byte. -/
def leadBits (b : UInt8) : Nat :=
  if b ≤ 0x7F then b.toNat
  else if b ≤ 0xDF then b.toNat % 0x20
  else if b ≤ 0xEF then b.toNat % 0x10
  else b.toNat % 0x08

/-- A sequence that has begun: its payload bits and length so far, and what must follow. -/
structure Open where
  bits : Nat
  length : Nat
  next : Range
  later : List Range
  deriving DecidableEq, Repr

/-- A byte where no sequence is open. -/
def start (b : UInt8) : List Piece × Option Open :=
  match followers b with
  | none => ([.broken 1], none)
  | some [] => ([.char (Char.ofNat (leadBits b))], none)
  | some (r :: rs) => ([], some ⟨leadBits b, 1, r, rs⟩)

/-- The next byte: the pieces that it ends, and the sequence that is open after it. -/
def step (o : Option Open) (b : UInt8) : List Piece × Option Open :=
  match o with
  | none => start b
  | some o =>
    if o.next.holds b then
      match o.later with
      | [] => ([.char (Char.ofNat (o.bits * 0x40 + b.toNat % 0x40))], none)
      | r :: rs => ([], some ⟨o.bits * 0x40 + b.toNat % 0x40, o.length + 1, r, rs⟩)
    else
      let (ps, o') := start b
      (.broken o.length :: ps, o')

/-- The pieces of the bytes that follow an open sequence. -/
def piecesFrom (o : Option Open) : Bytes → List Piece
  | [] => match o with
    | none => []
    | some o => [.cut o.length]
  | b :: bs => (step o b).1 ++ piecesFrom (step o b).2 bs

/-- The pieces of a byte string. -/
def pieces (bs : Bytes) : List Piece := piecesFrom none bs

/-! ## 2. Reading -/

/-- The number of bytes of a piece. -/
def Piece.size : Piece → Nat
  | .char c => c.utf8Size
  | .broken n => n
  | .cut n => n

/-- The character of a piece that is one. -/
def Piece.char? : Piece → Option Char
  | .char c => some c
  | _ => none

/-- Where and how bytes fail to be text. -/
inductive Fault where
  /-- `length` bytes from `index` on are no character -/
  | invalid (length index : Nat)
  /-- the bytes end inside a character that starts at `index` -/
  | incomplete (index : Nat)
  deriving DecidableEq, Repr

/-- The fault in words. -/
def Fault.message : Fault → String
  | .invalid length index =>
    "invalid utf-8 sequence of " ++ Decimal.text length ++ " bytes from index " ++ Decimal.text index
  | .incomplete index => "incomplete utf-8 byte sequence from index " ++ Decimal.text index

/-- The first piece that is no character, where the pieces before it take `index` bytes. -/
def faultFrom? (index : Nat) : List Piece → Option Fault
  | [] => none
  | .char c :: ps => faultFrom? (index + c.utf8Size) ps
  | .broken n :: _ => some (.invalid n index)
  | .cut _ :: _ => some (.incomplete index)

/-- The first fault of a byte string. -/
def fault? (bs : Bytes) : Option Fault := faultFrom? 0 (pieces bs)

/-- The characters of a byte string, or its first fault. -/
def decode (bs : Bytes) : Except Fault String :=
  match fault? bs with
  | some f => .error f
  | none => .ok (String.ofList ((pieces bs).filterMap Piece.char?))

/-- The text of a byte string, when it is one. -/
def text? (bs : Bytes) : Option String :=
  match decode bs with
  | .ok s => some s
  | .error _ => none

/-- The text of a byte string, with U+FFFD for each piece that is no character. -/
def lossy (bs : Bytes) : String :=
  String.ofList ((pieces bs).map fun p => p.char?.getD '\uFFFD')

/-! ## 3. Writing -/

/-- The bytes of a text. -/
def encode (s : String) : Bytes := s.toList.flatMap String.utf8EncodeChar

end Utf8

end HostAgent
