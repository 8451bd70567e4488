import MuxLaunch.Text.Lines
import MuxLaunch.Text.Utf8

/-! # Text that arrives in pieces

A long file is not turned into text at once: bytes are fetched in chunks, and text is handed out in
pieces of so many characters. A character may be split between two chunks, and so may the two
characters of a line end; what is known of it waits for the next chunk. A fault says where it stands
among the bytes that are being decoded, which begin with those that waited.
-/

namespace MuxLaunch.Text

/-- The state between two pieces. -/
structure Feed where
  /-- The bytes that have not been fetched. -/
  bytes : List UInt8
  /-- The first bytes of a character, fetched already. -/
  waiting : List UInt8
  /-- The last character fetched was a carriage return, which may begin a line end. -/
  returned : Bool
  /-- Characters that have been decoded but not handed out. -/
  ready : List Char
  /-- How many bytes of the last chunk one character took; zero if it held none. -/
  density : Float

namespace Feed

/-- The least number of bytes in a chunk, and the number of characters in a piece. -/
def leastChunk : Nat := 8192

def pieceLength : Nat := 4096

def ofBytes (bytes : List UInt8) : Feed :=
  ⟨bytes, [], false, [], 0⟩

/-- How many bytes are fetched at once for so many characters: as many as these will take if they
    are like the last ones. -/
def chunkLength (density : Float) (wanted : Nat) : Nat :=
  let estimate := (if density < 1 then 1 else density) * Float.ofNat wanted
  max leastChunk estimate.floor.toUInt64.toNat

/-- The characters of bytes, and the bytes of a character that they break off in. At the end of the
    file there must be none. -/
def decodePart (isLast : Bool) (bytes : List UInt8) : Except Utf8.Fault (List Char × List UInt8) :=
  let pieces := Utf8.pieces bytes
  match isLast, pieces.getLast? with
  | false, some (.bad .truncated tail) =>
      (Utf8.collect 0 pieces.dropLast).map fun chars => (chars, tail)
  | _, _ => (Utf8.collect 0 pieces).map fun chars => (chars, [])

/-- Fetch a chunk and decode it, if nothing is ready. The result tells whether the file has come to
    its end. -/
def fetch (f : Feed) (wanted : Nat) : Except Utf8.Fault (Bool × Feed) := do
  let length := chunkLength f.density wanted
  let chunk := f.bytes.take length
  let isLast := chunk.isEmpty
  let (chars, waiting) ← decodePart isLast (f.waiting ++ chunk)
  let joins := f.returned && (isLast || !chars.isEmpty)
  let chars := if joins then '\r' :: chars else chars
  let breaksOff := !isLast && chars.getLast? = some '\r'
  let ready := unifyLineEnds (if breaksOff then chars.dropLast else chars)
  let density :=
    if ready.isEmpty then 0 else Float.ofNat chunk.length / Float.ofNat ready.length
  return (isLast && ready.isEmpty,
    ⟨f.bytes.drop length, waiting, breaksOff || (f.returned && !joins), ready, density⟩)

/-- Hand out so many characters, or those that are left. The first argument bounds the number of
    chunks. -/
def take : Nat → Nat → Feed → Except Utf8.Fault (List Char × Feed)
  | 0, _, f => .ok ([], f)
  | bound + 1, wanted, f => do
      let piece := f.ready.take wanted
      let f := { f with ready := f.ready.drop wanted }
      let missing := wanted - piece.length
      if missing = 0 then return (piece, f)
      let (atEnd, f) ← f.fetch missing
      if atEnd then return (piece, f)
      let (more, f) ← take bound missing f
      return (piece ++ more, f)

/-- The pieces that are handed out one after another, and the fault that ends them. The first
    argument bounds their number. -/
def pieces : Nat → Feed → List (List Char) × Option Utf8.Fault
  | 0, _ => ([], none)
  | bound + 1, f =>
      match f.take (f.bytes.length + 3) pieceLength with
      | .error fault => ([], some fault)
      | .ok ([], _) => ([], none)
      | .ok (piece, f) =>
          let (more, fault) := pieces bound f
          (piece :: more, fault)

end Feed

/-- The pieces of a file with these bytes, and the fault that ends them. -/
def piecesOf (bytes : List UInt8) : List (List Char) × Option Utf8.Fault :=
  Feed.pieces (bytes.length + 2) (.ofBytes bytes)

end MuxLaunch.Text
