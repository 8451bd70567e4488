/-! # UTF-8

Decoding bytes into characters. Bytes are cut into pieces, each a character or a run that encodes
none; strict decoding succeeds when every piece is a character, lenient decoding puts a
replacement character for every other run.
-/

namespace MuxLaunch.Text.Utf8

/-- Why a run of bytes encodes no character. -/
inductive Reason where
  /-- No character begins with this byte. -/
  | start
  /-- The byte after the run cannot continue it. -/
  | continuation
  /-- The text ends inside a character. -/
  | truncated
  deriving Repr, DecidableEq

def Reason.message : Reason → String
  | .start => "invalid start byte"
  | .continuation => "invalid continuation byte"
  | .truncated => "unexpected end of data"

/-- A character, or the bytes of a run that encodes none. -/
inductive Piece where
  | char (c : Char) (width : Nat)
  | bad (reason : Reason) (bytes : List UInt8)
  deriving Repr, DecidableEq

def isContinuation (b : UInt8) : Bool :=
  0x80 ≤ b && b < 0xc0

/-- May `b` come second after the leading byte `a`? Excluded are continuations that would encode
    a character in more bytes than it needs, a surrogate, or no code point at all. -/
def isSecond (a b : UInt8) : Bool :=
  isContinuation b && (a ≠ 0xe0 || 0xa0 ≤ b) && (a ≠ 0xed || b < 0xa0)
    && (a ≠ 0xf0 || 0x90 ≤ b) && (a ≠ 0xf4 || b < 0x90)

def payload (b : UInt8) : Nat :=
  b.toNat % 64

def pieces : List UInt8 → List Piece
  | [] => []
  | a :: rest =>
      if a < 0x80 then .char (Char.ofNat a.toNat) 1 :: pieces rest
      else if a < 0xc2 || 0xf5 ≤ a then .bad .start [a] :: pieces rest
      else match rest with
        | [] => [.bad .truncated [a]]
        | b :: rest =>
            if !isSecond a b then .bad .continuation [a] :: pieces (b :: rest)
            else if a < 0xe0 then
              .char (Char.ofNat (a.toNat % 32 * 64 + payload b)) 2 :: pieces rest
            else match rest with
              | [] => [.bad .truncated [a, b]]
              | c :: rest =>
                  if !isContinuation c then .bad .continuation [a, b] :: pieces (c :: rest)
                  else if a < 0xf0 then
                    .char (Char.ofNat ((a.toNat % 16 * 64 + payload b) * 64 + payload c)) 3
                      :: pieces rest
                  else match rest with
                    | [] => [.bad .truncated [a, b, c]]
                    | d :: rest =>
                        if !isContinuation d then
                          .bad .continuation [a, b, c] :: pieces (d :: rest)
                        else
                          .char (Char.ofNat (((a.toNat % 8 * 64 + payload b) * 64 + payload c) * 64
                            + payload d)) 4 :: pieces rest

/-- Where and why decoding fails. -/
structure Fault where
  position : Nat
  bytes : List UInt8
  reason : Reason
  deriving Repr, DecidableEq

private def hexDigit (n : Nat) : Char :=
  if n < 10 then Char.ofNat (48 + n) else Char.ofNat (87 + n)

/-- The wording of a failure: the byte itself when it is a single one, else its positions. -/
def Fault.message (f : Fault) : String :=
  match f.bytes with
  | [b] =>
      let digits := String.ofList [hexDigit (b.toNat / 16), hexDigit (b.toNat % 16)]
      "'utf-8' codec can't decode byte 0x" ++ digits ++ " in position " ++ toString f.position
        ++ ": " ++ f.reason.message
  | bytes =>
      "'utf-8' codec can't decode bytes in position " ++ toString f.position ++ "-"
        ++ toString (f.position + bytes.length - 1) ++ ": " ++ f.reason.message

/-- The characters of the pieces from a position on, or the first failure. -/
def collect (position : Nat) : List Piece → Except Fault (List Char)
  | [] => .ok []
  | .bad reason bytes :: _ => .error { position, bytes, reason }
  | .char c width :: rest => (collect (position + width) rest).map (c :: ·)

/-- Strict decoding. -/
def decode (bytes : List UInt8) : Except Fault (List Char) :=
  collect 0 (pieces bytes)

/-- Lenient decoding: a replacement character for every run that encodes none. -/
def decodeLossy (bytes : List UInt8) : List Char :=
  (pieces bytes).map fun
    | .char c _ => c
    | .bad _ _ => '\ufffd'

def encode (text : String) : List UInt8 :=
  text.toUTF8.data.toList

end MuxLaunch.Text.Utf8
