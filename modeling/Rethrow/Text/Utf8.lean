/-!
Texts as bytes. `pieces` cuts a byte string into the characters it encodes and the shortest stretches that encode
none. Strict decoding refuses the first such stretch and says where it stands; lossy decoding puts one replacement
character in its place.
-/
set_option autoImplicit false

namespace Rethrow

abbrev Bytes := List UInt8

namespace Utf8

def encodeChars (chars : List Char) : Bytes := chars.flatMap String.utf8EncodeChar

def encode (text : String) : Bytes := encodeChars text.toList

inductive Reason where
  | invalidStart
  | invalidContinuation
  | unexpectedEnd
deriving DecidableEq, Repr

def Reason.message : Reason → String
  | invalidStart => "invalid start byte"
  | invalidContinuation => "invalid continuation byte"
  | unexpectedEnd => "unexpected end of data"

inductive Piece where
  | scalar (char : Char)
  | fault (bytes : Bytes) (reason : Reason)
deriving DecidableEq, Repr

def isContinuation (byte : UInt8) : Bool := 0x80 ≤ byte && byte ≤ 0xBF

/-- Whether `second` may follow `lead`. The bounds leave out overlong forms, surrogates and values past the last
code point. -/
def mayFollow (lead second : UInt8) : Bool :=
  if lead = 0xE0 then 0xA0 ≤ second && second ≤ 0xBF
  else if lead = 0xED then 0x80 ≤ second && second ≤ 0x9F
  else if lead = 0xF0 then 0x90 ≤ second && second ≤ 0xBF
  else if lead = 0xF4 then 0x80 ≤ second && second ≤ 0x8F
  else isContinuation second

def payload (byte : UInt8) : Nat := byte.toNat % 64

def twoBytes (a b : UInt8) : Char := Char.ofNat (a.toNat % 32 * 64 + payload b)

def threeBytes (a b c : UInt8) : Char := Char.ofNat ((a.toNat % 16 * 64 + payload b) * 64 + payload c)

def fourBytes (a b c d : UInt8) : Char :=
  Char.ofNat (((a.toNat % 8 * 64 + payload b) * 64 + payload c) * 64 + payload d)

/-- The characters and faults of a byte string, in order. A fault is the longest start of a sequence that could
still have become a character; a byte that starts none is a fault alone. -/
def pieces : Bytes → List Piece
  | [] => []
  | a :: rest =>
    if a < 0x80 then .scalar (Char.ofNat a.toNat) :: pieces rest
    else if a < 0xC2 || 0xF4 < a then .fault [a] .invalidStart :: pieces rest
    else match rest with
      | [] => [.fault [a] .unexpectedEnd]
      | b :: rest =>
        if !mayFollow a b then .fault [a] .invalidContinuation :: pieces (b :: rest)
        else if a < 0xE0 then .scalar (twoBytes a b) :: pieces rest
        else match rest with
          | [] => [.fault [a, b] .unexpectedEnd]
          | c :: rest =>
            if !isContinuation c then .fault [a, b] .invalidContinuation :: pieces (c :: rest)
            else if a < 0xF0 then .scalar (threeBytes a b c) :: pieces rest
            else match rest with
              | [] => [.fault [a, b, c] .unexpectedEnd]
              | d :: rest =>
                if !isContinuation d then .fault [a, b, c] .invalidContinuation :: pieces (d :: rest)
                else .scalar (fourBytes a b c d) :: pieces rest

structure DecodeError where
  position : Nat
  bytes : Bytes
  reason : Reason
deriving DecidableEq, Repr

def readPieces (position : Nat) : List Piece → Except DecodeError (List Char)
  | [] => .ok []
  | .scalar char :: rest => (readPieces (position + char.utf8Size) rest).map (char :: ·)
  | .fault bytes reason :: _ => .error ⟨position, bytes, reason⟩

def decode (bytes : Bytes) : Except DecodeError String := (readPieces 0 (pieces bytes)).map String.ofList

def Piece.replaced : Piece → Char
  | scalar char => char
  | fault .. => '�'

def decodeLossy (bytes : Bytes) : String := String.ofList ((pieces bytes).map Piece.replaced)

def hexDigit (n : Nat) : Char := "0123456789abcdef".toList.getD n '0'

def hexByte (byte : UInt8) : String := String.ofList [hexDigit (byte.toNat / 16), hexDigit (byte.toNat % 16)]

def DecodeError.message (error : DecodeError) : String :=
  let place := match error.bytes with
    | [byte] => s!"byte 0x{hexByte byte} in position {error.position}"
    | bytes => s!"bytes in position {error.position}-{error.position + bytes.length - 1}"
  s!"'utf-8' codec can't decode {place}: {error.reason.message}"

end Utf8
end Rethrow
