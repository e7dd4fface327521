/-!
Reading bytes as UTF-8.  A text that is not well formed has a first fault: either a sequence that no
continuation can mend, of one to three bytes, or a sequence that the end of the input cuts off.
`decode` reports that fault; `decodeLossy` puts U+FFFD in the place of each faulty sequence.
-/

namespace BuildScan.Text

/-- A sequence of bytes, as a process writes it and a file holds it. -/
abbrev Bytes := List UInt8

/-- The bytes of a string. -/
def bytesOf (s : String) : Bytes := s.toUTF8.toList

/-- What stands at the front of a byte sequence. -/
inductive Front where
  /-- A character and the number of bytes that it takes. -/
  | char (c : Char) (size : Nat)
  /-- A sequence that cannot be continued to a character. -/
  | invalid (size : Nat)
  /-- A sequence that ends before its character does. -/
  | incomplete (size : Nat)
  deriving Repr, DecidableEq

/-- A byte of the form `10xxxxxx`. -/
def isContinuation (b : UInt8) : Bool := 0x80 ≤ b && b ≤ 0xBF

/-- The bytes that may follow the first byte of a longer sequence: not every continuation, since
overlong forms, surrogates and code points beyond the last plane are excluded. -/
def secondByteRange (first : UInt8) : UInt8 × UInt8 :=
  if first = 0xE0 then (0xA0, 0xBF)
  else if first = 0xED then (0x80, 0x9F)
  else if first = 0xF0 then (0x90, 0xBF)
  else if first = 0xF4 then (0x80, 0x8F)
  else (0x80, 0xBF)

/-- The payload bits of a continuation byte. -/
def payload (b : UInt8) : Nat := (b &&& 0x3F).toNat

/-- Length of the sequence that a byte announces: zero if it opens none. -/
def announcedSize (first : UInt8) : Nat :=
  if first < 0x80 then 1
  else if 0xC2 ≤ first && first ≤ 0xDF then 2
  else if 0xE0 ≤ first && first ≤ 0xEF then 3
  else if 0xF0 ≤ first && first ≤ 0xF4 then 4
  else 0

/-- Reads what the byte `first` opens, with `rest` behind it. -/
def front (first : UInt8) (rest : Bytes) : Front :=
  let inSecondRange (b : UInt8) := (secondByteRange first).1 ≤ b && b ≤ (secondByteRange first).2
  match announcedSize first with
  | 1 => .char (Char.ofNat first.toNat) 1
  | 2 => match rest with
    | [] => .incomplete 1
    | b :: _ =>
      if isContinuation b then .char (Char.ofNat ((first.toNat - 0xC0) * 64 + payload b)) 2
      else .invalid 1
  | 3 => match rest with
    | [] => .incomplete 1
    | b :: more =>
      if !inSecondRange b then .invalid 1
      else match more with
        | [] => .incomplete 2
        | c :: _ =>
          if isContinuation c then
            .char (Char.ofNat (((first.toNat - 0xE0) * 64 + payload b) * 64 + payload c)) 3
          else .invalid 2
  | 4 => match rest with
    | [] => .incomplete 1
    | b :: more =>
      if !inSecondRange b then .invalid 1
      else match more with
        | [] => .incomplete 2
        | c :: last =>
          if !isContinuation c then .invalid 2
          else match last with
            | [] => .incomplete 3
            | d :: _ =>
              if isContinuation d then
                .char (Char.ofNat
                  ((((first.toNat - 0xF0) * 64 + payload b) * 64 + payload c) * 64 + payload d)) 4
              else .invalid 3
  | _ => .invalid 1

/-- The first fault of a byte sequence and the offset at which it starts. -/
inductive Utf8Fault where
  | invalid (size offset : Nat)
  | incomplete (offset : Nat)
  deriving Repr, DecidableEq

def Utf8Fault.message : Utf8Fault → String
  | .invalid size offset => s!"invalid utf-8 sequence of {size} bytes from index {offset}"
  | .incomplete offset => s!"incomplete utf-8 byte sequence from index {offset}"

/-- Reads from `offset` on; `skip` bytes belong to the character read last. -/
def decodeFrom (offset skip : Nat) : Bytes → Except Utf8Fault (List Char)
  | [] => .ok []
  | b :: rest =>
    match skip with
    | k + 1 => decodeFrom (offset + 1) k rest
    | 0 => match front b rest with
      | .char c size => (decodeFrom (offset + 1) (size - 1) rest).map (c :: ·)
      | .invalid size => .error (.invalid size offset)
      | .incomplete _ => .error (.incomplete offset)

/-- The text of a byte sequence, or its first fault. -/
def decode (bs : Bytes) : Except Utf8Fault String := (decodeFrom 0 0 bs).map String.ofList

/-- Reads with U+FFFD for each faulty sequence; `skip` bytes belong to what was read last. -/
def decodeLossyFrom (skip : Nat) : Bytes → List Char
  | [] => []
  | b :: rest =>
    match skip with
    | k + 1 => decodeLossyFrom k rest
    | 0 => match front b rest with
      | .char c size => c :: decodeLossyFrom (size - 1) rest
      | .invalid size => Char.ofNat 0xFFFD :: decodeLossyFrom (size - 1) rest
      | .incomplete size => Char.ofNat 0xFFFD :: decodeLossyFrom (size - 1) rest

/-- The text of a byte sequence, faults replaced. -/
def decodeLossy (bs : Bytes) : String := String.ofList (decodeLossyFrom 0 bs)

end BuildScan.Text
