import SecretScan.Text.Quoted

/-!
# UTF-8

Files are bytes, and their text is what the bytes spell in UTF-8. The bytes split into pieces, each
of them either one character or a longest beginning of one that goes wrong. Scanned files are read
tolerantly, with the replacement character for every wrong piece. Rule files and settings are read
strictly: the first wrong piece is an error that tells where it stands.
-/

namespace SecretScan

/-- Raw bytes. -/
abbrev Bytes := List UInt8

namespace Utf8

/-- What is wrong with bytes that spell no character. -/
inductive Fault where
  /-- No character begins with the byte. -/
  | badStart
  /-- The bytes begin a character, but the next byte does not go on with it. -/
  | badContinuation
  /-- The bytes begin a character and there are no more. -/
  | unexpectedEnd
deriving DecidableEq, Repr

/-- The fault in words. -/
def Fault.message : Fault → String
  | badStart => "invalid start byte"
  | badContinuation => "invalid continuation byte"
  | unexpectedEnd => "unexpected end of data"

/-- What the first byte of a character asks for. -/
structure Lead where
  /-- How many bytes have to follow. -/
  owed : Nat
  /-- The least next byte. -/
  least : Nat
  /-- The greatest next byte. -/
  greatest : Nat
  /-- The bits of the code point that the byte carries. -/
  bits : Nat

/-- What the byte `b` asks for, if a character can begin with it. -/
def lead? (b : Nat) : Option Lead :=
  if b < 0x80 then some ⟨0, 0, 0, b⟩
  else if b < 0xC2 then none
  else if b < 0xE0 then some ⟨1, 0x80, 0xBF, b - 0xC0⟩
  else if b = 0xE0 then some ⟨2, 0xA0, 0xBF, 0⟩
  else if b = 0xED then some ⟨2, 0x80, 0x9F, 0x0D⟩
  else if b < 0xF0 then some ⟨2, 0x80, 0xBF, b - 0xE0⟩
  else if b = 0xF0 then some ⟨3, 0x90, 0xBF, 0⟩
  else if b < 0xF4 then some ⟨3, 0x80, 0xBF, b - 0xF0⟩
  else if b = 0xF4 then some ⟨3, 0x80, 0x8F, 4⟩
  else none

/-- A character or a longest wrong beginning of one. -/
structure Piece where
  /-- The character, or what is wrong. -/
  outcome : Except Fault Char
  /-- How many bytes the piece takes. -/
  length : Nat

/-- Goes on with a character: `taken` bytes are read, and `owed` are to come, of which the first
lies between `least` and `greatest`. -/
def follow (taken : Nat) : (owed least greatest bits : Nat) → Bytes → Piece
  | 0, _, _, bits, _ => ⟨.ok (Char.ofNat bits), taken⟩
  | _ + 1, _, _, _, [] => ⟨.error .unexpectedEnd, taken⟩
  | owed + 1, least, greatest, bits, b :: bs =>
    let n := b.toNat
    if least ≤ n && n ≤ greatest then
      follow (taken + 1) owed 0x80 0xBF (64 * bits + (n - 0x80)) bs
    else ⟨.error .badContinuation, taken⟩

/-- The piece that begins with `b`. -/
def piece (b : UInt8) (bs : Bytes) : Piece :=
  match lead? b.toNat with
  | some lead => follow 1 lead.owed lead.least lead.greatest lead.bits bs
  | none => ⟨.error .badStart, 1⟩

/-- The pieces of which bytes are made. -/
def pieces : Bytes → List Piece
  | [] => []
  | b :: bs =>
    let p := piece b bs
    p :: pieces (bs.drop (p.length - 1))
termination_by bs => bs.length
decreasing_by simp only [List.length_drop, List.length_cons]; omega

/-- The text of bytes, with the replacement character for each wrong piece. -/
def decodeTolerant (bs : Bytes) : Text :=
  (pieces bs).map fun p =>
    match p.outcome with
    | .ok c => c
    | .error _ => '\uFFFD'

/-- Why bytes have no text. -/
structure DecodeError where
  /-- What is wrong. -/
  fault : Fault
  /-- Where the wrong piece begins. -/
  start : Nat
  /-- How many bytes it has. -/
  length : Nat
  /-- Its first byte. -/
  byte : Nat
deriving DecidableEq, Repr

/-- The error in words. -/
def DecodeError.message (e : DecodeError) : String :=
  let place :=
    if e.length = 1 then
      s!"byte 0x{String.ofList (Text.hexDigits 2 e.byte)} in position {e.start}"
    else s!"bytes in position {e.start}-{e.start + e.length - 1}"
  s!"'utf-8' codec can't decode {place}: {e.fault.message}"

/-- The text of pieces, the first of which begins at `start`, and the wrong piece that ends it. -/
def untilWrong (start : Nat) : List Piece → Text × Option (Nat × Fault × Nat)
  | [] => ([], none)
  | p :: ps =>
    match p.outcome with
    | .ok c =>
      let (t, wrong) := untilWrong (start + p.length) ps
      (c :: t, wrong)
    | .error fault => ([], some (start, fault, p.length))

/-- The error for a wrong piece of `bs`. -/
def errorAt (bs : Bytes) (start : Nat) (fault : Fault) (length : Nat) : DecodeError :=
  ⟨fault, start, length, (bs.getD start 0).toNat⟩

/-- The text of bytes. -/
def decode (bs : Bytes) : Except DecodeError Text :=
  match untilWrong 0 (pieces bs) with
  | (t, none) => .ok t
  | (_, some (start, fault, length)) => .error (errorAt bs start fault length)

/-- How many bytes of a rule file are read at a time. -/
def blockSize : Nat := 8192

/-- The text of bytes that are read block by block. A character may begin in one block and end in
the next one: its bytes are kept as `pending`. Positions in errors count from there. -/
def decodeBlocks (pending bs : Bytes) : Except DecodeError Text :=
  match bs with
  | [] => decode pending
  | b :: rest =>
    let block := pending ++ (b :: rest).take blockSize
    match untilWrong 0 (pieces block) with
    | (t, none) => (decodeBlocks [] (rest.drop (blockSize - 1))).map (t ++ ·)
    | (t, some (start, .unexpectedEnd, _)) =>
      (decodeBlocks (block.drop start) (rest.drop (blockSize - 1))).map (t ++ ·)
    | (_, some (start, fault, length)) => .error (errorAt block start fault length)
termination_by bs.length
decreasing_by all_goals simp only [List.length_drop, List.length_cons]; omega

/-- The bytes of a character. -/
def encodeChar (c : Char) : Bytes :=
  (String.utf8EncodeChar c)

/-- The bytes of a text. -/
def encode (t : Text) : Bytes :=
  t.flatMap encodeChar

end Utf8

namespace Text

/-- Line breaks of two characters, or of one carriage return, as plain newlines. -/
def unifyLineBreaks : Text → Text
  | [] => []
  | ['\r'] => ['\n']
  | '\r' :: c :: t => if c = '\n' then '\n' :: unifyLineBreaks t else '\n' :: unifyLineBreaks (c :: t)
  | c :: t => c :: unifyLineBreaks t
termination_by t => t.length

end Text

end SecretScan
