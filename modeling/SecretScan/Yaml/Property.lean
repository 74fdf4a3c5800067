import SecretScan.Text.Utf8
import SecretScan.Yaml.Scalar.Quoted

/-!
# Anchors, tags and directives

A node can have an anchor, by which aliases refer to it, and a tag, which tells its type. A tag is
written with a handle that stands for the beginning of its name; directives at the beginning of a
document say what the handles stand for.
-/

namespace SecretScan.Yaml

/-- Whether `c` can be part of the name of an anchor, a handle or a directive. -/
def isNameChar (c : Char) : Bool :=
  c.isAlphanum || c = '-' || c = '_'

/-- The name of an anchor or alias at the front of `t`. -/
def anchorName (t : Text) : Except Fault Chunk :=
  let name := t.takeWhile isNameChar
  let rest := t.drop name.length
  if !name.isEmpty && (atGap rest || endsOr (· ∈ "?:,]\x7d%@\x60".toList) rest) then
    .ok ⟨name, name.length⟩
  else .error .malformed

/-- Whether `c` can be part of the name of a tag. -/
def isUriChar (c : Char) : Bool :=
  c.isAlphanum || c ∈ "-;/?:@&=+$,_.!~*'()[]".toList

/-- The bytes of a tag name at the front of `t`, and how many characters spell them. -/
def uriBytes : Text → Except Fault (Bytes × Nat)
  | '%' :: a :: b :: t =>
    match Decimal.digitIn? 16 a, Decimal.digitIn? 16 b with
    | some x, some y => do
      let (bytes, n) ← uriBytes t
      return ((16 * x + y).toUInt8 :: bytes, n + 3)
    | _, _ => .error .malformed
  | '%' :: _ => .error .malformed
  | c :: t =>
    if isUriChar c then do
      let (bytes, n) ← uriBytes t
      return (c.toNat.toUInt8 :: bytes, n + 1)
    else .ok ([], 0)
  | [] => .ok ([], 0)

/-- The tag name at the front of `t`. -/
def uri (t : Text) : Except Fault Chunk := do
  let (bytes, n) ← uriBytes t
  match n, Utf8.decode bytes with
  | n + 1, .ok name => return ⟨name, n + 1⟩
  | _, _ => .error .malformed

/-- The handle at the front of `t`: an exclamation mark, or a name between two of them. -/
def handle (t : Text) : Except Fault Chunk :=
  match t with
  | '!' :: t =>
    if t.head? = some ' ' then .ok ⟨['!'], 1⟩
    else
      let name := t.takeWhile isNameChar
      if (t.drop name.length).head? = some '!' then .ok ⟨'!' :: name ++ ['!'], name.length + 2⟩
      else .error .malformed
  | _ => .error .malformed

/-- A tag as it is written. -/
structure WrittenTag where
  /-- The handle, if the name is not written in full. -/
  handle : Option Text
  /-- The rest of the name. -/
  suffix : Text

/-- The tag at the front of `t` and how many characters it takes; `t` begins with an exclamation
mark. -/
def tagAt (t : Text) : Except Fault (WrittenTag × Nat) := do
  let (tag, n) ← (do
    match t.drop 1 with
    | '<' :: rest =>
      let name ← uri rest
      if (rest.drop name.length).head? = some '>' then
        return (⟨none, name.text⟩, name.length + 3)
      else .error .malformed
    | rest =>
      if atGap rest then return (⟨none, ['!']⟩, 1)
      else
        let start ←
          if '!' ∈ rest.takeWhile (fun c => !(c = ' ' || isBreak c)) then handle t
          else pure ⟨['!'], 1⟩
        let name ← uri (t.drop start.length)
        return (⟨some start.text, name.text⟩, start.length + name.length)
    : Except Fault (WrittenTag × Nat))
  if atSpace (t.drop n) then return (tag, n) else .error .malformed

/-- A directive. -/
inductive Directive where
  /-- The version of the language. -/
  | version (major : Nat)
  /-- What a handle stands for. -/
  | tag (handle name : Text)
  /-- A directive that means nothing here. -/
  | unknown

/-- How many spaces `t` begins with. -/
def spaces (t : Text) : Nat :=
  (t.takeWhile (· = ' ')).length

/-- The number that the digits of a version stand for. -/
def versionNumber (ds : Text) : Except Fault Nat :=
  if ds.isEmpty then .error .malformed
  else if Decimal.maxIntDigits < ds.length then .error (.tooManyDigits ds.length)
  else .ok (ds.foldl (fun n c => 10 * n + (c.toNat - 48)) 0)

/-- The version at the front of `t`. -/
def versionAt (t : Text) : Except Fault (Directive × Nat) := do
  let gap := spaces t
  let t := t.drop gap
  let major := t.takeWhile Char.isDigit
  let n ← versionNumber major
  match t.drop major.length with
  | '.' :: rest =>
    let minor := rest.takeWhile Char.isDigit
    let _ ← versionNumber minor
    if atSpace (rest.drop minor.length) then
      return (.version n, gap + major.length + 1 + minor.length)
    else .error .malformed
  | _ => .error .malformed

/-- The meaning of a handle at the front of `t`. -/
def tagDirectiveAt (t : Text) : Except Fault (Directive × Nat) := do
  let gap := spaces t
  let start ← handle (t.drop gap)
  let rest := t.drop (gap + start.length)
  let between := spaces rest
  let name ← uri (rest.drop between)
  if between = 0 || !atSpace (rest.drop (between + name.length)) then .error .malformed
  else return (.tag start.text name.text, gap + start.length + between + name.length)

/-- The directive after a percent sign, and how many characters it takes. -/
def directiveAt (t : Text) : Except Fault (Directive × Nat) := do
  let name := t.takeWhile isNameChar
  let rest := t.drop name.length
  if name.isEmpty || !atSpace rest then .error .malformed
  let (directive, n) ←
    if name = "YAML".toList then versionAt rest
    else if name = "TAG".toList then tagDirectiveAt rest
    else pure (.unknown, (rest.takeWhile (!isBreak ·)).length)
  return (directive, name.length + n)

end SecretScan.Yaml
