import SecretScan.Text.Quoted

/-!
# Source locations

A location says where content comes from: a path or a web address. The same file can be fetched
under addresses that differ in the query or the fragment only, so locations are compared in a normal
form without these. An address with a scheme and an authority is taken apart and put together again;
anything else is cut at the first `?` and then at the first `#`.

An authority with a malformed address in brackets, or with a character that decomposes into a
delimiter, makes the location invalid.
-/

namespace SecretScan

/-- What is wrong with a location. -/
inductive LocationError where
  /-- The brackets around an address are misplaced. -/
  | brackets
  /-- There is an address of version 4 in brackets. -/
  | versionFour
  /-- The address of a future version is malformed. -/
  | futureVersion
  /-- What stands in brackets is no address. -/
  | noAddress (host : Text)
  /-- A character of the authority decomposes into a delimiter. -/
  | hiddenDelimiter (authority : Text)
deriving DecidableEq, Repr

/-- The error in words. -/
def LocationError.message : LocationError → String
  | brackets => "Invalid IPv6 URL"
  | versionFour => "An IPv4 address cannot be in brackets"
  | futureVersion => "IPvFuture address is invalid"
  | noAddress host =>
    s!"{String.ofList host.quoted} does not appear to be an IPv4 or IPv6 address"
  | hiddenDelimiter authority =>
    s!"netloc '{String.ofList authority}' contains invalid characters under NFKC normalization"

namespace Location

/-! ## Addresses -/

/-- Whether a text is one of the four numbers of a version 4 address. -/
def isOctet (t : Text) : Bool :=
  !t.isEmpty && t.all Char.isDigit && t.length ≤ 3 && (t = ['0'] || t.head? ≠ some '0')
    && t.foldl (fun n c => 10 * n + (c.toNat - 48)) 0 ≤ 255

/-- Whether a text is an address of version 4. -/
def isVersionFour (t : Text) : Bool :=
  let octets := t.splitOn '.'
  octets.length = 4 && octets.all isOctet

/-- A hexadecimal digit. -/
def isHexDigit (c : Char) : Bool :=
  c.isDigit || ('a' ≤ c && c ≤ 'f') || ('A' ≤ c && c ≤ 'F')

/-- Whether a text is one of the eight numbers of a version 6 address. -/
def isHextet (t : Text) : Bool :=
  1 ≤ t.length && t.length ≤ 4 && t.all isHexDigit

/-- Whether numbers make up an address of version 6. One run of zeros may be left out; an address
that begins or ends with `::` has an empty number in front of it or behind it. -/
def areHextets (parts : List Text) : Bool :=
  let inner := (parts.drop 1).dropLast
  match inner.filter List.isEmpty with
  | [] => parts.length = 8 && parts.all isHextet
  | [_] =>
    let high := parts.take (1 + (inner.takeWhile fun p => !p.isEmpty).length)
    let low := parts.drop (high.length + 1)
    let kept (side : List Text) := if side = [[]] then [] else side
    let high := kept high
    let low := kept low
    (high ++ low).all isHextet && high.length + low.length ≤ 7
  | _ => false

/-- The numbers of a version 6 address; a version 4 address at the end stands for two. -/
def hextets? (parts : List Text) : Option (List Text) :=
  match parts.getLast? with
  | none => none
  | some last =>
    if '.' ∈ last then
      if isVersionFour last then some (parts.dropLast ++ [['0'], ['0']]) else none
    else some parts

/-- Whether a text is an address of version 6. A zone may follow after a `%`. -/
def isVersionSix (t : Text) : Bool :=
  let address := t.before '%'
  let zone := t.drop address.length
  let zoneFine := zone.isEmpty || (1 < zone.length && !(zone.drop 1).contains '%')
  let parts := address.splitOn ':'
  !t.contains '/' && zoneFine && 3 ≤ parts.length
    && match hextets? parts with
      | some parts => parts.length ≤ 9 && areHextets parts
      | none => false

/-- Whether a text is an address of a future version: `v`, a version, a point and the address. -/
def isFutureVersion (t : Text) : Bool :=
  let rest := t.drop 1
  let version := rest.takeWhile isHexDigit
  match version, rest.drop version.length with
  | _ :: _, '.' :: _ :: _ => true
  | _, _ => false

/-- Checks the host of an authority with brackets. -/
def checkHost (host : Text) : Except LocationError Unit :=
  if host.head? = some 'v' then
    if isFutureVersion host then .ok () else .error .futureVersion
  else if isVersionFour host then .error .versionFour
  else if isVersionSix host then .ok ()
  else .error (.noAddress host)

/-- What follows the last `c`, or all of `t` if it holds none. -/
def afterLast (t : Text) (c : Char) : Text :=
  (t.reverse.takeWhile (· ≠ c)).reverse

/-- Checks the brackets of an authority and what they enclose. -/
def checkBrackets (authority : Text) : Except LocationError Unit :=
  let host := afterLast authority '@'
  if '[' ∈ host then
    if host.head? ≠ some '[' then .error .brackets
    else
      let inner := Text.before (host.drop 1) ']'
      let behind := host.drop (inner.length + 2)
      if behind.isEmpty || behind.head? = some ':' then checkHost inner else .error .brackets
  else checkHost (host.before ':')

/-! ## Parts of a location -/

/-- The parts of a location that matter for its normal form. -/
structure Parts where
  /-- The scheme in lower case, or nothing. -/
  scheme : Text
  /-- The authority, or nothing. -/
  authority : Text
  /-- The path. -/
  path : Text
deriving DecidableEq, Repr

/-- Whether `c` may occur in a scheme. -/
def isSchemeChar (c : Char) : Bool :=
  c.isAlphanum || c = '+' || c = '-' || c = '.'

/-- The scheme in front of the first colon, in lower case, and what follows it. -/
def splitScheme (t : Text) : Text × Text :=
  let scheme := t.before ':'
  match scheme, t.drop scheme.length with
  | c :: _, ':' :: rest =>
    if c.isAlpha && scheme.all isSchemeChar then (scheme.map Char.toLower, rest) else ([], t)
  | _, _ => ([], t)

/-- The authority after two slashes, and what follows it. -/
def splitAuthority : Text → Text × Text
  | '/' :: '/' :: t =>
    let authority := t.takeWhile fun c => c ≠ '/' && c ≠ '?' && c ≠ '#'
    (authority, t.drop authority.length)
  | t => ([], t)

/-- The characters that decompose into one of the delimiters `/`, `?`, `#`, `@` and `:`. -/
def hiddenDelimiters : List Nat :=
  [0x2047, 0x2048, 0x2049, 0x2100, 0x2101, 0x2105, 0x2106, 0x2A74, 0xFE13, 0xFE16, 0xFE55, 0xFE56,
   0xFE5F, 0xFE6B, 0xFF03, 0xFF0F, 0xFF1A, 0xFF1F, 0xFF20]

/-- Checks an authority. -/
def checkAuthority (authority : Text) : Except LocationError Unit := do
  if authority.contains '[' != authority.contains ']' then .error .brackets
  if '[' ∈ authority then checkBrackets authority
  if authority.any fun c => hiddenDelimiters.contains c.toNat then
    .error (.hiddenDelimiter authority)

/-- What is left of a location when the parts of it that are never looked at are dropped: spaces and
controls in front, and tabs and line ends anywhere. -/
def visible (t : Text) : Text :=
  (t.dropWhile fun c => c.toNat ≤ 0x20).filter fun c => c ≠ '\t' && c ≠ '\r' && c ≠ '\n'

/-- Drops the query and the fragment. -/
def withoutQuery (t : Text) : Text :=
  (t.before '#').before '?'

/-- Takes a location apart. -/
def parts (t : Text) : Except LocationError Parts := do
  let (scheme, rest) := splitScheme (visible t)
  let (authority, rest) := splitAuthority rest
  checkAuthority authority
  return ⟨scheme, authority, withoutQuery rest⟩

/-- The normal form of a location. -/
def normalize (t : Text) : Except LocationError Text := do
  if t.isEmpty then return t
  let p ← parts t
  if p.scheme.isEmpty || p.authority.isEmpty then return (t.before '?').before '#'
  return p.scheme ++ "://".toList ++ p.authority ++ p.path

end Location

end SecretScan
