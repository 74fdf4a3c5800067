import SecretScan.Text.Basic

/-!
# Paths

A path names a file or folder by the names of the folders on the way to it. Slashes that are not
needed and steps that stay in place are no part of it, so a path has one written form. Exactly two
slashes in front are kept, although they lead to the same place as one.
-/

namespace SecretScan

/-- A path. -/
structure Path where
  /-- Whether the way begins at the root of all folders. -/
  isAbsolute : Bool
  /-- The names on the way. An empty name in front stands for a second slash. -/
  names : List Text
deriving DecidableEq, Repr

namespace Path

/-- The names between slashes. -/
def namesIn (t : Text) : List Text :=
  (Text.splitOn '/' t).filter fun name => !name.isEmpty && name ≠ ['.']

/-- Reads a path. -/
def ofText (t : Text) : Path :=
  let front := if (t.takeWhile (· = '/')).length = 2 then [[]] else []
  ⟨t.head? = some '/', front ++ namesIn t⟩

/-- The names of the folders on the way, and of what it leads to. -/
def way (p : Path) : List Text :=
  match p.names with
  | [] :: names => names
  | names => names

/-- The path as it is written. -/
def toText (p : Path) : Text :=
  if p.isAbsolute then
    if p.names = [[]] then ['/', '/'] else '/' :: Text.join '/' p.names
  else if p.names.isEmpty then ['.'] else Text.join '/' p.names

/-- The path that leads along `p` and then along `q`. -/
def append (p q : Path) : Path :=
  if q.isAbsolute then q else ⟨p.isAbsolute, p.names ++ q.names⟩

/-- The path of `name` in the folder `p`. -/
def child (p : Path) (name : Text) : Path :=
  ⟨p.isAbsolute, p.names ++ [name]⟩

/-- The end of a file name that tells its kind: the last point and what comes after it, unless the
point begins or ends the name. -/
def suffixOf (name : Text) : Text :=
  let kind := (name.reverse.takeWhile (· ≠ '.')).reverse
  if kind.isEmpty || name.length ≤ kind.length + 1 then [] else '.' :: kind

end Path

end SecretScan
