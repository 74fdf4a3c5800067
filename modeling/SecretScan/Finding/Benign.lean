import SecretScan.Finding.Basic
import SecretScan.Text.DecimalDigit
import SecretScan.Text.Shape

/-!
# Matches that are no secrets

Four questions about a match and its surroundings: whether its text looks like something that is no
credential, whether it lies in embedded data, whether it is encoded data itself, and whether its
line is a comment. The first one that is answered with yes gives the reason to suppress it.
-/

namespace SecretScan

namespace Benign

open Shape

/-! ## The matched text -/

/-- A hexadecimal digit. -/
def isHexDigit (c : Char) : Bool :=
  c.isDigit || ('a' ≤ c && c ≤ 'f') || ('A' ≤ c && c ≤ 'F')

/-- A hash of forty digits. -/
def hash : Shape :=
  seq [exactCount 40 isHexDigit, lastLineEnd]

/-- A word with an initial capital. -/
def capitalised : Shape :=
  seq [one Char.isUpper, Shape.some Char.isLower]

/-- What follows the first word of an identifier: more words, and digits at the end. -/
def moreWords : Shape :=
  seq [capitalised, repeated capitalised, many Text.isDecimalDigit, lastLineEnd]

/-- An identifier of several words, each with an initial capital. -/
def capitalIdentifier : Shape :=
  seq [capitalised, moreWords]

/-- An identifier of several words, each but the first with an initial capital. -/
def smallIdentifier : Shape :=
  seq [Shape.some Char.isLower, moreWords]

/-- How names of functions, modules and generated code begin. -/
def codePrefix : Shape :=
  anyWord ["map", "filter", "reduce", "foreach", "slice", "splice", "concat", "_react", "_emotion",
    "_styled", "_next", "__webpack", "module.", "exports."]

/-- Whether a matched text looks like a hash, an identifier or a bundler artefact. -/
def isBenignShape (t : Text) : Bool :=
  (anyOf [hash, capitalIdentifier, smallIdentifier, codePrefix]).begins t
    || (word "sourcemappingurl").occurs t

/-! ## The surroundings -/

/-- Any character but a newline. -/
def inLine (c : Char) : Bool :=
  c ≠ '\n'

/-- A name in quotes that holds data. -/
def dataKey : Shape :=
  seq [word "\"",
    anyWord ["publickey", "privatekey", "data", "content", "image", "icon", "font", "logo",
      "avatar", "thumbnail", "media", "src", "href"],
    word "\":"]

/-- Words that only occur in embedded data and source maps. -/
def assetWord : Shape :=
  anyWord ["base64,", "data:image", ";base64", "ivbor", "aaaa", "/png", "/jpeg", "/jpg", "/gif",
    "/webp", "/svg", "sourcemappingurl=", "webpack://", "__webpack", ".chunk.js"]

/-- The comment of a source map. -/
def sourceComment : Shape :=
  seq [word "/*#", many Text.isBlank, word "source"]

/-- An import of a module by name. -/
def importLine : Shape :=
  seq [word "import", Shape.some Text.isBlank, many inLine, Shape.some Text.isBlank, word "from",
    Shape.some Text.isBlank, oneOf "'\""]

/-- A call that loads a module by name. -/
def requireCall : Shape :=
  seq [word "require", many Text.isBlank, word "(", oneOf "'\""]

/-- A field called `data` or `image`. -/
def assetField : Shape :=
  seq [oneOf "\"'", anyWord ["data", "image"], oneOf "\"'", many Text.isBlank, word ":"]

/-- Whether a context is embedded data, a source map or an import. -/
def hasAssetContext (context : Text) : Bool :=
  (anyOf [assetWord, dataKey, sourceComment, importLine, requireCall, assetField]).occurs context

/-! ## Encoded data -/

/-- The head of embedded data with its media type. -/
def dataHead : Shape :=
  seq [exactly "data:", Shape.some fun c => Text.isWordChar c || c = '/' || c = '-',
    exactly ";base64,"]

/-- The padding at the end of encoded data. -/
def padding : Shape :=
  seq [one (· = '='), lastLineEnd]

/-- A character of encoded data. -/
def isEncoded (c : Char) : Bool :=
  c.isAlphanum || c = '+' || c = '/' || c = '='

/-- Nothing but encoded data. -/
def encodedOnly : Shape :=
  seq [Shape.some isEncoded, lastLineEnd]

/-- A field whose value has begun and goes on to the end of the text. -/
def openField : Shape :=
  seq [word "\"",
    anyWord ["data", "content", "image", "icon", "font", "media", "src", "href", "asset",
      "resource"],
    word "\"", many Text.isBlank, word ":", many Text.isBlank, word "\"", many (· ≠ '"'),
    lastLineEnd]

/-- A variable for data whose value has begun and goes on to the end of the text. -/
def openAssignment : Shape :=
  seq [anyWord ["const", "let", "var"], Shape.some Text.isBlank,
    anyWord ["data", "image", "icon", "font", "asset", "resource", "content"],
    many Text.isWordChar, many Text.isBlank, word "=", many Text.isBlank, oneOf "\"`'",
    many fun c => !("\"`'".toList.contains c), lastLineEnd]

/-- Whether a matched text is encoded data. `leading` is the text before the match. -/
def isEncodedData (t context leading : Text) : Bool :=
  dataHead.occurs context
    || (100 < t.length && padding.occurs t)
    || (200 < t.length && encodedOnly.begins t)
    || openField.occurs leading
    || openAssignment.occurs leading

/-! ## Comments -/

/-- Whether a line is a comment line. -/
def isCommentLine (line : Text) : Bool :=
  let line := line.trim
  ["//", "*", "/*"].any fun mark => mark.toList.isPrefixOf line

end Benign

/-! ## Context and line of a match -/

/-- The usual number of characters on both sides of a match that make up its context. -/
def contextRadius : Nat := 100

/-- The ends of the window that reaches `radius` characters around a match of `length` characters at
`offset`, in a text of `size` characters. -/
def contextWindow (size offset length : Nat) (radius : Int) : Int × Int :=
  (max 0 ((offset : Int) - radius), min (size : Int) (offset + length + radius))

/-- The offset at which the context of a match begins. -/
def contextStart (offset : Nat) : Nat :=
  offset - contextRadius

/-- The context of a match. -/
def contextOf (content : Text) (offset length : Nat) : Text :=
  let (start, stop) := contextWindow content.length offset length contextRadius
  content.slice start.toNat stop.toNat

/-- The number of the line at an offset, counted from 1. -/
def lineNumber (content : Text) (offset : Nat) : Nat :=
  (content.take offset).count '\n' + 1

/-- The whole line at an offset. A newline belongs to the line that it ends. -/
def lineAt (content : Text) (offset : Nat) : Text :=
  ((content.take offset).reverse.takeWhile (· ≠ '\n')).reverse
    ++ (content.drop offset).takeWhile (· ≠ '\n')

/-- Why a match is no secret, if one of the four questions says so. -/
def benignReason? (content : Text) (offset : Nat) (t : Text) : Option Reason :=
  let context := contextOf content offset t.length
  if Benign.isBenignShape t then some .benignShape
  else if Benign.hasAssetContext context then some .assetContext
  else if Benign.isEncodedData t context (content.slice (contextStart offset) offset) then
    some .encodedData
  else if Benign.isCommentLine (lineAt content offset) then some .commentLine
  else none

end SecretScan
