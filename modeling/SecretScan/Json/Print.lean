import SecretScan.Json.Basic

/-!
# Printing JSON

JSON text holds ASCII only: any other character is written as one or two escapes `\\uXXXX`, its
UTF-16 units. There are two layouts, one without any space and one with a line per item and two
spaces per level.
-/

namespace SecretScan.Json

/-- The lower-case hexadecimal digits of `n`, at least four. -/
def hex4 (n : Nat) : Text :=
  let ds := Nat.toDigits 16 n
  List.replicate (4 - ds.length) '0' ++ ds

/-- The escape of one UTF-16 unit. -/
def unitEscape (n : Nat) : Text :=
  '\\' :: 'u' :: hex4 n

/-- A character inside a string. -/
def escapeChar (c : Char) : Text :=
  match c with
  | '"' => ['\\', '"']
  | '\\' => ['\\', '\\']
  | '\n' => ['\\', 'n']
  | '\r' => ['\\', 'r']
  | '\t' => ['\\', 't']
  | '\x08' => ['\\', 'b']
  | '\x0c' => ['\\', 'f']
  | c =>
    let n := c.toNat
    if 0x20 ≤ n && n ≤ 0x7E then [c]
    else if n < 0x10000 then unitEscape n
    else unitEscape (0xD800 + (n - 0x10000) / 0x400) ++ unitEscape (0xDC00 + (n - 0x10000) % 0x400)

/-- A string in quotes. -/
def quote (s : String) : String :=
  String.ofList ('"' :: s.toList.flatMap escapeChar ++ ['"'])

/-- The text of a value without parts. -/
def atom? : Json → Option String
  | null => some "null"
  | bool b => some (if b then "true" else "false")
  | int n => some (toString n)
  | float x => some (Decimal.shortestWith ⟨"Infinity", "NaN"⟩ x)
  | text s => some (quote s)
  | list [] => some "[]"
  | object [] => some "{}"
  | _ => none

mutual

/-- The text of a value without spaces. -/
def compact : Json → String
  | list items => "[" ++ compactItems items ++ "]"
  | object fields => "\x7b" ++ compactFields fields ++ "\x7d"
  | value => (atom? value).getD ""

/-- Items separated by commas. -/
def compactItems : List Json → String
  | [] => ""
  | [item] => compact item
  | item :: items => compact item ++ "," ++ compactItems items

/-- Fields separated by commas. -/
def compactFields : List (String × Json) → String
  | [] => ""
  | [(name, value)] => quote name ++ ":" ++ compact value
  | (name, value) :: fields => quote name ++ ":" ++ compact value ++ "," ++ compactFields fields

end

/-- A new line at nesting depth `level`. -/
def newline (level : Nat) : String :=
  String.ofList ('\n' :: List.replicate (2 * level) ' ')

mutual

/-- The text of a value over several lines; the value stands at nesting depth `level`. -/
def prettyAt (level : Nat) : Json → String
  | list (item :: items) =>
    "[" ++ prettyItems (level + 1) (item :: items) ++ newline level ++ "]"
  | object (field :: fields) =>
    "\x7b" ++ prettyFields (level + 1) (field :: fields) ++ newline level ++ "\x7d"
  | value => (atom? value).getD ""

/-- Items, one a line. -/
def prettyItems (level : Nat) : List Json → String
  | [] => ""
  | [item] => newline level ++ prettyAt level item
  | item :: items => newline level ++ prettyAt level item ++ "," ++ prettyItems level items

/-- Fields, one a line. -/
def prettyFields (level : Nat) : List (String × Json) → String
  | [] => ""
  | [(name, value)] => newline level ++ quote name ++ ": " ++ prettyAt level value
  | (name, value) :: fields =>
    newline level ++ quote name ++ ": " ++ prettyAt level value ++ "," ++ prettyFields level fields

end

/-- The text of a value over several lines. -/
def pretty (value : Json) : String :=
  prettyAt 0 value

end SecretScan.Json
