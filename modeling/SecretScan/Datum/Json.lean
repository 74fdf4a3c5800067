import SecretScan.Datum.Basic
import SecretScan.Json.Basic

/-!
# Data values from JSON

A JSON value says a data value; its objects are mappings whose keys are texts.
-/

namespace SecretScan.Json

mutual

/-- The data value that a JSON value says. -/
def toDatum : Json → Datum
  | null => .null
  | bool b => .bool b
  | int n => .int n
  | float x => .float x
  | text s => .text s.toList
  | list items => .list (toData items)
  | object fields => .map (toEntries fields)

/-- The data values that items say. -/
def toData : List Json → List Datum
  | [] => []
  | item :: items => item.toDatum :: toData items

/-- The entries that fields say. -/
def toEntries : List (String × Json) → List (Datum × Datum)
  | [] => []
  | (name, value) :: fields => (.text name.toList, value.toDatum) :: toEntries fields

end

end SecretScan.Json
