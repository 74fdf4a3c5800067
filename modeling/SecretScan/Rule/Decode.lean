import SecretScan.Datum.Number
import SecretScan.Datum.Spelling
import SecretScan.Event
import SecretScan.Rule.Basic
import SecretScan.Text.Blank
import SecretScan.Text.Lower

/-!
# Rules from data

A rule document is a list of entries, a mapping whose `rules` hold that list, or a single entry. An
entry that is no usable rule is left out and told about, and the other entries are not affected.
-/

namespace SecretScan

/-- The spelling of a value where a text is expected. -/
def Datum.toText (d : Datum) : Except Misfit Text :=
  Datum.readable d.spell?

/-- What decoding an entry tells and yields. -/
structure Decoded (α : Type) where
  /-- What is told. -/
  events : List Event
  /-- What is yielded. -/
  outcome : Except Misfit α

/-- The whole number under a key, if there is one. -/
def minimum (data : Datum) (name : String) : Except Misfit (Option Int) :=
  match data.get name with
  | .null => .ok none
  | value => value.toInt.map some

/-- The spellings of the parts of a value; a text stands for itself. -/
def spelledParts (value : Datum) : Except Misfit (List Text) :=
  if value.isGiven then
    match value with
    | .text t => .ok [t]
    | value =>
      match value.parts? with
      | some parts => parts.mapM Datum.toText
      | none => .error .wrongType
  else .ok []

/-- The terms that a match is ignored for. A text is a term, even an empty one. -/
def ignoredTerms : Datum → Except Misfit (List Text)
  | .text t => .ok [t]
  | value => spelledParts value

/-- The requirements of an entry. Requirements that ask for nothing are the same as none. -/
def decodeRequirements (data : Datum) : Except Misfit (Option Requirements) :=
  if data.isMap then do
    let requirements : Requirements :=
      { minDigits := ← minimum data "min_digits"
        minUppercase := ← minimum data "min_uppercase"
        minLowercase := ← minimum data "min_lowercase"
        minSpecial := ← minimum data "min_special_chars"
        specialChars := ← match data.get "special_chars" with
          | .null => .ok none
          | value => value.toText.map some
        ignoreTerms := ← ignoredTerms (data.get "ignore_if_contains") }
    return if requirements = .free then none else some requirements
  else .ok none

/-- The confidence of an entry. A label that means nothing counts as low. -/
def decodeConfidence (ruleId : String) : Datum → Except Misfit (Confidence × List Event)
  | .null => .ok (.medium, [])
  | value => do
    let label ← value.toText
    match Confidence.ofLabel (String.ofList (Text.lower label.trim)) with
    | .other _ => return (.low, [.confidenceUnknown ruleId (String.ofList label)])
    | confidence => return (confidence, [])

/-- The text under a key, or else a usual one. -/
def textField (entry : Datum) (name usual : String) : Except Misfit String :=
  match entry.get? name with
  | some value => value.toText.map String.ofList
  | none => .ok usual

/-- The rule of an entry with an identifier and a pattern, as far as the fields that come before its
confidence tell. -/
def decodeGates (entry : Datum) (id : String) (pattern : Datum) : Except Misfit Rule := do
  let name ← textField entry "name" id
  let pattern ← pattern.toText
  let minEntropy ← match entry.get "min_entropy" with
    | .null => pure none
    | value => value.toFloat.map some
  let requirements ← decodeRequirements (entry.get "pattern_requirements")
  return { Rule.ofPattern id name pattern with minEntropy, requirements }

/-- The rule with the fields of its entry that come after the confidence. -/
def decodeNotes (entry : Datum) (rule : Rule) : Except Misfit Rule := do
  let description ← textField entry "description" ""
  return { rule with description, examples := ← spelledParts (entry.get "examples") }

/-- The rule of an entry with an identifier and a pattern. -/
def decodeFields (entry : Datum) (id : String) (pattern : Datum) : Decoded Rule :=
  let gates := do
    let rule ← decodeGates entry id pattern
    return (rule, ← decodeConfidence id (entry.get "confidence"))
  match gates with
  | .error e => ⟨[], .error e⟩
  | .ok (rule, confidence, events) => ⟨events, decodeNotes entry { rule with confidence }⟩

/-- The first of two values that is given, if any is. -/
def firstGiven? (a b : Datum) : Option Datum :=
  if a.isGiven then some a else if b.isGiven then some b else none

/-- An entry that is left out for a reason. -/
def Decoded.skipped (reason : SkipReason) : Decoded (Option Rule) :=
  ⟨[.entrySkipped reason], .ok none⟩

/-- Decodes an entry, as far as it can be read. -/
def readEntry (entry : Datum) : Decoded (Option Rule) :=
  if entry.isMap then
    match (firstGiven? (entry.get "id") (entry.get "name")).map Datum.toText with
    | none => .skipped .noId
    | some (.error e) => ⟨[], .error e⟩
    | some (.ok id) =>
      let id := String.ofList id
      let pattern := entry.get "pattern"
      if pattern.isGiven then
        let d := decodeFields entry id pattern
        ⟨d.events, d.outcome.map some⟩
      else .skipped (.noPattern id)
  else .skipped .notMapping

/-- Decodes an entry. One with an unreadable field is left out; only a number beyond all range is an
error of the whole document. -/
def decodeEntry (entry : Datum) : Decoded (Option Rule) :=
  let d := readEntry entry
  match d.outcome with
  | .error .wrongType => ⟨d.events ++ [.entrySkipped .wrongType], .ok none⟩
  | .error .wrongValue => ⟨d.events ++ [.entrySkipped .wrongValue], .ok none⟩
  | _ => d

/-- Decodes entries one after the other. -/
def decodeEntries : List Datum → Decoded (List Rule)
  | [] => ⟨[], .ok []⟩
  | entry :: entries =>
    let d := decodeEntry entry
    match d.outcome with
    | .error e => ⟨d.events, .error e⟩
    | .ok rule =>
      let rest := decodeEntries entries
      ⟨d.events ++ rest.events, rest.outcome.map (rule.toList ++ ·)⟩

/-- The entries of a document, or the name of the type that it has instead. -/
def entriesOf (data : Datum) : Except String (List Datum) :=
  let found : Datum :=
    if data.isMap then
      match data.get? "rules" with
      | some rules => if rules.isGiven then rules else .list []
      | none => .list [data]
    else if data matches .null then .list []
    else data
  match found.untied with
  | .list entries => .ok entries
  | other => .error other.typeName

/-- Why a document yields no rules at all. -/
inductive DocumentError where
  /-- It is no list of rules but has another type. -/
  | notList (typeName : String)
  /-- A number in it is beyond all range. -/
  | misfit (e : Misfit)
deriving DecidableEq, Repr

/-- The error in words; a value of the wrong type has none. -/
def DocumentError.message : DocumentError → String
  | notList typeName => s!"Expected a list of rules, got {typeName}"
  | misfit .infinite => "cannot convert float infinity to integer"
  | misfit .tooLarge => "int too large to convert to float"
  | misfit _ => ""

/-- Decodes a document. -/
def decodeRules (data : Datum) : List Event × Except DocumentError (List Rule) :=
  match entriesOf data with
  | .error typeName => ([], .error (.notList typeName))
  | .ok entries =>
    let d := decodeEntries entries
    (d.events, d.outcome.mapError .misfit)

end SecretScan
