import SecretScan.Proofs.Settings.Schema

/-!
# What a settings file holds beyond the schema

Keys that the schema does not know may stand anywhere in a settings file. Without them
(`Datum.knownPart`) it holds the same settings, or none for the same reason (`ofDatum_knownPart`).
-/

namespace SecretScan

variable {file : Datum} {name : String}

namespace Datum

/-- A table without the entries whose keys are none of `names`. -/
def keep (names : List String) : Datum → Datum
  | map entries => map (entries.filter fun entry => names.any entry.1.isText)
  | d => d

/-- What is kept is found as before. -/
theorem get?_keep {names : List String} {table : Datum} (hname : name ∈ names) :
    (table.keep names).get? name = table.get? name := by
  cases table with
  | map entries =>
      show ((entries.filter _).find? fun entry => entry.1.isText name).map Prod.snd
        = (entries.find? fun entry => entry.1.isText name).map Prod.snd
      rw [List.find?_filter]
      congr 2
      funext entry
      rw [Bool.eq_iff_iff, decide_eq_true_iff]
      exact ⟨And.right, fun h => ⟨List.any_eq_true.mpr ⟨name, hname, h⟩, h⟩⟩
  | _ => rfl

theorem setting_keep {names : List String} {table usual : Datum} (hname : name ∈ names) :
    (table.keep names).setting name usual = table.setting name usual := by
  rw [setting, setting, get?_keep hname]

end Datum

/-- The keys that are known in a part of a settings file. -/
def knownNames (part : String) : List String :=
  (if part = "output" then ["format"] else [])
    ++ (schema.filter fun f => f.part = part).map Setting.name

/-- The keys that are known in a settings file, with what is kept of their values. -/
def knownKeys : List (String × (Datum → Datum)) :=
  ("version", id)
    :: ["scan", "scoring", "rules", "output", "logging"].map fun part =>
      (part, Datum.keep (knownNames part))

/-- What is kept of an entry of a settings file. -/
def keepKnown? (entry : Datum × Datum) : Option (Datum × Datum) :=
  (knownKeys.find? fun known => entry.1.isText known.1).map fun known =>
    (entry.1, known.2 entry.2)

/-- A settings file without all that is not known. -/
def Datum.knownPart (file : Datum) : Datum :=
  match file.untied with
  | map entries => map (entries.filterMap keepKnown?)
  | _ => file

theorem find?_keepKnown {change : Datum → Datum} (entries : List (Datum × Datum))
    (hknown : knownKeys.find? (fun known => (Datum.text name.toList).isText known.1)
      = some (name, change)) :
    (entries.filterMap keepKnown?).find? (fun entry => entry.1.isText name)
      = (entries.find? fun entry => entry.1.isText name).map fun entry =>
          (entry.1, change entry.2) := by
  induction entries with
  | nil => rfl
  | cons entry entries ih =>
      by_cases hkey : entry.1.isText name = true
      · have hentry : keepKnown? entry = some (entry.1, change entry.2) := by
          rw [keepKnown?, Datum.isText_iff.mp hkey, hknown]
          rfl
        simp only [List.filterMap_cons_some hentry, List.find?_cons, hkey, Option.map_some]
      · have hskip (value : Datum) (rest : List (Datum × Datum)) :
            ((entry.1, value) :: rest).find? (fun entry => entry.1.isText name)
              = rest.find? fun entry => entry.1.isText name := by
          simp only [List.find?_cons, hkey]
        rw [hskip entry.2, ← ih, List.filterMap_cons]
        split
        · rfl
        · next kept hkept =>
            -- what is kept of an entry has its key
            obtain ⟨known, -, rfl⟩ := Option.map_eq_some_iff.mp hkept
            exact hskip _ _

theorem get?_knownPart {change : Datum → Datum}
    (hknown : knownKeys.find? (fun known => (Datum.text name.toList).isText known.1)
      = some (name, change)) :
    file.knownPart.get? name = (file.get? name).map change := by
  unfold Datum.knownPart
  split
  · next entries hentries =>
      have hget : file.get? name
          = (entries.find? fun entry => entry.1.isText name).map Prod.snd := by
        rw [Datum.get?, hentries]
      show ((entries.filterMap keepKnown?).find? fun entry => entry.1.isText name).map Prod.snd = _
      rw [hget, find?_keepKnown entries hknown, Option.map_map, Option.map_map]
      rfl
  · next hmap =>
      have hget : file.get? name = none := by
        unfold Datum.get?
        split
        · next entries hentries => exact absurd hentries (hmap entries)
        · rfl
      rw [hget, Option.map_none]

theorem section?_knownPart {names : List String}
    (hknown : knownKeys.find? (fun known => (Datum.text name.toList).isText known.1)
      = some (name, .keep names)) : section? file.knownPart name
        = (section? file name).map (.keep names) := by
  rw [section?, get?_knownPart hknown, section?]
  cases file.get? name with
  | none => rfl
  | some value => cases value <;> rfl

theorem ScanSettings.ofTable_keep (table : Datum) :
    ScanSettings.ofTable (table.keep (knownNames "scan")) = .ofTable table := by
  simp (disch := decide) only [ScanSettings.ofTable, Datum.setting_keep]

theorem RuleSettings.ofTable_keep (table : Datum) :
    RuleSettings.ofTable (table.keep (knownNames "rules")) = .ofTable table := by
  simp (disch := decide) only [RuleSettings.ofTable, Datum.setting_keep]

/-- **What a settings file holds beyond the schema does not matter.** -/
theorem ofDatum_knownPart (file : Datum) :
    Settings.ofDatum file.knownPart = Settings.ofDatum file := by
  have hversion (usual : Datum) :
      file.knownPart.setting "version" usual = file.setting "version" usual := by
    rw [Datum.setting, get?_knownPart rfl, Option.map_id]
    rfl
  unfold Settings.ofDatum
  dsimp only
  -- part by part, in the order in which they are read
  rw [hversion]
  refine bind_congr fun version => ?_
  rw [section?_knownPart rfl, map_bind]
  refine bind_congr fun scan => ?_
  rw [section?_knownPart rfl, map_bind, ScanSettings.ofTable_keep]
  refine bind_congr fun scoring => ?_
  rw [section?_knownPart rfl, map_bind]
  refine bind_congr fun rules => ?_
  rw [section?_knownPart rfl, map_bind, RuleSettings.ofTable_keep]
  refine bind_congr fun output => ?_
  rw [section?_knownPart rfl, map_bind]
  refine bind_congr fun log => ?_
  simp (disch := decide) only [Datum.setting_keep]

end SecretScan
