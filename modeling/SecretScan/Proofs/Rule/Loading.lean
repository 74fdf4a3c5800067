import SecretScan.Proofs.Failure
import SecretScan.Rule.Registry

/-!
# When rules cannot be loaded

Files of rules are read one after the other, and the first one that cannot be used ends the loading.
For a file, a folder, a path and a registry there is a relation that says how it fails; each is what
the loading does (`loadFile_eq_error`, `loadEntries_eq_error`, `loadRules_eq_error`,
`build_eq_error`), whatever reads the documents.
-/

namespace SecretScan

variable {reader : DocumentReader}

/-! ## Files and folders -/

/-- How a file of rules fails. -/
inductive RuleFileFails (reader : DocumentReader) (path : Path) (content : Bytes) :
    LoadError → Prop where
  /-- It is not in UTF-8. -/
  | encoding {e : Utf8.DecodeError} : reader content = .error (.encoding e) →
      RuleFileFails reader path content (.encoding e)
  /-- It is not in YAML, or has a value that does not exist. -/
  | yaml {f : Yaml.Fault} : reader content = .error (.yaml f) →
      RuleFileFails reader path content (.yaml path.toText f)
  /-- It holds no list of rules. -/
  | notList {data : Datum} {typeName : String} : reader content = .ok data →
      entriesOf data = .error typeName →
      RuleFileFails reader path content (.document (.notList typeName))
  /-- A number in one of its entries is beyond all range. -/
  | misfit {data : Datum} {entries : List Datum} {e : Misfit} : reader content = .ok data →
      entriesOf data = .ok entries → (decodeEntries entries).outcome = .error e →
      RuleFileFails reader path content (.document (.misfit e))

theorem decodeRules_eq_error {data : Datum} {e : DocumentError} :
    (decodeRules data).2 = .error e ↔
      (∃ typeName, entriesOf data = .error typeName ∧ .notList typeName = e)
      ∨ ∃ entries e', entriesOf data = .ok entries ∧ (decodeEntries entries).outcome = .error e'
        ∧ .misfit e' = e := by
  unfold decodeRules
  split
  · next typeName h => simp [h]
  · next entries h => simp [h, mapError_eq_error]

theorem loadFile_eq_error {path : Path} {content : Bytes} {e : LoadError} :
    (loadFile reader path content).2 = .error e ↔ RuleFileFails reader path content e := by
  unfold loadFile
  constructor
  · intro h
    split at h
    · next fault hread =>
        cases h
        cases fault with
        | encoding e => exact .encoding hread
        | yaml f => exact .yaml hread
    next data hread =>
    obtain ⟨e', hrules, rfl⟩ := mapError_eq_error.mp h
    rcases decodeRules_eq_error.mp hrules with ⟨_, hentries, rfl⟩ | ⟨_, _, hentries, hmisfit, rfl⟩
    · exact .notList hread hentries
    · exact .misfit hread hentries hmisfit
  · rintro (hread | hread | ⟨hread, hentries⟩ | ⟨hread, hentries, hmisfit⟩)
    · rw [hread]
      rfl
    · rw [hread]
      rfl
    · rw [hread]
      have hrules := decodeRules_eq_error.mpr (.inl ⟨_, hentries, rfl⟩)
      exact mapError_eq_error.mpr ⟨_, hrules, rfl⟩
    · rw [hread]
      have hrules := decodeRules_eq_error.mpr (.inr ⟨_, _, hentries, hmisfit, rfl⟩)
      exact mapError_eq_error.mpr ⟨_, hrules, rfl⟩

/-- How an entry of a folder of rules fails. -/
inductive RuleEntryFails (reader : DocumentReader) (path : Path) :
    Text × FileTree → LoadError → Prop where
  /-- As a file does. -/
  | file {name : Text} {content : Bytes} {e : LoadError} :
      RuleFileFails reader (path.child name) content e →
      RuleEntryFails reader path (name, .file content) e
  /-- It is a folder itself. -/
  | folder {name : Text} {entries : List (Text × FileTree)} :
      RuleEntryFails reader path (name, .folder entries) (.isFolder (path.child name).toText)

/-- The rules of an entry of a folder of rules. -/
def loadEntry (reader : DocumentReader) (path : Path) : Text × FileTree → Loading
  | (name, .file content) => loadFile reader (path.child name) content
  | (name, .folder _) => ([], .error (.isFolder (path.child name).toText))

theorem loadEntry_eq_error {path : Path} {entry : Text × FileTree} {e : LoadError} :
    (loadEntry reader path entry).2 = .error e ↔ RuleEntryFails reader path entry e := by
  obtain ⟨name, t⟩ := entry
  cases t with
  | file content =>
      refine loadFile_eq_error.trans ⟨.file, fun h => ?_⟩
      cases h
      assumption
  | folder entries =>
      constructor
      · intro h
        cases h
        exact .folder
      · intro h
        cases h
        rfl

theorem loadEntries_cons (path : Path) (entry : Text × FileTree)
    (entries : List (Text × FileTree)) :
    (loadEntries reader path (entry :: entries)).2
      = (loadEntry reader path entry).2 >>= fun rules =>
        (loadEntries reader path entries).2.map (rules ++ ·) := by
  obtain ⟨name, t⟩ := entry
  cases t with
  | file content =>
      rw [loadEntries.eq_def, loadEntry]
      dsimp only
      generalize loadFile reader (path.child name) content = loaded
      obtain ⟨events, rules⟩ := loaded
      cases rules <;> rfl
  | folder inner => rfl

theorem loadEntries_eq_error {path : Path} {entries : List (Text × FileTree)} {e : LoadError} :
    (loadEntries reader path entries).2 = .error e ↔
      FirstFails (RuleEntryFails reader path) entries e := by
  induction entries with
  | nil => exact ⟨nofun, fun h => absurd h FirstFails.not_nil⟩
  | cons entry entries ih =>
      rw [loadEntries_cons]
      exact FirstFails.bind_iff (fun _ => loadEntry_eq_error) fun _ _ => map_eq_error.trans ih

/-- How the rules at a path fail. -/
inductive RulesFail (reader : DocumentReader) (fs : Files) (path : Path) : LoadError → Prop where
  /-- The path cannot be looked at, or there is a folder that may not be entered. -/
  | barred {e : AccessError} : fs.readBar? path = some e → RulesFail reader fs path (.barred e)
  /-- There is nothing. -/
  | notFound : fs.readBar? path = none → fs.find? path = none →
      RulesFail reader fs path (.notFound path.toText)
  /-- There is a file that fails. -/
  | file {content : Bytes} {e : LoadError} : fs.readBar? path = none →
      fs.find? path = some (.file content) → RuleFileFails reader path content e →
      RulesFail reader fs path e
  /-- There is a folder, and the first of its rule files that fails does so. -/
  | folder {entries : List (Text × FileTree)} {e : LoadError} : fs.readBar? path = none →
      fs.find? path = some (.folder entries) →
      FirstFails (RuleEntryFails reader path)
        (FileTree.sorted (entries.filter fun (name, _) => isRuleFile name)) e →
      RulesFail reader fs path e

theorem loadRules_eq_error {fs : Files} {path : Path} {e : LoadError} :
    (loadRules fs path reader).2 = .error e ↔ RulesFail reader fs path e := by
  unfold loadRules
  constructor
  · intro h
    split at h
    · next hbar =>
        cases h
        exact .barred hbar
    · next hbar hfind => exact .file hbar hfind (loadFile_eq_error.mp h)
    · next hbar hfind => exact .folder hbar hfind (loadEntries_eq_error.mp h)
    · next hbar hfind =>
        cases h
        exact .notFound hbar hfind
  · rintro (hbar | ⟨hbar, hfind⟩ | ⟨hbar, hfind, hfile⟩ | ⟨hbar, hfind, hentries⟩)
    · rw [hbar]
    · rw [hbar, hfind]
    · rw [hbar, hfind]
      exact loadFile_eq_error.mpr hfile
    · rw [hbar, hfind]
      exact loadEntries_eq_error.mpr hentries

/-! ## Registries -/

/-- How a path of rules fails, which begins in the home folder. -/
inductive RulePathFails (reader : DocumentReader) (fs : Files) :
    Option Path → BuildError → Prop where
  /-- It is no text. -/
  | notText : RulePathFails reader fs none .wrongType
  /-- The rules there fail. -/
  | load {path : Path} {e : LoadError} : RulesFail reader fs (fs.home.append path) e →
      RulePathFails reader fs (some path) (.load e)

namespace Registry

/-- The registry with the rules of a path. -/
def loadPath (reader : DocumentReader) (r : Registry) (fs : Files) :
    Option Path → Except BuildError (Nat × Registry)
  | none => .error .wrongType
  | some path => (r.load fs (fs.home.append path) reader).2.mapError .load

theorem loadPath_eq_error {r : Registry} {fs : Files} {path : Option Path} {e : BuildError} :
    loadPath reader r fs path = .error e ↔ RulePathFails reader fs path e := by
  cases path with
  | none =>
      constructor
      · intro h
        cases h
        exact .notText
      · intro h
        cases h
        rfl
  | some path =>
      rw [loadPath, mapError_eq_error, load]
      simp only [map_eq_error, loadRules_eq_error]
      constructor
      · rintro ⟨e', h, rfl⟩
        exact .load h
      · intro h
        cases h
        exact ⟨_, by assumption, rfl⟩

theorem loadAll_cons (r : Registry) (fs : Files) (path : Option Path)
    (paths : List (Option Path)) :
    (loadAll reader r fs (path :: paths)).2
      = loadPath reader r fs path >>= fun loaded => (loadAll reader loaded.2 fs paths).2 := by
  cases path with
  | none => rfl
  | some path =>
      rw [loadAll.eq_def, loadPath]
      dsimp only
      generalize r.load fs (fs.home.append path) reader = loaded
      obtain ⟨events, rules⟩ := loaded
      cases rules <;> rfl

theorem loadAll_eq_error {r : Registry} {fs : Files} {paths : List (Option Path)}
    {e : BuildError} :
    (loadAll reader r fs paths).2 = .error e ↔ FirstFails (RulePathFails reader fs) paths e := by
  induction paths generalizing r with
  | nil => exact ⟨nofun, fun h => absurd h FirstFails.not_nil⟩
  | cons path paths ih =>
      rw [loadAll_cons]
      exact FirstFails.bind_iff (fun _ => loadPath_eq_error) fun _ _ => ih

end Registry

/-- The registry that settings ask for before any rules are loaded. -/
def Registry.base (s : RuleSettings) : Registry :=
  if s.builtin.isGiven then empty.registerAll Builtin.rules else empty

/-- How the making of a registry fails. -/
inductive RegistryFails (reader : DocumentReader) (fs : Files) (s : RuleSettings)
    (further : List Path) : BuildError → Prop where
  /-- The paths in the settings are no list. -/
  | paths : s.paths.paths? = none → RegistryFails reader fs s further .wrongType
  /-- The first path that fails does so, those in the settings first. -/
  | rules {paths : List (Option Path)} {e : BuildError} : s.paths.paths? = some paths →
      FirstFails (RulePathFails reader fs) (paths ++ further.map some) e →
      RegistryFails reader fs s further e
  /-- The settings cannot be asked whether a rule is on. -/
  | names {paths : List (Option Path)} {r : Registry} : s.paths.paths? = some paths →
      (Registry.loadAll reader (.base s) fs (paths ++ further.map some)).2 = .ok r →
      (r.select s).2 = false → RegistryFails reader fs s further .wrongType

/-- **A registry cannot be made for one of these reasons and for no other.** -/
theorem build_eq_error {fs : Files} {s : RuleSettings} {further : List Path} {e : BuildError} :
    (Registry.build fs s further reader).2 = .error e ↔ RegistryFails reader fs s further e := by
  unfold Registry.build
  dsimp only
  split
  · next hpaths =>
      constructor
      · intro h
        cases h
        exact .paths hpaths
      · intro h
        cases h with
        | paths => rfl
        | rules h => exact nomatch hpaths.symm.trans h
        | names h => exact nomatch hpaths.symm.trans h
  next paths hpaths =>
  show ((Registry.loadAll reader (.base s) fs (paths ++ further.map some)).2 >>= _) = .error e ↔ _
  rw [bind_eq_error, Registry.loadAll_eq_error]
  constructor
  · rintro (hfirst | ⟨r, hr, h⟩)
    · exact .rules hpaths hfirst
    · split at h
      · cases h
      · next hselect =>
          cases h
          exact .names hpaths hr (by rw [hselect])
  · intro h
    cases h with
    | paths h => exact nomatch hpaths.symm.trans h
    | rules h hfirst =>
        obtain rfl := Option.some.inj (hpaths.symm.trans h)
        exact .inl hfirst
    | @names _ r h hr hselect =>
        obtain rfl := Option.some.inj (hpaths.symm.trans h)
        refine .inr ⟨r, hr, ?_⟩
        split
        · next heq =>
            rw [heq] at hselect
            cases hselect
        · rfl

end SecretScan
