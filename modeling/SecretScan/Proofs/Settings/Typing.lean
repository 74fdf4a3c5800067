import SecretScan.Command.Outcome
import SecretScan.Proofs.Settings.Known
import SecretScan.Proofs.Settings.Loading

/-!
# What comes of a settings file

A run has settings or it is explained why not; `load_typed` tells what the types of the settings
are then, and where neither holds.
-/

namespace SecretScan

namespace Settings

variable {fs : Files} {asked : Option Text} {env : Environment} {file : Datum} {s s' : Settings}
  {name : String}

/-- What the settings file says; without one this is nothing. -/
inductive Reads (fs : Files) (asked : Option Text) : Datum → Prop where
  /-- There is no file. -/
  | nothing : find fs asked = .ok none → Reads fs asked (.map [])
  /-- There is one, and it is in TOML. -/
  | file {path : Path} {content : Bytes} {t : Text} {file : Datum} :
      find fs asked = .ok (some (path, content)) → Utf8.decode content = .ok t →
      Toml.read t = .ok file → Reads fs asked file

/-- The settings file holds something that cannot be made out. -/
inductive Illegible (fs : Files) (asked : Option Text) : Prop where
  /-- It is not in UTF-8. -/
  | encoding {path : Path} {content : Bytes} {e : Utf8.DecodeError} :
      find fs asked = .ok (some (path, content)) → Utf8.decode content = .error e →
      Illegible fs asked
  /-- A whole number in it has too many digits to be read. -/
  | tooManyDigits {path : Path} {content : Bytes} {t : Text} {count : Nat} :
      find fs asked = .ok (some (path, content)) → Utf8.decode content = .ok t →
      Toml.read t = .error (.tooManyDigits count) → Illegible fs asked
  /-- A whole number in the version has too many digits to be spelled. -/
  | version {file value : Datum} : Reads fs asked file → file.get? "version" = some value →
      value.spell? = none → Illegible fs asked
  /-- A whole number in place of the form of reports has too many digits to be spelled. -/
  | format {file value : Datum} : Reads fs asked file →
      (file.get? "output").bind (·.get? "format") = some value → value.spell? = none →
      Illegible fs asked

theorem load_of_reads (h : Reads fs asked file) :
    load fs asked env = ofDatum file >>= fun s => s.override env := by
  unfold load
  cases h with
  | nothing hfind =>
      rw [hfind]
      rfl
  | file hfind hdecode hread =>
      rw [hfind]
      show (ofFile _ _ >>= _) = _
      rw [ofFile, hdecode]
      dsimp only
      rw [hread]

theorem ofFile_eq_ok {path : Path} {content : Bytes} (h : ofFile path content = .ok s) :
    ∃ t file, Utf8.decode content = .ok t ∧ Toml.read t = .ok file ∧ ofDatum file = .ok s := by
  unfold ofFile at h
  split at h
  · cases h
  next t hdecode =>
  split at h
  · cases h
  · cases h
  · next file hread => exact ⟨t, file, hdecode, hread, h⟩

/-- Settings are what the file says, with what the environment says. -/
theorem load_eq_ok (h : load fs asked env = .ok s') :
    ∃ file s, Reads fs asked file ∧ ofDatum file = .ok s ∧ s.override env = .ok s' := by
  obtain ⟨found, hfind, h⟩ := bind_eq_ok.mp h
  cases found with
  | none => exact ⟨.map [], {}, .nothing hfind, rfl, h⟩
  | some found =>
      obtain ⟨s, hs, h⟩ := bind_eq_ok.mp h
      obtain ⟨t, file, hdecode, hread, hdatum⟩ := ofFile_eq_ok hs
      exact ⟨file, s, .file hfind hdecode hread, hdatum, h⟩

theorem version_explained {e : SettingsError} (hreads : Reads fs asked file)
    (h : VersionFails file e) : e.isExplained = true ∨ Illegible fs asked := by
  obtain ⟨hspell⟩ := h
  rw [Datum.setting] at hspell
  cases hvalue : file.get? "version" with
  | none =>
      rw [hvalue] at hspell
      cases hspell
  | some value =>
      rw [hvalue] at hspell
      exact .inr (.version hreads hvalue hspell)

theorem section_explained {e : SettingsError} (h : SectionFails file name e) :
    e.isExplained = true := by
  cases h
  rfl

theorem format_explained {e : SettingsError} (hreads : Reads fs asked file)
    (h : FormatFails file e) : e.isExplained = true ∨ Illegible fs asked := by
  obtain ⟨houtput, hnone⟩ := h
  rw [Datum.setting, get?_of_section houtput] at hnone
  cases hnone with
  | unknown => exact .inl rfl
  | notText => exact .inl rfl
  | tooManyDigits hne hspell =>
      cases hvalue : (file.get? "output").bind (·.get? "format") with
      | none =>
          rw [hvalue] at hne
          exact absurd rfl (hne _)
      | some value =>
          rw [hvalue] at hspell
          exact .inr (.format hreads hvalue hspell)

/-- What keeps a file from being settings is explained, unless it cannot be spelled. -/
theorem checks_explained {e : SettingsError} (hreads : Reads fs asked file)
    (h : FirstFails id (settingsChecks file) e) : e.isExplained = true ∨ Illegible fs asked := by
  obtain ⟨check, hmem, hcheck⟩ := h.exists_mem
  simp only [settingsChecks, List.mem_cons, List.not_mem_nil, or_false] at hmem
  -- only the first check and the last one spell something
  rcases hmem with rfl | rfl | rfl | rfl | rfl | rfl | rfl
  · exact version_explained hreads hcheck
  · exact .inl (section_explained hcheck)
  · exact .inl (section_explained hcheck)
  · exact .inl (section_explained hcheck)
  · exact .inl (section_explained hcheck)
  · exact .inl (section_explained hcheck)
  · exact format_explained hreads hcheck

/-- What keeps a run from having settings is explained, unless the path of the file cannot be looked
at, something in the file cannot be made out, or the environment finds no list. -/
theorem load_explained {e : SettingsError} (h : load fs asked env = .error e) :
    e.isExplained = true
      ∨ (∃ b, fs.bar? (place fs asked) = some b ∧ e = .barred b)
      ∨ Illegible fs asked
      ∨ ∃ s, Written fs asked s ∧ s.EnvironmentFails env := by
  cases load_eq_error.mp h with
  | barred hbar => exact .inr (.inl ⟨_, hbar, rfl⟩)
  | notFound => exact .inl rfl
  | file hfind hfile =>
      cases hfile with
      | encoding hdecode => exact .inr (.inr (.inl (.encoding hfind hdecode)))
      | malformed => exact .inl rfl
      | tooManyDigits hdecode hread =>
          exact .inr (.inr (.inl (.tooManyDigits hfind hdecode hread)))
      | invalid hdecode hread hfirst =>
          exact (checks_explained (.file hfind hdecode hread) hfirst).imp_right (.inr ∘ .inl)
  | environment hwritten henv => exact .inr (.inr (.inr ⟨_, hwritten, henv⟩))

/--
**What comes of a settings file.**

Either there are no settings, and it is explained why, unless the path of the file cannot be looked
at, the file holds something that cannot be made out, or the environment switches rules off while
the settings have no list of those that are off. Or there are some. Then the version is what the
file says, spelled out, and the form of reports is the one that it names, unless the environment
says another. Every other setting whose variable is not set has the value that the file gives it, or
else the usual one, and it has the type that it is declared with if what the file gives it has it.
In any case nothing depends on what the file holds beyond the schema.
-/
theorem load_typed (fs : Files) (asked : Option Text) (env : Environment) :
    ((∃ e, load fs asked env = .error e
          ∧ (e.isExplained = true
            ∨ (∃ b, fs.bar? (place fs asked) = some b ∧ e = .barred b)
            ∨ Illegible fs asked
            ∨ ∃ s, Written fs asked s ∧ s.EnvironmentFails env))
        ∨ ∃ s file, load fs asked env = .ok s ∧ Reads fs asked file
          ∧ (file.setting "version" (.text ({} : Settings).version)).spell? = some s.version
          ∧ (env.get? "SECRETLENS_FORMAT" = none →
            ((file.get? "output").bind (·.get? "format")).getD
              (.text ({} : Settings).output.format.name.toList) = .text s.output.format.name.toList)
          ∧ ∀ f ∈ schema,
            (f.isSet env = false → f.value s = f.written file)
            ∧ ((∀ value, f.inFile? file = some value → f.type.holds value = true) →
              f.type.holds (f.value s) = true))
      ∧ ∀ file, Reads fs asked file →
        load fs asked env = ofDatum file.knownPart >>= fun s => s.override env := by
  refine ⟨?_, fun file hreads => ?_⟩
  · cases hload : load fs asked env with
    | error e => exact .inl ⟨e, rfl, load_explained hload⟩
    | ok s' =>
        obtain ⟨file, s, hreads, hdatum, henv⟩ := load_eq_ok hload
        have htaken := takenFrom_ofDatum hdatum
        have hoverrides := overrides_override henv
        refine .inr ⟨s', file, rfl, hreads, ?_, fun hunset => ?_, fun f hf => ⟨fun hunset => ?_,
          fun hfile => hoverrides.typed f hf ?_⟩⟩
        · rw [hoverrides.version]
          exact htaken.version
        · rw [hoverrides.format hunset]
          exact htaken.format
        · rw [hoverrides.unset f hf hunset]
          exact htaken.value f hf
        · rw [htaken.value f hf]
          exact written_holds hf hfile
  · rw [ofDatum_knownPart]
    exact load_of_reads hreads

/-- A text in place of a number is taken as it is. One in place of a list stops the environment from
switching rules off, which is not explained, and neither are bytes that are no text or a name that
is too long. -/
theorem load_untyped :
    let folder (content : Bytes) : Files :=
      .ofTree (.ofText "/w".toList) (.folder [(fileName, .file content)])
    let isTypedOrExplained (content : Bytes) (asked : Option Text) (env : Environment) : Bool :=
      match load (folder content) asked env with
      | .ok s => schema.all fun f => f.type.holds (f.value s)
      | .error e => e.isExplained
    isTypedOrExplained (Utf8.encode "[scan]\ntimeout_ms = \"soon\"\n".toList) none [] = false
      ∧ isTypedOrExplained (Utf8.encode "[rules]\ndisable = \"a\"\n".toList) none
        [("SECRETLENS_DISABLE_RULES", "b".toList)] = false
      ∧ isTypedOrExplained [0xff] none [] = false
      ∧ isTypedOrExplained [] (some (List.replicate 256 'a')) [] = false := by
  dsimp only
  decide +kernel

end Settings

end SecretScan
