import SecretScan.Proofs.Finding.Location
import SecretScan.Proofs.Scan.Account
import SecretScan.Scan.Collect

/-!
# Files next to each other

Scanning a file together with others should show what scanning it alone shows. What comes between
them are duplicates: locations are compared in a normal form that is made for web addresses, and a
path that holds a `?` or a `#` is cut there. Two files whose paths are the same up to there count as
one file fetched twice, and the later one does not report what the earlier one reports. That is all
that is lost (`scanBatch_apart`), so paths without these characters keep their findings.
-/

namespace SecretScan

variable {settings : BatchSettings} {rules : List CompiledRule}

theorem forwardOf_location {item : Item} :
    ∀ f ∈ forwardOf settings rules item, f.location = item.location :=
  putForward_location

/-- What is put forward by items with other locations lies elsewhere. -/
theorem location_of_forwardOf {items : List Item} {fs : List Finding}
    (hfs : fs.Sublist (items.flatMap (forwardOf settings rules))) :
    ∀ f ∈ fs, f.location ∈ items.map Item.location := by
  intro f hf
  obtain ⟨item, hitem, hf⟩ := List.mem_flatMap.mp (hfs.subset hf)
  exact List.mem_map.mpr ⟨item, hitem, (forwardOf_location f hf).symm⟩

/-- **An item reports what it reports alone, but for what an earlier item reports.** -/
theorem kept_apart {before after : List Item} {item : Item}
    (hapart : ((before ++ item :: after).map Item.location).Nodup) {d alone : Division}
    (hd : Divides [] ((before ++ item :: after).flatMap (forwardOf settings rules)) d)
    (halone : Divides [] (forwardOf settings rules item) alone) :
    d.kept.filter (fun f => f.location = item.location) = alone.kept.filter fun f =>
      !(d.kept.filter fun g => g.location ∈ before.map Item.location).any (·.sameKey f) := by
  rw [List.map_append, List.map_cons, List.nodup_append] at hapart
  obtain ⟨-, hrest, hdisjoint⟩ := hapart
  have hbefore : item.location ∉ before.map Item.location :=
    fun h => hdisjoint _ h _ List.mem_cons_self rfl
  have hafter : item.location ∉ after.map Item.location := (List.nodup_cons.mp hrest).1
  -- what is reported comes from the items before, from this one and from those after it
  rw [List.flatMap_append, List.flatMap_cons] at hd
  obtain ⟨d₁, e, hd₁, he, hkept⟩ := hd.split
  obtain ⟨d₂, d₃, hd₂, hd₃, hkept'⟩ := he.split
  have h₁ := location_of_forwardOf hd₁.kept_sublist
  have h₂ : ∀ f ∈ d₂.kept, f.location = item.location :=
    fun f hf => forwardOf_location f (hd₂.kept_sublist.subset hf)
  have h₃ := location_of_forwardOf hd₃.kept_sublist
  -- the three parts of the report tell each other apart by their locations
  have hitem : d.kept.filter (fun f => f.location = item.location) = d₂.kept := by
    have hnone₁ : d₁.kept.filter (fun f => f.location = item.location) = [] := by
      refine List.filter_eq_nil_iff.mpr fun f hf heq => hbefore ?_
      exact of_decide_eq_true heq ▸ h₁ f hf
    have hnone₃ : d₃.kept.filter (fun f => f.location = item.location) = [] := by
      refine List.filter_eq_nil_iff.mpr fun f hf heq => hafter ?_
      exact of_decide_eq_true heq ▸ h₃ f hf
    rw [hkept, hkept', List.filter_append, List.filter_append, hnone₁, hnone₃, List.nil_append,
      List.append_nil]
    exact List.filter_eq_self.mpr fun f hf => decide_eq_true (h₂ f hf)
  have hearlier : d.kept.filter (fun g => g.location ∈ before.map Item.location) = d₁.kept := by
    have hnone₂ : d₂.kept.filter (fun g => g.location ∈ before.map Item.location) = [] := by
      refine List.filter_eq_nil_iff.mpr fun f hf hin => hbefore ?_
      exact h₂ f hf ▸ of_decide_eq_true hin
    have hnone₃ : d₃.kept.filter (fun g => g.location ∈ before.map Item.location) = [] := by
      refine List.filter_eq_nil_iff.mpr fun f hf hin => ?_
      exact hdisjoint _ (of_decide_eq_true hin) _ (List.mem_cons_of_mem _ (h₃ f hf)) rfl
    rw [hkept, hkept', List.filter_append, List.filter_append, hnone₂, hnone₃, List.append_nil,
      List.append_nil]
    exact List.filter_eq_self.mpr fun f hf => decide_eq_true (h₁ f hf)
  rw [hitem, hearlier]
  refine halone.kept_of_more_seen hd₂ fun key => ?_
  exact hd₁.mem_seen_iff key

/-- Where the locations of earlier items have other normal forms, nothing is hidden. -/
theorem filter_of_normalize_ne {fs earlier : List Finding} {before : List Item} {item : Item}
    (hfs : ∀ f ∈ fs, f.location = item.location)
    (hearlier : ∀ g ∈ earlier, g.location ∈ before.map Item.location)
    (hne : ∀ other ∈ before,
      Location.normalize other.location ≠ Location.normalize item.location) :
    (fs.filter fun f => !earlier.any (·.sameKey f)) = fs := by
  rw [List.filter_eq_self]
  intro f hf
  rw [Bool.not_eq_true', List.any_eq_false]
  intro g hg hsame
  obtain ⟨other, hother, hlocation⟩ := List.mem_map.mp (hearlier g hg)
  refine hne other hother ?_
  rw [hlocation, Finding.normalize_of_sameKey hsame, hfs f hf]

/-- A path that is not cut when it is brought into normal form. -/
def Location.IsUncut (t : Text) : Prop :=
  Location.IsPath t ∧ '?' ∉ t ∧ '#' ∉ t
deriving Decidable

/--
**Files next to each other.**

Let files with different paths be scanned in a batch that is not told to stop. What is reported of a
file is what is reported of it when it is scanned alone, less what has the same rule and text as a
finding reported in an earlier file whose path has the same normal form. So nothing is missing if
no earlier path has the same normal form, and that is so if no path holds a `?`, a `#` or what looks
like the beginning of an authority.
-/
theorem scanBatch_apart (fs : Files) (paths : List Path) (settings : BatchSettings)
    (rules : List CompiledRule) (hapart : ((collect fs paths).1.map Item.location).Nodup)
    (hquiet : Undisturbed settings rules (collect fs paths).1) :
    ∃ r, (scanBatch settings rules (collect fs paths).1).1 = .ok r
      ∧ ∀ before item after, (collect fs paths).1 = before ++ item :: after →
        ∃ alone, (scanBatch settings rules [item]).1 = .ok alone
          ∧ (let earlier := r.findings.filter fun g => g.location ∈ before.map Item.location
            r.findings.filter (fun f => f.location = item.location)
              = alone.findings.filter fun f => !earlier.any (·.sameKey f))
          ∧ ((∀ other ∈ before,
              Location.normalize other.location ≠ Location.normalize item.location) →
            r.findings.filter (fun f => f.location = item.location) = alone.findings)
          ∧ ((∀ other ∈ before ++ [item], Location.IsUncut other.location) →
            r.findings.filter (fun f => f.location = item.location) = alone.findings) := by
  generalize (collect fs paths).1 = items at hapart hquiet ⊢
  obtain ⟨r, d, hr, hd, hfindings⟩ := exists_findings_of_quiet hquiet
  refine ⟨r, hr, ?_⟩
  rintro before item after rfl
  have hquiet' : Undisturbed settings rules [item] :=
    hquiet.of_mem (List.mem_append_right before List.mem_cons_self)
  obtain ⟨alone, e, halone, he, hfindings'⟩ := exists_findings_of_quiet hquiet'
  rw [List.flatMap_singleton] at he
  have hkept := kept_apart hapart hd he
  rw [← hfindings, ← hfindings'] at hkept
  have hall : (∀ other ∈ before,
      Location.normalize other.location ≠ Location.normalize item.location) →
        r.findings.filter (fun f => f.location = item.location) = alone.findings := by
    intro hne
    rw [hkept]
    refine filter_of_normalize_ne (fun f hf => ?_) (fun g hg => ?_) hne
    · rw [hfindings'] at hf
      exact forwardOf_location f (he.kept_sublist.subset hf)
    · exact of_decide_eq_true (List.mem_filter.mp hg).2
  refine ⟨alone, halone, hkept, hall, fun huncut => hall fun other hother heq => ?_⟩
  -- paths that are not cut are their own normal forms
  obtain ⟨hpath, hquery, hfragment⟩ := huncut other (List.mem_append_left _ hother)
  obtain ⟨hpath', hquery', hfragment'⟩ := huncut item (List.mem_append_right _ List.mem_cons_self)
  rw [Location.normalize_of_plain hpath hquery hfragment,
    Location.normalize_of_plain hpath' hquery' hfragment'] at heq
  rw [List.map_append, List.map_cons, List.nodup_append] at hapart
  exact hapart.2.2 _ (List.mem_map_of_mem hother) _ List.mem_cons_self (Except.ok.inj heq)

/-- The items that two files of a folder make. Both hold the same secret. -/
def twinItems (name name' : String) : List Item :=
  let content : Bytes := Utf8.encode "k12".toList
  let folder : Path := .ofText "/d".toList
  (collect (.ofTree folder (.folder [(name.toList, .file content), (name'.toList, .file content)]))
    [folder.child name.toList, folder.child name'.toList]).1

/-- Files with plain names are not taken for each other. -/
theorem scanBatch_apart_plain :
    let rules := (compileAll [.ofPattern "key" "Key" "k[0-9]+".toList]).1.rules.entries
    let items := twinItems "a" "b"
    (items.map Item.location).Nodup ∧ Undisturbed .default rules items
      ∧ ∃ r alone, (scanBatch .default rules items).1 = .ok r
        ∧ (scanBatch .default rules (items.drop 1)).1 = .ok alone
        ∧ r.findings.filter (fun f => f.location = "/d/b".toList) = alone.findings := by
  intro rules items
  have hapart : (items.map Item.location).Nodup := by decide +kernel
  have hquiet : Undisturbed .default rules items := by decide +kernel
  obtain ⟨r, hr, hfiles⟩ := scanBatch_apart _ _ .default rules hapart hquiet
  have hsplit : items = items.take 1 ++ ⟨"k12".toList, "/d/b".toList⟩ :: [] := by decide +kernel
  have hlast : items.drop 1 = [⟨"k12".toList, "/d/b".toList⟩] := by decide +kernel
  obtain ⟨alone, halone, -, -, huncut⟩ := hfiles _ _ _ hsplit
  rw [← hlast] at halone
  exact ⟨hapart, hquiet, r, alone, hr, halone, huncut (by decide +kernel)⟩

/--
**A file may hide the findings of another one.**

The names differ behind a `?` only. Scanned alone, the second file reports its secret; scanned after
the first one, it does not.
-/
theorem scanBatch_apart_cut :
    let rules := (compileAll [.ofPattern "key" "Key" "k[0-9]+".toList]).1.rules.entries
    let settings : BatchSettings :=
      { BatchSettings.default with options := { Options.default with measure := none } }
    let items := twinItems "a?1" "a?2"
    let reported (items : List Item) :=
      (scanBatch settings rules items).1.toOption.map fun r => r.findings.map Finding.location
    (items.map Item.location).Nodup ∧ Undisturbed settings rules items
      ∧ reported items = some ["/d/a?1".toList]
      ∧ reported (items.drop 1) = some ["/d/a?2".toList] := by
  decide +kernel

end SecretScan
