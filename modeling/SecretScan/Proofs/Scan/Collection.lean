import Mathlib.Data.List.Lex
import SecretScan.Proofs.File.Tree
import SecretScan.Scan.Collect

/-!
# What is collected for a scan

The files below a path are those that the tree holds there, less those that are in a passed folder
(`mem_filesAt`). Which folders are passed is asked of the way down from the path only, so the path
itself may lead into such a folder. A folder is gone through in the order of its names, and all
below one entry comes before all below the next one; the files stand therefore in the order of the
names that lead to them, which also keeps each of them from standing there twice
(`pairwise_filesAt`).
-/

namespace SecretScan

/-- Whether there is a zero byte near the beginning. -/
def HoldsZero (content : Bytes) : Prop :=
  ∃ i, i < 8192 ∧ content[i]? = some 0

theorem isBinary_iff {content : Bytes} : isBinary content = true ↔ HoldsZero content := by
  rw [isBinary, List.contains_iff_mem, List.mem_iff_getElem?, sniffed]
  refine exists_congr fun i => ?_
  rw [List.getElem?_take]
  by_cases hi : i < 8192
  · rw [if_pos hi, and_iff_right hi]
  · rw [if_neg hi]
    exact iff_of_false nofun fun h => hi h.1

instance : DecidablePred HoldsZero :=
  fun _ => decidable_of_iff _ isBinary_iff

/-- The files at and below a path. -/
def Files.below (fs : Files) (path : Path) : List Located :=
  match fs.find? path with
  | some t => filesAt path t
  | none => []

variable {path : Path} {entries : List (Text × FileTree)} {t : FileTree} {names : List Text}
  {name : Text} {content : Bytes} {f : Located}

/-! ## What is below a path -/

theorem filesOf_eq : filesOf path entries
    = entries.map fun e => (e.1, if isPassed e.1 e.2 then [] else filesAt (path.child e.1) e.2) := by
  induction entries with
  | nil => rfl
  | cons e entries ih => rw [filesOf, ih, List.map_cons]

theorem filesOf_names : (filesOf path entries).map Prod.fst = entries.map Prod.fst := by
  rw [filesOf_eq, List.map_map]
  rfl

theorem mem_sorted_filesOf {part : Text × List Located} :
    part ∈ FileTree.sorted (filesOf path entries) ↔ ∃ e ∈ entries,
      (e.1, if isPassed e.1 e.2 then [] else filesAt (path.child e.1) e.2) = part := by
  rw [FileTree.perm_sorted.mem_iff, filesOf_eq, List.mem_map]

/-- What is in a part is below the entry that makes the part. -/
theorem exists_entry {part : Text × List Located}
    (hpart : part ∈ FileTree.sorted (filesOf path entries)) (hf : f ∈ part.2) :
    ∃ e ∈ entries, e.1 = part.1 ∧ isPassed e.1 e.2 = false
      ∧ f ∈ filesAt (path.child e.1) e.2 := by
  obtain ⟨e, he, rfl⟩ := mem_sorted_filesOf.mp hpart
  cases hpassed : isPassed e.1 e.2 with
  | true =>
      rw [hpassed] at hf
      cases hf
  | false =>
      rw [hpassed] at hf
      exact ⟨e, he, rfl, hpassed, hf⟩

theorem mem_filesAt_folder : f ∈ filesAt path (.folder entries) ↔
    ∃ e ∈ entries, isPassed e.1 e.2 = false ∧ f ∈ filesAt (path.child e.1) e.2 := by
  rw [filesAt, List.mem_flatMap]
  constructor
  · rintro ⟨part, hpart, hf⟩
    obtain ⟨e, he, -, hentry⟩ := exists_entry hpart hf
    exact ⟨e, he, hentry⟩
  · rintro ⟨e, he, hpassed, hf⟩
    refine ⟨_, mem_sorted_filesOf.mpr ⟨e, he, rfl⟩, ?_⟩
    rw [hpassed]
    exact hf

/-- Only folders are passed over, and a way ends at a file: the last name on it does not count. -/
theorem isPassed_iff (h : t.Holds names content) :
    (isPassed name t = false ∧ ∀ folder ∈ names.dropLast, folder ∉ passedFolders) ↔
      ∀ folder ∈ (name :: names).dropLast, folder ∉ passedFolders := by
  cases h with
  | here => simp [isPassed, FileTree.isFolder]
  | inside _ _ =>
      rw [List.dropLast_cons_cons, List.forall_mem_cons]
      simp [isPassed, FileTree.isFolder]

theorem mem_filesAt : f ∈ filesAt path t ↔
    ∃ names, f.1 = path.extend names ∧ t.Holds names f.2 ∧
      ∀ folder ∈ names.dropLast, folder ∉ passedFolders := by
  induction t using FileTree.induction generalizing path with
  | file content =>
      rw [filesAt, List.mem_singleton]
      constructor
      · rintro rfl
        exact ⟨[], by simp [Path.extend], .here, nofun⟩
      · rintro ⟨names, hpath, hholds, -⟩
        cases hholds
        exact Prod.ext (by simpa [Path.extend] using hpath) rfl
  | folder entries ih =>
      rw [mem_filesAt_folder]
      constructor
      · rintro ⟨e, he, hpassed, hf⟩
        obtain ⟨names, hpath, hholds, hnames⟩ := (ih e he).mp hf
        rw [Path.extend_child] at hpath
        exact ⟨e.1 :: names, hpath, .inside he hholds, (isPassed_iff hholds).mp ⟨hpassed, hnames⟩⟩
      · rintro ⟨names, hpath, hholds, hnames⟩
        cases hholds with
        | @inside _ name inner names _ he hholds =>
            obtain ⟨hpassed, hnames⟩ := (isPassed_iff hholds).mpr hnames
            rw [← Path.extend_child] at hpath
            exact ⟨(name, inner), he, hpassed, (ih _ he).mpr ⟨names, hpath, hholds, hnames⟩⟩

/-! ## The order -/

/-- What is below one entry comes before what is below a later one. -/
theorem names_lt_of_mem {part part' : Text × List Located} {f g : Located}
    (hpart : part ∈ FileTree.sorted (filesOf path entries))
    (hpart' : part' ∈ FileTree.sorted (filesOf path entries)) (hlt : part.1 < part'.1)
    (hf : f ∈ part.2) (hg : g ∈ part'.2) : f.1.names < g.1.names := by
  have hbelow : ∀ {part : Text × List Located} {f : Located},
      part ∈ FileTree.sorted (filesOf path entries) → f ∈ part.2 →
      ∃ names, f.1.names = path.names ++ part.1 :: names := by
    intro part f hpart hf
    obtain ⟨e, -, hname, -, hentry⟩ := exists_entry hpart hf
    obtain ⟨names, hpath, -⟩ := mem_filesAt.mp hentry
    rw [Path.extend_child, hname] at hpath
    exact ⟨names, congrArg Path.names hpath⟩
  obtain ⟨names, hnames⟩ := hbelow hpart hf
  obtain ⟨names', hnames'⟩ := hbelow hpart' hg
  rw [hnames, hnames']
  exact List.Lex.append_left _ (.rel hlt) _

/-- Files stand in the order of the names that lead to them. -/
theorem pairwise_filesAt (ht : t.Proper) :
    (filesAt path t).Pairwise fun f g => f.1.names < g.1.names := by
  induction t using FileTree.induction generalizing path with
  | file content => exact List.pairwise_singleton _ _
  | folder entries ih =>
      cases ht with
      | folder hdistinct hnames hentries =>
          rw [filesAt, List.pairwise_flatMap]
          constructor
          · intro part hpart
            obtain ⟨e, he, rfl⟩ := mem_sorted_filesOf.mp hpart
            dsimp only
            split
            · exact List.Pairwise.nil
            · exact ih e he (hentries e he)
          · have hdistinct : ((filesOf path entries).map Prod.fst).Nodup := by
              rw [filesOf_names]
              exact hdistinct
            refine (FileTree.pairwise_sorted hdistinct).imp_of_mem fun hpart hpart' hlt => ?_
            intro f hf g hg
            exact names_lt_of_mem hpart hpart' hlt hf hg

theorem nodup_filesAt (ht : t.Proper) : ((filesAt path t).map Prod.fst).Nodup := by
  refine List.pairwise_map.mpr ((pairwise_filesAt ht).imp fun {f g} hlt heq => ?_)
  rw [heq] at hlt
  exact List.lt_irrefl _ hlt

/-! ## Text and binary files -/

theorem collect_eq (fs : Files) (paths : List Path) : collect fs paths
    = (((paths.flatMap fs.below).filter fun f => ¬ HoldsZero f.2).map itemOf,
       ((paths.flatMap fs.below).filter fun f => HoldsZero f.2).map Prod.fst) := by
  have hbinary : ∀ f : Located, decide (HoldsZero f.2) = isBinary f.2 := by
    intro f
    rw [Bool.eq_iff_iff, decide_eq_true_eq, isBinary_iff]
  simp only [decide_not, hbinary]
  rfl

theorem mem_below {fs : Files} (h : f ∈ fs.below path) :
    ∃ t, fs.find? path = some t ∧ f ∈ filesAt path t := by
  unfold Files.below at h
  split at h
  · next t hfind => exact ⟨t, hfind, h⟩
  · cases h

variable {home : Path} {tree : FileTree}

/-- A file that is collected is what stands at its path. -/
theorem file?_of_mem_below (hhome : home.isAbsolute = true) (htree : tree.Proper)
    (h : f ∈ (Files.ofTree home tree).below path) :
    (Files.ofTree home tree).file? f.1 = some f.2 := by
  obtain ⟨t, hfind, hf⟩ := mem_below h
  obtain ⟨names, hpath, hholds, -⟩ := mem_filesAt.mp hf
  rw [hpath]
  exact Files.file?_extend hhome htree hfind hholds

theorem isWritten_of_mem_below (htree : tree.Proper) (hpath : path.IsWritten)
    (h : f ∈ (Files.ofTree home tree).below path) : f.1.IsWritten := by
  obtain ⟨t, hfind, hf⟩ := mem_below h
  obtain ⟨names, hextend, hholds, -⟩ := mem_filesAt.mp hf
  rw [hextend]
  exact hpath.extend (hholds.isName (Files.proper_of_find? htree hfind))

/-- The written form of the path tells a collected file from all others. -/
theorem eq_of_toText {words : List Text} {g : Located} (hhome : home.isAbsolute = true)
    (htree : tree.Proper) (hf : f ∈ (words.map Path.ofText).flatMap (Files.ofTree home tree).below)
    (hg : g ∈ (words.map Path.ofText).flatMap (Files.ofTree home tree).below)
    (h : f.1.toText = g.1.toText) : f = g := by
  obtain ⟨path, hpath, hf⟩ := List.mem_flatMap.mp hf
  obtain ⟨path', hpath', hg⟩ := List.mem_flatMap.mp hg
  obtain ⟨word, -, rfl⟩ := List.mem_map.mp hpath
  obtain ⟨word', -, rfl⟩ := List.mem_map.mp hpath'
  have hlocation : f.1 = g.1 := by
    have hread := congrArg Path.ofText h
    rwa [Path.ofText_toText (isWritten_of_mem_below htree (Path.isWritten_ofText word) hf),
      Path.ofText_toText (isWritten_of_mem_below htree (Path.isWritten_ofText word') hg)] at hread
  have hcontent : some f.2 = some g.2 := by
    rw [← file?_of_mem_below hhome htree hf, ← file?_of_mem_below hhome htree hg, hlocation]
  exact Prod.ext hlocation (Option.some.inj hcontent)

/-- **All files are collected, and each once.** The files at and below a path are all that the tree
holds there, except for those below a folder with one of the passed names on the way down from the
path. They stand in the order of the names on the way to them, and no two stand at one path. Of the
files below all paths those with a zero byte near the beginning are passed over, the others are
items, in their order, and nothing is both. -/
theorem collect_complete {words : List Text} (hhome : home.isAbsolute = true)
    (htree : tree.Proper) :
    let fs := Files.ofTree home tree
    let files := (words.map Path.ofText).flatMap fs.below
    let items := (collect fs (words.map Path.ofText)).1
    let skipped := (collect fs (words.map Path.ofText)).2
    (∀ path t, fs.find? path = some t →
      (∀ f, f ∈ fs.below path ↔ ∃ names, f.1 = path.extend names ∧ t.Holds names f.2 ∧
        ∀ folder ∈ names.dropLast, folder ∉ passedFolders) ∧
      (fs.below path).Pairwise (fun f g => f.1.names < g.1.names) ∧
      ((fs.below path).map Prod.fst).Nodup) ∧
    items = (files.filter fun f => ¬ HoldsZero f.2).map itemOf ∧
    skipped = (files.filter fun f => HoldsZero f.2).map Prod.fst ∧
    ∀ item ∈ items, ∀ path ∈ skipped, item.location ≠ path.toText := by
  intro fs files
  rw [collect_eq]
  refine ⟨?_, rfl, rfl, ?_⟩
  · intro path t hfind
    have hbelow : fs.below path = filesAt path t := by rw [Files.below, hfind]
    have ht : t.Proper := Files.proper_of_find? htree hfind
    rw [hbelow]
    exact ⟨fun f => mem_filesAt, pairwise_filesAt ht, nodup_filesAt ht⟩
  · intro item hitem path hpath hlocation
    obtain ⟨f, hf, rfl⟩ := List.mem_map.mp hitem
    obtain ⟨g, hg, rfl⟩ := List.mem_map.mp hpath
    obtain ⟨hf, htext⟩ := List.mem_filter.mp hf
    obtain ⟨hg, hzero⟩ := List.mem_filter.mp hg
    obtain rfl := eq_of_toText hhome htree hf hg hlocation
    exact of_decide_eq_true htext (of_decide_eq_true hzero)

/-- A repository of which its own folder is scanned, with a file that has the name of a passed
folder and one that is not text. -/
def repository : FileTree :=
  .folder [(".git".toList, .folder [("hooks".toList, .folder [("a".toList, .file [65])]),
    ("node_modules".toList, .folder [("b".toList, .file [66])]),
    (".venv".toList, .file [67]), ("index".toList, .file [68, 0])])]

theorem repository_proper : repository.Proper := by
  have hfile : ∀ name content, ∀ e ∈ [((name : Text), FileTree.file content)], e.2.Proper := by
    intro name content e he
    obtain rfl := List.mem_singleton.mp he
    exact .file
  refine .folder (by decide) (by decide) (List.forall_mem_singleton.mpr ?_)
  refine .folder (by decide) (by decide) ?_
  simp only [List.forall_mem_cons, List.not_mem_nil, false_imp_iff, implies_true, and_true]
  exact ⟨.folder (by decide) (by decide) (hfile _ _), .folder (by decide) (by decide) (hfile _ _),
    .file, .file⟩

theorem collect_complete_repository :
    let home : Path := ⟨true, ["work".toList]⟩
    let fs := Files.ofTree home repository
    let path := Path.ofText ".git".toList
    home.isAbsolute = true ∧ repository.Proper ∧
      (path.extend ["hooks".toList, "a".toList], [65]) ∈ fs.below path ∧
      (path.extend [".venv".toList], [67]) ∈ fs.below path ∧
      (∀ content, (path.extend ["node_modules".toList, "b".toList], content) ∉ fs.below path) ∧
      path.extend ["index".toList] ∈ (collect fs [path]).2 := by
  intro home fs path
  have hall := @collect_complete home repository [".git".toList] rfl repository_proper
  obtain ⟨hbelow, -, hskipped, -⟩ := hall
  obtain ⟨hmem, -, -⟩ := hbelow path _ rfl
  refine ⟨rfl, repository_proper, (hmem _).mpr ⟨_, rfl, ?_, by decide⟩,
    (hmem _).mpr ⟨_, rfl, ?_, by decide⟩, ?_, ?_⟩
  · exact .inside (.head _) (.inside (.head _) .here)
  · exact .inside (.tail _ (.tail _ (.head _))) .here
  · intro content hmem'
    obtain ⟨names, hpath, -, hentered⟩ := (hmem _).mp hmem'
    obtain rfl := List.append_cancel_left (congrArg Path.names hpath)
    exact hentered "node_modules".toList (by decide) (by decide)
  · have hindex : (path.extend ["index".toList], [68, 0]) ∈ fs.below path :=
      (hmem _).mpr ⟨_, rfl, .inside (.tail _ (.tail _ (.tail _ (.head _)))) .here, by decide⟩
    have hfile := List.mem_flatMap.mpr ⟨path, List.mem_singleton_self path, hindex⟩
    exact hskipped ▸ List.mem_map_of_mem (List.mem_filter.mpr ⟨hfile, by decide⟩)

end SecretScan
