import Mathlib.Data.List.Nodup
import SecretScan.File.Tree
import SecretScan.Proofs.Text.Line

/-!
# What a file tree holds

What a file is found at can be said in two ways: by the names on the way down to it
(`FileTree.Holds`), or by a path that is followed from the folder in which relative paths begin
(`Files.file?`), which may go up as well. The second way goes on where the first one begins
(`walk_append`), so the two agree (`file?_extend`) as soon as every folder has one entry for each
name and names do not look like steps (`FileTree.Proper`). Names of that kind also make a path one
with its written form (`Path.ofText_toText`).
-/

namespace SecretScan

/-! ## Names -/

/-- A name that a file or folder may have. -/
def IsName (name : Text) : Prop :=
  name ≠ [] ∧ '/' ∉ name ∧ name ≠ ['.'] ∧ name ≠ "..".toList
deriving Decidable

theorem Text.atMost_iff {s t : Text} : s.atMost t = true ↔ s < t ∨ s = t := by
  induction s generalizing t with
  | nil =>
      cases t with
      | nil => simp [atMost]
      | cons d t => simp [atMost]
  | cons c s ih =>
      cases t with
      | nil => simp [atMost]
      | cons d t =>
          rw [atMost, List.cons_lt_cons_iff, List.cons.injEq]
          split
          · next hcd => simp [hcd, ih]
          · next hcd => simp [hcd, Char.lt_def, UInt32.lt_iff_toNat_lt]

theorem Text.atMost_trans {s t u : Text} (h : s.atMost t = true) (h' : t.atMost u = true) :
    s.atMost u = true := by
  rw [atMost_iff] at h h' ⊢
  rcases h with h | rfl
  · rcases h' with h' | rfl
    · exact .inl (List.lt_trans h h')
    · exact .inl h
  · exact h'

theorem Text.atMost_total (s t : Text) : (s.atMost t || t.atMost s) = true := by
  rw [Bool.or_eq_true, atMost_iff, atMost_iff]
  by_cases hlt : s < t
  · exact .inl (.inl hlt)
  · by_cases hgt : t < s
    · exact .inr (.inl hgt)
    · exact .inl (.inr (List.le_antisymm hgt hlt))

namespace FileTree

variable {α : Type} {entries : List (Text × α)}

theorem perm_sorted : (sorted entries).Perm entries :=
  List.mergeSort_perm _ _

/-- Entries with different names stand in the order of their names. -/
theorem pairwise_sorted (h : (entries.map Prod.fst).Nodup) :
    (sorted entries).Pairwise fun a b => a.1 < b.1 := by
  have htrans : ∀ a b c : Text × α, Text.atMost a.1 b.1 = true → Text.atMost b.1 c.1 = true →
      Text.atMost a.1 c.1 = true := fun _ _ _ => Text.atMost_trans
  have htotal : ∀ a b : Text × α, (Text.atMost a.1 b.1 || Text.atMost b.1 a.1) = true :=
    fun a b => Text.atMost_total a.1 b.1
  have hsorted : (sorted entries).Pairwise fun a b => Text.atMost a.1 b.1 = true :=
    List.pairwise_mergeSort htrans htotal entries
  have hdistinct : (sorted entries).Pairwise fun a b => a.1 ≠ b.1 :=
    List.pairwise_map.mp ((perm_sorted.map Prod.fst).nodup_iff.mpr h)
  refine (hsorted.and hdistinct).imp fun h => ?_
  exact (Text.atMost_iff.mp h.1).resolve_right h.2

theorem lookup_of_mem {name : Text} {a : α} (h : (entries.map Prod.fst).Nodup)
    (hmem : (name, a) ∈ entries) : entries.lookup name = some a := by
  induction entries with
  | nil => cases hmem
  | cons e entries ih =>
      obtain ⟨hhead, htail⟩ := List.nodup_cons.mp h
      rcases List.mem_cons.mp hmem with rfl | hmem
      · exact List.lookup_cons_self
      · have hne : name ≠ e.1 := fun heq => hhead (heq ▸ List.mem_map_of_mem hmem)
        rw [List.lookup_cons, beq_eq_false_iff_ne.mpr hne]
        exact ih htail hmem

theorem mem_of_lookup {name : Text} {a : α} (h : entries.lookup name = some a) :
    (name, a) ∈ entries := by
  induction entries with
  | nil => cases h
  | cons e entries ih =>
      rw [List.lookup_cons] at h
      by_cases heq : name = e.1
      · rw [beq_iff_eq.mpr heq] at h
        obtain rfl := Option.some.inj h
        exact heq ▸ List.mem_cons_self
      · rw [beq_eq_false_iff_ne.mpr heq] at h
        exact List.mem_cons_of_mem _ (ih h)

/-! ## Trees -/

/-- What holds of files, and of a folder as soon as it holds of what is in it, holds of all
trees. -/
@[elab_as_elim]
theorem induction {motive : FileTree → Prop} (file : ∀ content, motive (.file content))
    (folder : ∀ entries, (∀ e ∈ entries, motive e.2) → motive (.folder entries)) (t : FileTree) :
    motive t :=
  @FileTree.rec motive (fun entries => ∀ e ∈ entries, motive e.2) (fun e => motive e.2)
    file folder nofun (fun _ _ hhead htail => List.forall_mem_cons.mpr ⟨hhead, htail⟩)
    (fun _ _ h => h) t

/-- `t.Holds names content`: the way down along `names` leads to a file with `content`. -/
inductive Holds : FileTree → List Text → Bytes → Prop where
  | here {content : Bytes} : Holds (.file content) [] content
  | inside {entries : List (Text × FileTree)} {name : Text} {t : FileTree} {names : List Text}
      {content : Bytes} : (name, t) ∈ entries → Holds t names content →
      Holds (.folder entries) (name :: names) content

/-- In every folder the entries have names, and each has its own. -/
inductive Proper : FileTree → Prop where
  | file {content : Bytes} : Proper (.file content)
  | folder {entries : List (Text × FileTree)} : (entries.map Prod.fst).Nodup →
      (∀ e ∈ entries, IsName e.1) → (∀ e ∈ entries, Proper e.2) → Proper (.folder entries)

variable {t root : FileTree} {names : List Text} {content : Bytes} {above : List FileTree}

theorem Holds.isName (h : t.Holds names content) (ht : t.Proper) : ∀ name ∈ names, IsName name := by
  induction h with
  | here => nofun
  | inside hmem _ ih =>
      cases ht with
      | folder _ hnames hentries =>
          exact List.forall_mem_cons.mpr ⟨hnames _ hmem, ih (hentries _ hmem)⟩

theorem walk_up_nil {entries : List (Text × FileTree)} :
    walk [] (.folder entries) ("..".toList :: names) = none := by
  simp [walk]

theorem walk_up {entries : List (Text × FileTree)} {outer : FileTree} :
    walk (outer :: above) (.folder entries) ("..".toList :: names) = walk above outer names := by
  simp [walk]

theorem walk_down {entries : List (Text × FileTree)} {name : Text} (h : name ≠ "..".toList) :
    walk above (.folder entries) (name :: names)
      = (entries.lookup name).bind fun inner => walk (.folder entries :: above) inner names := by
  conv_lhs => unfold walk
  dsimp only
  rw [if_neg h]
  cases entries.lookup name with
  | none => rfl
  | some inner => rfl

/-- A file is found along the names on the way down to it, whatever is above. -/
theorem walk_of_holds (h : t.Holds names content) (ht : t.Proper) (above : List FileTree) :
    walk above t names = some (.file content) := by
  induction h generalizing above with
  | here => rfl
  | inside hmem _ ih =>
      cases ht with
      | folder hdistinct hnames hentries =>
          obtain ⟨-, -, -, hdown⟩ := hnames _ hmem
          rw [walk_down hdown, lookup_of_mem hdistinct hmem]
          exact ih (hentries _ hmem) _

/-- From what is found the way goes on. -/
theorem walk_append (h : walk above t names = some root) :
    ∃ around, ∀ more, walk above t (names ++ more) = walk around root more := by
  induction names generalizing above t with
  | nil =>
      obtain rfl := Option.some.inj h
      exact ⟨above, fun _ => rfl⟩
  | cons name names ih =>
      cases t with
      | file content => cases h
      | folder entries =>
          simp only [List.cons_append]
          by_cases hup : name = "..".toList
          · subst hup
            cases above with
            | nil =>
                rw [walk_up_nil] at h
                cases h
            | cons outer above =>
                rw [walk_up] at h
                simp only [walk_up]
                exact ih h
          · rw [walk_down hup] at h
            obtain ⟨inner, hlookup, h⟩ := Option.bind_eq_some_iff.mp h
            simp only [walk_down hup, hlookup, Option.bind_some]
            exact ih h

/-- What is found in a proper tree is proper. -/
theorem Proper.of_walk (ht : t.Proper) (habove : ∀ a ∈ above, a.Proper)
    (h : walk above t names = some root) : root.Proper := by
  induction names generalizing above t with
  | nil =>
      obtain rfl := Option.some.inj h
      exact ht
  | cons name names ih =>
      cases ht with
      | file => cases h
      | folder hdistinct hnames hentries =>
          by_cases hup : name = "..".toList
          · subst hup
            cases above with
            | nil =>
                rw [walk_up_nil] at h
                cases h
            | cons outer above =>
                obtain ⟨houter, habove⟩ := List.forall_mem_cons.mp habove
                rw [walk_up] at h
                exact ih houter habove h
          · rw [walk_down hup] at h
            obtain ⟨inner, hlookup, h⟩ := Option.bind_eq_some_iff.mp h
            exact ih (hentries _ (mem_of_lookup hlookup))
              (List.forall_mem_cons.mpr ⟨.folder hdistinct hnames hentries, habove⟩) h

theorem Proper.of_find? (ht : t.Proper) (h : t.find? names = some root) : root.Proper := by
  have habove : ∀ a ∈ ([] : List FileTree), a.Proper := nofun
  exact ht.of_walk habove h

end FileTree

/-! ## Paths -/

namespace Path

/-- The path that leads along `p` and then down along `names`. -/
def extend (p : Path) (names : List Text) : Path :=
  ⟨p.isAbsolute, p.names ++ names⟩

theorem extend_child (p : Path) (name : Text) (names : List Text) :
    (p.child name).extend names = p.extend (name :: names) := by
  rw [extend, extend, child, List.append_assoc]
  rfl

/-- The way goes on along names, none of which is empty. -/
theorem way_extend {p : Path} {names : List Text} (h : ∀ name ∈ names, name ≠ []) :
    (p.extend names).way = p.way ++ names := by
  obtain ⟨isAbsolute, front⟩ := p
  cases front with
  | cons first front => cases first <;> rfl
  | nil =>
      cases names with
      | nil => rfl
      | cons name names =>
          obtain ⟨c, name, rfl⟩ := List.exists_cons_of_ne_nil (h _ List.mem_cons_self)
          rfl

theorem append_extend (home p : Path) (names : List Text) :
    home.append (p.extend names) = (home.append p).extend names := by
  unfold append extend
  split
  · rfl
  · rw [List.append_assoc]

/-- A name that is not lost when a path is written. -/
def IsStep (name : Text) : Prop :=
  name ≠ [] ∧ '/' ∉ name ∧ name ≠ ['.']

/-- No step of the path is lost when it is written, and only an absolute path can have a second
slash in front. -/
structure IsWritten (p : Path) : Prop where
  steps : ∀ name ∈ p.way, IsStep name
  front : p.names = p.way ∨ (p.isAbsolute = true ∧ p.names = [] :: p.way)

theorem way_eq_names {p : Path} (h : ∀ name ∈ p.names, name ≠ []) : p.way = p.names := by
  obtain ⟨isAbsolute, names⟩ := p
  cases names with
  | nil => rfl
  | cons name names =>
      obtain ⟨c, name, rfl⟩ := List.exists_cons_of_ne_nil (h _ List.mem_cons_self)
      rfl

theorem isStep_of_mem_namesIn {t name : Text} (h : name ∈ namesIn t) : IsStep name := by
  obtain ⟨hmem, hkept⟩ := List.mem_filter.mp h
  have hslash := Text.notMem_of_mem_splitOn hmem
  rw [Bool.and_eq_true, Bool.not_eq_true', decide_eq_true_eq] at hkept
  exact ⟨fun h => by simp [h] at hkept, hslash, hkept.2⟩

theorem isWritten_ofText (t : Text) : (ofText t).IsWritten := by
  have hsteps : ∀ name ∈ namesIn t, IsStep name := fun _ => isStep_of_mem_namesIn
  unfold ofText
  dsimp only
  split
  · next hdouble =>
      refine ⟨hsteps, .inr ⟨?_, rfl⟩⟩
      cases t with
      | nil => cases hdouble
      | cons c t =>
          by_cases hc : c = '/'
          · simp [hc]
          · rw [List.takeWhile_cons_of_neg (by simpa using hc)] at hdouble
            cases hdouble
  · have hway : way ⟨decide (t.head? = some '/'), namesIn t⟩ = namesIn t :=
      way_eq_names fun name hname => (hsteps name hname).1
    refine ⟨?_, .inl hway.symm⟩
    rw [List.nil_append, hway]
    exact hsteps

theorem IsWritten.extend {p : Path} {names : List Text} (h : p.IsWritten)
    (hnames : ∀ name ∈ names, IsName name) : (p.extend names).IsWritten := by
  have hway := way_extend (p := p) fun name hname => (hnames name hname).1
  refine ⟨?_, ?_⟩
  · rw [hway]
    refine List.forall_mem_append.mpr ⟨h.steps, fun name hname => ?_⟩
    obtain ⟨hne, hslash, hstay, -⟩ := hnames name hname
    exact ⟨hne, hslash, hstay⟩
  · rw [hway]
    rcases h.front with hfront | ⟨habsolute, hfront⟩
    · exact .inl (congrArg (· ++ names) hfront)
    · exact .inr ⟨habsolute, congrArg (· ++ names) hfront⟩

end Path

/-- Text without separators is one piece. -/
theorem Text.splitOn_of_notMem {sep : Char} {t : Text} (h : sep ∉ t) : splitOn sep t = [t] := by
  induction t with
  | nil => rfl
  | cons c t ih =>
      obtain ⟨hc, ht⟩ := not_or.mp (mt List.mem_cons.mpr h)
      rw [splitOn, if_neg (Ne.symm hc), ih ht]

theorem Text.splitOn_append_cons {sep : Char} {piece : Text} (h : sep ∉ piece) (t : Text) :
    splitOn sep (piece ++ sep :: t) = piece :: splitOn sep t := by
  induction piece with
  | nil => rw [List.nil_append, splitOn, if_pos rfl]
  | cons c piece ih =>
      obtain ⟨hc, hpiece⟩ := not_or.mp (mt List.mem_cons.mpr h)
      rw [List.cons_append, splitOn, if_neg (Ne.symm hc), ih hpiece]

/-- Pieces without separators come apart again. -/
theorem Text.splitOn_join {sep : Char} {pieces : List Text} (hne : pieces ≠ [])
    (h : ∀ piece ∈ pieces, sep ∉ piece) : splitOn sep (join sep pieces) = pieces := by
  induction pieces with
  | nil => exact absurd rfl hne
  | cons piece pieces ih =>
      obtain ⟨hpiece, hpieces⟩ := List.forall_mem_cons.mp h
      cases pieces with
      | nil => exact splitOn_of_notMem hpiece
      | cons next pieces =>
          rw [join, splitOn_append_cons hpiece, ih (List.cons_ne_nil _ _) hpieces]
          exact List.cons_ne_nil _ _

namespace Path

variable {names : List Text}

/-- Steps that are written one after the other are read back. -/
theorem namesIn_join (hne : names ≠ []) (h : ∀ name ∈ names, IsStep name) :
    namesIn (Text.join '/' names) = names := by
  rw [namesIn, Text.splitOn_join hne fun name hname => (h name hname).2.1]
  refine List.filter_eq_self.mpr fun name hname => ?_
  obtain ⟨hne, -, hstay⟩ := h name hname
  simp [hne, hstay]

/-- A slash in front makes no name. -/
theorem namesIn_slash (t : Text) : namesIn ('/' :: t) = namesIn t := by
  rw [namesIn, Text.splitOn, if_pos rfl, List.filter_cons_of_neg (by decide), namesIn]

/-- No slash stands in front of them. -/
theorem exists_join_eq (hne : names ≠ []) (h : ∀ name ∈ names, IsStep name) :
    ∃ c t, Text.join '/' names = c :: t ∧ c ≠ '/' := by
  obtain ⟨name, names, rfl⟩ := List.exists_cons_of_ne_nil hne
  obtain ⟨hname, hslash, -⟩ := h name List.mem_cons_self
  obtain ⟨c, name, rfl⟩ := List.exists_cons_of_ne_nil hname
  have hc : c ≠ '/' := fun hc => hslash (hc ▸ List.mem_cons_self)
  cases names with
  | nil => exact ⟨c, _, rfl, hc⟩
  | cons next names => exact ⟨c, _, rfl, hc⟩

/-- **A path is read back as it is written.** -/
theorem ofText_toText {p : Path} (h : p.IsWritten) : ofText p.toText = p := by
  obtain ⟨isAbsolute, names⟩ := p
  obtain ⟨hsteps, hfront⟩ := h
  generalize way ⟨isAbsolute, names⟩ = steps at hsteps hfront
  by_cases hne : steps = []
  · -- nothing is written but slashes or a point
    subst hne
    rcases hfront with rfl | ⟨rfl, rfl⟩
    · cases isAbsolute <;> rfl
    · rfl
  have hread := namesIn_join hne hsteps
  obtain ⟨c, t, hjoin, hc⟩ := exists_join_eq hne hsteps
  rw [hjoin] at hread
  rcases hfront with hnames | ⟨hpath, hnames⟩
  · dsimp only at hnames
    subst hnames
    cases isAbsolute with
    | true =>
        have hsingle : names ≠ [[]] := fun e => (hsteps [] (e ▸ List.mem_singleton_self _)).1 rfl
        rw [toText, if_pos rfl, if_neg hsingle, hjoin, ofText, namesIn_slash, hread]
        simp [hc]
    | false =>
        rw [toText, if_neg Bool.false_ne_true, if_neg (by simpa using hne), hjoin, ofText, hread]
        simp [hc]
  · dsimp only at hpath hnames
    subst hpath hnames
    have hsingle : [] :: steps ≠ ([[]] : List Text) := fun e => hne (List.cons.inj e).2
    have hdouble : Text.join '/' ([] :: steps) = '/' :: c :: t := by
      obtain ⟨first, rest, rfl⟩ := List.exists_cons_of_ne_nil hne
      rw [← hjoin]
      rfl
    rw [toText, if_pos rfl, if_neg hsingle, hdouble, ofText, namesIn_slash, namesIn_slash, hread]
    simp [hc]

end Path

/-! ## Files within reach -/

namespace Files

variable {home p : Path} {t root : FileTree} {names : List Text} {content : Bytes}

theorem at?_ofTree : (ofTree home t).at? p = (wayFrom? home p).bind t.find? := by
  unfold at? ofTree
  rw [List.findSome?_singleton]

theorem wayFrom?_extend {way : List Text} (hnames : ∀ name ∈ names, name ≠ [])
    (h : wayFrom? home p = some way) :
    wayFrom? home (p.extend names) = some (way ++ names) := by
  unfold wayFrom? at h ⊢
  split at h
  · next hon =>
      obtain rfl := Option.some.inj h
      rw [Bool.and_eq_true, List.isPrefixOf_iff_prefix] at hon
      obtain ⟨habsolute, hpre⟩ := hon
      rw [if_pos, Path.way_extend hnames, List.drop_append_of_le_length hpre.length_le]
      rw [Bool.and_eq_true, List.isPrefixOf_iff_prefix, Path.way_extend hnames]
      exact ⟨habsolute, hpre.trans (List.prefix_append _ _)⟩
  · cases h

/-- What is below something at a full path is at the longer path. -/
theorem at?_extend (ht : t.Proper) (h : (ofTree home t).at? p = some root)
    (hholds : root.Holds names content) :
    (ofTree home t).at? (p.extend names) = some (.file content) := by
  rw [at?_ofTree] at h ⊢
  obtain ⟨way, hway, hfind⟩ := Option.bind_eq_some_iff.mp h
  obtain ⟨around, hwalk⟩ := FileTree.walk_append hfind
  have hroot : root.Proper := ht.of_find? hfind
  have hnames : ∀ name ∈ names, name ≠ [] := fun name hname => (hholds.isName hroot name hname).1
  rw [wayFrom?_extend hnames hway, Option.bind_some, FileTree.find?, hwalk,
    FileTree.walk_of_holds hholds hroot]

theorem proper_of_find? (ht : t.Proper) (h : (ofTree home t).find? p = some root) :
    root.Proper := by
  have hat {q : Path} (h : (ofTree home t).at? q = some root) : root.Proper := by
    rw [at?_ofTree] at h
    obtain ⟨way, -, hfind⟩ := Option.bind_eq_some_iff.mp h
    exact ht.of_find? hfind
  unfold find? at h
  split at h
  · next hfull =>
      obtain rfl := Option.some.inj h
      exact hat hfull
  · exact hat h

/-- **What is below something at a path is the file at the longer path.** -/
theorem file?_extend (hhome : home.isAbsolute = true) (ht : t.Proper)
    (h : (ofTree home t).find? p = some root) (hholds : root.Holds names content) :
    (ofTree home t).file? (p.extend names) = some content := by
  have hfind : (ofTree home t).find? (p.extend names) = some (.file content) := by
    unfold find? at h ⊢
    cases hfull : (ofTree home t).at? p with
    | some root' =>
        rw [hfull] at h
        obtain rfl := Option.some.inj h
        rw [at?_extend ht hfull hholds]
    | none =>
        rw [hfull] at h
        change (ofTree home t).at? (home.append p) = some root at h
        -- only a relative path begins in the home folder
        have hrelative : p.isAbsolute = false := by
          rw [← Bool.not_eq_true]
          intro habsolute
          rw [Path.append, if_pos habsolute, hfull] at h
          cases h
        have hnone : (ofTree home t).at? (p.extend names) = none := by
          rw [at?_ofTree, wayFrom?, Path.extend, hhome, hrelative]
          rfl
        rw [hnone]
        change (ofTree home t).at? (home.append (p.extend names)) = _
        rw [Path.append_extend]
        exact at?_extend ht h hholds
  rw [file?, hfind]

end Files

end SecretScan
