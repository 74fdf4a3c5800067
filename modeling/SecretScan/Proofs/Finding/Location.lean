import SecretScan.Finding.Location
import SecretScan.Proofs.Text.Line

/-!
# Normal forms of paths

A location is an address only if an authority stands in it, and that begins with two slashes. What
the parser sees of a path has no two slashes side by side, so a path is cut at the first `?` and the
first `#` and is otherwise left as it is (`normalize_of_isPath`). Tabs and line ends count as
nothing here: a folder whose name is a tab brings two slashes together.
-/

namespace SecretScan.Location

/-- A location in which no authority begins. -/
def IsPath (t : Text) : Prop :=
  ¬ ['/', '/'] <:+: visible t
deriving Decidable

theorem splitScheme_isSuffix (t : Text) : (splitScheme t).2 <:+ t := by
  unfold splitScheme
  dsimp only
  split
  · next rest _ hdrop =>
      split
      · exact (List.suffix_cons ':' rest).trans (hdrop ▸ List.drop_suffix _ t)
      · exact List.suffix_rfl
  · exact List.suffix_rfl

theorem splitAuthority_of_path {t : Text} (h : ¬ ['/', '/'] <+: t) :
    splitAuthority t = ([], t) := by
  unfold splitAuthority
  split
  · next rest => exact absurd ⟨rest, rfl⟩ h
  · rfl

theorem parts_of_isPath {t : Text} (h : IsPath t) :
    ∃ p, parts t = .ok p ∧ p.authority = [] := by
  have hstart : ¬ ['/', '/'] <+: (splitScheme (visible t)).2 := fun hpre =>
    h (hpre.isInfix.trans (splitScheme_isSuffix _).isInfix)
  have hauthority := splitAuthority_of_path hstart
  refine ⟨⟨(splitScheme (visible t)).1, [], withoutQuery (splitScheme (visible t)).2⟩, ?_, rfl⟩
  unfold parts
  dsimp only
  rw [hauthority]
  rfl

/-- **A path is cut at the first `?` and then at the first `#`.** -/
theorem normalize_of_isPath {t : Text} (h : IsPath t) :
    normalize t = .ok ((t.before '?').before '#') := by
  obtain ⟨p, hparts, hauthority⟩ := parts_of_isPath h
  unfold normalize
  cases t with
  | nil => rfl
  | cons c t =>
      rw [hparts, if_neg (by rw [List.isEmpty_cons]; decide)]
      show (if (p.scheme.isEmpty || p.authority.isEmpty) = true then _ else _) = _
      rw [hauthority, List.isEmpty_nil, Bool.or_true, if_pos rfl]
      rfl

/-- A path with neither of these characters is its own normal form. -/
theorem normalize_of_plain {t : Text} (h : IsPath t) (hquery : '?' ∉ t) (hfragment : '#' ∉ t) :
    normalize t = .ok t := by
  rw [normalize_of_isPath h, Text.before_of_notMem hquery, Text.before_of_notMem hfragment]

end SecretScan.Location
