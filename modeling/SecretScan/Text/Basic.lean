/-!
# Text

Everything this library inspects (rule patterns, scanned content, source locations) is text: a
sequence of code points. Offsets and lengths always count code points, so a text is a list of
characters and an offset is a plain number.

This module holds the slicing and searching operations that the other modules share.
-/

namespace SecretScan

/-- A sequence of code points. -/
abbrev Text := List Char

namespace Text

/-- The characters from offset `start` up to, but not including, offset `stop`. -/
def slice (t : Text) (start stop : Nat) : Text :=
  (t.drop start).take (stop - start)

/-- The offset of the first `c` at or after offset `start`. -/
def indexFrom? (t : Text) (c : Char) (start : Nat) : Option Nat :=
  ((t.drop start).findIdx? (· = c)).map (· + start)

/-- Whether `needle` occurs in `t` as a run of neighbouring characters. -/
def hasInfix (needle : Text) : Text → Bool
  | [] => needle.isEmpty
  | c :: t => needle.isPrefixOf (c :: t) || hasInfix needle t

/-- The part before the first `c`, or all of `t` if it holds none. -/
def before (t : Text) (c : Char) : Text :=
  t.takeWhile (· ≠ c)

/-- Whether `s` is `t` or comes before it, in the order of code points. -/
def atMost : Text → Text → Bool
  | [], _ => true
  | _ :: _, [] => false
  | c :: s, d :: t => if c = d then atMost s t else c.toNat < d.toNat

/-- The pieces of `t` between the separators `sep`; there is always one more than separators. -/
def splitOn (sep : Char) : Text → List Text
  | [] => [[]]
  | c :: t =>
    if c = sep then [] :: splitOn sep t
    else
      match splitOn sep t with
      | [] => [[c]]
      | piece :: pieces => (c :: piece) :: pieces

/-- Joins pieces with the separator `sep`. -/
def join (sep : Char) : List Text → Text
  | [] => []
  | [piece] => piece
  | piece :: pieces => piece ++ sep :: join sep pieces

/-- Drops the characters in `p` from both ends. -/
def trimWhile (p : Char → Bool) (t : Text) : Text :=
  ((t.dropWhile p).reverse.dropWhile p).reverse

/-- Whether every character lies in one of the ranges `[lo, hi]` of `ranges`. -/
def inRanges (ranges : List (Nat × Nat)) (n : Nat) : Bool :=
  ranges.any fun (lo, hi) => lo ≤ n && n ≤ hi

theorem length_slice {t : Text} {start stop : Nat} (h : stop ≤ t.length) :
    (t.slice start stop).length = stop - start := by
  rw [slice, List.length_take, List.length_drop]
  omega

/-- A slice of a slice is a slice of the text. -/
theorem slice_slice (t : Text) {start stop i j : Nat} (h : start + j ≤ stop) :
    (t.slice start stop).slice i j = t.slice (start + i) (start + j) := by
  unfold slice
  rw [List.drop_take, List.drop_drop, List.take_take]
  exact congrArg (List.take · _) (by omega)

/-- Splitting never yields an empty list of pieces. -/
theorem splitOn_ne_nil (sep : Char) (t : Text) : splitOn sep t ≠ [] := by
  cases t with
  | nil => simp [splitOn]
  | cons c t =>
    unfold splitOn
    split
    · simp
    · split <;> simp

/-- Joining the pieces again gives the text back. -/
theorem join_splitOn (sep : Char) (t : Text) : join sep (splitOn sep t) = t := by
  induction t with
  | nil => rfl
  | cons c t ih =>
    unfold splitOn
    cases h : splitOn sep t with
    | nil => exact absurd h (splitOn_ne_nil sep t)
    | cons piece pieces =>
      rw [h] at ih
      split
      · simp_all [join]
      · cases pieces <;> simp_all [join]

end Text

end SecretScan
