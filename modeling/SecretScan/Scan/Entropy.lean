import SecretScan.Text.Basic

/-!
# Entropy

The Shannon entropy of a text in bits per character. A secret that was drawn at random has a high
entropy, a word or a placeholder a low one.
-/

namespace SecretScan.Entropy

/-- Counts one more `c`. -/
def countOne (c : Char) : List (Char × Nat) → List (Char × Nat)
  | [] => [(c, 1)]
  | (d, n) :: counts => if d = c then (d, n + 1) :: counts else (d, n) :: countOne c counts

/-- How often each character occurs, in the order in which the characters first appear. -/
def counts (t : Text) : List (Char × Nat) :=
  t.foldl (fun counts c => countOne c counts) []

/-- What a character contributes that makes up the share `p` of a text. -/
def contribution (p : Float) : Float :=
  p * p.log2

/-- The entropy of a text of `total` characters, from the counts of its characters. -/
def ofCounts (total : Nat) (counts : List Nat) : Float :=
  -(counts.foldl (fun sum n => sum + contribution (n.toFloat / total.toFloat)) 0.0)

/-- The entropy of a text. -/
def shannon (t : Text) : Float :=
  match t with
  | [] => 0.0
  | t => ofCounts t.length ((counts t).map Prod.snd)

end SecretScan.Entropy
