import SecretScan.Finding.Score
import SecretScan.Proofs.Text.Line

/-!
# What stands around a match

A match is judged by its text and by what stands around it: the context, the part of it in front of
the match, and the line (`Neighbourhood`). Nothing else in the content counts
(`benignReason?_eq_reason?`).

The line is the part between two newlines in which the match begins (`isLineAt_iff`), and its number
is the one that a finding tells (`Match.finding_line`). Context and line are cut off at the ends of
the content. Far enough from both ends it makes no difference what the content is a part of
(`neighbourhood_amid`), so no distant text can change the verdict on a match
(`benignReason?_amid`).
-/

namespace SecretScan

open Text

variable {content line t : Text} {offset length : Nat}

/-! ## The context -/

/-- The context of a match reaches up to a hundred characters to both sides. -/
theorem contextOf_eq (content : Text) (offset length : Nat) :
    contextOf content offset length
      = content.slice (offset - 100) (min content.length (offset + length + 100)) := by
  have hstart : (max 0 ((offset : Int) - contextRadius)).toNat = offset - 100 := by
    rw [contextRadius]
    omega
  have hstop : (min (content.length : Int) (offset + length + contextRadius)).toNat
      = min content.length (offset + length + 100) := by
    rw [contextRadius]
    omega
  exact congrArg₂ content.slice hstart hstop

/-- The text of a match stands in its context, and it is known where. -/
theorem slice_contextOf (h : offset + length ≤ content.length) :
    (contextOf content offset length).slice (min offset 100) (min offset 100 + length)
      = content.slice offset (offset + length) := by
  rw [contextOf_eq, Text.slice_slice content (by omega)]
  congr 1
  · omega
  · omega

/-! ## The line -/

/-- `line` is a part of the content between two newlines, or between one of them and an end of the
content, and the offset lies in it or on the newline that ends it. -/
structure IsLineAt (content : Text) (offset : Nat) (line : Text) : Prop where
  /-- No newline stands in it. -/
  whole : '\n' ∉ line
  /-- It reaches from newline to newline, and the offset lies in it. -/
  place : ∃ front back, content = front ++ (line ++ back)
    ∧ (front = [] ∨ ∃ init, front = init ++ ['\n']) ∧ (back = [] ∨ ∃ tail, back = '\n' :: tail)
    ∧ front.length ≤ offset ∧ offset ≤ front.length + line.length

theorem lineAt_eq (content : Text) (offset : Nat) :
    lineAt content offset = behind (content.take offset) '\n' ++ before (content.drop offset) '\n' :=
  rfl

theorem IsLineAt.eq_lineAt (h : IsLineAt content offset line) : line = lineAt content offset := by
  obtain ⟨hwhole, front, back, rfl, hfront, hback, hle, hge⟩ := h
  obtain ⟨k, rfl⟩ := Nat.exists_eq_add_of_le hle
  have hk : k ≤ line.length := by omega
  rw [lineAt_eq, List.take_length_add_append, List.drop_length_add_append,
    List.take_append_of_le_length hk, List.drop_append_of_le_length hk]
  have htake : '\n' ∉ line.take k := fun h => hwhole (List.mem_of_mem_take h)
  have hdrop : '\n' ∉ line.drop k := fun h => hwhole (List.mem_of_mem_drop h)
  have hbehind : behind (front ++ line.take k) '\n' = line.take k := by
    rcases hfront with rfl | ⟨init, rfl⟩
    · exact behind_of_notMem htake
    · rw [List.append_assoc]
      exact behind_append_cons init htake
  have hbefore : before (line.drop k ++ back) '\n' = line.drop k := by
    rcases hback with rfl | ⟨tail, rfl⟩
    · rw [List.append_nil]
      exact before_of_notMem hdrop
    · exact before_append_cons hdrop tail
  rw [hbehind, hbefore, List.take_append_drop]

theorem isLineAt_lineAt (h : offset ≤ content.length) :
    IsLineAt content offset (lineAt content offset) := by
  obtain ⟨front, hfront, hfront'⟩ := exists_eq_append_behind (content.take offset) '\n'
  obtain ⟨back, hback, hback'⟩ := exists_eq_before_append (content.drop offset) '\n'
  have hlength := congrArg List.length hfront
  rw [List.length_take, Nat.min_eq_left h, List.length_append] at hlength
  rw [lineAt_eq]
  refine ⟨?_, front, back, ?_, hfront', hback', by omega, ?_⟩
  · rw [List.mem_append, not_or]
    exact ⟨notMem_behind _ _, notMem_before _ _⟩
  · calc content
        = content.take offset ++ content.drop offset := (List.take_append_drop offset content).symm
      _ = (front ++ behind (content.take offset) '\n')
            ++ (before (content.drop offset) '\n' ++ back) := congrArg₂ _ hfront hback
      _ = _ := by simp only [List.append_assoc]
  · rw [List.length_append]
    omega

/-- **There is exactly one line at an offset.** -/
theorem isLineAt_iff :
    IsLineAt content offset line ↔ offset ≤ content.length ∧ line = lineAt content offset := by
  constructor
  · intro h
    refine ⟨?_, h.eq_lineAt⟩
    obtain ⟨-, front, back, rfl, -, -, -, hle⟩ := h
    rw [List.length_append, List.length_append]
    omega
  · rintro ⟨h, rfl⟩
    exact isLineAt_lineAt h

theorem getElem?_splitOn_lineAt (content : Text) (offset : Nat) :
    (splitOn '\n' content)[(content.take offset).count '\n']? = some (lineAt content offset) := by
  have hcut := getElem?_splitOn_append '\n' (content.take offset) (content.drop offset)
  rwa [List.take_append_drop] at hcut

/--
**The number of a line and the line agree.**

The number that a finding tells is the number of newlines in front of its offset, plus one. Among
the lines of the content, counted from 1, the line with this number is the one at the offset, which
goes from the newline in front of it to the next one. An offset on a newline belongs to the line
that it ends.
-/
theorem Match.finding_line (m : Match) (content location : Text) :
    let n : Nat := (content.take m.offset).count '\n'
    (m.finding content location).line = n + 1
      ∧ (splitOn '\n' content)[n]? = some (lineAt content m.offset)
      ∧ ∀ line, IsLineAt content m.offset line
          ↔ m.offset ≤ content.length ∧ line = lineAt content m.offset :=
  ⟨rfl, getElem?_splitOn_lineAt content m.offset, fun _ => isLineAt_iff⟩

/-! ## Distant text -/

/-- What stands around a match, as far as it is looked at. -/
structure Neighbourhood where
  /-- The text to both sides, and the match itself. -/
  context : Text
  /-- The part of the context in front of the match. -/
  leading : Text
  /-- The line. -/
  line : Text

/-- What stands around a match of `length` characters. -/
def neighbourhood (content : Text) (offset length : Nat) : Neighbourhood where
  context := contextOf content offset length
  leading := content.slice (contextStart offset) offset
  line := lineAt content offset

/-- Why a match with the text `t` is no secret, as far as its neighbourhood tells. -/
def Neighbourhood.reason? (s : Neighbourhood) (t : Text) : Option Reason :=
  if Benign.isBenignShape t then some .benignShape
  else if Benign.hasAssetContext s.context then some .assetContext
  else if Benign.isEncodedData t s.context s.leading then some .encodedData
  else if Benign.isCommentLine s.line then some .commentLine
  else none

/-- **A match is judged by its text and its neighbourhood.** -/
theorem benignReason?_eq_reason? (content : Text) (offset : Nat) (t : Text) :
    benignReason? content offset t = (neighbourhood content offset t.length).reason? t := by
  unfold benignReason? Neighbourhood.reason? neighbourhood
  dsimp only

variable {front back : Text} {start stop : Nat}

theorem slice_amid (front back : Text) (h : stop ≤ content.length) :
    (front ++ content ++ back).slice (front.length + start) (front.length + stop)
      = content.slice start stop := by
  unfold slice
  rw [List.append_assoc, List.drop_length_add_append, Nat.add_sub_add_left]
  by_cases hle : start ≤ content.length
  · rw [List.drop_append_of_le_length hle,
      List.take_append_of_le_length (by rw [List.length_drop]; omega)]
  · have hempty : stop - start = 0 := by omega
    rw [hempty, List.take_zero, List.take_zero]

theorem contextOf_amid (front back : Text) (hbefore : 100 ≤ offset)
    (hbehind : offset + length + 100 ≤ content.length) :
    contextOf (front ++ content ++ back) (front.length + offset) length
      = contextOf content offset length := by
  rw [contextOf_eq, contextOf_eq, Nat.min_eq_right hbehind, ← slice_amid front back hbehind]
  congr 1
  · omega
  · simp only [List.length_append]
    omega

theorem lineAt_amid (front back : Text) (h : offset ≤ content.length)
    (hbefore : '\n' ∈ content.take offset) (hbehind : '\n' ∈ content.drop offset) :
    lineAt (front ++ content ++ back) (front.length + offset) = lineAt content offset := by
  rw [lineAt_eq, List.append_assoc, List.take_length_add_append, List.drop_length_add_append,
    List.take_append_of_le_length h, List.drop_append_of_le_length h,
    behind_append_of_mem front hbefore, before_append_of_mem hbehind, lineAt_eq]

/-- **Far from both ends the neighbourhood is the same** whatever the content is a part of. -/
theorem neighbourhood_amid (front back : Text) (hbefore : 100 ≤ offset)
    (hbehind : offset + length + 100 ≤ content.length)
    (hopened : '\n' ∈ content.take offset) (hclosed : '\n' ∈ content.drop offset) :
    neighbourhood (front ++ content ++ back) (front.length + offset) length
      = neighbourhood content offset length := by
  have hleading : (front ++ content ++ back).slice (contextStart (front.length + offset))
      (front.length + offset) = content.slice (contextStart offset) offset := by
    unfold contextStart contextRadius
    rw [← slice_amid front back (show offset ≤ content.length by omega), Nat.add_sub_assoc hbefore]
  unfold neighbourhood
  rw [contextOf_amid front back hbefore hbehind, hleading,
    lineAt_amid front back (by omega) hopened hclosed]

/--
**Distant text does not matter.**

Let at least a hundred characters and a newline stand in front of a match, at least a hundred
characters behind it, and a newline at its offset or behind. Then the verdict on the match is the
same wherever the content is a part of a longer one.
-/
theorem benignReason?_amid (hbefore : 100 ≤ offset)
    (hbehind : offset + t.length + 100 ≤ content.length)
    (hopened : '\n' ∈ content.take offset) (hclosed : '\n' ∈ content.drop offset)
    (front back : Text) :
    benignReason? (front ++ content ++ back) (offset + front.length) t
      = benignReason? content offset t := by
  rw [Nat.add_comm, benignReason?_eq_reason?, benignReason?_eq_reason?,
    neighbourhood_amid front back hbefore hbehind hopened hclosed]

/-- A match in a comment, between two texts that would both change the verdict if they were
closer. -/
theorem benignReason?_amid_comment :
    let t : Text := "k12".toList
    let content : Text :=
      List.replicate 90 ' ' ++ "\n// token = ".toList ++ t ++ '\n' :: List.replicate 100 ' '
    let offset : Nat := 102
    let front : Text := "data:image/png;base64,".toList
    let back : Text := "__webpack".toList
    100 ≤ offset ∧ offset + t.length + 100 ≤ content.length
      ∧ '\n' ∈ content.take offset ∧ '\n' ∈ content.drop offset
      ∧ benignReason? (front ++ content ++ back) (offset + front.length) t = some .commentLine := by
  intro t content offset front back
  have hbefore : 100 ≤ offset := by decide
  have hbehind : offset + t.length + 100 ≤ content.length := by decide +kernel
  have hopened : '\n' ∈ content.take offset := by decide +kernel
  have hclosed : '\n' ∈ content.drop offset := by decide +kernel
  have hamid := benignReason?_amid hbefore hbehind hopened hclosed front back
  exact ⟨hbefore, hbehind, hopened, hclosed, hamid.trans (by decide +kernel)⟩

end SecretScan
