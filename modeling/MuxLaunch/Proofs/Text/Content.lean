import Mathlib.Data.List.DropRight
import MuxLaunch.Proofs.Text.Lines

/-! # What lines and trimming keep

Splitting a text into lines drops the boundaries between them and nothing else, and trimming drops
blanks at the two ends and nothing else.
-/

namespace MuxLaunch.Text

/-- The lines of a text are the text without its line boundaries. -/
theorem flatten_lines (text : List Char) :
    (lines text).flatten = text.filter (!isLineBoundary ·) := by
  fun_induction lines text with
  | case1 => rfl
  | case2 rest ih => exact ih
  | case3 c rest unpaired isBoundary ih =>
      rw [List.flatten_cons, List.nil_append, ih, List.filter_cons_of_neg (by simp [isBoundary])]
  | case4 c rest _ notBoundary noLines ih =>
      obtain rfl := eq_nil_of_lines noLines
      simp [notBoundary]
  | case5 c rest _ notBoundary line more isRest ih =>
      rw [isRest] at ih
      rw [List.filter_cons_of_pos (by simp [notBoundary]), ← ih]
      rfl

theorem notBoundary_of_mem_lines {text line : List Char} (listed : line ∈ lines text) {c : Char}
    (member : c ∈ line) : isLineBoundary c = false := by
  have kept : c ∈ (lines text).flatten := List.mem_flatten.mpr ⟨line, listed, member⟩
  rw [flatten_lines] at kept
  simpa using (List.mem_filter.mp kept).2

/-- Trimming takes blanks from the two ends of a text. -/
theorem exists_trim (cs : List Char) :
    ∃ before after, cs = before ++ trim cs ++ after ∧ ∀ c ∈ before ++ after, isBlank c := by
  refine ⟨cs.takeWhile isBlank, (cs.dropWhile isBlank).rtakeWhile isBlank, ?_, ?_⟩
  · have isEnd : trim cs ++ (cs.dropWhile isBlank).rtakeWhile isBlank = cs.dropWhile isBlank :=
      List.rdropWhile_append_rtakeWhile
    rw [List.append_assoc, isEnd, List.takeWhile_append_dropWhile]
  · intro c member
    rcases List.mem_append.mp member with inFront | behind
    · exact List.mem_takeWhile_imp inFront
    · exact List.mem_rtakeWhile_imp behind

theorem mem_of_mem_trim {cs : List Char} {c : Char} (member : c ∈ trim cs) : c ∈ cs := by
  obtain ⟨before, after, isWhole, -⟩ := exists_trim cs
  rw [isWhole]
  simp [member]

theorem notBlank_of_head?_trim {cs : List Char} {c : Char} (isHead : (trim cs).head? = some c) :
    isBlank c = false := by
  obtain ⟨after, isEnd⟩ : trim cs <+: cs.dropWhile isBlank := List.rdropWhile_prefix isBlank _
  have first := List.head?_dropWhile_not isBlank cs
  rw [← isEnd, List.head?_append, isHead] at first
  exact first

theorem notBlank_of_getLast?_trim {cs : List Char} {c : Char}
    (isLast : (trim cs).getLast? = some c) : isBlank c = false := by
  have last := List.head?_dropWhile_not isBlank (cs.dropWhile isBlank).reverse
  rw [trim, List.getLast?_reverse] at isLast
  rw [isLast] at last
  exact last

end MuxLaunch.Text
