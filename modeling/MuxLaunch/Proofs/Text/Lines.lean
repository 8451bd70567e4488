import MuxLaunch.Text.Lines

/-! # Lines of two texts

Where a line ends, a text can be cut: its lines are those before the cut and those behind it. The
kind of line end makes no difference to the lines.
-/

namespace MuxLaunch.Text

variable {c : Char} {rest first second : List Char}

/-- The first text ends with a line, if there is anything in it, and the second does not go on with
    the line's boundary. -/
def EndsLine (first second : List Char) : Prop :=
  ∀ c, first.getLast? = some c → isLineBoundary c ∧ (c = '\r' → second.head? ≠ some '\n')

theorem EndsLine.of_lineFeed (isLast : first.getLast? = some '\n') : EndsLine first second := by
  intro c isLast'
  obtain rfl := Option.some.inj (isLast.symm.trans isLast')
  exact ⟨rfl, fun same => absurd same (by decide)⟩

theorem EndsLine.tail (ends : EndsLine (c :: rest) second) : EndsLine rest second :=
  fun last isLast => ends last (by rw [List.getLast?_cons, isLast]; rfl)

theorem head?_ne_of_unpaired (unpaired : ∀ more, c = '\r' → rest = '\n' :: more → False)
    (isReturn : c = '\r') : rest.head? ≠ some '\n' := by
  intro isNext
  obtain ⟨more, isRest⟩ := List.head?_eq_some_iff.mp isNext
  exact unpaired more isReturn isRest

/-- A boundary ends a line unless it is the first half of a longer one. -/
theorem lines_boundary (isBoundary : isLineBoundary c = true)
    (whole : c = '\r' → rest.head? ≠ some '\n') : lines (c :: rest) = [] :: lines rest := by
  rw [lines.eq_3 c rest fun tail isReturn isTail => whole isReturn (isTail ▸ rfl),
    if_pos isBoundary]

/-- Any other character stands in the first line. -/
theorem lines_cons (notBoundary : isLineBoundary c = false) (rest : List Char) :
    lines (c :: rest) = (c :: (lines rest).headD []) :: (lines rest).tail := by
  have notReturn : c ≠ '\r' := by
    rintro rfl
    cases notBoundary
  rw [lines.eq_3 c rest fun _ isReturn _ => notReturn isReturn, if_neg (by simp [notBoundary])]
  cases lines rest <;> rfl

theorem eq_nil_of_lines : lines rest = [] → rest = [] := by
  fun_cases lines rest <;> simp

theorem lines_append (ends : EndsLine first second) :
    lines (first ++ second) = lines first ++ lines second := by
  fun_induction lines first with
  | case1 => rfl
  | case2 rest ih => exact congrArg ([] :: ·) (ih ends.tail.tail)
  | case3 c rest unpaired isBoundary ih =>
      have whole : c = '\r' → (rest ++ second).head? ≠ some '\n' := by
        intro isReturn
        cases rest with
        | nil => exact (ends c rfl).2 isReturn
        | cons d more =>
            have noFeed : (d :: more).head? ≠ some '\n' := head?_ne_of_unpaired unpaired isReturn
            exact noFeed
      rw [List.cons_append, lines_boundary isBoundary whole, ih ends.tail, List.cons_append]
  | case4 c rest _ notBoundary noLines ih =>
      obtain rfl := eq_nil_of_lines noLines
      exact absurd (ends c rfl).1 notBoundary
  | case5 c rest _ notBoundary line more isRest ih =>
      rw [List.cons_append, lines_cons (by simpa using notBoundary), ih ends.tail, isRest]
      rfl

theorem lines_unifyLineEnds (text : List Char) : lines (unifyLineEnds text) = lines text := by
  fun_induction unifyLineEnds text with
  | case1 => rfl
  | case2 rest ih =>
      rw [lines_boundary rfl (fun isReturn => absurd isReturn (by decide)), ih, lines]
  | case3 c rest unpaired ih =>
      by_cases isReturn : c = '\r'
      · rw [if_pos isReturn, lines_boundary rfl (fun same => absurd same (by decide)), ih,
          lines_boundary (isReturn ▸ rfl) (head?_ne_of_unpaired unpaired)]
      · rw [if_neg isReturn]
        cases isBoundary : isLineBoundary c with
        | true =>
            rw [lines_boundary isBoundary fun same => absurd same isReturn, ih,
              lines_boundary isBoundary (head?_ne_of_unpaired unpaired)]
        | false => rw [lines_cons isBoundary, ih, lines_cons isBoundary]

end MuxLaunch.Text
