import MuxLaunch.Proofs.Config.Numbers
import MuxLaunch.Proofs.Text.Content

/-! # Logical lines are tidy

A logical line is never blank and has neither blanks around it nor a line boundary in it. Comments
are dropped too, but for one that the end of the text cuts off in the middle of a run.
-/

namespace MuxLaunch

/-- A text that is not empty, begins and ends in no blank, and stands on one line. -/
structure Text.IsTidy (text : List Char) : Prop where
  nonempty : text ≠ []
  head : ∀ c, text.head? = some c → isBlank c = false
  last : ∀ c, text.getLast? = some c → isBlank c = false
  oneLine : ∀ c ∈ text, isLineBoundary c = false

namespace LineRun

open ConfigLine

variable {text : List Char} {run : LineRun}

theorem mem_of_mem_piece {goesOn : List Char → Bool} {raw : List Char} {c : Char}
    (member : c ∈ piece goesOn raw) : c ∈ raw := by
  unfold piece at member
  split at member
  · exact List.dropLast_subset raw member
  · exact member

theorem notBoundary_of_mem_joined (isRun : run ∈ ofText continues text) {c : Char}
    (member : c ∈ run.joined continues) : Text.isLineBoundary c = false := by
  obtain ⟨raw, inRun, inPiece⟩ := List.mem_flatMap.mp member
  exact Text.notBoundary_of_mem_lines (mem_lines_of_mem_ofText isRun inRun)
    (mem_of_mem_piece inPiece)

theorem isTidy_of_isKept (isRun : run ∈ ofText continues text) (kept : run.isKept) :
    Text.IsTidy run.line.text where
  nonempty := text_ne_nil_of_isKept kept
  head _ := Text.notBlank_of_head?_trim
  last _ := Text.notBlank_of_getLast?_trim
  oneLine _ member := notBoundary_of_mem_joined isRun (Text.mem_of_mem_trim member)

/-- Only the last run of a text can be cut off. -/
theorem getLast?_of_isOpen (isRun : run ∈ ofText continues text) (cut : run.isOpen) :
    (ofText continues text).getLast? = some run := by
  obtain ⟨before, after, isSplit⟩ := List.append_of_mem isRun
  cases after with
  | nil => rw [isSplit, List.getLast?_concat]
  | cons next after =>
      have ends := List.isChain_getLast_head_splitBy (fun raw _ => continues raw.1)
        ((Text.lines text).zipIdx 1)
      change List.IsChain _ (ofText continues text) at ends
      rw [isSplit] at ends
      obtain ⟨nonempty, -, isEnd⟩ :=
        (List.isChain_cons_cons.mp (List.isChain_append.mp ends).2.1).1
      rw [isOpen, List.getLast?_eq_some_getLast nonempty, Option.any_some, isEnd] at cut
      cases cut

end LineRun

namespace ConfigLine

open LineRun

/-- The text ends in a comment whose last physical line goes on. -/
def EndsInComment (text : List Char) : Prop :=
  ∃ run, (LineRun.ofText continues text).getLast? = some run ∧ run.isOpen ∧
    run.line.text.head? = some '#'

theorem isTidy_of_mem_ofText {text : List Char} {line : ConfigLine} (listed : line ∈ ofText text) :
    Text.IsTidy line.text := by
  obtain ⟨run, isRun, kept, rfl⟩ := mem_ofText.mp listed
  exact isTidy_of_isKept isRun kept

theorem isOpen_of_comment {run : LineRun} (kept : run.isKept)
    (comment : run.line.text.head? = some '#') : run.isOpen := by
  by_contra notCut
  simp [isKept, notCut, isIdle, comment] at kept

/-- Every logical line is tidy, and none is a comment unless the text ends in a comment that goes
    on. Such a comment comes back, as the last of the logical lines. -/
theorem ofText_isTidy (text : List Char) :
    (∀ line ∈ ofText text, Text.IsTidy line.text) ∧
    ((∃ line ∈ ofText text, line.text.head? = some '#') ↔ EndsInComment text) ∧
    ∀ line ∈ ofText text, line.text.head? = some '#' → (ofText text).getLast? = some line := by
  have isCut : ∀ run ∈ LineRun.ofText continues text, run.isKept →
      run.line.text.head? = some '#' →
        run.isOpen ∧ (LineRun.ofText continues text).getLast? = some run := by
    intro run isRun kept comment
    have cut := isOpen_of_comment kept comment
    exact ⟨cut, getLast?_of_isOpen isRun cut⟩
  refine ⟨fun _ => isTidy_of_mem_ofText, ⟨?_, ?_⟩, ?_⟩
  · rintro ⟨line, listed, comment⟩
    obtain ⟨run, isRun, kept, rfl⟩ := mem_ofText.mp listed
    obtain ⟨cut, isLast⟩ := isCut run isRun kept comment
    exact ⟨run, isLast, cut, comment⟩
  · rintro ⟨run, isLast, cut, comment⟩
    have kept : run.isKept := by
      rw [isKept, if_pos cut, decide_eq_true_eq]
      intro noText
      simp [noText] at comment
    exact ⟨run.line, mem_ofText.mpr ⟨run, List.mem_of_getLast? isLast, kept, rfl⟩, comment⟩
  · intro line listed comment
    obtain ⟨run, isRun, kept, rfl⟩ := mem_ofText.mp listed
    exact getLast?_ofText (isCut run isRun kept comment).2 kept

/-- The text is a comment and nothing else, and yet it gives a logical line. -/
theorem ofText_commentComesBack :
    EndsInComment "# note \\".toList ∧ ofText "# note \\".toList = [⟨1, "# note".toList⟩] := by
  refine ⟨⟨[("# note \\".toList, 1)], ?_⟩, ?_⟩
  · decide +kernel
  · decide +kernel

end ConfigLine

end MuxLaunch
