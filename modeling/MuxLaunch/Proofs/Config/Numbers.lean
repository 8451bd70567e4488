import MuxLaunch.Proofs.Config.Runs

/-! # Numbers of logical lines

Logical lines are numbered in the order of the physical lines. The number is that of the physical
line in which the text of the run begins, so a run that begins with a mere backslash is numbered
further down than it begins.
-/

namespace MuxLaunch

namespace LineRun

/-- The number of the first physical line. -/
def first? (run : LineRun) : Option Nat :=
  run.head?.map (·.2)

/-- The first physical line is a backslash and nothing else. -/
def BeginsEmpty (run : LineRun) : Prop :=
  run.head?.map (·.1) = some ['\\']

/-- The text of the run begins in the line of the number: nothing but backslashes is before it. -/
def TextBeginsAt (run : LineRun) (n : Nat) : Prop :=
  ∃ lone raw rest, run = lone ++ (raw, n) :: rest ∧ (∀ r ∈ lone, r.1 = ['\\']) ∧ raw ≠ ['\\']

/-- The physical lines of the runs are numbered on and on. -/
theorem pairwise_ofText (goesOn : List Char → Bool) (text : List Char) :
    (∀ run ∈ ofText goesOn text, run.Pairwise fun r s => r.2 < s.2) ∧
    (ofText goesOn text).Pairwise fun run next => ∀ r ∈ run, ∀ s ∈ next, r.2 < s.2 := by
  rw [← List.pairwise_flatten, flatten_ofText, ← List.pairwise_map, List.zipIdx_map_snd]
  exact List.pairwise_lt_range' 1

variable {run : LineRun}

theorem text_ne_nil_of_isKept (kept : run.isKept) : run.line.text ≠ [] := by
  intro noText
  simp [isKept, noText, ConfigLine.isIdle] at kept

theorem joined_ne_nil_of_isKept (kept : run.isKept) :
    run.joined ConfigLine.continues ≠ [] := by
  intro noText
  exact text_ne_nil_of_isKept kept (by rw [line, noText]; rfl)

/-- Mere backslashes make no logical line. -/
theorem textBeginsAt_of_isKept (kept : run.isKept) : run.TextBeginsAt run.number := by
  have isFound : (run.find? (·.1 ≠ ['\\'])).isSome := by
    by_contra notFound
    have allLone : ∀ raw ∈ run, raw.1 = ['\\'] := by
      simpa using notFound
    refine joined_ne_nil_of_isKept kept (List.flatMap_eq_nil_iff.mpr fun raw listed => ?_)
    rw [allLone raw listed]
    rfl
  obtain ⟨⟨raw, n⟩, found⟩ := Option.isSome_iff_exists.mp isFound
  obtain ⟨isMore, lone, rest, isRun, areLone⟩ := List.find?_eq_some_iff_append.mp found
  refine ⟨lone, raw, rest, ?_, by simpa using areLone, by simpa using isMore⟩
  rw [number, found]
  exact isRun

theorem TextBeginsAt.mem {n : Nat} (begins : run.TextBeginsAt n) : ∃ raw, (raw, n) ∈ run := by
  obtain ⟨lone, raw, rest, rfl, -, -⟩ := begins
  exact ⟨raw, by simp⟩

/-- The text begins in the first line unless that is a mere backslash. -/
theorem TextBeginsAt.first?_eq_iff {n : Nat} (begins : run.TextBeginsAt n)
    (numbered : run.Pairwise fun r s => r.2 < s.2) : run.first? = some n ↔ ¬run.BeginsEmpty := by
  obtain ⟨lone, raw, rest, rfl, areLone, isMore⟩ := begins
  cases lone with
  | nil => simp [first?, BeginsEmpty, isMore]
  | cons other lone =>
      have isLone : other.1 = ['\\'] := areLone other List.mem_cons_self
      have before : other.2 < n := (List.pairwise_cons.mp numbered).1 (raw, n) (by simp)
      simp [first?, BeginsEmpty, isLone, before.ne]

end LineRun

namespace ConfigLine

open LineRun

/-- The logical lines are those of the runs that give one. They are numbered in order, each with the
    number of the physical line in which the text of its run begins. That is the first line of the
    run exactly if this is not a mere backslash. -/
theorem ofText_isNumbered (text : List Char) :
    ofText text = ((LineRun.ofText continues text).filter isKept).map line ∧
    (ofText text).Pairwise (·.number < ·.number) ∧
    ∀ run ∈ (LineRun.ofText continues text).filter isKept,
      run.TextBeginsAt run.line.number ∧
      (run.first? = some run.line.number ↔ ¬run.BeginsEmpty) := by
  obtain ⟨within, across⟩ := pairwise_ofText continues text
  refine ⟨ofText_eq text, ?_, ?_⟩
  · rw [ofText_eq, List.pairwise_map]
    refine (across.filter isKept).imp_of_mem ?_
    intro run next isRun isNext before
    obtain ⟨raw, inRun⟩ := (textBeginsAt_of_isKept (List.mem_filter.mp isRun).2).mem
    obtain ⟨raw', inNext⟩ := (textBeginsAt_of_isKept (List.mem_filter.mp isNext).2).mem
    exact before _ inRun _ inNext
  · intro run isRun
    obtain ⟨listed, kept⟩ := List.mem_filter.mp isRun
    have begins := textBeginsAt_of_isKept kept
    exact ⟨begins, begins.first?_eq_iff (within run listed)⟩

/-- The only run begins in the first line, and its logical line bears the number of the second. -/
theorem ofText_numberedLate :
    LineRun.ofText continues "\\\nset mouse on".toList =
      [[(['\\'], 1), ("set mouse on".toList, 2)]] ∧
    ofText "\\\nset mouse on".toList = [⟨2, "set mouse on".toList⟩] := by
  decide +kernel

end ConfigLine

end MuxLaunch
