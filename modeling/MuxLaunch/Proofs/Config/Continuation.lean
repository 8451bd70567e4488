import Mathlib.Algebra.Order.BigOperators.Group.List
import Mathlib.Algebra.Order.Group.Nat
import Mathlib.Data.List.DropRight
import MuxLaunch.Proofs.Config.Runs
import MuxLaunch.Proofs.Text.Content

/-! # Which lines are continued

A physical line goes on in the next one if it ends in exactly one backslash. Read as pairs, any odd
number of backslashes leaves one that escapes the line boundary, so three at the end of a line cut
a logical line in two. Nothing but the joining backslashes, the line boundaries and the blanks
around a logical line is dropped.
-/

namespace MuxLaunch

namespace ConfigLine

/-- The number of backslashes that a physical line ends in. -/
def backslashes (raw : List Char) : Nat :=
  (raw.rtakeWhile (· = '\\')).length

/-- When backslashes escape each other, does the last one escape the line boundary? -/
def endsOdd (raw : List Char) : Bool :=
  backslashes raw % 2 = 1

theorem backslashes_eq_zero (raw : List Char) :
    backslashes raw = 0 ↔ raw.getLast? ≠ some '\\' := by
  rcases List.eq_nil_or_concat' raw with rfl | ⟨before, last, rfl⟩
  · simp [backslashes]
  · by_cases isLast : last = '\\' <;> simp [backslashes, isLast]

theorem continues_iff_backslashes (raw : List Char) :
    continues raw = true ↔ backslashes raw = 1 := by
  rw [continues_iff]
  rcases List.eq_nil_or_concat' raw with rfl | ⟨before, last, rfl⟩
  · simp [EndsInBackslash, backslashes]
  · rw [endsInBackslash_concat, ← backslashes_eq_zero]
    by_cases isLast : last = '\\' <;> simp [backslashes, isLast]

theorem endsOdd_of_continues {raw : List Char} (goesOn : continues raw) : endsOdd raw := by
  simp [endsOdd, (continues_iff_backslashes raw).mp goesOn]

end ConfigLine

namespace LineRun

open ConfigLine

/-- Runs depend only on which of the lines go on. -/
theorem split_congr {goesOn goesOn' : List Char → Bool} {raws : List (List Char × Nat)}
    (same : ∀ raw ∈ raws, goesOn raw.1 = goesOn' raw.1) :
    split goesOn raws = split goesOn' raws := by
  have isWhole : (split goesOn' raws).flatten = raws := List.flatten_splitBy _ _
  have listed : ∀ run ∈ split goesOn' raws, ∀ raw ∈ run, goesOn raw.1 = goesOn' raw.1 := by
    intro run isRun raw inRun
    exact same raw (isWhole ▸ List.mem_flatten.mpr ⟨run, isRun, inRun⟩)
  refine List.splitBy_eq_iff.mpr ⟨isWhole.symm, List.nil_notMem_splitBy _ _, ?_, ?_⟩
  · intro run isRun
    refine (List.isChain_of_mem_splitBy isRun).imp_of_mem_imp ?_
    intro raw _ inRun _ goOn
    rw [listed run isRun raw inRun, goOn]
  · refine (List.isChain_getLast_head_splitBy _ raws).imp_of_mem_imp ?_
    rintro run next isRun - ⟨nonempty, nonempty', ends⟩
    refine ⟨nonempty, nonempty', ?_⟩
    rw [listed run isRun _ (List.getLast_mem nonempty), ends]

/-- Between them the runs have what the physical lines add. -/
theorem flatMap_joined (goesOn : List Char → Bool) (text : List Char) :
    (ofText goesOn text).flatMap (joined goesOn) = (Text.lines text).flatMap (piece goesOn) := by
  calc (ofText goesOn text).flatMap (joined goesOn)
      = (ofText goesOn text).flatten.flatMap fun raw => piece goesOn raw.1 := by
        rw [List.flatten_eq_flatMap, List.flatMap_assoc]
        rfl
    _ = (((Text.lines text).zipIdx 1).map (·.1)).flatMap (piece goesOn) := by
        rw [flatten_ofText, List.flatMap_map]
    _ = (Text.lines text).flatMap (piece goesOn) := by rw [List.zipIdx_map_fst]

/-- What a physical line adds and the backslash that joins it make up the whole line. -/
theorem piece_append (raw : List Char) :
    piece continues raw ++ (if continues raw then ['\\'] else []) = raw := by
  cases goesOn : continues raw with
  | false => simp [piece, goesOn]
  | true =>
      obtain ⟨before, rfl, -⟩ := (continues_iff raw).mp goesOn
      simp [piece, goesOn]

theorem length_piece_lt {raw : List Char} (odd : endsOdd raw) (notOne : continues raw = false) :
    (piece endsOdd raw).length < (piece continues raw).length := by
  have nonempty : raw ≠ [] := by
    rintro rfl
    cases odd
  have isLonger := List.length_pos_of_ne_nil nonempty
  simp only [piece, odd, notOne, if_true, Bool.false_eq_true, if_false, List.length_dropLast]
  omega

theorem length_piece_le (raw : List Char) :
    (piece endsOdd raw).length ≤ (piece continues raw).length := by
  cases odd : endsOdd raw with
  | false =>
      have notOne : continues raw = false := by
        by_contra goesOn
        simp [endsOdd_of_continues (by simpa using goesOn)] at odd
      simp [piece, odd, notOne]
  | true =>
      cases goesOn : continues raw with
      | false => exact (length_piece_lt odd goesOn).le
      | true => simp [piece, odd, goesOn]

end LineRun

namespace ConfigLine

open LineRun

/-- The logical lines of a text before any are dropped or trimmed. -/
def unfiltered (goesOn : List Char → Bool) (text : List Char) : List (List Char) :=
  (LineRun.ofText goesOn text).map (joined goesOn)

/-- A backslash more or less in three makes a difference: the logical lines are those of odd numbers
    of backslashes only if no physical line ends in an odd number greater than one. -/
theorem unfiltered_eq_iff (text : List Char) :
    unfiltered continues text = unfiltered endsOdd text ↔
      ∀ raw ∈ Text.lines text, endsOdd raw → backslashes raw = 1 := by
  constructor
  · intro same raw listed odd
    by_contra notOne
    -- A backslash that joins is dropped, so the odd reading keeps fewer characters.
    have shorter : ((Text.lines text).flatMap (piece endsOdd)).length <
        ((Text.lines text).flatMap (piece continues)).length := by
      rw [List.length_flatMap, List.length_flatMap]
      refine List.sum_lt_sum _ _ (fun raw _ => length_piece_le raw) ⟨raw, listed, ?_⟩
      refine length_piece_lt odd ?_
      simpa [← continues_iff_backslashes] using notOne
    rw [← flatMap_joined, ← flatMap_joined, List.flatMap, List.flatMap] at shorter
    exact shorter.ne (congrArg (List.length ∘ List.flatten) same.symm)
  · intro single
    have agree : ∀ raw ∈ Text.lines text, continues raw = endsOdd raw := by
      intro raw listed
      rw [Bool.eq_iff_iff]
      exact ⟨endsOdd_of_continues, fun odd =>
        (continues_iff_backslashes raw).mpr (single raw listed odd)⟩
    have sameRuns : LineRun.ofText continues text = LineRun.ofText endsOdd text := by
      refine split_congr fun raw listed => agree raw.1 ?_
      rw [← List.zipIdx_map_fst 1 (Text.lines text)]
      exact List.mem_map_of_mem listed
    rw [unfiltered, unfiltered, sameRuns]
    refine List.map_congr_left fun run isRun => List.flatMap_congr fun raw inRun => ?_
    rw [piece, piece, agree raw.1 (mem_lines_of_mem_ofText isRun inRun)]

/-- Nothing of a text is lost on the way to its logical lines but line boundaries, the backslashes
    that join physical lines, and the blanks around a logical line. -/
structure KeepsContent (text : List Char) : Prop where
  boundaries : (Text.lines text).flatten = text.filter (!Text.isLineBoundary ·)
  runs : (LineRun.ofText continues text).flatten.map (·.1) = Text.lines text
  backslashes : ∀ raw ∈ Text.lines text,
    piece continues raw ++ (if continues raw then ['\\'] else []) = raw
  blanks : ∀ run ∈ LineRun.ofText continues text, ∃ before after,
    run.joined continues = before ++ run.line.text ++ after ∧ ∀ c ∈ before ++ after, Text.isBlank c

theorem keepsContent (text : List Char) : KeepsContent text where
  boundaries := Text.flatten_lines text
  runs := map_flatten_ofText continues text
  backslashes raw _ := piece_append raw
  blanks run _ := Text.exists_trim (run.joined continues)

/-- A physical line is joined with the next one exactly if it ends in one backslash, and the logical
    lines are the texts of the runs, trimmed, without those that are dropped. As long as no physical
    line ends in three backslashes, or in another odd number of them, a physical line is joined
    exactly if its last backslash is not escaped. -/
theorem ofText_joins (text : List Char) :
    (ofText text).map (·.text) =
      ((LineRun.ofText continues text).filter isKept).map
        (fun run => Text.trim (run.joined continues)) ∧
    (∀ raw, continues raw = true ↔ backslashes raw = 1) ∧
    (unfiltered continues text = unfiltered endsOdd text ↔
      ∀ raw ∈ Text.lines text, endsOdd raw → backslashes raw = 1) ∧
    KeepsContent text := by
  refine ⟨?_, continues_iff_backslashes, unfiltered_eq_iff text, keepsContent text⟩
  rw [ofText_eq, List.map_map]
  rfl

/-- The last of three backslashes is not escaped, and yet the line is not continued. -/
theorem ofText_cutInTwo :
    backslashes "set prefix a\\\\\\".toList = 3 ∧
    unfiltered endsOdd "set prefix a\\\\\\\nb".toList = ["set prefix a\\\\b".toList] ∧
    unfiltered continues "set prefix a\\\\\\\nb".toList =
      ["set prefix a\\\\\\".toList, "b".toList] ∧
    ofText "set prefix a\\\\\\\nb".toList =
      [⟨1, "set prefix a\\\\\\".toList⟩, ⟨2, "b".toList⟩] := by
  decide +kernel

end ConfigLine

end MuxLaunch
