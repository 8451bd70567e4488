import MuxLaunch.Config.Lines
import MuxLaunch.Proofs.Text.Lines

/-! # Logical lines of two texts

Physical lines that follow on a line that is complete are joined as if they stood alone, but for
their numbers.
-/

namespace MuxLaunch.ConfigLine

/-- The line further down. -/
def shift (offset : Nat) (line : ConfigLine) : ConfigLine :=
  { line with number := line.number + offset }

theorem map_shift_zero (lines : List ConfigLine) : lines.map (shift 0) = lines :=
  List.map_id _

/-- The physical line ends in a backslash that no other backslash stands before. -/
def EndsInBackslash (raw : List Char) : Prop :=
  ∃ before, raw = before ++ ['\\'] ∧ before.getLast? ≠ some '\\'

theorem endsInBackslash_concat (before : List Char) (last : Char) :
    EndsInBackslash (before ++ [last]) ↔ last = '\\' ∧ before.getLast? ≠ some '\\' := by
  constructor
  · rintro ⟨others, same, single⟩
    obtain ⟨rfl, isLast⟩ := List.append_inj' same rfl
    exact ⟨List.singleton_inj.mp isLast, single⟩
  · rintro ⟨rfl, single⟩
    exact ⟨before, rfl, single⟩

theorem continues_iff (raw : List Char) : continues raw = true ↔ EndsInBackslash raw := by
  rcases List.eq_nil_or_concat raw with rfl | ⟨before, last, rfl⟩
  · simp [continues, EndsInBackslash]
  · rw [List.concat_eq_append, endsInBackslash_concat, continues, List.reverse_concat,
      List.getLast?_eq_head?_reverse]
    cases before.reverse with
    | nil => by_cases isLast : last = '\\' <;> simp [isLast]
    | cons second others =>
        by_cases isLast : last = '\\' <;> by_cases isSecond : second = '\\' <;>
          simp [isLast, isSecond]

/-- No physical line is left to be continued. -/
def IsComplete (raws : List (List Char)) : Prop :=
  ∀ raw, raws.getLast? = some raw → ¬EndsInBackslash raw

theorem IsComplete.tail {raw : List Char} {rest : List (List Char)}
    (complete : IsComplete (raw :: rest)) : IsComplete rest :=
  fun last isLast => complete last (by rw [List.getLast?_cons, isLast]; rfl)

/-- Where nothing is pending, it makes no difference where that began. -/
theorem join_start (start start' number : Nat) (raws : List (List Char)) :
    join [] start number raws = join [] start' number raws := by
  cases raws <;> rfl

theorem join_shift (offset : Nat) (pending : List Char) (start number : Nat)
    (raws : List (List Char)) :
    join pending (start + offset) (number + offset) raws =
      (join pending start number raws).map (shift offset) := by
  induction raws generalizing pending start number with
  | nil =>
      simp only [join]
      split <;> rfl
  | cons raw rest ih =>
      have begins : (if pending = [] then number + offset else start + offset) =
          (if pending = [] then number else start) + offset := by
        split <;> rfl
      simp only [join, begins, Nat.add_right_comm number offset 1, ih]
      split
      · rfl
      · split <;> rfl

theorem join_append {first : List (List Char)} (complete : IsComplete first)
    {pending : List Char} (nothingPends : first = [] → pending = []) (start number : Nat)
    (second : List (List Char)) :
    join pending start number (first ++ second) =
      join pending start number first ++ join [] 0 (number + first.length) second := by
  induction first generalizing pending start number with
  | nil =>
      rw [nothingPends rfl]
      exact join_start start 0 number second
  | cons raw rest ih =>
      have goOn := @ih complete.tail
      have further : number + (raw :: rest).length = number + 1 + rest.length := by
        rw [List.length_cons]
        omega
      rw [further]
      simp only [List.cons_append, join]
      cases isContinued : continues raw with
      | true =>
          -- The last line is not continued, so another line comes after this one.
          have someRest : rest ≠ [] := by
            rintro rfl
            exact complete raw rfl ((continues_iff raw).mp isContinued)
          exact goOn (fun noRest => absurd noRest someRest) _ _
      | false =>
          simp only [Bool.false_eq_true, if_false, goOn fun _ => rfl]
          split <;> rfl

theorem ofText_append {first second : List Char} (ends : Text.EndsLine first second)
    (complete : IsComplete (Text.lines first)) :
    ofText (first ++ second) =
      ofText first ++ (ofText second).map (shift (Text.lines first).length) := by
  calc ofText (first ++ second)
      = join [] 0 1 (Text.lines first ++ Text.lines second) := by
        rw [ofText, Text.lines_append ends]
    _ = ofText first ++ join [] 0 (1 + (Text.lines first).length) (Text.lines second) :=
        join_append complete (fun _ => rfl) 0 1 _
    _ = ofText first ++ join [] (0 + (Text.lines first).length) (1 + (Text.lines first).length)
          (Text.lines second) := by rw [join_start]
    _ = ofText first ++ (ofText second).map (shift (Text.lines first).length) := by
        rw [join_shift, ofText, ofText]

theorem ofText_unifyLineEnds (text : List Char) :
    ofText (Text.unifyLineEnds text) = ofText text := by
  rw [ofText, ofText, Text.lines_unifyLineEnds]

end MuxLaunch.ConfigLine
