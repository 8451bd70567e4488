import Mathlib.Data.List.SplitBy
import MuxLaunch.Proofs.Config.Lines

/-! # Runs of physical lines

A text falls into runs of physical lines. In a run every line but the last goes on in the next one.
Each logical line is made of one run, and a run gives at most one logical line.
-/

namespace MuxLaunch

/-- Physical lines that follow on each other, with their numbers. -/
abbrev LineRun := List (List Char × Nat)

namespace LineRun

/-- Split numbered lines into runs, when some lines go on in the next one. -/
def split (goesOn : List Char → Bool) (raws : List (List Char × Nat)) : List LineRun :=
  raws.splitBy fun raw _ => goesOn raw.1

/-- The runs of a text. -/
def ofText (goesOn : List Char → Bool) (text : List Char) : List LineRun :=
  split goesOn ((Text.lines text).zipIdx 1)

/-- What a physical line adds to its run: all but the backslash that it goes on with. -/
def piece (goesOn : List Char → Bool) (raw : List Char) : List Char :=
  if goesOn raw then raw.dropLast else raw

/-- The text of a run. -/
def joined (goesOn : List Char → Bool) (run : LineRun) : List Char :=
  run.flatMap fun raw => piece goesOn raw.1

/-- The run is cut off by the end of the text. -/
def isOpen (run : LineRun) : Bool :=
  run.getLast?.any (ConfigLine.continues ·.1)

/-- The number of the first line that is more than a backslash. -/
def number (run : LineRun) : Nat :=
  ((run.find? (·.1 ≠ ['\\'])).map (·.2)).getD 0

/-- The logical line that is made of a run. -/
def line (run : LineRun) : ConfigLine :=
  ⟨run.number, Text.trim (run.joined ConfigLine.continues)⟩

/-- Does a run give a logical line? None comes of a blank run, and none of a comment unless the
    comment is cut off. -/
def isKept (run : LineRun) : Bool :=
  if run.isOpen then run.line.text ≠ [] else !ConfigLine.isIdle run.line.text

open ConfigLine (continues)

variable {run : LineRun}

theorem flatten_ofText (goesOn : List Char → Bool) (text : List Char) :
    (ofText goesOn text).flatten = (Text.lines text).zipIdx 1 :=
  List.flatten_splitBy _ _

/-- The runs hold the physical lines of the text in order. -/
theorem map_flatten_ofText (goesOn : List Char → Bool) (text : List Char) :
    (ofText goesOn text).flatten.map (·.1) = Text.lines text := by
  rw [flatten_ofText, List.zipIdx_map_fst]

theorem mem_lines_of_mem_ofText {goesOn : List Char → Bool} {text : List Char}
    (isRun : run ∈ ofText goesOn text) {raw : List Char × Nat} (inRun : raw ∈ run) :
    raw.1 ∈ Text.lines text := by
  rw [← map_flatten_ofText goesOn text]
  exact List.mem_map_of_mem (List.mem_flatten.mpr ⟨run, isRun, inRun⟩)

theorem joined_nil (goesOn : List Char → Bool) : joined goesOn [] = [] := rfl

theorem joined_concat (goesOn : List Char → Bool) (run : LineRun) (raw : List Char × Nat) :
    joined goesOn (run ++ [raw]) = joined goesOn run ++ piece goesOn raw.1 := by
  simp [joined]

theorem isOpen_concat (run : LineRun) (raw : List Char × Nat) :
    isOpen (run ++ [raw]) = continues raw.1 := by
  simp [isOpen]

/-- A line that is continued adds nothing to its run exactly if it is a mere backslash. -/
theorem piece_eq_nil {raw : List Char} (goesOn : continues raw) :
    piece continues raw = [] ↔ raw = ['\\'] := by
  obtain ⟨before, rfl, -⟩ := (ConfigLine.continues_iff raw).mp goesOn
  simp [piece, goesOn]

theorem joined_eq_nil (goOn : ∀ raw ∈ run, continues raw.1) :
    joined continues run = [] ↔ ∀ raw ∈ run, raw.1 = ['\\'] := by
  rw [joined, List.flatMap_eq_nil_iff]
  exact forall₂_congr fun raw listed => piece_eq_nil (goOn raw listed)

theorem number_append (goOn : ∀ raw ∈ run, continues raw.1)
    (someText : joined continues run ≠ []) (more : LineRun) :
    number (run ++ more) = number run := by
  have isFound : (run.find? (·.1 ≠ ['\\'])).isSome := by
    rw [Ne, joined_eq_nil goOn] at someText
    simpa using someText
  obtain ⟨raw, found⟩ := Option.isSome_iff_exists.mp isFound
  rw [number, number, List.find?_append, found]
  rfl

theorem number_concat (goOn : ∀ raw ∈ run, continues raw.1) (noText : joined continues run = [])
    {raw : List Char} (isMore : raw ≠ ['\\']) (next : Nat) :
    number (run ++ [(raw, next)]) = next := by
  have notFound : run.find? (·.1 ≠ ['\\']) = none := by
    simpa using (joined_eq_nil goOn).mp noText
  rw [number, List.find?_append, notFound]
  simp [isMore]

theorem isChain_of_goOn {goesOn : List Char → Bool} (goOn : ∀ raw ∈ run, goesOn raw.1) :
    run.IsChain fun raw _ => goesOn raw.1 :=
  (List.pairwise_of_forall_mem_list fun raw listed _ _ => goOn raw listed).isChain

/-- Lines that all go on are one run. -/
theorem split_open {goesOn : List Char → Bool} (nonempty : run ≠ [])
    (goOn : ∀ raw ∈ run, goesOn raw.1) : split goesOn run = [run] :=
  List.splitBy_of_isChain nonempty (isChain_of_goOn goOn)

/-- A line that does not go on ends its run. -/
theorem split_append_cons {goesOn : List Char → Bool} (goOn : ∀ raw ∈ run, goesOn raw.1)
    {raw : List Char × Nat} (ends : goesOn raw.1 = false) (rest : List (List Char × Nat)) :
    split goesOn (run ++ raw :: rest) = (run ++ [raw]) :: split goesOn rest := by
  have isChain : (run ++ [raw]).IsChain fun first _ => goesOn first.1 := by
    refine List.isChain_append.mpr ⟨isChain_of_goOn goOn, .singleton raw, ?_⟩
    intro last isLast _ _
    exact goOn last (List.mem_of_getLast? isLast)
  rw [split, List.append_cons, List.splitBy_append, List.splitBy_of_isChain (by simp) isChain]
  · rfl
  · simp [ends]

end LineRun

namespace ConfigLine

open LineRun

/-- With a run begun, joining gives the logical lines of the runs that it and the lines to come fall
    into. -/
theorem join_eq {run : LineRun} (goOn : ∀ raw ∈ run, continues raw.1)
    {start : Nat} (begins : run.joined continues ≠ [] → start = run.number) (next : Nat)
    (raws : List (List Char)) :
    join (run.joined continues) start next raws =
      ((split continues (run ++ raws.zipIdx next)).filter isKept).map line := by
  induction raws generalizing run start next with
  | nil =>
      rw [List.zipIdx_nil, List.append_nil]
      rcases List.eq_nil_or_concat' run with rfl | ⟨before, last, rfl⟩
      · rfl
      · have isCut : isOpen (before ++ [last]) = true :=
          (isOpen_concat before last).trans (goOn last (by simp))
        rw [split_open (by simp) goOn]
        by_cases isBlank : Text.trim (joined continues (before ++ [last])) = []
        · simp [join, isKept, isCut, line, isBlank]
        · have someText : joined continues (before ++ [last]) ≠ [] := by
            intro noText
            exact isBlank (by rw [noText]; rfl)
          simp [join, isKept, isCut, line, isBlank, begins someText]
  | cons raw rest ih =>
      -- Mere backslashes do not begin a run: the number moves on until a line adds to the text.
      have starts : joined continues run ≠ [] ∨ raw ≠ ['\\'] →
          (if run.joined continues = [] then next else start) = (run ++ [(raw, next)]).number := by
        intro isMore
        split
        · rename_i noText
          exact (number_concat goOn noText (isMore.resolve_left (not_not_intro noText)) next).symm
        · rename_i someText
          rw [begins someText, number_append goOn someText]
      rw [List.zipIdx_cons, join]
      cases isContinued : continues raw with
      | true =>
          have goOn' : ∀ raw' ∈ run ++ [(raw, next)], continues raw'.1 := by
            simpa [or_imp, forall_and, isContinued] using goOn
          have isJoined : joined continues (run ++ [(raw, next)]) =
              joined continues run ++ raw.dropLast := by
            simp [joined_concat, piece, isContinued]
          rw [if_pos rfl, List.append_cons run _ (rest.zipIdx (next + 1)), ← isJoined]
          refine ih goOn' (fun someText => starts ?_) (next + 1)
          rw [isJoined] at someText
          by_contra isLess
          obtain ⟨noText, rfl⟩ : joined continues run = [] ∧ raw = ['\\'] := by
            simpa [not_or] using isLess
          exact someText (by rw [noText]; rfl)
      | false =>
          have isJoined : joined continues (run ++ [(raw, next)]) =
              joined continues run ++ raw := by
            simp [joined_concat, piece, isContinued]
          have begun := starts (.inr (by rintro rfl; cases isContinued))
          -- The next run begins empty, so it does not matter what its number is taken to be.
          have goesOn := @ih [] (by simp) (run ++ [(raw, next)]).number
            (fun someText => absurd rfl someText) (next + 1)
          have isCut : isOpen (run ++ [(raw, next)]) = false :=
            (isOpen_concat run (raw, next)).trans isContinued
          rw [joined_nil, List.nil_append] at goesOn
          rw [split_append_cons goOn isContinued]
          simp only [begun, goesOn, ← isJoined, List.filter_cons, isKept, isCut, line]
          cases isIdle (Text.trim (joined continues (run ++ [(raw, next)]))) with
          | true => rfl
          | false => rfl

theorem ofText_eq (text : List Char) :
    ofText text = ((LineRun.ofText continues text).filter isKept).map line :=
  @join_eq [] (by simp) 0 (fun someText => absurd (joined_nil _) someText) 1 (Text.lines text)

variable {text : List Char}

theorem mem_ofText {line : ConfigLine} :
    line ∈ ofText text ↔ ∃ run ∈ LineRun.ofText continues text, run.isKept ∧ run.line = line := by
  simp only [ofText_eq, List.mem_map, List.mem_filter, and_assoc]

/-- A last run that is kept gives the last logical line. -/
theorem getLast?_ofText {run : LineRun}
    (isLast : (LineRun.ofText continues text).getLast? = some run) (kept : run.isKept) :
    (ofText text).getLast? = some run.line := by
  obtain ⟨before, isSplit⟩ := List.getLast?_eq_some_iff.mp isLast
  rw [ofText_eq, isSplit, List.filter_append, List.filter_cons_of_pos kept, List.filter_nil,
    List.map_append]
  exact List.getLast?_concat

end ConfigLine

end MuxLaunch
