import MuxLaunch.Proofs.Config.LineByLine
import MuxLaunch.Proofs.Config.Lines
import MuxLaunch.Proofs.Config.Loading

/-! # Two configuration files in one

What a line does to the trees depends on neither the file that it stands in nor its number. So one
file with the texts of two does what the two do one after the other, and the causes differ only in
the places that they name.
-/

namespace MuxLaunch

/-- There is a file at the path, and this is its text. -/
def Storage.Holds (s : Storage) (path : String) (text : List Char) : Prop :=
  ∃ bytes, s.bytes path = .ok bytes ∧ Text.Utf8.decode bytes = .ok text

theorem Storage.Holds.readText_eq {s : Storage} {path : String} {text : List Char}
    (holds : s.Holds path text) : s.readText path = .ok (Text.unifyLineEnds text) := by
  obtain ⟨bytes, isFile, isText⟩ := holds
  simp only [readText, isFile, isText]

namespace Config

/-- What is wrong with a line. -/
structure Complaint where
  number : Nat
  text : String
  command : List String
  deriving Repr, DecidableEq

/-- The cause that comes of a complaint in a file where its line stands further down. -/
def Complaint.cause (path : String) (offset : Nat) (c : Complaint) : Cause :=
  ⟨path ++ ":" ++ toString (c.number + offset) ++ ": " ++ c.text, c.command⟩

/-- What lines come to in any file and wherever in it they stand. -/
def ComeTo (ts : OptionTrees) (lines : List ConfigLine) (count : Nat) (us : OptionTrees)
    (complaints : List Complaint) : Prop :=
  ∀ path offset (r : CommandRunner), r.trees = ts →
    ∃ r', runLines path r (lines.map (.shift offset)) = (count, r') ∧ r'.trees = us ∧
      r'.causes = r.causes ++ complaints.map (Complaint.cause path offset)

theorem exists_comes_anywhere (ts : OptionTrees) (line : ConfigLine) :
    ∃ us count, ∃ complaints : List Complaint, ∀ path offset, ∃ outcome,
      Comes path ts (line.shift offset) outcome us ∧ [outcome].count .succeeded = count ∧
        outcome.cause?.toList = complaints.map (Complaint.cause path offset) := by
  obtain ⟨outcome, us, comes⟩ := exists_comes "" ts line
  cases comes with
  | @succeeded command _ notes isRead someCommand executed =>
      exact ⟨us, 1, [], fun path offset =>
        ⟨.succeeded, .succeeded isRead someCommand executed, rfl, rfl⟩⟩
  | @refused command f isRead someCommand refused =>
      exact ⟨ts, 0, [⟨line.number, f.message, command⟩], fun path offset =>
        ⟨.failed ⟨place path (line.shift offset) ++ f.message, command⟩,
          .refused isRead someCommand refused, rfl, rfl⟩⟩
  | @unreadable f isRead =>
      exact ⟨ts, 0, [⟨line.number, f.message, []⟩], fun path offset =>
        ⟨.failed ⟨place path (line.shift offset) ++ f.message, []⟩, .unreadable isRead, rfl, rfl⟩⟩
  | idle isRead => exact ⟨ts, 0, [], fun path offset => ⟨.idle, .idle isRead, rfl, rfl⟩⟩

theorem exists_comeTo (ts : OptionTrees) (lines : List ConfigLine) :
    ∃ count us complaints, ComeTo ts lines count us complaints := by
  induction lines generalizing ts with
  | nil => exact ⟨0, ts, [], fun _ _ r same => ⟨r, rfl, same, (List.append_nil _).symm⟩⟩
  | cons line rest ih =>
      obtain ⟨us, one, complaint, comes⟩ := exists_comes_anywhere ts line
      obtain ⟨others, vs, complaints, comeTo⟩ := ih us
      refine ⟨others + one, vs, complaint ++ complaints, ?_⟩
      rintro path offset r rfl
      obtain ⟨outcome, comesHere, isCounted, isCause⟩ := comes path offset
      obtain ⟨next, trees, causes, isRun⟩ :=
        runLines_cons comesHere (rest.map (ConfigLine.shift offset))
      obtain ⟨last, isLast, lastTrees, lastCauses⟩ := comeTo path offset next trees
      refine ⟨last, ?_, lastTrees, ?_⟩
      · rw [List.map_cons, isRun, isLast, isCounted]
      · rw [lastCauses, causes, isCause, List.map_append, List.append_assoc]

theorem load_of_holds {s : Storage} {path : String} {text : List Char} (holds : s.Holds path text)
    (isOptional : Bool) (r : CommandRunner) :
    load s path isOptional r =
      .ok (runLines path (r.note ⟨.configFound, "Loading config file " ++ path⟩)
        (ConfigLine.ofText text)) := by
  simp only [load, holds.readText_eq, ConfigLine.ofText_unifyLineEnds]

/-- What a text comes to when it is loaded is the same in any file. -/
theorem ComeTo.load_eq {ts us : OptionTrees} {text : List Char} {count : Nat}
    {complaints : List Complaint} (comeTo : ComeTo ts (ConfigLine.ofText text) count us complaints)
    {s : Storage} {path : String} (holds : s.Holds path text) (isOptional : Bool)
    {r : CommandRunner} (same : r.trees = ts) :
    ∃ r', load s path isOptional r = .ok (count, r') ∧ r'.trees = us ∧
      r'.causes = r.causes ++ complaints.map (Complaint.cause path 0) := by
  obtain ⟨r', isRun, trees, causes⟩ :=
    comeTo path 0 (r.note ⟨.configFound, "Loading config file " ++ path⟩) same
  rw [ConfigLine.map_shift_zero] at isRun
  exact ⟨r', by rw [load_of_holds holds, isRun], trees, causes⟩

/-- The logical lines of two texts, the first of which ends with a complete line, are those of the
    first and then those of the second, further down. So a file with both texts leaves the same
    trees and the same count as a file with the first and then a file with the second, and the same
    causes but for the places that they name. -/
theorem load_concatenated {first second : List Char} (ends : Text.EndsLine first second)
    (complete : ConfigLine.IsComplete (Text.lines first)) :
    ConfigLine.ofText (first ++ second) =
        ConfigLine.ofText first ++
          (ConfigLine.ofText second).map (.shift (Text.lines first).length) ∧
      ∀ {s s₁ s₂ : Storage} {path path₁ path₂ : String}, s.Holds path (first ++ second) →
        s₁.Holds path₁ first → s₂.Holds path₂ second →
        ∀ (isOptional isOptional₁ isOptional₂ : Bool) (r : CommandRunner),
        ∃ count₁ count₂ r₁ r₂ r', ∃ complaints₁ complaints₂ : List Complaint,
          load s₁ path₁ isOptional₁ r = .ok (count₁, r₁) ∧
          load s₂ path₂ isOptional₂ r₁ = .ok (count₂, r₂) ∧
          load s path isOptional r = .ok (count₁ + count₂, r') ∧
          r'.trees = r₂.trees ∧
          r₁.causes = r.causes ++ complaints₁.map (Complaint.cause path₁ 0) ∧
          r₂.causes = r₁.causes ++ complaints₂.map (Complaint.cause path₂ 0) ∧
          r'.causes = r.causes ++ (complaints₁.map (Complaint.cause path 0) ++
            complaints₂.map (Complaint.cause path (Text.lines first).length)) := by
  have isCut := ConfigLine.ofText_append ends complete
  refine ⟨isCut, ?_⟩
  intro s s₁ s₂ path path₁ path₂ holds holds₁ holds₂ isOptional isOptional₁ isOptional₂ r
  obtain ⟨count₁, us, complaints₁, comeTo₁⟩ := exists_comeTo r.trees (ConfigLine.ofText first)
  obtain ⟨count₂, vs, complaints₂, comeTo₂⟩ := exists_comeTo us (ConfigLine.ofText second)
  obtain ⟨r₁, isLoaded₁, trees₁, causes₁⟩ := comeTo₁.load_eq holds₁ isOptional₁ rfl
  obtain ⟨r₂, isLoaded₂, trees₂, causes₂⟩ := comeTo₂.load_eq holds₂ isOptional₂ trees₁
  obtain ⟨middle, isFirst, middleTrees, middleCauses⟩ :=
    comeTo₁ path 0 (r.note ⟨.configFound, "Loading config file " ++ path⟩) rfl
  obtain ⟨r', isSecond, trees, causes⟩ :=
    comeTo₂ path (Text.lines first).length middle middleTrees
  rw [ConfigLine.map_shift_zero] at isFirst
  refine ⟨count₁, count₂, r₁, r₂, r', complaints₁, complaints₂, isLoaded₁, isLoaded₂, ?_,
    trees.trans trees₂.symm, causes₁, causes₂, ?_⟩
  · rw [load_of_holds holds, isCut, runLines_append, isFirst, isSecond]
  · rw [causes, middleCauses, List.append_assoc]
    rfl

def upperPart : String := "bogus \\\n x\r\nset mouse on\n"

def lowerPart : String := "bogus\nset prefix C-a"

/-- Two files, and one with the texts of both. -/
def partitioned : Storage where
  files := ⟨[([], .directory 0o755 0),
    (["upper"], .file 0o644 0 (Text.Utf8.encode upperPart)),
    (["lower"], .file 0o644 0 (Text.Utf8.encode lowerPart)),
    (["whole"], .file 0o644 0 (Text.Utf8.encode (upperPart ++ lowerPart)))]⟩
  workingDirectory := some "/"
  user := 0
  failing := []
  rules := .linux

theorem load_concatenated_partitioned :
    Text.EndsLine upperPart.toList lowerPart.toList ∧
      ConfigLine.IsComplete (Text.lines upperPart.toList) ∧
      partitioned.Holds "/upper" upperPart.toList ∧ partitioned.Holds "/lower" lowerPart.toList ∧
      partitioned.Holds "/whole" (upperPart.toList ++ lowerPart.toList) ∧
      ConfigLine.ofText (upperPart.toList ++ lowerPart.toList) =
        [⟨1, "bogus  x".toList⟩, ⟨3, "set mouse on".toList⟩, ⟨4, "bogus".toList⟩,
          ⟨5, "set prefix C-a".toList⟩] ∧
      ∃ count₁ count₂ r₁ r₂ r',
        load partitioned "/upper" false { trees := .initial .empty "/bin/sh" none } =
          .ok (count₁, r₁) ∧
        load partitioned "/lower" false r₁ = .ok (count₂, r₂) ∧
        load partitioned "/whole" false { trees := .initial .empty "/bin/sh" none } =
          .ok (count₁ + count₂, r') ∧
        r'.trees = r₂.trees := by
  have ends : Text.EndsLine upperPart.toList lowerPart.toList := .of_lineFeed rfl
  have complete : ConfigLine.IsComplete (Text.lines upperPart.toList) := by
    intro raw isLast
    obtain rfl := Option.some.inj isLast
    rw [← ConfigLine.continues_iff]
    decide
  have holds : partitioned.Holds "/whole" (upperPart.toList ++ lowerPart.toList) := ⟨_, rfl, rfl⟩
  have holds₁ : partitioned.Holds "/upper" upperPart.toList := ⟨_, rfl, rfl⟩
  have holds₂ : partitioned.Holds "/lower" lowerPart.toList := ⟨_, rfl, rfl⟩
  obtain ⟨isCut, loads⟩ := load_concatenated ends complete
  obtain ⟨count₁, count₂, r₁, r₂, r', _, _, isLoaded₁, isLoaded₂, isLoaded, trees, _⟩ :=
    loads holds holds₁ holds₂ false false false { trees := .initial .empty "/bin/sh" none }
  refine ⟨ends, complete, holds₁, holds₂, holds, isCut.trans ?_, count₁, count₂, r₁, r₂, r',
    isLoaded₁, isLoaded₂, isLoaded, trees⟩
  decide +kernel

end Config

end MuxLaunch
