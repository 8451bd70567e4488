import MuxLaunch.Proofs.Config.Comments
import MuxLaunch.Proofs.Config.Loading

/-! # A configuration line by line

Every logical line of a configuration file is a command that succeeds, a cause that begins with its
place, or nothing at all. The next line finds the trees as they are left by the lines that have
succeeded, so the others might as well not be there.
-/

namespace MuxLaunch

namespace Words

theorem isBlank_of_isSeparator {c : Char} (isSeparator : isSeparator c = true) :
    Text.isBlank c = true := by
  simp only [Words.isSeparator, Bool.or_eq_true, decide_eq_true_eq] at isSeparator
  rcases isSeparator with ((rfl | rfl) | rfl) | rfl <;> rfl

/-- A word that has begun is a word. -/
theorem read_ne_nil (place : WordPlace) (word text : List Char) (begun : place ≠ .between) :
    read place word text ≠ .ok [] := by
  induction text generalizing place word with
  | nil => cases place <;> simp [read] at begun ⊢
  | cons c rest ih =>
      cases place with
      | between => exact absurd rfl begun
      | inside =>
          simp only [read]
          split
          · cases read .between [] rest <;> nofun
          · split
            · nofun
            · split
              · exact ih _ _ nofun
              · split <;> exact ih _ _ nofun
      | quoted mark =>
          simp only [read]
          split
          · exact ih _ _ nofun
          · split <;> exact ih _ _ nofun
      | escaped mark => cases mark <;> exact ih _ _ nofun

/-- A line that begins with no blank has no words exactly when it is a comment. -/
theorem ofLine_eq_nil {text : List Char} (tidy : Text.IsTidy text) :
    ofLine text = .ok [] ↔ text.head? = some '#' := by
  cases text with
  | nil => exact absurd rfl tidy.nonempty
  | cons c rest =>
      have noSeparator : ¬isSeparator c = true := fun isSeparator => by
        have notBlank := tidy.head c rfl
        rw [isBlank_of_isSeparator isSeparator] at notBlank
        cases notBlank
      have isRead : ofLine (c :: rest) = .ok [] ↔ read .between [] (c :: rest) = .ok [] := by
        unfold ofLine
        cases read .between [] (c :: rest) with
        | error f => exact ⟨nofun, nofun⟩
        | ok words => cases words <;> simp [Except.map]
      rw [isRead, List.head?_cons, Option.some_inj, read, if_neg noSeparator]
      by_cases isComment : c = '#'
      · simp [isComment]
      · rw [if_neg isComment]
        refine ⟨fun noWords => ?_, fun same => absurd same isComment⟩
        split at noWords
        · exact absurd noWords (read_ne_nil _ _ _ nofun)
        · split at noWords <;> exact absurd noWords (read_ne_nil _ _ _ nofun)

end Words

def ConfigLine.isComment (line : ConfigLine) : Bool :=
  line.text.head? = some '#'

namespace Config

/-- What a line comes to. -/
inductive LineOutcome where
  | succeeded
  | failed (cause : Cause)
  /-- There is no command in the line. -/
  | idle
  deriving Repr, DecidableEq

def LineOutcome.cause? : LineOutcome → Option Cause
  | failed cause => some cause
  | _ => none

def LineOutcome.isIdle (outcome : LineOutcome) : Bool :=
  outcome = .idle

/-- How the causes of a line begin. -/
def place (path : String) (line : ConfigLine) : String :=
  path ++ ":" ++ toString line.number ++ ": "

/-- What a line comes to on some trees, and the trees after it. -/
inductive Comes (path : String) (ts : OptionTrees) (line : ConfigLine) :
    LineOutcome → OptionTrees → Prop
  | succeeded {command : List String} {us : OptionTrees} {notes : List Note} :
      Words.ofLine line.text = .ok command → command ≠ [] →
        CommandRunner.execute ts command = .ok (us, notes) → Comes path ts line .succeeded us
  | refused {command : List String} {f : CommandFault} :
      Words.ofLine line.text = .ok command → command ≠ [] →
        CommandRunner.execute ts command = .error f →
          Comes path ts line (.failed ⟨place path line ++ f.message, command⟩) ts
  | unreadable {f : WordFault} :
      Words.ofLine line.text = .error f →
        Comes path ts line (.failed ⟨place path line ++ f.message, []⟩) ts
  | idle : Words.ofLine line.text = .ok [] → Comes path ts line .idle ts

/-- What lines come to one after another. -/
inductive Unfolds (path : String) :
    OptionTrees → List ConfigLine → List LineOutcome → OptionTrees → Prop
  | nil (ts : OptionTrees) : Unfolds path ts [] [] ts
  | cons {ts us vs : OptionTrees} {line : ConfigLine} {rest : List ConfigLine}
      {outcome : LineOutcome} {outcomes : List LineOutcome} :
      Comes path ts line outcome us → Unfolds path us rest outcomes vs →
        Unfolds path ts (line :: rest) (outcome :: outcomes) vs

/-- The lines that have succeeded. -/
def succeeding : List ConfigLine → List LineOutcome → List ConfigLine
  | line :: lines, .succeeded :: outcomes => line :: succeeding lines outcomes
  | _ :: lines, _ :: outcomes => succeeding lines outcomes
  | _, _ => []

/-- The account of a load: it goes line by line and counts the successes, and it adds a cause for
    each failure to the causes that were there. Each line is one of these or idle. Without the lines
    that have not succeeded the trees and the count are the same, and no cause is added. -/
structure IsAccount (path : String) (r : CommandRunner) (lines : List ConfigLine)
    (outcomes : List LineOutcome) (loaded : Nat × CommandRunner) : Prop where
  unfolds : Unfolds path r.trees lines outcomes loaded.2.trees
  count : loaded.1 = outcomes.count .succeeded
  causes : loaded.2.causes = r.causes ++ outcomes.filterMap LineOutcome.cause?
  complete :
    loaded.1 + (outcomes.filterMap LineOutcome.cause?).length + outcomes.count .idle = lines.length
  alone : ∀ other : CommandRunner, other.trees = r.trees →
    (runLines path other (succeeding lines outcomes)).1 = (succeeding lines outcomes).length ∧
    (runLines path other (succeeding lines outcomes)).2.trees = loaded.2.trees ∧
    (runLines path other (succeeding lines outcomes)).2.causes = other.causes

variable {path : String} {ts us : OptionTrees} {line : ConfigLine} {outcome : LineOutcome}

theorem runDeferred_line {r : CommandRunner} {command : List String} {f : CommandFault}
    (refused : CommandRunner.execute r.trees command = .error f) (line : ConfigLine) :
    r.runDeferred command (some (path ++ ":" ++ toString line.number)) =
      (false, r.addCause (place path line ++ f.message) command) := by
  have named : path ++ ":" ++ toString line.number ≠ "" := by
    intro isEmpty
    have noLength := congrArg String.length isEmpty
    simp [String.length_append] at noLength
  rw [CommandRunner.runDeferred_of_error refused, Cause.ofFault, Option.getD_some, if_neg named]
  rfl

/-- A line leaves the trees that it comes to, and its cause after the earlier ones. -/
theorem runLines_cons {r : CommandRunner} (comes : Comes path r.trees line outcome us)
    (rest : List ConfigLine) :
    ∃ r' : CommandRunner, r'.trees = us ∧ r'.causes = r.causes ++ outcome.cause?.toList ∧
      runLines path r (line :: rest) =
        ((runLines path r' rest).1 + [outcome].count .succeeded, (runLines path r' rest).2) := by
  cases comes with
  | @succeeded command us notes isRead someCommand executed =>
      obtain ⟨name, words, rfl⟩ := List.exists_cons_of_ne_nil someCommand
      refine ⟨{ r with trees := us, notes := r.notes ++ notes }, rfl,
        (List.append_nil r.causes).symm, ?_⟩
      simp only [runLines, isRead, CommandRunner.runDeferred_of_ok executed]
      rfl
  | @refused command f isRead someCommand refused =>
      obtain ⟨name, words, rfl⟩ := List.exists_cons_of_ne_nil someCommand
      refine ⟨r.addCause (place path line ++ f.message) (name :: words), rfl, rfl, ?_⟩
      simp only [runLines, isRead, runDeferred_line refused]
      rfl
  | @unreadable f isRead =>
      refine ⟨r.addCause (place path line ++ f.message) [], rfl, rfl, ?_⟩
      simp only [runLines, isRead]
      rfl
  | idle isRead =>
      refine ⟨r, rfl, (List.append_nil r.causes).symm, ?_⟩
      simp only [runLines, isRead]
      rfl

theorem exists_comes (path : String) (ts : OptionTrees) (line : ConfigLine) :
    ∃ outcome us, Comes path ts line outcome us := by
  cases isRead : Words.ofLine line.text with
  | error f => exact ⟨_, _, .unreadable isRead⟩
  | ok command =>
      cases command with
      | nil => exact ⟨_, _, .idle isRead⟩
      | cons name words =>
          cases executed : CommandRunner.execute ts (name :: words) with
          | error f => exact ⟨_, _, .refused isRead (List.cons_ne_nil _ _) executed⟩
          | ok done => exact ⟨_, _, .succeeded isRead (List.cons_ne_nil _ _) executed⟩

/-- A line that fails or is idle leaves the trees as they are. -/
theorem Comes.trees_eq (comes : Comes path ts line outcome us) (failed : outcome ≠ .succeeded) :
    us = ts := by
  cases comes with
  | succeeded => exact absurd rfl failed
  | refused => rfl
  | unreadable => rfl
  | idle => rfl

/-- Without a line that has left the trees alone, the rest finds them as they were. -/
theorem runLines_succeeding {vs : OptionTrees} {rest : List ConfigLine}
    {outcomes : List LineOutcome} (comes : Comes path ts line outcome us)
    (alone : ∀ next : CommandRunner, next.trees = us →
      (runLines path next (succeeding rest outcomes)).1 = (succeeding rest outcomes).length ∧
      (runLines path next (succeeding rest outcomes)).2.trees = vs ∧
      (runLines path next (succeeding rest outcomes)).2.causes = next.causes)
    {other : CommandRunner} (same : other.trees = ts) :
    (runLines path other (succeeding (line :: rest) (outcome :: outcomes))).1 =
        (succeeding (line :: rest) (outcome :: outcomes)).length ∧
      (runLines path other (succeeding (line :: rest) (outcome :: outcomes))).2.trees = vs ∧
      (runLines path other (succeeding (line :: rest) (outcome :: outcomes))).2.causes =
        other.causes := by
  cases outcome with
  | failed cause => exact alone other (same.trans (comes.trees_eq nofun).symm)
  | idle => exact alone other (same.trans (comes.trees_eq nofun).symm)
  | succeeded =>
      have again : Comes path other.trees line .succeeded us := same ▸ comes
      obtain ⟨next, nextTrees, nextCauses, isNext⟩ := runLines_cons again (succeeding rest outcomes)
      obtain ⟨number, lastTrees, lastCauses⟩ := alone next nextTrees
      rw [succeeding, isNext]
      refine ⟨?_, lastTrees, ?_⟩
      · rw [number]
        rfl
      · rw [lastCauses, nextCauses]
        exact List.append_nil other.causes

/-- The account of the lines behind a line goes on that of the line. -/
theorem IsAccount.cons {r r' : CommandRunner} {rest : List ConfigLine}
    {outcomes : List LineOutcome} (comes : Comes path r.trees line outcome us)
    (others : IsAccount path r' rest outcomes (runLines path r' rest)) (trees : r'.trees = us)
    (causes : r'.causes = r.causes ++ outcome.cause?.toList) :
    IsAccount path r (line :: rest) (outcome :: outcomes)
      ((runLines path r' rest).1 + [outcome].count .succeeded, (runLines path r' rest).2) := by
  have count := others.count
  have complete := others.complete
  refine ⟨.cons comes (trees ▸ others.unfolds), ?_, ?_, ?_, fun other same =>
    runLines_succeeding comes (trees ▸ others.alone) same⟩
  · simp only [List.count_cons, List.count_nil, count]
    omega
  · simp only [others.causes, causes, List.append_assoc]
    cases outcome <;> rfl
  · cases outcome with
    | succeeded =>
        simp [List.filterMap_cons, LineOutcome.cause?] at complete ⊢
        omega
    | failed cause =>
        simp [LineOutcome.cause?] at complete ⊢
        omega
    | idle =>
        simp [List.filterMap_cons, LineOutcome.cause?] at complete ⊢
        omega

theorem runLines_isAccount (path : String) (r : CommandRunner) (lines : List ConfigLine) :
    ∃ outcomes, IsAccount path r lines outcomes (runLines path r lines) := by
  induction lines generalizing r with
  | nil =>
      exact ⟨[], .nil r.trees, rfl, (List.append_nil r.causes).symm, rfl,
        fun _ same => ⟨rfl, same, rfl⟩⟩
  | cons line rest ih =>
      obtain ⟨outcome, us, comes⟩ := exists_comes path r.trees line
      obtain ⟨r', trees, causes, isRun⟩ := runLines_cons comes rest
      obtain ⟨outcomes, others⟩ := ih r'
      rw [isRun]
      exact ⟨outcome :: outcomes, .cons comes others trees causes⟩

/-- What a line comes to follows from its words and from how the command goes. -/
theorem Comes.pair_eq (comes : Comes path ts line outcome us) :
    (outcome, us) =
      match Words.ofLine line.text with
      | .error f => (.failed ⟨place path line ++ f.message, []⟩, ts)
      | .ok [] => (.idle, ts)
      | .ok command =>
          match CommandRunner.execute ts command with
          | .ok (us, _) => (.succeeded, us)
          | .error f => (.failed ⟨place path line ++ f.message, command⟩, ts) := by
  cases comes with
  | @succeeded command us notes isRead someCommand executed =>
      obtain ⟨name, words, rfl⟩ := List.exists_cons_of_ne_nil someCommand
      simp only [isRead, executed]
  | @refused command f isRead someCommand refused =>
      obtain ⟨name, words, rfl⟩ := List.exists_cons_of_ne_nil someCommand
      simp only [isRead, refused]
  | unreadable isRead => simp only [isRead]
  | idle isRead => simp only [isRead]

/-- A line comes to one thing only. -/
theorem Comes.unique {outcome' : LineOutcome} {us' : OptionTrees}
    (comes : Comes path ts line outcome us) (other : Comes path ts line outcome' us') :
    outcome = outcome' ∧ us = us' :=
  Prod.mk.inj (comes.pair_eq.trans other.pair_eq.symm)

theorem Unfolds.unique {lines : List ConfigLine} {outcomes outcomes' : List LineOutcome}
    {us' : OptionTrees} (unfolds : Unfolds path ts lines outcomes us)
    (other : Unfolds path ts lines outcomes' us') : outcomes = outcomes' ∧ us = us' := by
  induction unfolds generalizing outcomes' us' with
  | nil =>
      cases other
      exact ⟨rfl, rfl⟩
  | cons comes _ ih =>
      cases other with
      | cons comesToo others =>
          obtain ⟨rfl, rfl⟩ := comes.unique comesToo
          obtain ⟨rfl, rfl⟩ := ih others
          exact ⟨rfl, rfl⟩

/-- A tidy line comes to nothing exactly when it is a comment. -/
theorem Comes.isIdle_eq (comes : Comes path ts line outcome us) (tidy : Text.IsTidy line.text) :
    outcome.isIdle = line.isComment := by
  have noWords : outcome = .idle ↔ Words.ofLine line.text = .ok [] := by
    cases comes with
    | succeeded isRead someCommand | refused isRead someCommand =>
        simp [isRead, someCommand]
    | unreadable isRead | idle isRead => simp [isRead]
  rw [LineOutcome.isIdle, ConfigLine.isComment, decide_eq_decide, noWords]
  exact Words.ofLine_eq_nil tidy

theorem Unfolds.map_isIdle {lines : List ConfigLine} {outcomes : List LineOutcome}
    (unfolds : Unfolds path ts lines outcomes us)
    (tidy : ∀ line ∈ lines, Text.IsTidy line.text) :
    outcomes.map LineOutcome.isIdle = lines.map ConfigLine.isComment := by
  induction unfolds with
  | nil => rfl
  | cons comes _ ih =>
      rw [List.map_cons, List.map_cons, comes.isIdle_eq (tidy _ List.mem_cons_self),
        ih fun line listed => tidy line (List.mem_cons_of_mem _ listed)]

/-- A configuration file that is text is loaded line by line, whatever is wrong with any line. There
    is only one thing that each line can come to, and only comments come to nothing. -/
theorem load_lineByLine {s : Storage} {path : String} {text : List Char}
    (isText : s.readText path = .ok text) (isOptional : Bool) (r : CommandRunner) :
    ∃ outcomes loaded, load s path isOptional r = .ok loaded ∧
      IsAccount path r (ConfigLine.ofText text) outcomes loaded ∧
      (∀ others us, Unfolds path r.trees (ConfigLine.ofText text) others us → others = outcomes) ∧
      outcomes.map LineOutcome.isIdle = (ConfigLine.ofText text).map ConfigLine.isComment ∧
      ∀ line ∈ ConfigLine.ofText text, Words.ofLine line.text = .ok [] ↔ line.isComment := by
  have tidy : ∀ line ∈ ConfigLine.ofText text, Text.IsTidy line.text :=
    fun _ => ConfigLine.isTidy_of_mem_ofText
  obtain ⟨outcomes, account⟩ :=
    runLines_isAccount path (r.note ⟨.configFound, "Loading config file " ++ path⟩)
      (ConfigLine.ofText text)
  refine ⟨outcomes, _, ?_, ⟨account.unfolds, account.count, account.causes, account.complete,
    account.alone⟩, fun _ _ unfolds => (unfolds.unique account.unfolds).1,
    account.unfolds.map_isIdle tidy, fun line listed => ?_⟩
  · simp only [load, isText]
  · rw [Words.ofLine_eq_nil (tidy line listed), ConfigLine.isComment, decide_eq_true_eq]

/-- A file with a command, a quotation left open, an unknown command, and a comment that its
    backslash makes a line. -/
def uneven : Storage where
  files := ⟨[([], .directory 0o755 0), (["conf"], .file 0o644 0
    ("set mouse on\nset prefix \"x\nbogus\n#\\".toList.map fun c => c.toNat.toUInt8))]⟩
  workingDirectory := some "/"
  user := 0
  failing := []
  rules := .linux

theorem load_lineByLine_uneven :
    uneven.readText "/conf" = .ok "set mouse on\nset prefix \"x\nbogus\n#\\".toList ∧
    ∃ loaded,
      load uneven "/conf" false { trees := .initial .empty "/bin/sh" none } = .ok loaded ∧
      loaded.1 = 1 ∧
      IsAccount "/conf" { trees := .initial .empty "/bin/sh" none }
        [⟨1, "set mouse on".toList⟩, ⟨2, "set prefix \"x".toList⟩, ⟨3, "bogus".toList⟩,
          ⟨4, "#".toList⟩]
        [.succeeded, .failed ⟨"/conf:2: No closing quotation", []⟩,
          .failed ⟨"/conf:3: unknown command: bogus", ["bogus"]⟩, .idle] loaded := by
  have isText : uneven.readText "/conf" =
      .ok "set mouse on\nset prefix \"x\nbogus\n#\\".toList := by
    have content : (uneven.readText "/conf").toOption =
        some "set mouse on\nset prefix \"x\nbogus\n#\\".toList := by decide +kernel
    cases isRead : uneven.readText "/conf" with
    | error f =>
        rw [isRead] at content
        cases content
    | ok text =>
        rw [isRead] at content
        exact congrArg Except.ok (Option.some.inj content)
  have lines : ConfigLine.ofText "set mouse on\nset prefix \"x\nbogus\n#\\".toList =
      [⟨1, "set mouse on".toList⟩, ⟨2, "set prefix \"x".toList⟩, ⟨3, "bogus".toList⟩,
        ⟨4, "#".toList⟩] := by decide +kernel
  obtain ⟨outcomes, loaded, isLoaded, account, isOnly, -, -⟩ :=
    load_lineByLine isText false { trees := .initial .empty "/bin/sh" none }
  rw [lines] at account isOnly
  obtain ⟨us, first⟩ : ∃ us, Comes "/conf" (.initial .empty "/bin/sh" none)
      ⟨1, "set mouse on".toList⟩ .succeeded us :=
    ⟨_, .succeeded rfl (List.cons_ne_nil _ _) rfl⟩
  have second : Comes "/conf" us ⟨2, "set prefix \"x".toList⟩
      (.failed ⟨"/conf:2: No closing quotation", []⟩) us := by
    have message : place "/conf" ⟨2, "set prefix \"x".toList⟩ ++ WordFault.openQuote.message =
        "/conf:2: No closing quotation" := by decide +kernel
    exact message ▸ .unreadable rfl
  have third : Comes "/conf" us ⟨3, "bogus".toList⟩
      (.failed ⟨"/conf:3: unknown command: bogus", ["bogus"]⟩) us := by
    have message : place "/conf" ⟨3, "bogus".toList⟩ ++ (CommandFault.unknown "bogus").message =
        "/conf:3: unknown command: bogus" := by decide +kernel
    exact message ▸ .refused rfl (List.cons_ne_nil _ _) rfl
  have fourth : Comes "/conf" us ⟨4, "#".toList⟩ .idle us := .idle rfl
  obtain rfl := isOnly _ _ (.cons first (.cons second (.cons third (.cons fourth (.nil us)))))
  exact ⟨isText, loaded, isLoaded, account.count, account⟩

end Config

end MuxLaunch
