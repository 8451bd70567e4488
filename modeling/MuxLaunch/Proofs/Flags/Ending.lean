import MuxLaunch.Proofs.Flags.Reading

/-! # How the reading of words ends

A word is refused, set aside or taken for the command. Once one is set aside no line comes of the
reading, but the version may still be asked for, and whether it is depends on the words alone.
-/

namespace MuxLaunch

namespace CommandLine

variable {word : String} {text : List Char} (unknown : List String) (line : CommandLine)

theorem readWords_refused (bundle : IsBundle word text) {f : FlagFault}
    (isRead : Bundle.read? arity text = some (.error f)) (rest : List String) :
    readWords unknown line (word :: rest) = .error (.usage (.flag f)) := by
  rw [readWords, startsCommand_of_bundle bundle (by simp [isRead])]
  simp [bundle.2, isRead]

theorem readWords_lacking (bundle : IsBundle word text) {letters : List Char} {letter : Char}
    (isRead : Bundle.read? arity text = some (.ok ⟨letters, some letter⟩)) :
    readWords unknown line [word] = .error (.usage (.flag (.noValue letter))) := by
  rw [readWords, startsCommand_of_bundle bundle (by simp [isRead])]
  simp [bundle.2, isRead]

theorem readWords_aside (bundle : IsBundle word text) (isRead : Bundle.read? arity text = none)
    (noBlank : ' ' ∉ word.toList) (rest : List String) :
    readWords unknown line (word :: rest) = readWords (unknown ++ [word]) line rest := by
  have noCommand : startsCommand word = false := by simp [startsCommand, bundle.1, noBlank]
  rw [readWords, noCommand]
  simp [bundle.2, isRead]

theorem readWords_command (starts : startsCommand word = true) (rest : List String) :
    readWords unknown line (word :: rest) = readWords.finish unknown line (word :: rest) := by
  rw [readWords, if_pos starts]

theorem readWords_congr {word' : String} {text' : List Char} (bundle : IsBundle word text)
    (bundle' : IsBundle word' text') (same : Bundle.read? arity text = Bundle.read? arity text')
    (isRead : (Bundle.read? arity text').isSome) (rest : List String) :
    readWords unknown line (word :: rest) = readWords unknown line (word' :: rest) := by
  rw [readWords, readWords, startsCommand_of_bundle bundle (same ▸ isRead),
    startsCommand_of_bundle bundle' isRead, bundle.2, bundle'.2, List.tail_cons, List.tail_cons,
    same]
  obtain ⟨read, isRead⟩ := Option.isSome_iff_exists.mp isRead
  rw [isRead]
  cases read with
  | error f => rfl
  | ok bundle =>
      obtain ⟨letters, wanting⟩ := bundle
      cases wanting with
      | none => rfl
      | some letter => rfl

theorem finish_ne_version (command : List String) :
    readWords.finish unknown line command ≠ .error .version := by
  unfold readWords.finish
  split <;> nofun

/-- Whether letters ask for the version before they ask for help does not depend on the line. -/
theorem actAll_version {letters : List Char} {read : CommandLine → Except EarlyEnd CommandLine}
    (isVersion : line.actAll letters >>= read = .error .version) (line' : CommandLine)
    {read' : CommandLine → Except EarlyEnd CommandLine}
    (carries : ∀ l l', read l = .error .version → read' l' = .error .version) :
    line'.actAll letters >>= read' = .error .version := by
  rw [actAll_eq] at isVersion ⊢
  cases early : letters.find? fun letter => letter = 'V' ∨ letter = 'h' with
  | some letter =>
      rw [early] at isVersion
      exact isVersion
  | none =>
      rw [early] at isVersion
      exact carries _ _ isVersion

/-- Whether the reading ends with the version does not depend on what has been read before. -/
theorem readWords_version (words : List String)
    (isVersion : readWords unknown line words = .error .version) (unknown' : List String)
    (line' : CommandLine) : readWords unknown' line' words = .error .version := by
  fun_induction readWords unknown line words generalizing unknown' line' with
  | case1 unknown line => exact absurd isVersion (finish_ne_version unknown line [])
  | case2 unknown line word rest starts =>
      exact absurd isVersion (finish_ne_version unknown line (word :: rest))
  | case3 unknown line word rest noStart isRead ih =>
      rw [readWords, if_neg noStart, isRead]
      exact ih isVersion (unknown' ++ [word]) line'
  | case4 => cases isVersion
  | case5 unknown line word rest noStart letters isRead ih =>
      rw [readWords, if_neg noStart, isRead]
      exact actAll_version line isVersion line' fun l l' isVersion => ih l isVersion unknown' l'
  | case6 => cases isVersion
  | case7 => cases isVersion
  | case8 unknown line word noStart letters letter isRead value rest hasValue ih =>
      rw [readWords, if_neg noStart, isRead]
      simp only [if_neg hasValue]
      exact actAll_version line isVersion line' fun l l' isVersion => ih l isVersion unknown' l'

theorem finish_ne_ok (isAside : unknown ≠ []) (command : List String) (line' : CommandLine) :
    readWords.finish unknown line command ≠ .ok line' := by
  rw [readWords.finish, if_pos isAside]
  intro same
  cases same

theorem actAll_ne_ok {letters : List Char} {read : CommandLine → Except EarlyEnd CommandLine}
    {line' : CommandLine} (fails : ∀ l, read l ≠ .ok line') :
    line.actAll letters >>= read ≠ .ok line' := by
  cases line.actAll letters with
  | error f => nofun
  | ok l => exact fails l

/-- A word that has been set aside is refused in the end. -/
theorem readWords_ne_ok (isAside : unknown ≠ []) (words : List String) (line' : CommandLine) :
    readWords unknown line words ≠ .ok line' := by
  fun_induction readWords unknown line words with
  | case1 unknown line => exact finish_ne_ok unknown line isAside [] line'
  | case2 unknown line word rest starts =>
      exact finish_ne_ok unknown line isAside (word :: rest) line'
  | case3 unknown line word rest noStart isRead ih => exact ih (by simp)
  | case4 => nofun
  | case5 unknown line word rest noStart letters isRead ih =>
      exact actAll_ne_ok line fun l => ih l isAside
  | case6 => nofun
  | case7 => nofun
  | case8 unknown line word noStart letters letter isRead value rest hasValue ih =>
      exact actAll_ne_ok line fun l => ih l isAside

/-- Complete a line that has been read, given the scan. -/
def settle (s : FlagScan) (line : CommandLine) : Except EarlyEnd CommandLine :=
  if (line.withValues s).shellCommand.isSome ∧ (line.withValues s).command ≠ [] then
    .error (.usage .twoCommands)
  else .ok (line.withValues s)

theorem ofWords_eq (words : List String) :
    ofWords words =
      readWords [] {} (FlagScan.ofWords words).words >>= settle (FlagScan.ofWords words) := by
  refine congrArg (readWords [] {} (FlagScan.ofWords words).words >>= ·) (funext fun line => ?_)
  by_cases twice : (line.withValues (FlagScan.ofWords words)).shellCommand.isSome ∧
      (line.withValues (FlagScan.ofWords words)).command ≠ []
  · simp only [settle, if_pos twice]
    rfl
  · simp only [settle, if_neg twice]
    rfl

theorem ofWords_version_iff (words : List String) :
    ofWords words = .error .version ↔
      readWords [] {} (FlagScan.ofWords words).words = .error .version := by
  rw [ofWords_eq]
  cases readWords [] {} (FlagScan.ofWords words).words with
  | error f => rfl
  | ok line =>
      have noVersion : settle (FlagScan.ofWords words) line ≠ .error .version := by
        unfold settle
        split <;> nofun
      exact ⟨fun isVersion => absurd isVersion noVersion, nofun⟩

/-- Settling a line looks at the values of a scan only. -/
theorem settle_congr {s s' : FlagScan} (same : s.values = s'.values) : settle s = settle s' := by
  obtain ⟨words, values⟩ := s
  obtain ⟨words', values'⟩ := s'
  obtain rfl : values = values' := same
  rfl

/-- A line with a command is settled unless the command is given with a flag as well. -/
theorem settle_command {words : List String} (line : CommandLine) (nonempty : line.command ≠ [])
    (noDash : line.command.head? ≠ some "--") :
    settle (FlagScan.ofWords words) line =
      if (Walk.ofWords words).last? 'c' = none then
        .ok (line.withValues (FlagScan.ofWords words))
      else .error (.usage .twoCommands) := by
  have isCommand : (line.withValues (FlagScan.ofWords words)).command = line.command := by
    rw [withValues, dropDash_eq, if_neg noDash]
  have isShell : (line.withValues (FlagScan.ofWords words)).shellCommand =
      (Walk.ofWords words).last? 'c' := Walk.value?_scan words .command
  rw [settle, isCommand, isShell]
  cases (Walk.ofWords words).last? 'c' with
  | none => simp
  | some value => simp [nonempty]

end CommandLine

end MuxLaunch
