import MuxLaunch.Proofs.Flags.Given
import MuxLaunch.Proofs.Launch.Stages

/-! # The capabilities in a context

Each bit of the capabilities has reasons of its own: the name of the program, the letters given, the
profile and the environment that the launch has left its session for. No reason takes a bit away.
-/

namespace MuxLaunch

namespace Text

theorem occurs_iff (passage text : List Char) : occurs passage text = true ↔ passage <:+: text := by
  induction text with
  | nil => simp [occurs]
  | cons c rest ih =>
      rw [occurs, Bool.or_eq_true, ih, List.isPrefixOf_iff_prefix, List.infix_cons_iff]

theorem toLower_capital (k : Fin 26) :
    Char.ofNat (65 + k + 32) = (Char.ofNat (65 + k)).toLower := by
  decide +revert

theorem lower_eq_map (text : List Char) : lower text = text.map Char.toLower := by
  refine List.map_congr_left fun c _ => ?_
  by_cases isCapital : 'A' ≤ c ∧ c ≤ 'Z'
  · have atLeast : 65 ≤ c.toNat := isCapital.1
    have atMost : c.toNat ≤ 90 := isCapital.2
    have named := toLower_capital ⟨c.toNat - 65, by omega⟩
    rw [if_pos isCapital]
    simpa only [Nat.add_sub_cancel' atLeast, Char.ofNat_toNat] using named
  · have outside : ¬(c.val ≥ 'A'.val ∧ c.val ≤ 'Z'.val) := isCapital
    rw [if_neg isCapital]
    unfold Char.toLower
    rw [dif_neg outside]

/-- A passage occurs in the small letters of a text if it does in the text in some letter case. -/
theorem occurs_lower_iff (passage text : List Char) :
    occurs passage (lower text) = true ↔
      ∃ word, word <:+: text ∧ word.map Char.toLower = passage := by
  rw [occurs_iff, lower_eq_map]
  constructor
  · rintro ⟨before, after, isWhole⟩
    obtain ⟨front, back, rfl, isFront, rfl⟩ := List.map_eq_append_iff.mp isWhole.symm
    obtain ⟨start, word, rfl, -, isWord⟩ := List.map_eq_append_iff.mp isFront
    exact ⟨word, ⟨start, back, rfl⟩, isWord⟩
  · rintro ⟨word, ⟨start, back, rfl⟩, rfl⟩
    exact ⟨start.map Char.toLower, back.map Char.toLower, by simp⟩

end Text

namespace Environ

/-- The text names the character set UTF-8, in any letter case. -/
def NamesUtf8 (value : String) : Prop :=
  ∃ word, word <:+: value.toList ∧
    (word.map Char.toLower = "utf-8".toList ∨ word.map Char.toLower = "utf8".toList)

theorem namesUtf8_iff (value : String) :
    (Text.occurs "utf-8".toList (Text.lower value.toList) ||
      Text.occurs "utf8".toList (Text.lower value.toList)) = true ↔ NamesUtf8 value := by
  rw [Bool.or_eq_true, Text.occurs_lower_iff, Text.occurs_lower_iff, ← exists_or]
  simp only [NamesUtf8, and_or_left]

/-- The first variable of the locale that is set and not empty names the character set UTF-8. -/
def HasUtf8Locale (e : Environ) : Prop :=
  ∃ value, ["LC_ALL", "LC_CTYPE", "LANG"].findSome? e.nonempty? = some value ∧ NamesUtf8 value

theorem showsUtf8_iff (e : Environ) :
    e.showsUtf8 = true ↔ e.contains sessionMarker = true ∨ e.HasUtf8Locale := by
  rw [showsUtf8, Bool.or_eq_true, namesUtf8_iff, HasUtf8Locale]
  cases ["LC_ALL", "LC_CTYPE", "LANG"].findSome? e.nonempty? with
  | some value => simp
  | none =>
      have unnamed : ¬NamesUtf8 "" := mt (namesUtf8_iff "").mpr (by decide)
      simp [unnamed]

/-- The mark of a session is no variable of the locale. -/
theorem hasUtf8Locale_congr {e e' : Environ}
    (same : ∀ name, name ≠ sessionMarker → e.get? name = e'.get? name) :
    e.HasUtf8Locale ↔ e'.HasUtf8Locale := by
  have sameValue : ∀ name, name ≠ sessionMarker → e.nonempty? name = e'.nonempty? name := by
    intro name isOther
    rw [nonempty?, nonempty?, same name isOther]
  rw [HasUtf8Locale, HasUtf8Locale]
  simp only [List.findSome?_cons, List.findSome?_nil, sameValue "LC_ALL" (by decide),
    sameValue "LC_CTYPE" (by decide), sameValue "LANG" (by decide)]

end Environ

theorem Machine.showsUtf8_leaving (m : Machine) (line : CommandLine) :
    (m.leaving line).environ.showsUtf8 = true ↔
      m.environ.contains sessionMarker = true ∧ line.foreground = false ∨
        m.environ.HasUtf8Locale := by
  have sameLocale : (m.leaving line).environ.HasUtf8Locale ↔ m.environ.HasUtf8Locale := by
    refine Environ.hasUtf8Locale_congr fun name isOther => ?_
    rw [m.get?_leaving, if_neg fun isMarker => isOther isMarker.2]
  rw [Environ.showsUtf8_iff, sameLocale, Environ.contains, m.get?_leaving]
  cases line.foreground with
  | true => simp
  | false => simp [Environ.contains]

namespace Capabilities

/-- Each member has a bit of its own. -/
theorem testBit_bits (c : Capabilities) :
    c.bits.testBit 0 = c.login ∧ c.bits.testBit 1 = c.utf8 ∧ c.bits.testBit 2 = c.colours256 ∧
      c.bits.testBit 3 = c.control ∧ c.bits.testBit 4 = c.controlControl := by
  obtain ⟨login, utf8, colours256, control, controlControl⟩ := c
  decide +revert

theorem bits_lt (c : Capabilities) : c.bits < 32 := by
  obtain ⟨login, utf8, colours256, control, controlControl⟩ := c
  decide +revert

end Capabilities

namespace Launch

/-- The bits that are set, each with its reasons. -/
structure HasReasons (arguments : List String) (p : Profile) (e : Environ) (c : Capabilities) :
    Prop where
  login : c.bits.testBit 0 = true ↔
    startsWithDash (Path.baseName (arguments.headD "")) = true ∨
      'l' ∈ CommandLine.lettersGiven arguments.tail
  utf8 : c.bits.testBit 1 = true ↔
    'u' ∈ CommandLine.lettersGiven arguments.tail ∨ p.forceCapabilities = true ∨
      e.contains sessionMarker = true ∧ 'F' ∉ CommandLine.lettersGiven arguments.tail ∨
      e.HasUtf8Locale
  colours256 : c.bits.testBit 2 = true ↔
    '2' ∈ CommandLine.lettersGiven arguments.tail ∨ p.forceCapabilities = true
  control : c.bits.testBit 3 = true ↔ 1 ≤ (CommandLine.lettersGiven arguments.tail).count 'C'
  controlControl :
    c.bits.testBit 4 = true ↔ 2 ≤ (CommandLine.lettersGiven arguments.tail).count 'C'
  noOther : ∀ i, 5 ≤ i → c.bits.testBit i = false

theorem startsWithDash_programName (arguments : List String) :
    startsWithDash (programName arguments) =
      startsWithDash (Path.baseName (arguments.headD "")) := by
  unfold programName
  split
  · rename_i isEmpty
    rw [isEmpty]
    decide
  · rfl

variable {arguments : List String} {p : Profile}

theorem hasReasons_capabilitiesIn {line : CommandLine} {e e' : Environ}
    (counts : line.Counts (CommandLine.lettersGiven arguments.tail))
    (shows : e'.showsUtf8 = true ↔
      e.contains sessionMarker = true ∧ line.foreground = false ∨ e.HasUtf8Locale) :
    HasReasons arguments p e (capabilitiesIn e' (programName arguments) line p) := by
  obtain ⟨login, utf8, colours256, control, controlControl⟩ :=
    (capabilitiesIn e' (programName arguments) line p).testBit_bits
  constructor
  case login =>
    rw [login, capabilitiesIn, Capabilities.compose, Bool.or_eq_true, startsWithDash_programName,
      counts.login]
  case utf8 =>
    rw [utf8, capabilitiesIn, Capabilities.compose, Bool.or_eq_true, Bool.or_eq_true, counts.utf8,
      shows, ← Bool.not_eq_true, counts.foreground, or_comm (b := 'u' ∈ _), or_assoc]
  case colours256 =>
    rw [colours256, capabilitiesIn, Capabilities.compose, Bool.or_eq_true, counts.colours256,
      or_comm]
  case control =>
    rw [control, capabilitiesIn, Capabilities.compose, counts.control, decide_eq_true_iff]
  case controlControl =>
    rw [controlControl, capabilitiesIn, Capabilities.compose, counts.control, decide_eq_true_iff]
  case noOther =>
    intro i isHigh
    exact Nat.testBit_lt_two_pow
      (Nat.lt_of_lt_of_le (Capabilities.bits_lt _) (Nat.pow_le_pow_right Nat.two_pos isHigh))

variable {setUp : Nat → Launch Unit} {user : Option Int} {directory : Option String}
  {m m' : Machine} {c : Context}

/-- Every launch that comes to a context sets the bits that there are reasons for, and no others. On
    a well-formed command line the letters given are those met on the walk. -/
theorem capabilities_of_startup (keeps : ∀ verbosity, KeepsEnviron (setUp verbosity))
    (started : startup arguments p setUp user directory m = .ok c m') :
    HasReasons arguments p m.environ c.capabilities ∧
      ((Walk.ofWords arguments.tail).IsWellFormed →
        CommandLine.lettersGiven arguments.tail = (Walk.ofWords arguments.tail).letters) := by
  refine ⟨?_, CommandLine.lettersGiven_of_wellFormed arguments.tail⟩
  cases stages_of_startup started with
  | @intro line shell socket trees m₁ m₂ m₃ m₄ isRead isSetUp _ _ _ =>
      have kept := (keeps (verbosityOf line)).of_ok isSetUp
      have shows := (m.noteAll m.host.locales.establish.notes).showsUtf8_leaving line
      rw [Machine.environ_noteAll, ← kept] at shows
      exact hasReasons_capabilitiesIn (CommandLine.counts_of_ok isRead) shows

/-- The name of the program counts without its directory, and a session that is left is no reason
    for UTF-8. -/
theorem capabilities_dashedName :
    ∃ c m', startup ["/opt/-tmate", "-CFC", "-S", "/s"] {} (setUpJournal {} none "-tmate") none none
        (Machine.bare.withEnviron (Environ.empty.set sessionMarker "/tmp/other,1,0")) = .ok c m' ∧
      c.capabilities.bits.testBit 0 = true ∧ ¬c.capabilities.bits.testBit 1 = true ∧
      c.capabilities.bits.testBit 4 = true := by
  obtain ⟨c, m', started⟩ : ∃ c m', startup ["/opt/-tmate", "-CFC", "-S", "/s"] {}
      (setUpJournal {} none "-tmate") none none
      (Machine.bare.withEnviron (Environ.empty.set sessionMarker "/tmp/other,1,0")) = .ok c m' :=
    ⟨_, _, rfl⟩
  obtain ⟨reasons, -⟩ :=
    capabilities_of_startup (keepsEnviron_setUpJournal {} none "-tmate") started
  refine ⟨c, m', started, reasons.login.mpr (.inl (by decide)), fun isSet => ?_,
    reasons.controlControl.mpr (by decide)⟩
  rcases reasons.utf8.mp isSet with given | forced | ⟨-, inSession⟩ | ⟨value, isValue, -⟩
  · exact absurd given (by decide)
  · cases forced
  · exact inSession (by decide)
  · cases isValue

/-- A dash in front of the directory is not one in front of the name, so it marks no login. -/
theorem capabilities_dashedDirectory :
    ∃ c m', startup ["-/usr/bin/tmate", "-S", "/s"] {} (fun _ => pure ()) none none .bare =
        .ok c m' ∧
      ¬(c.capabilities.bits.testBit 0 = true ↔
        startsWithDash "-/usr/bin/tmate" = true ∨
          'l' ∈ CommandLine.lettersGiven ["-S", "/s"]) := by
  refine ⟨_, _, rfl, fun login => ?_⟩
  have isSet := login.mpr (.inl (by decide))
  cases isSet

end Launch

end MuxLaunch
