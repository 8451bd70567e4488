import MuxLaunch.Files.Canonical
import MuxLaunch.Proofs.Files.Reaches
import MuxLaunch.Proofs.Steps

/-! # Where a canonical path leads

Resolving a path looks at one prefix after another and at the target of every link among them. Where
the kernel can walk along the path, it comes to the same place, and the canonical path names that
place from the root.
-/

namespace MuxLaunch

open Files

namespace Storage

variable {s : Storage}

/-- The location that relative paths start from. -/
def base (s : Storage) : Location :=
  Path.names (s.workingDirectory.getD "")

theorem base_eq {directory : String} (isThere : s.workingDirectory = some directory) :
    s.base = Path.names directory := by
  rw [base, isThere]
  rfl

theorem startOf_base {path : String} {spot : Location}
    (isStart : start? s.workingDirectory path = some spot) : startOf path s.base = spot := by
  by_cases isAbsolute : Path.isAbsolute path = true
  · rw [start?, if_pos isAbsolute] at isStart
    rw [startOf, if_pos isAbsolute]
    exact Option.some.inj isStart
  · rw [start?, if_neg isAbsolute] at isStart
    rw [startOf, if_neg isAbsolute]
    obtain ⟨directory, isThere, isNamed⟩ := Option.map_eq_some_iff.mp isStart
    exact (base_eq isThere).trans isNamed

/-- The working directory, if there is one, is named by its names from the root. -/
def HasCanonicalDirectory (s : Storage) : Prop :=
  ∀ directory, s.workingDirectory = some directory →
    directory = "/" ++ Path.joinNames (Path.names directory) ∧
      ∀ name ∈ Path.names directory, Path.IsPlain name

theorem locate_eq (noFailures : s.failing = []) (call : Call) (follow : Bool) (path : String) :
    s.locate call follow path = s.files.locate s.workingDirectory follow path := by
  rw [locate, failure?, noFailures]
  rfl

theorem locate_ok {call : Call} {follow : Bool} {path : String} {spot : Location} :
    s.locate call follow path = .ok spot ↔
      s.failure? call path = none ∧
        s.files.locate s.workingDirectory follow path = .ok spot := by
  unfold locate
  cases s.failure? call path with
  | none => simp
  | some e => simp

theorem locate_of_node {call : Call} {follow : Bool} {path : String} {n : Node}
    (isNode : s.node call follow path = .ok n) :
    ∃ spot, s.files.locate s.workingDirectory follow path = .ok spot ∧
      s.files.find? spot = some n := by
  unfold node at isNode
  split at isNode
  · cases isNode
  · rename_i spot isLocated
    split at isNode
    · rename_i found isFound
      cases isNode
      exact ⟨spot, (locate_ok.mp isLocated).2, isFound⟩
    · cases isNode

theorem isName_of_mem_newComponents {path name : String} (member : name ∈ s.newComponents path) :
    Path.IsName name := by
  rw [newComponents] at member
  split at member
  · exact Path.isName_of_mem_names member
  · exact Path.isName_of_mem_components member

theorem newComponents_ne_nil {path : String} (nonempty : path ≠ "") :
    s.newComponents path ≠ [] := by
  rw [newComponents]
  split
  · rename_i named
    exact named.2
  · exact Path.components_ne_nil nonempty

theorem locateNew_ok {path : String} {spot : Location} :
    s.locateNew path = .ok spot ↔
      s.failure? .mkdir path = none ∧
        s.files.locateAlong s.workingDirectory false path (s.newComponents path) = .ok spot := by
  unfold locateNew
  cases s.failure? .mkdir path with
  | none => simp
  | some e => simp

/-- Without a final slash a directory is made where its path leads. -/
theorem newComponents_of_noSlash (s : Storage) {path : String}
    (noSlash : Path.endsWithSlash path = false) : s.newComponents path = Path.components path := by
  simp [newComponents, Path.components, noSlash]

/-- A directory for which only the owner's permissions are asked is closed to all others. -/
theorem isShared_newMode (s : Storage) (spot : Location) (owner : Int) :
    (Node.directory (s.newMode spot 0o700) owner).isShared = false := by
  have closed : s.rules.permit 0o700 &&& 0o077 = 0 := by
    rw [MakingRules.permit, Nat.and_assoc, Nat.and_comm _ 0o077, ← Nat.and_assoc]
    exact Nat.zero_and _
  have isMode : s.newMode spot 0o700 &&& 0o077 = 0 := by
    unfold newMode
    split
    · rw [Nat.and_or_distrib_right, closed]
      rfl
    · exact closed
  simp [Node.isShared, Node.mode, isMode]

/-- Where a directory is to be made and nothing stands yet there is room for it. -/
theorem isVacancy_of_locateNew (tree : s.files.IsTree) {path : String} {spot : Location}
    (isLocated : s.locateNew path = .ok spot) (missing : s.files.find? spot = none) :
    s.files.IsVacancy spot := by
  have located := (locateNew_ok.mp isLocated).2
  have nonempty := newComponents_ne_nil (s := s) (locateAlong_eq_ok.mp located).1
  exact isVacancy_of_locateAlong tree (fun _ => isName_of_mem_newComponents) nonempty located
    missing

/-- A directory is made where there is nothing yet. -/
theorem mkdir_ok {path : String} {mode : Nat} {s' : Storage} :
    s.mkdir path mode = .ok s' ↔
      ∃ spot, s.locateNew path = .ok spot ∧ s.files.find? spot = none ∧
        s' = { s with
          files := s.files.set spot (.directory (s.newMode spot mode) s.user) } := by
  unfold mkdir
  cases s.locateNew path with
  | error e => simp
  | ok spot =>
      cases isFound : s.files.find? spot with
      | none => simp [isFound, eq_comm]
      | some n => simp [isFound]

theorem node_eq_ok (noFailures : s.failing = []) {call : Call} {follow : Bool} {path : String}
    {n : Node} :
    s.node call follow path = .ok n ↔
      ∃ spot, s.files.locate s.workingDirectory follow path = .ok spot ∧
        s.files.find? spot = some n := by
  constructor
  · exact locate_of_node
  · rintro ⟨spot, isLocated, isFound⟩
    rw [node, locate_eq noFailures, isLocated]
    dsimp only
    rw [isFound]

theorem readlink_eq_ok {path text : String} (isRead : s.readlink path = .ok text) :
    ∃ owner, s.node .readlink false path = .ok (.link owner text) := by
  unfold readlink at isRead
  split at isRead
  · cases isRead
  · rename_i owner _ isNode
    cases isRead
    exact ⟨owner, isNode⟩
  · cases isRead

end Storage

namespace Stem

def start (base : Location) (stem : Stem) : Location :=
  if stem.absolute then [] else base.take (base.length - stem.up)

/-- The location that a stem stands for. -/
def location (base : Location) (stem : Stem) : Location :=
  stem.start base ++ stem.names

theorem location_push (base : Location) (stem : Stem) (name : String) :
    (stem.push name).location base = stem.location base ++ [name] :=
  (List.append_assoc ..).symm

theorem location_parent (base : Location) (stem : Stem) :
    stem.parent.location base = (stem.location base).dropLast := by
  obtain ⟨absolute, up, names⟩ := stem
  unfold parent
  by_cases isNamed : names = []
  · subst isNamed
    cases absolute with
    | true => rfl
    | false =>
        have shorter : base.length - (up + 1) = base.length - up - 1 := by omega
        simp [location, start, List.dropLast_eq_take, List.take_take, shorter]
  · simp only [ne_eq, isNamed, not_false_eq_true, if_true]
    rw [location, location, List.dropLast_append_of_ne_nil isNamed]
    rfl

theorem path_of_absolute {stem : Stem} (isAbsolute : stem.absolute = true) :
    stem.path = "/" ++ Path.joinNames stem.names := by
  rw [path, if_pos isAbsolute]

theorem path_of_relative {stem : Stem} (isRelative : stem.absolute = false) :
    stem.path = Path.joinNames (List.replicate stem.up ".." ++ stem.names) := by
  rw [path, if_neg (by simp [isRelative])]

/-- A stem of plain names that no link is among. In a rooted resolution it is absolute. -/
structure IsSound (s : Storage) (rooted : Prop) (stem : Stem) : Prop where
  plain : ∀ name ∈ stem.names, Path.IsPlain name
  clear : s.files.IsClear (stem.start s.base) stem.names
  short : stem.absolute = true → stem.path.utf8ByteSize ≤ pathLimit
  absolute : rooted → stem.absolute = true

namespace IsSound

variable {s : Storage} {rooted : Prop} {stem : Stem}

theorem root : IsSound s rooted root where
  plain _ member := nomatch member
  clear _ isPrefix nonempty := absurd (List.prefix_nil.mp isPrefix) nonempty
  short _ := by decide
  absolute _ := rfl

theorem here (relative : ¬rooted) : IsSound s rooted here where
  plain _ member := nomatch member
  clear _ isPrefix nonempty := absurd (List.prefix_nil.mp isPrefix) nonempty
  short isAbsolute := nomatch isAbsolute
  absolute isRooted := absurd isRooted relative

theorem parent (sound : stem.IsSound s rooted) : stem.parent.IsSound s rooted := by
  unfold Stem.parent
  by_cases isNamed : stem.names = []
  · rw [if_neg (not_not_intro isNamed)]
    by_cases isAbsolute : stem.absolute = true
    · rw [if_pos isAbsolute]
      exact sound
    · rw [if_neg isAbsolute]
      constructor
      · exact sound.plain
      · intro before isPrefix nonempty
        exact absurd (List.prefix_nil.mp (isNamed ▸ isPrefix)) nonempty
      · exact fun isAbsolute' => absurd isAbsolute' isAbsolute
      · exact sound.absolute
  · rw [if_pos isNamed]
    constructor
    · exact fun name member => sound.plain name (List.dropLast_subset _ member)
    · intro before isPrefix nonempty
      exact sound.clear before (isPrefix.trans (List.dropLast_prefix _)) nonempty
    · intro isAbsolute
      obtain ⟨more, isLonger⟩ :=
        Path.joinNames_concat stem.names.dropLast (stem.names.getLast isNamed)
      rw [List.dropLast_concat_getLast] at isLonger
      have isPath : stem.path = "/" ++ Path.joinNames stem.names := path_of_absolute isAbsolute
      have short := sound.short isAbsolute
      rw [isPath, isLonger, ← String.append_assoc, String.utf8ByteSize_append] at short
      rw [path_of_absolute isAbsolute]
      exact Nat.le_of_add_right_le short
    · exact sound.absolute

theorem push (sound : stem.IsSound s rooted) {name : String} (isPlain : Path.IsPlain name)
    (notLink : ¬s.files.IsLink (stem.location s.base ++ [name]))
    (short : stem.absolute = true → (stem.push name).path.utf8ByteSize ≤ pathLimit) :
    (stem.push name).IsSound s rooted where
  plain other member := by
    rcases List.mem_append.mp member with member | isLast
    · exact sound.plain other member
    · exact List.mem_singleton.mp isLast ▸ isPlain
  clear before isPrefix nonempty := by
    rcases List.prefix_concat_iff.mp isPrefix with rfl | isPrefix
    · rw [← List.append_assoc]
      exact notLink
    · exact sound.clear before isPrefix nonempty
  short := short
  absolute := sound.absolute

/-- A walk along dots and then along a clear way follows no link. -/
theorem walk_of_isClear {spot finish : Location} {k budget : Nat} {names : List String}
    {name : String} (clear : s.files.IsClear (spot.take (spot.length - k)) names)
    (arePlain : ∀ other ∈ names, Path.IsPlain other) (isPlain : Path.IsPlain name)
    (walks : s.files.walk false budget spot (List.replicate k ".." ++ (names ++ [name])) =
      .ok finish) :
    finish = spot.take (spot.length - k) ++ (names ++ [name]) := by
  rcases walk_eq_ok.mp walks with advances | ⟨_, _, _, _, _, advances, _⟩
  · exact Arrival.done.inj (advances.of_dots.of_isClear clear arePlain isPlain)
  · cases advances.of_dots.of_isClear clear arePlain isPlain

/-- What a call finds under a name added to a stem is the node in the stem's directory. -/
theorem find?_push (sound : stem.IsSound s rooted) {name : String} (isPlain : Path.IsPlain name)
    {call : Call} {n : Node}
    (found : s.node call false (stem.push name).path = .ok n) :
    s.files.find? (stem.location s.base ++ [name]) = some n ∧
      (stem.absolute = true → (stem.push name).path.utf8ByteSize ≤ pathLimit) := by
  obtain ⟨finish, isLocated, isFound⟩ := Storage.locate_of_node found
  obtain ⟨_, short, spot, isStart, walks⟩ := locate_eq_ok.mp isLocated
  refine ⟨?_, fun _ => short⟩
  have isAt := Storage.startOf_base isStart
  have clear := sound.clear
  have arePlain : ∀ other ∈ stem.names ++ [name], Path.IsPlain other := by
    intro other member
    rcases List.mem_append.mp member with member | isLast
    · exact sound.plain other member
    · exact List.mem_singleton.mp isLast ▸ isPlain
  rw [location, List.append_assoc]
  cases isAbsolute : stem.absolute with
  | true =>
      have isPath : (stem.push name).path = "/" ++ Path.joinNames (stem.names ++ [name]) :=
        path_of_absolute isAbsolute
      rw [isPath, startOf, if_pos (Path.isAbsolute_slash _)] at isAt
      have areNames : ∀ other ∈ stem.names ++ [name], Path.IsName other :=
        fun other member => (arePlain other member).isName
      rw [isPath, Path.components_slash areNames (by simp), ← isAt] at walks
      rw [start, if_pos isAbsolute] at clear ⊢
      have arrived := walk_of_isClear (k := 0) (by simpa using clear) sound.plain isPlain walks
      rw [List.length_nil, List.take_nil] at arrived
      rw [← arrived]
      exact isFound
  | false =>
      have isPath : (stem.push name).path =
          Path.joinNames (List.replicate stem.up ".." ++ (stem.names ++ [name])) :=
        path_of_relative isAbsolute
      have areNames := Path.areNames_up stem.up arePlain
      rw [isPath, startOf, Path.isAbsolute_joinNames areNames, if_neg Bool.false_ne_true] at isAt
      rw [isPath, Path.components_joinNames areNames (by simp), ← isAt] at walks
      rw [start, if_neg (by simp [isAbsolute])] at clear ⊢
      rw [← walk_of_isClear clear sound.plain isPlain walks]
      exact isFound

theorem absolutePath_eq_ok (sound : stem.IsSound s rooted) (canonical : s.HasCanonicalDirectory)
    {p : String} (isPath : s.absolutePath stem.path = .ok p) :
    p = "/" ++ Path.joinNames (stem.location s.base) ∧ (stem.absolute = true → p = stem.path) := by
  cases isAbsolute : stem.absolute with
  | true =>
      rw [path_of_absolute isAbsolute, Storage.absolutePath, if_pos (Path.isAbsolute_slash _),
        Path.normalize_plain sound.plain] at isPath
      cases isPath
      rw [location, start, if_pos isAbsolute, List.nil_append, path_of_absolute isAbsolute]
      exact ⟨rfl, fun _ => rfl⟩
  | false =>
      refine ⟨?_, fun isRooted => nomatch isRooted⟩
      have areNames := Path.areNames_up stem.up sound.plain
      rw [path_of_relative isAbsolute, Storage.absolutePath, Path.isAbsolute_joinNames areNames,
        if_neg Bool.false_ne_true] at isPath
      cases isThere : s.workingDirectory with
      | none =>
          rw [isThere] at isPath
          cases isPath
      | some directory =>
          obtain ⟨isNamed, arePlain⟩ := canonical directory isThere
          rw [isThere] at isPath
          dsimp only at isPath
          rw [isNamed, ← Storage.base_eq isThere] at isPath
          rw [← Storage.base_eq isThere] at arePlain
          rw [Path.normalize_join arePlain sound.plain] at isPath
          cases isPath
          rw [location, start, if_neg (by simp [isAbsolute])]

end IsSound

end Stem

namespace Storage

variable {s : Storage} {rooted : Prop}

/-- Every link that has been resolved stands for where its target leads. -/
def HaveResolved (s : Storage) (rooted : Prop) (seen : Resolved) : Prop :=
  ∀ key stem, seen.lookup key = some (some stem) → stem.IsSound s rooted ∧
    ∀ owner text finish, s.files.find? (key.location s.base) = some (.link owner text) →
      s.files.Reaches (startOf text (key.location s.base).dropLast) (Path.steps text) finish →
        stem.location s.base = finish

theorem HaveResolved.cons {seen : Resolved} (resolved : s.HaveResolved rooted seen) (key : Stem)
    (value : Option Stem)
    (new : ∀ stem, value = some stem → stem.IsSound s rooted ∧
      ∀ owner text finish, s.files.find? (key.location s.base) = some (.link owner text) →
        s.files.Reaches (startOf text (key.location s.base).dropLast) (Path.steps text) finish →
          stem.location s.base = finish) :
    s.HaveResolved rooted ((key, value) :: seen) := by
  intro other stem isSeen
  rw [Entries.lookup_cons] at isSeen
  split at isSeen
  · rename_i same
    rw [same]
    exact new stem (Option.some.inj isSeen)
  · exact resolved other stem isSeen

theorem HaveResolved.learn {seen : Resolved} (resolved : s.HaveResolved rooted seen) {key : Stem}
    {owner : Int} {text : String} {inner : Stem} {finish : Location}
    (isLink : s.files.find? (key.location s.base) = some (.link owner text))
    (sound : inner.IsSound s rooted) (isFinish : inner.location s.base = finish)
    (reaches : s.files.Reaches (startOf text (key.location s.base).dropLast) (Path.steps text)
      finish) :
    s.HaveResolved rooted ((key, some inner) :: seen) := by
  refine resolved.cons key (some inner) ?_
  rintro _ ⟨⟩
  refine ⟨sound, fun owner' text' finish' isLink' leads => ?_⟩
  rw [isLink] at isLink'
  cases isLink'
  exact isFinish.trans (reaches.unique leads)

/-- A resolution of names that comes to an end comes to where the names lead. -/
def IsFaithful (s : Storage) (rooted : Prop)
    (enter : String → Stem → Resolved → Except Errno (Stem × Resolved)) : Prop :=
  ∀ path stem seen stem' seen' finish, stem.IsSound s rooted → s.HaveResolved rooted seen →
    enter path stem seen = .ok (stem', seen') →
    s.files.Reaches (startOf path (stem.location s.base)) (Path.steps path) finish →
      stem'.IsSound s rooted ∧ stem'.location s.base = finish ∧ s.HaveResolved rooted seen'

/-- The stem that a link stands for: the one kept for it, or else the one its target resolves to. -/
def resolveLink (s : Storage)
    (enter : String → Stem → Resolved → Except Errno (Stem × Resolved)) (next stem : Stem)
    (seen : Resolved) : Except Errno (Stem × Resolved) :=
  match seen.lookup next with
  | some (some target) => .ok (target, seen)
  | some none => .error .tooManyLinks
  | none => do
      let text ← s.readlink next.path
      let (target, seen) ← enter text stem ((next, none) :: seen)
      return (target, (next, some target) :: seen)

theorem resolveNames_of_link
    {enter : String → Stem → Resolved → Except Errno (Stem × Resolved)} {name : String}
    (isPlain : Path.IsPlain name) {rest : List String} {stem : Stem} {seen : Resolved} {owner : Int}
    {target : String} (isNode : s.lstat (stem.push name).path = .ok (.link owner target)) :
    s.resolveNames enter (name :: rest) stem seen =
      s.resolveLink enter (stem.push name) stem seen >>= fun (inner, seen) =>
        s.resolveNames enter rest inner seen := by
  rw [resolveNames, if_neg (not_or.mpr ⟨isPlain.isName.1, isPlain.ne_dot⟩), if_neg isPlain.ne_dots,
    resolveLink]
  simp only [isNode, bind, Except.bind]
  cases seen.lookup (stem.push name) with
  | some kept =>
      cases kept with
      | some known => rfl
      | none => rfl
  | none =>
      cases s.readlink (stem.push name).path with
      | error e => rfl
      | ok text =>
          dsimp only
          cases enter text stem ((stem.push name, none) :: seen) with
          | error e => rfl
          | ok inner => rfl

theorem resolveLink_faithful {enter : String → Stem → Resolved → Except Errno (Stem × Resolved)}
    (faithful : s.IsFaithful rooted enter) {stem inner : Stem} {seen seen' : Resolved}
    (sound : stem.IsSound s rooted) (resolved : s.HaveResolved rooted seen) {name : String}
    (isPlain : Path.IsPlain name) {owner : Int} {target : String}
    (isFound : s.files.find? (stem.location s.base ++ [name]) = some (.link owner target))
    (ends : s.resolveLink enter (stem.push name) stem seen = .ok (inner, seen'))
    {finish : Location}
    (reaches : s.files.Reaches (startOf target (stem.location s.base)) (Path.steps target) finish) :
    inner.IsSound s rooted ∧ inner.location s.base = finish ∧ s.HaveResolved rooted seen' := by
  have atLink : s.files.find? ((stem.push name).location s.base) = some (.link owner target) := by
    rw [Stem.location_push]
    exact isFound
  have inDirectory : ((stem.push name).location s.base).dropLast = stem.location s.base := by
    rw [Stem.location_push, List.dropLast_concat]
  unfold resolveLink at ends
  split at ends
  · rename_i known isKnown
    cases ends
    obtain ⟨knownSound, leads⟩ := resolved _ _ isKnown
    exact ⟨knownSound, leads owner target finish atLink (inDirectory ▸ reaches), resolved⟩
  -- A link that is still being resolved ends the resolution: it leads to itself.
  · cases ends
  · obtain ⟨text, isText, ends⟩ := exceptBind_eq_ok.mp ends
    obtain ⟨_, isNode⟩ := readlink_eq_ok isText
    have isFound' := (sound.find?_push isPlain isNode).1
    rw [isFound] at isFound'
    cases isFound'
    obtain ⟨⟨found, seen₁⟩, isEntered, ends⟩ := exceptBind_eq_ok.mp ends
    cases ends
    obtain ⟨innerSound, isFinish, resolved₁⟩ := faithful target stem _ inner seen₁ finish sound
      (resolved.cons _ none fun _ isSome => nomatch isSome) isEntered reaches
    exact ⟨innerSound, isFinish,
      resolved₁.learn atLink innerSound isFinish (inDirectory ▸ reaches)⟩

theorem resolveNames_faithful {enter : String → Stem → Resolved → Except Errno (Stem × Resolved)}
    (faithful : s.IsFaithful rooted enter) (names : List String)
    (noSlash : ∀ name ∈ names, '/' ∉ name.toList) {stem stem' : Stem} {seen seen' : Resolved}
    {finish : Location} (sound : stem.IsSound s rooted) (resolved : s.HaveResolved rooted seen)
    (ends : s.resolveNames enter names stem seen = .ok (stem', seen'))
    (reaches : s.files.Reaches (stem.location s.base)
      (names.filter fun name => !(name = "" ∨ name = ".")) finish) :
    stem'.IsSound s rooted ∧ stem'.location s.base = finish ∧ s.HaveResolved rooted seen' := by
  induction names generalizing stem seen with
  | nil =>
      cases ends
      cases reaches
      exact ⟨sound, rfl, resolved⟩
  | cons name rest ih =>
      have goOn := @ih fun other member => noSlash other (List.mem_cons_of_mem _ member)
      by_cases isNothing : name = "" ∨ name = "."
      · rw [resolveNames, if_pos isNothing] at ends
        rw [List.filter_cons_of_neg (by simp [isNothing])] at reaches
        exact goOn sound resolved ends reaches
      · rw [List.filter_cons_of_pos (by simp [isNothing])] at reaches
        obtain ⟨nonempty, notDot⟩ := not_or.mp isNothing
        by_cases isDots : name = ".."
        · subst isDots
          rw [resolveNames, if_neg isNothing, if_pos rfl] at ends
          cases reaches with
          | up reaches =>
              rw [← Stem.location_parent] at reaches
              exact goOn sound.parent resolved ends reaches
          | step notDots => exact absurd rfl notDots
          | link notDots => exact absurd rfl notDots
        · have isPlain : Path.IsPlain name :=
            ⟨⟨nonempty, noSlash name List.mem_cons_self⟩, notDot, isDots⟩
          have whole := ends
          rw [resolveNames, if_neg isNothing, if_neg isDots] at ends
          obtain ⟨n, isNode, ends⟩ := exceptBind_eq_ok.mp ends
          obtain ⟨isFound, short⟩ := sound.find?_push isPlain isNode
          cases reaches with
          | up => exact absurd rfl isDots
          | step _ notLink reaches =>
              rw [← Stem.location_push] at reaches
              split at ends
              · exact absurd ⟨_, _, isFound⟩ notLink
              · exact goOn (sound.push isPlain notLink short) resolved ends reaches
          | link _ isLink reaches =>
              rw [isFound] at isLink
              cases isLink
              -- The way leads through the target first, and on from where that leads.
              obtain ⟨middle, toMiddle, fromMiddle⟩ := reaches.split
              rw [resolveNames_of_link isPlain isNode] at whole
              obtain ⟨⟨inner, seen₁⟩, isResolved, onward⟩ := exceptBind_eq_ok.mp whole
              obtain ⟨innerSound, isMiddle, resolved₁⟩ := resolveLink_faithful faithful
                sound resolved isPlain isFound isResolved toMiddle
              exact goOn innerSound resolved₁ onward (isMiddle ▸ fromMiddle)

theorem resolve_faithful (bound : Nat) : s.IsFaithful rooted (s.resolve bound) := by
  induction bound with
  | zero =>
      intro path stem seen stem' seen' finish _ _ ends _
      cases ends
  | succ bound ih =>
      intro path stem seen stem' seen' finish sound resolved ends reaches
      have noSlash : ∀ name ∈ Path.pieces path, '/' ∉ name.toList :=
        fun _ => Path.noSlash_of_mem_pieces
      rw [Path.steps_eq_filter_pieces] at reaches
      rw [resolve] at ends
      unfold startOf at reaches
      by_cases isAbsolute : Path.isAbsolute path = true
      · rw [if_pos isAbsolute] at ends reaches
        exact resolveNames_faithful ih _ noSlash .root resolved ends reaches
      · rw [if_neg isAbsolute] at ends reaches
        exact resolveNames_faithful ih _ noSlash sound resolved ends reaches

/-- A path leads where its names lead from the root or the working directory. -/
theorem reaches_of_locate {path : String} {follow : Bool} {finish : Location}
    (isLocated : s.files.locate s.workingDirectory follow path = .ok finish)
    (notLink : ¬s.files.IsLink finish) :
    s.files.Reaches (startOf path s.base) (Path.steps path) finish := by
  obtain ⟨_, _, spot, isStart, walks⟩ := locate_eq_ok.mp isLocated
  rw [← Path.steps_eq_filter_components, startOf_base isStart]
  exact reaches_of_walk walks notLink

/-- The canonical path of what the kernel finds at a path names it from the root. Only a path that
    is relative can have a canonical path that is too long. -/
theorem canonicalPath_eq_ok (canonical : s.HasCanonicalDirectory) {path p : String}
    {finish : Location} (isCanonical : s.canonicalPath path = .ok p)
    (isLocated : s.files.locate s.workingDirectory false path = .ok finish)
    (notLink : ¬s.files.IsLink finish) :
    p = "/" ++ Path.joinNames finish ∧
      (Path.isAbsolute path = true → p.utf8ByteSize ≤ pathLimit) := by
  obtain ⟨tidySteps, tidyStart⟩ := Path.tidy_spec path
  obtain ⟨⟨stem, seen⟩, isResolved, isPath⟩ := exceptBind_eq_ok.mp isCanonical
  have nothingSeen : s.HaveResolved (Path.isAbsolute path = true) [] :=
    fun _ _ isSeen => nomatch isSeen
  have reaches := reaches_of_locate isLocated notLink
  have noSlash : ∀ name ∈ Path.pieces (Path.tidy path), '/' ∉ name.toList :=
    fun _ => Path.noSlash_of_mem_pieces
  rw [← tidySteps, Path.steps_eq_filter_pieces] at reaches
  rw [resolve, tidyStart] at isResolved
  have ended : stem.IsSound s (Path.isAbsolute path = true) ∧ stem.location s.base = finish := by
    by_cases isAbsolute : Path.isAbsolute path = true
    · rw [if_pos isAbsolute] at isResolved
      rw [startOf, if_pos isAbsolute] at reaches
      obtain ⟨sound, leads, _⟩ := resolveNames_faithful (resolve_faithful _) _ noSlash .root
        nothingSeen isResolved reaches
      exact ⟨sound, leads⟩
    -- Only here may the stem be relative, so that its path says nothing about its length.
    · rw [if_neg isAbsolute] at isResolved
      rw [startOf, if_neg isAbsolute] at reaches
      have hereIsBase : Stem.here.location s.base = s.base := by
        simp [Stem.here, Stem.location, Stem.start]
      rw [← hereIsBase] at reaches
      obtain ⟨sound, leads, _⟩ := resolveNames_faithful (resolve_faithful _) _ noSlash
        (.here isAbsolute) nothingSeen isResolved reaches
      exact ⟨sound, leads⟩
  obtain ⟨sound, rfl⟩ := ended
  obtain ⟨isNamed, same⟩ :=
    sound.absolutePath_eq_ok canonical (exceptMapError_eq_ok.mp isPath)
  refine ⟨isNamed, fun isRooted => ?_⟩
  rw [same (sound.absolute isRooted)]
  exact sound.short (sound.absolute isRooted)

end Storage

end MuxLaunch
