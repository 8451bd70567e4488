import MuxLaunch.Proofs.Flags.Given
import MuxLaunch.Proofs.Launch.Stages

/-! # The socket of a context

A socket is asked for with a flag, inherited from a session, or found under a label in the runtime
directory. A path from a session or under a label is never empty, and one that is asked for is taken
as it is.
-/

namespace MuxLaunch

namespace Socket

/-- Where the path of a socket comes from. -/
inductive Origin (s : Storage) (e : Environ) (user : Int) (r : SocketRequest)
    (random : List Char) : String → Prop
  | asked {path : String} : r.path = some path → Origin s e user r random path
  | session {path : String} : r.path = none → r.label = none → inherited? e = some path →
      Origin s e user r random path
  | labelled {directory name : String} {rest : List Char} : r.path = none →
      (RuntimeDirectory.ensure s (RuntimeDirectory.path e r.directoryStart user) user).result =
        .ok directory →
      label (RuntimeDirectory.ensure s (RuntimeDirectory.path e r.directoryStart user) user).storage
        directory r random = (some name, rest) →
      Origin s e user r random (directory ++ "/" ++ name)

variable {s : Storage} {e : Environ} {user : Int} {r : SocketRequest} {random : List Char}
  {path : String}

theorem path_of_known? (isKnown : known? e r = none) : r.path = none := by
  unfold known? at isKnown
  split at isKnown
  · cases isKnown
  · assumption
  · assumption

theorem origin_of_known? {notes : List Note} (isKnown : known? e r = some (path, notes)) :
    Origin s e user r random path := by
  unfold known? at isKnown
  split at isKnown
  · cases isKnown
    rename_i isPath
    exact .asked isPath
  · cases isKnown
  · rename_i noPath noLabel
    obtain ⟨inherited, isInherited, same⟩ := Option.map_eq_some_iff.mp isKnown
    cases same
    exact .session noPath noLabel isInherited

theorem origin_of_locate (located : (locate s e user r random).1.result = .ok path) :
    Origin s e user r random path := by
  unfold locate at located
  split at located
  · rename_i known notes isKnown
    cases located
    exact origin_of_known? isKnown
  · rename_i isKnown
    dsimp only at located
    split at located
    · cases located
    · rename_i directory isEnsured
      split at located
      · cases located
      · rename_i name rest isLabel
        cases located
        exact .labelled (path_of_known? isKnown) isEnsured isLabel

theorem inherited?_ne_empty (isInherited : inherited? e = some path) : path ≠ "" := by
  unfold inherited? at isInherited
  split at isInherited
  · split at isInherited
    · cases isInherited
    · rename_i nonempty
      cases isInherited
      exact fun isEmpty => nonempty (String.ofList_eq_empty_iff.mp isEmpty)
  · cases isInherited

/-- The path of a socket is empty only if the empty path is asked for. -/
theorem Origin.eq_empty_iff (origin : Origin s e user r random path) :
    path = "" ↔ r.path = some "" := by
  cases origin with
  | asked isPath => rw [isPath, Option.some_inj]
  | session noPath _ isInherited => simp [noPath, inherited?_ne_empty isInherited]
  | labelled noPath => simp [noPath]

end Socket

namespace Launch

variable {arguments : List String} {p : Profile} {setUp : Nat → Launch Unit} {user : Option Int}
  {directory : Option String} {m m' : Machine} {c : Context}

theorem origin_of_locateSocket {request : SocketRequest} {socket : String}
    (located : locateSocket request user m = .ok socket m') :
    Socket.Origin m.storage m.environ (user.getD m.storage.user) request m.random socket := by
  obtain ⟨_, -, -, found⟩ := locateSocket_eq request user m
  rw [located] at found
  split at found
  · rename_i path isLocated
    cases found
    exact Socket.origin_of_locate isLocated
  · cases found

/-- The path of the socket in a context is empty only if the last path that a flag asks for is, and
    a path that is asked for is taken as it is. -/
theorem socket_of_startup (started : startup arguments p setUp user directory m = .ok c m') :
    (c.socket = "" ↔ (Walk.ofWords arguments.tail).last? 'S' = some "") ∧
      ∀ path, (Walk.ofWords arguments.tail).last? 'S' = some path → c.socket = path := by
  cases stages_of_startup started with
  | @intro line shell socket trees m₁ m₂ m₃ m₄ isRead _ _ _ located =>
      obtain ⟨command, isLine⟩ := CommandLine.tally_of_ok isRead
      have asked : (line.socketRequest p).path = (Walk.ofWords arguments.tail).last? 'S' := by
        rw [isLine]
        exact Walk.value?_scan arguments.tail .socket
      have origin := origin_of_locateSocket located
      rw [← asked]
      refine ⟨origin.eq_empty_iff, fun path isPath => ?_⟩
      cases origin with
      | asked isSocket => exact Option.some_inj.mp (isSocket.symm.trans isPath)
      | session noPath => cases noPath.symm.trans isPath
      | labelled noPath => cases noPath.symm.trans isPath

/-- An empty label makes no empty path. -/
theorem socket_unlabelled :
    ∃ c m', startup ["tmate", "-L", ""] {} (fun _ => pure ()) none none .bare = .ok c m' ∧
      (Walk.ofWords ["-L", ""]).last? 'S' = none ∧ c.socket ≠ "" := by
  obtain ⟨c, m', started⟩ :
      ∃ c m', startup ["tmate", "-L", ""] {} (fun _ => pure ()) none none .bare = .ok c m' :=
    ⟨_, _, rfl⟩
  have unasked : (Walk.ofWords ["-L", ""]).last? 'S' = none := by decide
  refine ⟨c, m', started, unasked, fun isEmpty => ?_⟩
  have asked := (socket_of_startup started).1.mp isEmpty
  cases unasked.symm.trans asked

/-- An empty path that is asked for ends up in the context. -/
theorem socket_empty :
    ∃ c m', startup ["tmate", "-S", ""] {} (fun _ => pure ()) none none .bare = .ok c m' ∧
      c.socket = "" :=
  ⟨_, _, rfl, rfl⟩

end Launch

end MuxLaunch
