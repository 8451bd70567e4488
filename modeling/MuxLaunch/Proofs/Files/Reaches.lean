import MuxLaunch.Proofs.Files.Lookup

/-! # Where names lead

Names lead to one place at most when every link on the way is replaced by its target. A walk of the
kernel that succeeds comes to that place.
-/

namespace MuxLaunch.Files

variable {files : Files} {follow : Bool} {spot finish : Location} {components : List String}

/-- Where names lead with every link on the way replaced by its target. -/
inductive Reaches (files : Files) : Location → List String → Location → Prop
  | done {spot : Location} : Reaches files spot [] spot
  | up {spot finish : Location} {rest : List String} :
      Reaches files spot.dropLast rest finish → Reaches files spot (".." :: rest) finish
  | step {spot finish : Location} {name : String} {rest : List String} : name ≠ ".." →
      ¬files.IsLink (spot ++ [name]) →
      Reaches files (spot ++ [name]) rest finish → Reaches files spot (name :: rest) finish
  | link {spot finish : Location} {name : String} {rest : List String} {owner : Int}
      {target : String} : name ≠ ".." →
      files.find? (spot ++ [name]) = some (.link owner target) →
      Reaches files (startOf target spot) (Path.steps target ++ rest) finish →
        Reaches files spot (name :: rest) finish

namespace Reaches

theorem unique {steps : List String} {finish' : Location} (first : files.Reaches spot steps finish)
    (second : files.Reaches spot steps finish') : finish = finish' := by
  induction first with
  | done =>
      cases second
      rfl
  | up _ ih =>
      cases second with
      | up second => exact ih second
      | step notDots _ _ => exact absurd rfl notDots
      | link notDots _ _ => exact absurd rfl notDots
  | step notDots notLink _ ih =>
      cases second with
      | up _ => exact absurd rfl notDots
      | step _ _ second => exact ih second
      | link _ isLink _ => exact absurd ⟨_, _, isLink⟩ notLink
  | link notDots isLink _ ih =>
      cases second with
      | up _ => exact absurd rfl notDots
      | step _ notLink _ => exact absurd ⟨_, _, isLink⟩ notLink
      | link _ isLink' second =>
          rw [isLink] at isLink'
          cases isLink'
          exact ih second

theorem split {first second : List String} (reaches : files.Reaches spot (first ++ second) finish) :
    ∃ middle, files.Reaches spot first middle ∧ files.Reaches middle second finish := by
  generalize isWhole : first ++ second = whole at reaches
  induction reaches generalizing first with
  | done =>
      obtain ⟨rfl, rfl⟩ := List.append_eq_nil_iff.mp isWhole
      exact ⟨_, .done, .done⟩
  | up reaches ih =>
      rcases List.append_eq_cons_iff.mp isWhole with ⟨rfl, rfl⟩ | ⟨rest, rfl, rfl⟩
      · exact ⟨_, .done, .up reaches⟩
      · obtain ⟨middle, toMiddle, fromMiddle⟩ := ih rfl
        exact ⟨middle, .up toMiddle, fromMiddle⟩
  | step notDots notLink reaches ih =>
      rcases List.append_eq_cons_iff.mp isWhole with ⟨rfl, rfl⟩ | ⟨rest, rfl, rfl⟩
      · exact ⟨_, .done, .step notDots notLink reaches⟩
      · obtain ⟨middle, toMiddle, fromMiddle⟩ := ih rfl
        exact ⟨middle, .step notDots notLink toMiddle, fromMiddle⟩
  | link notDots isLink reaches ih =>
      rcases List.append_eq_cons_iff.mp isWhole with ⟨rfl, rfl⟩ | ⟨rest, rfl, rfl⟩
      · exact ⟨_, .done, .link notDots isLink reaches⟩
      · obtain ⟨middle, toMiddle, fromMiddle⟩ := ih (List.append_assoc ..)
        exact ⟨middle, .link notDots isLink toMiddle, fromMiddle⟩

end Reaches

/-- The names that count among components. -/
def counting (components : List String) : List String :=
  components.filter (· ≠ ".")

theorem counting_components (target : String) (rest : List String) :
    counting (Path.components target ++ rest) = Path.steps target ++ counting rest := by
  rw [counting, List.filter_append, Path.steps_eq_filter_components]
  rfl

theorem counting_cons {name : String} (notDot : name ≠ ".") (rest : List String) :
    counting (name :: rest) = name :: counting rest := by
  simp [counting, notDot]

/-- What is left of the way where a walk without following links has arrived. -/
def Arrival.Leads (files : Files) (finish : Location) : Arrival → Prop
  | .done spot => spot = finish ∧ ¬files.IsLink finish
  | .detour directory target rest =>
      files.Reaches (startOf target directory) (Path.steps target ++ counting rest) finish

theorem Advances.reaches {a : Arrival} (advances : Advances files follow spot components a)
    (leads : a.Leads files finish) : files.Reaches spot (counting components) finish := by
  induction advances with
  | done =>
      rw [← leads.1]
      exact .done
  | dot _ _ ih => exact ih leads
  | up _ _ ih =>
      rw [counting_cons (by decide)]
      exact .up (ih leads)
  | step _ isEntry notLink _ ih =>
      rw [counting_cons isEntry.ne_dot]
      exact .step isEntry.ne_dots notLink (ih leads)
  | stop _ _ isLink _ => exact absurd (leads.1 ▸ isLink) leads.2
  | detour _ isEntry isLink _ =>
      rw [counting_cons isEntry.ne_dot]
      exact .link isEntry.ne_dots isLink leads

/-- A walk that succeeds leads where its names lead. -/
theorem reaches_of_walk {budget : Nat}
    (walks : files.walk follow budget spot components = .ok finish)
    (notLink : ¬files.IsLink finish) : files.Reaches spot (counting components) finish := by
  induction budget generalizing spot components with
  | zero =>
      rcases walk_eq_ok.mp walks with arrives | ⟨_, _, _, _, isZero, _⟩
      · exact arrives.reaches ⟨rfl, notLink⟩
      · cases isZero
  | succ budget ih =>
      rcases walk_eq_ok.mp walks with arrives | ⟨_, _, _, _, isSucc, arrives, walks⟩
      · exact arrives.reaches ⟨rfl, notLink⟩
      · cases isSucc
        refine arrives.reaches ?_
        rw [Arrival.Leads, ← counting_components]
        exact ih walks

end MuxLaunch.Files
