import MuxLaunch.Proofs.Deferred.History

/-! # Accounting for values

Every value that is accepted should wait, be handed over once, or be replaced before that. A drain
hands over what it found at its start, so this fails when its runner meanwhile enqueues another
value for an option whose turn is still to come, and only then.
-/

namespace MuxLaunch.DeferredQueue

/-- The values handed over for an option until the next one is accepted for it. -/
def handedOver (d : Deferrable) : List QueueEvent → List String
  | [] => []
  | .accepted d' _ :: rest => if d' = d then [] else handedOver d rest
  | .begun :: rest => handedOver d rest
  | .handed d' value :: rest =>
      if d' = d then value :: handedOver d rest else handedOver d rest

/-- Another value has been accepted for an option. -/
def IsReplaced (d : Deferrable) (later : List QueueEvent) : Prop :=
  ∃ value, .accepted d value ∈ later

/-- Every value accepted so far has been handed over exactly once, or has been replaced without
    being handed over, or still waits. -/
def AccountedAt (es : List QueueEvent) (q : DeferredQueue) : Prop :=
  ∀ earlier d value later, es = earlier ++ .accepted d value :: later →
    handedOver d later = [value] ∨
      handedOver d later = [] ∧ (IsReplaced d later ∨ q.get? d = some value)

/-- The values are accounted for at every moment of a history. -/
def Accounted (h : History) : Prop :=
  ∀ past now, past ++ [now] <+: h → AccountedAt (events (past ++ [now])) now.queue

/-- Whenever a drain hands a value over, nothing else has been accepted for its option since the
    drain began, or last of all that very value. -/
def IsPrompt (h : History) : Prop :=
  ∀ past d value q, past ++ [⟨.handed d value, q⟩] <+: h →
    ∀ newer, latest? d (events past) = some newer → newer = value

variable {d : Deferrable} {q : DeferredQueue} {h : History}

theorem not_isReplaced_nil : ¬IsReplaced d [] := by
  rintro ⟨_, member⟩
  cases member

theorem isReplaced_concat {later : List QueueEvent} {e : QueueEvent} :
    IsReplaced d (later ++ [e]) ↔ IsReplaced d later ∨ ∃ value, e = .accepted d value := by
  simp only [IsReplaced, List.mem_append, List.mem_singleton, exists_or, eq_comm]

/-- Once a value has been replaced, what is handed over counts for its successor. -/
theorem handedOver_concat_of_isReplaced {later : List QueueEvent} (e : QueueEvent)
    (replaced : IsReplaced d later) : handedOver d (later ++ [e]) = handedOver d later := by
  obtain ⟨value, member⟩ := replaced
  induction later with
  | nil => cases member
  | cons first rest ih =>
      cases first with
      | accepted d' other =>
          simp only [List.cons_append, handedOver]
          split
          · rfl
          · rename_i different
            rcases List.mem_cons.mp member with same | member
            · cases same
              exact absurd rfl different
            · exact ih member
      | begun =>
          rcases List.mem_cons.mp member with same | member
          · cases same
          · exact ih member
      | handed d' other =>
          rcases List.mem_cons.mp member with same | member
          · cases same
          · simp only [List.cons_append, handedOver, ih member]

theorem handedOver_concat {later : List QueueEvent} (e : QueueEvent)
    (current : ¬IsReplaced d later) :
    handedOver d (later ++ [e]) = handedOver d later ++ handedOver d [e] := by
  induction later with
  | nil => rfl
  | cons first rest ih =>
      have tail : ¬IsReplaced d rest := fun ⟨value, member⟩ =>
        current ⟨value, List.mem_cons_of_mem _ member⟩
      cases first with
      | accepted d' other =>
          have different : d' ≠ d := by
            rintro rfl
            exact current ⟨other, List.mem_cons_self⟩
          simp only [List.cons_append, handedOver, if_neg different, ih tail]
      | begun => exact ih tail
      | handed d' other =>
          simp only [List.cons_append, handedOver, ih tail]
          split
          · rfl
          · rfl

theorem handedOver_concat_of_nil (later : List QueueEvent) {e : QueueEvent}
    (quiet : handedOver d [e] = []) : handedOver d (later ++ [e]) = handedOver d later := by
  by_cases replaced : IsReplaced d later
  · exact handedOver_concat_of_isReplaced e replaced
  · rw [handedOver_concat e replaced, quiet, List.append_nil]

theorem accepted_split {es earlier later : List QueueEvent} {e : QueueEvent} {value : String}
    (split : es ++ [e] = earlier ++ .accepted d value :: later) :
    later = [] ∧ e = .accepted d value ∧ es = earlier ∨
      ∃ rest, later = rest ++ [e] ∧ es = earlier ++ .accepted d value :: rest := by
  rcases List.eq_nil_or_concat later with rfl | ⟨rest, last, rfl⟩
  · obtain ⟨rfl, same⟩ := List.append_inj' split rfl
    exact .inl ⟨rfl, by simpa using same, rfl⟩
  · have shape : es ++ [e] = (earlier ++ .accepted d value :: rest) ++ [last] := by
      simpa using split
    obtain ⟨rfl, same⟩ := List.append_inj' shape rfl
    simp only [List.cons.injEq, and_true] at same
    subst same
    exact .inr ⟨rest, List.concat_eq_append, rfl⟩

/-- What the queue holds is the value last accepted, unless it has been handed over. -/
theorem IsLog.get?_eq (isLog : IsLog q h) {earlier later : List QueueEvent} {value : String}
    (split : events h = earlier ++ .accepted d value :: later) (current : ¬IsReplaced d later) :
    q.get? d = if handedOver d later = [] then some value else none := by
  induction isLog generalizing earlier later with
  | fresh => simp [events] at split
  | accepted d' newer log ih =>
      rw [events_concat] at split
      rcases accepted_split split with ⟨rfl, same, -⟩ | ⟨rest, rfl, before⟩
      · cases same
        simp [handedOver, get?_put]
      · have different : d' ≠ d := by
          rintro rfl
          exact current (isReplaced_concat.mpr (.inr ⟨newer, rfl⟩))
        rw [get?_put, if_neg (Ne.symm different), handedOver_concat_of_nil rest
          (by simp [handedOver, different])]
        exact ih before fun replaced => current (isReplaced_concat.mpr (.inl replaced))
  | begun log ih =>
      rw [events_concat] at split
      rcases accepted_split split with ⟨rfl, same, -⟩ | ⟨rest, rfl, before⟩
      · cases same
      · rw [handedOver_concat_of_nil rest rfl]
        exact ih before fun replaced => current (isReplaced_concat.mpr (.inl replaced))
  | handed d' taken log _ ih =>
      rw [events_concat] at split
      rcases accepted_split split with ⟨rfl, same, -⟩ | ⟨rest, rfl, before⟩
      · cases same
      · have still : ¬IsReplaced d rest := fun replaced =>
          current (isReplaced_concat.mpr (.inl replaced))
        rw [get?_erase]
        by_cases same : d = d'
        · subst same
          simp [handedOver_concat _ still, handedOver]
        · rw [if_neg same, handedOver_concat_of_nil rest (by simp [handedOver, Ne.symm same])]
          exact ih before still

/-- A value that has been accepted and neither been replaced nor handed over since. -/
def IsOutstanding (d : Deferrable) (value : String) (es : List QueueEvent) : Prop :=
  ∃ earlier later, es = earlier ++ .accepted d value :: later ∧ ¬IsReplaced d later ∧
    handedOver d later = []

theorem IsOutstanding.concat {es : List QueueEvent} {value : String}
    (outstanding : IsOutstanding d value es) {e : QueueEvent} (other : ∀ v, e ≠ .accepted d v)
    (quiet : handedOver d [e] = []) : IsOutstanding d value (es ++ [e]) := by
  obtain ⟨earlier, later, split, current, none⟩ := outstanding
  refine ⟨earlier, later ++ [e], by simp [split], ?_, ?_⟩
  · rw [isReplaced_concat]
    rintro (replaced | ⟨v, same⟩)
    · exact current replaced
    · exact other v same
  · rw [handedOver_concat_of_nil later quiet, none]

theorem IsLog.isOutstanding (isLog : IsLog q h) {value : String} (waits : q.get? d = some value) :
    IsOutstanding d value (events h) := by
  induction isLog generalizing value with
  | fresh => cases waits
  | @accepted q h d' newer log ih =>
      rw [events_concat]
      rw [get?_put] at waits
      split at waits
      · rename_i same
        cases waits
        subst same
        exact ⟨events h, [], rfl, not_isReplaced_nil, rfl⟩
      · rename_i different
        refine (ih waits).concat (fun v same => ?_) (by simp [handedOver, Ne.symm different])
        cases same
        exact different rfl
  | begun log ih =>
      rw [events_concat]
      exact (ih waits).concat (fun _ same => nomatch same) rfl
  | @handed q h d' taken log _ ih =>
      rw [events_concat]
      rw [get?_erase] at waits
      split at waits
      · cases waits
      · rename_i different
        exact (ih waits).concat (fun _ same => nomatch same)
          (by simp [handedOver, Ne.symm different])

theorem accounted_concat {m : Moment} :
    Accounted (h ++ [m]) ↔ Accounted h ∧ AccountedAt (events (h ++ [m])) m.queue := by
  simp only [Accounted, List.prefix_concat_iff]
  constructor
  · intro all
    exact ⟨fun past now isPrefix => all past now (.inr isPrefix), all h m (.inl rfl)⟩
  · rintro ⟨before, last⟩ past now (same | isPrefix)
    · obtain ⟨rfl, sameNow⟩ := List.append_inj' same rfl
      cases sameNow
      exact last
    · exact before past now isPrefix

theorem isPrompt_concat {m : Moment} :
    IsPrompt (h ++ [m]) ↔ IsPrompt h ∧
      ∀ d value, m.event = .handed d value →
        ∀ newer, latest? d (events h) = some newer → newer = value := by
  simp only [IsPrompt, List.prefix_concat_iff]
  constructor
  · intro all
    refine ⟨fun past d value q isPrefix => all past d value q (.inr isPrefix), ?_⟩
    rintro d value isHanded
    refine all h d value m.queue (.inl ?_)
    rw [← isHanded]
  · rintro ⟨before, last⟩ past d value q (same | isPrefix)
    · obtain ⟨rfl, sameMoment⟩ := List.append_inj' same rfl
      cases sameMoment
      exact last d value rfl
    · exact before past d value q isPrefix

theorem AccountedAt.accepted {es : List QueueEvent} (accounted : AccountedAt es q)
    (d : Deferrable) (value : String) :
    AccountedAt (es ++ [.accepted d value]) (q.put d value) := by
  intro earlier d' old later split
  rcases accepted_split split with ⟨rfl, same, -⟩ | ⟨rest, rfl, before⟩
  · cases same
    exact .inr ⟨rfl, .inr (by simp [get?_put])⟩
  · rw [handedOver_concat_of_nil rest (by simp [handedOver])]
    refine (accounted earlier d' old rest before).imp_right fun ⟨unhanded, rest⟩ => ⟨unhanded, ?_⟩
    rw [isReplaced_concat]
    by_cases same : d = d'
    · subst same
      exact .inl (.inr ⟨value, rfl⟩)
    · rw [get?_put, if_neg (Ne.symm same)]
      exact rest.imp_left .inl

theorem AccountedAt.begun {es : List QueueEvent} (accounted : AccountedAt es q) :
    AccountedAt (es ++ [.begun]) q := by
  intro earlier d old later split
  rcases accepted_split split with ⟨rfl, same, -⟩ | ⟨rest, rfl, before⟩
  · cases same
  · rw [handedOver_concat_of_nil rest rfl, isReplaced_concat]
    exact (accounted earlier d old rest before).imp_right fun ⟨unhanded, rest⟩ =>
      ⟨unhanded, rest.imp_left .inl⟩

/-- The values stay accounted for when the one that the queue holds is handed over. -/
theorem AccountedAt.handed (accounted : AccountedAt (events h) q) (isLog : IsLog q h)
    {d : Deferrable} {value : String} (waits : q.get? d = some value) :
    AccountedAt (events h ++ [.handed d value]) (q.erase d) := by
  intro earlier d' old later split
  rcases accepted_split split with ⟨rfl, same, -⟩ | ⟨rest, rfl, before⟩
  · cases same
  · by_cases replaced : IsReplaced d' rest
    · rw [handedOver_concat_of_isReplaced _ replaced]
      exact (accounted earlier d' old rest before).imp_right fun ⟨unhanded, _⟩ =>
        ⟨unhanded, .inl (isReplaced_concat.mpr (.inl replaced))⟩
    · rw [handedOver_concat _ replaced, isReplaced_concat, get?_erase]
      by_cases same : d' = d
      · subst same
        have held := isLog.get?_eq before replaced
        rw [waits] at held
        split at held
        · rename_i unhanded
          cases held
          exact .inl (by simp [unhanded, handedOver])
        · cases held
      · rw [if_neg same]
        have quiet : handedOver d' [.handed d value] = [] := by simp [handedOver, Ne.symm same]
        rw [quiet, List.append_nil]
        exact (accounted earlier d' old rest before).imp_right fun ⟨unhanded, rest⟩ =>
          ⟨unhanded, rest.imp_left .inl⟩

/-- The values are no longer accounted for when one is handed over in the place of another. -/
theorem AccountedAt.eq_of_handed (isLog : IsLog q h) {d : Deferrable} {held value : String}
    (waits : q.get? d = some held) {q' : DeferredQueue}
    (accounted : AccountedAt (events h ++ [.handed d value]) q') : held = value := by
  obtain ⟨earlier, later, split, current, unhanded⟩ := isLog.isOutstanding waits
  have last := accounted earlier d held (later ++ [.handed d value]) (by simp [split])
  rw [handedOver_concat _ current, unhanded] at last
  simp only [handedOver, if_true, List.nil_append] at last
  rcases last with same | ⟨none, -⟩
  · exact (List.cons.inj same).1.symm
  · cases none

/-- The values of a log are accounted for exactly as long as it is prompt. -/
theorem IsLog.accounted_iff (isLog : IsLog q h) :
    (Accounted h ↔ IsPrompt h) ∧ (Accounted h → AccountedAt (events h) q) := by
  induction isLog with
  | fresh =>
      refine ⟨⟨fun _ past d value q isPrefix => ?_, fun _ past now isPrefix => ?_⟩,
        fun _ earlier d value later split => ?_⟩
      · simp at isPrefix
      · simp at isPrefix
      · simp [events] at split
  | accepted d value log ih =>
      rw [accounted_concat, isPrompt_concat, events_concat]
      refine ⟨⟨fun ⟨before, _⟩ => ⟨ih.1.mp before, by simp⟩, fun ⟨before, _⟩ => ?_⟩, And.right⟩
      exact ⟨ih.1.mpr before, (ih.2 (ih.1.mpr before)).accepted d value⟩
  | begun log ih =>
      rw [accounted_concat, isPrompt_concat, events_concat]
      refine ⟨⟨fun ⟨before, _⟩ => ⟨ih.1.mp before, by simp⟩, fun ⟨before, _⟩ => ?_⟩, And.right⟩
      exact ⟨ih.1.mpr before, (ih.2 (ih.1.mpr before)).begun⟩
  | @handed q h d value log holds ih =>
      rw [accounted_concat, isPrompt_concat, events_concat]
      refine ⟨⟨fun ⟨before, now⟩ => ⟨ih.1.mp before, ?_⟩, fun ⟨before, prompt⟩ => ?_⟩, And.right⟩
      -- A newer value in the queue goes down with the one that is handed over in its place.
      · intro d' value' same newer isLatest
        cases same
        have held := AccountedAt.eq_of_handed log holds now
        rw [isLatest] at held
        exact held
      · have waits : q.get? d = some value := by
          rw [holds]
          cases isLatest : latest? d (events h) with
          | none => rfl
          | some newer => rw [prompt d value rfl newer isLatest]; rfl
        exact ⟨ih.1.mpr before, (ih.2 (ih.1.mpr before)).handed log waits⟩

/-- Whatever is enqueued and drained, and whatever the runners enqueue, the values are accounted
    for at every moment exactly when no drain hands over a value after another one has been
    accepted for its option in the meantime. -/
theorem accounted_history_iff (calls : List Call) :
    Accounted (history calls) ↔ IsPrompt (history calls) := by
  obtain ⟨q, isLog⟩ := history_isLog calls
  exact isLog.accounted_iff.1

/-- A runner that changes its mind about the session's name before the drain gets there. -/
def fickle : QueueRunner := fun _ d _ =>
  ⟨if d = .apiKey then [("tmate-session-name", "new")] else [], some true⟩

/-- The new name is removed from the queue and never handed over. -/
theorem not_accounted_fickle :
    ¬Accounted (history [.enqueue "tmate-api-key" "k", .enqueue "tmate-session-name" "old",
      .drain fickle]) := by
  intro accounted
  have last := accounted
    [⟨.accepted .apiKey "k", ⟨[(.apiKey, "k")]⟩⟩,
     ⟨.accepted .sessionName "old", ⟨[(.sessionName, "old"), (.apiKey, "k")]⟩⟩,
     ⟨.begun, ⟨[(.sessionName, "old"), (.apiKey, "k")]⟩⟩,
     ⟨.handed .apiKey "k", ⟨[(.sessionName, "old")]⟩⟩,
     ⟨.accepted .sessionName "new", ⟨[(.sessionName, "new")]⟩⟩]
    ⟨.handed .sessionName "old", ⟨[]⟩⟩ ⟨[], rfl⟩
    [.accepted .apiKey "k", .accepted .sessionName "old", .begun, .handed .apiKey "k"]
    .sessionName "new" [.handed .sessionName "old"] rfl
  rcases last with isNew | ⟨isNone, -⟩
  · exact absurd isNew (by decide)
  · cases isNone

end MuxLaunch.DeferredQueue
