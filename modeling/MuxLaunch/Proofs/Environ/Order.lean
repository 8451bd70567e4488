import Mathlib.Data.String.Basic
import MuxLaunch.Environ

/-! # Environments in order

Setting and unsetting variables keeps the names in strict order. Environments in order are the same
when the same is found in them under every name.
-/

namespace MuxLaunch.Environ

/-- The names stand in strict order. -/
def IsSorted (e : Environ) : Prop :=
  e.entries.Pairwise fun entry later => entry.1 < later.1

theorem mem_insert {name value : String} {entry : String × String}
    {entries : List (String × String)} (member : entry ∈ insert name value entries) :
    entry = (name, value) ∨ entry ∈ entries := by
  induction entries with
  | nil => exact .inl (List.mem_singleton.mp member)
  | cons first rest ih =>
      obtain ⟨n, v⟩ := first
      rw [insert] at member
      split_ifs at member with isBefore isSame
      · exact List.mem_cons.mp member
      · exact (List.mem_cons.mp member).imp_right (List.mem_cons_of_mem _)
      · rcases List.mem_cons.mp member with rfl | later
        · exact .inr List.mem_cons_self
        · exact (ih later).imp_right (List.mem_cons_of_mem _)

theorem isSorted_empty : empty.IsSorted :=
  .nil

theorem IsSorted.set {e : Environ} (sorted : e.IsSorted) (name value : String) :
    (e.set name value).IsSorted := by
  obtain ⟨entries⟩ := e
  unfold IsSorted Environ.set at *
  dsimp only at *
  induction entries with
  | nil => exact List.pairwise_singleton _ _
  | cons first rest ih =>
      obtain ⟨n, v⟩ := first
      obtain ⟨isFirst, restSorted⟩ := List.pairwise_cons.mp sorted
      rw [insert]
      split_ifs with isBefore isSame
      · refine List.pairwise_cons.mpr ⟨fun entry member => ?_, sorted⟩
        rcases List.mem_cons.mp member with rfl | later
        · exact isBefore
        · exact isBefore.trans (isFirst entry later)
      · subst isSame
        exact List.pairwise_cons.mpr ⟨isFirst, restSorted⟩
      · refine List.pairwise_cons.mpr ⟨fun entry member => ?_, ih restSorted⟩
        rcases mem_insert member with rfl | later
        · exact lt_of_le_of_ne (not_lt.mp isBefore) (Ne.symm isSame)
        · exact isFirst entry later

theorem IsSorted.unset {e : Environ} (sorted : e.IsSorted) (name : String) :
    (e.unset name).IsSorted :=
  List.Pairwise.filter _ sorted

theorem isSorted_ofList (entries : List (String × String)) : (ofList entries).IsSorted := by
  unfold ofList
  generalize start : empty = e
  have sorted : e.IsSorted := start ▸ isSorted_empty
  clear start
  induction entries generalizing e with
  | nil => exact sorted
  | cons entry rest ih => exact ih _ (sorted.set entry.1 entry.2)

theorem IsSorted.nodup {e : Environ} (sorted : e.IsSorted) : e.entries.Nodup :=
  sorted.imp fun isBefore isSame => (isSame ▸ isBefore).ne rfl

theorem IsSorted.mem_iff {e : Environ} (sorted : e.IsSorted) (name value : String) :
    (name, value) ∈ e.entries ↔ e.get? name = some value := by
  obtain ⟨entries⟩ := e
  unfold IsSorted get? at *
  dsimp only at *
  induction entries with
  | nil => simp
  | cons first rest ih =>
      obtain ⟨n, v⟩ := first
      obtain ⟨isFirst, restSorted⟩ := List.pairwise_cons.mp sorted
      rw [Entries.lookup_cons, List.mem_cons, ih restSorted]
      by_cases isSame : name = n
      · subst isSame
        have absent : rest.lookup name ≠ some value := by
          rw [Ne, ← ih restSorted]
          exact fun member => (isFirst _ member).ne rfl
        simp [absent, eq_comm]
      · simp [isSame]

/-- What is found in an environment in order is all there is to it. -/
theorem IsSorted.ext {e e' : Environ} (sorted : e.IsSorted) (sorted' : e'.IsSorted)
    (same : ∀ name, e.get? name = e'.get? name) : e = e' := by
  have members : ∀ entry, entry ∈ e.entries ↔ entry ∈ e'.entries := by
    rintro ⟨name, value⟩
    rw [sorted.mem_iff, sorted'.mem_iff, same]
  have isPerm : e.entries.Perm e'.entries :=
    (List.perm_ext_iff_of_nodup sorted.nodup sorted'.nodup).mpr members
  have sameEntries : e.entries = e'.entries :=
    isPerm.eq_of_pairwise (fun _ _ _ _ isBefore isAfter => absurd isAfter isBefore.asymm)
      sorted sorted'
  obtain ⟨entries⟩ := e
  obtain ⟨entries'⟩ := e'
  exact congrArg Environ.mk sameEntries

/-- Environments that differ only in one variable are the same without it. -/
theorem IsSorted.unset_eq {e e' : Environ} (sorted : e.IsSorted) (sorted' : e'.IsSorted)
    {name : String} (same : ∀ other, other ≠ name → e.get? other = e'.get? other) :
    e.unset name = e'.unset name := by
  refine (sorted.unset name).ext (sorted'.unset name) fun other => ?_
  rw [get?_unset, get?_unset]
  split_ifs with isName
  · rfl
  · exact same other isName

end MuxLaunch.Environ
