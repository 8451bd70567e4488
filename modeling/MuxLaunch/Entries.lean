/-! # Lists of entries

Small maps are kept as lists of keys and values, of which the first entry of a key counts. These
are the laws of looking a key up in such a list after it has been changed.
-/

namespace MuxLaunch.Entries

variable {κ ν : Type} [BEq κ] [LawfulBEq κ] [DecidableEq κ]

theorem lookup_cons (k m : κ) (v : ν) (entries : List (κ × ν)) :
    ((k, v) :: entries).lookup m = if m = k then some v else entries.lookup m := by
  by_cases h : m = k
  · simp [h]
  · have hne : (m == k) = false := by simp [h]
    simp [List.lookup_cons, hne, h]

/-- Without the entries of a key nothing is found under it, and all else as before. -/
theorem lookup_filter_ne (k m : κ) (entries : List (κ × ν)) :
    (entries.filter (·.1 ≠ k)).lookup m = if m = k then none else entries.lookup m := by
  induction entries with
  | nil => simp
  | cons entry rest ih =>
      obtain ⟨n, v⟩ := entry
      by_cases hn : n = k
      · subst hn
        by_cases hm : m = n
        · simpa [hm] using ih
        · simpa [hm, lookup_cons] using ih
      · by_cases hm : m = n
        · subst hm
          simp [hn]
        · simpa [hn, hm, lookup_cons] using ih

/-- Changing the values of a key changes what is found under it and under no other. -/
theorem lookup_map_value (k m : κ) (v : ν) (entries : List (κ × ν)) :
    (entries.map fun (n, old) => (n, if n = k then v else old)).lookup m =
      if m = k then (entries.lookup m).map fun _ => v else entries.lookup m := by
  induction entries with
  | nil => simp
  | cons entry rest ih =>
      obtain ⟨n, old⟩ := entry
      by_cases hm : m = n
      · subst hm
        by_cases h : m = k
        · simp [h]
        · simp [h]
      · simpa [hm, lookup_cons] using ih

end MuxLaunch.Entries
