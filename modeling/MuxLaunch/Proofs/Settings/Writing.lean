import Mathlib.Data.Option.Basic
import MuxLaunch.Yaml.Value

/-! # Values that have a text

A value has a text where there is room for its depth and none of its numbers is too long.
-/

namespace MuxLaunch.Yaml

theorem Scalar.levels_pos (s : Scalar) : 0 < s.levels := by
  unfold levels
  split
  · split <;> decide
  · decide

/-- The number that a scalar is, if it is a whole one. -/
def Scalar.numbers : Scalar → List Int
  | .int n => [n]
  | _ => []

/-- There is room for the depth, and none of the numbers is too long. -/
def IsWritten (room depth : Nat) (numbers : List Int) : Prop :=
  depth ≤ room ∧ ∀ n ∈ numbers, Text.Integer.isTooLong n = false

section

variable {room a b : Nat} {l m : List Int}

theorem isWritten_nil : IsWritten room 0 [] :=
  ⟨Nat.zero_le _, nofun⟩

theorem isWritten_append :
    IsWritten room (max a b) (l ++ m) ↔ IsWritten room a l ∧ IsWritten room b m := by
  unfold IsWritten
  rw [Nat.max_le, List.forall_mem_append]
  constructor
  · rintro ⟨⟨fitsLeft, fitsRight⟩, shortLeft, shortRight⟩
    exact ⟨⟨fitsLeft, shortLeft⟩, fitsRight, shortRight⟩
  · rintro ⟨⟨fitsLeft, shortLeft⟩, fitsRight, shortRight⟩
    exact ⟨⟨fitsLeft, fitsRight⟩, shortLeft, shortRight⟩

theorem isWritten_succ : IsWritten (room + 1) (a + 1) l ↔ IsWritten room a l :=
  and_congr_left fun _ => Nat.add_le_add_iff_right

/-- A level further in there is less room by one. -/
theorem isWritten_pred (pos : 0 < a) : IsWritten room (a + 1) l ↔ IsWritten (room - 1) a l :=
  and_congr_left fun _ => by omega

end

theorem Scalar.flaw?_eq_none {room : Nat} {s : Scalar} :
    s.flaw? room = none ↔ IsWritten room s.levels s.numbers := by
  unfold flaw? IsWritten
  by_cases isDeep : room < s.levels
  · simp [isDeep, Nat.not_le.mpr isDeep]
  · cases s <;> simp [isDeep, Nat.not_lt.mp isDeep, numbers]

namespace Value

mutual

/-- How many texts inside of each other the text of a value is made of, itself included. -/
def depth : Value → Nat
  | .scalar s => s.levels
  | .sequence items => itemsDepth items + 1
  | .mapping entries => entriesDepth entries + 1
  | .set members => (members.map fun s => s.levels + 1).foldr max 0 + 1
  | .pairs entries => pairsDepth entries + 1
  | .knot _ => 1

def itemsDepth : List Value → Nat
  | [] => 0
  | item :: more => max (depth item) (itemsDepth more)

def entriesDepth : List (Scalar × Value) → Nat
  | [] => 0
  | (key, value) :: more => max (max key.levels (depth value)) (entriesDepth more)

def pairsDepth : List (Value × Value) → Nat
  | [] => 0
  | (key, value) :: more => max (max (depth key) (depth value) + 1) (pairsDepth more)

end

mutual

/-- The whole numbers in a value. -/
def numbers : Value → List Int
  | .scalar s => s.numbers
  | .sequence items => itemsNumbers items
  | .mapping entries => entriesNumbers entries
  | .set members => members.flatMap Scalar.numbers
  | .pairs entries => pairsNumbers entries
  | .knot _ => []

def itemsNumbers : List Value → List Int
  | [] => []
  | item :: more => numbers item ++ itemsNumbers more

def entriesNumbers : List (Scalar × Value) → List Int
  | [] => []
  | (key, value) :: more => key.numbers ++ numbers value ++ entriesNumbers more

def pairsNumbers : List (Value × Value) → List Int
  | [] => []
  | (key, value) :: more => numbers key ++ numbers value ++ pairsNumbers more

end

theorem depth_pos (v : Value) : 0 < v.depth := by
  cases v with
  | scalar s => simpa [depth] using s.levels_pos
  | _ => simp [depth]

theorem membersFlaw?_eq_none {room : Nat} {members : List Scalar} :
    members.findSome? (Scalar.flaw? (room - 1)) = none ↔
      IsWritten room ((members.map fun s => s.levels + 1).foldr max 0)
        (members.flatMap Scalar.numbers) := by
  induction members with
  | nil => simp [isWritten_nil]
  | cons s more ih =>
      rw [List.map_cons, List.foldr_cons, List.flatMap_cons, isWritten_append, ← ih,
        isWritten_pred s.levels_pos, ← Scalar.flaw?_eq_none]
      simp

mutual

theorem flaw?_eq_none : ∀ {room : Nat} {v : Value},
    v.flaw? room = none ↔ IsWritten room v.depth v.numbers
  | 0, v => by simp [flaw?, IsWritten, Nat.ne_of_gt v.depth_pos]
  | _ + 1, .scalar _ => by rw [flaw?, depth, numbers, Scalar.flaw?_eq_none]
  | _ + 1, .sequence _ => by rw [flaw?, depth, numbers, isWritten_succ, itemsFlaw?_eq_none]
  | _ + 1, .mapping _ => by rw [flaw?, depth, numbers, isWritten_succ, entriesFlaw?_eq_none]
  | _ + 1, .set _ => by rw [flaw?, depth, numbers, isWritten_succ, membersFlaw?_eq_none]
  | _ + 1, .pairs _ => by rw [flaw?, depth, numbers, isWritten_succ, pairsFlaw?_eq_none]
  | _ + 1, .knot _ => by simp [flaw?, depth, numbers, IsWritten]

theorem itemsFlaw?_eq_none : ∀ {room : Nat} {items : List Value},
    itemsFlaw? room items = none ↔ IsWritten room (itemsDepth items) (itemsNumbers items)
  | _, [] => by simp [itemsFlaw?, itemsDepth, itemsNumbers, isWritten_nil]
  | _, _ :: _ => by
      rw [itemsFlaw?, itemsDepth, itemsNumbers, isWritten_append, Option.orElse_eq_none,
        flaw?_eq_none, itemsFlaw?_eq_none]

theorem entriesFlaw?_eq_none : ∀ {room : Nat} {entries : List (Scalar × Value)},
    entriesFlaw? room entries = none ↔
      IsWritten room (entriesDepth entries) (entriesNumbers entries)
  | _, [] => by simp [entriesFlaw?, entriesDepth, entriesNumbers, isWritten_nil]
  | _, (_, _) :: _ => by
      rw [entriesFlaw?, entriesDepth, entriesNumbers, isWritten_append, isWritten_append,
        Option.orElse_eq_none, Option.orElse_eq_none, Scalar.flaw?_eq_none, flaw?_eq_none,
        entriesFlaw?_eq_none, and_assoc]

theorem pairsFlaw?_eq_none : ∀ {room : Nat} {entries : List (Value × Value)},
    pairsFlaw? (room - 1) entries = none ↔
      IsWritten room (pairsDepth entries) (pairsNumbers entries)
  | _, [] => by simp [pairsFlaw?, pairsDepth, pairsNumbers, isWritten_nil]
  | _, (key, value) :: _ => by
      have pos : 0 < max key.depth value.depth := by
        have := key.depth_pos
        omega
      rw [pairsFlaw?, pairsDepth, pairsNumbers, isWritten_append, isWritten_pred pos,
        isWritten_append, Option.orElse_eq_none, Option.orElse_eq_none, flaw?_eq_none,
        flaw?_eq_none, pairsFlaw?_eq_none, and_assoc]

end

/-- A text that stands alone always has a text; any other value has one where there is room for its
    depth and none of its numbers is too long. -/
theorem text?_isOk {room : Nat} {v : Value} :
    (∃ text, v.text? room = .ok text) ↔
      (∃ s, v = .scalar (.text s)) ∨ IsWritten room v.depth v.numbers := by
  unfold text?
  split
  · rename_i s
    exact ⟨fun _ => .inl ⟨s, rfl⟩, fun _ => ⟨_, rfl⟩⟩
  · rename_i notText
    rw [← flaw?_eq_none]
    cases v.flaw? room with
    | none => exact ⟨fun _ => .inr rfl, fun _ => ⟨_, rfl⟩⟩
    | some f =>
        constructor
        · rintro ⟨_, ⟨⟩⟩
        · rintro (⟨s, isText⟩ | isNone)
          · exact absurd isText (notText s)
          · cases isNone

end Value

end MuxLaunch.Yaml
