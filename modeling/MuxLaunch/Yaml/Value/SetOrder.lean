import MuxLaunch.Yaml.Value

/-! # The order of the members of a set

A set lists members that are numbers in the order of a table in which each has a slot. The first
slot to be tried follows from the residue of the number modulo a prime, the same for equal numbers
of different kinds. A set with members of other kinds lists them as they were given.
-/

namespace MuxLaunch.Yaml

/-- The prime of the residues; two to the power of 61 is one modulo it. -/
def residuePrime : Nat := Nat.pow 2 61 - 1

/-- A residue with a sign. There is no -1. -/
def signedResidue (negative : Bool) (size : Nat) : Int :=
  let residue : Int := (size % residuePrime : Nat)
  if !negative then residue else if residue = 1 then -2 else -residue

/-- The residue of a number. That of an infinite one is made of the digits of pi. -/
def Scalar.residue? : Scalar → Option Int
  | .bool b => some (if b then 1 else 0)
  | .int n => some (signedResidue (n < 0) n.natAbs)
  | .float x =>
      match Decimal.Reading.ofFloat x with
      | .finite negative i =>
          some (signedResidue negative (i.significand * Nat.pow 2 (i.exponent % 61).toNat))
      | .infinite negative => some (if negative then -314159 else 314159)
      | .notANumber => none
  | _ => none

namespace SetOrder

/-- How many slots the table for so many members has. -/
def tableSize (members : Nat) : Nat :=
  if members < 5 then 8 else Nat.pow 2 ((2 * members).log2 + 1)

/-- The slots that are tried one after another: a slot and the nine after it, if the table is long
    enough for that. -/
def neighbours (size slot : Nat) : List Nat :=
  if slot + 9 < size then (List.range 10).map (slot + ·) else [slot]

/-- The first free slot of those tried. The first argument bounds the number of attempts; `rest` is
    what has not yet been used of the residue. -/
def freeSlot (size : Nat) (taken : List Nat) : Nat → Nat → Nat → Nat
  | 0, slot, _ => slot
  | bound + 1, slot, rest =>
      match (neighbours size slot).find? fun s => !taken.contains s with
      | some free => free
      | none =>
          let rest := rest / 32
          freeSlot size taken bound ((slot * 5 + 1 + rest) % size) rest

/-- The slot of a member with this residue, which is seen as a number of 64 bits. -/
def slotOf (size : Nat) (taken : List Nat) (residue : Int) : Nat :=
  let bits := (residue % Nat.pow 2 64).toNat
  freeSlot size taken (size + 16) (bits % size) bits

/-- The slots of members, each given the first that those before it have left free. -/
def slots (size : Nat) : List Nat → List Int → List Nat
  | _, [] => []
  | taken, residue :: more =>
      let slot := slotOf size taken residue
      slot :: slots size (slot :: taken) more

/-- Members in the order in which a set lists them. -/
def arrange {α : Type} (scalar : α → Scalar) (members : List α) : List α :=
  match members.mapM fun m => (scalar m).residue? with
  | none => members
  | some residues =>
      let placed := (slots (tableSize members.length) [] residues).zip members
      (placed.mergeSort fun a b => a.1 ≤ b.1).map Prod.snd

end SetOrder

end MuxLaunch.Yaml
