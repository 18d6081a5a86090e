import Mathlib.Algebra.Order.Monoid.Canonical.Defs
import SalienceGate.Lib.Dict

/-!
# Allotting a bounded resource

Holders of a dictionary share a resource. A holder first reserves an amount that must fit in what
is left, and later settles for no more than it reserved, which gives the rest back. `Moves` is
what one holder may do, `used_set_le` says that a move keeps the total within the limit, and
`spent_le_set` that what has been settled is never given back.
-/

variable {M : Type}

/-- What a holder has of the resource. -/
inductive Holding (M : Type) where
  | free
  | reserved (amount : M)
  | settled (amount : M)
deriving DecidableEq

namespace Holding

/-- The reserved amount. -/
def held [Zero M] : Holding M → M
  | .reserved amount => amount
  | .free | .settled _ => 0

/-- The settled amount. -/
def spent [Zero M] : Holding M → M
  | .settled amount => amount
  | .free | .reserved _ => 0

/-- What the holder counts for: its reservation until it has settled. -/
def charge [AddZeroClass M] (h : Holding M) : M := h.held + h.spent

variable [AddCommMonoid M] [PartialOrder M]

/-- What a holder may do when `used` of the `limit` is charged. -/
inductive Moves (limit used : M) : Holding M → Holding M → Prop where
  | stay (h : Holding M) : Moves limit used h h
  | reserve (amount : M) (fits : used + amount ≤ limit) : Moves limit used .free (.reserved amount)
  | settle (reservation settlement : M) (within : settlement ≤ reservation) :
      Moves limit used (.reserved reservation) (.settled settlement)

variable {limit used used' : M} {h h' : Holding M}

/-- After a move the total is within the limit. -/
theorem Moves.le_limit [IsOrderedCancelAddMonoid M] (hm : Moves limit used h h')
    (hused : used ≤ limit) (htotal : used' + h.charge = used + h'.charge) : used' ≤ limit := by
  cases hm with
  | stay =>
    rw [add_right_cancel htotal]
    exact hused
  | reserve amount fits =>
    simp only [charge, held, spent, add_zero] at htotal
    exact htotal ▸ fits
  | settle reservation settlement within =>
    simp only [charge, held, spent, add_zero, zero_add] at htotal
    have hle : used' + reservation ≤ used + reservation := by
      rw [htotal]
      gcongr
    exact (le_of_add_le_add_right hle).trans hused

/-- A move never takes back what was settled. -/
theorem Moves.spent_le [CanonicallyOrderedAdd M] (hm : Moves limit used h h') :
    h.spent ≤ h'.spent := by
  cases hm with
  | stay => exact le_rfl
  | reserve => exact le_rfl
  | settle => exact zero_le

end Holding

/-! ## A dictionary of holders -/

namespace Allotment

open Holding

variable {ι ν : Type} [DecidableEq ι] [AddCommMonoid M] {holding : ν → Holding M} {d : Dict ι ν}
  {k : ι} {v old : ν} {limit : M}

/-- What all holders are charged. -/
def used (holding : ν → Holding M) (d : Dict ι ν) : M := d.total fun v => (holding v).charge

/-- What all holders have settled. -/
def spent (holding : ν → Holding M) (d : Dict ι ν) : M := d.total fun v => (holding v).spent

/-- What all holders have reserved and not settled. -/
def held (holding : ν → Holding M) (d : Dict ι ν) : M := d.total fun v => (holding v).held

omit [DecidableEq ι] in
/-- A charge is a reservation or a settlement. -/
theorem used_eq : used holding d = held holding d + spent holding d :=
  List.sum_map_add

omit [DecidableEq ι] in
@[simp] theorem used_empty : used holding (Dict.empty : Dict ι ν) = 0 := rfl

/-- A new holder comes without a charge. -/
theorem used_set_of_notMem (hk : k ∉ d) (hv : holding v = .free) :
    used holding (d.set k v) = used holding d := by
  simp [used, Dict.total_set_of_notMem hk, hv, charge, Holding.held, Holding.spent]

/-- A new holder has not settled anything. -/
theorem spent_set_of_notMem (hk : k ∉ d) (hv : holding v = .free) :
    spent holding (d.set k v) = spent holding d := by
  simp [spent, Dict.total_set_of_notMem hk, hv, Holding.spent]

variable [PartialOrder M] [IsOrderedCancelAddMonoid M]

/-- A move of a holder keeps the total within the limit. -/
theorem used_set_le (hold : d.get? k = some old)
    (hm : Moves limit (used holding d) (holding old) (holding v)) (hle : used holding d ≤ limit) :
    used holding (d.set k v) ≤ limit :=
  hm.le_limit hle (Dict.total_set hold)

/-- What has been settled is never given back. -/
theorem spent_le_set [CanonicallyOrderedAdd M] (hold : d.get? k = some old)
    (hm : Moves limit (used holding d) (holding old) (holding v)) :
    spent holding d ≤ spent holding (d.set k v) := by
  have htotal : spent holding (d.set k v) + (holding old).spent
      = spent holding d + (holding v).spent := Dict.total_set hold
  have hle : spent holding d + (holding old).spent
      ≤ spent holding (d.set k v) + (holding old).spent := by
    rw [htotal]
    gcongr
    exact hm.spent_le
  exact le_of_add_le_add_right hle

end Allotment
