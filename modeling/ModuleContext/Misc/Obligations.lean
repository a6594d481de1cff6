import Mathlib.Algebra.Order.Group.Multiset
import Mathlib.Data.Multiset.Range
import Mathlib.Tactic.Abel

/-!
# Obligations that are settled once

Obligations are numbered from 0 in the order in which they are issued. `Accounted opened
settled next` says that each of the first `next` is either open or settled, and that exactly
once.
-/

namespace ModuleContext.Misc

def Accounted (opened : Multiset ℕ) (settled : List ℕ) (next : ℕ) : Prop :=
  opened + ↑settled = Multiset.range next

namespace Accounted

variable {opened : Multiset ℕ} {settled : List ℕ} {next id : ℕ}

theorem zero : Accounted 0 [] 0 := rfl

theorem issue (accounted : Accounted opened settled next) :
    Accounted ({next} + opened) settled (next + 1) := by
  unfold Accounted at accounted ⊢
  rw [add_assoc, accounted, Multiset.range_succ, Multiset.singleton_add]

/-- An open obligation is not settled yet. -/
theorem notSettled (accounted : Accounted ({id} + opened) settled next) : id ∉ settled := by
  have distinct := Multiset.nodup_range next
  rw [← accounted, add_assoc, Multiset.singleton_add, Multiset.nodup_cons] at distinct
  exact fun done => distinct.1 (Multiset.mem_add.mpr (Or.inr (Multiset.mem_coe.mpr done)))

theorem settle (accounted : Accounted ({id} + opened) settled next) :
    Accounted opened (settled ++ [id]) next := by
  unfold Accounted at accounted ⊢
  rw [← accounted, ← Multiset.coe_add, Multiset.coe_singleton]
  abel

/-- All obligations are settled exactly when none is open. -/
theorem allSettled_iff (accounted : Accounted opened settled next) :
    (∀ id < next, id ∈ settled) ↔ opened = 0 := by
  have member (id : ℕ) : id ∈ opened + ↑settled ↔ id < next := by
    rw [accounted, Multiset.mem_range]
  constructor
  · intro all
    refine Multiset.eq_zero_of_forall_notMem fun id isOpen => ?_
    have issued := (member id).mp (Multiset.mem_add.mpr (Or.inl isOpen))
    obtain ⟨others, rfl⟩ := Multiset.exists_cons_of_mem isOpen
    rw [← Multiset.singleton_add] at accounted
    exact accounted.notSettled (all id issued)
  · rintro rfl id issued
    simpa using (member id).mpr issued

end Accounted

end ModuleContext.Misc
