import Mathlib.Data.BitVec

/-!
# Words with stuck bits

A bit of a storage cell is healthy or stuck at one level. A word stored in such cells comes
back as it was exactly when no bit of it stands on a cell stuck at the other level, so a word
tests each cell for one of its two faults only.
-/

namespace Word

/-- The condition of one bit of storage. -/
inductive BitFault where
  | healthy
  | stuckAt0
  | stuckAt1
deriving DecidableEq

/-- The level that a bit shows when another is stored in it. -/
def BitFault.level : BitFault → Bool → Bool
  | healthy, stored => stored
  | stuckAt0, _ => false
  | stuckAt1, _ => true

/-- The fault that changes a stored bit. -/
def against : Bool → BitFault
  | true => .stuckAt0
  | false => .stuckAt1

/-- A bit that is stuck against a level is not healthy. -/
theorem against_ne_healthy (stored : Bool) : against stored ≠ .healthy := by
  cases stored <;> decide

variable {w : ℕ}

/-- The word that is read back from cells with the given faults. -/
def seen (faults : Fin w → BitFault) (stored : BitVec w) : BitVec w :=
  (BitVec.ofBoolListLE (List.ofFn fun bit => (faults bit).level (stored.getLsb bit))).cast List.length_ofFn

/-- Every bit is read back by itself. -/
theorem getLsb_seen (faults : Fin w → BitFault) (stored : BitVec w) (bit : Fin w) :
    (seen faults stored).getLsb bit = (faults bit).level (stored.getLsb bit) := by
  change (seen faults stored).getLsbD bit = _
  rw [seen, BitVec.getLsbD_cast, BitVec.getLsbD_ofBoolListLE, List.getD_eq_getElem?_getD,
    List.getElem?_ofFn, dif_pos bit.isLt]
  rfl

/-- A bit is read back as it was stored unless it is stuck at the other level. -/
theorem level_eq_iff (fault : BitFault) (stored : Bool) :
    fault.level stored = stored ↔ fault ≠ against stored := by
  cases fault <;> cases stored <;> decide

/-- A word is read back as it was stored unless one of its bits is stuck at the other level. -/
theorem seen_eq_iff (faults : Fin w → BitFault) (stored : BitVec w) :
    seen faults stored = stored ↔ ∀ bit, faults bit ≠ against (stored.getLsb bit) := by
  constructor
  · intro hseen bit
    rw [← level_eq_iff, ← getLsb_seen, hseen]
  · intro hfaults
    refine BitVec.eq_of_getLsbD_eq fun i hi => ?_
    exact (getLsb_seen faults stored ⟨i, hi⟩).trans ((level_eq_iff _ _).mpr (hfaults ⟨i, hi⟩))

end Word
