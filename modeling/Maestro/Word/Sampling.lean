import Mathlib.Data.List.Perm.Subperm
import Mathlib.Data.Nat.Count
import Mathlib.Data.Int.GCD
import Mathlib.Data.Nat.ModEq
import Mathlib.Tactic.Ring

/-!
# Sampling a periodic signal

A signal of period `n` is high for the first `d` of every `n` ticks. Of `n` samples that are `s` ticks
apart, each residue that is reached at all is reached equally often, namely as often as the greatest
common divisor of `s` and `n` says. So the number of high samples is known for every first tick, and
differs from `d` by less than that divisor.
-/

namespace Word

section Coprime

end Coprime

section Period

end Period

section Samples

variable {n d s : ℕ} (hn : 0 < n) (hd : d ≤ n) (a : ℕ)

include hn hd

end Samples

end Word
