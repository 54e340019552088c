import Maestro.Ping.PingLoop

/-!
# What the ping loop counts

An iteration is answered when its own send and its own receive both succeed. The loop counts
something else: `flag` is never set again after a failed send, so later answers are lost, and
a failed receive is reported only when `msg_count > 1`, so the first one passes as an answer.
-/

namespace Maestro.Ping

open Effect

section Count

variable (sent : ℕ → ℤ) (received : ℕ → ℤ × Packet)

/-- Both calls of the iteration succeeded. -/
def Answered (i : ℕ) : Prop := 0 < sent i ∧ 0 < (received i).1

/-- The iteration was answered, but an earlier send had failed. -/
def Lost (i : ℕ) : Prop := Answered sent received i ∧ ∃ j < i, sent j ≤ 0

/-- The iteration is the first one, and only its receive failed. -/
def FirstMissed (i : ℕ) : Prop := i = 0 ∧ 0 < sent i ∧ (received i).1 ≤ 0

instance : DecidablePred (Answered sent received) :=
  fun i => inferInstanceAs (Decidable (0 < sent i ∧ 0 < (received i).1))

instance : DecidablePred (Lost sent received) :=
  fun i => inferInstanceAs (Decidable (Answered sent received i ∧ ∃ j < i, sent j ≤ 0))

instance : DecidablePred (FirstMissed sent received) :=
  fun i => inferInstanceAs (Decidable (i = 0 ∧ 0 < sent i ∧ (received i).1 ≤ 0))

/-- An iteration after the first is counted when it was answered and not lost. -/
theorem counted_iff_of_pos (i : ℕ) (hi : 0 < i) :
    Counted sent received i ↔ Answered sent received i ∧ ¬Lost sent received i := by
  have hne : ¬i = 0 := by omega
  rw [Counted, or_iff_left hne]
  constructor
  · intro hcounted
    refine ⟨⟨hcounted.1 i le_rfl, hcounted.2⟩, fun hlost => ?_⟩
    obtain ⟨j, hj, hfailed⟩ := hlost.2
    exact absurd (hcounted.1 j (by omega)) (by omega)
  · intro hanswered
    refine ⟨fun j hj => ?_, hanswered.1.2⟩
    by_contra hfailed
    rcases Nat.lt_or_eq_of_le hj with hlt | rfl
    · exact hanswered.2 ⟨hanswered.1, j, hlt, by omega⟩
    · exact hfailed hanswered.1.1

/-- The first iteration is counted as soon as its send succeeds. -/
theorem counted_zero : Counted sent received 0 ↔ 0 < sent 0 := by
  rw [Counted, or_iff_right_of_imp fun _ => rfl, and_iff_left rfl]
  exact ⟨fun h => h 0 le_rfl, fun h j hj => by rwa [Nat.le_zero.mp hj]⟩

/-- Of one iteration, the loop counts an answer that is not lost, or a miss in the first. -/
theorem counted_add_lost (i : ℕ) :
    (if Counted sent received i then 1 else 0) + (if Lost sent received i then 1 else 0) =
      (if Answered sent received i then 1 else 0) + if FirstMissed sent received i then 1 else 0 := by
  rcases Nat.eq_zero_or_pos i with rfl | hpos
  · have hlost : ¬Lost sent received 0 := fun h => by
      obtain ⟨j, hj, _⟩ := h.2
      omega
    simp only [counted_zero, if_neg hlost, Answered, FirstMissed, true_and]
    by_cases hsent : 0 < sent 0
    · by_cases hreceived : 0 < (received 0).1
      · simp [hsent, hreceived]
      · simp [hsent, hreceived, not_lt.mp hreceived]
    · simp [hsent]
  · have hmissed : ¬FirstMissed sent received i := fun h => by
      have := h.1
      omega
    simp only [counted_iff_of_pos sent received i hpos, if_neg hmissed]
    by_cases hlost : Lost sent received i
    · simp [hlost, hlost.1]
    · simp [hlost]

/-- The loop's count differs from the number of answers by the lost ones and the first miss. -/
theorem count_counted (bound : ℕ) :
    Nat.count (Counted sent received) bound + Nat.count (Lost sent received) bound =
      Nat.count (Answered sent received) bound + Nat.count (FirstMissed sent received) bound := by
  induction bound with
  | zero => rfl
  | succ i ih =>
    rw [Nat.count_succ, Nat.count_succ, Nat.count_succ, Nat.count_succ]
    have hone := counted_add_lost sent received i
    omega

end Count

section Loop

variable (order : ByteOrder) (bound : ℕ) (pid : ℤ) (sent : ℕ → ℤ) (received : ℕ → ℤ × Packet)
  (clock : ℕ → Timespec) (pckt : Packet)

/-- The loop returns with the number of answered iterations in `msg_received_count`. -/
def CountsAnswers : Prop :=
  ∃ st net, (pingLoop order bound (pingStart pckt)).eval (network pid sent received clock) ⟨0, 0, 0⟩ =
    (some st, net) ∧ st.msg_received_count = Nat.count (Answered sent received) bound

/-- The loop returns in any case, so only the two counts have to agree. -/
theorem countsAnswers_iff_count_eq :
    CountsAnswers order bound pid sent received clock pckt ↔
      Nat.count (Counted sent received) bound = Nat.count (Answered sent received) bound := by
  obtain ⟨st, net, heval, hcount⟩ := eval_pingLoop order bound pid sent received clock pckt
  constructor
  · intro hright
    obtain ⟨st', net', heval', hcount'⟩ := hright
    rw [heval, Prod.mk.injEq, Option.some.injEq] at heval'
    rw [← hcount, ← hcount', heval'.1]
  · intro hequal
    exact ⟨st, net, heval, hcount.trans hequal⟩

/-- The count is right exactly when as many answers were lost as first receives were missed. -/
theorem countsAnswers_iff :
    CountsAnswers order bound pid sent received clock pckt ↔
      Nat.count (Lost sent received) bound = Nat.count (FirstMissed sent received) bound := by
  have htotal := count_counted sent received bound
  rw [countsAnswers_iff_count_eq]
  omega

end Loop

/-- When only the first send fails, four iterations are answered and none is counted. -/
theorem answers_lost_after_failed_send :
    ¬∀ (order : ByteOrder) (bound : ℕ) (pid : ℤ) (sent : ℕ → ℤ) (received : ℕ → ℤ × Packet)
      (clock : ℕ → Timespec) (pckt : Packet), CountsAnswers order bound pid sent received clock pckt := by
  intro hall
  have hcounts := (countsAnswers_iff_count_eq _ _ _ _ _ _ _).mp
    (hall .little 5 1 (fun i => if i = 0 then -1 else 64)
      (fun _ => (64, Vector.replicate 64 0#8)) (fun _ => ⟨0, 0⟩) (Vector.replicate 64 0#8))
  revert hcounts
  decide

end Maestro.Ping
