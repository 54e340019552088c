import Maestro.Effect.Total
import Maestro.Ping.Packet
import Mathlib.Algebra.Order.Ring.Rat
import Mathlib.Data.Nat.Count

/-!
# The ping loop of `wifi.c`

The loop sends one echo request for each iteration and waits for an answer in the same
buffer. The environment is the process id, the results of the socket calls, the bytes that
each `recvfrom` leaves in the buffer, and the clock. The two main results say what is sent
and what `msg_received_count` counts.
-/

namespace Maestro.Ping

open Effect

/-- A clock reading. -/
structure Timespec where
  tv_sec : ℤ
  tv_nsec : ℤ

/-- The calls made by the loop body. `perror` is given the name of the failed call, and
`printf` the round trip time of its line "Ping to %s, rtt = %Lf ms". -/
inductive PingCall where
  | getpid
  | usleep (microseconds : ℕ)
  | clock_gettime
  | sendto (pckt : Packet)
  | recvfrom
  | perror (name : String)
  | printf (rtt_msec : ℚ)

/-- `recvfrom` is answered with its result and the contents of the buffer after it. -/
abbrev PingCalls : Interface where
  Call := PingCall
  Reply
    | .getpid => ℤ
    | .clock_gettime => Timespec
    | .sendto _ => ℤ
    | .recvfrom => ℤ × Packet
    | _ => Unit

abbrev PingProg (α : Type) := Prog PingCalls Empty α

def getpid : PingProg ℤ := Prog.perform (I := PingCalls) .getpid
def usleep (microseconds : ℕ) : PingProg Unit := Prog.perform (I := PingCalls) (.usleep microseconds)
def clock_gettime : PingProg Timespec := Prog.perform (I := PingCalls) .clock_gettime
def sendto (pckt : Packet) : PingProg ℤ := Prog.perform (I := PingCalls) (.sendto pckt)
def recvfrom : PingProg (ℤ × Packet) := Prog.perform (I := PingCalls) .recvfrom
def perror (name : String) : PingProg Unit := Prog.perform (I := PingCalls) (.perror name)
def printf (rtt_msec : ℚ) : PingProg Unit := Prog.perform (I := PingCalls) (.printf rtt_msec)

/-- The variables that live through the loop. -/
structure PingState where
  pckt : Packet
  msg_count : ℕ
  msg_received_count : ℕ
  flag : ℕ
  rtt_msec : ℚ

/-- Send the packet; a failure is reported and clears the flag. -/
def sendPacket (pckt : Packet) (flag : ℕ) : PingProg ℕ := do
  let result ← sendto pckt
  if result ≤ 0 then
    perror "sendto"
    return 0
  else return flag

/-- The round trip time in milliseconds. -/
def roundTrip (tfs time_end : Timespec) : ℚ :=
  (time_end.tv_sec - tfs.tv_sec) * 1000 + (time_end.tv_nsec - tfs.tv_nsec) / 1000000

/-- Wait for an answer, in the iteration that has advanced `msg_count`; the buffer is
overwritten in any case. -/
def receivePacket (tfs : Timespec) (st : PingState) : PingProg PingState := do
  let (result, pckt) ← recvfrom
  let st := { st with pckt := pckt }
  if result ≤ 0 ∧ 1 < st.msg_count then
    perror "recvfrom"
    return st
  else
    let time_end ← clock_gettime
    let st := { st with rtt_msec := roundTrip tfs time_end }
    if st.flag ≠ 0 then
      printf st.rtt_msec
      return { st with msg_received_count := st.msg_received_count + 1 }
    else return st

/-- The loop body. -/
def pingBody (order : ByteOrder) (st : PingState) : PingProg PingState := do
  let pid ← getpid
  let pckt := sealPacket order (buildPacket order pid st.msg_count)
  let msg_count := st.msg_count + 1
  usleep 1000000
  let tfs ← clock_gettime
  let flag ← sendPacket pckt st.flag
  let _tfe ← clock_gettime
  receivePacket tfs { st with pckt := pckt, msg_count := msg_count, flag := flag }

/-- The loop with a bound in place of 5. Each iteration counts up, so fuel for `bound`
iterations is enough. -/
def pingLoop (order : ByteOrder) (bound : ℕ) (st : PingState) : PingProg (Option PingState) :=
  Prog.whileDo (fun st => decide (st.msg_count < bound)) (pingBody order) bound st

/-- The state before the loop, with whatever the buffer holds. -/
def pingStart (pckt : Packet) : PingState := ⟨pckt, 0, 0, 1, 0⟩

/-- How many answers of each kind the environment has given. -/
structure Network where
  sends : ℕ
  receives : ℕ
  readings : ℕ

/-- The environment: the process id, and the successive results of the other calls. -/
def network (pid : ℤ) (sent : ℕ → ℤ) (received : ℕ → ℤ × Packet) (clock : ℕ → Timespec) :
    Handler PingCalls Network where
  answer
    | .getpid, net => (pid, net)
    | .clock_gettime, net => (clock net.readings, { net with readings := net.readings + 1 })
    | .sendto _, net => (sent net.sends, { net with sends := net.sends + 1 })
    | .recvfrom, net => (received net.receives, { net with receives := net.receives + 1 })
    | .usleep _, net => ((), net)
    | .perror _, net => ((), net)
    | .printf _, net => ((), net)

/-- The packets handed to `sendto`, in order. -/
def sentPackets (steps : List (Step PingCalls Network)) : List Packet :=
  steps.filterMap fun step =>
    match step.request with
    | .sendto pckt => some pckt
    | _ => none

section Iteration

variable (order : ByteOrder) (pid : ℤ) (sent : ℕ → ℤ) (received : ℕ → ℤ × Packet)
  (clock : ℕ → Timespec)

/-- What the send of one iteration does. -/
theorem eval_sendPacket (pckt : Packet) (flag : ℕ) (net : Network) :
    (sendPacket pckt flag).eval (network pid sent received clock) net =
      (if sent net.sends ≤ 0 then 0 else flag, { net with sends := net.sends + 1 }) := by
  change (if sent net.sends ≤ 0 then _ else _ : PingProg ℕ).eval _ _ = _
  split <;> rfl

/-- What the receive of one iteration keeps and counts. -/
theorem eval_receivePacket (tfs : Timespec) (st : PingState) (net : Network) (after : PingState × Network)
    (hafter : (receivePacket tfs st).eval (network pid sent received clock) net = after) :
    after.1.msg_count = st.msg_count ∧ after.1.flag = st.flag ∧
      after.2.sends = net.sends ∧ after.2.receives = net.receives + 1 ∧
      after.1.msg_received_count = st.msg_received_count +
        if st.flag ≠ 0 ∧ ¬((received net.receives).1 ≤ 0 ∧ 1 < st.msg_count) then 1 else 0 := by
  change (if (received net.receives).1 ≤ 0 ∧ 1 < st.msg_count then _ else _ : PingProg PingState).eval
    _ _ = _ at hafter
  by_cases hfailed : (received net.receives).1 ≤ 0 ∧ 1 < st.msg_count
  · rw [if_pos hfailed] at hafter
    subst hafter
    rw [if_neg fun h => h.2 hfailed]
    exact ⟨rfl, rfl, rfl, rfl, rfl⟩
  · rw [if_neg hfailed] at hafter
    change (if st.flag ≠ 0 then _ else _ : PingProg PingState).eval _ _ = _ at hafter
    by_cases hflag : st.flag ≠ 0
    · rw [if_pos hflag] at hafter
      subst hafter
      rw [if_pos ⟨hflag, hfailed⟩]
      exact ⟨rfl, rfl, rfl, rfl, rfl⟩
    · rw [if_neg hflag] at hafter
      subst hafter
      rw [if_neg fun h => hflag h.1]
      exact ⟨rfl, rfl, rfl, rfl, rfl⟩

/-- The packets sent over two stretches of steps. -/
theorem sentPackets_append (first second : List (Step PingCalls Network)) :
    sentPackets (first ++ second) = sentPackets first ++ sentPackets second := by
  rw [sentPackets, List.filterMap_append]
  rfl

/-- The send of one iteration hands over its packet once. -/
theorem sentPackets_sendPacket (pckt : Packet) (flag : ℕ) (net : Network) :
    sentPackets ((sendPacket pckt flag).trace (network pid sent received clock) net) = [pckt] := by
  change pckt :: sentPackets ((if sent net.sends ≤ 0 then _ else _ : PingProg ℕ).trace _ _) = _
  split <;> rfl

/-- The receive of one iteration sends nothing. -/
theorem sentPackets_receivePacket (tfs : Timespec) (st : PingState) (net : Network) :
    sentPackets ((receivePacket tfs st).trace (network pid sent received clock) net) = [] := by
  change sentPackets ((if (received net.receives).1 ≤ 0 ∧ 1 < st.msg_count then _ else _ :
    PingProg PingState).trace _ _) = _
  split
  · rfl
  · change sentPackets ((if st.flag ≠ 0 then _ else _ : PingProg PingState).trace _ _) = _
    split <;> rfl

/-- One iteration sends the packet built from the process id and the count. -/
theorem sentPackets_pingBody (st : PingState) (net : Network) :
    sentPackets ((pingBody order st).trace (network pid sent received clock) net) =
      [sealPacket order (buildPacket order pid st.msg_count)] := by
  have hsend := sentPackets_sendPacket pid sent received clock
    (sealPacket order (buildPacket order pid st.msg_count)) st.flag
    { net with readings := net.readings + 1 }
  have hreceive := sentPackets_receivePacket pid sent received clock
  simp only [pingBody, getpid, usleep, clock_gettime, Prog.trace_bind, sentPackets_append]
  rw [hreceive]
  exact congrArg (· ++ []) hsend

/-- The iterations in which the loop counts an answer: no send has failed yet, and the receive
succeeded or is the first one. -/
def Counted (i : ℕ) : Prop := (∀ j ≤ i, 0 < sent j) ∧ (0 < (received i).1 ∨ i = 0)

instance : DecidablePred (Counted sent received) :=
  fun i => inferInstanceAs (Decidable ((∀ j ≤ i, 0 < sent j) ∧ (0 < (received i).1 ∨ i = 0)))

/-- The local state and the environment at the start of an iteration. -/
structure AtStart (i : ℕ) (st : PingState) (net : Network) : Prop where
  msg_count : st.msg_count = i
  msg_received_count : st.msg_received_count = Nat.count (Counted sent received) i
  flag : st.flag ≠ 0 ↔ ∀ j < i, 0 < sent j
  sends : net.sends = i
  receives : net.receives = i

/-- The flag after a send says whether all sends so far succeeded. -/
theorem flag_after_send (i flag : ℕ) (hflag : flag ≠ 0 ↔ ∀ j < i, 0 < sent j) :
    (if sent i ≤ 0 then 0 else flag) ≠ 0 ↔ ∀ j ≤ i, 0 < sent j := by
  split
  · rename_i hfailed
    exact iff_of_false (fun h => h rfl) fun h => absurd (h i le_rfl) (by omega)
  · rename_i hsent
    rw [hflag]
    constructor
    · intro h j hj
      rcases Nat.lt_or_eq_of_le hj with hlt | rfl
      · exact h j hlt
      · exact not_le.mp hsent
    · exact fun h j hj => h j (by omega)

/-- One iteration leads to the start of the next. -/
theorem atStart_pingBody (i : ℕ) (st : PingState) (net : Network)
    (hstart : AtStart sent received i st net) (after : PingState × Network)
    (hafter : (pingBody order st).eval (network pid sent received clock) net = after) :
    AtStart sent received (i + 1) after.1 after.2 := by
  obtain ⟨hcount, hreceived, hflag, hsends, hreceives⟩ := hstart
  simp only [pingBody, Prog.eval_bind, eval_sendPacket] at hafter
  obtain ⟨hcount', hflag', hsends', hreceives', hreceived'⟩ := eval_receivePacket _ _ _ _ _ _ _ _ hafter
  change after.1.msg_count = st.msg_count + 1 at hcount'
  change after.1.flag = if sent net.sends ≤ 0 then 0 else st.flag at hflag'
  change after.2.sends = net.sends + 1 at hsends'
  change after.2.receives = net.receives + 1 at hreceives'
  change after.1.msg_received_count = st.msg_received_count +
    if (if sent net.sends ≤ 0 then 0 else st.flag) ≠ 0 ∧
      ¬((received net.receives).1 ≤ 0 ∧ 1 < st.msg_count + 1) then 1 else 0 at hreceived'
  rw [hsends] at hflag' hreceived' hsends'
  rw [hreceives] at hreceived' hreceives'
  rw [hcount] at hcount' hreceived'
  have hsent := flag_after_send sent i st.flag hflag
  refine ⟨hcount', ?_, ?_, hsends', hreceives'⟩
  · have hcounted : ((if sent i ≤ 0 then 0 else st.flag) ≠ 0 ∧
        ¬((received i).1 ≤ 0 ∧ 1 < i + 1)) ↔ Counted sent received i := by
      rw [hsent, Counted]
      exact and_congr_right fun _ => by omega
    rw [hreceived', hreceived, Nat.count_succ]
    simp only [hcounted]
  · rw [hflag', hsent]
    exact ⟨fun h j hj => h j (by omega), fun h j hj => h j (by omega)⟩

/-- The local state and the environment at the start of iteration `i`. -/
def pingAt (pckt : Packet) (i : ℕ) : PingState × Network :=
  Prog.atRepeat (network pid sent received clock) (pingBody order) (pingStart pckt) ⟨0, 0, 0⟩ i

/-- Every iteration starts as described. -/
theorem atStart_pingAt (pckt : Packet) (i : ℕ) :
    AtStart sent received i (pingAt order pid sent received clock pckt i).1
      (pingAt order pid sent received clock pckt i).2 := by
  induction i with
  | zero =>
    exact ⟨rfl, rfl, ⟨fun _ j hj => absurd hj (by omega), fun _ => Nat.one_ne_zero⟩, rfl, rfl⟩
  | succ i ih => exact atStart_pingBody order pid sent received clock i _ _ ih _ rfl

end Iteration

section Loop

variable (order : ByteOrder) (bound : ℕ) (pid : ℤ) (sent : ℕ → ℤ) (received : ℕ → ℤ × Packet)
  (clock : ℕ → Timespec) (pckt : Packet)

/-- The loop condition holds at the start of every iteration within the bound. -/
theorem below_bound (i : ℕ) (hi : i < bound) :
    decide ((pingAt order pid sent received clock pckt i).1.msg_count < bound) = true := by
  rw [(atStart_pingAt order pid sent received clock pckt i).msg_count]
  exact decide_eq_true hi

/-- The loop returns, having counted an answer in each iteration that `Counted` describes. -/
theorem eval_pingLoop :
    ∃ st net, (pingLoop order bound (pingStart pckt)).eval (network pid sent received clock) ⟨0, 0, 0⟩ =
      (some st, net) ∧ st.msg_received_count = Nat.count (Counted sent received) bound := by
  have hend := atStart_pingAt order pid sent received clock pckt bound
  have heval := Prog.eval_whileDo (network pid sent received clock)
    (fun st : PingState => decide (st.msg_count < bound)) (pingBody order) (pingStart pckt) ⟨0, 0, 0⟩ bound
    (below_bound order bound pid sent received clock pckt)
  change _ = (if decide ((pingAt order pid sent received clock pckt bound).1.msg_count < bound) = true
    then _ else _, _) at heval
  rw [hend.msg_count, decide_eq_false (lt_irrefl bound), if_neg Bool.false_ne_true] at heval
  exact ⟨_, _, heval, hend.msg_received_count⟩

/-- The packets that the loop hands to `sendto`. -/
def loopPackets : List Packet :=
  sentPackets ((pingLoop order bound (pingStart pckt)).trace (network pid sent received clock) ⟨0, 0, 0⟩)

/-- The loop sends one packet for each iteration, built from the process id and the iteration. -/
theorem loopPackets_eq :
    loopPackets order bound pid sent received clock pckt =
      (List.range bound).map fun k => sealPacket order (buildPacket order pid k) := by
  have htrace := Prog.trace_whileDo_total (network pid sent received clock)
    (fun st : PingState => decide (st.msg_count < bound)) (pingBody order) (pingStart pckt) ⟨0, 0, 0⟩ bound
    (below_bound order bound pid sent received clock pckt)
  have hiteration (i : ℕ) := sentPackets_pingBody order pid sent received clock
    (pingAt order pid sent received clock pckt i).1 (pingAt order pid sent received clock pckt i).2
  simp only [(atStart_pingAt order pid sent received clock pckt _).msg_count] at hiteration
  rw [loopPackets, pingLoop, htrace, sentPackets, List.filterMap_flatMap, List.map_eq_flatMap]
  exact congrArg (fun f => (List.range bound).flatMap f) (funext hiteration)

end Loop

/-- Whatever the socket calls return and leave in the buffer, the five packets sent are the
well-formed echo requests with sequences 0 to 4, and they depend on the process id only. -/
theorem requests_wellFormed (order : ByteOrder) (pid : ℤ) (sent : ℕ → ℤ) (received : ℕ → ℤ × Packet)
    (clock : ℕ → Timespec) (pckt : Packet) :
    (loopPackets order 5 pid sent received clock pckt).length = 5 ∧
      (∀ k (hk : k < (loopPackets order 5 pid sent received clock pckt).length),
        WellFormed order (loopPackets order 5 pid sent received clock pckt)[k] (pid % 2 ^ 16).toNat k) ∧
      ∀ sent' received' clock' pckt',
        loopPackets order 5 pid sent' received' clock' pckt' =
          loopPackets order 5 pid sent received clock pckt := by
  simp only [loopPackets_eq]
  refine ⟨rfl, fun k hk => ?_, fun _ _ _ _ => trivial⟩
  have hk' : k < 5 := by simpa using hk
  have hrequest := wellFormed_sealPacket order pid k
  rw [Nat.mod_eq_of_lt (by omega)] at hrequest
  simpa using hrequest

end Maestro.Ping
