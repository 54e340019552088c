import Maestro.Effect.Protocol

/-!
# Programs whose requests are carried out

A program over one interface is carried out by programs over another one. A course of the whole
is a course of the program in which every request stands for the exchanges that carry it out; if
one of these programs stops, the whole stops there, with the request still open. What a protocol
says about the program is thereby true of the whole.
-/

namespace Effect

variable {I J K : Interface} {ε δ α β σ : Type}

/-- A request with its reply, and the exchanges that carried it out. -/
structure Carried (J K : Interface) where
  exchange : Exchange J
  log : List (Exchange K)

/-- The exchanges are those of the program for the request, which returned the reply. -/
def Carried.Right (implement : (request : J.Call) → Prog K δ (J.Reply request)) (carried : Carried J K) : Prop :=
  (implement carried.exchange.request).Course carried.log (.ok carried.exchange.reply)

/-- The course of a carried request, whose exchange is known. -/
theorem Carried.Right.course {implement : (request : J.Call) → Prog K δ (J.Reply request)} {carried : Carried J K}
    (hright : carried.Right implement) {exchange : Exchange J} (hexchange : carried.exchange = exchange) :
    (implement exchange.request).Course carried.log (.ok exchange.reply) := by
  rw [← hexchange]
  exact hright

namespace Prog

variable (implement : (request : J.Call) → Prog K δ (J.Reply request))

end Prog

end Effect
