import Maestro.Effect.Family
import Maestro.Effect.Runs

/-!
# Protocols that programs keep

A protocol watches the exchanges of a program: it has a state of its own that every exchange
advances, and in each state it allows some exchanges. A program meets a protocol from a state if
every exchange of every course is allowed when it comes, and the course ends in a state with the
postcondition. This is defined along the program, with one rule for each way to build a program,
and what is met holds of all courses.
-/

namespace Effect

variable {I : Interface} {ε α β σ τ : Type}

/-- What an exchange makes of a state, and which exchanges are allowed in it. -/
structure Protocol (I : Interface) (σ : Type) where
  next : σ → Exchange I → σ
  Allows : σ → Exchange I → Prop

/-- Every exchange of a log is allowed when it comes. -/
def Protocol.Keeps (protocol : Protocol I σ) (s : σ) (log : List (Exchange I)) : Prop :=
  EveryStep protocol.next s log protocol.Allows

/-- The state of a protocol after a log. -/
def Protocol.after (protocol : Protocol I σ) (s : σ) (log : List (Exchange I)) : σ :=
  reached protocol.next s log

/-- A postcondition for returned values and one for early stops. -/
def Ends (post : α → σ → Prop) (stopped : ε → σ → Prop) : Except ε α → σ → Prop
  | .ok value, s => post value s
  | .error reason, s => stopped reason s

/-- The protocol as a member of a family sees it. -/
def Protocol.member {ι : Type} {I : ι → Interface} (protocol : Protocol (Interface.family I) σ) (i : ι) :
    Protocol (I i) σ where
  next s exchange := protocol.next s (exchange.tag i)
  Allows s exchange := protocol.Allows s (exchange.tag i)

/-- The protocol that also remembers whether every exchange so far was allowed. -/
def Protocol.watched (protocol : Protocol I σ) : Protocol I (σ × Prop) where
  next s exchange := (protocol.next s.1 exchange, s.2 ∧ protocol.Allows s.1 exchange)
  Allows _ _ := True

/-- Two protocols side by side. -/
def Protocol.both (first : Protocol I σ) (second : Protocol I τ) : Protocol I (σ × τ) where
  next s exchange := (first.next s.1 exchange, second.next s.2 exchange)
  Allows s exchange := first.Allows s.1 exchange ∧ second.Allows s.2 exchange

/-- The protocol that also takes a note of every exchange. -/
def Protocol.noting (protocol : Protocol I σ) (note : τ → Exchange I → τ) : Protocol I (σ × τ) where
  next s exchange := (protocol.next s.1 exchange, note s.2 exchange)
  Allows s exchange := protocol.Allows s.1 exchange

/-- The protocol that allows everything. -/
def Protocol.free : Protocol I Unit where
  next _ _ := ()
  Allows _ _ := True

/-- The protocol that allows everything and remembers whether it has seen such an exchange. -/
def Protocol.seen (p : Exchange I → Bool) : Protocol I Bool where
  next s exchange := p exchange || s
  Allows _ _ := True

namespace Protocol

variable (protocol : Protocol I σ) (s : σ)

/-- The empty log keeps a protocol. -/
theorem keeps_nil : protocol.Keeps s [] := everyStep_nil

/-- A log keeps a protocol if its first exchange is allowed and the others go on from there. -/
theorem keeps_cons {exchange : Exchange I} {log : List (Exchange I)} :
    protocol.Keeps s (exchange :: log) ↔
      protocol.Allows s exchange ∧ protocol.Keeps (protocol.next s exchange) log :=
  everyStep_cons

/-- The situation after a log is that after its later exchanges. -/
@[simp] theorem after_cons (exchange : Exchange I) (log : List (Exchange I)) :
    protocol.after s (exchange :: log) = protocol.after (protocol.next s exchange) log := rfl

/-- The watching protocol knows whether a log was kept. -/
theorem after_watched (kept : Prop) (log : List (Exchange I)) :
    protocol.watched.after (s, kept) log = (protocol.after s log, kept ∧ protocol.Keeps s log) := by
  induction log generalizing s kept with
  | nil => exact Prod.ext rfl (propext (and_iff_left (protocol.keeps_nil s)).symm)
  | cons exchange log ih =>
    change protocol.watched.after (protocol.next s exchange, kept ∧ protocol.Allows s exchange) log = _
    rw [ih, keeps_cons, and_assoc]
    rfl

/-- Two protocols side by side are followed one by one. -/
theorem after_both (first : Protocol I σ) (second : Protocol I τ) (s : σ × τ) (log : List (Exchange I)) :
    (first.both second).after s log = (first.after s.1 log, second.after s.2 log) := by
  induction log generalizing s with
  | nil => rfl
  | cons exchange log ih => exact ih _

/-- Two protocols side by side are kept if both are. -/
theorem keeps_both (first : Protocol I σ) (second : Protocol I τ) (s : σ × τ) (log : List (Exchange I)) :
    (first.both second).Keeps s log ↔ first.Keeps s.1 log ∧ second.Keeps s.2 log := by
  induction log generalizing s with
  | nil => exact iff_of_true (keeps_nil _ s) ⟨first.keeps_nil s.1, second.keeps_nil s.2⟩
  | cons exchange log ih =>
    rw [keeps_cons, keeps_cons, keeps_cons, ih]
    exact and_and_and_comm

/-- Taking notes does not change the protocol. -/
theorem after_noting (note : τ → Exchange I → τ) (t : τ) (log : List (Exchange I)) :
    (protocol.noting note).after (s, t) log = (protocol.after s log, Effect.reached note t log) := by
  induction log generalizing s t with
  | nil => rfl
  | cons exchange log ih => exact ih _ _

/-- Taking notes allows what the protocol allows. -/
theorem keeps_noting (note : τ → Exchange I → τ) (t : τ) (log : List (Exchange I)) :
    (protocol.noting note).Keeps (s, t) log ↔ protocol.Keeps s log := by
  induction log generalizing s t with
  | nil => exact iff_of_true (keeps_nil _ _) (protocol.keeps_nil s)
  | cons exchange log ih =>
    rw [keeps_cons, keeps_cons, ← ih (protocol.next s exchange) (note t exchange)]
    rfl

end Protocol

namespace Prog

/-- Every exchange is allowed when it comes, and the postcondition holds at the end. -/
def Meets (protocol : Protocol I σ) : Prog I ε α → (α → σ → Prop) → (ε → σ → Prop) → σ → Prop
  | ret value, post, _, s => post value s
  | stop reason, _, stopped, s => stopped reason s
  | call request rest, post, stopped, s =>
    ∀ reply, protocol.Allows s ⟨request, reply⟩ ∧
      (rest reply).Meets protocol post stopped (protocol.next s ⟨request, reply⟩)

section Rules

variable {protocol : Protocol I σ} {post post' : α → σ → Prop} {stopped stopped' : ε → σ → Prop} {s : σ}

/-- A weaker postcondition is met as well. -/
theorem Meets.mono {program : Prog I ε α} (hmeets : program.Meets protocol post stopped s)
    (hpost : ∀ value s, post value s → post' value s) (hstopped : ∀ reason s, stopped reason s → stopped' reason s) :
    program.Meets protocol post' stopped' s := by
  induction program generalizing s with
  | ret value => exact hpost value s hmeets
  | stop reason => exact hstopped reason s hmeets
  | call request rest ih => exact fun reply => ⟨(hmeets reply).1, ih reply (hmeets reply).2⟩

/-- What every possible exchange of a program preserves holds wherever the program ends. -/
theorem Meets.of_allCalls {P : I.Call → Prop} (invariant : σ → Prop)
    (hstep : ∀ s exchange, invariant s → P exchange.request →
      protocol.Allows s exchange ∧ invariant (protocol.next s exchange))
    {program : Prog I ε α} (hall : program.AllCalls P) {s : σ} (hstart : invariant s) :
    program.Meets protocol (fun _ => invariant) (fun _ => invariant) s := by
  induction program generalizing s with
  | ret => exact hstart
  | stop => exact hstart
  | call request rest ih =>
    intro reply
    obtain ⟨hallows, hnext⟩ := hstep s ⟨request, reply⟩ hstart hall.1
    exact ⟨hallows, ih reply (hall.2 reply) hnext⟩

/-- Any program preserves what every exchange preserves. -/
theorem Meets.of_invariant (invariant : σ → Prop)
    (hstep : ∀ s exchange, invariant s → protocol.Allows s exchange ∧ invariant (protocol.next s exchange))
    (program : Prog I ε α) {s : σ} (hstart : invariant s) :
    program.Meets protocol (fun _ => invariant) (fun _ => invariant) s :=
  Meets.of_allCalls invariant (fun s exchange hs _ => hstep s exchange hs) (allCalls_true program) hstart

/-- The second part of a sequence has to meet the protocol where the first part ends. -/
theorem meets_bind {program : Prog I ε α} {next : α → Prog I ε β} {post : β → σ → Prop} :
    (program >>= next).Meets protocol post stopped s ↔
      program.Meets protocol (fun value s => (next value).Meets protocol post stopped s) stopped s := by
  induction program generalizing s with
  | ret => rfl
  | stop => rfl
  | call request rest ih => exact forall_congr' fun reply => and_congr_right fun _ => ih reply

/-- Sequencing, with a condition between the two parts. -/
theorem Meets.bind {program : Prog I ε α} {next : α → Prog I ε β} {between : α → σ → Prop} {post : β → σ → Prop}
    (hfirst : program.Meets protocol between stopped s)
    (hnext : ∀ value s, between value s → (next value).Meets protocol post stopped s) :
    (program >>= next).Meets protocol post stopped s :=
  meets_bind.mpr (hfirst.mono hnext fun _ _ => id)

/-- A fold meets the protocol if every iteration leads from the condition with the values still to
come to the next one. -/
theorem Meets.foldlM {body : α → β → Prog I ε α} (between : List β → α → σ → Prop)
    (hbody : ∀ b rest a s, between (b :: rest) a s → (body a b).Meets protocol (between rest) stopped s)
    (values : List β) {a : α} {s : σ} (hstart : between values a s) :
    (values.foldlM body a).Meets protocol (between []) stopped s := by
  induction values generalizing a s with
  | nil => exact hstart
  | cons b rest ih =>
    rw [List.foldlM_cons]
    exact (hbody b rest a s hstart).bind fun a s => ih

/-- A loop over a list meets the protocol in the same way. -/
theorem Meets.forM {body : β → Prog I ε Unit} (between : List β → σ → Prop)
    (hbody : ∀ b rest s, between (b :: rest) s → (body b).Meets protocol (fun _ => between rest) stopped s)
    (values : List β) {s : σ} (hstart : between values s) :
    (forM values body : Prog I ε Unit).Meets protocol (fun _ => between []) stopped s := by
  induction values generalizing s with
  | nil => exact hstart
  | cons b rest ih =>
    rw [List.forM_cons]
    exact (hbody b rest s hstart).bind fun _ s => ih

/-- A counted loop leads from the condition before its first round to the one after its last. -/
theorem meets_forM_range {body : ℕ → Prog I ε Unit} (between : ℕ → σ → Prop) (n : ℕ)
    (hbody : ∀ i < n, ∀ s, between i s → (body i).Meets protocol (fun _ => between (i + 1)) stopped s)
    (hstart : between 0 s) :
    (forM (List.range n) body : Prog I ε Unit).Meets protocol (fun _ => between n) stopped s := by
  induction n with
  | zero => exact hstart
  | succ n ih =>
    rw [List.range_succ, List.forM_append]
    refine (ih fun i hi => hbody i (Nat.lt_succ_of_lt hi)).bind fun _ s hs => ?_
    exact (hbody n (Nat.lt_succ_self n) s hs).bind fun _ s hnext => hnext

/-- A while loop keeps an invariant that its body keeps, and has returned if its condition fails. -/
theorem Meets.whileDo {cond : α → Bool} {body : α → Prog I ε α} (invariant : α → σ → Prop)
    (hbody : ∀ a s, invariant a s → cond a = true → (body a).Meets protocol invariant stopped s)
    (fuel : ℕ) {a : α} {s : σ} (hstart : invariant a s) :
    (whileDo cond body fuel a).Meets protocol
      (fun left s => ∃ a, invariant a s ∧ left = if cond a then none else some a) stopped s := by
  induction fuel generalizing a s with
  | zero =>
    rw [Prog.whileDo]
    cases hcond : cond a with
    | false => exact ⟨a, hstart, by rw [hcond]; rfl⟩
    | true => exact ⟨a, hstart, by rw [hcond]; rfl⟩
  | succ fuel ih =>
    rw [Prog.whileDo]
    cases hcond : cond a with
    | false => exact ⟨a, hstart, by rw [hcond]; rfl⟩
    | true => exact (hbody a s hstart hcond).bind fun a s => ih

/-- A while loop with a measure of what is left to do ends within that many iterations. -/
theorem Meets.whileDo_ends {cond : α → Bool} {body : α → Prog I ε α} (invariant : α → σ → Prop) (left : α → ℕ)
    (hleft : ∀ a s, invariant a s → cond a = true → 0 < left a)
    (hbody : ∀ a s, invariant a s → cond a = true →
      (body a).Meets protocol (fun a' s => invariant a' s ∧ left a' < left a) stopped s)
    {fuel : ℕ} {a : α} {s : σ} (hstart : invariant a s) (hfuel : left a ≤ fuel) :
    (Prog.whileDo cond body fuel a).Meets protocol
      (fun result s => ∃ a, invariant a s ∧ cond a = false ∧ result = some a) stopped s := by
  induction fuel generalizing a s with
  | zero =>
    rw [Prog.whileDo]
    cases hcond : cond a with
    | false => exact ⟨a, hstart, hcond, rfl⟩
    | true => exact absurd (hleft a s hstart hcond) (Nat.not_lt.mpr hfuel)
  | succ fuel ih =>
    rw [Prog.whileDo]
    cases hcond : cond a with
    | false => exact ⟨a, hstart, hcond, rfl⟩
    | true =>
      refine (hbody a s hstart hcond).bind fun a s hnext => ?_
      exact ih hnext.1 (Nat.le_of_lt_succ (Nat.lt_of_lt_of_le hnext.2 hfuel))

/-- A program over a member of a family meets a protocol if it meets what the member sees of it. -/
theorem meets_embed {ι : Type} {I : ι → Interface} {i : ι} {protocol : Protocol (Interface.family I) σ}
    {program : Prog (I i) ε α} :
    (program.embed i).Meets protocol post stopped s ↔ program.Meets (protocol.member i) post stopped s := by
  induction program generalizing s with
  | ret => rfl
  | stop => rfl
  | call request rest ih => exact forall_congr' fun reply => and_congr_right fun _ => ih reply

/-- Carrying out the requests of a program keeps a protocol if the program meets an abstract one
and every request is carried out as the abstract protocol expects, in related states. -/
theorem Meets.expand {J K : Interface} {abstract : Protocol J τ} {protocol : Protocol K σ}
    {implement : (request : J.Call) → Prog K ε (J.Reply request)} (related : τ → σ → Prop)
    (himplement : ∀ request t s, related t s → (∀ reply, abstract.Allows t ⟨request, reply⟩) →
      (implement request).Meets protocol (fun reply s => related (abstract.next t ⟨request, reply⟩) s) stopped s)
    {program : Prog J Empty α} {post : α → τ → Prop} {stopped' : Empty → τ → Prop} {t : τ} {s : σ}
    (hmeets : program.Meets abstract post stopped' t) (hrelated : related t s) :
    (program.expand implement).Meets protocol (fun value s => ∃ t, related t s ∧ post value t) stopped s := by
  induction program generalizing t s with
  | ret value => exact ⟨t, hrelated, hmeets⟩
  | stop reason => exact reason.elim
  | call request rest ih =>
    refine Meets.bind (himplement request t s hrelated fun reply => (hmeets reply).1) fun reply s hnext => ?_
    exact ih reply (hmeets reply).2 hnext

end Rules

section Courses

variable {protocol : Protocol I σ} {post : α → σ → Prop} {stopped : ε → σ → Prop} {s : σ} {program : Prog I ε α}

/-- Every course of a program that meets a protocol is kept, and ends with the postcondition. -/
theorem Meets.of_course (hmeets : program.Meets protocol post stopped s) {log : List (Exchange I)}
    {result : Except ε α} (hcourse : program.Course log result) :
    protocol.Keeps s log ∧ Ends post stopped result (protocol.after s log) := by
  induction program generalizing s log with
  | ret value =>
    obtain ⟨rfl, rfl⟩ := hcourse
    exact ⟨protocol.keeps_nil s, hmeets⟩
  | stop reason =>
    obtain ⟨rfl, rfl⟩ := hcourse
    exact ⟨protocol.keeps_nil s, hmeets⟩
  | call request rest ih =>
    obtain ⟨reply, log, rfl, hcourse⟩ := hcourse
    obtain ⟨hkeeps, hends⟩ := ih reply (hmeets reply).2 hcourse
    exact ⟨(protocol.keeps_cons s).mpr ⟨(hmeets reply).1, hkeeps⟩, hends⟩

end Courses

end Prog

end Effect
