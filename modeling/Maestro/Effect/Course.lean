import Maestro.Effect.Loop

/-!
# The courses of a program

A course is a list of exchanges, requests with their replies, that a program can make, with
the way it ends after them. Courses leave the environment out: a statement about all courses
holds for every outcome of every request, in every combination.
-/

namespace Effect

/-- A request with the reply to it. -/
structure Exchange (I : Interface) where
  request : I.Call
  reply : I.Reply request

/-- A step without the state in which it was taken. -/
def Step.exchange {I : Interface} {σ : Type} (step : Step I σ) : Exchange I := ⟨step.request, step.reply⟩

/-- An exchange with another request than the first one comes after it. -/
theorem Exchange.mem_of_request_ne {I : Interface} {exchange first : Exchange I} {log : List (Exchange I)}
    (hne : exchange.request ≠ first.request) (hmem : exchange ∈ first :: log) : exchange ∈ log :=
  List.mem_of_ne_of_mem (fun heq => hne (congrArg Exchange.request heq)) hmem

namespace Prog

variable {I : Interface} {ε α β σ : Type}

/-- The exchanges a program can make and the result it has after them. -/
def Course : Prog I ε α → List (Exchange I) → Except ε α → Prop
  | ret value, log, result => log = [] ∧ result = .ok value
  | stop reason, log, result => log = [] ∧ result = .error reason
  | call request next, log, result =>
    ∃ reply rest, log = ⟨request, reply⟩ :: rest ∧ (next reply).Course rest result

/-- A call of a program that returns: its exchanges and its value. -/
structure Returned (program : Prog I ε α) where
  log : List (Exchange I)
  value : α
  course : program.Course log (.ok value)

/-- Every run takes one of the courses. -/
theorem course_of_run (h : Handler I σ) (program : Prog I ε α) (s : σ) :
    program.Course ((program.trace h s).map Step.exchange) (program.run h s).1 := by
  induction program generalizing s with
  | ret => exact ⟨rfl, rfl⟩
  | stop => exact ⟨rfl, rfl⟩
  | call request next ih => exact ⟨_, _, rfl, ih _ _⟩

/-- A sequence stops in its first part, or goes through both. -/
theorem course_bind {program : Prog I ε α} {next : α → Prog I ε β} {log : List (Exchange I)}
    {result : Except ε β} :
    (program >>= next).Course log result ↔
      (∃ reason, result = .error reason ∧ program.Course log (.error reason)) ∨
        ∃ value first rest, log = first ++ rest ∧ program.Course first (.ok value) ∧
          (next value).Course rest result := by
  induction program generalizing log with
  | ret value =>
    constructor
    · intro hcourse
      exact .inr ⟨value, [], log, rfl, ⟨rfl, rfl⟩, hcourse⟩
    · intro hcourse
      rcases hcourse with ⟨reason, -, -, hresult⟩ | ⟨value', first, rest, rfl, ⟨rfl, hvalue⟩, hnext⟩
      · cases hresult
      · cases hvalue
        exact hnext
  | stop reason =>
    constructor
    · intro hcourse
      exact .inl ⟨reason, hcourse.2, hcourse.1, rfl⟩
    · intro hcourse
      rcases hcourse with ⟨reason', hresult, hlog, hreason⟩ | ⟨value, first, rest, -, ⟨-, hvalue⟩, -⟩
      · cases hreason
        exact ⟨hlog, hresult⟩
      · cases hvalue
  | call request rest ih =>
    constructor
    · intro hcourse
      obtain ⟨reply, log, rfl, hcourse⟩ := hcourse
      rcases (ih reply).mp hcourse with ⟨reason, hresult, hfirst⟩ | ⟨value, first, last, rfl, hfirst, hlast⟩
      · exact .inl ⟨reason, hresult, reply, log, rfl, hfirst⟩
      · exact .inr ⟨value, _, last, rfl, ⟨reply, first, rfl, hfirst⟩, hlast⟩
    · intro hcourse
      rcases hcourse with ⟨reason, hresult, reply, log, rfl, hfirst⟩ |
        ⟨value, first, last, rfl, ⟨reply, first, rfl, hfirst⟩, hlast⟩
      · exact ⟨reply, log, rfl, (ih reply).mpr (.inl ⟨reason, hresult, hfirst⟩)⟩
      · exact ⟨reply, first ++ last, rfl, (ih reply).mpr (.inr ⟨value, first, last, rfl, hfirst, hlast⟩)⟩

/-- A sequence that returns goes through both parts. -/
theorem course_bind_ok {program : Prog I ε α} {next : α → Prog I ε β} {log : List (Exchange I)} {last : β} :
    (program >>= next).Course log (.ok last) ↔
      ∃ value first rest, log = first ++ rest ∧ program.Course first (.ok value) ∧
        (next value).Course rest (.ok last) := by
  rw [course_bind, or_iff_right]
  intro hstop
  obtain ⟨reason, hresult, -⟩ := hstop
  cases hresult

/-- Two returns are one return. -/
theorem course_ite_ret {c : Prop} [Decidable c] {yes no : α} {log : List (Exchange I)} {result : Except ε α} :
    (if c then ret yes else ret no : Prog I ε α).Course log result ↔
      log = [] ∧ result = .ok (if c then yes else no) := by
  by_cases hc : c
  · rw [if_pos hc, if_pos hc]
    rfl
  · rw [if_neg hc, if_neg hc]
    rfl

/-- No course of the program returns. -/
def Aborts (program : Prog I ε α) : Prop := ∀ log value, ¬program.Course log (.ok value)

/-- A stop does not return. -/
theorem aborts_stop (reason : ε) : (stop reason : Prog I ε α).Aborts := by
  intro log value hcourse
  cases hcourse.2

/-- A request before a program that does not return changes nothing. -/
theorem aborts_call {request : I.Call} {next : I.Reply request → Prog I ε α}
    (hnext : ∀ reply, (next reply).Aborts) : (call request next).Aborts := by
  intro log value hcourse
  obtain ⟨reply, rest, -, hrest⟩ := hcourse
  exact hnext reply rest value hrest

/-- A program that returns goes past a branch that does not. -/
theorem course_ite_of_aborts {c : Prop} [Decidable c] {failing program : Prog I ε α} (haborts : failing.Aborts)
    {log : List (Exchange I)} {value : α} (hcourse : (if c then failing else program).Course log (.ok value)) :
    ¬c ∧ program.Course log (.ok value) := by
  by_cases hc : c
  · rw [if_pos hc] at hcourse
    exact absurd hcourse (haborts log value)
  · rw [if_neg hc] at hcourse
    exact ⟨hc, hcourse⟩

/-- What the courses of every iteration have, and sequences of them keep, the courses of a fold
have. -/
theorem course_foldlM {P : List (Exchange I) → Prop} (hnil : P [])
    (happend : ∀ first last, P first → P last → P (first ++ last)) (body : α → β → Prog I ε α)
    (hbody : ∀ a b log a', (body a b).Course log (.ok a') → P log) (values : List β) {a a' : α}
    {log : List (Exchange I)} (hcourse : (values.foldlM body a).Course log (.ok a')) : P log := by
  induction values generalizing a log with
  | nil =>
    rw [hcourse.1]
    exact hnil
  | cons b rest ih =>
    rw [List.foldlM_cons, course_bind_ok] at hcourse
    obtain ⟨next, first, last, rfl, hfirst, hlast⟩ := hcourse
    exact happend first last (hbody a b first next hfirst) (ih hlast)

/-- Every exchange of a course makes one of the program's possible requests. -/
theorem AllCalls.of_mem_course {P : I.Call → Prop} {program : Prog I ε α} (hall : program.AllCalls P)
    {log : List (Exchange I)} {result : Except ε α} (hcourse : program.Course log result) :
    ∀ exchange ∈ log, P exchange.request := by
  induction program generalizing log with
  | ret =>
    rw [hcourse.1]
    simp
  | stop =>
    rw [hcourse.1]
    simp
  | call request next ih =>
    obtain ⟨reply, rest, rfl, hrest⟩ := hcourse
    intro exchange hmem
    rcases List.mem_cons.mp hmem with rfl | hmem
    · exact hall.1
    · exact ih reply (hall.2 reply) hrest exchange hmem

/-- Every value that the program can return, whatever the replies, satisfies `P`. -/
def AllReturns (P : α → Prop) : Prog I ε α → Prop
  | ret value => P value
  | stop _ => True
  | call _ next => ∀ reply, (next reply).AllReturns P

/-- What a sequence returns is what its second part returns. -/
theorem AllReturns.bind {P : β → Prop} {next : α → Prog I ε β} (hnext : ∀ value, (next value).AllReturns P)
    (program : Prog I ε α) : (program >>= next).AllReturns P := by
  induction program with
  | ret value => exact hnext value
  | stop => trivial
  | call request rest ih => exact ih

/-- A course that returns has one of the program's possible values. -/
theorem AllReturns.of_course {P : α → Prop} {program : Prog I ε α} (hall : program.AllReturns P)
    {log : List (Exchange I)} {value : α} (hcourse : program.Course log (.ok value)) : P value := by
  induction program generalizing log with
  | ret value =>
    cases hcourse.2
    exact hall
  | stop => cases hcourse.2
  | call request next ih =>
    obtain ⟨reply, rest, -, hrest⟩ := hcourse
    exact ih reply (hall reply) hrest

end Prog

end Effect
