import Maestro.Effect.Course

/-!
# Programs over several interfaces

A family of interfaces is itself an interface, whose requests carry the index of the member
that they belong to. A program over a member runs over the family, and a program over one
interface is carried out by programs over another, one for each request. The exchanges of a
member can be read off the courses over the family.
-/

namespace Effect

variable {ι : Type} {I : ι → Interface} {J K : Interface} {ε δ α β : Type}

/-- Interfaces side by side. -/
abbrev Interface.family (I : ι → Interface) : Interface where
  Call := (i : ι) × (I i).Call
  Reply call := (I call.1).Reply call.2

/-- An exchange of a member as one of the family. -/
def Exchange.tag (i : ι) (exchange : Exchange (I i)) : Exchange (Interface.family I) :=
  ⟨⟨i, exchange.request⟩, exchange.reply⟩

/-- The exchanges of one member. -/
def ownLog [DecidableEq ι] (i : ι) (log : List (Exchange (Interface.family I))) : List (Exchange (I i)) :=
  log.filterMap fun exchange =>
    if h : exchange.request.1 = i then some (h ▸ ⟨exchange.request.2, exchange.reply⟩) else none

section OwnLog

variable [DecidableEq ι]

/-- What a member has in two logs, one after the other. -/
theorem ownLog_append (i : ι) (first last : List (Exchange (Interface.family I))) :
    ownLog i (first ++ last) = ownLog i first ++ ownLog i last :=
  List.filterMap_append

/-- A member reads its own exchanges back. -/
theorem ownLog_tag_self (i : ι) (log : List (Exchange (I i))) :
    ownLog i (log.map (Exchange.tag i)) = log := by
  induction log with
  | nil => rfl
  | cons exchange log ih =>
    rw [List.map_cons, ownLog, List.filterMap_cons_some (dif_pos rfl)]
    exact congrArg (List.cons exchange) ih

/-- A member sees nothing of another one. -/
theorem ownLog_tag_of_ne {i j : ι} (hne : j ≠ i) (log : List (Exchange (I j))) :
    ownLog i (log.map (Exchange.tag j)) = [] := by
  rw [ownLog, List.filterMap_map]
  exact List.filterMap_eq_nil_iff.mpr fun exchange _ => dif_neg hne

end OwnLog

namespace Prog

/-- A program over a member, run over the family. -/
def embed (i : ι) : Prog (I i) ε α → Prog (Interface.family I) ε α
  | ret value => ret value
  | stop reason => stop reason
  | call request next => call (I := Interface.family I) ⟨i, request⟩ fun reply => (next reply).embed i

/-- The courses of an embedded program are its own, with tags. -/
theorem course_embed {i : ι} {program : Prog (I i) ε α} {log : List (Exchange (Interface.family I))}
    {result : Except ε α} :
    (program.embed i).Course log result ↔
      ∃ own, log = own.map (Exchange.tag i) ∧ program.Course own result := by
  induction program generalizing log with
  | ret value =>
    constructor
    · intro hcourse
      exact ⟨[], hcourse.1, rfl, hcourse.2⟩
    · intro hcourse
      obtain ⟨own, rfl, rfl, hresult⟩ := hcourse
      exact ⟨rfl, hresult⟩
  | stop reason =>
    constructor
    · intro hcourse
      exact ⟨[], hcourse.1, rfl, hcourse.2⟩
    · intro hcourse
      obtain ⟨own, rfl, rfl, hresult⟩ := hcourse
      exact ⟨rfl, hresult⟩
  | call request next ih =>
    constructor
    · intro hcourse
      obtain ⟨reply, log, rfl, hcourse⟩ := hcourse
      obtain ⟨own, rfl, hown⟩ := (ih reply).mp hcourse
      exact ⟨⟨request, reply⟩ :: own, rfl, reply, own, rfl, hown⟩
    · intro hcourse
      obtain ⟨own, rfl, reply, own, rfl, hown⟩ := hcourse
      exact ⟨reply, own.map (Exchange.tag i), rfl, (ih reply).mpr ⟨own, rfl, hown⟩⟩

/-- An embedded program stops a sequence with its own exchanges, or goes through and leaves the
rest. -/
theorem course_embed_bind {i : ι} {program : Prog (I i) ε α} {next : α → Prog (Interface.family I) ε β}
    {log : List (Exchange (Interface.family I))} {result : Except ε β} :
    (program.embed i >>= next).Course log result ↔
      (∃ reason own, log = own.map (Exchange.tag i) ∧ result = .error reason ∧
          program.Course own (.error reason)) ∨
        ∃ value own rest, log = own.map (Exchange.tag i) ++ rest ∧ program.Course own (.ok value) ∧
          (next value).Course rest result := by
  rw [course_bind]
  constructor
  · intro hcourse
    rcases hcourse with ⟨reason, hresult, hfirst⟩ | ⟨value, first, rest, rfl, hfirst, hrest⟩
    · obtain ⟨own, rfl, hown⟩ := course_embed.mp hfirst
      exact .inl ⟨reason, own, rfl, hresult, hown⟩
    · obtain ⟨own, rfl, hown⟩ := course_embed.mp hfirst
      exact .inr ⟨value, own, rest, rfl, hown, hrest⟩
  · intro hcourse
    rcases hcourse with ⟨reason, own, rfl, hresult, hown⟩ | ⟨value, own, rest, rfl, hown, hrest⟩
    · exact .inl ⟨reason, hresult, course_embed.mpr ⟨own, rfl, hown⟩⟩
    · exact .inr ⟨value, _, rest, rfl, course_embed.mpr ⟨own, rfl, hown⟩, hrest⟩

/-- A program with every request carried out by a program over another interface. -/
def expand (implement : (request : J.Call) → Prog K δ (J.Reply request)) : Prog J Empty α → Prog K δ α
  | ret value => ret value
  | stop reason => reason.elim
  | call request next => implement request >>= fun reply => (next reply).expand implement

/-- A single request is carried out by its program. -/
theorem expand_perform (implement : (request : J.Call) → Prog K δ (J.Reply request)) (request : J.Call) :
    (perform request).expand implement = implement request :=
  bind_pure _

/-- Carrying out requests respects sequencing. -/
theorem expand_bind (implement : (request : J.Call) → Prog K δ (J.Reply request))
    (program : Prog J Empty α) (next : α → Prog J Empty β) :
    (program >>= next).expand implement =
      program.expand implement >>= fun value => (next value).expand implement := by
  induction program with
  | ret => rfl
  | stop reason => exact reason.elim
  | call request rest ih =>
    change (implement request >>= fun reply => (rest reply >>= next).expand implement) =
      (implement request >>= fun reply => (rest reply).expand implement) >>= _
    simp only [ih, bind_assoc]

end Prog

end Effect
