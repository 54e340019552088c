import Maestro.Effect.Runs
import Maestro.Effect.Total
import Mathlib.Logic.Function.Basic

/-!
# The `nobrand` module and the device numbers of the kernel

`nobrand` registers the fixed major number 100 when it is loaded and gives it back when it is
unloaded. Its init function reports a failed registration in the log and returns 0 all the
same, and its exit function does not know whether the number is its own. The kernel keeps one
owner for each number, refuses a number that is taken, and lets everybody release it. Other
drivers may register and release the number at any time.
-/

namespace Maestro.Kernel

open Effect

/-- A driver, known by its table of file operations. -/
inductive Driver where
  | nobrand
  | other (id : ℕ)
deriving DecidableEq

/-- The lines that the module logs when it is loaded and unloaded. -/
inductive KernelLine where
  | hello
  | registerError
  | bye
deriving DecidableEq

/-- The logged text. -/
def KernelLine.text : KernelLine → String
  | hello => "OK HELLO NOBRAND!!\n"
  | registerError => "ERROR!!! register error\n"
  | bye => "BYE BYE\n\n"

/-- The calls of the module. -/
inductive KernelCall where
  | printk (line : KernelLine)
  | register_chrdev (major : ℕ) (name : String) (fops : Driver)
  | unregister_chrdev (major : ℕ) (name : String)

/-- A registration is answered with a status, negative when it fails. -/
abbrev KernelCalls : Interface where
  Call := KernelCall
  Reply
    | .register_chrdev _ _ _ => ℤ
    | _ => Unit

abbrev KernelProg (α : Type) := Prog KernelCalls Empty α

def printk (line : KernelLine) : KernelProg Unit := Prog.perform (I := KernelCalls) (.printk line)

def register_chrdev (major : ℕ) (name : String) (fops : Driver) : KernelProg ℤ :=
  Prog.perform (I := KernelCalls) (.register_chrdev major name fops)

def unregister_chrdev (major : ℕ) (name : String) : KernelProg Unit :=
  Prog.perform (I := KernelCalls) (.unregister_chrdev major name)

def NOD_NAME : String := "nobrand"
def NOD_MAJOR : ℕ := 100

/-- The file operations of the module. -/
def fops : Driver := .nobrand

/-- Run by `insmod`; a failed registration is logged and not returned. -/
def nobrand_init : KernelProg ℤ := do
  printk .hello
  let status ← register_chrdev NOD_MAJOR NOD_NAME fops
  if status < 0 then
    printk .registerError
  return 0

/-- Run by `rmmod`. -/
def nobrand_exit : KernelProg Unit := do
  unregister_chrdev NOD_MAJOR NOD_NAME
  printk .bye

/-- The owners of the major numbers. -/
abbrev Registry := ℕ → Option Driver

/-- What the kernel answers when a number is taken. -/
def EBUSY : ℤ := 16

/-- What the kernel answers when it is out of memory. -/
def ENOMEM : ℤ := 12

/-- The kernel registers a number that is free, if it has the memory; it releases a number for
everybody. -/
def chrdevs (memory : Bool) : Handler KernelCalls Registry where
  answer
    | .printk _, registry => ((), registry)
    | .register_chrdev major _ fops, registry =>
      if memory = false then (-ENOMEM, registry)
      else if registry major = none then (0, Function.update registry major (some fops))
      else (-EBUSY, registry)
    | .unregister_chrdev major _, registry => ((), Function.update registry major none)

/-- The device numbers, and whether the module is loaded. -/
structure Machine where
  registry : Registry
  loaded : Bool

/-- What happens: the module is loaded or unloaded, or another driver registers or releases the
number. A registration may find the kernel without memory. -/
inductive Event where
  | insmod (memory : Bool)
  | rmmod
  | register (id : ℕ) (memory : Bool)
  | release (id : ℕ)
deriving DecidableEq

/-- A module is loaded when its init function returns 0, and its exit function is run only for a
loaded module. -/
def Machine.step (machine : Machine) : Event → Machine
  | .insmod memory =>
    if machine.loaded then machine
    else
      let (status, registry) := nobrand_init.eval (chrdevs memory) machine.registry
      ⟨registry, decide (status = 0)⟩
  | .rmmod =>
    if machine.loaded then ⟨(nobrand_exit.eval (chrdevs true) machine.registry).2, false⟩ else machine
  | .register id memory =>
    ⟨((register_chrdev NOD_MAJOR "other" (.other id)).eval (chrdevs memory) machine.registry).2, machine.loaded⟩
  | .release _ =>
    ⟨((unregister_chrdev NOD_MAJOR "other").eval (chrdevs true) machine.registry).2, machine.loaded⟩

/-- The start: the module is not loaded, and the numbers belong to other drivers or to none. -/
def boot (held : ℕ → Option ℕ) : Machine := ⟨fun major => (held major).map .other, false⟩

/-- The module is loaded only while it owns the number, and unloading it releases only numbers
that it owns. -/
structure Right (machine : Machine) (event : Event) : Prop where
  holds : (machine.step event).loaded = true → (machine.step event).registry NOD_MAJOR = some fops
  releases : event = .rmmod → ∀ major owner, machine.registry major = some owner →
    (machine.step event).registry major ≠ some owner → owner = fops

/-- The number is free whenever the module is loaded and the registration finds memory, and no
other driver releases the number while the module owns it. -/
def Clear (machine : Machine) : Event → Prop
  | .insmod memory => machine.loaded = false → machine.registry NOD_MAJOR = none ∧ memory = true
  | .rmmod => True
  | .register _ _ => True
  | .release _ => machine.registry NOD_MAJOR ≠ some fops

/-- The module owns the number exactly while it is loaded. -/
def Owned (machine : Machine) : Prop := machine.loaded = true ↔ machine.registry NOD_MAJOR = some fops

section Steps

variable (machine : Machine)

/-- A registration changes the owner of a free number, and nothing else. -/
theorem eval_register (memory : Bool) (registry : Registry) (name : String) (driver : Driver) :
    ((register_chrdev NOD_MAJOR name driver).eval (chrdevs memory) registry).2 =
      if memory = true ∧ registry NOD_MAJOR = none then Function.update registry NOD_MAJOR (some driver)
      else registry := by
  change (if memory = false then (-ENOMEM, registry)
    else if registry NOD_MAJOR = none then (0, Function.update registry NOD_MAJOR (some driver))
    else (-EBUSY, registry) : ℤ × Registry).2 = _
  cases memory with
  | false => rfl
  | true =>
    by_cases hfree : registry NOD_MAJOR = none
    · simp [hfree]
    · simp [hfree]

/-- The init function registers the number and returns 0. -/
theorem eval_nobrand_init (memory : Bool) (registry : Registry) :
    nobrand_init.eval (chrdevs memory) registry =
      (0, ((register_chrdev NOD_MAJOR NOD_NAME fops).eval (chrdevs memory) registry).2) := by
  rw [nobrand_init, Prog.eval_bind, Prog.eval_bind]
  split
  · rfl
  · rfl

/-- Loading takes the number if it can be had, and succeeds in any case. -/
theorem step_insmod (memory : Bool) (hloaded : machine.loaded = false) :
    machine.step (.insmod memory) =
      ⟨if memory = true ∧ machine.registry NOD_MAJOR = none then
        Function.update machine.registry NOD_MAJOR (some fops) else machine.registry, true⟩ := by
  rw [Machine.step, hloaded, eval_nobrand_init, eval_register]
  rfl

/-- A loaded module is not loaded again. -/
theorem step_insmod_loaded (memory : Bool) (hloaded : machine.loaded = true) :
    machine.step (.insmod memory) = machine :=
  if_pos hloaded

/-- Unloading gives the number back, whoever owns it. -/
theorem step_rmmod (hloaded : machine.loaded = true) :
    machine.step .rmmod = ⟨Function.update machine.registry NOD_MAJOR none, false⟩ :=
  if_pos hloaded

/-- Only a loaded module is unloaded. -/
theorem step_rmmod_not_loaded (hloaded : machine.loaded = false) : machine.step .rmmod = machine := by
  rw [Machine.step, hloaded]
  rfl

/-- Another driver takes the number if it can be had. -/
theorem step_register (id : ℕ) (memory : Bool) :
    machine.step (.register id memory) =
      ⟨if memory = true ∧ machine.registry NOD_MAJOR = none then
        Function.update machine.registry NOD_MAJOR (some (.other id)) else machine.registry, machine.loaded⟩ := by
  rw [Machine.step, eval_register]

/-- Another driver gives the number back, whoever owns it. -/
theorem step_release (id : ℕ) :
    machine.step (.release id) = ⟨Function.update machine.registry NOD_MAJOR none, machine.loaded⟩ := rfl

/-- A step that is not an unloading is right if the module owns the number or is not loaded
after it. -/
theorem right_iff_holds (event : Event) (hevent : event ≠ .rmmod) :
    Right machine event ↔
      ((machine.step event).loaded = true → (machine.step event).registry NOD_MAJOR = some fops) :=
  ⟨Right.holds, fun holds => ⟨holds, fun h => absurd h hevent⟩⟩

/-- An unloading gives back no number but the module's own. -/
theorem right_rmmod (howned : Owned machine) : Right machine .rmmod := by
  by_cases hloaded : machine.loaded = true
  · refine ⟨?_, fun _ major owner howner hlost => ?_⟩
    · rw [step_rmmod machine hloaded]
      exact nofun
    · rw [step_rmmod machine hloaded] at hlost
      by_cases hmajor : major = NOD_MAJOR
      · rw [hmajor, howned.mp hloaded] at howner
        exact (Option.some.inj howner).symm
      · exact absurd ((Function.update_of_ne hmajor ..).trans howner) hlost
  · rw [Bool.not_eq_true] at hloaded
    refine ⟨?_, fun _ major owner howner hlost => ?_⟩
    · rw [step_rmmod_not_loaded machine hloaded]
      exact howned.mp
    · rw [step_rmmod_not_loaded machine hloaded] at hlost
      exact absurd howner hlost

/-- As long as the module owns the number exactly while it is loaded, a step is right exactly
when the way is clear. -/
theorem right_iff_clear (event : Event) (howned : Owned machine) :
    Right machine event ↔ Clear machine event := by
  cases event with
  | insmod memory =>
    rw [right_iff_holds machine (.insmod memory) nofun, Clear]
    by_cases hloaded : machine.loaded = true
    · rw [step_insmod_loaded machine memory hloaded]
      exact iff_of_true howned.mp fun h => absurd (hloaded.symm.trans h) nofun
    · have hnot := Bool.eq_false_iff.mpr hloaded
      rw [step_insmod machine memory hnot, forall_prop_of_true hnot, forall_prop_of_true rfl]
      by_cases hclear : memory = true ∧ machine.registry NOD_MAJOR = none
      · rw [if_pos hclear]
        exact iff_of_true (Function.update_self NOD_MAJOR (some fops) machine.registry) hclear.symm
      · rw [if_neg hclear]
        exact iff_of_false (fun h => hloaded (howned.mpr h)) fun h => hclear h.symm
  | rmmod => exact iff_of_true (right_rmmod machine howned) trivial
  | register id memory =>
    rw [right_iff_holds machine (.register id memory) nofun, step_register]
    refine iff_of_true (fun hloaded => ?_) trivial
    have hheld := howned.mp hloaded
    rw [if_neg fun h => absurd (h.2.symm.trans hheld) nofun]
    exact hheld
  | release id =>
    rw [right_iff_holds machine (.release id) nofun, step_release, Clear, ne_eq, ← not_congr howned]
    exact forall_congr' fun _ => iff_of_false (by simp) not_false

/-- A clear step keeps the number with the module exactly while it is loaded. -/
theorem owned_step (event : Event) (howned : Owned machine) (hclear : Clear machine event) :
    Owned (machine.step event) := by
  cases event with
  | insmod memory =>
    by_cases hloaded : machine.loaded = true
    · rw [step_insmod_loaded machine memory hloaded]
      exact howned
    · have hnot := Bool.eq_false_iff.mpr hloaded
      rw [step_insmod machine memory hnot, if_pos (hclear hnot).symm]
      exact iff_of_true rfl (Function.update_self NOD_MAJOR (some fops) machine.registry)
  | rmmod =>
    by_cases hloaded : machine.loaded = true
    · rw [step_rmmod machine hloaded]
      exact iff_of_false nofun (by simp)
    · rw [step_rmmod_not_loaded machine (Bool.eq_false_iff.mpr hloaded)]
      exact howned
  | register id memory =>
    rw [step_register]
    by_cases hfree : memory = true ∧ machine.registry NOD_MAJOR = none
    · rw [if_pos hfree]
      refine iff_of_false (fun hloaded => ?_) (by simp [fops])
      exact absurd ((howned.mp hloaded).symm.trans hfree.2) nofun
    · rw [if_neg hfree]
      exact howned
  | release id =>
    rw [step_release]
    exact iff_of_false (fun hloaded => hclear (howned.mp hloaded)) (by simp)

end Steps

/-- For every sequence of loads and unloads and of registrations and releases by other drivers:
the module is always loaded only with the number, and never releases another driver's number,
if and only if every load finds the number free and memory for it, and no other driver
releases the number while the module owns it. -/
theorem run_right_iff (held : ℕ → Option ℕ) (events : List Event) :
    EveryStep Machine.step (boot held) events Right ↔ EveryStep Machine.step (boot held) events Clear := by
  have hboot : Owned (boot held) := by
    refine iff_of_false nofun fun hheld => ?_
    obtain ⟨id, -, hid⟩ := Option.map_eq_some_iff.mp hheld
    cases hid
  exact everyStep_iff Owned right_iff_clear owned_step hboot events

/-- After another driver has registered the number, loading and unloading the module releases
that driver's registration. -/
theorem other_registration_released :
    ¬EveryStep Machine.step (boot fun _ => none) [.register 0 true, .insmod true, .rmmod] Right := by
  intro hrun
  have hreleases := (hrun [.register 0 true, .insmod true] .rmmod [] rfl).releases rfl NOD_MAJOR (.other 0) rfl
  exact absurd (hreleases nofun) nofun

end Maestro.Kernel
