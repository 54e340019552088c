import Maestro.Kernel.Nobrand

/-!
# Open files of the device and the code of the module

An open file keeps the table of file operations that it was opened with, and every operation on it
runs the code of the module that holds the table. The kernel refuses to unload a module with open
files, if the table names the module as its owner. The table of `nobrand` names none: the module
can be unloaded, and loaded again, while files are open. Programs may open, use and close files
at any time between the loads and unloads and the registrations of other drivers.
-/

namespace Maestro.Kernel.Lifetime

open Effect

/-- An open file: its descriptor, its driver, and the load of the module that it belongs to. -/
structure OpenFile where
  fd : ℕ
  driver : Driver
  load : ℕ
deriving DecidableEq

/-- The machine, how often the module was loaded, and the open files. -/
structure System where
  machine : Machine
  loads : ℕ
  files : List OpenFile

/-- What happens: something to the machine, or a program opens the device, uses an open file (it
reads, writes or makes a request), or closes it. -/
inductive SystemEvent where
  | machine (event : Event)
  | openFile (fd : ℕ)
  | useFile (fd : ℕ)
  | closeFile (fd : ℕ)
deriving DecidableEq

/-- The member `owner` of the module's table, which the initialiser leaves out. -/
def fopsOwner : Option Driver := none

/-- The kernel counts the open files of the owner that a table names. -/
def Counted (owner : Option Driver) (s : System) : Prop := owner = some fops ∧ ∃ file ∈ s.files, file.driver = fops

instance (owner : Option Driver) (s : System) : Decidable (Counted owner s) := instDecidableAnd

/-- An open file gets the driver that owns the number at the time. A module with counted files is not
unloaded. -/
def System.step (owner : Option Driver) (s : System) : SystemEvent → System
  | .machine .rmmod => if Counted owner s then s else { s with machine := s.machine.step .rmmod }
  | .machine (.insmod memory) =>
    ⟨s.machine.step (.insmod memory), if s.machine.loaded then s.loads else s.loads + 1, s.files⟩
  | .machine event => { s with machine := s.machine.step event }
  | .openFile fd =>
    if ∃ file ∈ s.files, file.fd = fd then s
    else
      match s.machine.registry NOD_MAJOR with
      | none => s
      | some driver => { s with files := s.files ++ [⟨fd, driver, s.loads⟩] }
  | .useFile _ => s
  | .closeFile fd => { s with files := s.files.filter fun file => file.fd ≠ fd }

/-- The start: no file is open. -/
def begin (held : ℕ → Option ℕ) : System := ⟨boot held, 0, []⟩

/-- The module is loaded, in the load that a file of it belongs to. -/
def Live (s : System) (file : OpenFile) : Prop :=
  file.driver = fops → s.machine.loaded = true ∧ file.load = s.loads

/-- The code that an event runs is loaded. -/
def Safe (s : System) : SystemEvent → Prop
  | .machine _ => True
  | .openFile _ => s.machine.registry NOD_MAJOR = some fops → s.machine.loaded = true
  | .useFile fd => ∀ file ∈ s.files, file.fd = fd → Live s file
  | .closeFile fd => ∀ file ∈ s.files, file.fd = fd → Live s file

/-- The module is unloaded only while no file of it is open. -/
def Unheld (s : System) (event : SystemEvent) : Prop :=
  event = .machine .rmmod → s.machine.loaded = true → ∀ file ∈ s.files, file.driver ≠ fops

/-- The number is the module's only while it is loaded, and all its files are live. -/
structure Intact (s : System) : Prop where
  loaded : s.machine.registry NOD_MAJOR = some fops → s.machine.loaded = true
  live : ∀ file ∈ s.files, Live s file

/-- An open file of an earlier load. -/
structure Stale (s : System) (file : OpenFile) : Prop where
  isOpen : file ∈ s.files
  driver : file.driver = fops
  earlier : file.load ≤ s.loads
  unloaded : s.machine.loaded = true → file.load < s.loads

section Steps

variable {owner : Option Driver} {s : System}

/-- Where all files are live, every event is safe. -/
theorem Intact.safe (hintact : Intact s) (event : SystemEvent) : Safe s event := by
  cases event with
  | machine event => trivial
  | openFile fd => exact hintact.loaded
  | useFile fd => exact fun file hmem _ => hintact.live file hmem
  | closeFile fd => exact fun file hmem _ => hintact.live file hmem

/-- A number that was given away is not the module's. -/
theorem update_ne_fops (registry : Registry) {owner : Option Driver} (hother : owner ≠ some fops) :
    Function.update registry NOD_MAJOR owner NOD_MAJOR ≠ some fops := by
  rwa [Function.update_self]

/-- The machine never has the module's number without the module. -/
theorem registry_step (machine : Machine) (event : Event)
    (hloaded : machine.registry NOD_MAJOR = some fops → machine.loaded = true) :
    (machine.step event).registry NOD_MAJOR = some fops → (machine.step event).loaded = true := by
  cases event with
  | insmod memory =>
    by_cases hmodule : machine.loaded = true
    · rw [step_insmod_loaded machine memory hmodule]
      exact hloaded
    · rw [step_insmod machine memory (Bool.eq_false_iff.mpr hmodule)]
      exact fun _ => rfl
  | rmmod =>
    by_cases hmodule : machine.loaded = true
    · rw [step_rmmod machine hmodule]
      exact fun hheld => absurd hheld (update_ne_fops machine.registry nofun)
    · rw [step_rmmod_not_loaded machine (Bool.eq_false_iff.mpr hmodule)]
      exact hloaded
  | register id memory =>
    have hother : some (.other id) ≠ some fops := fun heq => nomatch Option.some.inj heq
    rw [step_register]
    split
    · exact fun hheld => absurd hheld (update_ne_fops machine.registry hother)
    · exact hloaded
  | release id =>
    rw [step_release]
    exact fun hheld => absurd hheld (update_ne_fops machine.registry nofun)

/-- A step leaves all files live, unless it unloads the module while a file of it is open. -/
theorem Intact.step (hintact : Intact s) (event : SystemEvent)
    (hunheld : ¬Counted owner s → Unheld s event) : Intact (s.step owner event) := by
  cases event with
  | machine event =>
    cases event with
    | insmod memory =>
      refine ⟨registry_step s.machine (.insmod memory) hintact.loaded, fun file hmem hdriver => ?_⟩
      obtain ⟨hloaded, hload⟩ := hintact.live file hmem hdriver
      change (s.machine.step (.insmod memory)).loaded = true ∧
        file.load = if s.machine.loaded = true then s.loads else s.loads + 1
      rw [step_insmod_loaded s.machine memory hloaded, if_pos hloaded]
      exact ⟨hloaded, hload⟩
    | rmmod =>
      rw [System.step]
      split
      case isTrue => exact hintact
      case isFalse hcounted =>
        refine ⟨registry_step s.machine .rmmod hintact.loaded, fun file hmem hdriver => ?_⟩
        have hloaded := (hintact.live file hmem hdriver).1
        exact absurd hdriver (hunheld hcounted rfl hloaded file hmem)
    | register id memory => exact ⟨registry_step s.machine (.register id memory) hintact.loaded, hintact.live⟩
    | release id => exact ⟨registry_step s.machine (.release id) hintact.loaded, hintact.live⟩
  | openFile fd =>
    rw [System.step]
    split
    · exact hintact
    · cases hregistry : s.machine.registry NOD_MAJOR with
      | none => exact hintact
      | some driver =>
        refine ⟨hintact.loaded, fun file hmem => ?_⟩
        rcases List.mem_append.mp hmem with hold | hnew
        · exact hintact.live file hold
        · rw [List.mem_singleton.mp hnew]
          intro (hdriver : driver = fops)
          exact ⟨hintact.loaded (hdriver ▸ hregistry), rfl⟩
  | useFile fd => exact hintact
  | closeFile fd => exact ⟨hintact.loaded, fun file hmem => hintact.live file (List.mem_of_mem_filter hmem)⟩

/-- Unloading the module makes its open files stale. -/
theorem stale_rmmod (hcounted : ¬Counted owner s) (hloaded : s.machine.loaded = true) {file : OpenFile}
    (hmem : file ∈ s.files) (hdriver : file.driver = fops) (hlive : Live s file) :
    Stale (s.step owner (.machine .rmmod)) file := by
  rw [System.step, if_neg hcounted, step_rmmod s.machine hloaded]
  exact ⟨hmem, hdriver, Nat.le_of_eq (hlive hdriver).2, nofun⟩

/-- A stale file is not live. -/
theorem Stale.not_live {file : OpenFile} (hstale : Stale s file) : ¬Live s file := by
  intro hlive
  obtain ⟨hloaded, hload⟩ := hlive hstale.driver
  exact absurd (hstale.unloaded hloaded) (hload ▸ Nat.lt_irrefl _)

/-- A stale file stays stale: loading the module again makes a new load, and closing the file is not
safe. -/
theorem Stale.step {file : OpenFile} (hstale : Stale s file) (event : SystemEvent) (hsafe : Safe s event) :
    Stale (s.step owner event) file := by
  cases event with
  | machine event =>
    cases event with
    | insmod memory =>
      by_cases hloaded : s.machine.loaded = true
      · have hsame : s.step owner (.machine (.insmod memory)) = s := by
          rw [System.step, step_insmod_loaded s.machine memory hloaded, if_pos hloaded]
        rw [hsame]
        exact hstale
      · rw [System.step, if_neg hloaded]
        exact ⟨hstale.isOpen, hstale.driver, Nat.le_succ_of_le hstale.earlier, fun _ =>
          Nat.lt_succ_of_le hstale.earlier⟩
    | rmmod =>
      rw [System.step]
      split
      · exact hstale
      · refine ⟨hstale.isOpen, hstale.driver, hstale.earlier, fun hloaded => ?_⟩
        by_cases hmodule : s.machine.loaded = true
        · exact hstale.unloaded hmodule
        · exact absurd hloaded (by simp [step_rmmod_not_loaded s.machine (Bool.eq_false_iff.mpr hmodule), hmodule])
    | register id memory => exact ⟨hstale.isOpen, hstale.driver, hstale.earlier, hstale.unloaded⟩
    | release id => exact ⟨hstale.isOpen, hstale.driver, hstale.earlier, hstale.unloaded⟩
  | openFile fd =>
    rw [System.step]
    split
    · exact hstale
    · cases s.machine.registry NOD_MAJOR with
      | none => exact hstale
      | some driver =>
        exact ⟨List.mem_append_left _ hstale.isOpen, hstale.driver, hstale.earlier, hstale.unloaded⟩
  | useFile fd => exact hstale
  | closeFile fd =>
    have hother : file.fd ≠ fd := fun heq => hstale.not_live (hsafe file hstale.isOpen heq)
    exact ⟨List.mem_filter.mpr ⟨hstale.isOpen, decide_eq_true hother⟩, hstale.driver, hstale.earlier,
      hstale.unloaded⟩

end Steps

section Runs

variable {owner : Option Driver} {s : System}

/-- In a safe run a stale file is never closed. -/
theorem Stale.reached {file : OpenFile} (hstale : Stale s file) {events : List SystemEvent}
    (hsafe : EveryStep (System.step owner) s events Safe) : Stale (reached (System.step owner) s events) file := by
  induction events generalizing s with
  | nil => exact hstale
  | cons event events ih =>
    obtain ⟨hfirst, hrest⟩ := everyStep_cons.mp hsafe
    exact ih (hstale.step event hfirst) hrest

/-- No file is open and no number is the module's at the start. -/
theorem intact_begin (held : ℕ → Option ℕ) : Intact (begin held) := by
  refine ⟨fun hheld => ?_, nofun⟩
  obtain ⟨id, -, hid⟩ := Option.map_eq_some_iff.mp hheld
  cases hid

/-- Runs from a state with live files at whose end the files of the module are closed. -/
theorem safe_iff_of_intact (hintact : Intact s) (events : List SystemEvent)
    (hclosed : ∀ file ∈ (reached (System.step fopsOwner) s events).files, file.driver ≠ fops) :
    EveryStep (System.step fopsOwner) s events Safe ↔ EveryStep (System.step fopsOwner) s events Unheld := by
  have hcounted (s : System) : ¬Counted fopsOwner s := fun hcounted => absurd hcounted.1 nofun
  induction events generalizing s with
  | nil => exact iff_of_true everyStep_nil everyStep_nil
  | cons event events ih =>
    rw [everyStep_cons, everyStep_cons]
    constructor
    · intro hsafe
      have hunheld : Unheld s event := by
        rintro rfl hloaded file hmem hdriver
        have hstale := stale_rmmod (hcounted s) hloaded hmem hdriver (hintact.live file hmem)
        exact hclosed file (hstale.reached hsafe.2).isOpen hdriver
      exact ⟨hunheld, (ih (hintact.step event fun _ => hunheld) hclosed).mp hsafe.2⟩
    · intro hunheld
      exact ⟨hintact.safe event, (ih (hintact.step event fun _ => hunheld.1) hclosed).mpr hunheld.2⟩

/-- For every order of loads, unloads, registrations, and opened, used and closed files, after which
the files of the module are closed: no event ran code of the module that was gone if and only if
the module was never unloaded while a file of it was open. -/
theorem safe_iff_unheld (held : ℕ → Option ℕ) (events : List SystemEvent)
    (hclosed : ∀ file ∈ (reached (System.step fopsOwner) (begin held) events).files, file.driver ≠ fops) :
    EveryStep (System.step fopsOwner) (begin held) events Safe ↔
      EveryStep (System.step fopsOwner) (begin held) events Unheld :=
  safe_iff_of_intact (intact_begin held) events hclosed

/-- A file that is open while the module is unloaded and loaded again is closed by code that is gone. -/
theorem reload_unsafe :
    ¬EveryStep (System.step fopsOwner) (begin fun _ => none)
      [.machine (.insmod true), .openFile 3, .machine .rmmod, .machine (.insmod true), .closeFile 3] Safe := by
  rw [safe_iff_unheld _ _ (by decide)]
  intro hunheld
  exact hunheld [.machine (.insmod true), .openFile 3] (.machine .rmmod) _ rfl rfl rfl ⟨3, fops, 1⟩
    List.mem_cons_self rfl

/-- With the module as the owner in the table, no event of any run meets code that is gone. -/
theorem owned_safe (held : ℕ → Option ℕ) (events : List SystemEvent) :
    EveryStep (System.step (some fops)) (begin held) events Safe := by
  refine everyStep_of_invariant Intact (fun s event hintact => hintact.safe event)
    (fun s event hintact => hintact.step event fun hcounted => ?_) (intact_begin held) events
  exact fun _ _ file hmem hdriver => hcounted ⟨rfl, file, hmem, hdriver⟩

end Runs

end Maestro.Kernel.Lifetime
