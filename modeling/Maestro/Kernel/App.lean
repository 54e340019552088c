import Maestro.Kernel.FileOps
import Maestro.Kernel.Lifetime

/-!
# The demo program on the device

`app.c` opens the device for reading, makes two requests, writes, reads, prints what it has read
twice, and closes the device. The kernel looks the path up among the device nodes, which the module
does not make, and passes the calls on to the driver of the file; a write to a file that is open for
reading only does not reach the driver. With the module in place and a node of its number the
program prints `HI` twice, whatever its buffer held before, its message is never logged, and it
leaves the system as it was.
-/

namespace Maestro.Kernel.App

open Effect File Lifetime

/-- The lines that the functions of the driver log. -/
inductive DriverLine where
  | opened
  | closed
  | request (cmd : BitVec 32)
  | file (line : FileLine)
deriving DecidableEq

/-- The logged text; the number of a request is shown as a signed one. -/
def DriverLine.text : DriverLine → String
  | opened => "OPEN!!!\n"
  | closed => "CLOSE!!!\n"
  | request cmd => toString cmd.toInt ++ "\n"
  | file line => line.text

/-- The calls of the driver functions. -/
abbrev DriverCalls : Interface where
  Call := DriverLine
  Reply _ := Unit

abbrev DriverProg (α : Type) := Prog DriverCalls Empty α

def printk (line : DriverLine) : DriverProg Unit := Prog.perform (I := DriverCalls) line

/-- The open is logged. -/
def nobrand_open : DriverProg ℤ := do
  printk .opened
  return 0

/-- The close is logged. -/
def nobrand_release : DriverProg ℤ := do
  printk .closed
  return 0

/-- A request is logged; its argument is not used. -/
def nobrand_ioctl (cmd : BitVec 32) (_arg : BitVec 64) : DriverProg ℤ := do
  printk (.request cmd)
  return 0

/-- The log of the driver takes every line. -/
def driverLog : Handler DriverCalls (List DriverLine) where
  answer line log := ((), log ++ [line])

/-- What a file is opened for. -/
inductive Access where
  | O_RDONLY
  | O_RDWR
deriving DecidableEq

/-- The lines of `app.c`. -/
inductive AppLine where
  | openFile
  | fileOpenError
  | buf (text : List Byte)
  | closeFile
deriving DecidableEq

/-- The printed text. -/
def AppLine.text : AppLine → String
  | openFile => "OPEN FILE\n"
  | fileOpenError => "FILE OPEN ERROR\n"
  | buf text => String.ofList (text.map fun byte => Char.ofNat byte.toNat) ++ "\n"
  | closeFile => "CLOSE FILE!!\n"

/-- The calls of `app.c`. -/
inductive AppCall where
  | printf (line : AppLine)
  | openPath (path : String) (access : Access)
  | ioctl (fd : ℤ) (cmd : BitVec 32) (arg : BitVec 64)
  | write (fd : ℤ) (buf count : BitVec 64)
  | read (fd : ℤ) (buf count : BitVec 64)
  | load (address : Address)
  | close (fd : ℤ)

/-- A write or read that has not come to its end has no status yet. -/
abbrev AppCalls : Interface where
  Call := AppCall
  Reply
    | .printf _ => Unit
    | .write _ _ _ => Option ℤ
    | .load _ => Byte
    | _ => ℤ

abbrev AppProg (α : Type) := Prog AppCalls Empty α

section Program

def printf (line : AppLine) : AppProg Unit := Prog.perform (I := AppCalls) (.printf line)

def openPath (path : String) (access : Access) : AppProg ℤ := Prog.perform (I := AppCalls) (.openPath path access)

def ioctl (fd : ℤ) (cmd : BitVec 32) (arg : BitVec 64) : AppProg ℤ :=
  Prog.perform (I := AppCalls) (.ioctl fd cmd arg)

def write (fd : ℤ) (buf count : BitVec 64) : AppProg (Option ℤ) := Prog.perform (I := AppCalls) (.write fd buf count)

def read (fd : ℤ) (buf count : BitVec 64) : AppProg ℤ := Prog.perform (I := AppCalls) (.read fd buf count)

def load (address : Address) : AppProg Byte := Prog.perform (I := AppCalls) (.load address)

def close (fd : ℤ) : AppProg ℤ := Prog.perform (I := AppCalls) (.close fd)

/-- The program goes on with the value of a part that has come to its end. -/
def next {α β : Type} (part : AppProg (Option α)) (rest : α → AppProg (Option β)) : AppProg (Option β) := do
  match ← part with
  | none => return none
  | some value => rest value

/-- The conversion `%s`. -/
def loadString : ℕ → Address → AppProg (Option (List Byte))
  | 0, _ => return none
  | fuel + 1, address => do
    let byte ← load address
    if byte = 0 then return some []
    else next (loadString fuel (place address 1)) fun rest => return some (byte :: rest)

/-- `printf("%s\n", buf)`. -/
def printString (fuel : ℕ) (buf : Address) : AppProg (Option Unit) :=
  next (loadString fuel buf) fun text => do
    printf (.buf text)
    return some ()

/-- The size of `buf`. -/
def BUF_SIZE : ℕ := 100

/-- `main` from the point where the device is open. -/
def talk (fd : ℤ) (fuel : ℕ) (message buf : Address) : AppProg (Option ℤ) := do
  let _ ← ioctl fd 3 0
  let _ ← ioctl fd 4 0
  next (write fd message 7) fun _ => do
    let _ ← read fd buf (BitVec.ofNat 64 (BUF_SIZE - 1))
    next (printString fuel buf) fun _ => next (printString fuel buf) fun _ => do
      printf .closeFile
      let _ ← close fd
      return some 0

/-- The program, with the places of its message and of its buffer. -/
def main (fuel : ℕ) (message buf : Address) : AppProg (Option ℤ) := do
  printf .openFile
  let fd ← openPath "/dev/nobrand" .O_RDONLY
  if fd = -1 then
    printf .fileOpenError
    return some 0
  else talk fd fuel message buf

end Program

/-- The device nodes with their numbers, the system, what the open files are open for, the program's
memory and output, and the log of the driver. -/
structure World where
  nodes : String → Option ℕ
  system : System
  access : ℕ → Access
  memory : Memory
  output : List AppLine
  log : List DriverLine

/-- A descriptor that no open file has. -/
def freshFd (files : List OpenFile) : ℕ := (files.map OpenFile.fd).foldr max 2 + 1

/-- The open file with a descriptor. -/
def fileAt (s : System) (fd : ℤ) : Option OpenFile := s.files.find? fun file => decide ((file.fd : ℤ) = fd)

/-- A call on a file: an error if there is none, else what its driver does. -/
def onFile {α : Type} (w : World) (fd : ℤ) (failed : α) (nobrand : OpenFile → α × World) (foreign : α × World) :
    α × World :=
  match fileAt w.system fd with
  | none => (failed, w)
  | some file => if file.driver = fops then nobrand file else foreign

/-- The kernel. A path without a node cannot be opened. A file belongs to the driver that owns the number
of its node when it is opened; what other numbers and other drivers do is left open. A write needs a
file that is open for writing. -/
def kernel (foreign : Handler AppCalls World) (fuel : ℕ) : Handler AppCalls World where
  answer
    | .printf line, w => ((), { w with output := w.output ++ [line] })
    | .load address, w => (w.memory address, w)
    | .openPath path access, w =>
      match w.nodes path with
      | none => (-1, w)
      | some major =>
        if major = NOD_MAJOR then
          match w.system.machine.registry NOD_MAJOR with
          | none => (-1, w)
          | some (.other _) => foreign.answer (.openPath path access) w
          | some .nobrand =>
            let fd := freshFd w.system.files
            let (_, log) := nobrand_open.eval driverLog w.log
            (fd, { w with
              system := w.system.step fopsOwner (.openFile fd)
              access := Function.update w.access fd access
              log := log })
        else foreign.answer (.openPath path access) w
    | .ioctl fd cmd arg, w =>
      onFile w fd (-1) (fun _ =>
        let (status, log) := (nobrand_ioctl cmd arg).eval driverLog w.log
        (status, { w with log := log })) (foreign.answer (.ioctl fd cmd arg) w)
    | .write fd buf count, w =>
      onFile w fd (some (-1)) (fun file =>
        if w.access file.fd = .O_RDONLY then (some (-1), w)
        else
          let (result, lines) := written w.memory [] buf count 0 fuel
          (result.map Prod.fst, { w with log := w.log ++ lines.map .file })) (foreign.answer (.write fd buf count) w)
    | .read fd buf count, w =>
      onFile w fd (-1) (fun _ =>
        let (result, machine) := (nobrand_read buf count 0).eval userMemory ⟨w.memory, []⟩
        (result.1, { w with memory := machine.memory })) (foreign.answer (.read fd buf count) w)
    | .close fd, w =>
      onFile w fd (-1) (fun file =>
        let (_, log) := nobrand_release.eval driverLog w.log
        (0, { w with system := w.system.step fopsOwner (.closeFile file.fd), log := log }))
        (foreign.answer (.close fd) w)

/-- The memory after a read. -/
def stored (memory : Memory) (buf : Address) : Memory :=
  Function.update (Function.update (Function.update memory (place buf 0) 0x48) (place buf 1) 0x49) (place buf 2) 0

section Calls

variable (foreign : Handler AppCalls World) (fuel : ℕ) (w : World) (buf : Address)

/-- A fresh descriptor is above all others. -/
theorem lt_freshFd {files : List OpenFile} {file : OpenFile} (hmem : file ∈ files) : file.fd < freshFd files := by
  have hle : ∀ (fds : List ℕ), ∀ fd ∈ fds, fd ≤ fds.foldr max 2 := by
    intro fds
    induction fds with
    | nil => exact nofun
    | cons first fds ih =>
      intro fd hfd
      rcases List.mem_cons.mp hfd with rfl | hrest
      · exact Nat.le_max_left ..
      · exact Nat.le_trans (ih fd hrest) (Nat.le_max_right ..)
  exact Nat.lt_succ_of_le (hle _ _ (List.mem_map_of_mem hmem))

/-- The file that an open makes. -/
def newFile : OpenFile := ⟨freshFd w.system.files, fops, w.system.loads⟩

/-- The world after an open. -/
def opened (access : Access) : World :=
  { w with
    system := { w.system with files := w.system.files ++ [newFile w] }
    access := Function.update w.access (freshFd w.system.files) access
    log := w.log ++ [.opened] }

/-- With the module in place a node of its number is opened. -/
theorem answer_open (hregistry : w.system.machine.registry NOD_MAJOR = some fops) {path : String}
    (hnode : w.nodes path = some NOD_MAJOR) (access : Access) :
    (kernel foreign fuel).answer (.openPath path access) w = ((freshFd w.system.files : ℤ), opened w access) := by
  have hfresh : ¬∃ file ∈ w.system.files, file.fd = freshFd w.system.files := by
    rintro ⟨file, hmem, heq⟩
    exact absurd (lt_freshFd hmem) (heq ▸ Nat.lt_irrefl _)
  have hstep : w.system.step fopsOwner (.openFile (freshFd w.system.files)) =
      { w.system with files := w.system.files ++ [newFile w] } := by
    rw [System.step, if_neg hfresh, hregistry]
    rfl
  have hopen : (kernel foreign fuel).answer (.openPath path access) w = ((freshFd w.system.files : ℤ),
      { w with
        system := w.system.step fopsOwner (.openFile (freshFd w.system.files))
        access := Function.update w.access (freshFd w.system.files) access
        log := w.log ++ [.opened] }) := by
    simp only [kernel]
    rw [hnode, hregistry]
    rfl
  rw [hopen, hstep]
  rfl

/-- With the number free its nodes cannot be opened. -/
theorem answer_open_free (hregistry : w.system.machine.registry NOD_MAJOR = none) {path : String}
    (hnode : w.nodes path = some NOD_MAJOR) (access : Access) :
    (kernel foreign fuel).answer (.openPath path access) w = (-1, w) := by
  simp only [kernel]
  rw [hnode, hregistry]
  rfl

/-- A path without a node cannot be opened. -/
theorem answer_open_missing {path : String} (hnode : w.nodes path = none) (access : Access) :
    (kernel foreign fuel).answer (.openPath path access) w = (-1, w) := by
  simp only [kernel]
  rw [hnode]

/-- The descriptor of an opened file is its own. -/
theorem fileAt_opened (access : Access) :
    fileAt (opened w access).system (freshFd w.system.files) = some (newFile w) := by
  have hold : w.system.files.find? (fun file => decide ((file.fd : ℤ) = freshFd w.system.files)) = none := by
    rw [List.find?_eq_none]
    intro file hmem heq
    exact absurd (lt_freshFd hmem) (Int.ofNat_inj.mp (of_decide_eq_true heq) ▸ Nat.lt_irrefl _)
  have hnew : [newFile w].find? (fun file => decide ((file.fd : ℤ) = freshFd w.system.files)) = some (newFile w) :=
    List.find?_cons_of_pos (decide_eq_true rfl)
  change (w.system.files ++ [newFile w]).find? _ = _
  rw [List.find?_append, hold, Option.none_or, hnew]

/-- Closing the opened file leaves the other files. -/
theorem step_close_opened (access : Access) :
    (opened w access).system.step fopsOwner (.closeFile (freshFd w.system.files)) = w.system := by
  have hold : w.system.files.filter (fun file => file.fd ≠ freshFd w.system.files) = w.system.files := by
    rw [List.filter_eq_self]
    exact fun file hmem => decide_eq_true (Nat.ne_of_lt (lt_freshFd hmem))
  have hnew : [newFile w].filter (fun file => file.fd ≠ freshFd w.system.files) = [] :=
    List.filter_cons_of_neg fun hne => of_decide_eq_true hne rfl
  have hstep : (opened w access).system.step fopsOwner (.closeFile (freshFd w.system.files)) =
      ⟨w.system.machine, w.system.loads,
        (w.system.files ++ [newFile w]).filter fun file => file.fd ≠ freshFd w.system.files⟩ := rfl
  rw [hstep, List.filter_append, hold, hnew, List.append_nil]

section Files

variable {w} {fd : ℤ} {file : OpenFile} (hfile : fileAt w.system fd = some file) (hdriver : file.driver = fops)

include hfile hdriver

/-- A call on a file of the module runs the module. -/
theorem onFile_eq {α : Type} (failed : α) (nobrand : OpenFile → α × World) (other : α × World) :
    onFile w fd failed nobrand other = nobrand file := by
  rw [onFile, hfile]
  exact if_pos hdriver

/-- A request is logged. -/
theorem answer_ioctl (cmd : BitVec 32) (arg : BitVec 64) :
    (kernel foreign fuel).answer (.ioctl fd cmd arg) w = (0, { w with log := w.log ++ [.request cmd] }) :=
  onFile_eq hfile hdriver ..

/-- A write to a file that is open for reading fails, and nothing else happens. -/
theorem answer_write (haccess : w.access file.fd = .O_RDONLY) (buf count : BitVec 64) :
    (kernel foreign fuel).answer (.write fd buf count) w = (some (-1), w) :=
  (onFile_eq hfile hdriver ..).trans (if_pos haccess)

/-- A read stores the message. -/
theorem answer_read (buf count : BitVec 64) :
    (kernel foreign fuel).answer (.read fd buf count) w = (count.toInt, { w with memory := stored w.memory buf }) :=
  onFile_eq hfile hdriver ..

/-- A close is logged, and the file is gone. -/
theorem answer_close :
    (kernel foreign fuel).answer (.close fd) w =
      (0, { w with system := w.system.step fopsOwner (.closeFile file.fd), log := w.log ++ [.closed] }) :=
  onFile_eq hfile hdriver ..

end Files

/-- The string that a read has stored. -/
theorem stringAt_stored (memory : Memory) (n : ℕ) :
    stringAt (stored memory buf) (n + 3) buf = some [0x48, 0x49] := by
  have hzero : place buf 0 ≠ place buf 1 ∧ place buf 0 ≠ place buf 2 :=
    ⟨fun heq => absurd (place_inj (by decide) (by decide) heq) (by decide),
      fun heq => absurd (place_inj (by decide) (by decide) heq) (by decide)⟩
  have hone : place buf 1 ≠ place buf 2 := fun heq => absurd (place_inj (by decide) (by decide) heq) (by decide)
  have hfirst : stored memory buf (place buf 0) = 0x48 := by
    rw [stored, Function.update_of_ne hzero.2, Function.update_of_ne hzero.1, Function.update_self]
  have hsecond : stored memory buf (place buf 1) = 0x49 := by
    rw [stored, Function.update_of_ne hone, Function.update_self]
  have hthird : stored memory buf (place (place buf 1) 1) = 0 := by
    rw [place_succ, stored, Function.update_self]
  rw [place_zero] at hfirst
  rw [stringAt, hfirst, if_neg (by decide), stringAt, hsecond, if_neg (by decide), stringAt, if_pos hthird]
  rfl

/-- A part that has come to its end hands on its value. -/
theorem eval_next {α β : Type} {part : AppProg (Option α)} {value : α} {h : Handler AppCalls World} {w' : World}
    (hpart : part.eval h w = (some value, w')) (rest : α → AppProg (Option β)) :
    (next part rest).eval h w = (rest value).eval h w' := by
  rw [next, Prog.eval_bind, hpart]

/-- The conversion reads the string and changes nothing. -/
theorem eval_loadString (n : ℕ) (address : Address) :
    (loadString n address).eval (kernel foreign fuel) w = (stringAt w.memory n address, w) := by
  induction n generalizing address with
  | zero => rfl
  | succ n ih =>
    change (if w.memory address = 0 then _ else _ : AppProg (Option (List Byte))).eval _ w = _
    rw [stringAt]
    by_cases hzero : w.memory address = 0
    · rw [if_pos hzero, if_pos hzero]
      rfl
    · rw [if_neg hzero, if_neg hzero, next, Prog.eval_bind, ih]
      cases stringAt w.memory n (place address 1) with
      | none => rfl
      | some text => rfl

/-- What is printed after a read. -/
theorem eval_printString {n : ℕ} {text : List Byte} (htext : stringAt w.memory n buf = some text) :
    (printString n buf).eval (kernel foreign fuel) w = (some (), { w with output := w.output ++ [.buf text] }) := by
  have hload := eval_loadString foreign fuel w n buf
  rw [htext] at hload
  rw [printString, eval_next w hload]
  rfl

end Calls

section Main

variable (foreign : Handler AppCalls World) (fuel n : ℕ) (w : World) (message buf : Address)

/-- With a file of the module that is open for reading, all calls reach the module but the write. -/
theorem eval_talk {fd : ℤ} {file : OpenFile} (hfile : fileAt w.system fd = some file) (hdriver : file.driver = fops)
    (haccess : w.access file.fd = .O_RDONLY) :
    (talk fd (n + 3) message buf).eval (kernel foreign fuel) w =
      (some 0, { w with
        system := w.system.step fopsOwner (.closeFile file.fd)
        memory := stored w.memory buf
        output := w.output ++ [.buf [0x48, 0x49]] ++ [.buf [0x48, 0x49]] ++ [.closeFile]
        log := w.log ++ [.request 3] ++ [.request 4] ++ [.closed] }) := by
  let asked : World := { w with log := w.log ++ [.request 3] ++ [.request 4] }
  let told : World := { asked with memory := stored w.memory buf }
  let once : World := { told with output := w.output ++ [.buf [0x48, 0x49]] }
  let twice : World := { told with output := once.output ++ [.buf [0x48, 0x49]] }
  let ended : World := { told with output := twice.output ++ [.closeFile] }
  have hthree : (ioctl fd 3 0).eval (kernel foreign fuel) w = (0, { w with log := w.log ++ [.request 3] }) :=
    answer_ioctl foreign fuel hfile hdriver 3 0
  have hfour : (ioctl fd 4 0).eval (kernel foreign fuel) { w with log := w.log ++ [.request 3] } = (0, asked) :=
    answer_ioctl foreign fuel (w := { w with log := w.log ++ [.request 3] }) hfile hdriver 4 0
  have hwrite : (write fd message 7).eval (kernel foreign fuel) asked = (some (-1), asked) :=
    answer_write foreign fuel (w := asked) hfile hdriver haccess message 7
  have hread : (read fd buf (BitVec.ofNat 64 (BUF_SIZE - 1))).eval (kernel foreign fuel) asked = (99, told) :=
    answer_read foreign fuel (w := asked) hfile hdriver buf 99
  have hstring := stringAt_stored buf w.memory n
  have honce : (printString (n + 3) buf).eval (kernel foreign fuel) told = (some (), once) :=
    eval_printString foreign fuel told buf hstring
  have htwice : (printString (n + 3) buf).eval (kernel foreign fuel) once = (some (), twice) :=
    eval_printString foreign fuel once buf hstring
  have hended : (printf .closeFile).eval (kernel foreign fuel) twice = ((), ended) := rfl
  have hclose : (close fd).eval (kernel foreign fuel) ended = (0, { ended with
      system := w.system.step fopsOwner (.closeFile file.fd), log := asked.log ++ [.closed] }) :=
    answer_close foreign fuel (w := ended) hfile hdriver
  rw [talk, Prog.eval_bind, hthree, Prog.eval_bind, hfour, eval_next asked hwrite, Prog.eval_bind, hread,
    eval_next told honce, eval_next once htwice, Prog.eval_bind, hended, Prog.eval_bind, hclose]
  rfl

/-- With the number in the hands of the module, its node is opened, and closed again. -/
theorem eval_main (hnode : w.nodes "/dev/nobrand" = some NOD_MAJOR)
    (hregistry : w.system.machine.registry NOD_MAJOR = some fops) :
    (main (n + 3) message buf).eval (kernel foreign fuel) w =
      (some 0, { w with
        access := Function.update w.access (freshFd w.system.files) .O_RDONLY
        memory := stored w.memory buf
        output := w.output ++ [.openFile, .buf [0x48, 0x49], .buf [0x48, 0x49], .closeFile]
        log := w.log ++ [.opened, .request 3, .request 4, .closed] }) := by
  let start : World := { w with output := w.output ++ [.openFile] }
  have hfd : (freshFd w.system.files : ℤ) ≠ -1 := by omega
  have hstart : (printf .openFile).eval (kernel foreign fuel) w = ((), start) := rfl
  have hopen : (openPath "/dev/nobrand" .O_RDONLY).eval (kernel foreign fuel) start =
      ((freshFd w.system.files : ℤ), opened start .O_RDONLY) :=
    answer_open foreign fuel start hregistry hnode .O_RDONLY
  have haccess : (opened start .O_RDONLY).access (newFile start).fd = .O_RDONLY := Function.update_self ..
  have hclosed : (opened start .O_RDONLY).system.step fopsOwner (.closeFile (newFile start).fd) = w.system :=
    step_close_opened start .O_RDONLY
  rw [main, Prog.eval_bind, hstart, Prog.eval_bind, hopen, if_neg hfd,
    eval_talk foreign fuel n _ message buf (fileAt_opened start .O_RDONLY) rfl haccess, hclosed]
  simp [opened, start]

/-- A device that cannot be opened is reported. -/
theorem eval_main_failed
    (hopen : (kernel foreign fuel).answer (.openPath "/dev/nobrand" .O_RDONLY)
      { w with output := w.output ++ [.openFile] } = (-1, { w with output := w.output ++ [.openFile] })) :
    (main (n + 3) message buf).eval (kernel foreign fuel) w =
      (some 0, { w with output := w.output ++ [.openFile, .fileOpenError] }) := by
  let start : World := { w with output := w.output ++ [.openFile] }
  have hstart : (printf .openFile).eval (kernel foreign fuel) w = ((), start) := rfl
  have hfailed : (openPath "/dev/nobrand" .O_RDONLY).eval (kernel foreign fuel) start = (-1, start) := hopen
  have herror : (printf .fileOpenError).eval (kernel foreign fuel) start =
      ((), { w with output := w.output ++ [.openFile, .fileOpenError] }) :=
    Prod.ext rfl (congrArg (fun output => { w with output := output }) (List.append_assoc ..))
  rw [main, Prog.eval_bind, hstart, Prog.eval_bind, hfailed, if_pos rfl, Prog.eval_bind, herror]
  rfl

/-- For every state of the nodes, of the system, of the memory and of the other drivers. If the path has a
node with the number of the module and the module owns the number, `app.c` prints `HI` twice and logs
its two requests, but never its message; its buffer holds what was read and all open files are as
they were. If there is no node, or nobody owns the number, it reports that the device cannot be opened.
A node with another number, and another owner, are not the module's. -/
theorem app_run :
    match w.nodes "/dev/nobrand", w.system.machine.registry NOD_MAJOR with
    | none, _ =>
      (main (n + 3) message buf).eval (kernel foreign fuel) w =
        (some 0, { w with output := w.output ++ [.openFile, .fileOpenError] })
    | some major, some .nobrand =>
      major = NOD_MAJOR → (main (n + 3) message buf).eval (kernel foreign fuel) w =
        (some 0, { w with
          access := Function.update w.access (freshFd w.system.files) .O_RDONLY
          memory := stored w.memory buf
          output := w.output ++ [.openFile, .buf [0x48, 0x49], .buf [0x48, 0x49], .closeFile]
          log := w.log ++ [.opened, .request 3, .request 4, .closed] })
    | some major, none =>
      major = NOD_MAJOR → (main (n + 3) message buf).eval (kernel foreign fuel) w =
        (some 0, { w with output := w.output ++ [.openFile, .fileOpenError] })
    | some _, some (.other _) => True := by
  let start : World := { w with output := w.output ++ [.openFile] }
  cases hnode : w.nodes "/dev/nobrand" with
  | none => exact eval_main_failed foreign fuel n w message buf (answer_open_missing foreign fuel start hnode .O_RDONLY)
  | some major =>
    cases hregistry : w.system.machine.registry NOD_MAJOR with
    | none =>
      rintro rfl
      exact eval_main_failed foreign fuel n w message buf
        (answer_open_free foreign fuel start hregistry hnode .O_RDONLY)
    | some driver =>
      cases driver with
      | nobrand =>
        rintro rfl
        exact eval_main foreign fuel n w message buf hnode hregistry
      | other => trivial

end Main

end Maestro.Kernel.App
