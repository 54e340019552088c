import Maestro.Combine.BluetoothTest
import Maestro.Combine.EthernetTest
import Maestro.Combine.I2cTest
import Maestro.Combine.WifiTest
import Maestro.Effect.Ledger

/-!
# The handles that the tests leave open

Four tests of `CombineCode` open descriptors, streams and lists and allocate buffers. The main
result says which calls of them release all that they acquire, for every outcome of the
external calls, and what follows for any number of calls.
-/

namespace Maestro.Combine

open Effect Ledger

/-- An open handle: a descriptor, a stream, an interface list or a buffer. -/
inductive Handle where
  | descriptor (fd : ℤ)
  | stream (fp : ℕ)
  | list (pointer : ℕ)
  | buffer (pointer : ℕ)
deriving DecidableEq

/-- What a call that is answered with a pointer acquires. -/
def acquireSome {α : Type} (handle : α → Handle) : Option α → HandleEvent Handle
  | some value => .acquire (handle value)
  | none => .keep

/-- What a call that is answered with a descriptor acquires. -/
def acquireDescriptor (fd : ℤ) : HandleEvent Handle := if fd < 0 then .keep else .acquire (.descriptor fd)

/-- What `close` releases. -/
def releaseDescriptor (fd : ℤ) : HandleEvent Handle := if fd < 0 then .keep else .release (.descriptor fd)

namespace Wifi

/-- `popen` acquires a stream and `pclose` releases it. -/
def handleEvent : Exchange WifiCalls → HandleEvent Handle
  | ⟨.popen _ _, stream⟩ => acquireSome Handle.stream stream
  | ⟨.pclose fp, _⟩ => .release (.stream fp)
  | _ => .keep

/-- A request that neither acquires nor releases. -/
def Neutral : WifiCall → Prop
  | .popen _ _ => False
  | .pclose _ => False
  | _ => True

/-- A neutral call neither opens nor closes a stream. -/
theorem handleEvent_of_neutral (exchange : Exchange WifiCalls) (hneutral : Neutral exchange.request) :
    handleEvent exchange = .keep := by
  obtain ⟨request, reply⟩ := exchange
  cases request with
  | popen => exact hneutral.elim
  | fgets => rfl
  | pclose => exact hneutral.elim
  | printf => rfl

variable {ε : Type}

/-- The search for a network only reads and prints. -/
theorem neutral_findNetwork (fp fuel : ℕ) :
    (findNetwork fp fuel : WifiProg ε (Option Bool)).AllCalls Neutral := by
  induction fuel with
  | zero => trivial
  | succ fuel ih =>
    refine ⟨trivial, fun line => ?_⟩
    cases line with
    | none => trivial
    | some buffer =>
      change (if showsNetwork buffer then _ else _ : WifiProg ε (Option Bool)).AllCalls Neutral
      split
      · exact ⟨trivial, fun _ => ⟨trivial, fun _ => trivial⟩⟩
      · exact ih

/-- So does the rest of the output. -/
theorem neutral_printRest (fp fuel : ℕ) :
    (printRest fp fuel : WifiProg ε (Option Unit)).AllCalls Neutral := by
  induction fuel with
  | zero => trivial
  | succ fuel ih =>
    refine ⟨trivial, fun line => ?_⟩
    cases line with
    | none => trivial
    | some buffer => exact ⟨trivial, fun _ => ih⟩

/-- So does the end of the test. -/
theorem neutral_finish (fp fuel : ℕ) (found : Option Bool) :
    (finish fp fuel found : WifiProg ε (Option ℤ)).AllCalls Neutral := by
  cases found with
  | none => trivial
  | some found =>
    cases found with
    | false => exact ⟨trivial, fun _ => trivial⟩
    | true => exact (neutral_printRest fp fuel).bind fun _ => trivial

/-- The stream of a successful `popen`. -/
def leftOpen : List (Exchange WifiCalls) → Multiset Handle
  | ⟨.popen _ _, some fp⟩ :: _ => {.stream fp}
  | _ => 0

/-- The test leaves its stream open, however it ends; there is none if `popen` fails. -/
theorem leaves_wifiTest (fuel : ℕ) {log : List (Exchange WifiCalls)} {result : Except ε (Option ℤ)}
    (hcourse : (wifiTest fuel).Course log result) :
    Leaves (log.map handleEvent) (leftOpen log) ∧
      (leftOpen log = 0 ↔ ∃ command mode, (⟨.popen command mode, none⟩ : Exchange WifiCalls) ∈ log) := by
  obtain ⟨stream, log, rfl, hcourse⟩ := hcourse
  cases stream with
  | none =>
    obtain ⟨_, log, rfl, rfl, -⟩ := hcourse
    exact ⟨rfl, iff_of_true rfl ⟨_, _, List.mem_cons_self⟩⟩
  | some fp =>
    have hneutral := ((neutral_findNetwork (ε := ε) fp fuel).bind (neutral_finish fp fuel)).of_mem_course hcourse
    constructor
    · change settle (log.map handleEvent) {.stream fp} = some {.stream fp}
      exact settle_map_of_keep
        (fun exchange hmem => handleEvent_of_neutral exchange (hneutral exchange hmem)) _
    · refine iff_of_false (Multiset.singleton_ne_zero _) fun hfailed => ?_
      obtain ⟨command, mode, hmem⟩ := hfailed
      rcases List.mem_cons.mp hmem with heq | hmem
      · cases heq
      · exact hneutral _ hmem

end Wifi

namespace I2c

/-- The setup acquires the descriptor of the device. -/
def handleEvent : Exchange I2cCalls → HandleEvent Handle
  | ⟨.wiringPiI2CSetupInterface _ _, fd⟩ => acquireDescriptor fd
  | _ => .keep

/-- The descriptor of a successful setup. -/
def leftOpen : List (Exchange I2cCalls) → Multiset Handle
  | ⟨.wiringPiI2CSetupInterface _ _, fd⟩ :: _ => {.descriptor fd}
  | _ => 0

/-- When the test returns, the descriptor of the device is open. -/
theorem leaves_i2cTest {log : List (Exchange I2cCalls)} {value : ℤ}
    (hcourse : i2cTest.Course log (.ok value)) : Leaves (log.map handleEvent) (leftOpen log) ∧ leftOpen log ≠ 0 := by
  rcases course_i2cTest hcourse with ⟨fd, hfd, -, hresult⟩ | ⟨fd, hfd, readValue, hread⟩
  · cases hresult
  · have hacquire : acquireDescriptor fd = .acquire (.descriptor fd) := if_neg (Int.not_lt.mpr hfd)
    have hopen : ∀ rest, (∀ exchange ∈ rest, handleEvent exchange = .keep) →
        Leaves ((⟨openCall, fd⟩ :: rest : List (Exchange I2cCalls)).map handleEvent) {.descriptor fd} := by
      intro rest hrest
      change settle (acquireDescriptor fd :: rest.map handleEvent) 0 = _
      rw [hacquire, settle_acquire]
      exact settle_map_of_keep hrest _
    rcases hread with ⟨-, -, rfl⟩ | ⟨-, -, rfl⟩
    · exact ⟨hopen _ (by simp [handleEvent]), Multiset.singleton_ne_zero _⟩
    · exact ⟨hopen _ (by simp [handleEvent]), Multiset.singleton_ne_zero _⟩

end I2c

namespace Ethernet

/-- `malloc` and `getifaddrs` acquire, `free` and `freeifaddrs` release. -/
def handleEvent : Exchange EthernetCalls → HandleEvent Handle
  | ⟨.malloc _, pointer⟩ => acquireSome Handle.buffer pointer
  | ⟨.free pointer, _⟩ => .release (.buffer pointer)
  | ⟨.getifaddrs, list⟩ => acquireSome (fun list : Ifaddrs => Handle.list list.pointer) list
  | ⟨.freeifaddrs pointer, _⟩ => .release (.list pointer)
  | _ => .keep

/-- A request that neither acquires nor releases. -/
def Neutral : EthernetCall → Prop
  | .malloc _ => False
  | .free _ => False
  | .getifaddrs => False
  | .freeifaddrs _ => False
  | _ => True

/-- A neutral call neither obtains nor releases anything. -/
theorem handleEvent_of_neutral (exchange : Exchange EthernetCalls) (hneutral : Neutral exchange.request) :
    handleEvent exchange = .keep := by
  obtain ⟨request, reply⟩ := exchange
  cases request with
  | malloc => exact hneutral.elim
  | free => exact hneutral.elim
  | getifaddrs => exact hneutral.elim
  | freeifaddrs => exact hneutral.elim
  | getnameinfo => rfl
  | system => rfl
  | perror => rfl
  | printf => rfl

/-- A program of neutral requests changes no handle. -/
theorem settle_neutral {α : Type} {program : EthernetProg Exit α} (hneutral : program.AllCalls Neutral)
    {log : List (Exchange EthernetCalls)} {result : Except Exit α} (hcourse : program.Course log result)
    (held : Multiset Handle) : settle (log.map handleEvent) held = some held :=
  settle_map_of_keep
    (fun exchange hmem => handleEvent_of_neutral exchange (hneutral.of_mem_course hcourse exchange hmem)) held

/-- Running a command is neutral. -/
theorem neutral_runCommand (command : String) (failure : EthernetLine) :
    (runCommand command failure : EthernetProg Exit Unit).AllCalls Neutral := by
  refine ⟨trivial, fun result => ?_⟩
  change (if result ≠ (0 : ℤ) then _ else _ : EthernetProg Exit Unit).AllCalls Neutral
  split
  · exact ⟨trivial, fun _ => trivial⟩
  · trivial

/-- A search that finds an address releases the list, and one that does not leaves it open. -/
theorem settle_searchInterfaces (ifaddr ip_address : ℕ) (entries : List Ifaddr)
    {log : List (Exchange EthernetCalls)} {found : Option String}
    (hcourse : (searchInterfaces ifaddr ip_address entries).Course log (.ok found)) (held : Multiset Handle) :
    settle (log.map handleEvent) (Handle.list ifaddr ::ₘ held) =
      some (if found.isSome then held else Handle.list ifaddr ::ₘ held) := by
  induction entries generalizing log with
  | nil =>
    obtain ⟨rfl, hfound⟩ := hcourse
    cases hfound
    rfl
  | cons ifa rest ih =>
    rcases course_searchInterfaces_cons hcourse with ⟨-, looked, later, rfl, hlooked, hlater⟩ |
      ⟨-, addr, named, rfl, rfl⟩
    · have hneutral : ∀ exchange ∈ looked, handleEvent exchange = .keep := by
        intro exchange hmem
        obtain ⟨addr, hrequest⟩ := hlooked exchange hmem
        refine handleEvent_of_neutral exchange ?_
        rw [hrequest]
        trivial
      rw [List.map_append, settle_append, settle_map_of_keep hneutral, Option.bind_some]
      exact ih hlater
    · change settle [.keep, .keep, .release (Handle.list ifaddr)] _ = _
      rw [settle_keep, settle_keep, settle_release]
      rfl

/-- The lookup leaves open the buffer of the address that it returns, and nothing else. -/
theorem settle_get_ip_address {log : List (Exchange EthernetCalls)} {found : Option IpAddress}
    (hcourse : get_ip_address.Course log (.ok found)) (held : Multiset Handle) :
    settle (log.map handleEvent) held =
      some (match found with
        | some ip => Handle.buffer ip.pointer ::ₘ held
        | none => held) := by
  obtain ⟨ip_address, ifaddr, text, first, last, rfl, hsearch, hgive⟩ := course_lookup hcourse
  have hsettle := settle_searchInterfaces _ _ _ hsearch (Handle.buffer ip_address ::ₘ held)
  rw [List.map_cons, List.map_cons, List.map_append]
  change settle (.acquire (Handle.buffer ip_address) :: .acquire (Handle.list ifaddr.pointer) :: _) held = _
  rw [settle_acquire, settle_acquire, settle_append, hsettle, Option.bind_some]
  cases text with
  | some text =>
    obtain ⟨rfl, hresult⟩ := hgive
    cases hresult
    rfl
  | none =>
    obtain ⟨_, last, rfl, _, last, rfl, rfl, hresult⟩ := hgive
    cases hresult
    change settle [.release (Handle.list ifaddr.pointer), .release (Handle.buffer ip_address)]
      (Handle.list ifaddr.pointer ::ₘ Handle.buffer ip_address ::ₘ held) = _
    rw [settle_release, settle_release]
    rfl

/-- A test that returns has released all that it acquired. -/
theorem leaves_EthernetTest {log : List (Exchange EthernetCalls)} {value : ℤ}
    (hcourse : EthernetTest.Course log (.ok value)) : Leaves (log.map handleEvent) 0 := by
  obtain ⟨checking, pinging, lookup, last, found, rfl, hchecking, hpinging, hlookup, hlast⟩ :=
    course_finished hcourse
  have hcheck : (check_network_interface : EthernetProg Exit Unit).AllCalls Neutral :=
    ⟨trivial, fun _ => neutral_runCommand _ _⟩
  have hping : (ping_test external_ip : EthernetProg Exit Unit).AllCalls Neutral :=
    ⟨trivial, fun _ => neutral_runCommand _ _⟩
  unfold Leaves
  simp only [List.map_append, settle_append, settle_neutral hcheck hchecking, Option.bind_some,
    settle_neutral hping hpinging, settle_get_ip_address hlookup]
  cases found with
  | some ip =>
    rw [finishTest, Prog.course_bind_ok] at hlast
    obtain ⟨_, measuring, last, rfl, hmeasuring, _, last, rfl, rfl, -⟩ := hlast
    have hiperf : (iperf_test ip.text : EthernetProg Exit Unit).AllCalls Neutral :=
      ⟨trivial, fun _ => neutral_runCommand _ _⟩
    rw [List.map_append, settle_append, settle_neutral hiperf hmeasuring, Option.bind_some]
    exact settle_release (Handle.buffer ip.pointer) [] 0
  | none =>
    obtain ⟨_, last, rfl, rfl, -⟩ := hlast
    rfl

end Ethernet

namespace Bluetooth

/-- The adapter, the buffer and the sockets are acquired; `close` releases. -/
def handleEvent : Exchange BluetoothCalls → HandleEvent Handle
  | ⟨.hci_open_dev _, sock⟩ => acquireDescriptor sock
  | ⟨.malloc _, pointer⟩ => acquireSome Handle.buffer pointer
  | ⟨.socket _ _ _, fd⟩ => acquireDescriptor fd
  | ⟨.close fd, _⟩ => releaseDescriptor fd
  | _ => .keep

/-- Every socket is closed in the iteration that opens it. -/
theorem restores_checkDevice (sock : ℤ) (ii : Inquiry) (connected_devices : ℤ) (i : ℕ)
    (log : List (Exchange BluetoothCalls)) (next : ℤ)
    (hcourse : (checkDevice sock ii connected_devices i : BluetoothProg Exit ℤ).Course log (.ok next)) :
    Restores (log.map handleEvent) := by
  obtain ⟨addr, log, rfl, read, log, rfl, fd, log, rfl, bdaddr, log, rfl, status, log, rfl, hcourse⟩ := hcourse
  change ℤ at fd
  change (reportDevice status addr _ connected_devices >>= fun next => close fd >>= fun _ => .ret next :
    BluetoothProg Exit ℤ).Course log _ at hcourse
  rw [Prog.course_bind_ok] at hcourse
  obtain ⟨counted, report, last, rfl, hreport, _, last, rfl, rfl, -⟩ := hcourse
  have hsilent : ∀ exchange ∈ report, handleEvent exchange = .keep := by
    rw [reportDevice] at hreport
    split at hreport
    · obtain ⟨_, report, rfl, _, report, rfl, _, report, rfl, rfl, -⟩ := hreport
      simp [handleEvent]
    · obtain ⟨rfl, -⟩ := hreport
      simp
  intro held
  simp only [List.map_cons, List.map_append, List.map_nil]
  change settle (.keep :: .keep :: acquireDescriptor fd :: .keep :: .keep ::
    (report.map handleEvent ++ [releaseDescriptor fd])) held = _
  rw [settle_keep, settle_keep]
  by_cases hfd : fd < 0
  · rw [acquireDescriptor, releaseDescriptor, if_pos hfd, if_pos hfd, settle_keep, settle_keep, settle_keep,
      settle_append, settle_map_of_keep hsilent, Option.bind_some, settle_keep]
    rfl
  · rw [acquireDescriptor, releaseDescriptor, if_neg hfd, if_neg hfd, settle_acquire, settle_keep,
      settle_keep, settle_append, settle_map_of_keep hsilent, Option.bind_some, settle_release]
    rfl

/-- The handles of the adapter and of the buffer. -/
def leftOpen : List (Exchange BluetoothCalls) → Multiset Handle
  | _ :: ⟨.hci_open_dev _, sock⟩ :: ⟨.malloc _, some pointer⟩ :: _ => {.buffer pointer, .descriptor sock}
  | _ :: ⟨.hci_open_dev _, sock⟩ :: ⟨.malloc _, none⟩ :: _ => {.descriptor sock}
  | _ => 0

/-- The scan of the devices found, with its verdict, leaves the open handles as they are. -/
theorem settle_scan {sock : ℤ} {ii : Inquiry} {log : List (Exchange BluetoothCalls)} {value : ℤ}
    (hcourse : ((List.range ii.num_rsp.toNat).foldlM (checkDevice sock ii) 0 >>= judge :
      BluetoothProg Exit ℤ).Course log (.ok value)) (held : Multiset Handle) :
    settle (log.map handleEvent) held = some held := by
  rw [Prog.course_bind_ok] at hcourse
  obtain ⟨connected_devices, loop, last, rfl, hloop, hlast⟩ := hcourse
  have hrestores : Restores (loop.map handleEvent) :=
    Prog.course_foldlM (P := fun log => Restores (log.map handleEvent)) (fun held => rfl)
      (fun first last hfirst hlast => by
        rw [List.map_append]
        exact hfirst.append hlast)
      (checkDevice sock ii) (restores_checkDevice sock ii) _ hloop
  have hsilent : ∀ exchange ∈ last, handleEvent exchange = .keep := by
    rw [judge] at hlast
    split at hlast
    · obtain ⟨_, last, rfl, rfl, -⟩ := hlast
      simp [handleEvent]
    · obtain ⟨rfl, -⟩ := hlast
      simp
  rw [List.map_append, settle_append, hrestores, Option.bind_some, settle_map_of_keep hsilent]

/-- A failed call to the adapter ends the program. -/
theorem aborts_perror (name : String) :
    (perror name >>= fun _ => Prog.exit 1 : BluetoothProg Exit ℤ).Aborts :=
  Prog.aborts_call fun _ => Prog.aborts_stop _

/-- When the test returns, the adapter is open and the buffer allocated. -/
theorem leaves_bluetoothTest {log : List (Exchange BluetoothCalls)} {value : ℤ}
    (hcourse : bluetoothTest.Course log (.ok value)) :
    Leaves (log.map handleEvent) (leftOpen log) ∧ leftOpen log ≠ 0 := by
  obtain ⟨dev_id, log, rfl, hcourse⟩ := hcourse
  change (if (dev_id : ℤ) < 0 then _ else _ : BluetoothProg Exit ℤ).Course log _ at hcourse
  replace hcourse := (Prog.course_ite_of_aborts (aborts_perror _) hcourse).2
  obtain ⟨sock, log, rfl, hcourse⟩ := hcourse
  change (if (sock : ℤ) < 0 then _ else _ : BluetoothProg Exit ℤ).Course log _ at hcourse
  have hsock := (Prog.course_ite_of_aborts (aborts_perror _) hcourse).1
  replace hcourse := (Prog.course_ite_of_aborts (aborts_perror _) hcourse).2
  obtain ⟨buffer, log, rfl, ii, log, rfl, hcourse⟩ := hcourse
  change (if (ii : Inquiry).num_rsp < 0 then _ else _ : BluetoothProg Exit ℤ).Course log _ at hcourse
  have hscan := (Prog.course_ite_of_aborts (aborts_perror _) hcourse).2
  have hacquire : acquireDescriptor sock = .acquire (.descriptor sock) := if_neg hsock
  unfold Leaves
  cases buffer with
  | none =>
    change settle (.keep :: acquireDescriptor sock :: .keep :: .keep :: log.map handleEvent) 0 = _ ∧ _
    rw [settle_keep, hacquire, settle_acquire, settle_keep, settle_keep, settle_scan hscan]
    exact ⟨rfl, Multiset.singleton_ne_zero _⟩
  | some pointer =>
    change settle (.keep :: acquireDescriptor sock :: .acquire (.buffer pointer) :: .keep ::
      log.map handleEvent) 0 = _ ∧ _
    rw [settle_keep, hacquire, settle_acquire, settle_acquire, settle_keep, settle_scan hscan]
    have hopen : Handle.buffer pointer ::ₘ {Handle.descriptor sock} ≠ 0 := Multiset.cons_ne_zero
    exact ⟨rfl, hopen⟩

end Bluetooth

/-- A call of one of the four tests that returns to its caller. -/
inductive HandleCall where
  | wifiTest (fuel : ℕ) (log : List (Exchange Wifi.WifiCalls)) (value : ℤ)
      (course : (Wifi.wifiTest fuel : Wifi.WifiProg Exit (Option ℤ)).Course log (.ok (some value)))
  | EthernetTest (call : Prog.Returned Ethernet.EthernetTest)
  | bluetoothTest (call : Prog.Returned Bluetooth.bluetoothTest)
  | i2cTest (call : Prog.Returned I2c.i2cTest)

/-- What a call does to the open handles, in order. -/
def HandleCall.events : HandleCall → List (HandleEvent Handle)
  | wifiTest _ log _ _ => log.map Wifi.handleEvent
  | EthernetTest call => call.log.map Ethernet.handleEvent
  | bluetoothTest call => call.log.map Bluetooth.handleEvent
  | i2cTest call => call.log.map I2c.handleEvent

/-- What a call leaves open. -/
def HandleCall.leftOpen : HandleCall → Multiset Handle
  | wifiTest _ log _ _ => Wifi.leftOpen log
  | EthernetTest _ => 0
  | bluetoothTest call => Bluetooth.leftOpen call.log
  | i2cTest call => I2c.leftOpen call.log

/-- The calls that leave nothing open: those of `EthernetTest`, and those of `wifiTest` for which
`popen` fails. -/
def HandleCall.LeavesNothing : HandleCall → Prop
  | wifiTest _ log _ _ => ∃ command mode, (⟨.popen command mode, none⟩ : Exchange Wifi.WifiCalls) ∈ log
  | EthernetTest _ => True
  | bluetoothTest _ => False
  | i2cTest _ => False

/-- Every call releases only what it acquires, and leaves the rest of it open. -/
theorem leaves_leftOpen (call : HandleCall) : Leaves call.events call.leftOpen := by
  cases call with
  | wifiTest fuel log value course => exact (Wifi.leaves_wifiTest fuel course).1
  | EthernetTest call => exact Ethernet.leaves_EthernetTest call.course
  | bluetoothTest call => exact (Bluetooth.leaves_bluetoothTest call.course).1
  | i2cTest call => exact (I2c.leaves_i2cTest call.course).1

/-- What is left open is nothing for the calls named. -/
theorem leftOpen_eq_zero_iff (call : HandleCall) : call.leftOpen = 0 ↔ call.LeavesNothing := by
  cases call with
  | wifiTest fuel log value course => exact (Wifi.leaves_wifiTest fuel course).2
  | EthernetTest call => exact iff_of_true rfl trivial
  | bluetoothTest call => exact iff_of_false (Bluetooth.leaves_bluetoothTest call.course).2 id
  | i2cTest call => exact iff_of_false (I2c.leaves_i2cTest call.course).2 id

/-- For every outcome of the external calls: a call that returns restores the open handles if
and only if it is one of `EthernetTest`, or one of `wifiTest` for which `popen` fails. Any number
of calls restore them if and only if all of them are such calls. -/
theorem handles_restored_iff (call : HandleCall) (calls : List HandleCall) :
    (Restores call.events ↔ call.LeavesNothing) ∧
      (Restores (calls.flatMap HandleCall.events) ↔ ∀ call ∈ calls, call.LeavesNothing) := by
  constructor
  · rw [(leaves_leftOpen call).restores_iff, leftOpen_eq_zero_iff]
  · rw [restores_flatMap_iff _ _ leaves_leftOpen]
    exact forall₂_congr fun call _ => leftOpen_eq_zero_iff call

/-- A call of `i2cTest` that reads the value 5 through descriptor 3. -/
def readFive : Prog.Returned I2c.i2cTest where
  log := [⟨I2c.openCall, (3 : ℤ)⟩, ⟨.wiringPiI2CRead 3, (5 : ℤ)⟩, ⟨.printf (.value 5), ()⟩,
    ⟨.printf .readSuccess, ()⟩]
  value := 1
  course := ⟨3, _, rfl, 5, _, rfl, (), _, rfl, (), _, rfl, rfl, rfl⟩

/-- A call of `i2cTest` that reads a value leaves its descriptor open. -/
theorem descriptor_left_open :
    ¬∀ calls : List HandleCall, Restores (calls.flatMap HandleCall.events) := by
  intro hall
  have hrestores := hall [.i2cTest readFive] 0
  revert hrestores
  decide

end Maestro.Combine
