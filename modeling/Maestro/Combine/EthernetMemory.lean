import Maestro.Combine.EthernetTest
import Maestro.Effect.Protocol

/-!
# The buffer and the list of the Ethernet tests

`get_ip_address` writes addresses to a buffer while it goes through the list of interfaces, and hands the
buffer to its caller. A protocol follows the two blocks, what is in the buffer, and the lookups. `main` of
`ExampleCode/EthernetTest.c` and `EthernetTest` of `CombineCode` keep it in every run: nothing is used or
released that is not there any more, and `iperf3` is run on the address of the first wanted interface,
while that is still in the buffer. Without such an interface the search has gone through the whole list.
-/

namespace Maestro.Combine.Ethernet

open Effect

/-- What follows the lookup of the address in `EthernetTest.c`. -/
def finishMain : Option IpAddress → EthernetProg Exit ℤ
  | some raspberry_pi_ip => do
    iperf_test raspberry_pi_ip.text
    free raspberry_pi_ip.pointer
    return 0
  | none => do
    printf .noAddress
    return 0

/-- `main` of `EthernetTest.c`; its other functions are those of `CombineCode`, with lines that have no
colours. -/
def main : EthernetProg Exit ℤ := do
  check_network_interface
  ping_test external_ip
  let raspberry_pi_ip ← get_ip_address
  finishMain raspberry_pi_ip

/-- The lines of `EthernetTest.c`. -/
def EthernetLine.plainText (gai_strerror : ℤ → String) : EthernetLine → String
  | nameFailed status => "getnameinfo() failed: " ++ gai_strerror status ++ "\n"
  | interface name address => "Interface: " ++ name ++ "\tAddress: " ++ address ++ "\n"
  | checking => "Checking network interface with ifconfig...\n"
  | ifconfigFailed => "Failed to execute ifconfig.\n"
  | pinging ip => "Pinging " ++ ip ++ "...\n"
  | pingFailed => "Ping test failed.\n"
  | testing ip => "Testing network speed with iperf3 to server " ++ ip ++ "...\n"
  | iperfFailed => "iperf3 test failed.\n"
  | noAddress => "Failed to retrieve Raspberry Pi IP address.\n"

/-- A buffer, and the address in it. -/
structure Buffer where
  pointer : ℕ
  text : Option String

/-- The blocks that are there, the commands that were run, the entries of the list, the addresses that
were looked up with their results, and whether a call on the way has failed. -/
structure Memory where
  buffer : Option Buffer
  list : Option Ifaddrs
  commands : List String
  entries : Option (List Ifaddr)
  named : List (SockAddr × ℤ × String)
  failed : Bool

/-- The commands that need no address. -/
def plainCommands : List String := ["ifconfig eth0", snprintf 256 ("ping -c 4 " ++ external_ip)]

/-- The command for an address, cut to the buffer. -/
def iperfCommand (address : String) : String := snprintf 256 ("iperf3 -c " ++ address)

/-- The address is in the buffer. -/
def Memory.Holds (m : Memory) (address : String) : Prop := ∃ pointer, m.buffer = some ⟨pointer, some address⟩

/-- The list has such an entry. -/
def Memory.Lists (m : Memory) (entry : Ifaddr → Prop) : Prop :=
  ∃ ifaddr, m.list = some ifaddr ∧ ∃ ifa ∈ ifaddr.entries, entry ifa

/-- Entries are looked up and named only while the list is there, addresses are written to the buffer and used
only while the buffer is there, and neither is made twice or released twice. -/
def memory : Protocol EthernetCalls Memory where
  next m exchange :=
    match exchange with
    | ⟨.malloc _, some pointer⟩ => { m with buffer := some ⟨pointer, none⟩ }
    | ⟨.malloc _, none⟩ => { m with failed := true }
    | ⟨.free _, _⟩ => { m with buffer := none }
    | ⟨.getifaddrs, some ifaddr⟩ => { m with list := some ifaddr, entries := some ifaddr.entries }
    | ⟨.getifaddrs, none⟩ => { m with failed := true }
    | ⟨.freeifaddrs _, _⟩ => { m with list := none }
    | ⟨.getnameinfo addr _, named⟩ =>
      { m with
        buffer := m.buffer.map fun b => ⟨b.pointer, if named.1 = 0 then some named.2 else none⟩
        named := m.named ++ [(addr, named)]
        failed := m.failed || decide (named.1 ≠ 0) }
    | ⟨.system command, _⟩ => { m with commands := m.commands ++ [command] }
    | _ => m
  Allows m exchange :=
    match exchange.request with
    | .malloc _ => m.buffer = none
    | .free pointer => ∃ text, m.buffer = some ⟨pointer, text⟩
    | .getifaddrs => m.list = none
    | .freeifaddrs pointer => ∃ ifaddr, m.list = some ifaddr ∧ ifaddr.pointer = pointer
    | .getnameinfo addr host =>
      (∃ text, m.buffer = some ⟨host, text⟩) ∧ m.Lists fun ifa => ifa.ifa_addr = some addr
    | .printf (.interface name address) => m.Holds address ∧ m.Lists fun ifa => ifa.ifa_name = name
    | .printf (.testing address) => m.Holds address
    | .system command => command ∈ plainCommands ∨ ∃ address, m.Holds address ∧ command = iperfCommand address
    | _ => True

/-- The start. -/
def nothing : Memory := ⟨none, none, [], none, [], false⟩

/-- The IPv4 address of an entry. -/
def ipv4 (ifa : Ifaddr) : Option SockAddr := ifa.ifa_addr.filter fun addr => addr.sa_family == AF_INET

/-- The search has passed these entries: there is no target among them, and their IPv4 addresses have been
looked up, one after the other. -/
structure Passed (past : List Ifaddr) (named : List (SockAddr × ℤ × String)) : Prop where
  others : ∀ ifa ∈ past, isTarget ifa = false
  inOrder : named.map Prod.fst = past.filterMap ipv4

/-- The search has ended at the first target, whose address has this text. -/
structure Found (m : Memory) (address : String) : Prop where
  ended : ∃ past ifa rest addr named, m.entries = some (past ++ ifa :: rest) ∧ Passed past named ∧
    isTarget ifa = true ∧ ifa.ifa_addr = some addr ∧ m.named = named ++ [(addr, 0, address)]

/-- The search has passed the whole list. -/
structure Missed (m : Memory) : Prop where
  passed : ∃ entries, m.entries = some entries ∧ Passed entries m.named

/-- The end of a run that returns: no call on the way has failed and nothing is left. `iperf3` was run on
the address of the first target if there is one, and else the whole list was searched. -/
structure Finished (tested missed value : ℤ) (m : Memory) : Prop where
  buffer : m.buffer = none
  list : m.list = none
  failed : m.failed = false
  searched : (value = tested ∧ ∃ address, Found m address ∧ m.commands = plainCommands ++ [iperfCommand address]) ∨
    value = missed ∧ Missed m ∧ m.commands = plainCommands

/-- The end of the other runs: a call has failed, the list is released, and the buffer is released or has
never been used. -/
structure Abandoned (reason : Exit) (m : Memory) : Prop where
  reason : reason = ⟨EXIT_FAILURE⟩
  failed : m.failed = true
  list : m.list = none
  buffer : ∀ buffer ∈ m.buffer, buffer.text = none
  commands : m.commands = plainCommands

section Lookup

variable {ip_address : ℕ} {ifaddr : Ifaddrs} {text : Option String} {commands : List String}
  {named : List (SockAddr × ℤ × String)}

/-- An entry without an IPv4 address is passed without a lookup. -/
theorem Passed.skip {past : List Ifaddr} {ifa : Ifaddr} (hpassed : Passed past named) (hipv4 : ipv4 ifa = none) :
    Passed (past ++ [ifa]) named := by
  have hany : (ifa.ifa_addr.any fun addr => addr.sa_family == AF_INET) = false := by
    rw [ipv4] at hipv4
    cases haddr : ifa.ifa_addr with
    | none => rfl
    | some addr =>
      rw [haddr] at hipv4
      exact Bool.eq_false_iff.mpr (Option.filter_eq_none_iff.mp hipv4 addr rfl)
  refine ⟨fun other hother => ?_, ?_⟩
  · rcases List.mem_append.mp hother with hold | hnew
    · exact hpassed.others other hold
    · rw [List.mem_singleton.mp hnew, isTarget, hany, Bool.and_false]
  · rw [hpassed.inOrder, List.filterMap_append, List.filterMap_cons_none hipv4, List.filterMap_nil, List.append_nil]

/-- An entry whose address is not wanted is passed with its lookup. -/
theorem Passed.lookup {past : List Ifaddr} {ifa : Ifaddr} {addr : SockAddr} (hpassed : Passed past named)
    (hipv4 : ipv4 ifa = some addr) (hwanted : isWanted ifa.ifa_name = false) (result : ℤ × String) :
    Passed (past ++ [ifa]) (named ++ [(addr, result)]) := by
  refine ⟨fun other hother => ?_, ?_⟩
  · rcases List.mem_append.mp hother with hold | hnew
    · exact hpassed.others other hold
    · rw [List.mem_singleton.mp hnew, isTarget, hwanted, Bool.false_and]
  · rw [List.map_append, hpassed.inOrder, List.filterMap_append, List.filterMap_cons_some hipv4, List.filterMap_nil]
    rfl

/-- The search looks up the entries that are left while buffer and list are both there. It ends at the first
target, whose address is then in the buffer, or it passes them all. -/
theorem meets_searchInterfaces {past entries : List Ifaddr} (hentries : ifaddr.entries = past ++ entries)
    (hpassed : Passed past named) :
    (searchInterfaces ifaddr.pointer ip_address entries).Meets memory
      (fun found m => m.commands = commands ∧ m.failed = false ∧
        found.elim (m.list = some ifaddr ∧ Missed m ∧ ∃ text, m.buffer = some ⟨ip_address, text⟩)
          fun address => m.list = none ∧ Found m address ∧ m.buffer = some ⟨ip_address, some address⟩)
      (fun reason m => reason = ⟨EXIT_FAILURE⟩ ∧ m.failed = true ∧ m.list = none ∧ m.buffer = none ∧
        m.commands = commands)
      ⟨some ⟨ip_address, text⟩, some ifaddr, commands, some ifaddr.entries, named, false⟩ := by
  induction entries generalizing past named text with
  | nil =>
    rw [List.append_nil] at hentries
    exact ⟨rfl, rfl, rfl, ⟨ifaddr.entries, rfl, hentries ▸ hpassed⟩, text, rfl⟩
  | cons ifa rest ih =>
    have hnext : ifaddr.entries = past ++ [ifa] ++ rest := by
      rw [hentries, List.append_assoc]
      rfl
    have hmem : ifa ∈ ifaddr.entries := by
      rw [hentries]
      exact List.mem_append_right _ List.mem_cons_self
    rw [searchInterfaces]
    cases haddr : ifa.ifa_addr with
    | none => exact ih hnext (hpassed.skip (by rw [ipv4, haddr]; rfl))
    | some addr =>
      dsimp only
      by_cases hfamily : addr.sa_family = AF_INET
      · have hipv4 : ipv4 ifa = some addr := by
          rw [ipv4, haddr, Option.filter_some, if_pos (beq_iff_eq.mpr hfamily)]
        rw [if_pos hfamily]
        intro (result : ℤ × String)
        refine ⟨⟨⟨text, rfl⟩, ifaddr, rfl, ifa, hmem, haddr⟩, ?_⟩
        change (if result.1 ≠ 0 then _ else _ : EthernetProg Exit (Option String)).Meets memory _ _
          ⟨some ⟨ip_address, if result.1 = 0 then some result.2 else none⟩, some ifaddr, commands,
            some ifaddr.entries, named ++ [(addr, result)], false || decide (result.1 ≠ 0)⟩
        by_cases hnamed : result.1 ≠ 0
        · rw [if_pos hnamed, decide_eq_true hnamed]
          exact fun _ => ⟨trivial, fun _ => ⟨⟨ifaddr, rfl, rfl⟩, fun _ => ⟨⟨_, rfl⟩, rfl, rfl, rfl, rfl, rfl⟩⟩⟩
        · have hzero : result.1 = 0 := not_not.mp hnamed
          rw [if_neg hnamed, if_pos hzero, decide_eq_false hnamed]
          by_cases hwanted : isWanted ifa.ifa_name = true
          · rw [if_pos hwanted]
            have htarget : isTarget ifa = true := by
              rw [isTarget, hwanted, haddr, Option.any_some, hfamily]
              rfl
            have hfound : Found ⟨some ⟨ip_address, some result.2⟩, none, commands, some ifaddr.entries,
                named ++ [(addr, result)], false⟩ result.2 :=
              ⟨past, ifa, rest, addr, named, congrArg some hentries, hpassed, htarget, haddr, by rw [← hzero]⟩
            exact fun _ => ⟨⟨⟨ip_address, rfl⟩, ifaddr, rfl, ifa, hmem, rfl⟩, fun _ =>
              ⟨⟨ifaddr, rfl, rfl⟩, rfl, rfl, rfl, hfound, rfl⟩⟩
          · rw [if_neg hwanted]
            exact ih hnext (hpassed.lookup hipv4 (Bool.eq_false_iff.mpr hwanted) result)
      · have hipv4 : ipv4 ifa = none := by
          rw [ipv4, haddr, Option.filter_some, if_neg fun h => hfamily (beq_iff_eq.mp h)]
        rw [if_neg hfamily]
        exact ih hnext (hpassed.skip hipv4)

/-- What the lookup leaves: the buffer with the address that it returns, and nothing else. -/
structure Looked (found : Option IpAddress) (m : Memory) : Prop where
  buffer : m.buffer = found.map fun ip => ⟨ip.pointer, some ip.text⟩
  list : m.list = none
  commands : m.commands = plainCommands
  failed : m.failed = false
  searched : found.elim (Missed m) fun ip => Found m ip.text

/-- The lookup leaves nothing but the buffer with the address that it returns. -/
theorem meets_get_ip_address :
    get_ip_address.Meets memory Looked Abandoned ⟨none, none, plainCommands, none, [], false⟩ := by
  intro buffer
  refine ⟨rfl, ?_⟩
  cases buffer with
  | none => exact fun _ => ⟨trivial, rfl, rfl, rfl, nofun, rfl⟩
  | some ip_address =>
    intro list
    refine ⟨rfl, ?_⟩
    cases list with
    | none =>
      refine fun _ => ⟨trivial, rfl, rfl, rfl, fun buffer hbuffer => ?_, rfl⟩
      cases hbuffer
      rfl
    | some ifaddr =>
      change (searchInterfaces ifaddr.pointer ip_address ifaddr.entries >>= _).Meets memory _ _
        ⟨some ⟨ip_address, none⟩, some ifaddr, plainCommands, some ifaddr.entries, [], false⟩
      have hstart : Passed [] [] := ⟨nofun, rfl⟩
      refine Prog.Meets.bind ((meets_searchInterfaces (List.nil_append _).symm hstart).mono (fun _ _ => id)
        fun reason m hm => ?_) fun found m hfound => ?_
      · obtain ⟨hreason, hfailed, hlist, hbuffer, hcommands⟩ := hm
        exact ⟨hreason, hfailed, hlist, by rw [hbuffer]; exact nofun, hcommands⟩
      · cases found with
        | none =>
          obtain ⟨hcommands, hfailed, hlist, hmissed, text, hbuffer⟩ := hfound
          exact fun _ => ⟨⟨ifaddr, hlist, rfl⟩, fun _ =>
            ⟨⟨text, hbuffer⟩, ⟨rfl, rfl, hcommands, hfailed, ⟨hmissed.passed⟩⟩⟩⟩
        | some address =>
          obtain ⟨hcommands, hfailed, hlist, hfound, hbuffer⟩ := hfound
          exact ⟨hbuffer, hlist, hcommands, hfailed, hfound⟩

/-- A command that may be run is run, and nothing else changes. -/
theorem meets_runCommand {ε : Type} {command : String} {failure : EthernetLine} {m : Memory}
    (hallowed : command ∈ plainCommands ∨ ∃ address, m.Holds address ∧ command = iperfCommand address)
    (hfailure : failure ∈ [.ifconfigFailed, .pingFailed, .iperfFailed]) {stopped : ε → Memory → Prop} :
    (runCommand command failure).Meets memory (fun _ m' => m' = { m with commands := m.commands ++ [command] })
      stopped m := by
  intro (result : ℤ)
  refine ⟨hallowed, ?_⟩
  change (if result ≠ 0 then _ else _ : EthernetProg ε Unit).Meets memory _ _
    { m with commands := m.commands ++ [command] }
  split
  · refine fun _ => ⟨?_, rfl⟩
    simp only [List.mem_cons, List.not_mem_nil, or_false] at hfailure
    rcases hfailure with rfl | rfl | rfl <;> trivial
  · rfl

end Lookup

section Whole

/-- An address that is in the buffer is used, and then the buffer is released. -/
theorem meets_use {ip : IpAddress} {value missed : ℤ} {m : Memory} (hlooked : Looked (some ip) m) :
    (iperf_test ip.text >>= fun _ => free ip.pointer >>= fun _ => Prog.ret value : EthernetProg Exit ℤ).Meets memory
      (Finished value missed) Abandoned m := by
  have hholds : m.Holds ip.text := ⟨ip.pointer, hlooked.buffer⟩
  have hiperf : (iperf_test ip.text : EthernetProg Exit Unit).Meets memory
      (fun _ m' => m' = { m with commands := m.commands ++ [iperfCommand ip.text] }) Abandoned m :=
    fun _ => ⟨hholds, meets_runCommand (.inr ⟨ip.text, hholds, rfl⟩)
      (List.mem_cons_of_mem _ (List.mem_cons_of_mem _ List.mem_cons_self))⟩
  refine hiperf.bind fun _ m' hm => ?_
  rw [hm, hlooked.commands]
  have hfound : Found m ip.text := hlooked.searched
  exact fun _ => ⟨⟨_, hlooked.buffer⟩, ⟨rfl, hlooked.list, hlooked.failed, .inl ⟨rfl, ip.text, ⟨hfound.ended⟩, rfl⟩⟩⟩

/-- Without an address nothing is left to do. -/
theorem meets_giveUp {tested missed : ℤ} {m : Memory} (hlooked : Looked none m) :
    (printf .noAddress >>= fun _ => Prog.ret missed : EthernetProg Exit ℤ).Meets memory (Finished tested missed)
      Abandoned m :=
  fun _ => ⟨trivial, hlooked.buffer, hlooked.list, hlooked.failed, .inr ⟨rfl, hlooked.searched, hlooked.commands⟩⟩

/-- Both programs run the two plain commands, look the address up, and go on with what was found. -/
theorem meets_whole {finish : Option IpAddress → EthernetProg Exit ℤ} {post : ℤ → Memory → Prop}
    (hfinish : ∀ found m, Looked found m → (finish found).Meets memory post Abandoned m) :
    (check_network_interface >>= fun _ => ping_test external_ip >>= fun _ => get_ip_address >>= finish).Meets
      memory post Abandoned nothing := by
  have hcheck : (check_network_interface : EthernetProg Exit Unit).Meets memory
      (fun _ m => m = ⟨none, none, ["ifconfig eth0"], none, [], false⟩) Abandoned nothing :=
    fun _ => ⟨trivial, meets_runCommand (.inl List.mem_cons_self) List.mem_cons_self⟩
  have hping : (ping_test external_ip : EthernetProg Exit Unit).Meets memory
      (fun _ m => m = ⟨none, none, plainCommands, none, [], false⟩) Abandoned
      ⟨none, none, ["ifconfig eth0"], none, [], false⟩ :=
    fun _ => ⟨trivial, meets_runCommand (.inl (List.mem_cons_of_mem _ List.mem_cons_self))
      (List.mem_cons_of_mem _ List.mem_cons_self)⟩
  refine hcheck.bind fun _ m hm => ?_
  rw [hm]
  refine hping.bind fun _ m hm => ?_
  rw [hm]
  exact meets_get_ip_address.bind hfinish

/-- `main` keeps the rules. -/
theorem meets_main : main.Meets memory (Finished 0 0) Abandoned nothing := by
  refine meets_whole fun found m hlooked => ?_
  cases found with
  | none => exact meets_giveUp hlooked
  | some ip => exact meets_use hlooked

/-- So does the test of `CombineCode`. -/
theorem meets_EthernetTest : EthernetTest.Meets memory (Finished 1 0) Abandoned nothing := by
  refine meets_whole fun found m hlooked => ?_
  cases found with
  | none => exact meets_giveUp hlooked
  | some ip => exact meets_use hlooked

/-- A run of a program, whatever its calls return. -/
structure Run (program : EthernetProg Exit ℤ) where
  log : List (Exchange EthernetCalls)
  result : Except Exit ℤ
  course : program.Course log result

/-- In every run of both programs the blocks are used while they are there and released once, and a run
that returns leaves nothing. It has run `iperf3` on the address of the first wanted interface with an
IPv4 address, which was still in the buffer, or there is none and the whole list was searched. The other
runs end with a failed call. -/
theorem memory_kept (whole : Run main) (test : Run EthernetTest) :
    (memory.Keeps nothing whole.log ∧ Ends (Finished 0 0) Abandoned whole.result (memory.after nothing whole.log)) ∧
      memory.Keeps nothing test.log ∧ Ends (Finished 1 0) Abandoned test.result (memory.after nothing test.log) :=
  ⟨meets_main.of_course whole.course, meets_EthernetTest.of_course test.course⟩

end Whole

end Maestro.Combine.Ethernet
