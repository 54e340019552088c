import Maestro.Combine.EthernetTest
import Maestro.Combine.I2cTest

/-!
# The sub-checks behind a verdict

`EthernetTest` runs three commands whose status it only prints, and `i2cTest` returns before
its write. The main result says for which outcomes of the external calls a verdict of 1 still
means that every sub-check was made and passed.
-/

namespace Maestro.Combine

open Effect

namespace Ethernet

/-- The commands that were run, in order, with their status. -/
def commands (log : List (Exchange EthernetCalls)) : List (String × ℤ) :=
  log.filterMap fun exchange =>
    match exchange with
    | ⟨.system command, result⟩ => some (command, result)
    | _ => none

/-- The commands of two logs, one after the other. -/
theorem commands_append (first last : List (Exchange EthernetCalls)) :
    commands (first ++ last) = commands first ++ commands last :=
  List.filterMap_append

/-- The interface list has an entry whose address is to be used. -/
def TargetListed (log : List (Exchange EthernetCalls)) : Prop :=
  ∃ list, (⟨.getifaddrs, some list⟩ : Exchange EthernetCalls) ∈ log ∧ ∃ ifa ∈ list.entries, isTarget ifa = true

/-- A target is listed in one of two logs. -/
theorem targetListed_append (first last : List (Exchange EthernetCalls)) :
    TargetListed (first ++ last) ↔ TargetListed first ∨ TargetListed last := by
  unfold TargetListed
  simp only [List.mem_append, or_and_right, exists_or]

/-- All three commands were run, and exited with status 0. -/
def AllPassed (log : List (Exchange EthernetCalls)) : Prop :=
  ∃ ip, commands log = [("ifconfig eth0", 0), (snprintf 256 ("ping -c 4 " ++ external_ip), 0),
    (snprintf 256 ("iperf3 -c " ++ ip), 0)]

/-- A request that neither runs a command nor asks for the interfaces. -/
def Quiet : EthernetCall → Prop
  | .system _ => False
  | .getifaddrs => False
  | _ => True

/-- Quiet requests run no command and list no interface. -/
theorem commands_of_quiet {α : Type} {program : EthernetProg Exit α} (hquiet : program.AllCalls Quiet)
    {log : List (Exchange EthernetCalls)} {result : Except Exit α} (hcourse : program.Course log result) :
    commands log = [] ∧ ∀ list, (⟨.getifaddrs, list⟩ : Exchange EthernetCalls) ∉ log := by
  have hall := hquiet.of_mem_course hcourse
  constructor
  · refine List.filterMap_eq_nil_iff.mpr fun exchange hmem => ?_
    have hexchange := hall exchange hmem
    obtain ⟨request, reply⟩ := exchange
    cases request with
    | system => exact hexchange.elim
    | _ => rfl
  · intro list hmem
    exact hall _ hmem

/-- A search that returns finds an address exactly if an entry has one to be used. -/
theorem found_searchInterfaces (ifaddr ip_address : ℕ) (entries : List Ifaddr)
    {log : List (Exchange EthernetCalls)} {found : Option String}
    (hcourse : (searchInterfaces ifaddr ip_address entries).Course log (.ok found)) :
    found.isSome = entries.any isTarget := by
  induction entries generalizing log with
  | nil =>
    obtain ⟨-, hfound⟩ := hcourse
    cases hfound
    rfl
  | cons ifa rest ih =>
    rw [List.any_cons]
    rcases course_searchInterfaces_cons hcourse with ⟨hother, _, later, -, -, hlater⟩ |
      ⟨htarget, addr, named, -, rfl⟩
    · rw [hother, Bool.false_or]
      exact ih hlater
    · rw [htarget, Bool.true_or]
      rfl

/-- The search runs no command. -/
theorem quiet_searchInterfaces (ifaddr ip_address : ℕ) (entries : List Ifaddr) :
    (searchInterfaces ifaddr ip_address entries).AllCalls Quiet := by
  induction entries with
  | nil => trivial
  | cons ifa rest ih =>
    rw [searchInterfaces]
    split
    · exact ih
    · split
      · refine ⟨trivial, fun named => ?_⟩
        change (if named.1 ≠ 0 then _ else _ : EthernetProg Exit (Option String)).AllCalls Quiet
        split
        · exact ⟨trivial, fun _ => ⟨trivial, fun _ => ⟨trivial, fun _ => trivial⟩⟩⟩
        · split
          · exact ⟨trivial, fun _ => ⟨trivial, fun _ => trivial⟩⟩
          · exact ih
      · exact ih

/-- An address is listed exactly if an entry of the list has one to be used. -/
theorem targetListed_cons {pointer : Option ℕ} {ifaddr : Ifaddrs} {log : List (Exchange EthernetCalls)}
    (hlist : ∀ list, (⟨.getifaddrs, list⟩ : Exchange EthernetCalls) ∉ log) :
    TargetListed (⟨.malloc NI_MAXHOST, pointer⟩ :: ⟨.getifaddrs, some ifaddr⟩ :: log) ↔
      ifaddr.entries.any isTarget = true := by
  rw [List.any_eq_true]
  constructor
  · intro hsome
    obtain ⟨list, hmem, htarget⟩ := hsome
    have hlater := Exchange.mem_of_request_ne (by simp) hmem
    rcases List.mem_cons.mp hlater with heq | hmem
    · cases heq
      exact htarget
    · exact absurd hmem (hlist _)
  · intro htarget
    exact ⟨ifaddr, List.mem_cons_of_mem _ List.mem_cons_self, htarget⟩

/-- The lookup runs no command, and returns an address exactly if one is listed. -/
theorem course_get_ip_address {log : List (Exchange EthernetCalls)} {found : Option IpAddress}
    (hcourse : get_ip_address.Course log (.ok found)) :
    commands log = [] ∧ (TargetListed log ↔ found.isSome = true) := by
  obtain ⟨ip_address, ifaddr, text, first, last, rfl, hsearch, hgive⟩ := course_lookup hcourse
  have hquiet : (giveAddress ifaddr.pointer ip_address text).AllCalls Quiet := by
    cases text with
    | none => exact ⟨trivial, fun _ => ⟨trivial, fun _ => trivial⟩⟩
    | some text => trivial
  obtain ⟨hfirst, hnoFirst⟩ := commands_of_quiet (quiet_searchInterfaces _ _ _) hsearch
  obtain ⟨hlast, hnoLast⟩ := commands_of_quiet hquiet hgive
  have hlist : ∀ list, (⟨.getifaddrs, list⟩ : Exchange EthernetCalls) ∉ first ++ last := by
    intro list hmem
    rcases List.mem_append.mp hmem with hmem | hmem
    · exact hnoFirst list hmem
    · exact hnoLast list hmem
  constructor
  · change commands (first ++ last) = []
    rw [commands_append, hfirst, hlast]
    rfl
  · rw [targetListed_cons hlist, ← found_searchInterfaces _ _ _ hsearch]
    cases text with
    | none =>
      obtain ⟨_, last, rfl, _, last, rfl, -, hresult⟩ := hgive
      cases hresult
      rfl
    | some text =>
      obtain ⟨-, hresult⟩ := hgive
      cases hresult
      rfl

/-- A sub-check runs its command and lists no interface. -/
theorem course_runCommand {command : String} {failure : EthernetLine} {log : List (Exchange EthernetCalls)}
    {result : Except Exit Unit}
    (hcourse : (runCommand command failure : EthernetProg Exit Unit).Course log result) :
    ∃ status, commands log = [(command, status)] ∧ ¬TargetListed log := by
  obtain ⟨status, log, rfl, hcourse⟩ := hcourse
  change ℤ at status
  have hquiet : (if status ≠ 0 then printf failure else return () : EthernetProg Exit Unit).AllCalls Quiet := by
    split
    · exact ⟨trivial, fun _ => trivial⟩
    · trivial
  obtain ⟨hnone, hlist⟩ := commands_of_quiet hquiet hcourse
  refine ⟨status, congrArg (List.cons (command, status)) hnone, fun hlisted => ?_⟩
  obtain ⟨list, hmem, -⟩ := hlisted
  exact hlist _ (Exchange.mem_of_request_ne (by simp) hmem)

/-- A printed line before a sub-check is no command. -/
theorem course_printed {line : EthernetLine} {command : String} {failure : EthernetLine}
    {log : List (Exchange EthernetCalls)} {result : Except Exit Unit}
    (hcourse : (printf line >>= fun _ => runCommand command failure : EthernetProg Exit Unit).Course log result) :
    ∃ status, commands log = [(command, status)] ∧ ¬TargetListed log := by
  obtain ⟨_, log, rfl, hcourse⟩ := hcourse
  obtain ⟨status, hcommands, hlist⟩ := course_runCommand hcourse
  refine ⟨status, hcommands, fun hlisted => hlist ?_⟩
  obtain ⟨list, hmem, htarget⟩ := hlisted
  exact ⟨list, Exchange.mem_of_request_ne (by simp) hmem, htarget⟩

/-- The commands and the value of a test that returns: with an address the third command is run
and the value is 1, whatever the statuses are. -/
theorem course_EthernetTest {log : List (Exchange EthernetCalls)} {value : ℤ}
    (hcourse : EthernetTest.Course log (.ok value)) :
    ∃ ifconfig ping : ℤ,
      (TargetListed log ∧ value = 1 ∧ ∃ ip iperf, commands log = [("ifconfig eth0", ifconfig),
        (snprintf 256 ("ping -c 4 " ++ external_ip), ping), (snprintf 256 ("iperf3 -c " ++ ip), iperf)]) ∨
      (¬TargetListed log ∧ value = 0) := by
  obtain ⟨checking, pinging, lookup, last, found, rfl, hchecking, hpinging, hlookup, hlast⟩ :=
    course_finished hcourse
  obtain ⟨ifconfig, hifconfig, hnotIfconfig⟩ := course_printed hchecking
  obtain ⟨ping, hping, hnotPing⟩ := course_printed hpinging
  obtain ⟨hnone, hlisted⟩ := course_get_ip_address hlookup
  refine ⟨ifconfig, ping, ?_⟩
  simp only [targetListed_append, commands_append, hifconfig, hping, hnone, hnotIfconfig, hnotPing,
    hlisted, false_or]
  cases found with
  | some ip =>
    rw [finishTest, Prog.course_bind_ok] at hlast
    obtain ⟨_, measuring, last, rfl, hmeasuring, _, last, rfl, rfl, hresult⟩ := hlast
    obtain ⟨iperf, hiperf, -⟩ := course_printed hmeasuring
    cases hresult
    refine .inl ⟨.inl rfl, rfl, ip.text, iperf, ?_⟩
    rw [commands_append, hiperf]
    rfl
  | none =>
    obtain ⟨_, last, rfl, rfl, hresult⟩ := hlast
    cases hresult
    refine .inr ⟨fun h => ?_, rfl⟩
    rcases h with hfound | hlisted
    · cases hfound
    · obtain ⟨list, hmem, -⟩ := hlisted
      simp at hmem

/-- A verdict of 1 means that all commands passed exactly if no address is listed or every command
that was run exited with 0. -/
theorem ethernet_verdict_iff {log : List (Exchange EthernetCalls)} {value : ℤ}
    (hcourse : EthernetTest.Course log (.ok value)) :
    (value = 1 → AllPassed log) ↔ ¬TargetListed log ∨ ∀ command ∈ commands log, command.2 = 0 := by
  obtain ⟨ifconfig, ping, hlisted | hnone⟩ := course_EthernetTest hcourse
  · obtain ⟨htarget, rfl, ip, iperf, hcommands⟩ := hlisted
    rw [AllPassed, hcommands, or_iff_right fun h => h htarget]
    simp only [forall_const, List.cons.injEq, Prod.mk.injEq, true_and, and_true, List.forall_mem_cons,
      List.not_mem_nil, false_imp_iff]
    constructor
    · intro h
      obtain ⟨ip', hifconfig, hping, -, hiperf⟩ := h
      exact ⟨hifconfig, hping, hiperf⟩
    · intro h
      obtain ⟨hifconfig, hping, hiperf⟩ := h
      exact ⟨ip, hifconfig, hping, rfl, hiperf⟩
  · obtain ⟨htarget, rfl⟩ := hnone
    exact iff_of_true (fun h => absurd h (by decide)) (.inl htarget)

end Ethernet

namespace I2c

/-- A read and a write of the device both succeeded. -/
def BothSucceeded (log : List (Exchange I2cCalls)) : Prop :=
  (∃ fd value : ℤ, 0 ≤ value ∧ (⟨.wiringPiI2CRead fd, value⟩ : Exchange I2cCalls) ∈ log) ∧
    ∃ fd value result : ℤ, 0 ≤ result ∧ (⟨.wiringPiI2CWrite fd value, result⟩ : Exchange I2cCalls) ∈ log

/-- The read of the device failed. -/
def ReadFailed (log : List (Exchange I2cCalls)) : Prop :=
  ∃ fd value : ℤ, value < 0 ∧ (⟨.wiringPiI2CRead fd, value⟩ : Exchange I2cCalls) ∈ log

/-- A verdict of 1 means that read and write succeeded exactly if the read failed, when there is
no such verdict. -/
theorem i2c_verdict_iff {log : List (Exchange I2cCalls)} {value : ℤ}
    (hcourse : i2cTest.Course log (.ok value)) : (value = 1 → BothSucceeded log) ↔ ReadFailed log := by
  rcases course_i2cTest hcourse with ⟨fd, -, -, hresult⟩ | ⟨fd, -, readValue, hread | hread⟩
  · cases hresult
  · obtain ⟨hnegative, hresult, rfl⟩ := hread
    cases hresult
    exact iff_of_true (fun h => absurd h (by decide)) ⟨fd, readValue, hnegative, by simp⟩
  · obtain ⟨hnonneg, hresult, rfl⟩ := hread
    cases hresult
    refine iff_of_false (fun h => ?_) fun h => ?_
    · obtain ⟨-, fd', value, result, -, hmem⟩ := h rfl
      simp at hmem
    · obtain ⟨fd', value, hvalue, hmem⟩ := h
      have hlater := Exchange.mem_of_request_ne (by simp [openCall]) hmem
      rcases List.mem_cons.mp hlater with heq | hmem
      · cases heq
        exact absurd hvalue (Int.not_lt.mpr hnonneg)
      · simp at hmem

end I2c

/-- For every outcome of the external calls: a call of `EthernetTest` that returns 1 has passed all
three sub-checks if and only if no address to be used is listed, when it does not return 1, or
every command that was run exited with status 0. A call of `i2cTest` that returns 1 has read and
written if and only if the read failed, when it does not return 1. -/
theorem sub_checks_counted_iff (ethernet : Prog.Returned Ethernet.EthernetTest)
    (i2c : Prog.Returned I2c.i2cTest) :
    ((ethernet.value = 1 → Ethernet.AllPassed ethernet.log) ↔
      ¬Ethernet.TargetListed ethernet.log ∨ ∀ command ∈ Ethernet.commands ethernet.log, command.2 = 0) ∧
    ((i2c.value = 1 → I2c.BothSucceeded i2c.log) ↔ I2c.ReadFailed i2c.log) :=
  ⟨Ethernet.ethernet_verdict_iff ethernet.course, I2c.i2c_verdict_iff i2c.course⟩

/-- A call of `EthernetTest` with the cable out: all commands fail, but `wlan0` has an address. -/
def cableOut : Prog.Returned Ethernet.EthernetTest where
  log := [⟨.printf .checking, ()⟩, ⟨.system "ifconfig eth0", (256 : ℤ)⟩, ⟨.printf .ifconfigFailed, ()⟩,
    ⟨.printf (.pinging Ethernet.external_ip), ()⟩, ⟨.system "ping -c 4 8.8.8.8", (256 : ℤ)⟩,
    ⟨.printf .pingFailed, ()⟩, ⟨.malloc Ethernet.NI_MAXHOST, some 1⟩,
    ⟨.getifaddrs, some ⟨2, [⟨"wlan0", some ⟨Ethernet.AF_INET, 0⟩⟩]⟩⟩,
    ⟨.getnameinfo ⟨Ethernet.AF_INET, 0⟩ 1, ((0, "192.168.0.7") : ℤ × String)⟩,
    ⟨.printf (.interface "wlan0" "192.168.0.7"), ()⟩, ⟨.freeifaddrs 2, ()⟩,
    ⟨.printf (.testing "192.168.0.7"), ()⟩, ⟨.system "iperf3 -c 192.168.0.7", (256 : ℤ)⟩,
    ⟨.printf .iperfFailed, ()⟩, ⟨.free 1, ()⟩]
  value := 1
  course := ⟨(), _, rfl, (256 : ℤ), _, rfl, (), _, rfl, (), _, rfl, (256 : ℤ), _, rfl, (), _, rfl, some 1, _, rfl,
    some ⟨2, [⟨"wlan0", some ⟨Ethernet.AF_INET, 0⟩⟩]⟩, _, rfl, ((0, "192.168.0.7") : ℤ × String), _, rfl,
    (), _, rfl, (), _, rfl, (), _, rfl, (256 : ℤ), _, rfl, (), _, rfl, (), _, rfl, rfl, rfl⟩

/-- With the cable out the test returns 1, although no sub-check passed. -/
theorem failed_checks_counted :
    ¬((∀ call : Prog.Returned Ethernet.EthernetTest, call.value = 1 → Ethernet.AllPassed call.log) ∧
      ∀ call : Prog.Returned I2c.i2cTest, call.value = 1 → I2c.BothSucceeded call.log) := by
  intro hall
  obtain ⟨ip, hcommands⟩ := hall.1 cableOut rfl
  have hstatus : [(256 : ℤ), 256, 256] = [0, 0, 0] := congrArg (List.map Prod.snd) hcommands
  revert hstatus
  decide

end Maestro.Combine
