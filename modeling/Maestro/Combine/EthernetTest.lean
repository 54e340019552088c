import Maestro.Effect.Course

/-!
# The Ethernet test of `CombineCode`

`EthernetTest` runs `ifconfig` and `ping`, looks for the IPv4 address of `eth0` or `wlan0`,
and runs `iperf3` against it. A failed call on the way to the address ends the program.
-/

namespace Maestro.Combine.Ethernet

open Effect

def AF_INET : ℤ := 2
def NI_MAXHOST : ℕ := 1025
def EXIT_FAILURE : ℤ := 1

/-- A socket address: its family, and the rest that `getnameinfo` makes a text from. -/
structure SockAddr where
  sa_family : ℤ
  data : ℕ
deriving DecidableEq

/-- One entry of the interface list. -/
structure Ifaddr where
  ifa_name : String
  ifa_addr : Option SockAddr
deriving DecidableEq

/-- The list that `getifaddrs` makes: where it is, and its entries. -/
structure Ifaddrs where
  pointer : ℕ
  entries : List Ifaddr

/-- What the Ethernet test prints. -/
inductive EthernetLine where
  | nameFailed (status : ℤ)
  | interface (name address : String)
  | checking
  | ifconfigFailed
  | pinging (ip : String)
  | pingFailed
  | testing (ip : String)
  | iperfFailed
  | noAddress
deriving DecidableEq

/-- The printed text; `gai_strerror` is the library's table of error texts. -/
def EthernetLine.text (gai_strerror : ℤ → String) : EthernetLine → String
  | nameFailed status => "getnameinfo() failed: " ++ gai_strerror status ++ "\n"
  | interface name address => "Interface: " ++ name ++ "\tAddress: " ++ address ++ "\n"
  | checking => "Checking network interface with ifconfig...\n"
  | ifconfigFailed => "\x1b[31mFailed to execute ifconfig.\x1b[0m\n"
  | pinging ip => "Pinging " ++ ip ++ "...\n"
  | pingFailed => "\x1b[31mPing test failed.\x1b[0m\n"
  | testing ip => "Testing network speed with iperf3 to server " ++ ip ++ "...\n"
  | iperfFailed => "\x1b[31miperf3 test failed.\x1b[0m\n"
  | noAddress => "\x1b[31mFailed to retrieve Raspberry Pi IP address.\x1b[0m\n"

/-- The calls of the Ethernet test. -/
inductive EthernetCall where
  | malloc (size : ℕ)
  | free (pointer : ℕ)
  | getifaddrs
  | freeifaddrs (pointer : ℕ)
  | getnameinfo (addr : SockAddr) (host : ℕ)
  | system (command : String)
  | perror (name : String)
  | printf (line : EthernetLine)

/-- `malloc` and `getifaddrs` are answered with `none` when they fail, `getnameinfo` with its
status and the text that it leaves in the buffer, and `system` with the status of the command. -/
abbrev EthernetCalls : Interface where
  Call := EthernetCall
  Reply
    | .malloc _ => Option ℕ
    | .getifaddrs => Option Ifaddrs
    | .getnameinfo _ _ => ℤ × String
    | .system _ => ℤ
    | _ => Unit

abbrev EthernetProg (ε α : Type) := Prog EthernetCalls ε α

section Calls

variable {ε : Type}

def malloc (size : ℕ) : EthernetProg ε (Option ℕ) := Prog.perform (I := EthernetCalls) (.malloc size)

def free (pointer : ℕ) : EthernetProg ε Unit := Prog.perform (I := EthernetCalls) (.free pointer)

def getifaddrs : EthernetProg ε (Option Ifaddrs) := Prog.perform (I := EthernetCalls) .getifaddrs

def freeifaddrs (pointer : ℕ) : EthernetProg ε Unit :=
  Prog.perform (I := EthernetCalls) (.freeifaddrs pointer)

def getnameinfo (addr : SockAddr) (host : ℕ) : EthernetProg ε (ℤ × String) :=
  Prog.perform (I := EthernetCalls) (.getnameinfo addr host)

def system (command : String) : EthernetProg ε ℤ := Prog.perform (I := EthernetCalls) (.system command)

def perror (name : String) : EthernetProg ε Unit := Prog.perform (I := EthernetCalls) (.perror name)

def printf (line : EthernetLine) : EthernetProg ε Unit := Prog.perform (I := EthernetCalls) (.printf line)

end Calls

/-- The names of the interfaces whose address is wanted. -/
def isWanted (name : String) : Bool := name == "eth0" || name == "wlan0"

/-- The loop over the interfaces, up to a wanted one; `ifaddr` and `ip_address` are the list and
the buffer to release. -/
def searchInterfaces (ifaddr ip_address : ℕ) : List Ifaddr → EthernetProg Exit (Option String)
  | [] => return none
  | ifa :: rest =>
    match ifa.ifa_addr with
    | none => searchInterfaces ifaddr ip_address rest
    | some addr =>
      if addr.sa_family = AF_INET then do
        let named ← getnameinfo addr ip_address
        if named.1 ≠ 0 then do
          printf (.nameFailed named.1)
          freeifaddrs ifaddr
          free ip_address
          Prog.exit EXIT_FAILURE
        else if isWanted ifa.ifa_name then do
          printf (.interface ifa.ifa_name named.2)
          freeifaddrs ifaddr
          return some named.2
        else searchInterfaces ifaddr ip_address rest
      else searchInterfaces ifaddr ip_address rest

/-- The address found: the buffer that holds it, and its text. -/
structure IpAddress where
  pointer : ℕ
  text : String

/-- What follows the loop over the interfaces. -/
def giveAddress (ifaddr ip_address : ℕ) : Option String → EthernetProg Exit (Option IpAddress)
  | some text => return some ⟨ip_address, text⟩
  | none => do
    freeifaddrs ifaddr
    free ip_address
    return none

/-- The address of the first wanted interface; the caller is to free its buffer. -/
def get_ip_address : EthernetProg Exit (Option IpAddress) := do
  let buffer ← malloc NI_MAXHOST
  match buffer with
  | none =>
    perror "malloc"
    Prog.exit EXIT_FAILURE
  | some ip_address =>
    let list ← getifaddrs
    match list with
    | none =>
      perror "getifaddrs"
      Prog.exit EXIT_FAILURE
    | some ifaddr =>
      let found ← searchInterfaces ifaddr.pointer ip_address ifaddr.entries
      giveAddress ifaddr.pointer ip_address found

section SubChecks

variable {ε : Type}

/-- Run a command, and report a status other than 0. -/
def runCommand (command : String) (failure : EthernetLine) : EthernetProg ε Unit := do
  let result ← system command
  if result ≠ 0 then printf failure else return ()

/-- The interface is looked at with `ifconfig`. -/
def check_network_interface : EthernetProg ε Unit := do
  printf .checking
  runCommand "ifconfig eth0" .ifconfigFailed

/-- `snprintf` into a buffer of the given size. -/
def snprintf (size : ℕ) (text : String) : String := String.ofList (text.toList.take (size - 1))

/-- The address is pinged. -/
def ping_test (ip_address : String) : EthernetProg ε Unit := do
  let command := snprintf 256 ("ping -c 4 " ++ ip_address)
  printf (.pinging ip_address)
  runCommand command .pingFailed

/-- The server is measured with `iperf3`. -/
def iperf_test (server_ip : String) : EthernetProg ε Unit := do
  let command := snprintf 256 ("iperf3 -c " ++ server_ip)
  printf (.testing server_ip)
  runCommand command .iperfFailed

end SubChecks

def external_ip : String := "8.8.8.8"

/-- What follows the lookup of the address. -/
def finishTest : Option IpAddress → EthernetProg Exit ℤ
  | some raspberry_pi_ip => do
    iperf_test raspberry_pi_ip.text
    free raspberry_pi_ip.pointer
    return 1
  | none => do
    printf .noAddress
    return 0

/-- The test. -/
def EthernetTest : EthernetProg Exit ℤ := do
  check_network_interface
  ping_test external_ip
  let raspberry_pi_ip ← get_ip_address
  finishTest raspberry_pi_ip

section Courses

/-- An interface whose address is to be used: an IPv4 entry of a wanted name. -/
def isTarget (ifa : Ifaddr) : Bool :=
  isWanted ifa.ifa_name && ifa.ifa_addr.any fun addr => addr.sa_family == AF_INET

variable {ifaddr ip_address : ℕ} {log : List (Exchange EthernetCalls)}

/-- A search that returns goes past an entry, with at most its name looked up, or it ends there. -/
theorem course_searchInterfaces_cons {ifa : Ifaddr} {rest : List Ifaddr} {found : Option String}
    (hcourse : (searchInterfaces ifaddr ip_address (ifa :: rest)).Course log (.ok found)) :
    (isTarget ifa = false ∧ ∃ looked later, log = looked ++ later ∧
        (∀ exchange ∈ looked, ∃ addr, exchange.request = .getnameinfo addr ip_address) ∧
        (searchInterfaces ifaddr ip_address rest).Course later (.ok found)) ∨
      isTarget ifa = true ∧ ∃ (addr : SockAddr) (named : ℤ × String),
        log = [⟨.getnameinfo addr ip_address, named⟩, ⟨.printf (.interface ifa.ifa_name named.2), ()⟩,
          ⟨.freeifaddrs ifaddr, ()⟩] ∧ found = some named.2 := by
  rw [searchInterfaces] at hcourse
  rw [isTarget]
  cases haddr : ifa.ifa_addr with
  | none =>
    rw [haddr] at hcourse
    exact .inl ⟨Bool.and_false _, [], log, rfl, by simp, hcourse⟩
  | some addr =>
    rw [haddr] at hcourse
    change (if addr.sa_family = AF_INET then _ else _ : EthernetProg Exit (Option String)).Course log _
      at hcourse
    by_cases hfamily : addr.sa_family = AF_INET
    · rw [if_pos hfamily] at hcourse
      obtain ⟨named, log, rfl, hcourse⟩ := hcourse
      change ℤ × String at named
      change (if named.1 ≠ 0 then _ else _ : EthernetProg Exit (Option String)).Course log _ at hcourse
      obtain ⟨-, hcourse⟩ := Prog.course_ite_of_aborts
        (Prog.aborts_call fun _ => Prog.aborts_call fun _ => Prog.aborts_call fun _ => Prog.aborts_stop _) hcourse
      rw [Option.any_some, hfamily, beq_self_eq_true, Bool.and_true]
      by_cases hwanted : isWanted ifa.ifa_name = true
      · rw [if_pos hwanted] at hcourse
        obtain ⟨_, log, rfl, _, log, rfl, rfl, hresult⟩ := hcourse
        cases hresult
        exact .inr ⟨hwanted, addr, named, rfl, rfl⟩
      · rw [if_neg hwanted] at hcourse
        exact .inl ⟨Bool.eq_false_iff.mpr hwanted, [⟨.getnameinfo addr ip_address, named⟩], log, rfl, by simp,
          hcourse⟩
    · rw [if_neg hfamily] at hcourse
      have hother : (addr.sa_family == AF_INET) = false := beq_false_of_ne hfamily
      rw [Option.any_some, hother, Bool.and_false]
      exact .inl ⟨rfl, [], log, rfl, by simp, hcourse⟩

/-- A lookup that returns has its buffer and its list. -/
theorem course_lookup {found : Option IpAddress} (hcourse : get_ip_address.Course log (.ok found)) :
    ∃ (ip_address : ℕ) (ifaddr : Ifaddrs) (text : Option String) (first last : List (Exchange EthernetCalls)),
      log = ⟨.malloc NI_MAXHOST, some ip_address⟩ :: ⟨.getifaddrs, some ifaddr⟩ :: (first ++ last) ∧
        (searchInterfaces ifaddr.pointer ip_address ifaddr.entries).Course first (.ok text) ∧
        (giveAddress ifaddr.pointer ip_address text).Course last (.ok found) := by
  obtain ⟨buffer, log, rfl, hcourse⟩ := hcourse
  cases buffer with
  | none => exact absurd hcourse (Prog.aborts_call (fun _ => Prog.aborts_stop _) _ _)
  | some ip_address =>
    obtain ⟨list, log, rfl, hcourse⟩ := hcourse
    cases list with
    | none => exact absurd hcourse (Prog.aborts_call (fun _ => Prog.aborts_stop _) _ _)
    | some ifaddr =>
      change (searchInterfaces ifaddr.pointer ip_address ifaddr.entries >>=
        giveAddress ifaddr.pointer ip_address).Course log _ at hcourse
      rw [Prog.course_bind_ok] at hcourse
      obtain ⟨text, first, last, rfl, hsearch, hgive⟩ := hcourse
      exact ⟨ip_address, ifaddr, text, first, last, rfl, hsearch, hgive⟩

/-- A test that returns has run its three parts, and ended on the address they found. -/
theorem course_finished {log : List (Exchange EthernetCalls)} {value : ℤ}
    (hcourse : EthernetTest.Course log (.ok value)) :
    ∃ checking pinging lookup last found, log = checking ++ (pinging ++ (lookup ++ last)) ∧
      (check_network_interface : EthernetProg Exit Unit).Course checking (.ok ()) ∧
      (ping_test external_ip : EthernetProg Exit Unit).Course pinging (.ok ()) ∧
      get_ip_address.Course lookup (.ok found) ∧ (finishTest found).Course last (.ok value) := by
  rw [EthernetTest, Prog.course_bind_ok] at hcourse
  obtain ⟨_, checking, log, rfl, hchecking, hcourse⟩ := hcourse
  rw [Prog.course_bind_ok] at hcourse
  obtain ⟨_, pinging, log, rfl, hpinging, hcourse⟩ := hcourse
  rw [Prog.course_bind_ok] at hcourse
  obtain ⟨found, lookup, last, rfl, hlookup, hlast⟩ := hcourse
  exact ⟨checking, pinging, lookup, last, found, rfl, hchecking, hpinging, hlookup, hlast⟩

end Courses

end Maestro.Combine.Ethernet
