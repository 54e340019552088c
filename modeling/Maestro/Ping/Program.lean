import Maestro.Effect.Ledger
import Maestro.Ping.PingLoop

/-!
# The whole of `wifi.c`

The program looks its host up, opens a socket for the first address of the list for which there is
one, sends its five requests, and releases the list and the socket. A protocol says what it may do
in each situation, for every outcome of every call: which socket is tried next, where the requests
go and what they are, and when the handles are released.
-/

namespace Maestro.Ping

open Effect

/-- An entry of the list that a lookup finds. -/
structure AddrInfo where
  ai_family : ℤ
  ai_socktype : ℤ
  ai_protocol : ℤ
  ai_addr : List (BitVec 8)
deriving DecidableEq

/-- The kinds of addresses that are looked for. -/
structure Hints where
  ai_family : ℤ
  ai_socktype : ℤ
  ai_protocol : ℤ
deriving DecidableEq

/-- What `getaddrinfo` returns, and the list that it stores if it returns zero. -/
structure Lookup where
  status : ℤ
  res : ℕ
  list : List AddrInfo

/-- The lines that `main` prints outside the loop. -/
inductive MainLine where
  | usage (name : Option String)
  | notRoot
  | getaddrinfo (message : String)
  | noSocket
deriving DecidableEq

/-- The printed text. -/
def MainLine.text : MainLine → String
  | usage name => "Usage: " ++ name.getD "(null)" ++ " <hostname>\n"
  | notRoot => "This program must be run as root. Please use sudo.\n"
  | getaddrinfo message => "getaddrinfo: " ++ message ++ "\n"
  | noSocket => "Failed to create socket\n"

/-- The calls of `main`. -/
inductive MainCall where
  | put (line : MainLine)
  | geteuid
  | getaddrinfo (hostname : String) (hints : Hints)
  | gai_strerror (status : ℤ)
  | socket (family socktype protocol : ℤ)
  | perror (name : String)
  | freeaddrinfo (res : ℕ)
  | close (sockfd : ℤ)

abbrev MainCalls : Interface where
  Call := MainCall
  Reply
    | .geteuid => ℤ
    | .getaddrinfo _ _ => Lookup
    | .gai_strerror _ => String
    | .socket _ _ _ => ℤ
    | .close _ => ℤ
    | _ => Unit

/-- The parts of the program: the loop has a socket and an address. -/
inductive Part where
  | main
  | ping (sockfd : ℤ) (p : AddrInfo)
deriving DecidableEq

abbrev Part.Calls : Part → Interface
  | main => MainCalls
  | ping _ _ => PingCalls

abbrev WholeCalls : Interface := Interface.family Part.Calls

abbrev WholeProg (α : Type) := Prog WholeCalls Empty α

def AF_UNSPEC : ℤ := 0
def SOCK_RAW : ℤ := 3
def IPPROTO_ICMP : ℤ := 1

section Program

/-- A call of `main` itself. -/
def own (request : MainCall) : WholeProg (MainCalls.Reply request) :=
  Prog.perform (I := WholeCalls) ⟨.main, request⟩

/-- The loop over the list: the first address with a socket. -/
def firstSocket : List AddrInfo → WholeProg (Option (ℤ × AddrInfo))
  | [] => return none
  | p :: rest => do
    let sockfd ← own (.socket p.ai_family p.ai_socktype p.ai_protocol)
    if sockfd < (0 : ℤ) then
      let _ ← own (.perror "socket")
      firstSocket rest
    else return some (sockfd, p)

/-- The loop over the requests, with the socket and the address. -/
def pingOn (order : ByteOrder) (pckt : Packet) (sockfd : ℤ) (p : AddrInfo) : WholeProg (Option PingState) :=
  (pingLoop order 5 (pingStart pckt)).embed (I := Part.Calls) (.ping sockfd p)

/-- The end of the program. -/
def release (res : ℕ) (sockfd : ℤ) : Option PingState → WholeProg (Option ℤ)
  | none => return none
  | some _ => do
    let _ ← own (.freeaddrinfo res)
    let _ ← own (.close sockfd)
    return some 0

/-- The program with its arguments and whatever its packet buffer holds. -/
def main (order : ByteOrder) (argv : List String) (pckt : Packet) : WholeProg (Option ℤ) :=
  match argv with
  | [_, hostname] => do
    let euid ← own .geteuid
    if euid ≠ (0 : ℤ) then
      let _ ← own (.put .notRoot)
      return some 1
    else do
      let lookup ← own (.getaddrinfo hostname ⟨AF_UNSPEC, SOCK_RAW, IPPROTO_ICMP⟩)
      if lookup.status ≠ 0 then
        let message ← own (.gai_strerror lookup.status)
        let _ ← own (.put (.getaddrinfo message))
        return some 1
      else do
        match ← firstSocket lookup.list with
        | none =>
          let _ ← own (.put .noSocket)
          return some 1
        | some (sockfd, p) =>
          let st ← pingOn order pckt sockfd p
          release lookup.res sockfd st
  | argv => do
    let _ ← own (.put (.usage argv.head?))
    return some 1

end Program

/-- Where the program is: the user that it has seen and the status of its lookup, the list that it has
found, the addresses that it has not tried, the socket that it has opened with its address, the
process id and the number of requests. -/
structure Talk where
  euid : Option ℤ
  lookup : Option ℤ
  found : Option ℕ
  untried : List AddrInfo
  opened : Option (ℤ × AddrInfo)
  pid : ℤ
  sent : ℕ

/-- What the program may do. Only for root it looks its host up, and only once. It tries the addresses in order until
a socket opens; then all packets go through this socket to its address, and each is the request with
the next sequence and the process id. The list and the socket are released when five requests have
been sent. -/
def talk (order : ByteOrder) : Protocol WholeCalls Talk where
  next s exchange :=
    match exchange with
    | ⟨⟨.main, .geteuid⟩, euid⟩ => { s with euid := some euid }
    | ⟨⟨.main, .getaddrinfo _ _⟩, lookup⟩ =>
      if lookup.status = 0 then { s with lookup := some 0, found := some lookup.res, untried := lookup.list }
      else { s with lookup := some lookup.status }
    | ⟨⟨.main, .socket _ _ _⟩, sockfd⟩ =>
      { s with untried := s.untried.tail, opened := if sockfd < (0 : ℤ) then none else s.untried.head?.map (sockfd, ·) }
    | ⟨⟨.ping _ _, .getpid⟩, pid⟩ => { s with pid := pid }
    | ⟨⟨.ping _ _, .sendto _⟩, _⟩ => { s with sent := s.sent + 1 }
    | _ => s
  Allows s exchange :=
    match exchange.request with
    | ⟨.main, .getaddrinfo _ _⟩ => s.euid = some 0 ∧ s.lookup = none
    | ⟨.main, .socket family socktype protocol⟩ =>
      s.opened = none ∧ ∃ p rest, s.untried = p :: rest ∧
        (family, socktype, protocol) = (p.ai_family, p.ai_socktype, p.ai_protocol)
    | ⟨.ping sockfd p, .sendto pckt⟩ =>
      s.opened = some (sockfd, p) ∧ pckt = sealPacket order (buildPacket order s.pid s.sent)
    | ⟨.ping sockfd p, _⟩ => s.opened = some (sockfd, p)
    | ⟨.main, .freeaddrinfo res⟩ => s.found = some res ∧ s.sent = 5
    | ⟨.main, .close sockfd⟩ => (∃ p, s.opened = some (sockfd, p)) ∧ s.sent = 5
    | _ => True

/-- A handle of the program. -/
inductive PingHandle where
  | list (res : ℕ)
  | socket (sockfd : ℤ)
deriving DecidableEq

/-- What an exchange does to the handles. -/
def handleEvent : Exchange WholeCalls → HandleEvent PingHandle
  | ⟨⟨.main, .getaddrinfo _ _⟩, lookup⟩ => if lookup.status = 0 then .acquire (.list lookup.res) else .keep
  | ⟨⟨.main, .socket _ _ _⟩, sockfd⟩ => if sockfd < (0 : ℤ) then .keep else .acquire (.socket sockfd)
  | ⟨⟨.main, .freeaddrinfo res⟩, _⟩ => .release (.list res)
  | ⟨⟨.main, .close sockfd⟩, _⟩ => .release (.socket sockfd)
  | _ => .keep

/-- Both at once: what the program may do, and which handles it has. -/
abbrev watched (order : ByteOrder) : Protocol WholeCalls (Talk × Multiset PingHandle) :=
  (talk order).both (Ledger.watch handleEvent)

/-- Both as the loop sees them. -/
abbrev watchedPing (order : ByteOrder) (sockfd : ℤ) (p : AddrInfo) :
    Protocol PingCalls (Talk × Multiset PingHandle) :=
  (watched order).member (I := Part.Calls) (.ping sockfd p)

section Loop

variable (order : ByteOrder) {sockfd : ℤ} {p : AddrInfo} {s : Talk × Multiset PingHandle}
  (hopened : s.1.opened = some (sockfd, p))

include hopened

/-- A send adds a request. -/
theorem meets_sendPacket {pckt : Packet} (hpckt : pckt = sealPacket order (buildPacket order s.1.pid s.1.sent))
    (flag : ℕ) :
    (sendPacket pckt flag).Meets (watchedPing order sockfd p)
      (fun _ after => after = ({ s.1 with sent := s.1.sent + 1 }, s.2)) (fun _ _ => False) s := by
  intro (result : ℤ)
  refine ⟨⟨⟨hopened, hpckt⟩, rfl⟩, ?_⟩
  change (if result ≤ 0 then _ else _ : PingProg ℕ).Meets _ _ _ _
  split
  · exact fun _ => ⟨⟨hopened, rfl⟩, rfl⟩
  · exact rfl

/-- A receive leaves the count of the requests alone. -/
theorem meets_receivePacket (tfs : Timespec) (st : PingState) :
    (receivePacket tfs st).Meets (watchedPing order sockfd p)
      (fun st' after => after = s ∧ st'.msg_count = st.msg_count) (fun _ _ => False) s := by
  intro (received : ℤ × Packet)
  refine ⟨⟨hopened, rfl⟩, ?_⟩
  change (if received.1 ≤ 0 ∧ 1 < st.msg_count then _ else _ : PingProg PingState).Meets _ _ _ _
  split
  · exact fun _ => ⟨⟨hopened, rfl⟩, rfl, rfl⟩
  · refine fun time_end => ⟨⟨hopened, rfl⟩, ?_⟩
    change (if st.flag ≠ 0 then _ else _ : PingProg PingState).Meets _ _ _ _
    split
    · exact fun _ => ⟨⟨hopened, rfl⟩, rfl, rfl⟩
    · exact ⟨rfl, rfl⟩

/-- An iteration sends the request of its number. -/
theorem meets_pingBody (st : PingState) (hsent : s.1.sent = st.msg_count) :
    (pingBody order st).Meets (watchedPing order sockfd p)
      (fun st' after => (∃ pid, after = ({ s.1 with pid := pid, sent := st'.msg_count }, s.2)) ∧
        st'.msg_count = st.msg_count + 1) (fun _ _ => False) s := by
  refine fun pid => ⟨⟨hopened, rfl⟩, fun _ => ⟨⟨hopened, rfl⟩, fun tfs => ⟨⟨hopened, rfl⟩, ?_⟩⟩⟩
  let built : Talk × Multiset PingHandle := ({ s.1 with pid := pid }, s.2)
  have hsend := meets_sendPacket order (s := built) hopened
    (congrArg (fun count => sealPacket order (buildPacket order pid count)) hsent.symm) st.flag
  refine hsend.bind fun flag after hafter => ?_
  rw [hafter]
  refine fun _ => ⟨⟨hopened, rfl⟩, ?_⟩
  refine (meets_receivePacket order (s := ({ built.1 with sent := built.1.sent + 1 }, built.2)) hopened tfs _).mono
    (fun st' after hafter => ?_) fun _ _ => id
  obtain ⟨rfl, hcount⟩ := hafter
  refine ⟨⟨pid, ?_⟩, hcount⟩
  rw [hcount, ← hsent]

/-- The loop sends five requests, and ends. -/
theorem meets_pingOn (hsent : s.1.sent = 0) (pckt : Packet) :
    (pingOn order pckt sockfd p).Meets (watched order)
      (fun st after => (∃ pid, after = ({ s.1 with pid := pid, sent := 5 }, s.2)) ∧ st ≠ none)
      (fun _ _ => False) s := by
  have hloop : (pingLoop order 5 (pingStart pckt)).Meets (watchedPing order sockfd p)
      (fun result after => ∃ st : PingState,
        ((∃ pid, after = ({ s.1 with pid := pid, sent := st.msg_count }, s.2)) ∧ st.msg_count ≤ 5) ∧
          decide (st.msg_count < 5) = false ∧ result = some st) (fun _ _ => False) s := by
    refine Prog.Meets.whileDo_ends _ (fun st => 5 - st.msg_count) ?_ ?_ ⟨⟨s.1.pid, ?_⟩, Nat.zero_le 5⟩ le_rfl
    · exact fun st _ _ hcond => Nat.sub_pos_of_lt (of_decide_eq_true hcond)
    · rintro st _ ⟨⟨pid, rfl⟩, -⟩ hcond
      have hlt : st.msg_count < 5 := of_decide_eq_true hcond
      refine (meets_pingBody order (s := ({ s.1 with pid := pid, sent := st.msg_count }, s.2)) hopened st rfl).mono
        (fun st' after hafter => ?_) fun _ _ => id
      obtain ⟨hafter, hcount⟩ := hafter
      exact ⟨⟨hafter, by omega⟩, by omega⟩
    · exact Prod.ext (by rw [pingStart, ← hsent]) rfl
  refine Prog.meets_embed.mpr (hloop.mono (fun result after hafter => ?_) fun _ _ => id)
  obtain ⟨st, ⟨⟨pid, hafter⟩, hle⟩, hcond, rfl⟩ := hafter
  have hfive : st.msg_count = 5 := le_antisymm hle (Nat.not_lt.mp (of_decide_eq_false hcond))
  exact ⟨⟨pid, by rw [hafter, hfive]⟩, nofun⟩

end Loop

section Parts

variable (order : ByteOrder) {s : Talk × Multiset PingHandle}

/-- The situation after the loop over the list. -/
structure Searched (start : Talk × Multiset PingHandle) (result : Option (ℤ × AddrInfo))
    (after : Talk × Multiset PingHandle) : Prop where
  opened : after.1.opened = result
  tried : result = none → after.1.untried = []
  lookup : after.1.lookup = start.1.lookup
  found : after.1.found = start.1.found
  sent : after.1.sent = start.1.sent
  held : after.2 = (result.map fun chosen => PingHandle.socket chosen.1).elim start.2 (· ::ₘ start.2)

/-- The request for a socket for an address. -/
def trySocket (p : AddrInfo) : WholeCalls.Call := ⟨.main, .socket p.ai_family p.ai_socktype p.ai_protocol⟩

/-- An opened socket is a handle. -/
theorem record_socket (p : AddrInfo) (sockfd : ℤ) (held : Multiset PingHandle) :
    Ledger.record held (handleEvent ⟨trySocket p, sockfd⟩) =
      some (if sockfd < 0 then held else .socket sockfd ::ₘ held) := by
  change Ledger.record held (if sockfd < 0 then .keep else .acquire (.socket sockfd)) = _
  split
  · rfl
  · rfl

/-- A request for a socket uses up an address. -/
theorem next_socket {p : AddrInfo} {rest : List AddrInfo} (huntried : s.1.untried = p :: rest) (sockfd : ℤ) :
    (watched order).next s ⟨trySocket p, sockfd⟩ =
      if sockfd < 0 then ({ s.1 with untried := rest, opened := none }, s.2)
      else ({ s.1 with untried := rest, opened := some (sockfd, p) }, .socket sockfd ::ₘ s.2) := by
  have htalk : (talk order).next s.1 ⟨trySocket p, sockfd⟩ =
      { s.1 with
        untried := s.1.untried.tail
        opened := if sockfd < 0 then none else s.1.untried.head?.map (sockfd, ·) } := rfl
  have hheld : (Ledger.watch handleEvent).next s.2 ⟨trySocket p, sockfd⟩ =
      if sockfd < 0 then s.2 else .socket sockfd ::ₘ s.2 :=
    congrArg (Option.getD · s.2) (record_socket p sockfd s.2)
  rw [huntried] at htalk
  refine Prod.ext (htalk.trans ?_) (hheld.trans ?_)
  · split
    · rfl
    · rfl
  · split
    · rfl
    · rfl

/-- The addresses are tried in order, and the first socket is kept. -/
theorem meets_firstSocket (list : List AddrInfo) (huntried : s.1.untried = list) (hopened : s.1.opened = none) :
    (firstSocket list).Meets (watched order) (Searched s) (fun _ _ => False) s := by
  induction list generalizing s with
  | nil => exact ⟨hopened, fun _ => huntried, rfl, rfl, rfl, rfl⟩
  | cons p rest ih =>
    intro (sockfd : ℤ)
    have hallowed : (watched order).Allows s ⟨trySocket p, sockfd⟩ :=
      ⟨⟨hopened, p, rest, huntried, rfl⟩, Option.isSome_iff_exists.mpr ⟨_, record_socket p sockfd s.2⟩⟩
    refine ⟨hallowed, ?_⟩
    change (if sockfd < 0 then _ else _ : WholeProg (Option (ℤ × AddrInfo))).Meets _ _ _
      ((watched order).next s ⟨trySocket p, sockfd⟩)
    rw [next_socket order huntried]
    split
    · refine fun _ => ⟨⟨trivial, rfl⟩, ?_⟩
      exact (ih (s := ({ s.1 with untried := rest, opened := none }, s.2)) rfl rfl).mono
        (fun _ _ hsearched => ⟨hsearched.opened, hsearched.tried, hsearched.lookup, hsearched.found, hsearched.sent,
          hsearched.held⟩) fun _ _ => id
    · exact ⟨rfl, nofun, rfl, rfl, rfl, rfl⟩

/-- With five requests sent, the list and the socket are released. -/
theorem meets_release {res : ℕ} {sockfd : ℤ} {p : AddrInfo} (st : PingState) (hfound : s.1.found = some res)
    (hopened : s.1.opened = some (sockfd, p)) (hsent : s.1.sent = 5) (hheld : s.2 = {.socket sockfd, .list res}) :
    (release res sockfd (some st)).Meets (watched order)
      (fun value after => value = some 0 ∧ after = (s.1, 0)) (fun _ _ => False) s := by
  have hlist : Ledger.record s.2 (.release (.list res)) = some {.socket sockfd} := by
    rw [hheld, Ledger.record, if_pos (by simp)]
    simp
  have hsocket : Ledger.record {PingHandle.socket sockfd} (.release (.socket sockfd)) = some 0 := by
    rw [Ledger.record, if_pos (Multiset.mem_singleton_self _), Multiset.erase_singleton]
  have hfirst (reply : Unit) : (watched order).next s ⟨⟨.main, .freeaddrinfo res⟩, reply⟩ = (s.1, {.socket sockfd}) :=
    Prod.ext rfl (congrArg (Option.getD · s.2) hlist)
  intro _
  refine ⟨⟨⟨hfound, hsent⟩, Option.isSome_iff_exists.mpr ⟨_, hlist⟩⟩, ?_⟩
  change ((own (.close sockfd) >>= fun _ => pure (some 0) : WholeProg (Option ℤ))).Meets _ _ _
    ((watched order).next s ⟨⟨.main, .freeaddrinfo res⟩, _⟩)
  rw [hfirst]
  intro _
  refine ⟨⟨⟨⟨p, hopened⟩, hsent⟩, Option.isSome_iff_exists.mpr ⟨_, hsocket⟩⟩, rfl, ?_⟩
  exact Prod.ext rfl (congrArg (Option.getD · _) hsocket)

end Parts

/-- The situation at the start. -/
def begin : Talk := ⟨none, none, none, [], none, 0, 0⟩

/-- What is left of a list that nobody has released. -/
def leaked : Option ℕ → Multiset PingHandle
  | some res => {.list res}
  | none => 0

/-- Why the program gives up: its arguments are wrong, it is not run by root, the lookup has failed, or
none of the addresses has a socket. -/
inductive GaveUp (argv : List String) (s : Talk) : Prop where
  | usage (wrong : argv.length ≠ 2)
  | notRoot (euid : ℤ) (seen : s.euid = some euid) (other : euid ≠ 0)
  | getaddrinfo (status : ℤ) (failed : s.lookup = some status) (error : status ≠ 0)
  | noSocket (found : s.lookup = some 0) (tried : s.untried = [])

/-- Status 0 after five requests with nothing left open, or status 1 for one of the reasons, without
a socket or a request, and with the list still there if one was found. -/
def Ended (argv : List String) (value : Option ℤ) (s : Talk × Multiset PingHandle) : Prop :=
  value = some 0 ∧ s.1.opened ≠ none ∧ s.1.sent = 5 ∧ s.2 = 0 ∨
    value = some 1 ∧ GaveUp argv s.1 ∧ s.1.opened = none ∧ s.1.sent = 0 ∧ s.2 = leaked s.1.found

/-- A run of the program: its exchanges and its status. -/
structure Run (order : ByteOrder) (argv : List String) (pckt : Packet) where
  log : List (Exchange WholeCalls)
  value : Option ℤ
  course : (main order argv pckt).Course log (.ok value)

section Main

variable {order : ByteOrder} {argv : List String} {pckt : Packet}

/-- The program from the point where it has a list. -/
theorem meets_found (res : ℕ) (list : List AddrInfo) :
    (do
      match ← firstSocket list with
      | none =>
        let _ ← own (.put .noSocket)
        return some 1
      | some (sockfd, p) =>
        let st ← pingOn order pckt sockfd p
        release res sockfd st : WholeProg (Option ℤ)).Meets (watched order) (Ended argv) (fun _ _ => False)
      (⟨some 0, some 0, some res, list, none, 0, 0⟩, {.list res}) := by
  refine (meets_firstSocket order (s := (⟨some 0, some 0, some res, list, none, 0, 0⟩, {.list res})) list rfl
    rfl).bind fun result after hsearched => ?_
  cases result with
  | none =>
    refine fun _ => ⟨⟨trivial, rfl⟩,
      .inr ⟨rfl, .noSocket hsearched.lookup (hsearched.tried rfl), hsearched.opened, hsearched.sent, ?_⟩⟩
    change after.2 = leaked after.1.found
    rw [hsearched.held, hsearched.found]
    rfl
  | some chosen =>
    refine (meets_pingOn order hsearched.opened hsearched.sent pckt).bind fun st s hpinged => ?_
    obtain ⟨⟨pid, rfl⟩, hreturned⟩ := hpinged
    obtain ⟨st, rfl⟩ := Option.ne_none_iff_exists'.mp hreturned
    refine (meets_release order (s := ({ after.1 with pid := pid, sent := 5 }, after.2)) st hsearched.found
      hsearched.opened rfl hsearched.held).mono (fun value s hreleased => ?_) fun _ _ => id
    obtain ⟨rfl, rfl⟩ := hreleased
    refine .inl ⟨rfl, ?_, rfl, rfl⟩
    change after.1.opened ≠ none
    rw [hsearched.opened]
    exact nofun

/-- The program does what it may do, and ends as described. -/
theorem meets_main :
    (main order argv pckt).Meets (watched order) (Ended argv) (fun _ _ => False) (begin, 0) := by
  have husage (argv : List String) (hwrong : argv.length ≠ 2) : (do
      let _ ← own (.put (.usage argv.head?))
      return some 1 : WholeProg (Option ℤ)).Meets (watched order) (Ended argv) (fun _ _ => False) (begin, 0) :=
    fun _ => ⟨⟨trivial, rfl⟩, .inr ⟨rfl, .usage hwrong, rfl, rfl, rfl⟩⟩
  match argv with
  | [] => exact husage [] (by simp)
  | [name] => exact husage [name] (by simp)
  | name :: first :: second :: rest => exact husage (name :: first :: second :: rest) (by simp)
  | [name, hostname] =>
    intro (euid : ℤ)
    let known : Talk := ⟨some euid, none, none, [], none, 0, 0⟩
    refine ⟨⟨trivial, rfl⟩, ?_⟩
    change (if euid ≠ 0 then _ else _ : WholeProg (Option ℤ)).Meets _ _ _ (known, 0)
    by_cases hroot : euid = 0
    · rw [if_neg (not_not.mpr hroot)]
      intro (lookup : Lookup)
      let looked : Exchange WholeCalls :=
        ⟨⟨.main, .getaddrinfo hostname ⟨AF_UNSPEC, SOCK_RAW, IPPROTO_ICMP⟩⟩, lookup⟩
      have hrecord : Ledger.record 0 (handleEvent looked) =
          some (if lookup.status = 0 then {PingHandle.list lookup.res} else 0) := by
        change Ledger.record 0 (if lookup.status = 0 then .acquire (PingHandle.list lookup.res) else .keep) = _
        split
        · rfl
        · rfl
      have hnext : (watched order).next (known, 0) looked =
          if lookup.status = 0 then
            (⟨some 0, some 0, some lookup.res, lookup.list, none, 0, 0⟩, {PingHandle.list lookup.res})
          else ({ known with lookup := some lookup.status }, 0) := by
        change (if lookup.status = 0 then
            { known with lookup := some 0, found := some lookup.res, untried := lookup.list }
          else { known with lookup := some lookup.status }, (Ledger.record 0 (handleEvent looked)).getD 0) = _
        rw [hrecord]
        simp only [known, hroot]
        split
        · rfl
        · rfl
      refine ⟨⟨⟨congrArg some hroot, rfl⟩, Option.isSome_iff_exists.mpr ⟨_, hrecord⟩⟩, ?_⟩
      change (if lookup.status ≠ 0 then _ else _ : WholeProg (Option ℤ)).Meets _ _ _
        ((watched order).next (known, 0) looked)
      rw [hnext]
      by_cases hfound : lookup.status = 0
      · rw [if_pos hfound, if_neg (not_not.mpr hfound)]
        exact meets_found lookup.res lookup.list
      · rw [if_neg hfound, if_pos hfound]
        exact fun _ => ⟨⟨trivial, rfl⟩, fun _ => ⟨⟨trivial, rfl⟩,
          .inr ⟨rfl, .getaddrinfo lookup.status rfl hfound, rfl, rfl, rfl⟩⟩⟩
    · rw [if_pos hroot]
      exact fun _ => ⟨⟨trivial, rfl⟩, .inr ⟨rfl, .notRoot euid rfl hroot, rfl, rfl, rfl⟩⟩

variable (run : Run order argv pckt)

/-- For every outcome of every call: a run with status 0 leaves nothing open and releases nothing
twice, and a run with another status leaves the list of addresses exactly if it had found one. -/
theorem handles_left :
    Ledger.Leaves (run.log.map handleEvent)
      (if run.value = some 0 then 0 else leaked ((talk order).after begin run.log).found) := by
  obtain ⟨hkeeps, hends⟩ := meets_main.of_course run.course
  rw [Protocol.keeps_both] at hkeeps
  rw [Protocol.after_both] at hends
  rw [Ledger.Leaves, Ledger.settle_of_keeps hkeeps.2, Option.some.injEq]
  rcases hends with ⟨hvalue, -, -, hheld⟩ | ⟨hvalue, -, -, -, hheld⟩
  · rw [hvalue, if_pos rfl]
    exact hheld
  · rw [hvalue, if_neg (by decide)]
    exact hheld

end Main

end Maestro.Ping
