import Maestro.Combine.EthernetTest

/-!
# The address that `get_ip_address` finds

The function is the same in `EthernetTest.c`. It asks `getnameinfo` about every IPv4 entry before it
looks at the name, and gives up with the program when the call fails. So the first wanted entry
decides unless a lookup fails up to there.
-/

namespace Maestro.Combine.Ethernet

open Effect

/-- An entry of the interface list with what `getnameinfo` answers for it: its status and the text. -/
structure Entry where
  ifa : Ifaddr
  status : ℤ
  host : String

/-- The entry has an IPv4 address. -/
def Entry.isIPv4 (entry : Entry) : Bool := entry.ifa.ifa_addr.any fun addr => addr.sa_family == AF_INET

/-- The entry has an IPv4 address and a wanted name. -/
def Entry.isTarget (entry : Entry) : Bool := Ethernet.isTarget entry.ifa

/-- The answers of `getnameinfo`, in the order of the calls. -/
def names (entries : List Entry) : List (ℤ × String) :=
  (entries.filter Entry.isIPv4).map fun entry => (entry.status, entry.host)

/-- A host with memory and a list of interfaces, that answers the lookups from a list. -/
def network (ip_address : ℕ) (ifaddr : Ifaddrs) : Handler EthernetCalls (List (ℤ × String)) where
  answer
    | .malloc _, names => (some ip_address, names)
    | .free _, names => ((), names)
    | .getifaddrs, names => (some ifaddr, names)
    | .freeifaddrs _, names => ((), names)
    | .getnameinfo _ _, names => (names.headD (0, ""), names.tail)
    | .system _, names => ((0 : ℤ), names)
    | .perror _, names => ((), names)
    | .printf _, names => ((), names)

/-- How `get_ip_address` ends for a list of interfaces. -/
def lookup (ip_address pointer : ℕ) (entries : List Entry) : Except Exit (Option IpAddress) :=
  (get_ip_address.run (network ip_address ⟨pointer, entries.map Entry.ifa⟩) (names entries)).1

/-- `getnameinfo` fails for an IPv4 entry up to and including the first wanted one. -/
def LookupFails (entries : List Entry) : Prop :=
  ∃ entry ∈ entries.take (entries.findIdx Entry.isTarget + 1), entry.isIPv4 = true ∧ entry.status ≠ 0

instance (entries : List Entry) : Decidable (LookupFails entries) := List.decidableBEx _ _

section Search

variable (entry : Entry) (rest : List Entry)

/-- No lookup fails when there is no entry. -/
theorem lookupFails_nil : ¬LookupFails [] := by
  intro hfails
  obtain ⟨entry, hmem, -⟩ := hfails
  cases hmem

/-- The first lookup that matters is that of the first entry; a wanted entry is the last one. -/
theorem lookupFails_cons :
    LookupFails (entry :: rest) ↔
      (entry.isIPv4 = true ∧ entry.status ≠ 0) ∨ (entry.isTarget = false ∧ LookupFails rest) := by
  rw [LookupFails, List.findIdx_cons, List.take_succ_cons, List.exists_mem_cons_iff]
  cases entry.isTarget <;> simp [LookupFails]

/-- An entry without an IPv4 address is not wanted. -/
theorem isIPv4_of_isTarget (htarget : entry.isTarget = true) : entry.isIPv4 = true := by
  rw [Entry.isTarget, isTarget, Bool.and_eq_true] at htarget
  exact htarget.2

/-- The answers begin with that of the first entry, if it is asked for. -/
theorem names_cons :
    names (entry :: rest) = if entry.isIPv4 then (entry.status, entry.host) :: names rest else names rest := by
  rw [names, List.filter_cons]
  cases entry.isIPv4 <;> rfl

variable (ip_address : ℕ) (ifaddr : Ifaddrs) (pointer : ℕ)

/-- The search passes an entry without an IPv4 address. -/
theorem search_other (hother : entry.isIPv4 = false) (ifas : List Ifaddr) :
    searchInterfaces pointer ip_address (entry.ifa :: ifas) = searchInterfaces pointer ip_address ifas := by
  rw [Entry.isIPv4] at hother
  rw [searchInterfaces]
  cases haddr : entry.ifa.ifa_addr with
  | none => rfl
  | some addr =>
    rw [haddr, Option.any_some, beq_eq_false_iff_ne] at hother
    exact if_neg hother

/-- The search asks for the name of an IPv4 entry, and then fails, ends or goes on. -/
theorem run_search_IPv4 (hIPv4 : entry.isIPv4 = true) (ifas : List Ifaddr) (later : List (ℤ × String)) :
    ((searchInterfaces pointer ip_address (entry.ifa :: ifas)).run (network ip_address ifaddr)
      ((entry.status, entry.host) :: later)).1 =
        if entry.status ≠ 0 then .error ⟨EXIT_FAILURE⟩
        else if entry.isTarget then .ok (some entry.host)
        else ((searchInterfaces pointer ip_address ifas).run (network ip_address ifaddr) later).1 := by
  have htarget : entry.isTarget = isWanted entry.ifa.ifa_name := by
    rw [Entry.isIPv4] at hIPv4
    rw [Entry.isTarget, isTarget, hIPv4, Bool.and_true]
  rw [htarget]
  rw [Entry.isIPv4] at hIPv4
  rw [searchInterfaces]
  cases haddr : entry.ifa.ifa_addr with
  | none =>
    rw [haddr] at hIPv4
    cases hIPv4
  | some addr =>
    rw [haddr, Option.any_some, beq_iff_eq] at hIPv4
    change ((if addr.sa_family = AF_INET then _ else _ : EthernetProg Exit (Option String)).run _ _).1 = _
    rw [if_pos hIPv4]
    change ((if entry.status ≠ 0 then _ else _ : EthernetProg Exit (Option String)).run _ later).1 = _
    by_cases hfailed : entry.status ≠ 0
    · rw [if_pos hfailed, if_pos hfailed]
      rfl
    · rw [if_neg hfailed, if_neg hfailed]
      by_cases hwanted : isWanted entry.ifa.ifa_name = true
      · rw [if_pos hwanted, if_pos hwanted]
        rfl
      · rw [if_neg hwanted, if_neg hwanted]

/-- The search over the entries fails with the first lookup that does, or ends at the first wanted
entry. -/
theorem run_searchInterfaces (entries : List Entry) :
    ((searchInterfaces pointer ip_address (entries.map Entry.ifa)).run (network ip_address ifaddr)
      (names entries)).1 =
        if LookupFails entries then .error ⟨EXIT_FAILURE⟩
        else .ok ((entries.find? Entry.isTarget).map Entry.host) := by
  induction entries with
  | nil =>
    rw [if_neg lookupFails_nil]
    rfl
  | cons entry rest ih =>
    rw [List.map_cons, names_cons]
    simp only [lookupFails_cons]
    by_cases hIPv4 : entry.isIPv4 = true
    · rw [if_pos hIPv4, run_search_IPv4 entry ip_address ifaddr pointer hIPv4, ih, List.find?_cons]
      by_cases hfailed : entry.status ≠ 0
      · rw [if_pos hfailed, if_pos (Or.inl ⟨hIPv4, hfailed⟩)]
      · cases entry.isTarget <;> simp [hIPv4, hfailed]
    · have hother : entry.isIPv4 = false := Bool.eq_false_iff.mpr hIPv4
      have htarget : entry.isTarget = false := Bool.eq_false_iff.mpr fun h => hIPv4 (isIPv4_of_isTarget entry h)
      rw [if_neg hIPv4, search_other entry ip_address pointer hother, ih, List.find?_cons, htarget]
      simp [hother]

/-- Dropping entries that are not wanted and whose lookup does not fail changes no failure. -/
theorem lookupFails_filter (keep : Entry → Bool) (entries : List Entry)
    (hharmless : ∀ entry ∈ entries, keep entry = false →
      entry.isTarget = false ∧ (entry.isIPv4 = true → entry.status = 0)) :
    LookupFails (entries.filter keep) ↔ LookupFails entries := by
  induction entries with
  | nil => rfl
  | cons entry rest ih =>
    obtain ⟨hentry, hrest⟩ := List.forall_mem_cons.mp hharmless
    rw [lookupFails_cons, ← ih hrest]
    by_cases hkeep : keep entry = true
    · rw [List.filter_cons_of_pos hkeep, lookupFails_cons]
    · obtain ⟨htarget, hstatus⟩ := hentry (Bool.eq_false_iff.mpr hkeep)
      rw [List.filter_cons_of_neg hkeep, htarget, and_iff_right rfl, or_iff_right]
      exact fun hfails => hfails.2 (hstatus hfails.1)

/-- Dropping entries that are not wanted leaves the first wanted one. -/
theorem find?_filter (keep : Entry → Bool) (entries : List Entry)
    (hkeep : ∀ entry ∈ entries, keep entry = false → entry.isTarget = false) :
    (entries.filter keep).find? Entry.isTarget = entries.find? Entry.isTarget := by
  induction entries with
  | nil => rfl
  | cons entry rest ih =>
    obtain ⟨hentry, hrest⟩ := List.forall_mem_cons.mp hkeep
    by_cases hkept : keep entry = true
    · rw [List.filter_cons_of_pos hkept, List.find?_cons, List.find?_cons, ih hrest]
    · rw [List.filter_cons_of_neg hkept, ih hrest, List.find?_cons, hentry (Bool.eq_false_iff.mpr hkept)]

/-- The lookup fails with the program, or gives the text for the first wanted entry. -/
theorem lookup_eq (entries : List Entry) :
    lookup ip_address pointer entries =
      if LookupFails entries then .error ⟨EXIT_FAILURE⟩
      else .ok ((entries.find? Entry.isTarget).map fun entry => ⟨ip_address, entry.host⟩) := by
  have hsearch := run_searchInterfaces ip_address ⟨pointer, entries.map Entry.ifa⟩ pointer entries
  change ((searchInterfaces pointer ip_address (entries.map Entry.ifa) >>= giveAddress pointer ip_address).run
    (network ip_address ⟨pointer, entries.map Entry.ifa⟩) (names entries)).1 = _
  by_cases hfails : LookupFails entries
  · rw [if_pos hfails] at hsearch ⊢
    rw [Prog.run_bind_of_error _ _ (Prod.ext hsearch rfl)]
  · rw [if_neg hfails] at hsearch ⊢
    rw [Prog.run_bind_of_ok _ _ (Prod.ext hsearch rfl)]
    cases entries.find? Entry.isTarget <;> rfl

end Search

/-- For every list of interfaces, whatever `getnameinfo` answers for each: if it fails for an IPv4 entry
up to and including the first one named `eth0` or `wlan0`, the program ends with `EXIT_FAILURE`; otherwise
`get_ip_address` returns the text for this entry, and `NULL` if and only if there is none. Other entries,
except for IPv4 entries whose lookup fails, have no influence. -/
theorem address_found (ip_address pointer : ℕ) (entries : List Entry) :
    lookup ip_address pointer entries =
        (if LookupFails entries then .error ⟨EXIT_FAILURE⟩
        else .ok ((entries.find? Entry.isTarget).map fun entry => ⟨ip_address, entry.host⟩)) ∧
      (lookup ip_address pointer entries = .ok none ↔
        ¬LookupFails entries ∧ ∀ entry ∈ entries, entry.isTarget = false) ∧
      ∀ keep : Entry → Bool, (∀ entry ∈ entries, keep entry = false →
          entry.isTarget = false ∧ (entry.isIPv4 = true → entry.status = 0)) →
        lookup ip_address pointer (entries.filter keep) = lookup ip_address pointer entries := by
  refine ⟨lookup_eq ip_address pointer entries, ?_, fun keep hharmless => ?_⟩
  · rw [lookup_eq]
    by_cases hfails : LookupFails entries
    · simp [hfails]
    · simp [hfails]
  · have hfind := find?_filter keep entries fun entry hmem hkeep => (hharmless entry hmem hkeep).1
    rw [lookup_eq, lookup_eq, hfind]
    simp only [lookupFails_filter keep entries hharmless]

/-- An interface of another name ahead of `eth0`, whose lookup fails, ends the program. -/
theorem other_interface_ends_program :
    ¬∀ (ip_address pointer : ℕ) (entries : List Entry),
      (∀ entry ∈ entries, entry.isTarget = true → entry.status = 0) →
      lookup ip_address pointer entries =
        .ok ((entries.find? Entry.isTarget).map fun entry => ⟨ip_address, entry.host⟩) := by
  intro hall
  have hclaim := hall 0 0
    [⟨⟨"docker0", some ⟨AF_INET, 0⟩⟩, -6, ""⟩, ⟨⟨"eth0", some ⟨AF_INET, 1⟩⟩, 0, "192.168.0.2"⟩] (by decide)
  rw [lookup_eq, if_pos (by decide)] at hclaim
  cases hclaim

end Maestro.Combine.Ethernet
