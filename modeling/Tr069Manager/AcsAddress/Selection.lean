import Tr069Manager.Lib.CString

/-!
# The address of the ACS

When a session starts, `cwmp_client_get_acsip` (`dmmain/cwmpd_client.c`) chooses the address to
connect to. A host that is an address is taken as it is. Otherwise the addresses the host has been
resolved to are in the data model as one text, joined by commas (`cwmp_dns_update_dm` of
`dmmain/cwmpd_dns.c`): the address used before is chosen again if it is still one of them, and if
it is not, one of them at random.

Whether the address used before is still one of them is asked of the text and not of the list: it
is if `strstr` finds it anywhere. So an address that is part of another one, as `10.0.0.1` is of
`10.0.0.12`, is chosen though it is not in the list any more, and the choice is right exactly if
this is not so (`acsipChosen_iff`).
-/

namespace Tr069

/-! ### The source -/

/-- The loop of `cwmp_dns_update_dm`: a comma is appended if there is another address. -/
def addrListStr : List CString → CString
  | [] => []
  | [ip] => ip
  | ip :: next :: ips => ip ++ ',' :: addrListStr (next :: ips)

/-- What the data model answers when `cwmp_client_get_acsip` reads it: the text is null if there is
none, or the read fails, which for the list is told as well. -/
structure AcsipReads where
  acsip : Option CString
  listRead : Bool
  acsiplist : Option CString

section Source

/-! What is not in the source: whether a text is an address (`inet_pton`), how the text of a list
is split (`amxc_string_csv_to_var`), and the number `rand` returns. -/

variable (isIpaddr : CString → Bool) (csvToVar : CString → List CString) (rand : ℕ)

/-- `cwmp_get_random_ip`: the address, or what it was before if there is none to choose. -/
def cwmpGetRandomIp (acsiplist : Option CString) (ip : Option CString) : Option CString :=
  match acsiplist with
  | none => ip
  | some text =>
    if 1 < text.length then
      let ips := csvToVar text
      if 1 ≤ ips.length then (ips[rand % ips.length]?).or ip else ip
    else ip

/-- `cwmp_client_get_acsip`: whether it is `cwmp_status_ok`, and `acs_server_ip`. -/
def cwmpClientGetAcsip (acsServerHost : CString) (reads : AcsipReads) : Bool × Option CString :=
  if isIpaddr acsServerHost then (true, some acsServerHost)
  else
    match reads.acsip with
    | some ip =>
      if ip.length ≠ 0 then
        -- with the list unknown the function returns at once
        if reads.listRead then
          let validIp := reads.acsiplist.any fun text => (text.strstr ip).isSome
          let chosen :=
            if validIp then some ip else cwmpGetRandomIp csvToVar rand reads.acsiplist none
          (chosen.isSome, chosen)
        else (false, some ip)
      else
        let chosen := cwmpGetRandomIp csvToVar rand reads.acsiplist none
        (chosen.isSome, chosen)
    | none =>
      let chosen := cwmpGetRandomIp csvToVar rand reads.acsiplist none
      (chosen.isSome, chosen)

end Source

/-! ### What should be chosen -/

/-- The text of an address: it is not split, and not too short for the list. -/
structure AddressText (ip : CString) : Prop where
  two : 2 ≤ ip.length
  comma : ',' ∉ ip
  space : ∀ c ∈ ip, ¬c.isWhitespace = true

/-- What `amxc_string_csv_to_var` is documented to do with addresses that are joined by commas. -/
def SplitsLists (csvToVar : CString → List CString) : Prop :=
  ∀ ips : List CString, ips ≠ [] → (∀ ip ∈ ips, AddressText ip) →
    csvToVar ([','].intercalate ips) = ips

/-- **What should be chosen** among the addresses that have been published, where `acsip` is the
one used before. -/
structure AcsipChosen (isIpaddr : CString → Bool) (host : CString) (addresses : List CString)
    (acsip chosen : Option CString) : Prop where
  literal : isIpaddr host = true → chosen = some host
  published : isIpaddr host = false → ∀ ip, chosen = some ip → ip ∈ addresses
  reused : isIpaddr host = false →
    ((∃ ip, acsip = some ip ∧ chosen = some ip) ↔ ∃ ip, acsip = some ip ∧ ip ∈ addresses)
  nothing : isIpaddr host = false → (chosen = none ↔ addresses = [])

/-! ### The list as text -/

variable {isIpaddr : CString → Bool} {csvToVar : CString → List CString} {rand : ℕ}
  {host ip : CString} {addresses : List CString} {acsip chosen : Option CString}

theorem addrListStr_eq (ips : List CString) : addrListStr ips = [','].intercalate ips := by
  induction ips with
  | nil => rfl
  | cons ip ips ih =>
    rcases ips with - | ⟨next, ips⟩
    · simp [addrListStr]
    · rw [addrListStr, ih, List.intercalate_cons_of_ne_nil (List.cons_ne_nil next ips)]
      simp

/-- An element of the list is part of its text. -/
theorem infix_addrListStr (h : ip ∈ addresses) : ip <:+: addrListStr addresses := by
  induction addresses with
  | nil => cases h
  | cons first ips ih =>
    rcases ips with - | ⟨next, ips⟩
    · obtain rfl := List.mem_singleton.mp h
      exact List.infix_refl _
    · rw [addrListStr]
      rcases List.mem_cons.mp h with rfl | h
      · exact (List.prefix_append _ _).isInfix
      · exact (ih h).trans
          ((List.suffix_cons _ _).trans (List.suffix_append _ _)).isInfix

theorem two_le_length_addrListStr (hip : ip ∈ addresses) (h : 2 ≤ ip.length) :
    2 ≤ (addrListStr addresses).length :=
  le_trans h (infix_addrListStr hip).length_le

/-- **A random address** is one of the list, if there is one. -/
theorem getRandomIp_eq (hcsv : SplitsLists csvToVar)
    (haddresses : ∀ ip ∈ addresses, AddressText ip) :
    cwmpGetRandomIp csvToVar rand (some (addrListStr addresses)) none =
      addresses[rand % addresses.length]? := by
  rw [cwmpGetRandomIp]
  rcases hlist : addresses with - | ⟨first, ips⟩
  · rfl
  · rw [← hlist]
    have hmem : first ∈ addresses := hlist ▸ List.mem_cons_self
    have hne : addresses ≠ [] := List.ne_nil_of_mem hmem
    have htext := two_le_length_addrListStr hmem (haddresses first hmem).two
    have hlength := List.length_pos_iff.mpr hne
    have hsplit : csvToVar (addrListStr addresses) = addresses := by
      rw [addrListStr_eq, hcsv addresses hne haddresses]
    simp only [hsplit]
    rw [if_pos (by omega), if_pos (by omega), Option.or_none]

theorem getElem?_mod_length_eq_none : addresses[rand % addresses.length]? = none ↔
    addresses = [] := by
  rw [List.getElem?_eq_none_iff]
  constructor
  · intro h
    by_contra hne
    have hlt := Nat.mod_lt rand (List.length_pos_iff.mpr hne)
    omega
  · rintro rfl
    exact Nat.zero_le _

/-- What is chosen for a name: the address used before, if the text has it, or a random one. -/
theorem getAcsip_eq (hcsv : SplitsLists csvToVar)
    (haddresses : ∀ ip ∈ addresses, AddressText ip) (hhost : isIpaddr host = false) :
    (cwmpClientGetAcsip isIpaddr csvToVar rand host
        ⟨acsip, true, some (addrListStr addresses)⟩).2 =
      (acsip.filter fun ip => ip ≠ [] ∧ ip <:+: addrListStr addresses).or
        addresses[rand % addresses.length]? := by
  rw [cwmpClientGetAcsip, if_neg (by rw [hhost]; exact Bool.false_ne_true)]
  simp only [getRandomIp_eq hcsv haddresses]
  rcases acsip with - | ip
  · rfl
  · rw [Option.filter_some]
    simp only [Option.any_some, CString.strstr_isSome, if_true]
    by_cases hip : ip = []
    · subst hip
      rfl
    · by_cases hinfix : ip <:+: addrListStr addresses
      · simp [hip, hinfix]
      · simp [hip, hinfix]

/-- **The choice of the address** is right exactly if the host is an address, or the address used
before is not part of the text of the list without being an element of the list. -/
theorem acsipChosen_iff (hcsv : SplitsLists csvToVar)
    (haddresses : ∀ ip ∈ addresses, AddressText ip) :
    AcsipChosen isIpaddr host addresses acsip
        (cwmpClientGetAcsip isIpaddr csvToVar rand host
          ⟨acsip, true, some (addrListStr addresses)⟩).2 ↔
      isIpaddr host = true ∨
        ∀ ip, acsip = some ip → ip ≠ [] → ip <:+: addrListStr addresses → ip ∈ addresses := by
  by_cases hhost : isIpaddr host = true
  · refine iff_of_true ?_ (Or.inl hhost)
    have hnot : ¬isIpaddr host = false := by simp [hhost]
    refine ⟨fun _ => ?_, fun h => absurd h hnot, fun h => absurd h hnot, fun h => absurd h hnot⟩
    rw [cwmpClientGetAcsip, if_pos hhost]
  rw [or_iff_right hhost, getAcsip_eq hcsv haddresses (Bool.eq_false_iff.mpr hhost)]
  have hrandom : ∀ ip, addresses[rand % addresses.length]? = some ip → ip ∈ addresses :=
    fun ip h => List.mem_of_getElem? h
  constructor
  · rintro h ip rfl hne hinfix
    refine h.published (Bool.eq_false_iff.mpr hhost) ip ?_
    rw [Option.filter_some, if_pos (decide_eq_true ⟨hne, hinfix⟩), Option.some_or]
  · intro h
    -- unless it is an element of the list, the address used before is not looked at
    have hchosen : (∃ ip ∈ addresses, acsip = some ip ∧
          (acsip.filter fun ip => ip ≠ [] ∧ ip <:+: addrListStr addresses) = some ip) ∨
        ((∀ ip, acsip = some ip → ip ∉ addresses) ∧
          (acsip.filter fun ip => ip ≠ [] ∧ ip <:+: addrListStr addresses) = none) := by
      rcases acsip with - | ip
      · exact Or.inr ⟨fun ip hip => absurd hip.symm (Option.some_ne_none ip), rfl⟩
      · rw [Option.filter_some]
        by_cases hip : ip ∈ addresses
        · have htwo := (haddresses ip hip).two
          have hne : ip ≠ [] := by
            rintro rfl
            exact absurd htwo (by decide)
          rw [if_pos (decide_eq_true ⟨hne, infix_addrListStr hip⟩)]
          exact Or.inl ⟨ip, hip, rfl, rfl⟩
        · refine Or.inr ⟨fun ip' hip' => Option.some.inj hip' ▸ hip, if_neg fun htext => hip ?_⟩
          obtain ⟨hne, hinfix⟩ := of_decide_eq_true htext
          exact h ip rfl hne hinfix
    refine ⟨fun hliteral => absurd hliteral hhost, fun _ ip => ?_, fun _ => ?_, fun _ => ?_⟩
    all_goals rcases hchosen with ⟨used, hused, hacsip, hsome⟩ | ⟨hnone, hrest⟩
    · rw [hsome, Option.some_or, Option.some.injEq]
      rintro rfl
      exact hused
    · rw [hrest, Option.none_or]
      exact hrandom ip
    · rw [hsome, Option.some_or]
      exact iff_of_true ⟨used, hacsip, rfl⟩ ⟨used, hacsip, hused⟩
    · rw [hrest, Option.none_or]
      refine iff_of_false ?_ ?_
      · rintro ⟨ip, hacsip, hip⟩
        exact hnone ip hacsip (hrandom ip hip)
      · rintro ⟨ip, hacsip, hip⟩
        exact hnone ip hacsip hip
    · rw [hsome, Option.some_or]
      exact iff_of_false (Option.some_ne_none used) (List.ne_nil_of_mem hused)
    · rw [hrest, Option.none_or, getElem?_mod_length_eq_none]

/-- Splitting at the commas splits lists of addresses. -/
theorem splitsLists_pieces : SplitsLists (CString.pieces ',') := by
  intro ips _ hips
  refine CString.pieces_intercalate fun ip hip => ⟨?_, (hips ip hip).comma⟩
  rintro rfl
  exact absurd (hips [] hip).two (by decide)

/-- An address that is in the list is chosen again. -/
theorem acsipChosen_again :
    AcsipChosen (fun _ => false) "acs.example".toList
      ["10.0.0.12".toList, "10.0.0.1".toList] (some "10.0.0.1".toList)
      (cwmpClientGetAcsip (fun _ => false) (CString.pieces ',') 0 "acs.example".toList
        ⟨some "10.0.0.1".toList, true,
          some (addrListStr ["10.0.0.12".toList, "10.0.0.1".toList])⟩).2 := by
  refine (acsipChosen_iff splitsLists_pieces fun ip hip => ?_).mpr (Or.inr fun ip hip _ _ => ?_)
  · rcases List.mem_pair.mp hip with rfl | rfl
    · exact ⟨by decide, by decide, by simp⟩
    · exact ⟨by decide, by decide, by simp⟩
  · obtain rfl := Option.some.inj hip
    exact List.mem_cons_of_mem _ List.mem_cons_self

/-- An address that is part of another one is chosen, though it is not in the list any more. -/
theorem not_acsipChosen_of_part :
    ¬AcsipChosen (fun _ => false) "acs.example".toList ["10.0.0.12".toList]
      (some "10.0.0.1".toList)
      (cwmpClientGetAcsip (fun _ => false) (CString.pieces ',') 0 "acs.example".toList
        ⟨some "10.0.0.1".toList, true, some (addrListStr ["10.0.0.12".toList])⟩).2 := by
  intro h
  have hmem := h.published rfl "10.0.0.1".toList (by decide)
  revert hmem
  decide

end Tr069
