import Tr069Manager.ManageableDevices.Listing

/-!
# The table of manageable devices

What the table is for: each identity has the hosts of the devices that match, all of
them and no others (`Tr069.ManageableDevices.Refines`). The text of the hosts, the
search in it and its splitting are exact for this. What fails is around them. The
information on a device is emptied after its first host, so of several hosts the others are
not listed. And a device that stops to match takes its hosts with it, wherever they are
listed, also if another device of the same address still matches; it takes nothing if its
address can no longer be read.

The main result says when this does not happen
(`Tr069.ManageableDevices.refines_of_reaches`): each device that starts to match has at
most one host, which the data model accepts, and one that stops shares its hosts with no
other device that matches.
-/

namespace Tr069

open Runs

namespace ManageableDevices

variable {lib : BusLibrary} {devices : CString → GmapDevice} {s t : ManageableDevices}
  {key other : CString} {id : DeviceIdentity} {i j : ℕ} {e : DeviceEvent}

/-! ### The specification -/

/-- A row of `Hosts.Host.` is a host of a device: it has its address, in any case. -/
def HostOf (devices : CString → GmapDevice) (s : ManageableDevices) (key : CString) (i : ℕ) :
    Prop :=
  ∃ mac address, (devices key).physAddress = some mac ∧ s.hosts.find i = some address ∧
    address.EqIgnoringCase mac

/-- The hosts of an identity are those of the devices that match and have it. -/
def Expected (devices : CString → GmapDevice) (s : ManageableDevices) (id : DeviceIdentity)
    (i : ℕ) : Prop :=
  ∃ key ∈ s.matching, (devices key).identity = some id ∧ s.HostOf devices key i

/-- The table is the map from the identities to their hosts. -/
structure Refines (devices : CString → GmapDevice) (s : ManageableDevices) : Prop where
  unique : ∀ m n d e, s.table.instances.find m = some d → s.table.instances.find n = some e →
    d.identity = e.identity → m = n
  listed : ∀ n d, s.table.instances.find n = some d → (CString.pieces ',' d.host).Nodup ∧
    ∀ path, path ∈ CString.pieces ',' d.host ↔
      ∃ i, s.Expected devices d.identity i ∧ path = hostPath i
  present : ∀ id, (∃ n d, s.table.instances.find n = some d ∧ d.identity = id) ↔
    ∃ i, s.Expected devices id i

/-- The condition on a device that starts to match: one host at most, which is accepted. A
device whose identity is not complete is none of the table. -/
def StartsWell (lib : BusLibrary) (devices : CString → GmapDevice) (s : ManageableDevices)
    (key : CString) : Prop :=
  ∀ id, (devices key).identity = some id → ∀ i, s.HostOf devices key i →
    (∀ j, s.HostOf devices key j → j = i) ∧ s.table.Accepts lib id i

/-- The condition on a device that stops to match: no other device of the table has one of its
hosts, or, if the address is not read, all its hosts are those of other devices of its identity. -/
def StopsWell (devices : CString → GmapDevice) (s : ManageableDevices) (key : CString)
    (read : Bool) : Prop :=
  if read = true then
    ∀ other ∈ s.matching, other ≠ key → (devices other).identity ≠ none →
      ∀ i, s.HostOf devices key i → ¬s.HostOf devices other i
  else
    key ∈ s.matching → ∀ id, (devices key).identity = some id → ∀ i, s.HostOf devices key i →
      ∃ other ∈ s.matching, other ≠ key ∧ (devices other).identity = some id ∧
        s.HostOf devices other i

/-- The condition on the events, while the hosts stay as they are. -/
def KeepsTable (lib : BusLibrary) (devices : CString → GmapDevice) (s : ManageableDevices) :
    DeviceEvent → Prop
  | .startMatching key => s.StartsWell lib devices key
  | .stopMatching key read => s.StopsWell devices key read
  | .hostPhysChanged _ _ => False

/-- A table that writes down what is expected is the map. -/
theorem refines_of_represents (h : s.table.Represents (s.Expected devices)) :
    s.Refines devices := by
  refine ⟨h.unique, fun n d hd => ?_, fun id => ⟨?_, ?_⟩⟩
  · obtain ⟨hosts, htext, hnodup, -, hmem⟩ := h.listed n d hd
    rw [htext, pieces_hostText]
    refine ⟨hnodup.map fun i j hij => hostPath_inj.mp hij, fun path => ?_⟩
    rw [List.mem_map]
    refine exists_congr fun i => ?_
    rw [hmem, eq_comm]
  · rintro ⟨n, d, hd, rfl⟩
    obtain ⟨hosts, -, -, hne, hmem⟩ := h.listed n d hd
    obtain ⟨i, hi⟩ := List.exists_mem_of_ne_nil _ hne
    exact ⟨i, (hmem i).mp hi⟩
  · rintro ⟨i, hi⟩
    exact h.present id i hi

/-! ### The hosts of a device -/

/-- The look-up finds the hosts of a device, each once. -/
theorem searchForHosts_eq (lib : BusLibrary) (devices : CString → GmapDevice)
    (s : ManageableDevices) (key : CString) :
    ∃ hosts : List ℕ, s.searchForHosts lib (devices key).physAddress = hosts.map hostPath ∧
      hosts.Nodup ∧ ∀ i, i ∈ hosts ↔ s.HostOf devices key i := by
  unfold searchForHosts HostOf
  rcases (devices key).physAddress with - | mac
  · refine ⟨[], rfl, List.nodup_nil, fun i => ⟨fun h => absurd h List.not_mem_nil, ?_⟩⟩
    rintro ⟨mac, address, hmac, -⟩
    cases hmac
  · have horder := lib.order_perm s.hosts.entries
    refine ⟨((lib.order s.hosts.entries).filter fun e => e.2.EqIgnoringCase mac).map Prod.fst,
      ?_, ?_, fun i => ?_⟩
    · rw [List.map_map]
      rfl
    · have hkeys := (horder.map Prod.fst).nodup_iff.mpr s.hosts.nodup
      exact hkeys.sublist (List.filter_sublist.map _)
    · rw [List.mem_map]
      constructor
      · rintro ⟨⟨k, address⟩, hmem, rfl⟩
        obtain ⟨hmem, hcase⟩ := List.mem_filter.mp hmem
        exact ⟨mac, address, rfl, Table.find_eq_some.mpr (horder.mem_iff.mp hmem),
          of_decide_eq_true hcase⟩
      · rintro ⟨mac', address, hmac, hfind, hcase⟩
        obtain rfl := Option.some.inj hmac
        exact ⟨(i, address), List.mem_filter.mpr
          ⟨horder.mem_iff.mpr (Table.find_eq_some.mp hfind), decide_eq_true hcase⟩, rfl⟩

/-! ### A device that starts to match -/

/-- A device without a complete identity is not added. -/
theorem addManageableDevice_none (hid : (devices key).identity = none) (table : DeviceTable)
    (info : Option ManageableDeviceInfo) (host : Option CString) :
    table.addManageableDevice lib (setManageableDeviceinfo info (devices key) key host) = none := by
  rcases info with - | info
  · rfl
  · have hidentity : identityOf (devices key).oui (devices key).serialNumber
      (devices key).productClass = none := hid
    rw [setManageableDeviceinfo, Option.map_some, DeviceTable.addManageableDevice,
      Option.bind_some, GmapDevice.info, hidentity, Option.bind_none]

theorem addHosts_none (hid : (devices key).identity = none) (info : Option ManageableDeviceInfo)
    (hosts : List CString) (table : DeviceTable) :
    addHosts lib (devices key) key info hosts table = table := by
  rcases hosts with - | ⟨host, hosts⟩
  · rfl
  · rw [addHosts, addManageableDevice_none hid]

/-- The table after a device has started to match, under the condition. -/
theorem represents_startMatching (h : s.table.Represents (s.Expected devices))
    (hok : s.StartsWell lib devices key) :
    (s.startMatching lib devices key).table.Represents fun id i =>
      s.Expected devices id i ∨ (devices key).identity = some id ∧ s.HostOf devices key i := by
  obtain ⟨hosts, hsearch, hnodup, hmem⟩ := searchForHosts_eq lib devices s key
  rw [startMatching, hsearch]
  rcases hosts with - | ⟨i, rest⟩
  · -- no host
    refine h.congr fun id i => ⟨Or.inl, fun hi => hi.resolve_right fun hi => ?_⟩
    exact absurd ((hmem i).mpr hi.2) List.not_mem_nil
  · rw [List.map_cons]
    dsimp only
    rcases hid : (devices key).identity with - | id
    · -- the first pass fails, and the loop is left
      rw [addHosts_none hid]
      refine h.congr fun id i => ⟨Or.inl, fun hi => hi.resolve_right fun hi => ?_⟩
      cases hi.1
    · have hi : s.HostOf devices key i := (hmem i).mp List.mem_cons_self
      obtain ⟨hone, haccepts⟩ := hok id hid i hi
      obtain ⟨u, hadd, hu⟩ := h.addManageableDevice haccepts
        ((devices key).info key (some (hostPath i))) hid rfl fun id' j => Iff.rfl
      -- there is no second pass
      have hrest : rest = [] := by
        refine List.eq_nil_iff_forall_not_mem.mpr fun j hj => ?_
        obtain rfl := hone j ((hmem j).mp (List.mem_cons_of_mem i hj))
        exact (List.nodup_cons.mp hnodup).1 hj
      rw [addHosts, setManageableDeviceinfo, Option.map_some, hadd, hrest]
      refine hu.congr fun id' j => or_congr_right ⟨?_, ?_⟩
      · rintro ⟨rfl, rfl⟩
        exact ⟨rfl, hi⟩
      · rintro ⟨hid', hj⟩
        exact ⟨(Option.some.inj hid').symm, hone j hj⟩

/-! ### A device that stops to match -/

variable {table : DeviceTable} {M : DeviceIdentity → ℕ → Prop} {hosts : List ℕ}

/-- The loop takes out all hosts, if one identity has them and no other one. -/
theorem represents_removeHosts (h : table.Represents M) (hnodup : hosts.Nodup)
    (hhosts : ∀ i ∈ hosts, M id i ∧ ∀ id', M id' i → id' = id) :
    (removeHosts lib (hosts.map hostPath) table).Represents fun id' j => M id' j ∧ j ∉ hosts := by
  induction hosts generalizing table M with
  | nil => exact h.congr fun id' j => (and_iff_left List.not_mem_nil).symm
  | cons i hosts ih =>
    obtain ⟨hi, honly⟩ := hhosts i List.mem_cons_self
    obtain ⟨hnew, hnodup⟩ := List.nodup_cons.mp hnodup
    obtain ⟨u, hremove, hu⟩ := h.removeHost hi honly fun id' j => Iff.rfl
    rw [List.map_cons, removeHosts, hremove]
    refine (ih hu hnodup fun j hj => ?_).congr fun id' j => ?_
    · obtain ⟨hjd, hjonly⟩ := hhosts j (List.mem_cons_of_mem i hj)
      exact ⟨⟨hjd, fun hji => hnew (hji ▸ hj)⟩, fun id' hid' => hjonly id' hid'.1⟩
    · rw [List.mem_cons, not_or, and_assoc]

/-- The loop is left at once, if no identity has the hosts. -/
theorem removeHosts_none (h : table.Represents M) (hhosts : ∀ i ∈ hosts, ∀ id, ¬M id i) :
    removeHosts lib (hosts.map hostPath) table = table := by
  rcases hosts with - | ⟨i, hosts⟩
  · rfl
  · rw [List.map_cons, removeHosts, h.getMatchingPath_none (hhosts i List.mem_cons_self),
      Option.bind_none]

/-- The table after a device has stopped to match, under the condition. -/
theorem represents_stopMatching {read : Bool} (h : s.table.Represents (s.Expected devices))
    (hok : s.StopsWell devices key read) :
    (s.stopMatching lib devices key read).table.Represents fun id i =>
      ∃ other ∈ s.matching, other ≠ key ∧ (devices other).identity = some id ∧
        s.HostOf devices other i := by
  rw [stopMatching, searchForHostsByDeviceKey]
  rcases read
  · -- nothing is removed
    refine h.congr fun id i => ⟨?_, ?_⟩
    · rintro ⟨other, hother, hid, hi⟩
      by_cases hkey : other = key
      · exact hok (hkey ▸ hother) id (hkey ▸ hid) i (hkey ▸ hi)
      · exact ⟨other, hother, hkey, hid, hi⟩
    · rintro ⟨other, hother, -, hid, hi⟩
      exact ⟨other, hother, hid, hi⟩
  · obtain ⟨hosts, hsearch, hnodup, hmem⟩ := searchForHosts_eq lib devices s key
    rw [if_pos rfl, hsearch]
    -- a host of the device is one of no other device of the table
    have hown : ∀ i ∈ hosts, ∀ other ∈ s.matching, ∀ id, (devices other).identity = some id →
        s.HostOf devices other i → other = key := by
      intro i hi other hother id hid hio
      by_contra hne
      exact hok other hother hne (by rw [hid]; exact Option.some_ne_none id) i ((hmem i).mp hi) hio
    by_cases hmine : key ∈ s.matching ∧ ∃ id, (devices key).identity = some id
    · -- its hosts are listed under its own identity, and nowhere else
      obtain ⟨hkey, id, hid⟩ := hmine
      have hhosts : ∀ i ∈ hosts, s.Expected devices id i ∧
          ∀ id', s.Expected devices id' i → id' = id := by
        intro i hi
        refine ⟨⟨key, hkey, hid, (hmem i).mp hi⟩, ?_⟩
        rintro id' ⟨other, hother, hid', hio⟩
        obtain rfl := hown i hi other hother id' hid' hio
        exact Option.some.inj (hid'.symm.trans hid)
      refine (represents_removeHosts h hnodup hhosts).congr fun id' j => ⟨?_, ?_⟩
      · rintro ⟨⟨other, hother, hid', hj⟩, hnot⟩
        refine ⟨other, hother, ?_, hid', hj⟩
        rintro rfl
        exact hnot ((hmem j).mpr hj)
      · rintro ⟨other, hother, hne, hid', hj⟩
        exact ⟨⟨other, hother, hid', hj⟩, fun hin => hne (hown j hin other hother id' hid' hj)⟩
    · -- its hosts are listed nowhere: the first search fails
      have hkey : ∀ other ∈ s.matching, ∀ id, (devices other).identity = some id → other ≠ key := by
        rintro other hother id hid rfl
        exact hmine ⟨hother, id, hid⟩
      rw [removeHosts_none h]
      · refine h.congr fun id i => ⟨?_, ?_⟩
        · rintro ⟨other, hother, hid, hi⟩
          exact ⟨other, hother, hkey other hother id hid, hid, hi⟩
        · rintro ⟨other, hother, -, hid, hi⟩
          exact ⟨other, hother, hid, hi⟩
      · rintro i hi id ⟨other, hother, hid, hio⟩
        exact hkey other hother id hid (hown i hi other hother id hid hio)

/-! ### Frames -/

theorem cleanManageableDeviceCache_hosts (s : ManageableDevices) (key : CString) :
    (s.cleanManageableDeviceCache key).hosts = s.hosts := by
  unfold cleanManageableDeviceCache
  split <;> rfl

theorem startMatching_hosts (lib : BusLibrary) (devices : CString → GmapDevice)
    (s : ManageableDevices) (key : CString) :
    (s.startMatching lib devices key).hosts = s.hosts := by
  unfold startMatching
  split <;> rfl

theorem hostOf_congr (h : t.hosts = s.hosts) :
    t.HostOf devices key i ↔ s.HostOf devices key i := by
  rw [HostOf, HostOf, h]

/-- What is expected when one more device matches. -/
theorem expected_start (hhosts : t.hosts = s.hosts) (hmatching : t.matching = key :: s.matching) :
    t.Expected devices id i ↔
      s.Expected devices id i ∨ (devices key).identity = some id ∧ s.HostOf devices key i := by
  rw [Expected, hmatching, List.exists_mem_cons_iff, hostOf_congr hhosts, or_comm]
  refine or_congr_left (exists_congr fun other => and_congr_right fun _ => ?_)
  rw [hostOf_congr hhosts]

/-- What is expected when one device does not match any more. -/
theorem expected_stop (hhosts : t.hosts = s.hosts)
    (hmatching : t.matching = s.matching.filter (· ≠ key)) :
    t.Expected devices id i ↔ ∃ other ∈ s.matching, other ≠ key ∧
      (devices other).identity = some id ∧ s.HostOf devices other i := by
  rw [Expected, hmatching]
  refine exists_congr fun other => ?_
  rw [List.mem_filter, decide_eq_true_iff, and_assoc, hostOf_congr hhosts]

/-! ### The main result -/

/-- **One event keeps the table**, under the condition. -/
theorem represents_step (h : s.table.Represents (s.Expected devices))
    (hok : s.KeepsTable lib devices e) (hstep : s.step lib devices e = some t) :
    t.table.Represents (t.Expected devices) := by
  rcases e with key | ⟨key, read⟩ | ⟨host, physaddress⟩
  · obtain rfl := Option.some.inj hstep
    refine (represents_startMatching h hok).congr fun id i => (expected_start
      (t := { s.startMatching lib devices key with matching := key :: s.matching }) ?_ rfl).symm
    exact startMatching_hosts lib devices s key
  · obtain rfl := Option.some.inj hstep
    refine (represents_stopMatching h hok).congr fun id i => (expected_stop
      (t := { s.stopMatching lib devices key read with
        matching := s.matching.filter (· ≠ key) }) ?_ rfl).symm
    exact cleanManageableDeviceCache_hosts s key
  · exact hok.elim

theorem represents_init (devices : CString → GmapDevice) (hosts : Table ℕ CString) :
    (init hosts).table.Represents ((init hosts).Expected devices) := by
  refine DeviceTable.Represents.empty.congr fun id i => ⟨False.elim, ?_⟩
  rintro ⟨key, hkey, -⟩
  exact absurd hkey List.not_mem_nil

/-- **The table is the map from the identities to their hosts** in any run whose events meet the
condition. -/
theorem refines_of_reaches {hosts : Table ℕ CString}
    (h : Reaches (step lib devices) (KeepsTable lib devices) (init hosts) s) :
    s.Refines devices :=
  refines_of_represents
    (h.invariant (fun _ _ _ hs hok hstep => represents_step hs hok hstep)
      (represents_init devices hosts))

/-! ### A run, and what the condition leaves out -/

/-- A library that compares the texts, and iterates in the order of the list. -/
def firstMatch : BusLibrary where
  find table id := (table.find? fun e => e.2 = id).map Prod.fst
  Plain _ := True
  order table := table
  find_none := by
    intro table id _ hnone
    refine Option.map_eq_none_iff.mpr (List.find?_eq_none.mpr fun e he hid => ?_)
    obtain rfl := of_decide_eq_true hid
    exact hnone e.1 he
  find_only := by
    intro table id n _ hmem honly
    obtain ⟨e, he⟩ := Option.isSome_iff_exists.mp
      (List.find?_isSome (p := fun e => decide (e.2 = id)) |>.mpr ⟨(n, id), hmem, by simp⟩)
    have hid := List.find?_some he
    obtain rfl : e.2 = id := of_decide_eq_true hid
    rw [he, Option.map_some, honly e.1 (List.mem_of_find?_eq_some he)]
  order_perm := fun _ => List.Perm.refl _

/-- Two interfaces of one device. -/
def twoInterfaces (key : CString) : GmapDevice :=
  if key = ['a'] then ⟨some ['1'], some ['O'], some ['S'], some ['P']⟩
  else if key = ['b'] then ⟨some ['2'], some ['O'], some ['S'], some ['P']⟩
  else ⟨none, none, none, none⟩

/-- One host for each of them. -/
def twoHosts : Table ℕ CString := (Table.empty.put 1 ['1']).put 2 ['2']

theorem hostOf_twoHosts (hs : s.hosts = twoHosts) (h : s.HostOf twoInterfaces key i) :
    key = ['a'] ∧ i = 1 ∨ key = ['b'] ∧ i = 2 := by
  obtain ⟨mac, address, hmac, hfind, hcase⟩ := h
  rw [hs] at hfind
  have hmem : (i, address) ∈ [(1, ['1']), (2, ['2'])] := Table.find_eq_some.mp hfind
  rw [List.mem_cons, List.mem_singleton, Prod.mk.injEq, Prod.mk.injEq] at hmem
  unfold twoInterfaces at hmac
  split at hmac
  · next hkey =>
    obtain rfl := Option.some.inj hmac
    rcases hmem with ⟨hi, -⟩ | ⟨-, rfl⟩
    · exact Or.inl ⟨hkey, hi⟩
    · exact absurd hcase (by decide)
  · split at hmac
    · next hkey =>
      obtain rfl := Option.some.inj hmac
      rcases hmem with ⟨-, rfl⟩ | ⟨hi, -⟩
      · exact absurd hcase (by decide)
      · exact Or.inr ⟨hkey, hi⟩
    · cases hmac

/-- Both interfaces start to match, and then one of them stops. -/
theorem refines_two : ∃ s, Reaches (step firstMatch twoInterfaces)
    (KeepsTable firstMatch twoInterfaces) (init twoHosts) s ∧ s.Refines twoInterfaces ∧
      s.matching = [['b']] ∧
      s.table.instances.entries = [(1, ⟨⟨['O'], ['S'], ['P']⟩, hostText [2]⟩)] := by
  have hrun : (exec (step firstMatch twoInterfaces) (init twoHosts)
      [.startMatching ['a'], .startMatching ['b'], .stopMatching ['a'] true]).map
      (fun s => (s.matching, s.table.instances.entries)) =
        some ([['b']], [(1, ⟨⟨['O'], ['S'], ['P']⟩, hostText [2]⟩)]) := by
    decide +kernel
  obtain ⟨s, hs, hview⟩ := Option.map_eq_some_iff.mp hrun
  obtain ⟨hmatching, htable⟩ := Prod.mk.inj hview
  have hreach : Reaches (step firstMatch twoInterfaces) (KeepsTable firstMatch twoInterfaces)
      (init twoHosts) s := by
    refine reaches_of_exec hs ⟨fun id hid i hi => ?_, fun t ht => ⟨fun id hid i hi => ?_,
      fun u hu => ⟨fun other hother hne hid i hi hio => ?_, fun v hv => trivial⟩⟩⟩
    · rcases hostOf_twoHosts rfl hi with ⟨-, rfl⟩ | ⟨hkey, -⟩
      · refine ⟨fun j hj => ?_, trivial, ?_⟩
        · rcases hostOf_twoHosts rfl hj with ⟨-, rfl⟩ | ⟨hkey, -⟩
          · rfl
          · cases hkey
        · obtain rfl := Option.some.inj hid
          exact ⟨by decide, Or.inr (by decide)⟩
      · cases hkey
    · obtain rfl := Option.some.inj ht
      rcases hostOf_twoHosts rfl hi with ⟨hkey, -⟩ | ⟨-, rfl⟩
      · cases hkey
      · refine ⟨fun j hj => ?_, trivial, ?_⟩
        · rcases hostOf_twoHosts rfl hj with ⟨hkey, -⟩ | ⟨-, rfl⟩
          · cases hkey
          · rfl
        · obtain rfl := Option.some.inj hid
          exact ⟨by decide, Or.inr (by decide)⟩
    · obtain rfl := Option.some.inj ht
      obtain rfl := Option.some.inj hu
      rcases hostOf_twoHosts rfl hi with ⟨-, rfl⟩ | ⟨hkey, -⟩
      · rcases hostOf_twoHosts rfl hio with ⟨hkey, -⟩ | ⟨-, hone⟩
        · exact hne hkey
        · cases hone
      · cases hkey
  exact ⟨s, hreach, refines_of_reaches hreach, hmatching, htable⟩

/-- The hosts stay as they are. -/
def HostsFixed (_ : ManageableDevices) : DeviceEvent → Prop
  | .hostPhysChanged _ _ => False
  | _ => True

/-- Of two hosts of a device that starts to match, one is listed. -/
theorem not_refines_twoHosts : ¬∀ (lib : BusLibrary) (devices : CString → GmapDevice)
    (hosts : Table ℕ CString) (s : ManageableDevices),
    Reaches (step lib devices) HostsFixed (init hosts) s → s.Refines devices := by
  intro hall
  have hrun : (exec (step firstMatch twoInterfaces)
      (init ((Table.empty.put 1 ['1']).put 2 ['1'])) [.startMatching ['a']]).map
      (fun s => (s.hosts.entries, s.matching, s.table.instances.entries)) =
        some ([(1, ['1']), (2, ['1'])], [['a']],
          [(1, ⟨⟨['O'], ['S'], ['P']⟩, hostText [1]⟩)]) := by
    decide +kernel
  obtain ⟨s, hs, hview⟩ := Option.map_eq_some_iff.mp hrun
  obtain ⟨hhosts, hrest⟩ := Prod.mk.inj hview
  obtain ⟨hmatching, htable⟩ := Prod.mk.inj hrest
  have hrefines := hall firstMatch twoInterfaces _ s
    (reaches_of_exec hs ⟨trivial, fun _ _ => trivial⟩)
  have hfind : s.table.instances.find 1 = some ⟨⟨['O'], ['S'], ['P']⟩, hostText [1]⟩ := by
    refine Table.find_eq_some.mpr ?_
    rw [htable]
    exact List.mem_singleton_self _
  have hsecond : s.HostOf twoInterfaces ['a'] 2 := by
    refine ⟨['1'], ['1'], rfl, Table.find_eq_some.mpr ?_, rfl⟩
    rw [hhosts]
    exact List.mem_cons_of_mem _ (List.mem_singleton_self _)
  have hkey : ['a'] ∈ s.matching := by
    rw [hmatching]
    exact List.mem_singleton_self _
  have hpiece := ((hrefines.listed 1 _ hfind).2 (hostPath 2)).mpr
    ⟨2, ⟨['a'], hkey, rfl, hsecond⟩, rfl⟩
  rw [pieces_hostText, List.map_singleton, List.mem_singleton, hostPath_inj] at hpiece
  cases hpiece

end ManageableDevices

end Tr069
