import Tr069Manager.ManageableDevices.Refinement

/-!
# Devices before hosts, and hosts before devices

A device that matches before a host has its address waits in the cache, and one that
matches after that is looked up. The table should not tell the two orders apart. But the
look-up ignores the case of letters and the cache does not, the cache forgets a device with
its first host, and it holds a device twice that starts to match twice, and forgets one of the
two when it stops.

Under a condition that leaves these events out, the cache holds exactly the devices that
wait (`Tr069.ManageableDevices.CacheFits`), the table is the map from the identities to
their hosts in every state, and so it is the same after all runs with the same devices and the same
hosts at the end (`Tr069.ManageableDevices.sameTable_of_reaches`).
-/

namespace Tr069

open Runs

/-- Two tables have the same entries: the same identities, with the same hosts in some order. -/
structure SameTable (t u : DeviceTable) : Prop where
  identities : ∀ id, (∃ n d, t.instances.find n = some d ∧ d.identity = id) ↔
    ∃ n d, u.instances.find n = some d ∧ d.identity = id
  hosts : ∀ m n d e, t.instances.find m = some d → u.instances.find n = some e →
    d.identity = e.identity → (CString.pieces ',' d.host).Perm (CString.pieces ',' e.host)

namespace ManageableDevices

variable {lib : BusLibrary} {devices : CString → GmapDevice} {s t : ManageableDevices}
  {key other : CString} {id : DeviceIdentity} {i host : ℕ} {physaddress : CString}
  {e : DeviceEvent}

/-! ### The specification -/

/-- The cache holds devices that match, each once. Of the devices that can be listed it holds
those without a host. -/
structure CacheFits (devices : CString → GmapDevice) (s : ManageableDevices) : Prop where
  nodup : (s.mdRequests.map ManageableDeviceInfo.key).Nodup
  own : ∀ md ∈ s.mdRequests, ∃ key ∈ s.matching, ∃ host, md = (devices key).info key host ∧
    ∀ id, (devices key).identity = some id → host = none ∧ ∀ i, ¬s.HostOf devices key i
  waiting : ∀ key ∈ s.matching, ∀ id, (devices key).identity = some id →
    (∀ i, ¬s.HostOf devices key i) → (devices key).info key none ∈ s.mdRequests

/-- The condition on a host that gets an address: it has been the host of no device of the
table, and one that it becomes the host of has exactly this address, as the only one that
matches, and no other host; and the data model accepts the host. -/
def AppearsWell (lib : BusLibrary) (devices : CString → GmapDevice) (s : ManageableDevices)
    (host : ℕ) (physaddress : CString) : Prop :=
  ∀ key ∈ s.matching, ∀ id, (devices key).identity = some id → ¬s.HostOf devices key host ∧
    ∀ mac, (devices key).physAddress = some mac → physaddress.EqIgnoringCase mac →
      mac = physaddress ∧ physaddress ≠ [] ∧ (∀ i, ¬s.HostOf devices key i) ∧
      (∀ other ∈ s.matching, (devices other).physAddress = some physaddress → other = key) ∧
      s.table.Accepts lib id host

/-- The condition on the events. A device that waits does not start to match again. -/
def KeepsOrder (lib : BusLibrary) (devices : CString → GmapDevice) (s : ManageableDevices) :
    DeviceEvent → Prop
  | .startMatching key =>
    s.StartsWell lib devices key ∧ (key ∈ s.matching → ∃ i, s.HostOf devices key i)
  | .stopMatching key read => s.StopsWell devices key read
  | .hostPhysChanged host physaddress => s.AppearsWell lib devices host physaddress

/-! ### The cache -/

/-- The entry that is found has its place. -/
theorem split_of_mdCacheFind {parameter : ManageableDeviceInfo → Option CString} {value : CString}
    {n : ℕ} (h : s.mdCacheFind parameter value = some n) :
    ∃ pre md post, s.mdRequests = pre ++ md :: post ∧ pre.length = n ∧
      parameter md = some value := by
  obtain ⟨hn, hvalue, -⟩ := List.findIdx?_eq_some_iff_getElem.mp h
  refine ⟨s.mdRequests.take n, s.mdRequests[n], s.mdRequests.drop (n + 1), ?_,
    List.length_take_of_le (Nat.le_of_lt hn), of_decide_eq_true hvalue⟩
  rw [List.getElem_cons_drop, List.take_append_drop]

/-- The others have other keys. -/
theorem key_ne_of_split {pre post : List ManageableDeviceInfo} {md other : ManageableDeviceInfo}
    (h : ((pre ++ md :: post).map ManageableDeviceInfo.key).Nodup) (hother : other ∈ pre ++ post) :
    other.key ≠ md.key := by
  rw [List.map_append, List.map_cons, List.nodup_middle, ← List.map_append] at h
  intro hkey
  exact (List.nodup_cons.mp h).1 (hkey ▸ List.mem_map_of_mem hother)

/-- The entries of one key are removed, as there is one at most. -/
theorem mem_cleanManageableDeviceCache {md : ManageableDeviceInfo}
    (h : (s.mdRequests.map ManageableDeviceInfo.key).Nodup) :
    md ∈ (s.cleanManageableDeviceCache key).mdRequests ↔
      md ∈ s.mdRequests ∧ md.key ≠ some key := by
  unfold cleanManageableDeviceCache
  split
  · next n hn =>
    obtain ⟨pre, own, post, hsplit, rfl, hown⟩ := split_of_mdCacheFind hn
    rw [hsplit] at h ⊢
    rw [List.eraseIdx_append_of_length_le (Nat.le_refl _), Nat.sub_self, List.eraseIdx_cons_zero]
    constructor
    · intro hmem
      refine ⟨?_, hown ▸ key_ne_of_split h hmem⟩
      exact List.perm_middle.mem_iff.mpr (List.mem_cons_of_mem own hmem)
    · rintro ⟨hmem, hkey⟩
      rcases List.mem_cons.mp (List.perm_middle.mem_iff.mp hmem) with rfl | hmem
      · exact absurd hown hkey
      · exact hmem
  · next hn =>
    have hnone := List.findIdx?_eq_none_iff.mp hn
    exact (and_iff_left_of_imp fun hmem => of_decide_eq_false (hnone md hmem)).symm

theorem nodup_cleanManageableDeviceCache (key : CString)
    (h : (s.mdRequests.map ManageableDeviceInfo.key).Nodup) :
    ((s.cleanManageableDeviceCache key).mdRequests.map ManageableDeviceInfo.key).Nodup := by
  unfold cleanManageableDeviceCache
  split
  · exact h.sublist ((List.eraseIdx_sublist _ _).map _)
  · exact h

/-- A device that starts to match without a host is cached. -/
theorem mdRequests_startMatching (lib : BusLibrary) (devices : CString → GmapDevice)
    (s : ManageableDevices) (key : CString) :
    (∀ i, ¬s.HostOf devices key i) ∧ (s.startMatching lib devices key).mdRequests =
        s.mdRequests ++ [(devices key).info key none] ∨
      (∃ i, s.HostOf devices key i) ∧
        (s.startMatching lib devices key).mdRequests = s.mdRequests := by
  obtain ⟨hosts, hsearch, -, hmem⟩ := searchForHosts_eq lib devices s key
  rw [startMatching, hsearch]
  rcases hosts with - | ⟨i, hosts⟩
  · exact Or.inl ⟨fun i hi => absurd ((hmem i).mpr hi) List.not_mem_nil, rfl⟩
  · exact Or.inr ⟨⟨i, (hmem i).mp List.mem_cons_self⟩, rfl⟩

/-- A device starts to match. -/
theorem CacheFits.start (h : s.CacheFits devices)
    (hok : key ∈ s.matching → ∃ i, s.HostOf devices key i) (hhosts : t.hosts = s.hosts)
    (hmatching : t.matching = key :: s.matching)
    (hrequests : (∀ i, ¬s.HostOf devices key i) ∧
        t.mdRequests = s.mdRequests ++ [(devices key).info key none] ∨
      (∃ i, s.HostOf devices key i) ∧ t.mdRequests = s.mdRequests) : t.CacheFits devices := by
  have hownOld : ∀ md ∈ s.mdRequests, ∃ key ∈ t.matching, ∃ host,
      md = (devices key).info key host ∧ ∀ id, (devices key).identity = some id →
        host = none ∧ ∀ i, ¬t.HostOf devices key i := by
    intro md hmd
    obtain ⟨other, hother, host, hinfo, hidentified⟩ := h.own md hmd
    rw [hmatching]
    refine ⟨other, List.mem_cons_of_mem key hother, host, hinfo, fun id hid => ?_⟩
    obtain ⟨hhost, hnone⟩ := hidentified id hid
    exact ⟨hhost, fun i hi => hnone i ((hostOf_congr hhosts).mp hi)⟩
  rcases hrequests with ⟨hnone, hrequests⟩ | ⟨⟨i, hi⟩, hrequests⟩
  · -- its key is new to the cache
    have hnew : ∀ md ∈ s.mdRequests, md.key ≠ some key := by
      rintro md hmd hkey
      obtain ⟨other, hother, host, rfl, -⟩ := h.own md hmd
      obtain rfl := Option.some.inj hkey
      obtain ⟨i, hi⟩ := hok hother
      exact hnone i hi
    refine ⟨?_, fun md hmd => ?_, fun other hother id hid hno => ?_⟩
    · rw [hrequests, List.map_append, List.map_singleton]
      refine List.nodup_append.mpr ⟨h.nodup, List.nodup_singleton _, fun a ha b hb => ?_⟩
      obtain ⟨md, hmd, rfl⟩ := List.mem_map.mp ha
      obtain rfl := List.mem_singleton.mp hb
      exact hnew md hmd
    · rw [hrequests] at hmd
      rcases List.mem_append.mp hmd with hmd | hmd
      · exact hownOld md hmd
      · obtain rfl := List.mem_singleton.mp hmd
        refine ⟨key, hmatching ▸ List.mem_cons_self, none, rfl, fun id hid => ⟨rfl, fun i hi => ?_⟩⟩
        exact hnone i ((hostOf_congr hhosts).mp hi)
    · rw [hrequests]
      rw [hmatching] at hother
      rcases List.mem_cons.mp hother with rfl | hother
      · exact List.mem_append_right _ (List.mem_singleton_self _)
      · exact List.mem_append_left _ (h.waiting other hother id hid fun i hi =>
          hno i ((hostOf_congr hhosts).mpr hi))
  · refine ⟨hrequests ▸ h.nodup, fun md hmd => hownOld md (hrequests ▸ hmd),
      fun other hother id hid hno => ?_⟩
    rw [hrequests]
    rw [hmatching] at hother
    rcases List.mem_cons.mp hother with rfl | hother
    · exact absurd ((hostOf_congr hhosts).mpr hi) (hno i)
    · exact h.waiting other hother id hid fun i hi => hno i ((hostOf_congr hhosts).mpr hi)

/-- A device stops to match. -/
theorem CacheFits.stop (h : s.CacheFits devices) (hhosts : t.hosts = s.hosts)
    (hmatching : t.matching = s.matching.filter (· ≠ key))
    (hrequests : t.mdRequests = (s.cleanManageableDeviceCache key).mdRequests) :
    t.CacheFits devices := by
  refine ⟨hrequests ▸ nodup_cleanManageableDeviceCache key h.nodup, fun md hmd => ?_,
    fun other hother id hid hno => ?_⟩
  · rw [hrequests, mem_cleanManageableDeviceCache h.nodup] at hmd
    obtain ⟨other, hother, host, rfl, hidentified⟩ := h.own md hmd.1
    have hne : other ≠ key := fun hkey => hmd.2 (congrArg some hkey)
    refine ⟨other, ?_, host, rfl, fun id hid => ?_⟩
    · rw [hmatching]
      exact List.mem_filter.mpr ⟨hother, decide_eq_true hne⟩
    · obtain ⟨hhost, hnone⟩ := hidentified id hid
      exact ⟨hhost, fun i hi => hnone i ((hostOf_congr hhosts).mp hi)⟩
  · rw [hmatching] at hother
    obtain ⟨hother, hne⟩ := List.mem_filter.mp hother
    rw [hrequests, mem_cleanManageableDeviceCache h.nodup]
    refine ⟨h.waiting other hother id hid fun i hi => hno i ((hostOf_congr hhosts).mpr hi), ?_⟩
    exact fun hkey => of_decide_eq_true hne (Option.some.inj hkey)

/-! ### A host that gets an address -/

/-- A device has the address that a host gets. -/
def HasAddress (devices : CString → GmapDevice) (physaddress key : CString) : Prop :=
  ∃ mac, (devices key).physAddress = some mac ∧ physaddress.EqIgnoringCase mac

/-- The hosts of a device of the table, under the condition. -/
theorem hostOf_put (hok : s.AppearsWell lib devices host physaddress)
    (hhosts : t.hosts = s.hosts.put host physaddress) (hkey : key ∈ s.matching)
    (hid : (devices key).identity = some id) :
    t.HostOf devices key i ↔
      s.HostOf devices key i ∨ i = host ∧ HasAddress devices physaddress key := by
  unfold HostOf HasAddress
  rw [hhosts]
  by_cases hi : i = host
  · subst hi
    rw [Table.find_put_self]
    constructor
    · rintro ⟨mac, address, hmac, haddress, hcase⟩
      obtain rfl := Option.some.inj haddress
      exact Or.inr ⟨rfl, mac, hmac, hcase⟩
    · rintro (hold | ⟨-, mac, hmac, hcase⟩)
      · exact absurd hold (hok key hkey id hid).1
      · exact ⟨mac, physaddress, hmac, rfl, hcase⟩
  · rw [Table.find_put_ne hi]
    exact ⟨Or.inl, fun h => h.resolve_right fun h => hi h.1⟩

/-- What is expected when a host gets an address, under the condition. -/
theorem expected_put (hok : s.AppearsWell lib devices host physaddress)
    (hhosts : t.hosts = s.hosts.put host physaddress) (hmatching : t.matching = s.matching) :
    t.Expected devices id i ↔ s.Expected devices id i ∨ ∃ key ∈ s.matching,
      (devices key).identity = some id ∧ i = host ∧ HasAddress devices physaddress key := by
  rw [Expected, hmatching]
  constructor
  · rintro ⟨key, hkey, hid, hi⟩
    rcases (hostOf_put hok hhosts hkey hid).mp hi with hi | hi
    · exact Or.inl ⟨key, hkey, hid, hi⟩
    · exact Or.inr ⟨key, hkey, hid, hi⟩
  · rintro (⟨key, hkey, hid, hi⟩ | ⟨key, hkey, hid, hi⟩)
    · exact ⟨key, hkey, hid, (hostOf_put hok hhosts hkey hid).mpr (Or.inl hi)⟩
    · exact ⟨key, hkey, hid, (hostOf_put hok hhosts hkey hid).mpr (Or.inr hi)⟩

/-- The cache after that, if it has let go of the device that has the address. -/
theorem CacheFits.appear (h : s.CacheFits devices)
    (hok : s.AppearsWell lib devices host physaddress)
    (hhosts : t.hosts = s.hosts.put host physaddress) (hmatching : t.matching = s.matching)
    (hnodup : (t.mdRequests.map ManageableDeviceInfo.key).Nodup)
    (hown : ∀ md ∈ t.mdRequests, ∃ key ∈ s.matching, ∃ host, md = (devices key).info key host ∧
      ∀ id, (devices key).identity = some id → host = none ∧
        ¬HasAddress devices physaddress key ∧ ∀ i, ¬s.HostOf devices key i)
    (hwaiting : ∀ key ∈ s.matching, ∀ id, (devices key).identity = some id →
      ¬HasAddress devices physaddress key → (devices key).info key none ∈ s.mdRequests →
        (devices key).info key none ∈ t.mdRequests) : t.CacheFits devices := by
  refine ⟨hnodup, fun md hmd => ?_, fun key hkey id hid hno => ?_⟩
  · obtain ⟨key, hkey, own, rfl, hidentified⟩ := hown md hmd
    rw [hmatching]
    refine ⟨key, hkey, own, rfl, fun id hid => ?_⟩
    obtain ⟨hhost, haddress, hnone⟩ := hidentified id hid
    refine ⟨hhost, fun i hi => ?_⟩
    -- a host it has now is one it had, or the one that got the address
    rcases (hostOf_put hok hhosts hkey hid).mp hi with hi | hi
    · exact hnone i hi
    · exact haddress hi.2
  · rw [hmatching] at hkey
    have hbefore : ∀ i, ¬s.HostOf devices key i := fun i hi =>
      hno i ((hostOf_put hok hhosts hkey hid).mpr (Or.inl hi))
    have haddress : ¬HasAddress devices physaddress key := fun haddress =>
      hno host ((hostOf_put hok hhosts hkey hid).mpr (Or.inr ⟨rfl, haddress⟩))
    exact hwaiting key hkey id hid haddress (h.waiting key hkey id hid hbefore)

/-- What is done when a host gets an address: nothing, or a device of this address is taken from
the cache and added, or that fails and the host is left with it. -/
theorem hostPhysChanged_cases (lib : BusLibrary) (s : ManageableDevices)
    (path physaddress : CString) :
    ((physaddress = [] ∨ ∀ md ∈ s.mdRequests, md.physAddress ≠ some physaddress) ∧
        s.hostPhysChanged lib path physaddress = s) ∨
      ∃ pre md post, s.mdRequests = pre ++ md :: post ∧ md.physAddress = some physaddress ∧
        ((∃ u, s.table.addManageableDevice lib (some (md.addHost (devicePrefix ++ path))) = some u ∧
            s.hostPhysChanged lib path physaddress =
              { s with table := u, mdRequests := pre ++ post }) ∨
          s.table.addManageableDevice lib (some (md.addHost (devicePrefix ++ path))) = none ∧
            s.hostPhysChanged lib path physaddress =
              { s with mdRequests := pre ++ md.addHost (devicePrefix ++ path) :: post }) := by
  unfold hostPhysChanged
  by_cases hempty : physaddress = []
  · exact Or.inl ⟨Or.inl hempty, if_pos hempty⟩
  · rw [if_neg hempty]
    rcases hfind : s.mdCacheFind ManageableDeviceInfo.physAddress physaddress with - | n
    · have hnone := List.findIdx?_eq_none_iff.mp hfind
      exact Or.inl ⟨Or.inr fun md hmd => of_decide_eq_false (hnone md hmd), rfl⟩
    · obtain ⟨pre, md, post, hsplit, rfl, haddress⟩ := split_of_mdCacheFind hfind
      refine Or.inr ⟨pre, md, post, hsplit, haddress, ?_⟩
      have hget : s.mdRequests[pre.length]? = some md := by
        rw [hsplit, List.getElem?_append_right (Nat.le_refl _), Nat.sub_self,
          List.getElem?_cons_zero]
      have herase : s.mdRequests.eraseIdx pre.length = pre ++ post := by
        rw [hsplit, List.eraseIdx_append_of_length_le (Nat.le_refl _), Nat.sub_self,
          List.eraseIdx_cons_zero]
      have hset : ∀ md', s.mdRequests.set pre.length md' = pre ++ md' :: post := by
        intro md'
        rw [hsplit, List.set_append_right _ _ (Nat.le_refl _), Nat.sub_self, List.set_cons_zero]
      dsimp only
      rw [hget, herase]
      dsimp only
      rw [hset]
      rcases s.table.addManageableDevice lib (some (md.addHost (devicePrefix ++ path))) with - | u
      · exact Or.inr ⟨rfl, rfl⟩
      · exact Or.inl ⟨u, rfl, rfl⟩

/-- A device of the table that has the address of a host, in any case, is the only device that
matches and has its letters. -/
theorem eq_of_hasAddress (hok : s.AppearsWell lib devices host physaddress)
    (hkey : key ∈ s.matching) (haddress : (devices key).physAddress = some physaddress)
    (hother : other ∈ s.matching) (hid : (devices other).identity = some id)
    (hhas : HasAddress devices physaddress other) : other = key := by
  obtain ⟨mac, hmac, hcase⟩ := hhas
  obtain ⟨-, -, -, honly, -⟩ := (hok other hother id hid).2 mac hmac hcase
  exact (honly key hkey haddress).symm

/-- No device of the table has the address: what is expected, and the cache, are as they were. -/
theorem keeps_nothing (h : s.table.Represents (s.Expected devices)) (hc : s.CacheFits devices)
    (hok : s.AppearsWell lib devices host physaddress)
    (hnone : ∀ key ∈ s.matching, ∀ id, (devices key).identity = some id →
      ¬HasAddress devices physaddress key)
    (hhosts : t.hosts = s.hosts.put host physaddress) (hmatching : t.matching = s.matching)
    (htable : t.table = s.table)
    (hnodup : (t.mdRequests.map ManageableDeviceInfo.key).Nodup)
    (hown : ∀ md ∈ t.mdRequests, md ∈ s.mdRequests ∨ ∃ key ∈ s.matching, ∃ host,
      md = (devices key).info key host ∧ (devices key).identity = none)
    (hwaiting : ∀ key ∈ s.matching, ∀ id, (devices key).identity = some id →
      (devices key).info key none ∈ s.mdRequests → (devices key).info key none ∈ t.mdRequests) :
    t.table.Represents (t.Expected devices) ∧ t.CacheFits devices := by
  constructor
  · rw [htable]
    refine h.congr fun id i => ((expected_put hok hhosts hmatching).trans (or_iff_left ?_)).symm
    rintro ⟨key, hkey, hid, -, haddress⟩
    exact hnone key hkey id hid haddress
  · refine hc.appear hok hhosts hmatching hnodup (fun md hmd => ?_)
      fun key hkey id hid _ => hwaiting key hkey id hid
    rcases hown md hmd with hmd | ⟨key, hkey, own, hinfo, hid⟩
    · obtain ⟨key, hkey, own, hinfo, hidentified⟩ := hc.own md hmd
      refine ⟨key, hkey, own, hinfo, fun id hid => ?_⟩
      obtain ⟨hhost, hno⟩ := hidentified id hid
      exact ⟨hhost, hnone key hkey id hid, hno⟩
    · refine ⟨key, hkey, own, hinfo, fun id hid' => ?_⟩
      rw [hid] at hid'
      cases hid'

/-- A device of the table that waits has the address: it is added, and not cached any more. -/
theorem keeps_added (hc : s.CacheFits devices)
    (hok : s.AppearsWell lib devices host physaddress) {pre post : List ManageableDeviceInfo}
    (hsplit : s.mdRequests = pre ++ (devices key).info key none :: post) (hkey : key ∈ s.matching)
    (hphys : (devices key).physAddress = some physaddress)
    (hid : (devices key).identity = some id)
    (hhosts : t.hosts = s.hosts.put host physaddress) (hmatching : t.matching = s.matching)
    (htable : t.table.Represents fun id' j => s.Expected devices id' j ∨ id' = id ∧ j = host)
    (hrequests : t.mdRequests = pre ++ post) :
    t.table.Represents (t.Expected devices) ∧ t.CacheFits devices := by
  have hperm : ∀ md, md ∈ s.mdRequests ↔ md = (devices key).info key none ∨ md ∈ pre ++ post := by
    intro md
    rw [hsplit, List.perm_middle.mem_iff, List.mem_cons]
  have hhas : HasAddress devices physaddress key := ⟨physaddress, hphys, rfl⟩
  have hnodup := hc.nodup
  rw [hsplit] at hnodup
  constructor
  · refine htable.congr fun id' j => (Iff.symm ?_)
    refine (expected_put hok hhosts hmatching).trans (or_congr_right ⟨?_, ?_⟩)
    · rintro ⟨other, hother, hid', rfl, haddress⟩
      obtain rfl := eq_of_hasAddress hok hkey hphys hother hid' haddress
      exact ⟨Option.some.inj (hid'.symm.trans hid), rfl⟩
    · rintro ⟨rfl, rfl⟩
      exact ⟨key, hkey, hid, rfl, hhas⟩
  · refine hc.appear hok hhosts hmatching ?_ (fun md hmd => ?_)
      fun other hother id' hid' haddress hmd => ?_
    · rw [List.map_append, List.map_cons] at hnodup
      rw [hrequests, List.map_append]
      exact (List.nodup_cons.mp (List.nodup_middle.mp hnodup)).2
    · rw [hrequests] at hmd
      obtain ⟨other, hother, own, rfl, hidentified⟩ := hc.own md ((hperm md).mpr (Or.inr hmd))
      refine ⟨other, hother, own, rfl, fun id' hid' => ?_⟩
      obtain ⟨hhost, hno⟩ := hidentified id' hid'
      refine ⟨hhost, fun haddress => ?_, hno⟩
      -- only the device itself has the address, and its one entry is gone
      obtain rfl := eq_of_hasAddress hok hkey hphys hother hid' haddress
      exact key_ne_of_split hnodup hmd rfl
    · rw [hrequests]
      refine ((hperm _).mp hmd).resolve_left fun hsame => ?_
      obtain rfl := Option.some.inj (congrArg ManageableDeviceInfo.key hsame)
      exact haddress hhas

/-- A device without a complete identity has the address: it stays in the cache with the host, and
it hides no other device. -/
theorem keeps_failed (h : s.table.Represents (s.Expected devices)) (hc : s.CacheFits devices)
    (hok : s.AppearsWell lib devices host physaddress) {pre post : List ManageableDeviceInfo}
    {own own' : Option CString} (hsplit : s.mdRequests = pre ++ (devices key).info key own :: post)
    (hkey : key ∈ s.matching) (hphys : (devices key).physAddress = some physaddress)
    (hid : (devices key).identity = none) (hhosts : t.hosts = s.hosts.put host physaddress)
    (hmatching : t.matching = s.matching) (htable : t.table = s.table)
    (hrequests : t.mdRequests = pre ++ (devices key).info key own' :: post) :
    t.table.Represents (t.Expected devices) ∧ t.CacheFits devices := by
  have hother : ∀ other id', (devices other).identity = some id' → other ≠ key := by
    rintro other id' hid' rfl
    rw [hid] at hid'
    cases hid'
  have hnodup := hc.nodup
  rw [hsplit, List.map_append, List.map_cons] at hnodup
  refine keeps_nothing h hc hok (fun other hmatches id' hid' haddress => ?_) hhosts hmatching htable
    ?_ (fun md hmd => ?_) fun other hmatches id' hid' hmd => ?_
  · exact hother other id' hid' (eq_of_hasAddress hok hkey hphys hmatches hid' haddress)
  · rw [hrequests, List.map_append, List.map_cons]
    exact hnodup
  · rw [hrequests] at hmd
    rcases List.mem_cons.mp (List.perm_middle.mem_iff.mp hmd) with rfl | hmd
    · exact Or.inr ⟨key, hkey, _, rfl, hid⟩
    · rw [hsplit]
      exact Or.inl (List.perm_middle.mem_iff.mpr (List.mem_cons_of_mem _ hmd))
  · rw [hsplit] at hmd
    rw [hrequests]
    refine List.perm_middle.mem_iff.mpr (List.mem_cons_of_mem _ ?_)
    refine (List.mem_cons.mp (List.perm_middle.mem_iff.mp hmd)).resolve_left fun hsame => ?_
    exact hother other id' hid' (Option.some.inj (congrArg ManageableDeviceInfo.key hsame))

/-- A host gets an address, under the condition. -/
theorem keeps_hostPhysChanged (h : s.table.Represents (s.Expected devices))
    (hc : s.CacheFits devices) (hok : s.AppearsWell lib devices host physaddress) {hosts}
    (hhosts : hosts = s.hosts.put host physaddress)
    (ht : t = { s with hosts := hosts }.hostPhysChanged lib (hostKey host) physaddress) :
    t.table.Represents (t.Expected devices) ∧ t.CacheFits devices := by
  rcases hostPhysChanged_cases lib { s with hosts := hosts } (hostKey host) physaddress with
    ⟨hidle, hres⟩ | ⟨pre, md, post, hsplit, hphys, hadd⟩
  · -- a device of the table that has the address would have been found
    obtain rfl := ht.trans hres
    refine keeps_nothing h hc hok (fun key hkey id hid haddress => ?_) hhosts rfl rfl hc.nodup
      (fun md hmd => Or.inl hmd) fun key hkey id hid hmd => hmd
    obtain ⟨mac, hmac, hcase⟩ := haddress
    obtain ⟨rfl, hne, hno, -⟩ := (hok key hkey id hid).2 mac hmac hcase
    rcases hidle with hempty | hidle
    · exact hne hempty
    · exact hidle _ (hc.waiting key hkey id hid hno) hmac
  · have hmem : md ∈ s.mdRequests := by
      rw [show s.mdRequests = pre ++ md :: post from hsplit]
      exact List.mem_append_right _ List.mem_cons_self
    obtain ⟨key, hkey, own, rfl, hidentified⟩ := hc.own md hmem
    -- the entry is that of a device that matches; with no identity it cannot be added
    rcases hid : (devices key).identity with - | id
    · rcases hadd with ⟨u, hu, -⟩ | ⟨-, hres⟩
      · rw [DeviceTable.addManageableDevice, Option.bind_some] at hu
        have hidentity : identityOf (devices key).oui (devices key).serialNumber
          (devices key).productClass = none := hid
        rw [ManageableDeviceInfo.addHost, GmapDevice.info, hidentity, Option.bind_none] at hu
        cases hu
      · obtain rfl := ht.trans hres
        exact keeps_failed h hc hok hsplit hkey hphys hid hhosts rfl rfl rfl
    · obtain ⟨rfl, -⟩ := hidentified id hid
      obtain ⟨-, -, -, -, haccepts⟩ := (hok key hkey id hid).2 physaddress hphys rfl
      obtain ⟨u, hu, hrep⟩ := h.addManageableDevice haccepts
        (((devices key).info key none).addHost (devicePrefix ++ hostKey host)) hid rfl
        fun id' j => Iff.rfl
      rcases hadd with ⟨u', hu', hres⟩ | ⟨hfail, -⟩
      · obtain rfl := Option.some.inj (hu.symm.trans hu')
        obtain rfl := ht.trans hres
        exact keeps_added hc hok hsplit hkey hphys hid hhosts rfl hrep rfl
      · cases hu.symm.trans hfail

/-! ### The main results -/

/-- **One event keeps the table and the cache**, under the condition. -/
theorem keeps_step (h : s.table.Represents (s.Expected devices) ∧ s.CacheFits devices)
    (hok : s.KeepsOrder lib devices e) (hstep : s.step lib devices e = some t) :
    t.table.Represents (t.Expected devices) ∧ t.CacheFits devices := by
  obtain ⟨h, hc⟩ := h
  rcases e with key | ⟨key, read⟩ | ⟨host, physaddress⟩
  · refine ⟨represents_step (e := .startMatching key) h hok.1 hstep, ?_⟩
    obtain rfl := Option.some.inj hstep
    exact hc.start hok.2 (startMatching_hosts lib devices s key) rfl
      (mdRequests_startMatching lib devices s key)
  · refine ⟨represents_step (e := .stopMatching key read) h hok hstep, ?_⟩
    obtain rfl := Option.some.inj hstep
    exact hc.stop (cleanManageableDeviceCache_hosts s key) rfl rfl
  · exact keeps_hostPhysChanged h hc hok rfl (Option.some.inj hstep).symm

theorem cacheFits_init (devices : CString → GmapDevice) (hosts : Table ℕ CString) :
    (init hosts).CacheFits devices :=
  ⟨List.nodup_nil, fun _ hmd => absurd hmd List.not_mem_nil,
    fun _ hkey => absurd hkey List.not_mem_nil⟩

/-- **The cache is never out of step, and the table is the map** in any run whose events meet the
condition: a device that waits is listed with its host, and one that has stopped is not. -/
theorem refines_of_discovery {hosts : Table ℕ CString}
    (h : Reaches (step lib devices) (KeepsOrder lib devices) (init hosts) s) :
    s.Refines devices ∧ s.CacheFits devices := by
  obtain ⟨hrep, hc⟩ := h.invariant (I := fun s => s.table.Represents (s.Expected devices) ∧
      s.CacheFits devices) (fun _ _ _ hs hok hstep => keeps_step hs hok hstep)
    ⟨represents_init devices hosts, cacheFits_init devices hosts⟩
  exact ⟨refines_of_represents hrep, hc⟩

/-- Two tables that are the same map have the same entries. -/
theorem sameTable_of_refines (hs : s.Refines devices) (ht : t.Refines devices)
    (hmatching : ∀ key, key ∈ s.matching ↔ key ∈ t.matching)
    (hhosts : ∀ i, s.hosts.find i = t.hosts.find i) : SameTable s.table t.table := by
  have hexpected : ∀ id i, s.Expected devices id i ↔ t.Expected devices id i := by
    intro id i
    unfold Expected HostOf
    refine exists_congr fun key => ?_
    rw [hmatching key, hhosts i]
  refine ⟨fun id => ?_, fun m n d e hd he hde => ?_⟩
  · exact ((hs.present id).trans (exists_congr (hexpected id))).trans (ht.present id).symm
  · obtain ⟨hnodup, hmem⟩ := hs.listed m d hd
    obtain ⟨hnodup', hmem'⟩ := ht.listed n e he
    refine (List.perm_ext_iff_of_nodup hnodup hnodup').mpr fun path => ?_
    rw [hmem, hmem', hde]
    exact exists_congr fun i => and_congr_left fun _ => hexpected e.identity i

/-- **The order of discovery does not show in the table**, for runs whose events meet the condition:
the table is the map in every state, and two runs that end with the same devices and the same
hosts end with the same table. -/
theorem sameTable_of_reaches {hosts hosts' : Table ℕ CString}
    (hs : Reaches (step lib devices) (KeepsOrder lib devices) (init hosts) s)
    (ht : Reaches (step lib devices) (KeepsOrder lib devices) (init hosts') t) :
    s.Refines devices ∧ ((∀ key, key ∈ s.matching ↔ key ∈ t.matching) →
      (∀ i, s.hosts.find i = t.hosts.find i) → SameTable s.table t.table) :=
  ⟨(refines_of_discovery hs).1, fun hmatching hhosts => sameTable_of_refines
    (refines_of_discovery hs).1 (refines_of_discovery ht).1 hmatching hhosts⟩

/-! ### Two orders, and what the condition leaves out -/

/-- Every device has the same address and the same identity. -/
def oneDevice (mac _key : CString) : GmapDevice := ⟨some mac, some ['O'], some ['S'], some ['P']⟩

/-- One host without an address. -/
def oneHost : Table ℕ CString := Table.empty.put 1 []

theorem hostOf_oneHost {mac : CString} (address : CString) (hs : s.hosts.entries = [(1, address)]) :
    s.HostOf (oneDevice mac) key i ↔ i = 1 ∧ address.EqIgnoringCase mac := by
  constructor
  · rintro ⟨mac', address', hmac, hfind, hcase⟩
    obtain rfl := Option.some.inj hmac
    have hmem := Table.find_eq_some.mp hfind
    rw [hs, List.mem_singleton, Prod.mk.injEq] at hmem
    obtain ⟨rfl, rfl⟩ := hmem
    exact ⟨rfl, hcase⟩
  · rintro ⟨rfl, hcase⟩
    refine ⟨mac, address, rfl, Table.find_eq_some.mpr ?_, hcase⟩
    rw [hs]
    exact List.mem_singleton_self _

/-- A host gets its address before the device matches, and after that. -/
theorem sameTable_two : ∃ s t,
    Reaches (step firstMatch (oneDevice ['1'])) (KeepsOrder firstMatch (oneDevice ['1']))
      (init oneHost) s ∧
    Reaches (step firstMatch (oneDevice ['1'])) (KeepsOrder firstMatch (oneDevice ['1']))
      (init oneHost) t ∧
    s.table.instances.entries = [(1, ⟨⟨['O'], ['S'], ['P']⟩, hostText [1]⟩)] ∧
    SameTable s.table t.table := by
  have hrun : (exec (step firstMatch (oneDevice ['1'])) (init oneHost)
      [.hostPhysChanged 1 ['1'], .startMatching ['k']]).map
      (fun s => (s.matching, s.hosts.entries, s.table.instances.entries)) =
        some ([['k']], [(1, ['1'])], [(1, ⟨⟨['O'], ['S'], ['P']⟩, hostText [1]⟩)]) := by
    decide +kernel
  have hrun' : (exec (step firstMatch (oneDevice ['1'])) (init oneHost)
      [.startMatching ['k'], .hostPhysChanged 1 ['1']]).map
      (fun s => (s.matching, s.hosts.entries)) = some ([['k']], [(1, ['1'])]) := by
    decide +kernel
  obtain ⟨s, hs, hview⟩ := Option.map_eq_some_iff.mp hrun
  obtain ⟨hmatching, hrest⟩ := Prod.mk.inj hview
  obtain ⟨hhosts, htable⟩ := Prod.mk.inj hrest
  obtain ⟨t, ht, hview'⟩ := Option.map_eq_some_iff.mp hrun'
  obtain ⟨hmatching', hhosts'⟩ := Prod.mk.inj hview'
  have hreach : Reaches (step firstMatch (oneDevice ['1']))
      (KeepsOrder firstMatch (oneDevice ['1'])) (init oneHost) s := by
    refine reaches_of_exec hs ⟨fun key hkey => absurd hkey List.not_mem_nil, fun u hu =>
      ⟨⟨fun id hid i hi => ?_, fun hkey => absurd hkey ?_⟩, fun v hv => trivial⟩⟩
    · obtain rfl := Option.some.inj hu
      obtain ⟨rfl, -⟩ := (hostOf_oneHost ['1'] rfl).mp hi
      refine ⟨fun j hj => ((hostOf_oneHost ['1'] rfl).mp hj).1, trivial, ?_⟩
      obtain rfl := Option.some.inj hid
      exact ⟨by decide, Or.inr (by decide +kernel)⟩
    · obtain rfl := Option.some.inj hu
      exact List.not_mem_nil
  have hreach' : Reaches (step firstMatch (oneDevice ['1']))
      (KeepsOrder firstMatch (oneDevice ['1'])) (init oneHost) t := by
    refine reaches_of_exec ht ⟨⟨fun id hid i hi => ?_, fun hkey => absurd hkey List.not_mem_nil⟩,
      fun u hu => ⟨fun key hkey id hid => ⟨fun hi => ?_, fun mac hmac hcase => ?_⟩,
        fun v hv => trivial⟩⟩
    · obtain ⟨-, hcase⟩ := (hostOf_oneHost [] rfl).mp hi
      exact absurd hcase (by decide)
    · obtain rfl := Option.some.inj hu
      obtain ⟨-, hcase⟩ := (hostOf_oneHost [] rfl).mp hi
      exact absurd hcase (by decide)
    · obtain rfl := Option.some.inj hu
      obtain rfl := Option.some.inj hmac
      obtain rfl := Option.some.inj hid
      refine ⟨rfl, List.cons_ne_nil _ _, fun i hi => ?_, fun other hother _ => ?_, trivial,
        by decide, Or.inr (by decide +kernel)⟩
      · obtain ⟨-, hcase⟩ := (hostOf_oneHost [] rfl).mp hi
        exact absurd hcase (by decide)
      · exact (List.mem_singleton.mp hother).trans (List.mem_singleton.mp hkey).symm
  refine ⟨s, t, hreach, hreach', htable, (sameTable_of_reaches hreach hreach').2 (fun key => ?_)
    fun i => ?_⟩
  · rw [hmatching, hmatching']
  · rw [Table.find, Table.find, hhosts, hhosts']

/-- Devices start to match, and hosts without an address get one. -/
def Discovers (s : ManageableDevices) : DeviceEvent → Prop
  | .startMatching _ => True
  | .stopMatching _ _ => False
  | .hostPhysChanged host physaddress => s.hosts.find host = some [] ∧ physaddress ≠ []

/-- A device whose address is written with other letters is listed if the host comes first. -/
theorem not_sameTable_letters : ¬∀ (lib : BusLibrary) (devices : CString → GmapDevice)
    (hosts : Table ℕ CString) (s t : ManageableDevices),
    Reaches (step lib devices) Discovers (init hosts) s →
    Reaches (step lib devices) Discovers (init hosts) t →
    (∀ key, key ∈ s.matching ↔ key ∈ t.matching) → (∀ i, s.hosts.find i = t.hosts.find i) →
    SameTable s.table t.table := by
  intro hall
  have hrun : (exec (step firstMatch (oneDevice ['A'])) (init oneHost)
      [.hostPhysChanged 1 ['a'], .startMatching ['k']]).map
      (fun s => (s.matching, s.hosts.entries, s.table.instances.entries)) =
        some ([['k']], [(1, ['a'])], [(1, ⟨⟨['O'], ['S'], ['P']⟩, hostText [1]⟩)]) := by
    decide +kernel
  have hrun' : (exec (step firstMatch (oneDevice ['A'])) (init oneHost)
      [.startMatching ['k'], .hostPhysChanged 1 ['a']]).map
      (fun s => (s.matching, s.hosts.entries, s.table.instances.entries)) =
        some ([['k']], [(1, ['a'])], []) := by
    decide +kernel
  obtain ⟨s, hs, hview⟩ := Option.map_eq_some_iff.mp hrun
  obtain ⟨hmatching, hrest⟩ := Prod.mk.inj hview
  obtain ⟨hhosts, htable⟩ := Prod.mk.inj hrest
  obtain ⟨t, ht, hview'⟩ := Option.map_eq_some_iff.mp hrun'
  obtain ⟨hmatching', hrest'⟩ := Prod.mk.inj hview'
  obtain ⟨hhosts', htable'⟩ := Prod.mk.inj hrest'
  have happears : ∀ u : ManageableDevices, u.hosts = oneHost →
      u.Discovers (.hostPhysChanged 1 ['a']) := by
    intro u hu
    refine ⟨?_, List.cons_ne_nil _ _⟩
    rw [hu]
    exact Table.find_put_self
  have hsame := hall firstMatch (oneDevice ['A']) oneHost s t
    (reaches_of_exec hs ⟨happears _ rfl, fun _ _ => ⟨trivial, fun _ _ => trivial⟩⟩)
    (reaches_of_exec ht ⟨trivial, fun u hu => ⟨happears u ?_, fun _ _ => trivial⟩⟩)
    (fun key => by rw [hmatching, hmatching'])
    (fun i => by rw [Table.find, Table.find, hhosts, hhosts'])
  · have hfind : s.table.instances.find 1 = some ⟨⟨['O'], ['S'], ['P']⟩, hostText [1]⟩ := by
      refine Table.find_eq_some.mpr ?_
      rw [htable]
      exact List.mem_singleton_self _
    obtain ⟨n, d, hd, -⟩ := (hsame.identities _).mp ⟨1, _, hfind, rfl⟩
    have hmem := Table.find_eq_some.mp hd
    rw [htable'] at hmem
    exact absurd hmem List.not_mem_nil
  · obtain rfl := Option.some.inj hu
    exact startMatching_hosts firstMatch (oneDevice ['A']) (init oneHost) ['k']

end ManageableDevices

end Tr069
