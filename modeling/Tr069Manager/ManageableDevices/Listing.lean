import Tr069Manager.ManageableDevices.Plugin

/-!
# What a table of manageable devices says

A table stands for a *listing*: the relation between identities and hosts that its instances
write down (`Tr069.DeviceTable.Represents`). There is one instance for each identity that
has a host, and its text lists the hosts of the identity, each once.

On such a table the operations of the plugin do what they are named for. To add a host to an
identity adds the pair to the listing, if the identity can be searched for and the texts fit
(`Tr069.DeviceTable.Represents.addManageableDevice`). To remove a host removes it from
one identity – the one that comes first – so it does what it should if there is only one
that has the host (`Tr069.DeviceTable.Represents.removeHost`).
-/

namespace Tr069

namespace DeviceTable

/-- The table writes down a listing. -/
structure Represents (t : DeviceTable) (M : DeviceIdentity → ℕ → Prop) : Prop where
  unique : ∀ m n d e, t.instances.find m = some d → t.instances.find n = some e →
    d.identity = e.identity → m = n
  listed : ∀ n d, t.instances.find n = some d → ∃ hosts : List ℕ, d.host = hostText hosts ∧
    hosts.Nodup ∧ hosts ≠ [] ∧ ∀ i, i ∈ hosts ↔ M d.identity i
  present : ∀ id i, M id i → ∃ n d, t.instances.find n = some d ∧ d.identity = id
  short : ∀ n d, t.instances.find n = some d → d.host.length ≤ hostMaximum
  fresh : ∀ n d, t.instances.find n = some d → n ≤ t.lastIndex

/-- The text of the hosts of an identity, which is empty if there is none. -/
def listedOf (t : DeviceTable) (id : DeviceIdentity) : CString :=
  ((t.instances.first fun d => d.identity = id).map fun e => e.2.host).getD []

/-- A host can be added to an identity: it is there, or the texts fit. -/
def Accepts (lib : BusLibrary) (t : DeviceTable) (id : DeviceIdentity) (i : ℕ) : Prop :=
  lib.Plain id ∧ id.Fits ∧
    (hostPath i <:+: t.listedOf id ∨ (t.listedOf id ++ hostPath i ++ [',']).length ≤ hostMaximum)

variable {lib : BusLibrary} {t u : DeviceTable} {M M' : DeviceIdentity → ℕ → Prop}
  {id : DeviceIdentity} {i n : ℕ} {d : ManageableDevice}

/-! ### Searches -/

theorem mem_identities :
    (n, id) ∈ t.identities ↔ ∃ d, t.instances.find n = some d ∧ d.identity = id := by
  rw [identities, List.mem_map]
  constructor
  · rintro ⟨⟨m, d⟩, hmem, heq⟩
    obtain ⟨rfl, rfl⟩ := Prod.mk.inj heq
    exact ⟨d, Table.find_eq_some.mpr hmem, rfl⟩
  · rintro ⟨d, hd, rfl⟩
    exact ⟨(n, d), Table.find_eq_some.mp hd, rfl⟩

/-- The instance that is found lists the host. -/
theorem infix_of_getMatchingPath (h : t.getMatchingPath lib (hostPath i) = some n) :
    ∃ d, t.instances.find n = some d ∧ hostPath i <:+: d.host := by
  obtain ⟨⟨m, d⟩, hfind, rfl⟩ := Option.map_eq_some_iff.mp h
  have hmem := (lib.order_perm _).mem_iff.mp (List.mem_of_find?_eq_some hfind)
  have hsearch := List.find?_some hfind
  exact ⟨d, Table.find_eq_some.mpr hmem, CString.strstr_isSome.mp hsearch⟩

/-- If none is found, none lists the host. -/
theorem not_infix_of_getMatchingPath (h : t.getMatchingPath lib (hostPath i) = none)
    (hd : t.instances.find n = some d) : ¬hostPath i <:+: d.host := by
  intro hin
  have hmem := (lib.order_perm _).mem_iff.mpr (Table.find_eq_some.mp hd)
  have hno := List.find?_eq_none.mp (Option.map_eq_none_iff.mp h) _ hmem
  exact hno (CString.strstr_isSome.mpr hin)

namespace Represents

theorem congr (h : t.Represents M) (hM : ∀ id i, M id i ↔ M' id i) : t.Represents M' := by
  refine ⟨h.unique, fun n d hd => ?_, fun id i hi => h.present id i ((hM id i).mpr hi), h.short,
    h.fresh⟩
  obtain ⟨hosts, htext, hnodup, hne, hmem⟩ := h.listed n d hd
  exact ⟨hosts, htext, hnodup, hne, fun i => (hmem i).trans (hM _ i)⟩

/-- A host is listed in the text of its identity. -/
theorem infix_iff (h : t.Represents M) (hd : t.instances.find n = some d) :
    hostPath i <:+: d.host ↔ M d.identity i := by
  obtain ⟨hosts, htext, -, -, hmem⟩ := h.listed n d hd
  rw [htext, infix_hostText, hmem]

/-- The text of an identity is that of its instance. -/
theorem listedOf_eq (h : t.Represents M) (hd : t.instances.find n = some d) :
    t.listedOf d.identity = d.host := by
  obtain ⟨e, hfirst⟩ := Table.exists_first (p := fun e => decide (e.identity = d.identity)) hd
    (decide_eq_true rfl)
  obtain ⟨he, hp⟩ := Table.find_of_first hfirst
  have hn := h.unique e.1 n e.2 d he hd (of_decide_eq_true hp)
  rw [hn, hd] at he
  rw [listedOf, hfirst, Option.map_some, Option.getD_some, ← Option.some.inj he]

/-! ### The changes -/

/-- One instance is written: it lists the hosts of its identity, and the others are left. -/
theorem write (h : t.Represents M) (hself : u.instances.find n = some d)
    (hold : ∀ m ≠ n, u.instances.find m = t.instances.find m)
    (hown : ∀ m e, t.instances.find m = some e → e.identity = d.identity → m = n)
    (hlisted : ∃ hosts : List ℕ, d.host = hostText hosts ∧ hosts.Nodup ∧ hosts ≠ [] ∧
      ∀ i, i ∈ hosts ↔ M' d.identity i)
    (hother : ∀ id ≠ d.identity, ∀ i, M' id i ↔ M id i)
    (hback : ∀ e, t.instances.find n = some e → e.identity = d.identity)
    (hshort : d.host.length ≤ hostMaximum) (hn : n ≤ u.lastIndex)
    (hlast : t.lastIndex ≤ u.lastIndex) : u.Represents M' := by
  refine ⟨fun k m a b ha hb hab => ?_, fun m e he => ?_, fun id i hi => ?_, fun m e he => ?_,
    fun m e he => ?_⟩
  · -- an identity that the written instance shares with another one would be a second entry
    by_cases hk : k = n
    · by_cases hm : m = n
      · exact hk.trans hm.symm
      · rw [hk, hself] at ha
        rw [hold m hm] at hb
        obtain rfl := Option.some.inj ha
        exact absurd (hown m b hb hab.symm) hm
    · rw [hold k hk] at ha
      by_cases hm : m = n
      · rw [hm, hself] at hb
        obtain rfl := Option.some.inj hb
        exact absurd (hown k a ha hab) hk
      · rw [hold m hm] at hb
        exact h.unique k m a b ha hb hab
  · by_cases hm : m = n
    · rw [hm, hself] at he
      obtain rfl := Option.some.inj he
      exact hlisted
    · rw [hold m hm] at he
      obtain ⟨hosts, htext, hnodup, hne, hmem⟩ := h.listed m e he
      have hid : e.identity ≠ d.identity := fun hid => hm (hown m e he hid)
      exact ⟨hosts, htext, hnodup, hne, fun i => (hmem i).trans (hother _ hid i).symm⟩
  · -- the other identities keep their instances, as none of them was the written one
    by_cases hid : id = d.identity
    · exact ⟨n, d, hself, hid.symm⟩
    · obtain ⟨m, e, he, hident⟩ := h.present id i ((hother id hid i).mp hi)
      have hm : m ≠ n := by
        rintro rfl
        exact hid (hident.symm.trans (hback e he))
      exact ⟨m, e, (hold m hm).trans he, hident⟩
  · by_cases hm : m = n
    · rw [hm, hself] at he
      obtain rfl := Option.some.inj he
      exact hshort
    · rw [hold m hm] at he
      exact h.short m e he
  · by_cases hm : m = n
    · exact hm ▸ hn
    · rw [hold m hm] at he
      exact Nat.le_trans (h.fresh m e he) hlast

/-- One instance gets another text. -/
theorem setHost (h : t.Represents M) (hd : t.instances.find n = some d) {hosts : List ℕ}
    (hnodup : hosts.Nodup) (hne : hosts ≠ []) (hmem : ∀ i, i ∈ hosts ↔ M' d.identity i)
    (hother : ∀ id ≠ d.identity, ∀ i, M' id i ↔ M id i)
    (hshort : (hostText hosts).length ≤ hostMaximum) :
    ∃ u, t.setManageableHostParam n (hostText hosts) = some u ∧ u.Represents M' := by
  refine ⟨_, if_pos hshort, ?_⟩
  refine h.write (n := n) (d := { d with host := hostText hosts }) ?_
    (fun m hm => Table.find_modify_ne hm) (fun m e he hid => h.unique m n e d he hd hid)
    ⟨hosts, rfl, hnodup, hne, hmem⟩ hother (fun e he => ?_) hshort (h.fresh n d hd)
    (Nat.le_refl _)
  · exact Table.find_modify_self.trans (congrArg _ hd)
  · obtain rfl := Option.some.inj (hd.symm.trans he)
    rfl

/-- An instance is deleted when its identity has no host any more. -/
theorem delete (h : t.Represents M) (hd : t.instances.find n = some d)
    (hnone : ∀ i, ¬M' d.identity i) (hother : ∀ id ≠ d.identity, ∀ i, M' id i ↔ M id i) :
    (t.delManageableDevice n).Represents M' := by
  have hback : ∀ m e, (t.instances.remove n).find m = some e →
      t.instances.find m = some e ∧ e.identity ≠ d.identity := by
    intro m e he
    have hm : m ≠ n := by
      rintro rfl
      rw [Table.find_remove_self] at he
      cases he
    rw [Table.find_remove_ne hm] at he
    exact ⟨he, fun hid => hm (h.unique m n e d he hd hid)⟩
  refine ⟨fun k m a b ha hb => h.unique k m a b (hback k a ha).1 (hback m b hb).1,
    fun m e he => ?_, fun id i hi => ?_, fun m e he => h.short m e (hback m e he).1,
    fun m e he => h.fresh m e (hback m e he).1⟩
  · obtain ⟨he, hid⟩ := hback m e he
    obtain ⟨hosts, htext, hnodup, hne, hmem⟩ := h.listed m e he
    exact ⟨hosts, htext, hnodup, hne, fun i => (hmem i).trans (hother _ hid i).symm⟩
  · have hid : id ≠ d.identity := by
      rintro rfl
      exact hnone i hi
    obtain ⟨m, e, he, hident⟩ := h.present id i ((hother id hid i).mp hi)
    have hm : m ≠ n := by
      rintro rfl
      obtain rfl := Option.some.inj (hd.symm.trans he)
      exact hid hident.symm
    exact ⟨m, e, (Table.find_remove_ne hm).trans he, hident⟩

/-! ### The operations of the plugin -/

/-- A pair is added to the listing: the other identities have what they had. -/
theorem other_of_add (hM : ∀ id' j, M' id' j ↔ M id' j ∨ id' = id ∧ j = i) {id' : DeviceIdentity}
    (hne : id' ≠ id) (j : ℕ) : M' id' j ↔ M id' j :=
  (hM id' j).trans ⟨fun hj => hj.resolve_right fun hj => hne hj.1, Or.inl⟩

/-- A host is added to the instance of its identity, which may have it. -/
theorem addManageableHost (h : t.Represents M) (hd : t.instances.find n = some d)
    (hlength : hostPath i <:+: t.listedOf d.identity ∨
      (t.listedOf d.identity ++ hostPath i ++ [',']).length ≤ hostMaximum)
    (hM : ∀ id' j, M' id' j ↔ M id' j ∨ id' = d.identity ∧ j = i) :
    ∃ u, t.addManageableHost n (hostPath i) = some u ∧ u.Represents M' := by
  obtain ⟨hosts, htext, hnodup, -, hmem⟩ := h.listed n d hd
  rw [DeviceTable.addManageableHost, hd, Option.bind_some]
  rw [h.listedOf_eq hd, htext, infix_hostText] at hlength
  by_cases hi : i ∈ hosts
  · rw [if_pos (CString.strstr_isSome.mpr (htext ▸ infix_hostText.mpr hi))]
    refine ⟨t, rfl, h.congr fun id' j => ((hM id' j).trans ⟨?_, Or.inl⟩).symm⟩
    rintro (hj | ⟨rfl, rfl⟩)
    · exact hj
    · exact (hmem j).mp hi
  · -- the path is new to the text
    rw [if_neg fun hin => hi (infix_hostText.mp (htext ▸ CString.strstr_isSome.mp hin)), htext,
      ← hostText_append]
    rw [← hostText_append] at hlength
    refine h.setHost hd ?_ (List.append_ne_nil_of_right_ne_nil _ (List.cons_ne_nil _ _))
      (fun j => ?_) (fun id' hne => other_of_add hM hne) (hlength.resolve_left hi)
    · refine List.nodup_append.mpr ⟨hnodup, List.nodup_singleton i, fun j hj k hk => ?_⟩
      obtain rfl := List.mem_singleton.mp hk
      rintro rfl
      exact hi hj
    · rw [List.mem_append, List.mem_singleton, hmem, hM]
      exact or_congr_right (iff_and_self.mpr fun _ => rfl)

/-- An identity without an instance gets one. -/
theorem createManageableDevice (h : t.Represents M)
    (hnone : ¬∃ n d, t.instances.find n = some d ∧ d.identity = id) (hfits : id.Fits)
    (hshort : (hostPath i ++ [',']).length ≤ hostMaximum)
    (hM : ∀ id' j, M' id' j ↔ M id' j ∨ id' = id ∧ j = i) :
    ∃ u, t.createManageableDevice id (hostPath i) = some u ∧ u.Represents M' := by
  have hempty : ∀ j, ¬M id j := fun j hj => hnone (h.present id j hj)
  have hnew : t.instances.find (t.lastIndex + 1) = none := by
    refine Option.eq_none_iff_forall_ne_some.mpr fun d hd => ?_
    have hle := h.fresh _ d hd
    omega
  have htext : hostPath i ++ [','] = hostText [i] := (hostText_append [] i).symm
  rw [DeviceTable.createManageableDevice, if_pos ⟨hfits, hshort⟩]
  refine ⟨_, rfl, h.write (n := t.lastIndex + 1) Table.find_put_self
    (fun m hm => Table.find_put_ne hm) (fun m e he hident => absurd ⟨m, e, he, hident⟩ hnone)
    ⟨[i], htext, List.nodup_singleton i, List.cons_ne_nil _ _, fun j => ?_⟩
    (fun id' hne => other_of_add hM hne) (fun e he => ?_) hshort (Nat.le_refl _) (Nat.le_succ _)⟩
  · rw [List.mem_singleton, hM]
    exact ⟨fun hj => Or.inr ⟨rfl, hj⟩, fun hj => (hj.resolve_left (hempty j)).2⟩
  · rw [hnew] at he
    cases he

/-- An identity without an instance has no text. -/
theorem listedOf_eq_nil (hnone : ¬∃ n d, t.instances.find n = some d ∧ d.identity = id) :
    t.listedOf id = [] := by
  rw [listedOf]
  rcases hfirst : t.instances.first fun d => d.identity = id with - | e
  · rfl
  · obtain ⟨he, hp⟩ := Table.find_of_first hfirst
    exact absurd ⟨e.1, e.2, he, of_decide_eq_true hp⟩ hnone

/-- **A host is added to an identity**, if the data model accepts it. -/
theorem addManageableDevice (h : t.Represents M) (hok : t.Accepts lib id i)
    (info : ManageableDeviceInfo)
    (hid : identityOf info.manufacturerOui info.serialNumber info.productClass = some id)
    (hhost : info.host = some (hostPath i)) (hM : ∀ id' j, M' id' j ↔ M id' j ∨ id' = id ∧ j = i) :
    ∃ u, t.addManageableDevice lib (some info) = some u ∧ u.Represents M' := by
  obtain ⟨hplain, hfits, hlength⟩ := hok
  rw [DeviceTable.addManageableDevice, Option.bind_some, hid, Option.bind_some, hhost,
    Option.bind_some]
  by_cases hex : ∃ n d, t.instances.find n = some d ∧ d.identity = id
  · obtain ⟨n, d, hd, rfl⟩ := hex
    have hfind : lib.find t.identities d.identity = some n := by
      refine lib.find_only hplain (mem_identities.mpr ⟨d, hd, rfl⟩) fun m hm => ?_
      obtain ⟨e, he, hident⟩ := mem_identities.mp hm
      exact h.unique m n e d he hd hident
    rw [hfind]
    exact h.addManageableHost hd hlength hM
  · have hfind : lib.find t.identities id = none :=
      lib.find_none hplain fun n hn => hex ⟨n, mem_identities.mp hn⟩
    rw [listedOf_eq_nil hex, List.nil_append] at hlength
    rw [hfind]
    exact h.createManageableDevice hex hfits
      (hlength.resolve_left fun hin => hostPath_ne_nil i (List.infix_nil.mp hin)) hM

/-- **A host is removed**, if only one identity has it. -/
theorem removeHost (h : t.Represents M) (hi : M id i) (honly : ∀ id', M id' i → id' = id)
    (hM : ∀ id' j, M' id' j ↔ M id' j ∧ j ≠ i) :
    ∃ u, ((t.getMatchingPath lib (hostPath i)).bind fun index =>
      t.updateManageableDevice index (hostPath i)) = some u ∧ u.Represents M' := by
  rcases hpath : t.getMatchingPath lib (hostPath i) with - | n
  · obtain ⟨n, d, hd, rfl⟩ := h.present id i hi
    exact absurd ((h.infix_iff hd).mpr hi) (not_infix_of_getMatchingPath hpath hd)
  · obtain ⟨d, hd, hin⟩ := infix_of_getMatchingPath hpath
    obtain ⟨hosts, htext, hnodup, -, hmem⟩ := h.listed n d hd
    -- whichever instance comes first in the order of the hash table, it is the right one
    have hid := honly d.identity ((h.infix_iff hd).mp hin)
    have hother : ∀ id' ≠ d.identity, ∀ j, M' id' j ↔ M id' j := by
      intro id' hne j
      refine (hM id' j).trans ⟨fun hj => hj.1, fun hj => ⟨hj, ?_⟩⟩
      rintro rfl
      exact hne ((honly id' hj).trans hid.symm)
    have hrest : ∀ j, j ∈ hosts.filter (· ≠ i) ↔ M' d.identity j := by
      intro j
      rw [List.mem_filter, hmem, hM, decide_eq_true_iff]
    rw [Option.bind_some, updateManageableDevice, hd, Option.bind_some, htext,
      hostsWithout_hostText]
    by_cases hempty : hosts.filter (· ≠ i) = []
    · -- the last host: no "Host" is left in the text
      rw [hempty] at hrest ⊢
      rw [if_pos (by decide)]
      exact ⟨_, rfl, h.delete hd (fun j hj => List.not_mem_nil ((hrest j).mpr hj)) hother⟩
    · have hword := CString.strstr_isSome.mpr (hostWord_infix_hostText.mpr hempty)
      rw [if_neg fun hnone => by rw [Option.isNone_iff_eq_none.mp hnone] at hword; cases hword]
      refine h.setHost hd (hnodup.filter _) hempty hrest hother ?_
      have hle := length_hostText_filter_le (fun j => decide (j ≠ i)) hosts
      have hshort := h.short n d hd
      rw [htext] at hshort
      exact Nat.le_trans hle hshort

/-- A host that no identity has is not found. -/
theorem getMatchingPath_none (h : t.Represents M) (hi : ∀ id, ¬M id i) :
    t.getMatchingPath lib (hostPath i) = none := by
  refine Option.eq_none_iff_forall_ne_some.mpr fun n hn => ?_
  obtain ⟨d, hd, hin⟩ := infix_of_getMatchingPath hn
  exact hi _ ((h.infix_iff hd).mp hin)

theorem empty : Represents ⟨Table.empty, 0⟩ fun _ _ => False := by
  have hnone : ∀ n d, (Table.empty : Table ℕ ManageableDevice).find n ≠ some d := by
    intro n d hd
    exact absurd (Table.find_eq_some.mp hd) List.not_mem_nil
  exact ⟨fun m _ d _ hd => absurd hd (hnone m d), fun n d hd => absurd hd (hnone n d),
    fun _ _ h => h.elim, fun n d hd => absurd hd (hnone n d), fun n d hd => absurd hd (hnone n d)⟩

end Represents

end DeviceTable

end Tr069
