import Mathlib.Data.List.Flatten
import Mathlib.Data.Nat.Notation
import Tr069Manager.Lib.CString

/-!
# The list of hosts of a manageable device

`ManagementServer.ManageableDevice.{i}.Host` is a text: the paths of some rows of
`Hosts.Host.`, each with a comma after it. The plugin (`cwmp_plugin_manageable_device.c`)
appends to the text, asks with `strstr` whether a path or anything is in it, and splits it
to write it again without one path.

On a text that lists hosts the four do what they are meant to do: a search finds exactly
the paths that are listed (`Tr069.infix_hostText`), although the path of one host is nearly
part of that of another, and what is left out is the path and nothing else
(`Tr069.hostsWithout_hostText`).
-/

namespace Tr069

/-- `HOST_HOSTS_PATH`. -/
def hostHostsPath : CString := "Hosts.Host.".toList

/-- What the plugin puts before a path of the bus. -/
def devicePrefix : CString := "Device.".toList

/-- The key of a row of `Hosts.Host.` in an answer of the bus, and the path in its events. -/
def hostKey (host : ℕ) : CString := hostHostsPath ++ (Nat.toDigits 10 host ++ ['.'])

/-- The path of a host, as it is listed. -/
def hostPath (host : ℕ) : CString := devicePrefix ++ hostKey host

/-- The text without which a list is taken to be empty. -/
def hostWord : CString := "Host".toList

/-- What is left of a list of hosts without one of them: the text is split, and the rest is
put together again. -/
def hostsWithout (hosts host : CString) : CString :=
  CString.joined ',' ((CString.pieces ',' hosts).filter (· ≠ host))

/-- The text that lists some hosts. -/
def hostText (hosts : List ℕ) : CString := CString.joined ',' (hosts.map hostPath)

variable {i j : ℕ} {hosts : List ℕ}

/-! ### Paths -/

/-- What is the same in all paths, but for the first letter. -/
def hostPathRoot : CString := "evice.Hosts.Host.".toList

theorem hostPath_eq (i : ℕ) :
    hostPath i = 'D' :: (hostPathRoot ++ (Nat.toDigits 10 i ++ ['.'])) := by
  have hroot : devicePrefix ++ hostHostsPath = 'D' :: hostPathRoot := by decide
  rw [hostPath, hostKey, ← List.append_assoc, hroot, List.cons_append]

/-- A letter that is not in the constant part is nowhere in a path, but for the first one. -/
theorem not_mem_hostPath_tail {c : Char} (hc : c.isDigit = false) (hroot : c ∉ hostPathRoot)
    (hdot : c ≠ '.') (i : ℕ) : c ∉ hostPathRoot ++ (Nat.toDigits 10 i ++ ['.']) := by
  intro h
  rcases List.mem_append.mp h with h | h
  · exact hroot h
  · rcases List.mem_append.mp h with h | h
    · exact CString.not_mem_toDigits hc i h
    · exact hdot (List.mem_singleton.mp h)

theorem hostPath_ne_nil (i : ℕ) : hostPath i ≠ [] :=
  fun h => List.cons_ne_nil _ _ ((hostPath_eq i).symm.trans h)

theorem comma_not_mem_hostPath (i : ℕ) : ',' ∉ hostPath i := by
  rw [hostPath_eq, List.mem_cons, not_or]
  exact ⟨by decide, not_mem_hostPath_tail (by decide) (by decide) (by decide) i⟩

/-- No path begins within another one. -/
theorem eq_of_infix_hostPath (h : hostPath i <:+: hostPath j) : i = j := by
  obtain ⟨a, b, h⟩ := h
  rw [hostPath_eq, hostPath_eq] at h
  rcases a with - | ⟨c, a⟩
  · have hdot : ∀ n, '.' ∉ Nat.toDigits 10 n := CString.not_mem_toDigits (by decide)
    have htail := (List.cons.inj h).2
    rw [List.append_eq, List.append_assoc, List.append_cancel_left_eq, List.append_assoc,
      List.singleton_append] at htail
    have hdigits := (List.append_cons_inj_of_notMem (hdot j) List.not_mem_nil).mp htail.symm
    exact (CString.toDigits_inj hdigits.1).symm
  · -- the first letter of a path is nowhere else in it
    have htail := (List.cons.inj h).2
    refine absurd ?_ (not_mem_hostPath_tail (c := 'D') (by decide) (by decide) (by decide) j)
    rw [← htail]
    exact List.mem_append_left _ (List.mem_append_right _ List.mem_cons_self)

theorem hostPath_inj : hostPath i = hostPath j ↔ i = j :=
  ⟨fun h => eq_of_infix_hostPath (h ▸ List.infix_rfl), congrArg hostPath⟩

/-! ### Lists of them -/

theorem hostText_append (hosts : List ℕ) (i : ℕ) :
    hostText (hosts ++ [i]) = hostText hosts ++ hostPath i ++ [','] := by
  rw [hostText, hostText, CString.joined, CString.joined, List.map_append, List.flatMap_append,
    List.append_assoc, List.map_singleton, List.flatMap_singleton]

theorem pieces_hostText (hosts : List ℕ) :
    CString.pieces ',' (hostText hosts) = hosts.map hostPath := by
  refine CString.pieces_joined fun s hs => ?_
  obtain ⟨i, -, rfl⟩ := List.mem_map.mp hs
  exact ⟨hostPath_ne_nil i, comma_not_mem_hostPath i⟩

/-- **A search finds the hosts that are listed.** -/
theorem infix_hostText : hostPath i <:+: hostText hosts ↔ i ∈ hosts := by
  rw [hostText, CString.infix_joined (hostPath_ne_nil i) (comma_not_mem_hostPath i)]
  constructor
  · rintro ⟨s, hs, h⟩
    obtain ⟨j, hj, rfl⟩ := List.mem_map.mp hs
    exact eq_of_infix_hostPath h ▸ hj
  · exact fun h => ⟨hostPath i, List.mem_map_of_mem h, List.infix_rfl⟩

/-- A text that lists no host does not have the word in it, and every other one has. -/
theorem hostWord_infix_hostText : hostWord <:+: hostText hosts ↔ hosts ≠ [] := by
  rw [hostText, CString.infix_joined (by decide) (by decide)]
  constructor
  · rintro ⟨s, hs, -⟩ rfl
    exact absurd hs List.not_mem_nil
  · intro h
    obtain ⟨i, hi⟩ := List.exists_mem_of_ne_nil _ h
    have hword : hostWord <:+: hostHostsPath := by decide
    exact ⟨hostPath i, List.mem_map_of_mem hi, hword.trans
      ((List.prefix_append _ _).isInfix.trans (List.suffix_append _ _).isInfix)⟩

/-- A list without some of its hosts is not longer. -/
theorem length_hostText_filter_le (p : ℕ → Bool) (hosts : List ℕ) :
    (hostText (hosts.filter p)).length ≤ (hostText hosts).length := by
  rw [hostText, hostText, CString.joined, CString.joined]
  exact ((List.filter_sublist.map hostPath).flatMap _).length_le

/-- **The path of a host is taken out**, and the others are left in their order. -/
theorem hostsWithout_hostText :
    hostsWithout (hostText hosts) (hostPath i) = hostText (hosts.filter (· ≠ i)) := by
  rw [hostsWithout, pieces_hostText, List.filter_map, hostText]
  congr 2
  refine List.filter_congr fun j _ => ?_
  rw [Function.comp_apply]
  exact decide_eq_decide.mpr (not_congr hostPath_inj)

end Tr069
