import Tr069Manager.Lib.CString

/-!
# Pointers that walk through a C string

A loop over a string of C reads one character through a pointer and moves the pointer by one,
forwards or backwards, until it likes what it reads. Nothing in the language keeps such a
pointer inside of the string: what it may read are the characters of the string and the NUL
behind them, and `CString.read` has no value anywhere else.

A loop that goes on while it reads a given character (`CString.walkWhile`) stays inside when
there is a character that stops it. Forwards this is the NUL, at the latest
(`CString.walkWhile_forward`); backwards there is none unless the loop begins on one
(`CString.walkWhile_stop`).
-/

namespace CString

/-- The character that ends a string. -/
def nul : Char := Char.ofNat 0

/-- What is read through a pointer: a character of the string, or the NUL behind it. -/
def read (s : CString) (i : Int) : Option Char :=
  if 0 ≤ i then (s ++ [nul])[i.toNat]? else none

/-- `while(*p == c) p += step`, as long as the fuel lasts; `none` also if the loop reads
outside of the string. -/
def walkWhile (c : Char) (step : Int) (s : CString) : Nat → Int → Option Int
  | 0, _ => none
  | fuel + 1, i =>
    match s.read i with
    | none => none
    | some d => if d = c then walkWhile c step s fuel (i + step) else some i

/-- `strchr` from a pointer on; `none` if the pointer is not in the string. -/
def strchrFrom (s : CString) (i : Nat) (c : Char) : Option (Option Nat) :=
  if i ≤ s.length then some ((strchr (s.drop i) c).map (i + ·)) else none

@[simp]
theorem read_natCast (s : CString) (i : Nat) : s.read (i : Int) = (s ++ [nul])[i]? := by
  rw [read, if_pos (Int.natCast_nonneg i), Int.toNat_natCast]

/-- In front of the NUL are the characters of the string. -/
theorem read_of_lt {s : CString} {i : Nat} (h : i < s.length) : s.read i = s[i]? := by
  rw [read_natCast, List.getElem?_append_left h]

theorem read_length (s : CString) : s.read s.length = some nul := by
  rw [read_natCast, List.getElem?_append_right le_rfl]
  simp

/-- A loop that begins on another character does not move. -/
theorem walkWhile_stop {c d : Char} {step : Int} {s : CString} {fuel : Nat} {i : Int}
    (hread : s.read i = some d) (hd : d ≠ c) : walkWhile c step s (fuel + 1) i = some i := by
  rw [walkWhile, hread]
  exact if_neg hd

theorem walkWhile_go {c : Char} {step : Int} {s : CString} {fuel : Nat} {i : Int}
    (hread : s.read i = some c) :
    walkWhile c step s (fuel + 1) i = walkWhile c step s fuel (i + step) := by
  rw [walkWhile, hread]
  exact if_pos rfl

/-- **A loop forwards stays in the string**: it comes to the first place, from where it begins
on, that has another character, the NUL at the latest. -/
theorem walkWhile_forward {c : Char} (hc : c ≠ nul) {s : CString} {fuel i : Nat}
    (hi : i ≤ s.length) (hfuel : s.length - i < fuel) :
    walkWhile c 1 s fuel i = some ((i + (s.drop i).findIdx (· != c) : Nat) : Int) := by
  induction fuel generalizing i with
  | zero => omega
  | succ fuel ih =>
    rcases Nat.eq_or_lt_of_le hi with rfl | hlt
    · rw [walkWhile_stop (read_length s) hc.symm, List.drop_length]
      rfl
    · have hread : s.read i = some s[i] := by rw [read_of_lt hlt, List.getElem?_eq_getElem hlt]
      rw [List.drop_eq_getElem_cons hlt, List.findIdx_cons]
      by_cases hci : s[i] = c
      · have hstay : (s[i] != c) = false := by simp [hci]
        rw [walkWhile_go (hci ▸ hread), hstay, cond_false, ← Int.natCast_succ,
          ih (i := i + 1) (by omega) (by omega)]
        exact congrArg (fun n : Nat => some (n : Int)) (by omega)
      · have hstop : (s[i] != c) = true := by simpa using hci
        rw [walkWhile_stop hread hci, hstop]
        rfl

/-- A loop backwards stays where it begins if the character there stops it. -/
theorem walkWhile_of_getElem? {c d : Char} {step : Int} {s : CString} {fuel i : Nat}
    (hi : s[i]? = some d) (hd : d ≠ c) : walkWhile c step s (fuel + 1) i = some (i : Int) := by
  refine walkWhile_stop ?_ hd
  rw [read_of_lt (List.getElem?_eq_some_iff.mp hi).1, hi]

/-! ### On both sides of a place -/

section Sides

variable {s pre post : CString} {c d : Char}

/-- The first place of a character. -/
theorem strchr_append_cons (h : c ∉ pre) : strchr (pre ++ c :: post) c = some pre.length := by
  refine List.findIdx?_eq_some_iff_getElem.mpr ⟨by simp, by simp, fun j hj => ?_⟩
  rw [List.getElem_append_left hj, Bool.not_eq_true, beq_eq_false_iff_ne]
  exact fun heq => h (heq ▸ List.getElem_mem hj)

theorem strchr_eq_none (h : c ∉ s) : strchr s c = none := by
  refine List.findIdx?_eq_none_iff.mpr fun d hd => ?_
  rw [beq_eq_false_iff_ne]
  rintro rfl
  exact h hd

/-- The character in front of a place that is not the first one. -/
theorem read_before (h : pre ≠ []) : (pre ++ post).read ((pre.length : Int) - 1) = pre.getLast? := by
  have hpos := List.length_pos_iff.mpr h
  have hcast : (pre.length : Int) - 1 = ((pre.length - 1 : Nat) : Int) := by omega
  rw [hcast, read_natCast, List.append_assoc, List.getElem?_append_left (by omega),
    List.getLast?_eq_getElem?]

/-- The character behind a place. -/
theorem read_behind :
    (pre ++ c :: post).read ((pre.length : Int) + 1) = some (post.head?.getD nul) := by
  rw [← Int.natCast_succ, read_natCast, List.append_assoc, List.cons_append,
    List.getElem?_append_right (Nat.le_succ _)]
  rcases post with - | ⟨d, post⟩ <;> simp

/-- A search from behind a place on. -/
theorem strchrFrom_behind :
    (pre ++ c :: post).strchrFrom (pre.length + 1) d =
      some ((strchr post d).map (pre.length + 1 + ·)) := by
  have hdrop : (pre ++ c :: post).drop (pre.length + 1) = post := by
    rw [← List.drop_drop, List.drop_left, List.drop_succ_cons, List.drop_zero]
  rw [strchrFrom, if_pos (by rw [List.length_append, List.length_cons]; omega), hdrop]

end Sides

/-- A token has no more characters than the string it is taken from. -/
theorem length_le_of_strtok {delim : Char} {s tok rest : CString}
    (h : strtok delim s = some (tok, rest)) : tok.length ≤ s.length := by
  rw [strtok] at h
  split at h
  · cases h
  · next c t hdrop =>
    obtain ⟨rfl, -⟩ := Prod.mk.inj (Option.some.inj h)
    rw [← hdrop]
    exact ((List.takeWhile_sublist _).trans (List.dropWhile_sublist _)).length_le

end CString
