import Mathlib.Data.List.Infix
import Mathlib.Data.List.TakeWhile

/-!
# C strings and their tokens

A string of C is the list of its characters, without the NUL that ends it, and a pointer
into it is an index; the index that equals the length is the NUL. The functions here are
those of `string.h` that a tokenising loop or a scanner uses: `strtok` with one delimiter,
`strchr`, `strstr`, and `strncasecmp` in the C locale, of which only the sign is kept.

Two facts carry most uses. A loop over `strtok` visits the non-empty pieces between the
delimiters, in order (`CString.pieces_of_strtok`). And a comparison limited to the length of its
first argument does not ask whether two strings are equal, but whether the first one is a
*prefix* of the second (`CString.strncasecmp_eq_iff`). A list that is kept as one text, with
a delimiter after each string, is read back by its pieces and can be searched without being
split (`CString.pieces_joined`, `CString.infix_joined`).
-/

/-- A string of C, without its NUL. -/
abbrev CString := List Char

namespace CString

/-! ### Searching and comparing -/

/-- `strchr`: the first place of a character. -/
def strchr (s : CString) (c : Char) : Option Nat := s.findIdx? (· == c)

/-- `strstr`: the first place of a string. -/
def strstr (s t : CString) : Option Nat := s.tails.findIdx? (t.isPrefixOf ·)

/-- The sign of `strncasecmp`: at most `n` characters are compared, and a string that ends
comes before one that goes on. -/
def strncasecmp : CString → CString → Nat → Ordering
  | _, _, 0 => .eq
  | [], [], _ + 1 => .eq
  | [], _ :: _, _ + 1 => .lt
  | _ :: _, [], _ + 1 => .gt
  | c :: s, d :: t, n + 1 =>
    if c.toLower = d.toLower then strncasecmp s t n
    else if c.toLower < d.toLower then .lt else .gt

/-- `strstr` finds what is part of the text. -/
theorem strstr_isSome {s t : CString} : (strstr s t).isSome = true ↔ t <:+: s := by
  rw [strstr, List.findIdx?_isSome, List.any_eq_true, List.infix_iff_prefix_suffix]
  refine exists_congr fun u => ?_
  rw [List.mem_tails, List.isPrefixOf_iff_prefix, and_comm]

theorem strstr_eq_none {s t : CString} : strstr s t = none ↔ ¬t <:+: s := by
  rw [← strstr_isSome, Bool.not_eq_true, Option.isSome_eq_false_iff, Option.isNone_iff_eq_none]

/-- **The place `strstr` finds** is the first one. -/
theorem strstr_eq_some {s t : CString} {n : Nat} (h : strstr s t = some n) :
    (∃ pre post, s = pre ++ (t ++ post) ∧ pre.length = n) ∧
      ∀ pre post, s = pre ++ (t ++ post) → n ≤ pre.length := by
  obtain ⟨hn, hfound, hfirst⟩ := List.findIdx?_eq_some_iff_getElem.mp h
  rw [List.getElem_tails, List.isPrefixOf_iff_prefix] at hfound
  rw [List.length_tails] at hn
  constructor
  · obtain ⟨post, hpost⟩ := hfound
    refine ⟨s.take n, post, ?_, List.length_take_of_le (by omega)⟩
    rw [hpost, List.take_append_drop]
  · rintro pre post rfl
    by_contra hlt
    have := hfirst pre.length (by omega)
    rw [List.getElem_tails, List.drop_left, List.isPrefixOf_iff_prefix] at this
    exact this (List.prefix_append t post)

/-- What has no earlier place is found. -/
theorem strstr_append {t pre post : CString}
    (h : ∀ p q, pre ++ (t ++ post) = p ++ (t ++ q) → pre.length ≤ p.length) :
    strstr (pre ++ (t ++ post)) t = some pre.length := by
  rcases hfound : strstr (pre ++ (t ++ post)) t with - | n
  · exact absurd ⟨pre, post, List.append_assoc pre t post⟩ (strstr_eq_none.mp hfound)
  · obtain ⟨⟨p, q, hp, rfl⟩, hfirst⟩ := strstr_eq_some hfound
    rw [Nat.le_antisymm (hfirst pre post rfl) (h p q hp)]

/-- A character that does not stand in a text does not come before the end of it. -/
theorem length_le_of_not_mem {c : Char} {pre post p q : CString} (h : c ∉ pre)
    (hp : pre ++ c :: post = p ++ c :: q) : pre.length ≤ p.length := by
  rcases List.append_eq_append_iff.mp hp with ⟨m, rfl, -⟩ | ⟨m, rfl, hm⟩
  · rw [List.length_append]
    exact Nat.le_add_right _ _
  · rcases m with - | ⟨d, m⟩
    · rw [List.append_nil]
    · obtain ⟨rfl, -⟩ := List.cons.inj hm
      exact absurd (List.mem_append_right p List.mem_cons_self) h

/-- A character that does not stand before its place is found there. -/
theorem strstr_append_cons {c : Char} {pre post : CString} (h : c ∉ pre) :
    strstr (pre ++ c :: post) [c] = some pre.length :=
  strstr_append fun _ _ hp => length_le_of_not_mem h hp

/-- **A search with a character that the text has once**: what stands before it in the one
ends what stands before it in the other, and what comes after it begins what comes after. -/
theorem append_cons_infix_iff {c : Char} {s t pre post : CString} (hpre : c ∉ pre)
    (hpost : c ∉ post) : s ++ c :: t <:+: pre ++ c :: post ↔ s <:+ pre ∧ t <+: post := by
  constructor
  · rintro ⟨before, after, h⟩
    rw [← List.append_assoc, List.append_assoc _ (c :: t), List.cons_append] at h
    obtain ⟨rfl, -, rfl⟩ := (List.append_cons_inj_of_notMem hpre hpost).mp h.symm
    exact ⟨⟨before, rfl⟩, ⟨after, rfl⟩⟩
  · rintro ⟨⟨before, rfl⟩, ⟨after, rfl⟩⟩
    exact ⟨before, after, by simp⟩

/-- Two strings are the same when the case of letters is ignored. -/
def EqIgnoringCase (s t : CString) : Prop := s.map Char.toLower = t.map Char.toLower

/-- The first string is how the second one begins, ignoring case. -/
def PrefixIgnoringCase (s t : CString) : Prop := s.map Char.toLower <+: t.map Char.toLower

instance (s t : CString) : Decidable (EqIgnoringCase s t) :=
  inferInstanceAs (Decidable (_ = _))

instance (s t : CString) : Decidable (PrefixIgnoringCase s t) :=
  inferInstanceAs (Decidable (_ <+: _))

/-- A string begins like every string it is equal to. -/
theorem EqIgnoringCase.prefix {s t : CString} (h : EqIgnoringCase s t) :
    PrefixIgnoringCase s t :=
  ⟨[], (List.append_nil _).trans h⟩

/-- **A comparison limited to `n` characters of a string that has them** finds the second
string equal exactly if those characters begin it. -/
theorem strncasecmp_eq_iff {s t : CString} {n : Nat} (hn : n ≤ s.length) :
    strncasecmp s t n = .eq ↔ PrefixIgnoringCase (s.take n) t := by
  induction s generalizing t n with
  | nil =>
    obtain rfl : n = 0 := by simpa using hn
    simp [strncasecmp, PrefixIgnoringCase]
  | cons c s ih =>
    cases n with
    | zero => simp [strncasecmp, PrefixIgnoringCase]
    | succ n =>
      cases t with
      | nil => simp [strncasecmp, PrefixIgnoringCase]
      | cons d t =>
        have hn' : n ≤ s.length := by simpa using hn
        rw [strncasecmp, PrefixIgnoringCase, List.take_succ_cons, List.map_cons, List.map_cons,
          List.cons_prefix_cons]
        split
        · next hcd => exact (ih hn').trans ⟨fun h => ⟨hcd, h⟩, fun h => h.2⟩
        · next hcd =>
          refine ⟨fun h => absurd h ?_, fun h => absurd h.1 hcd⟩
          split <;> simp

/-! ### Tokens -/

/-- `strtok` on a string with one delimiter: delimiters at the front are skipped, and the
token is what stands before the next one. With the token comes the string that the next
call with `NULL` goes on with. -/
def strtok (delim : Char) (s : CString) : Option (CString × CString) :=
  match s.dropWhile (· == delim) with
  | [] => none
  | c :: t => some ((c :: t).takeWhile (· != delim), ((c :: t).dropWhile (· != delim)).drop 1)

/-- The non-empty pieces of a string between delimiters. -/
def pieces (delim : Char) (s : CString) : List CString :=
  (s.splitOn delim).filter (· ≠ [])

/-- No delimiter stands between two delimiters. -/
theorem not_mem_of_mem_splitOn {delim : Char} {s piece : CString}
    (h : piece ∈ s.splitOn delim) : delim ∉ piece := by
  induction s generalizing piece with
  | nil =>
    obtain rfl : piece = [] := by simpa using h
    simp
  | cons c s ih =>
    rw [List.splitOn_cons_eq_if_modifyHead] at h
    split at h
    · rcases List.mem_cons.mp h with rfl | h
      · simp
      · exact ih h
    · next hc =>
      rcases hpieces : s.splitOn delim with - | ⟨head, tail⟩
      · exact absurd hpieces (List.splitOn_ne_nil _ _)
      · rw [hpieces] at h ih
        rcases List.mem_cons.mp h with rfl | h
        · rw [List.mem_cons, not_or]
          exact ⟨fun hd => hc (by simp [hd]), ih List.mem_cons_self⟩
        · exact ih (List.mem_cons_of_mem _ h)

/-- The pieces of non-empty strings that are joined by a delimiter they do not have. -/
theorem pieces_intercalate {delim : Char} {ss : List CString}
    (h : ∀ s ∈ ss, s ≠ [] ∧ delim ∉ s) : pieces delim ([delim].intercalate ss) = ss := by
  rcases ss with - | ⟨s, ss⟩
  · rfl
  · rw [pieces, List.splitOn_intercalate delim (fun s hs => (h s hs).2) (List.cons_ne_nil _ _)]
    exact List.filter_eq_self.mpr fun s hs => decide_eq_true (h s hs).1

/-- A piece without its delimiter, and then the rest. -/
theorem pieces_append_cons {delim : Char} {s t : CString} (h : delim ∉ s) :
    pieces delim (s ++ delim :: t) = (if s = [] then [] else [s]) ++ pieces delim t := by
  rw [pieces, List.splitOn_append_cons_of_beq _ _ (beq_self_eq_true delim),
    List.splitOn_eq_singleton h, List.filter_append, pieces]
  by_cases hs : s = [] <;> simp [hs]

/-- `strtok` finds nothing in a string without a piece. -/
theorem pieces_of_strtok_none {delim : Char} {s : CString} (h : strtok delim s = none) :
    pieces delim s = [] := by
  induction s with
  | nil => rfl
  | cons c s ih =>
    rw [strtok, List.dropWhile_cons] at h
    by_cases hc : c = delim
    · subst hc
      rw [if_pos (beq_self_eq_true c)] at h
      rw [show (c :: s) = [] ++ c :: s from rfl, pieces_append_cons (by simp), if_pos rfl,
        List.nil_append]
      exact ih h
    · rw [if_neg (by simpa using hc)] at h
      cases h

/-- **`strtok` takes the first piece off a string**, and leaves a string with the others
that is shorter. -/
theorem pieces_of_strtok {delim : Char} {s tok rest : CString}
    (h : strtok delim s = some (tok, rest)) :
    pieces delim s = tok :: pieces delim rest ∧ rest.length < s.length := by
  induction s with
  | nil => cases h
  | cons c s ih =>
    by_cases hc : c = delim
    · -- a delimiter at the front
      subst hc
      rw [strtok, List.dropWhile_cons, if_pos (beq_self_eq_true c)] at h
      obtain ⟨hp, hlen⟩ := ih h
      refine ⟨?_, by rw [List.length_cons]; omega⟩
      rw [← hp, show (c :: s) = [] ++ c :: s from rfl, pieces_append_cons (by simp), if_pos rfl,
        List.nil_append]
    · have hdrop : (c :: s).dropWhile (· == delim) = c :: s := by
        rw [List.dropWhile_cons, if_neg (by simpa using hc)]
      have hne : (c != delim) = true := by simpa using hc
      simp only [strtok, hdrop] at h
      obtain ⟨rfl, rfl⟩ := Prod.mk.inj (Option.some.inj h)
      have hsplit := List.takeWhile_append_dropWhile (p := (· != delim)) (l := c :: s)
      have hmem : delim ∉ (c :: s).takeWhile (· != delim) := by
        intro hmem
        simpa using List.mem_takeWhile_imp hmem
      have hfirst : (c :: s).takeWhile (· != delim) ≠ [] := by
        rw [List.takeWhile_cons, if_pos hne]
        simp
      have hlen := congrArg List.length hsplit
      rw [List.length_append] at hlen
      have hpos := List.length_pos_iff.mpr hfirst
      -- what follows the token is empty, or begins with the delimiter
      rcases hrest : (c :: s).dropWhile (· != delim) with - | ⟨d, t⟩
      · rw [hrest, List.append_nil] at hsplit
        refine ⟨?_, by simp⟩
        rw [hsplit] at hmem ⊢
        rw [pieces, List.splitOn_eq_singleton hmem]
        simp [pieces]
      · have hd : d = delim := by
          have := List.head?_dropWhile_not (· != delim) (c :: s)
          rw [hrest] at this
          simpa using this
        subst hd
        rw [hrest, List.length_cons] at hlen
        rw [hrest] at hsplit
        refine ⟨?_, by rw [List.drop_one, List.tail_cons]; omega⟩
        rw [List.drop_one, List.tail_cons, ← hsplit, pieces_append_cons hmem, if_neg hfirst, hsplit]
        rfl

/-- A loop over `strtok`, as long as the fuel lasts: the body has the token, and whether
there is a next one. -/
def strtokLoop {S : Type*} (delim : Char) (body : S → CString → Bool → S) :
    Nat → S → Option (CString × CString) → Option S
  | _, s, none => some s
  | 0, _, some _ => none
  | fuel + 1, s, some (tok, rest) =>
    strtokLoop delim body fuel (body s tok (strtok delim rest).isSome) (strtok delim rest)

/-- The body on every string of a list, told whether there is a next one. -/
def foldPieces {S : Type*} (body : S → CString → Bool → S) : S → List CString → S
  | s, [] => s
  | s, tok :: toks => foldPieces body (body s tok (toks ≠ [])) toks

/-- There is a token exactly if there is a piece. -/
theorem strtok_isSome {delim : Char} {s : CString} :
    (strtok delim s).isSome = decide (pieces delim s ≠ []) := by
  rcases htok : strtok delim s with - | ⟨tok, rest⟩
  · rw [pieces_of_strtok_none htok]
    rfl
  · rw [(pieces_of_strtok htok).1]
    rfl

/-- **A loop over `strtok` comes to its end**, with the body done on the pieces in order. -/
theorem strtokLoop_eq {S : Type*} {delim : Char} {body : S → CString → Bool → S} {fuel : Nat}
    {acc : S} {s : CString} (h : s.length ≤ fuel) :
    strtokLoop delim body fuel acc (strtok delim s) =
      some (foldPieces body acc (pieces delim s)) := by
  induction fuel generalizing acc s with
  | zero =>
    obtain rfl : s = [] := List.length_eq_zero_iff.mp (Nat.le_zero.mp h)
    rfl
  | succ fuel ih =>
    rcases htok : strtok delim s with - | ⟨tok, rest⟩
    · rw [pieces_of_strtok_none htok]
      rfl
    · obtain ⟨hpieces, hlen⟩ := pieces_of_strtok htok
      rw [strtokLoop, ih (by omega), hpieces, foldPieces, strtok_isSome]

/-! ### Numbers -/

/-- A number is written with digits only. -/
theorem not_mem_toDigits {c : Char} (hc : c.isDigit = false) (n : Nat) : c ∉ Nat.toDigits 10 n := by
  intro h
  have hdigit := Nat.isDigit_of_mem_toDigits (by omega) (by omega) h
  rw [hc] at hdigit
  cases hdigit

/-- Numbers that are written in the same way are the same. -/
theorem toDigits_inj {m n : Nat} (h : Nat.toDigits 10 m = Nat.toDigits 10 n) : m = n := by
  have hread := congrArg (fun s => Nat.ofDigitChars 10 s 0) h
  rwa [Nat.ofDigitChars_ten_toDigits, Nat.ofDigitChars_ten_toDigits] at hread

/-! ### Lists in one text -/

/-- The strings of a list, with a delimiter after each of them. -/
def joined (delim : Char) (ss : List CString) : CString := ss.flatMap (· ++ [delim])

/-- **A list is read back as it was written**, if its strings are not empty and do not have
the delimiter. -/
theorem pieces_joined {delim : Char} {ss : List CString} (h : ∀ s ∈ ss, s ≠ [] ∧ delim ∉ s) :
    pieces delim (joined delim ss) = ss := by
  induction ss with
  | nil => rfl
  | cons s ss ih =>
    obtain ⟨hne, hdelim⟩ := h s List.mem_cons_self
    have htail := ih fun t ht => h t (List.mem_cons_of_mem s ht)
    rw [joined, List.flatMap_cons, List.append_assoc, List.singleton_append,
      pieces_append_cons hdelim, if_neg hne, List.singleton_append]
    exact congrArg (s :: ·) htail

/-- A string without the delimiter is part of what stands on one side of it. -/
theorem infix_append_cons {delim : Char} {s t u : CString} (hdelim : delim ∉ t)
    (h : t <:+: s ++ delim :: u) : t <:+: s ∨ t <:+: u := by
  obtain ⟨a, b, h⟩ := h
  rcases List.append_eq_append_iff.mp h with ⟨l, rfl, -⟩ | ⟨l, hl, hr⟩
  · exact Or.inl ⟨a, l, rfl⟩
  · rcases l with - | ⟨c, l⟩
    · rw [List.append_nil] at hl
      exact Or.inl ⟨a, [], by rw [List.append_nil, hl]⟩
    · obtain ⟨rfl, rfl⟩ := List.cons.inj hr
      -- the delimiter stands before the string, or in it
      rcases List.append_eq_append_iff.mp hl with ⟨m, -, rfl⟩ | ⟨m, -, hm⟩
      · exact absurd (List.mem_append_right m List.mem_cons_self) hdelim
      · rcases m with - | ⟨d, m⟩
        · rw [List.nil_append] at hm
          exact absurd (hm ▸ List.mem_cons_self) hdelim
        · obtain ⟨-, rfl⟩ := List.cons.inj hm
          exact Or.inr ⟨m, b, rfl⟩

/-- **A search in such a text** finds what is part of one of the strings. -/
theorem infix_joined {delim : Char} {ss : List CString} {t : CString} (hne : t ≠ [])
    (hdelim : delim ∉ t) : t <:+: joined delim ss ↔ ∃ s ∈ ss, t <:+: s := by
  induction ss with
  | nil =>
    refine ⟨fun h => absurd (List.infix_nil.mp h) hne, ?_⟩
    rintro ⟨s, hs, -⟩
    exact absurd hs List.not_mem_nil
  | cons s ss ih =>
    have hsplit : joined delim (s :: ss) = s ++ delim :: joined delim ss := by
      rw [joined, List.flatMap_cons, List.append_assoc, List.singleton_append]
      rfl
    rw [hsplit, List.exists_mem_cons_iff, ← ih]
    constructor
    · exact infix_append_cons hdelim
    · rintro (h | h)
      · exact h.trans (List.prefix_append _ _).isInfix
      · exact h.trans ((List.suffix_cons _ _).trans (List.suffix_append _ _)).isInfix

end CString
