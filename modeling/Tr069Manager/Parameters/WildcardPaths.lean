import Tr069Manager.Lib.StringPointer

/-!
# Which paths with wildcards are taken

Before a path with a `*` is resolved, `DM_ENG_Device_Common_IsWildcardPathValid`
(`DM_AmxCommon.c`) looks whether wildcards are supported, and whether every `*` of the path is
a whole element of it. The second it does on the text, with a pointer `p` that goes from one
`*` to the next and reads the characters on both sides. Here every one of these reads has no
value outside of the path and its NUL, so that a result of the scan means that it stayed inside.

The first character is looked at once, before the scan; that makes the look behind safe at
every `*` (`Tr069.Parameters.starScan_eq`). The grammar itself speaks of the elements between
the dots, which the code never forms. That a `*` has a dot or an end on both sides wherever it
stands is the same as that the elements with a `*` are just that
(`Tr069.Parameters.starsAlone_iff`).

The setting is a boolean of the data model, and is read as text. The text comes from the
library; it is a parameter here, and what is known of it, `"true"` and `"false"`, is what the
tests of the adapter expect of `EnableCWMP` and of the values of type boolean.
-/

namespace Tr069.Parameters

open CString

/-! ### The source -/

/-- `DM_ENG_Device_SystemConnectionGetParameter` for a parameter of type boolean: `none` is
`NULL`. The answer of the bus is `none` if `amxb_get` failed or gave nothing, and has no value
if the parameter is not in what it gave; `boolText` is the cast of a boolean to a string. -/
def systemConnectionGetParameter (boolText : Bool → CString) (answer : Option (Option Bool)) :
    Option CString :=
  answer.bind fun value => value.map boolText

/-- `DM_ENG_Device_GetConfigValue`: the return value, and the result. -/
def getConfigValue (boolText : Bool → CString) (answer : Option (Option Bool)) :
    Int × Option CString :=
  match systemConnectionGetParameter boolText answer with
  | none => (-1, none)
  | some text => (0, some text)

/-- `DM_ENG_Device_Common_IsWildcardPath`. -/
def isWildcardPath (path : Option CString) : Bool :=
  match path with
  | none => false
  | some path => !path.isEmpty && (strchr path '*').isSome

/-- The loop over the `*` of a path, with the place of the next one, as long as the fuel
lasts; `none` also if a character outside of the path is read. -/
def starScan (path : CString) : Nat → Option Nat → Option Bool
  | _, none => some true
  | 0, some _ => none
  | fuel + 1, some p =>
    (path.read ((p : Int) - 1)).bind fun before =>
      if before ≠ '.' then some false
      else (path.read ((p : Int) + 1)).bind fun after =>
        if after ≠ '.' ∧ after ≠ nul then some false
        else (path.strchrFrom (p + 1) '*').bind (starScan path fuel)

/-- `DM_ENG_Device_Common_IsWildcardPathValid`. A path has no more `*` than characters. -/
def isWildcardPathValid (boolText : Bool → CString) (answer : Option (Option Bool))
    (path : Option CString) : Option Bool :=
  if !isWildcardPath path then some true
  else
    match getConfigValue boolText answer with
    | (0, some iwcs) =>
      if iwcs = "0".toList then some false
      else
        path.bind fun path =>
          (path.read 0).bind fun first =>
            if first = '*' then some false
            else (path.strchrFrom 0 '*').bind (starScan path path.length)
    | _ => some false

/-! ### The grammar -/

/-- Every element of the path that has a `*` is just that, and the first element is not. -/
def WildcardGrammar (path : CString) : Prop :=
  (∀ element ∈ path.splitOn '.', '*' ∈ element → element = ['*']) ∧
    (path.splitOn '.').head? ≠ some ['*']

instance (path : CString) : Decidable (WildcardGrammar path) :=
  inferInstanceAs (Decidable (_ ∧ _))

/-- Wherever a `*` stands in a text, there is a dot or the end on both sides of it. -/
def StarsAlone (s : CString) : Prop :=
  ∀ pre post, s = pre ++ '*' :: post →
    (∀ c, pre.getLast? = some c → c = '.') ∧ ∀ c, post.head? = some c → c = '.'

/-- In a text without dots there is nothing but the `*`. -/
theorem starsAlone_of_not_mem {s : CString} (hdot : '.' ∉ s) :
    StarsAlone s ↔ ('*' ∈ s → s = ['*']) := by
  constructor
  · intro h hstar
    obtain ⟨pre, post, rfl⟩ := List.append_of_mem hstar
    obtain ⟨hpre, hpost⟩ := h pre post rfl
    have hpre' : pre = [] := by
      by_contra hne
      have hlast := hpre _ (List.getLast?_eq_some_getLast hne)
      exact hdot (List.mem_append_left _ (hlast ▸ List.getLast_mem hne))
    have hpost' : post = [] := by
      rcases post with - | ⟨c, post⟩
      · rfl
      · obtain rfl := hpost c rfl
        simp at hdot
    rw [hpre', hpost']
    rfl
  · rintro h pre post rfl
    have hsingle := h (by simp)
    have hlen := congrArg List.length hsingle
    rw [List.length_append, List.length_cons, List.length_singleton] at hlen
    obtain rfl : pre = [] := List.length_eq_zero_iff.mp (by omega)
    obtain rfl : post = [] := List.length_eq_zero_iff.mp (by omega)
    exact ⟨by simp, by simp⟩

/-- A dot separates what stands on both sides of it. -/
theorem starsAlone_append_cons {a b : CString} :
    StarsAlone (a ++ '.' :: b) ↔ StarsAlone a ∧ StarsAlone b := by
  constructor
  · refine fun h => ⟨?_, ?_⟩
    · rintro pre post rfl
      obtain ⟨hpre, hpost⟩ := h pre (post ++ '.' :: b) (by simp)
      refine ⟨hpre, fun c hc => hpost c ?_⟩
      rw [List.head?_append, hc]
      rfl
    · rintro pre post rfl
      obtain ⟨hpre, hpost⟩ := h (a ++ '.' :: pre) post (by simp)
      refine ⟨fun c hc => hpre c ?_, hpost⟩
      rw [List.getLast?_append, List.getLast?_cons, hc]
      rfl
  · rintro ⟨ha, hb⟩ pre post h
    -- the star stands in front of the dot, or behind it
    rcases List.append_eq_append_iff.mp h with ⟨m, rfl, hm⟩ | ⟨m, rfl, hm⟩
    · rcases m with - | ⟨c, m⟩
      · cases hm
      · obtain ⟨rfl, rfl⟩ := List.cons.inj hm
        obtain ⟨hpre, hpost⟩ := hb m post rfl
        refine ⟨fun c hc => ?_, hpost⟩
        rw [List.getLast?_append, List.getLast?_cons] at hc
        rcases hlast : m.getLast? with - | d
        · rw [hlast] at hc
          exact (Option.some.inj hc).symm
        · rw [hlast] at hc
          obtain rfl : d = c := Option.some.inj hc
          exact hpre d hlast
    · rcases m with - | ⟨c, m⟩
      · cases hm
      · obtain ⟨rfl, rfl⟩ := List.cons.inj hm
        obtain ⟨hpre, hpost⟩ := ha pre m rfl
        refine ⟨hpre, fun c hc => ?_⟩
        rcases m with - | ⟨d, m⟩
        · exact (Option.some.inj hc).symm
        · exact hpost c hc

/-- **The elements and the characters**: the elements that have a `*` are just that, exactly if
there is a dot or the end on both sides of every `*`. -/
theorem starsAlone_iff {s : CString} :
    StarsAlone s ↔ ∀ element ∈ s.splitOn '.', '*' ∈ element → element = ['*'] := by
  induction hn : s.length using Nat.strong_induction_on generalizing s with
  | _ n ih =>
    subst hn
    by_cases hdot : '.' ∈ s
    · obtain ⟨a, b, rfl, ha⟩ := List.eq_append_cons_of_mem hdot
      rw [starsAlone_append_cons, starsAlone_of_not_mem ha, ih b.length (by simp; omega) rfl,
        List.splitOn_append_cons_of_beq _ _ (beq_self_eq_true '.'), List.splitOn_eq_singleton ha,
        List.singleton_append, List.forall_mem_cons]
    · rw [starsAlone_of_not_mem hdot, List.splitOn_eq_singleton hdot, List.forall_mem_singleton]

/-- The first element is a `*` exactly if the first character is one, where every element with
a `*` is just that. -/
theorem head_splitOn_iff {s : CString} (h : StarsAlone s) :
    (s.splitOn '.').head? = some ['*'] ↔ s.head? = some '*' := by
  rw [starsAlone_iff] at h
  by_cases hdot : '.' ∈ s
  · obtain ⟨a, b, rfl, ha⟩ := List.eq_append_cons_of_mem hdot
    rw [List.splitOn_append_cons_of_beq _ _ (beq_self_eq_true '.'),
      List.splitOn_eq_singleton ha] at h ⊢
    have hfirst := h a (by simp)
    rcases a with - | ⟨c, a⟩
    · simp
    · rw [List.singleton_append, List.head?_cons, List.cons_append, List.head?_cons,
        Option.some_inj, Option.some_inj]
      refine ⟨fun heq => (List.cons.inj heq).1, ?_⟩
      rintro rfl
      exact hfirst List.mem_cons_self
  · rw [List.splitOn_eq_singleton hdot] at h ⊢
    have hfirst := h s (by simp)
    rcases s with - | ⟨c, s⟩
    · simp
    · rw [List.head?_cons, List.head?_cons, Option.some_inj, Option.some_inj]
      refine ⟨fun heq => (List.cons.inj heq).1, ?_⟩
      rintro rfl
      exact hfirst List.mem_cons_self

theorem wildcardGrammar_iff {s : CString} :
    WildcardGrammar s ↔ StarsAlone s ∧ s.head? ≠ some '*' := by
  rw [WildcardGrammar, ← starsAlone_iff]
  exact and_congr_right fun h => not_congr (head_splitOn_iff h)

/-! ### The scan -/

/-- What the scan looks for from a place on: a dot in front of every `*`, and a dot or the end
behind it. -/
def StarsAfter (done rest : CString) : Prop :=
  ∀ pre post, rest = pre ++ '*' :: post →
    (done ++ pre).getLast? = some '.' ∧ ∀ c, post.head? = some c → c = '.'

/-- One round: what is asked of the next `*`, and what of those behind it. -/
theorem starsAfter_append_cons {done pre post : CString} (hpre : '*' ∉ pre) :
    StarsAfter done (pre ++ '*' :: post) ↔
      ((done ++ pre).getLast? = some '.' ∧ ∀ c, post.head? = some c → c = '.') ∧
        StarsAfter (done ++ pre ++ ['*']) post := by
  constructor
  · refine fun h => ⟨h pre post rfl, fun pre' post' hpost => ?_⟩
    subst hpost
    obtain ⟨hlast, hhead⟩ := h (pre ++ '*' :: pre') post' (by simp)
    refine ⟨?_, hhead⟩
    rw [← hlast]
    exact congrArg List.getLast? (by simp)
  · rintro ⟨hfirst, hrest⟩ pre' post' h
    rcases List.append_eq_append_iff.mp h with ⟨m, rfl, hm⟩ | ⟨m, rfl, hm⟩
    · rcases m with - | ⟨c, m⟩
      · obtain ⟨-, rfl⟩ := List.cons.inj hm
        rw [List.append_nil]
        exact hfirst
      · obtain ⟨rfl, rfl⟩ := List.cons.inj hm
        obtain ⟨hlast, hhead⟩ := hrest m post' rfl
        refine ⟨?_, hhead⟩
        rw [← hlast]
        exact congrArg List.getLast? (by simp)
    · rcases m with - | ⟨c, m⟩
      · obtain ⟨-, rfl⟩ := List.cons.inj hm
        rw [List.append_nil] at hfirst
        exact hfirst
      · obtain ⟨rfl, -⟩ := List.cons.inj hm
        simp at hpre

section Round

variable {before post : CString} {fuel : Nat}

/-- Behind a `*` there is the end of the path or a dot. -/
theorem after_iff (hnul : nul ∉ post) :
    (post.head?.getD nul ≠ '.' ∧ post.head?.getD nul ≠ nul) ↔
      ¬∀ c, post.head? = some c → c = '.' := by
  rcases post with - | ⟨c, post⟩
  · simp
  · have hc : c ≠ nul := by
      rintro rfl
      exact hnul (by simp)
    simp [hc]

/-- A round at a `*` that stands between dots, or a dot and the end, goes on behind it. -/
theorem starScan_goesOn (hnul : nul ∉ post) (hdot : before.getLast? = some '.')
    (hbehind : ∀ c, post.head? = some c → c = '.') :
    starScan (before ++ '*' :: post) (fuel + 1) (some before.length) =
      starScan (before ++ ['*'] ++ post) fuel
        ((strchr post '*').map ((before ++ ['*']).length + ·)) := by
  have hne : before ≠ [] := by
    rintro rfl
    cases hdot
  have hlen : before.length + 1 = (before ++ ['*']).length :=
    (@List.length_append Char before ['*']).symm
  rw [starScan, read_before hne, read_behind, hdot, Option.bind_some, Option.bind_some,
    if_neg (not_not.mpr rfl), if_neg fun h => (after_iff hnul).mp h hbehind, strchrFrom_behind,
    Option.bind_some, hlen, List.append_cons]

/-- A round at another `*`, which is not the first character, refuses the path. -/
theorem starScan_stops (hnul : nul ∉ post) (hne : before ≠ [])
    (h : ¬(before.getLast? = some '.' ∧ ∀ c, post.head? = some c → c = '.')) :
    starScan (before ++ '*' :: post) (fuel + 1) (some before.length) = some false := by
  obtain ⟨c, hc⟩ : ∃ c, before.getLast? = some c := ⟨_, List.getLast?_eq_some_getLast hne⟩
  rw [starScan, read_before hne, read_behind, hc, Option.bind_some, Option.bind_some]
  by_cases hdot : c = '.'
  · subst hdot
    rw [if_neg (not_not.mpr rfl), if_pos ((after_iff hnul).mpr fun hbehind => h ⟨hc, hbehind⟩)]
  · rw [if_pos hdot]

end Round

/-- **The scan stays inside of the path**, from any place on where the look behind is safe, and
finds whether every `*` stands between dots or the end. -/
theorem starScan_eq {done rest : CString} {fuel : Nat} (hnul : nul ∉ done ++ rest)
    (hsafe : done ≠ [] ∨ rest.head? ≠ some '*') (hfuel : rest.length ≤ fuel) :
    ∃ b, starScan (done ++ rest) fuel ((strchr rest '*').map (done.length + ·)) = some b ∧
      (b = true ↔ StarsAfter done rest) := by
  induction fuel generalizing done rest with
  | zero =>
    obtain rfl : rest = [] := List.length_eq_zero_iff.mp (Nat.le_zero.mp hfuel)
    exact ⟨true, rfl, fun _ pre post h => by simp at h, fun _ => rfl⟩
  | succ fuel ih =>
    by_cases hstar : '*' ∈ rest
    · obtain ⟨pre, post, rfl, hpre⟩ := List.eq_append_cons_of_mem hstar
      have hne : done ++ pre ≠ [] := by
        rcases hsafe with hdone | hhead
        · simp [hdone]
        · rintro hnil
          obtain ⟨-, rfl⟩ := List.append_eq_nil_iff.mp hnil
          exact hhead rfl
      have hpath : done ++ (pre ++ '*' :: post) = (done ++ pre) ++ '*' :: post := by simp
      have hplace : done.length + pre.length = (done ++ pre).length :=
        List.length_append.symm
      have hpost : nul ∉ post := fun hmem => hnul (by simp [hmem])
      rw [strchr_append_cons hpre, Option.map_some, hplace, starsAfter_append_cons hpre, hpath]
      by_cases hround : (done ++ pre).getLast? = some '.' ∧ ∀ c, post.head? = some c → c = '.'
      · -- behind this `*` the look behind is safe: there is the `*`
        rw [starScan_goesOn hpost hround.1 hround.2]
        obtain ⟨b, hb, hiff⟩ := @ih (done ++ pre ++ ['*']) post
          (by rw [← List.append_cons, ← hpath]; exact hnul) (Or.inl (by simp))
          (by rw [List.length_append, List.length_cons] at hfuel; omega)
        exact ⟨b, hb, hiff.trans (and_iff_right hround).symm⟩
      · rw [starScan_stops hpost hne hround]
        exact ⟨false, rfl, iff_of_false Bool.false_ne_true fun h => hround h.1⟩
    · rw [strchr_eq_none hstar]
      refine ⟨true, rfl, fun _ pre post h => ?_, fun _ => rfl⟩
      subst h
      exact absurd (by simp) hstar

/-! ### The answer -/

section Answer

variable {boolText : Bool → CString} {answer : Option (Option Bool)} {path : CString}

theorem isWildcardPath_iff : isWildcardPath (some path) = true ↔ '*' ∈ path := by
  rcases path with - | ⟨c, path⟩
  · simp [isWildcardPath]
  · rw [isWildcardPath, List.isEmpty_cons, Bool.not_false, Bool.true_and, strchr,
      List.findIdx?_isSome, List.any_eq_true]
    simp

/-- `NULL` and a path without `*` are taken, whatever the setting is. -/
theorem isWildcardPathValid_of_not_mem (h : '*' ∉ path) :
    isWildcardPathValid boolText answer (some path) = some true := by
  have hpath : isWildcardPath (some path) = false := by
    rw [← Bool.not_eq_true, isWildcardPath_iff]
    exact h
  rw [isWildcardPathValid, hpath]
  rfl

/-- The text of the setting, where there is one. -/
theorem getConfigValue_eq :
    getConfigValue boolText answer =
      match answer with
      | some (some value) => (0, some (boolText value))
      | _ => (-1, none) := by
  rcases answer with - | - | value <;> rfl

/-- The look at the first character and the scan, for a path with a `*`. -/
theorem scan_path (hnul : nul ∉ path) (hstar : '*' ∈ path) :
    ∃ b, ((path.read 0).bind fun first =>
        if first = '*' then some false
        else (path.strchrFrom 0 '*').bind (starScan path path.length)) = some b ∧
      (b = true ↔ WildcardGrammar path) := by
  have hfrom : path.strchrFrom 0 '*' = some (strchr path '*') := by
    rw [strchrFrom, if_pos (Nat.zero_le _), List.drop_zero]
    congr
    simp
  have hread : path.read 0 = path.head? := by
    rw [← Int.natCast_zero, read_of_lt (List.length_pos_of_mem hstar), List.head?_eq_getElem?]
  obtain ⟨first, hfirst⟩ : ∃ c, path.head? = some c :=
    ⟨_, List.head?_eq_some_head (List.ne_nil_of_mem hstar)⟩
  rw [hread, hfirst, Option.bind_some, hfrom, Option.bind_some, wildcardGrammar_iff, hfirst]
  by_cases hsafe : first = '*'
  · rw [if_pos hsafe, hsafe]
    exact ⟨false, rfl, by simp⟩
  · obtain ⟨b, hb, hiff⟩ := @starScan_eq [] path path.length hnul
      (Or.inr (by rw [hfirst]; simpa using hsafe)) le_rfl
    have hmap : (strchr path '*').map ((([] : CString)).length + ·) = strchr path '*' := by simp
    rw [hmap] at hb
    rw [if_neg hsafe]
    refine ⟨b, hb, hiff.trans ⟨fun h => ⟨fun pre post hpath => ?_, by simpa using hsafe⟩, ?_⟩⟩
    · obtain ⟨hlast, hhead⟩ := h pre post hpath
      refine ⟨fun c hc => ?_, hhead⟩
      rw [List.nil_append, hc] at hlast
      exact Option.some.inj hlast
    · rintro ⟨halone, -⟩ pre post hpath
      obtain ⟨hlast, hhead⟩ := halone pre post hpath
      have hpre : pre ≠ [] := by
        rintro rfl
        rw [hpath] at hfirst
        exact hsafe (Option.some.inj hfirst).symm
      have hget := List.getLast?_eq_some_getLast hpre
      refine ⟨?_, hhead⟩
      rw [List.nil_append, hget, hlast _ hget]

/-- **What is answered for a path with a `*`**: that it keeps to the grammar, if the setting can
be read and its text is not `"0"`. -/
theorem isWildcardPathValid_of_mem (hnul : nul ∉ path) (hstar : '*' ∈ path) :
    ∃ b, isWildcardPathValid boolText answer (some path) = some b ∧
      (b = true ↔ (∃ value, answer = some (some value) ∧ boolText value ≠ "0".toList) ∧
        WildcardGrammar path) := by
  have hpath : isWildcardPath (some path) = true := isWildcardPath_iff.mpr hstar
  rw [isWildcardPathValid, hpath, getConfigValue_eq]
  rcases answer with - | - | value
  · exact ⟨false, rfl, by simp⟩
  · exact ⟨false, rfl, by simp⟩
  · by_cases htext : boolText value = "0".toList
    · refine ⟨false, ?_, by simp [htext]⟩
      simp only [Bool.not_true, Bool.false_eq_true, if_false, if_pos htext]
    · obtain ⟨b, hb, hiff⟩ := scan_path hnul hstar
      refine ⟨b, ?_, ?_⟩
      · simp only [Bool.not_true, Bool.false_eq_true, if_false, if_neg htext, Option.bind_some]
        exact hb
      · rw [hiff]
        exact ⟨fun h => ⟨⟨value, rfl, htext⟩, h⟩, fun h => h.2⟩

end Answer

/-! ### Wildcards that are not supported -/

/-- A path with a `*` is to be taken only if wildcards are supported and it keeps to the
grammar; with a setting that is false, or cannot be read, it is to be rejected. -/
def TakenAsSupported (boolText : Bool → CString) (answer : Option (Option Bool))
    (path : CString) : Prop :=
  ∃ b, isWildcardPathValid boolText answer (some path) = some b ∧
    (b = true ↔ '*' ∉ path ∨ answer = some (some true) ∧ WildcardGrammar path)

/-- The texts of the booleans. -/
def trueOrFalse : Bool → CString
  | true => "true".toList
  | false => "false".toList

/-- **Which paths are taken as the setting says**: all, unless wildcards are not supported and
the path is one that would be taken if they were. The text of `false` is not the `"0"` it is
compared with. -/
theorem takenAsSupported_iff {boolText : Bool → CString}
    (htrue : boolText true = "true".toList) (hfalse : boolText false = "false".toList)
    (answer : Option (Option Bool)) (path : { s : CString // nul ∉ s }) :
    TakenAsSupported boolText answer path ↔
      ¬(answer = some (some false) ∧ '*' ∈ path.1 ∧ WildcardGrammar path.1) := by
  obtain ⟨path, hnul⟩ := path
  have htext : ∀ value, boolText value ≠ "0".toList := by
    rintro (- | -)
    · rw [hfalse]
      decide
    · rw [htrue]
      decide
  by_cases hstar : '*' ∈ path
  · obtain ⟨b, hb, hiff⟩ := @isWildcardPathValid_of_mem boolText answer path hnul hstar
    have hsame : TakenAsSupported boolText answer path ↔
        ((∃ value, answer = some (some value) ∧ boolText value ≠ "0".toList) ∧
          WildcardGrammar path ↔ '*' ∉ path ∨ answer = some (some true) ∧ WildcardGrammar path) := by
      rw [TakenAsSupported, hb, ← hiff]
      exact ⟨fun ⟨_, h, hb'⟩ => Option.some.inj h ▸ hb', fun h => ⟨b, rfl, h⟩⟩
    rw [hsame]
    rcases answer with - | - | value
    · simp [hstar]
    · simp [hstar]
    · have hread : ∃ value', some (some value) = some (some value') ∧
          boolText value' ≠ "0".toList := ⟨value, rfl, htext value⟩
      simp only [hread, true_and]
      cases value <;> simp [hstar]
  · refine iff_of_true ?_ fun h => hstar h.2.1
    exact ⟨true, isWildcardPathValid_of_not_mem hstar, by simp [hstar]⟩

/-- A path with a wildcard, while wildcards are supported. -/
theorem takenAsSupported_iff_interfaces :
    TakenAsSupported trueOrFalse (some (some true)) "Device.IP.Interface.*.".toList :=
  (takenAsSupported_iff rfl rfl (some (some true))
    ⟨"Device.IP.Interface.*.".toList, by decide⟩).mpr (by simp)

/-- Wildcards are not supported, and a path with one is taken. -/
theorem taken_although_not_supported :
    isWildcardPathValid trueOrFalse (some (some false)) (some "Device.IP.Interface.*.".toList) =
        some true ∧
      ¬TakenAsSupported trueOrFalse (some (some false)) "Device.IP.Interface.*.".toList := by
  have htaken : isWildcardPathValid trueOrFalse (some (some false))
      (some "Device.IP.Interface.*.".toList) = some true := by decide
  refine ⟨htaken, ?_⟩
  rintro ⟨b, hb, hiff⟩
  rw [htaken] at hb
  obtain rfl := Option.some.inj hb
  rcases hiff.mp rfl with h | ⟨h, -⟩
  · exact h (by decide)
  · cases h

end Tr069.Parameters
