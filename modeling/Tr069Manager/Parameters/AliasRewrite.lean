import Tr069Manager.Parameters.AliasRestore
import Tr069Manager.SetParameterValues.DataModel

/-!
# `IndexToAlias`, on the text of a path

In the instance mode with aliases a path of the answer gets an alias for every instance number
behind the fixed part of the request (`DM_ENG_Device_Common_IndexToAlias`,
`DM_AmxCommon.c`). The path and the fixed part are split at their dots, and the two lists are
gone through side by side: as long as the fixed part has a component that is not empty, it is
copied; from there on a number is looked up on the bus, under the path written so far.

A path that ends with a dot has an empty component behind it, which the loop copies with a dot
of its own, so that one character too many is written for either shape of a path. It is cut at
the end.
-/

namespace Tr069.Parameters

/-! ### The source -/

/-- What `IndexToAlias` asks the libraries and the bus. -/
structure AliasEnv where
  /-- `amxc_string_split_to_llist` at the dots -/
  splitToLlist : CString → Option (List CString)
  /-- `amxd_path_get_fixed_part` -/
  getFixedPart : CString → Option CString
  /-- `amxb_get` of a parameter: the objects that have it, with its text if it is one -/
  get : CString → Option (List (Option CString))

/-- `amxc_string_is_numeric`. -/
def amxcStringIsNumeric (part : CString) : Bool := part ≠ [] ∧ part.all Char.isDigit

/-- The Alias the bus gives: that of the first object with a text. -/
def AliasEnv.givenAlias (env : AliasEnv) (path : CString) : Option CString :=
  (env.get path).bind fun objects => objects.findSome? id

/-- What a component becomes behind the path written so far. -/
def rewritePart (env : AliasEnv) (resolvedPath part : CString) : CString :=
  if amxcStringIsNumeric part then
    match env.givenAlias (resolvedPath ++ part ++ ".Alias".toList) with
    | some instanceAlias => if instanceAlias ≠ [] then '[' :: (instanceAlias ++ [']']) else part
    | none => part
  else part

/-- The loop over the components of the path, with those of the fixed part from `it_path` on
and the path written so far. -/
def rewriteLoop (env : AliasEnv) : List CString → List CString → CString → CString
  | [], _, resolvedPath => resolvedPath
  | part :: parts, [], resolvedPath =>
    rewriteLoop env parts [] (resolvedPath ++ rewritePart env resolvedPath part ++ ['.'])
  | part :: parts, origPart :: itPath, resolvedPath =>
    if origPart ≠ [] then rewriteLoop env parts itPath (resolvedPath ++ origPart ++ ['.'])
    else
      rewriteLoop env parts (origPart :: itPath)
        (resolvedPath ++ rewritePart env resolvedPath part ++ ['.'])

/-- `DM_ENG_Device_Common_IndexToAlias`: the path, if there is one. -/
def indexToAliasText (env : AliasEnv) (acspath path : CString) : Option CString :=
  if path = [] then none
  else
    (env.splitToLlist path).bind fun stringList =>
      (match env.getFixedPart acspath with
      | none => some []
      | some fixedPart => env.splitToLlist fixedPart).map fun pathList =>
        let resolvedPath := rewriteLoop env stringList pathList []
        resolvedPath.take (resolvedPath.length - 1)

/-! ### What the libraries are relied on for -/

/-- What `amxc_string_split_to_llist` is documented to do with a path: it gives what stands
between the dots, and so an empty text behind a final dot. -/
def SplitsPaths (split : CString → Option (List CString)) : Prop :=
  ∀ isPartial cs, cs ≠ [] → (∀ c ∈ cs, IsComponent c) →
    split (pathText isPartial cs) = some (cs ++ if isPartial then [[]] else [])

/-- A component of the fixed part: no wildcard, and nothing in brackets. -/
def isFixedComponent (c : CString) : Bool := c ≠ ['*'] ∧ c.head? ≠ some '['

/-- What `amxd_path_get_fixed_part` is documented to do: it gives the components of the object
before the first that is not fixed, if there is one. -/
def GivesFixedPart (getFixedPart : CString → Option CString) : Prop :=
  ∀ object parameter, (∀ c ∈ object, IsComponent c) → (parameter = [] ∨ IsComponent parameter) →
    getFixedPart (pathText true object ++ parameter) =
      if object.takeWhile isFixedComponent = [] then none
      else some (pathText true (object.takeWhile isFixedComponent))

/-- **What the rewriting should do** behind the first `n` components: it keeps their number,
those of the fixed part and those that are no numbers, and a number becomes the alias in
brackets exactly if the bus gives one that is not empty for the instance path written so
far. -/
structure Rewrites (env : AliasEnv) (n : ℕ) (cs cs' : List CString) : Prop where
  length : cs'.length = cs.length
  fixed : ∀ i < n, cs'[i]? = cs[i]?
  kept : ∀ (i : ℕ) (c : CString), cs[i]? = some c → amxcStringIsNumeric c = false → cs'[i]? = some c
  aliased : ∀ (i : ℕ) (c a : CString), n ≤ i → cs[i]? = some c → amxcStringIsNumeric c = true →
    a ≠ [] → env.givenAlias (pathText true (cs'.take i) ++ c ++ ".Alias".toList) = some a →
      cs'[i]? = some ('[' :: (a ++ [']']))
  numbered : ∀ (i : ℕ) (c : CString), n ≤ i → cs[i]? = some c → amxcStringIsNumeric c = true →
    (∀ a, a ≠ [] →
      env.givenAlias (pathText true (cs'.take i) ++ c ++ ".Alias".toList) ≠ some a) →
      cs'[i]? = some c

/-! ### The loop -/

variable {env : AliasEnv} {isPartial : Bool} {c : CString} {i : ℕ}
variable {cs fixed tail parts : List CString} {resolvedPath : CString}

/-- The components behind the fixed part, rewritten one after the other. -/
def rewriteFrom (env : AliasEnv) : CString → List CString → List CString
  | _, [] => []
  | resolvedPath, part :: parts =>
    rewritePart env resolvedPath part ::
      rewriteFrom env (resolvedPath ++ rewritePart env resolvedPath part ++ ['.']) parts

theorem pathText_true_cons : pathText true (c :: cs) = c ++ '.' :: pathText true cs := by
  rw [pathText, Bool.or_true, if_pos rfl, List.singleton_append]

theorem pathText_true_append :
    pathText true (fixed ++ cs) = pathText true fixed ++ pathText true cs := by
  induction fixed with
  | nil => rfl
  | cons c fixed ih => rw [List.cons_append, pathText_true_cons, pathText_true_cons, ih]; simp

/-- The fixed part is copied. -/
theorem rewriteLoop_fixed (hfixed : ∀ c ∈ fixed, c ≠ []) :
    rewriteLoop env (fixed ++ parts) (fixed ++ tail) resolvedPath =
      rewriteLoop env parts tail (resolvedPath ++ pathText true fixed) := by
  induction fixed generalizing resolvedPath with
  | nil => rw [List.nil_append, List.nil_append, pathText, List.append_nil]
  | cons c fixed ih =>
    rw [List.cons_append, List.cons_append, rewriteLoop, if_pos (hfixed c List.mem_cons_self),
      ih fun d hd => hfixed d (List.mem_cons_of_mem c hd), pathText_true_cons]
    simp

/-- Behind it, each component is rewritten; the empty text that ends the fixed part is never
passed. -/
theorem rewriteLoop_behind (htail : tail = [] ∨ tail = [[]]) :
    rewriteLoop env parts tail resolvedPath =
      resolvedPath ++ pathText true (rewriteFrom env resolvedPath parts) := by
  induction parts generalizing resolvedPath with
  | nil =>
    rw [rewriteLoop.eq_def, rewriteFrom, pathText, List.append_nil]
  | cons part parts ih =>
    have hstep : rewriteLoop env (part :: parts) tail resolvedPath =
        rewriteLoop env parts tail
          (resolvedPath ++ rewritePart env resolvedPath part ++ ['.']) := by
      rcases htail with rfl | rfl
      · rfl
      · rw [rewriteLoop, if_neg (not_not_intro rfl)]
    rw [hstep, ih, rewriteFrom, pathText_true_cons]
    simp

theorem rewritePart_of_not_numeric (hc : amxcStringIsNumeric c = false) :
    rewritePart env resolvedPath c = c := by
  rw [rewritePart, hc]
  rfl

theorem length_rewriteFrom : (rewriteFrom env resolvedPath parts).length = parts.length := by
  induction parts generalizing resolvedPath with
  | nil => rfl
  | cons part parts ih => rw [rewriteFrom, List.length_cons, List.length_cons, ih]

/-- A last component that is no number stays. -/
theorem rewriteFrom_concat (hc : amxcStringIsNumeric c = false) :
    rewriteFrom env resolvedPath (parts ++ [c]) = rewriteFrom env resolvedPath parts ++ [c] := by
  induction parts generalizing resolvedPath with
  | nil => simp [rewriteFrom, rewritePart_of_not_numeric hc]
  | cons part parts ih => rw [List.cons_append, rewriteFrom, ih, rewriteFrom, List.cons_append]

/-- The empty text behind a final dot stays. -/
theorem rewriteFrom_append_end :
    rewriteFrom env resolvedPath (parts ++ if isPartial then [[]] else []) =
      rewriteFrom env resolvedPath parts ++ if isPartial then [[]] else [] := by
  rcases isPartial with - | -
  · exact (congrArg _ (List.append_nil _)).trans (List.append_nil _).symm
  · exact rewriteFrom_concat rfl

/-- **A component is rewritten** behind what the ones before it have become. -/
theorem getElem?_rewriteFrom :
    (rewriteFrom env resolvedPath parts)[i]? = (parts[i]?).map
      (rewritePart env
        (resolvedPath ++ pathText true ((rewriteFrom env resolvedPath parts).take i))) := by
  induction parts generalizing resolvedPath i with
  | nil => simp [rewriteFrom]
  | cons part parts ih =>
    rw [rewriteFrom]
    cases i with
    | zero => simp [pathText]
    | succ i =>
      rw [List.getElem?_cons_succ, ih, List.getElem?_cons_succ, List.take_succ_cons,
        pathText_true_cons]
      simp

/-! ### The result -/

/-- A partial path has one dot more. -/
theorem pathText_true (hne : cs ≠ []) : pathText true cs = pathText false cs ++ ['.'] := by
  induction cs with
  | nil => exact absurd rfl hne
  | cons c cs ih =>
    by_cases hcs : cs = []
    · subst hcs
      simp [pathText]
    · rw [pathText_true_cons, ih hcs, pathText]
      simp [hcs]

/-- Cutting one character leaves the path, whatever its shape. -/
theorem take_pathText (hne : cs ≠ []) :
    (pathText true (cs ++ if isPartial then [[]] else [])).take
        ((pathText true (cs ++ if isPartial then [[]] else [])).length - 1) =
      pathText isPartial cs := by
  rw [← List.dropLast_eq_take]
  rcases isPartial with - | -
  · rw [if_neg Bool.false_ne_true, List.append_nil, pathText_true hne, List.dropLast_concat]
  · rw [if_pos rfl, pathText_true_append]
    exact List.dropLast_concat

/-- What the loop leaves of a path that begins with the fixed part. -/
theorem rewrites_rewriteFrom :
    Rewrites env fixed.length (fixed ++ parts)
      (fixed ++ rewriteFrom env (pathText true fixed) parts) := by
  have hbehind : ∀ i, fixed.length ≤ i →
      (fixed ++ rewriteFrom env (pathText true fixed) parts)[i]? =
        ((fixed ++ parts)[i]?).map (rewritePart env (pathText true
          ((fixed ++ rewriteFrom env (pathText true fixed) parts).take i))) := by
    intro i hi
    rw [List.getElem?_append_right hi, List.getElem?_append_right hi, getElem?_rewriteFrom,
      List.take_append, List.take_of_length_le hi, pathText_true_append]
  refine ⟨?_, fun i hi => ?_, fun i c hc hnumeric => ?_, fun i c a hi hc hnumeric ha hgiven => ?_,
    fun i c hi hc hnumeric hnone => ?_⟩
  · rw [List.length_append, List.length_append, length_rewriteFrom]
  · rw [List.getElem?_append_left hi, List.getElem?_append_left hi]
  · by_cases hi : i < fixed.length
    · rw [List.getElem?_append_left hi] at hc ⊢
      exact hc
    · rw [hbehind i (Nat.le_of_not_lt hi), hc, Option.map_some,
        rewritePart_of_not_numeric hnumeric]
  · rw [hbehind i hi, hc, Option.map_some, rewritePart, if_pos hnumeric, hgiven]
    exact congrArg some (if_pos ha)
  · rw [hbehind i hi, hc, Option.map_some, rewritePart, if_pos hnumeric]
    rcases hgiven : env.givenAlias _ with - | a
    · rfl
    · refine congrArg some (if_neg fun ha => ?_)
      exact hnone a ha hgiven

/-- **What `IndexToAlias` returns** for a path that begins with the fixed part of the request:
the components behind it are rewritten. -/
theorem indexToAliasText_eq (hsplit : SplitsPaths env.splitToLlist)
    (hfixedPart : GivesFixedPart env.getFixedPart) {object : List CString} {parameter : CString}
    (hobject : ∀ c ∈ object, IsComponent c) (hparameter : parameter = [] ∨ IsComponent parameter)
    (hfixed : object.takeWhile isFixedComponent = fixed) (hne : fixed ++ parts ≠ [])
    (hcs : ∀ c ∈ fixed ++ parts, IsComponent c) :
    indexToAliasText env (pathText true object ++ parameter)
        (pathText isPartial (fixed ++ parts)) =
      some (pathText isPartial (fixed ++ rewriteFrom env (pathText true fixed) parts)) := by
  have hgiven := hfixedPart object parameter hobject hparameter
  rw [hfixed] at hgiven
  have hcomponent : ∀ c ∈ fixed, IsComponent c := fun c hc => hcs c (List.mem_append_left _ hc)
  have hpath : pathText isPartial (fixed ++ parts) ≠ [] := fun h => hne ((pathText_eq_nil hcs).mp h)
  -- the fixed part is gone through, up to the empty text that ends it
  obtain ⟨tail, htail, hlist⟩ : ∃ tail, (tail = [] ∨ tail = [[]]) ∧
      (match env.getFixedPart (pathText true object ++ parameter) with
      | none => some []
      | some fixedPart => env.splitToLlist fixedPart) = some (fixed ++ tail) := by
    rw [hgiven]
    by_cases hnil : fixed = []
    · subst hnil
      exact ⟨[], Or.inl rfl, rfl⟩
    · rw [if_neg hnil]
      exact ⟨[[]], Or.inr rfl, hsplit true fixed hnil hcomponent⟩
  rw [indexToAliasText, if_neg hpath, hsplit isPartial _ hne hcs, Option.bind_some, hlist,
    Option.map_some, List.append_assoc, rewriteLoop_fixed fun c hc => (hcomponent c hc).1,
    List.nil_append, rewriteLoop_behind htail, rewriteFrom_append_end, ← pathText_true_append,
    ← List.append_assoc]
  refine congrArg some (take_pathText fun h => hne ?_)
  have hlen := (@rewrites_rewriteFrom env fixed parts).length
  rw [h, List.length_nil] at hlen
  exact List.eq_nil_of_length_eq_zero hlen.symm

/-- **`IndexToAlias` rewrites a path as it should**: for a request whose fixed part the path
begins with, every shape of both and all answers of the bus, the result is a path of the same
shape whose components are the rewritten ones. -/
theorem indexToAliasText_rewrites (env : AliasEnv) (hsplit : SplitsPaths env.splitToLlist)
    (hfixedPart : GivesFixedPart env.getFixedPart) (object cs : List CString)
    (parameter : CString) (isPartial : Bool) (hobject : ∀ c ∈ object, IsComponent c)
    (hparameter : parameter = [] ∨ IsComponent parameter) (hne : cs ≠ [])
    (hcs : ∀ c ∈ cs, IsComponent c) (hfixed : object.takeWhile isFixedComponent <+: cs) :
    ∃ cs', indexToAliasText env (pathText true object ++ parameter) (pathText isPartial cs) =
        some (pathText isPartial cs') ∧
      Rewrites env (object.takeWhile isFixedComponent).length cs cs' := by
  obtain ⟨parts, hparts⟩ := hfixed
  generalize hfixed : object.takeWhile isFixedComponent = fixed at hparts ⊢
  subst hparts
  exact ⟨_, indexToAliasText_eq hsplit hfixedPart hobject hparameter hfixed hne hcs,
    rewrites_rewriteFrom⟩

/-! ### Functions like those of the libraries -/

/-- The fixed part, read off the text. -/
def fixedPartOfText (path : CString) : Option CString :=
  let fixed := (CString.pieces '.' (amxdPathGet path)).takeWhile isFixedComponent
  if fixed = [] then none else some (pathText true fixed)

theorem splitsPaths_splitOn : SplitsPaths fun path => some (path.splitOn '.') := by
  intro isPartial cs hne hcs
  refine congrArg some ?_
  induction cs with
  | nil => exact absurd rfl hne
  | cons c cs ih =>
    obtain ⟨-, hdot⟩ := hcs c List.mem_cons_self
    by_cases hnil : cs = []
    · subst hnil
      rcases isPartial with - | -
      · simp [pathText, List.splitOn_eq_singleton hdot]
      · rw [pathText_true_cons, List.splitOn_append_cons_of_beq _ _ (beq_self_eq_true '.'),
          List.splitOn_eq_singleton hdot]
        rfl
    · have htail := ih hnil fun d hd => hcs d (List.mem_cons_of_mem c hd)
      rw [pathText, if_pos (by simp [hnil]), List.singleton_append,
        List.splitOn_append_cons_of_beq _ _ (beq_self_eq_true '.'),
        List.splitOn_eq_singleton hdot, htail]
      rfl

/-- The object part of a path in the text of components. -/
theorem amxdPathGet_pathText {object : List CString} {parameter : CString}
    (hparameter : '.' ∉ parameter) :
    amxdPathGet (pathText true object ++ parameter) = pathText true object := by
  have hparam : ∀ c ∈ parameter.reverse, (c != '.') = true := by
    intro c hc
    rw [bne_iff_ne]
    rintro rfl
    exact hparameter (List.mem_reverse.mp hc)
  rw [amxdPathGet, List.reverse_append, List.dropWhile_append_of_pos hparam]
  by_cases hnil : object = []
  · subst hnil
    rfl
  · rw [pathText_true hnil, List.reverse_append]
    simp

theorem givesFixedPart_fixedPartOfText : GivesFixedPart fixedPartOfText := by
  intro object parameter hobject hparameter
  have hdot : '.' ∉ parameter := by
    rcases hparameter with rfl | h
    · exact List.not_mem_nil
    · exact h.2
  rw [fixedPartOfText, amxdPathGet_pathText hdot, pieces_pathText hobject]

/-- A bus on which every instance has the alias `lan`. -/
def lanEnv : AliasEnv where
  splitToLlist := fun path => some (path.splitOn '.')
  getFixedPart := fixedPartOfText
  get := fun _ => some [some "lan".toList]

/-- The interface 3 under a request for all of them. -/
theorem indexToAliasText_lan :
    ∃ cs', indexToAliasText lanEnv (pathText true ["IP".toList, ['*']] ++ [])
        (pathText true ["IP".toList, "3".toList]) = some (pathText true cs') ∧
      Rewrites lanEnv (["IP".toList, ['*']].takeWhile isFixedComponent).length
        ["IP".toList, "3".toList] cs' :=
  indexToAliasText_rewrites lanEnv splitsPaths_splitOn givesFixedPart_fixedPartOfText _ _ _ _
    (by decide) (Or.inl rfl) (by decide) (by decide) (by decide)

end Tr069.Parameters
