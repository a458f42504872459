import Tr069Manager.SetParameterValues.Complete
import Tr069Manager.SetParameterValues.EachOnce

/-!
# Paths with aliases, and the gate that lets them through

A request may name an instance by its alias in brackets, and a search expression stands in
brackets as well. What tells the two apart is `DM_ENG_Device_Common_Is_Valid_Alias_Path`,
which SetParameterValues and AddObject (`DM_ENG_Device_AddDeleteObject_Add`) ask about every
path the library takes for a search path.

The function goes from one bracketed component to the next one behind it. As no alias has a
dot, nothing is missed in between (`isAliasPath_iff`): what it lets through beyond the
paths it should are those with a component that it does not look at (`Bracket.Unseen`),
because the text does not fit into the buffer of 256 characters or because the bracket is
not closed. A search expression of 256 characters passes the gate.
-/

namespace Tr069

/-! ### AddObject -/

/-- What AddObject meets. -/
structure AddObjectEnv where
  /-- `amxd_path_is_search_path` -/
  isSearchPath : CString → Bool
  /-- `amxd_path_get_last`: the last component of a path, and the path without it -/
  pathGetLast : CString → CString × CString
  /-- `amxa_is_add_allowed` -/
  isAddAllowed : CString → Bool
  /-- `amxb_add`: the number of the new instance, if there is one -/
  add : CString → Option CString → Option Nat

/-- What AddObject returns, and the bus call it made. -/
structure AddObjectResult where
  error : Int
  instanceNumber : Nat
  status : ParameterStatus
  add : Option (CString × Option CString)

/-- `get_acs_assigned_instance_alias`: the alias the path ends with, and the path without
its last component. -/
def getAcsAssignedInstanceAlias (env : AddObjectEnv) (path : CString) :
    Option CString × CString :=
  if path = [] then (none, path)
  else
    let (last, rest) := env.pathGetLast path
    if 3 < last.length ∧ last[0]? = some '[' ∧ last[last.length - 2]? = some ']' ∧
        last[last.length - 1]? = some '.' then
      (some ((last.drop 1).take (last.length - 3)), rest)
    else (none, rest)

/-- `DM_ENG_Device_AddDeleteObject_Add`. -/
def addDeleteObjectAdd (env : AddObjectEnv) (objectName : CString) : AddObjectResult :=
  if objectName = [] ∨ objectName.getLast? ≠ some '.' ∨ isValidPath objectName = false ∨
      (env.isSearchPath objectName = true ∧ isValidAliasPath objectName = false) then
    ⟨invalidParameterName, 0, .undefined, none⟩
  else
    let (instanceAlias, rest) := getAcsAssignedInstanceAlias env objectName
    let obj := if instanceAlias.isSome then rest.filter fun c => c ≠ '[' ∧ c ≠ ']' else objectName
    if env.isAddAllowed obj = false then ⟨invalidParameterName, 0, .undefined, none⟩
    else
      match env.add obj instanceAlias with
      | none => ⟨internalError, 0, .undefined, some (obj, instanceAlias)⟩
      | some index => ⟨0, index, .applied, some (obj, instanceAlias)⟩

/-! ### What an alias path is -/

/-- Wherever a bracket opens behind a dot it is closed, with an alias in it. -/
def AliasesIn (path : CString) : Prop :=
  ∀ pre post, path = pre ++ '.' :: '[' :: post →
    ∃ text rest, post = text ++ ']' :: rest ∧ isValidAlias text = true

/-- **An alias path**: it is not empty and has no wildcard, and what is in brackets are
aliases. -/
structure IsAliasPath (path : CString) : Prop where
  ne_nil : path ≠ []
  noWildcard : '*' ∉ path
  aliases : AliasesIn path

/-- **What the gate should do**: it accepts the alias paths, and so no path the library
takes for a search path comes to a bus set or to an added object unless it is one. -/
structure GateCloses (path : CString) : Prop where
  accepts : isValidAliasPath path = true ↔ IsAliasPath path
  set : ∀ {C : Type} (env : SetEnv) (ops : AttributesCache C) (answers : Nat → BusAnswer)
    (list : List ParameterValueStruct) (status : ParameterStatus) (w : SetWorld C)
    (r : SetResult C), setParameterValues env ops answers list status w = some r →
      (∃ set ∈ r.sets, set.object = path) → env.isSearchPath path = true → IsAliasPath path
  add : ∀ env : AddObjectEnv, (addDeleteObjectAdd env path).add ≠ none →
    env.isSearchPath path = true → IsAliasPath path

/-! ### The bracketed components -/

/-- What the scan meets: a bracketed component with its text, or a bracket that is not
closed. -/
inductive Bracket
  | closed (text : CString)
  | unclosed

/-- The bracketed components of a path, one behind the other. -/
def brackets : Nat → CString → List Bracket
  | 0, _ => []
  | fuel + 1, path =>
    match CString.strstr path ".[".toList with
    | none => []
    | some start =>
      match CString.strstr (path.drop start) "]".toList with
      | none => [.unclosed]
      | some len =>
        .closed ((path.drop (start + 2)).take (len - 2)) ::
          brackets fuel (path.drop (start + len + 1))

/-- The component is an alias. -/
def Bracket.IsAlias : Bracket → Prop
  | .closed text => isValidAlias text = true
  | .unclosed => False

instance Bracket.decidableIsAlias : DecidablePred Bracket.IsAlias
  | .closed text => inferInstanceAs (Decidable (isValidAlias text = true))
  | .unclosed => inferInstanceAs (Decidable False)

/-- The component is not looked at: it does not fit into the buffer, or is not closed. -/
def Bracket.Unseen : Bracket → Prop
  | .closed text => 256 ≤ text.length
  | .unclosed => True

/-- The loop looks at every component but those. -/
theorem aliasLoop_iff {fuel : Nat} {path : CString} :
    aliasLoop fuel path = true ↔ ∀ b ∈ brackets fuel path, b.Unseen ∨ b.IsAlias := by
  induction fuel generalizing path with
  | zero => simp [aliasLoop, brackets]
  | succ fuel ih =>
    rw [aliasLoop, brackets]
    rcases CString.strstr path ".[".toList with - | start
    · simp
    · dsimp only
      rcases CString.strstr (path.drop start) "]".toList with - | len
      · simp [Bracket.Unseen]
      · dsimp only
        rw [List.forall_mem_cons, ← ih, Bracket.Unseen, Bracket.IsAlias]
        generalize (path.drop (start + 2)).take (len - 2) = text
        split_ifs with h
        · have hseen : ¬256 ≤ text.length := by omega
          simp [hseen, h.2]
        · have hskip : 256 ≤ text.length ∨ isValidAlias text = true := by
            by_cases hlen : text.length < 256
            · exact Or.inr (by simpa [hlen] using h)
            · exact Or.inl (by omega)
          simp [hskip]

variable {path pre text rest : CString} {fuel : Nat}

/-- An alias has no dot and no bracket. -/
theorem not_mem_of_isValidAlias {c : Char} (h : isValidAlias text = true)
    (hc : (c.isAlphanum || c == '_' || c == '-') = false) : c ∉ text := by
  rcases text with - | ⟨d, text⟩
  · exact List.not_mem_nil
  · obtain ⟨hd, htext⟩ := of_decide_eq_true h
    simp only [Bool.or_eq_false_iff, beq_eq_false_iff_ne] at hc
    obtain ⟨⟨halnum, hunderscore⟩, hhyphen⟩ := hc
    rintro hmem
    rcases List.mem_cons.mp hmem with rfl | hmem
    · rcases hd with hd | hd
      · rw [Char.isAlphanum, hd, Bool.true_or] at halnum
        cases halnum
      · exact hunderscore hd
    · rcases htext c hmem with h | h | h
      · rw [h] at halnum
        cases halnum
      · exact hunderscore h
      · exact hhyphen h

/-- Behind the first component the others follow: nothing opens in an alias. -/
theorem aliasesIn_append (hclose : ']' ∉ text)
    (hfirst : ∀ p q, pre ++ '.' :: '[' :: (text ++ ']' :: rest) = p ++ '.' :: '[' :: q →
      pre.length ≤ p.length) :
    AliasesIn (pre ++ '.' :: '[' :: (text ++ ']' :: rest)) ↔
      isValidAlias text = true ∧ AliasesIn rest := by
  constructor
  · intro h
    refine ⟨?_, fun p q hq => h (pre ++ '.' :: '[' :: (text ++ ']' :: p)) q (by simp [hq])⟩
    obtain ⟨text', rest', heq, halias⟩ := h pre _ rfl
    have hclose' : ']' ∉ text' := not_mem_of_isValidAlias halias (by decide)
    -- both texts end at the first closing bracket
    have htake := congrArg (List.takeWhile (· ≠ ']')) heq
    have hne : ∀ {t : CString}, ']' ∉ t → ∀ c ∈ t, decide (c ≠ ']') = true :=
      fun ht c hc => decide_eq_true fun heq => ht (heq ▸ hc)
    rw [List.takeWhile_append_of_pos (hne hclose), List.takeWhile_append_of_pos (hne hclose')]
      at htake
    have htext : text = text' := by simpa using htake
    rwa [htext]
  · rintro ⟨halias, hrest⟩ p q hq
    have hdot : '.' ∉ text := not_mem_of_isValidAlias halias (by decide)
    obtain ⟨m, rfl⟩ : ∃ m, p = pre ++ m := by
      have hle := hfirst p q hq
      rcases List.append_eq_append_iff.mp hq with ⟨m, rfl, -⟩ | ⟨m, rfl, -⟩
      · exact ⟨m, rfl⟩
      · rw [List.length_append] at hle
        obtain rfl : m = [] := List.eq_nil_of_length_eq_zero (by omega)
        exact ⟨[], by rw [List.append_nil, List.append_nil]⟩
    rw [List.append_assoc, List.append_cancel_left_eq] at hq
    match m with
    | [] =>
      obtain ⟨-, hq⟩ := List.cons.inj hq
      obtain ⟨-, rfl⟩ := List.cons.inj hq
      exact ⟨text, rest, rfl, halias⟩
    | [_] =>
      obtain ⟨-, hq⟩ := List.cons.inj hq
      cases (List.cons.inj hq).1
    | _ :: _ :: m =>
      obtain ⟨-, hq⟩ := List.cons.inj hq
      obtain ⟨-, hq⟩ := List.cons.inj hq
      rcases List.append_eq_append_iff.mp hq with ⟨k, -, hk⟩ | ⟨k, hk, hk'⟩
      · rcases k with - | ⟨c, k⟩
        · cases (List.cons.inj hk).1
        · obtain ⟨-, hk⟩ := List.cons.inj hk
          exact hrest k q hk
      · -- the dot would stand in the alias
        rcases k with - | ⟨c, k⟩
        · cases (List.cons.inj hk').1
        · obtain ⟨rfl, -⟩ := List.cons.inj hk'
          exact absurd (hk ▸ List.mem_append_right m List.mem_cons_self) hdot

/-- Where nothing opens the scan ends. -/
theorem brackets_of_none_opens (h : ¬".[".toList <:+: path) : brackets fuel path = [] := by
  rcases fuel with - | fuel
  · rw [brackets]
  · rw [brackets, CString.strstr_eq_none.mpr h]

/-- The scan at a component that is closed. -/
theorem brackets_closed (hclose : ']' ∉ text)
    (hfirst : ∀ p q, pre ++ '.' :: '[' :: (text ++ ']' :: rest) = p ++ '.' :: '[' :: q →
      pre.length ≤ p.length) :
    brackets (fuel + 1) (pre ++ '.' :: '[' :: (text ++ ']' :: rest)) =
      .closed text :: brackets fuel rest := by
  have hopening : CString.strstr (pre ++ '.' :: '[' :: (text ++ ']' :: rest)) ".[".toList =
      some pre.length := CString.strstr_append hfirst
  have hclosing : CString.strstr ('.' :: '[' :: (text ++ ']' :: rest)) "]".toList =
      some (text.length + 2) :=
    @CString.strstr_append_cons ']' ('.' :: '[' :: text) rest (by simp [hclose])
  have htext : (pre ++ '.' :: '[' :: (text ++ ']' :: rest)).drop (pre.length + 2) =
      text ++ ']' :: rest := by
    rw [← List.drop_drop, List.drop_left]
    rfl
  have hrest : (pre ++ '.' :: '[' :: (text ++ ']' :: rest)).drop
      (pre.length + (text.length + 2) + 1) = rest := by
    rw [Nat.add_assoc, Nat.add_comm text.length, Nat.add_assoc, ← Nat.add_assoc, ← List.drop_drop,
      htext, ← List.drop_drop, List.drop_left]
    rfl
  rw [brackets, hopening]
  dsimp only
  rw [List.drop_left, hclosing]
  dsimp only
  rw [hrest, htext, Nat.add_sub_cancel, List.take_left]

/-- **The scan misses nothing**: the brackets are aliases exactly if the components it meets
are. -/
theorem forall_brackets (hfuel : path.length ≤ fuel) :
    (∀ b ∈ brackets fuel path, b.IsAlias) ↔ AliasesIn path := by
  induction fuel generalizing path with
  | zero =>
    obtain rfl : path = [] := List.eq_nil_of_length_eq_zero (by omega)
    refine iff_of_true (by simp [brackets]) fun pre post h => ?_
    exact absurd h (by simp)
  | succ fuel ih =>
    rcases hopen : CString.strstr path ".[".toList with - | start
    · rw [CString.strstr_eq_none] at hopen
      rw [brackets_of_none_opens hopen]
      exact iff_of_true (by simp) fun pre post h => absurd ⟨pre, post, by simp [h]⟩ hopen
    · obtain ⟨⟨pre, post, rfl, rfl⟩, hfirst⟩ := CString.strstr_eq_some hopen
      by_cases hclose : ']' ∈ post
      · obtain ⟨text, rest, rfl, htext⟩ := List.eq_append_cons_of_mem hclose
        have hlen : rest.length ≤ fuel := by
          rw [List.length_append, List.length_append, List.length_append, List.length_cons] at hfuel
          have : ".[".toList.length = 2 := rfl
          omega
        change (∀ b ∈ brackets (fuel + 1) (pre ++ '.' :: '[' :: (text ++ ']' :: rest)), b.IsAlias) ↔
          AliasesIn (pre ++ '.' :: '[' :: (text ++ ']' :: rest))
        rw [brackets_closed htext hfirst, List.forall_mem_cons, ih hlen, Bracket.IsAlias]
        exact (aliasesIn_append htext hfirst).symm
      · have hunclosed : CString.strstr (".[".toList ++ post) "]".toList = none := by
          rw [CString.strstr_eq_none]
          rintro ⟨x, y, hxy⟩
          have hmem : ']' ∈ ".[".toList ++ post := by
            rw [← hxy]
            exact List.mem_append_left y (List.mem_append_right x List.mem_cons_self)
          exact hclose ((List.mem_append.mp hmem).resolve_left (by decide))
        rw [brackets, hopen]
        dsimp only
        rw [List.drop_left, hunclosed]
        refine iff_of_false (by simp [Bracket.IsAlias]) fun h => ?_
        obtain ⟨text, rest, rfl, -⟩ := h pre post rfl
        exact hclose (List.mem_append_right text List.mem_cons_self)

/-- Together with what the function checks first this is what an alias path is. -/
theorem isAliasPath_iff : IsAliasPath path ↔
    path ≠ [] ∧ '*' ∉ path ∧ ∀ b ∈ brackets path.length path, b.IsAlias := by
  rw [forall_brackets (le_refl _)]
  exact ⟨fun h => ⟨h.ne_nil, h.noWildcard, h.aliases⟩, fun h => ⟨h.1, h.2.1, h.2.2⟩⟩

theorem isValidAliasPath_iff : isValidAliasPath path = true ↔
    path ≠ [] ∧ '*' ∉ path ∧ ∀ b ∈ brackets path.length path, b.Unseen ∨ b.IsAlias := by
  rw [isValidAliasPath, decide_eq_true_eq, aliasLoop_iff]

/-- The function accepts every alias path. -/
theorem IsAliasPath.isValidAliasPath (h : IsAliasPath path) : isValidAliasPath path = true := by
  obtain ⟨hne, hwildcard, hbrackets⟩ := isAliasPath_iff.mp h
  exact isValidAliasPath_iff.mpr ⟨hne, hwildcard, fun b hb => Or.inr (hbrackets b hb)⟩

/-! ### The gate -/

/-- A set is one of an object of the list. -/
theorem exists_mem_of_mem_sets {C : Type} {env : SetEnv} {ops : AttributesCache C}
    {answers : Nat → BusAnswer} {list : List ParameterValueStruct} {status : ParameterStatus}
    {w : SetWorld C} {r : SetResult C} {set : BusSet}
    (hr : setParameterValues env ops answers list status w = some r) (hset : set ∈ r.sets) :
    PassesValidation env list ∧ ∃ p ∈ list, amxdPathGet p.parameterName = set.object := by
  by_cases hvalid : PassesValidation env list
  · obtain ⟨faults, hr'⟩ := setParameterValues_of_passes ops answers status w hvalid
    obtain rfl := Option.some.inj (hr'.symm.trans hr)
    rw [sets_applied objectGroups_ne_nil] at hset
    obtain ⟨group, hgroup, rfl⟩ := List.mem_map.mp hset
    obtain ⟨p, rest, rfl⟩ := List.exists_cons_of_ne_nil (objectGroups_ne_nil group hgroup)
    have hsub := List.sublist_flatten_of_mem hgroup
    rw [objectGroups, List.flatten_splitBy] at hsub
    exact ⟨hvalid, p, hsub.subset List.mem_cons_self, rfl⟩
  · obtain ⟨error, faults, hr', -⟩ :=
      setParameterValues_of_not_passes ops answers status w hvalid
    obtain rfl := Option.some.inj (hr'.symm.trans hr)
    cases hset

/-- A search path that comes to a bus set has passed the function. -/
theorem isValidAliasPath_of_mem_sets {C : Type} {env : SetEnv} {ops : AttributesCache C}
    {answers : Nat → BusAnswer} {list : List ParameterValueStruct} {status : ParameterStatus}
    {w : SetWorld C} {r : SetResult C} {set : BusSet}
    (hr : setParameterValues env ops answers list status w = some r) (hset : set ∈ r.sets)
    (hsearch : env.isSearchPath set.object = true) : isValidAliasPath set.object = true := by
  obtain ⟨hvalid, p, hp, hobject⟩ := exists_mem_of_mem_sets hr hset
  obtain ⟨i, hi, rfl⟩ := List.getElem_of_mem hp
  have hentry := hvalid.validEntry (List.getElem?_eq_getElem hi)
  rw [← hobject] at hsearch ⊢
  exact hentry.aliases hsearch

/-- So has one that comes to an added object. -/
theorem isValidAliasPath_of_add {env : AddObjectEnv}
    (hadd : (addDeleteObjectAdd env path).add ≠ none) (hsearch : env.isSearchPath path = true) :
    isValidAliasPath path = true := by
  rw [addDeleteObjectAdd] at hadd
  split_ifs at hadd with hguard
  · exact absurd rfl hadd
  · rw [not_or, not_or, not_or] at hguard
    by_contra h
    exact hguard.2.2.2 ⟨hsearch, by simpa using h⟩

/-- The gate is closed to what is not an alias path: the path is refused for what the
function looks at, or what it does not look at are aliases as well. -/
def NothingUnseen (path : CString) : Prop :=
  path = [] ∨ '*' ∈ path ∨ (∃ b ∈ brackets path.length path, ¬b.Unseen ∧ ¬b.IsAlias) ∨
    ∀ b ∈ brackets path.length path, b.Unseen → b.IsAlias

/-- **The gate does what it should exactly on the paths without an unseen component**: every
bracket is closed, and one with 256 characters or more holds an alias, unless the path is
refused anyhow. -/
theorem gateCloses_iff (path : CString) : GateCloses path ↔ NothingUnseen path := by
  have haccepts : (isValidAliasPath path = true ↔ IsAliasPath path) ↔ NothingUnseen path := by
    rw [isValidAliasPath_iff, isAliasPath_iff, NothingUnseen]
    grind
  constructor
  · exact fun h => haccepts.mp h.accepts
  · intro h
    have hgate := haccepts.mpr h
    refine ⟨hgate, ?_, fun env hadd hsearch => hgate.mp (isValidAliasPath_of_add hadd hsearch)⟩
    rintro C env ops answers list status w r hr ⟨set, hset, rfl⟩ hsearch
    exact hgate.mp (isValidAliasPath_of_mem_sets hr hset hsearch)

/-- What the scan meets in a path with one component in brackets. -/
theorem brackets_device (hclose : ']' ∉ text) :
    brackets (fuel + 1) ("Device.A.[".toList ++ (text ++ "].".toList)) = [.closed text] := by
  change brackets (fuel + 1) ("Device.A".toList ++ '.' :: '[' :: (text ++ ']' :: ['.'])) = _
  rw [brackets_closed hclose, brackets_of_none_opens (by decide)]
  intro p q hp
  -- the bracket stands behind the first nine characters
  have hlen : "Device.A.".toList.length ≤ (p ++ ['.']).length :=
    @CString.length_le_of_not_mem '[' _ (text ++ ']' :: ['.']) _ q (by decide)
      (by rw [List.append_assoc]; exact hp)
  rw [List.length_append] at hlen
  exact Nat.le_of_succ_le_succ hlen

theorem length_device : ("Device.A.[".toList ++ (text ++ "].".toList)).length =
    9 + (text ++ "].".toList).length + 1 := by
  rw [List.length_append, Nat.add_right_comm]
  rfl

/-- A component of 256 characters passes the gate, whatever it is. -/
theorem isValidAliasPath_device (hlen : 256 ≤ text.length) (hclose : ']' ∉ text)
    (hwildcard : '*' ∉ text) :
    isValidAliasPath ("Device.A.[".toList ++ (text ++ "].".toList)) = true := by
  refine isValidAliasPath_iff.mpr ⟨List.cons_ne_nil _ _, ?_, fun b hb => Or.inl ?_⟩
  · rw [List.mem_append, List.mem_append, not_or, not_or]
    exact ⟨by decide, hwildcard, by decide⟩
  · rw [length_device, brackets_device hclose, List.mem_singleton] at hb
    rw [hb]
    exact hlen

/-- It is in an alias path only if it is an alias. -/
theorem isValidAlias_of_aliasesIn_device (hclose : ']' ∉ text)
    (h : AliasesIn ("Device.A.[".toList ++ (text ++ "].".toList))) : isValidAlias text = true := by
  rw [← forall_brackets (le_refl _), length_device, brackets_device hclose] at h
  exact h _ List.mem_cons_self

/-- A search expression of 256 characters, `x…x!`. -/
def longSearch : CString :=
  "Device.A.[".toList ++ (List.replicate 255 'x' ++ "!].".toList)

theorem device_append (xs : CString) : "Device.A.[".toList ++ (xs ++ "!].".toList) =
    "Device.A.[".toList ++ ((xs ++ ['!']) ++ "].".toList) := by
  rw [List.append_assoc xs]
  rfl

/-- It passes the gate. -/
theorem longSearch_passes : ¬∀ path, GateCloses path := by
  intro h
  have hsplit : longSearch =
      "Device.A.[".toList ++ ((List.replicate 255 'x' ++ ['!']) ++ "].".toList) :=
    device_append _
  have hnot : ∀ c, c ≠ 'x' → c ≠ '!' → c ∉ List.replicate 255 'x' ++ ['!'] := by
    intro c hx hexcl hmem
    rcases List.mem_append.mp hmem with hmem | hmem
    · exact hx (List.eq_of_mem_replicate hmem)
    · exact hexcl (List.mem_singleton.mp hmem)
  have hclose := hnot ']' (by decide) (by decide)
  have hpass : isValidAliasPath longSearch = true := by
    rw [hsplit]
    refine isValidAliasPath_device ?_ hclose (hnot '*' (by decide) (by decide))
    rw [List.length_append, List.length_replicate, List.length_singleton]
  have haliases := ((h longSearch).accepts.mp hpass).aliases
  rw [hsplit] at haliases
  have halias := isValidAlias_of_aliasesIn_device hclose haliases
  exact not_mem_of_isValidAlias halias (by decide) (List.mem_append_right _ List.mem_cons_self)

end Tr069
