import Mathlib.Data.List.Forall2
import Tr069Manager.Lib.CString

/-!
# The aliases of a request in the names of its answer

The bus answers with instance numbers. A request that names instances by their aliases gets
its answer with the aliases put back: `DM_ENG_Device_Common_Extract_Aliases` keeps every
bracketed component of the request with its place, and
`DM_ENG_Device_Common_Modify_Path_With_Aliases` puts them into a path of the answer in the
same places (`DM_AmxCommon.c`).

Both count the tokens of `strtok`, so what has to agree is that a path has the tokens its
components are, which holds if no component is empty (`pieces_pathText`). The new path is
written with `strcat` into a buffer of the length of the old one and of all aliases
together, and that is enough because every alias is used at most once.
-/

namespace Tr069.Parameters

/-! ### The source -/

/-- `alias_entry_t`. -/
structure AliasEntry where
  index : ℕ
  instanceAlias : CString

/-- `alias_list_t`. -/
structure AliasList where
  entries : List AliasEntry
  totalAliasLength : ℕ

/-- A token that is an alias: something in brackets. -/
def isAliasToken (token : CString) : Bool :=
  3 ≤ token.length ∧ token.head? = some '[' ∧ token.getLast? = some ']'

/-- The loop of `DM_ENG_Device_Common_Extract_Aliases` on a token, with its index. -/
def extractToken (s : ℕ × AliasList) (token : CString) (_next : Bool) : ℕ × AliasList :=
  (s.1 + 1,
    if isAliasToken token then
      { entries := s.2.entries ++ [⟨s.1, token⟩]
        totalAliasLength := s.2.totalAliasLength + token.length }
    else s.2)

/-- `DM_ENG_Device_Common_Extract_Aliases`. -/
def extractAliases (path : CString) : Option AliasList :=
  (CString.strtokLoop '.' extractToken path.length (0, ⟨[], 0⟩) (CString.strtok '.' path)).map
    Prod.snd

/-- `strcat`, into a buffer of a size; nothing if it does not fit. -/
def strcat (size : ℕ) (dest src : CString) : Option CString :=
  if (dest ++ src).length + 1 ≤ size then some (dest ++ src) else none

/-- What is written for a token: the first alias of its place, or the token. -/
def replacement (aliases : AliasList) (index : ℕ) (token : CString) : CString :=
  ((aliases.entries.find? fun e => e.index = index).map AliasEntry.instanceAlias).getD token

/-- The loop of `DM_ENG_Device_Common_Modify_Path_With_Aliases` on a token, with its index
and the path written so far. -/
def modifyToken (aliases : AliasList) (isPartialPath : Bool) (size : ℕ)
    (s : Option (ℕ × CString)) (token : CString) (next : Bool) : Option (ℕ × CString) :=
  s.bind fun (index, newPath) =>
    (strcat size newPath (replacement aliases index token)).bind fun newPath =>
      (if next || isPartialPath then strcat size newPath ['.'] else some newPath).map
        fun newPath => (index + 1, newPath)

/-- `DM_ENG_Device_Common_Modify_Path_With_Aliases`; nothing if what is written does not fit
into the buffer. -/
def modifyPathWithAliases (path : CString) (aliases : AliasList) : Option CString :=
  let isPartialPath := path.getLast? = some '.'
  let size := path.length + aliases.totalAliasLength + 1
  ((CString.strtokLoop '.' (modifyToken aliases isPartialPath size) path.length (some (0, []))
    (CString.strtok '.' path)).bind id).map Prod.snd

/-! ### Paths and their components -/

/-- A component of a path: it is not empty and has no dot. -/
def IsComponent (c : CString) : Prop := c ≠ [] ∧ '.' ∉ c

/-- The path of components: a dot between them, and behind the last one if the path is
partial. -/
def pathText (isPartial : Bool) : List CString → CString
  | [] => []
  | c :: cs => c ++ ((if cs ≠ [] || isPartial then ['.'] else []) ++ pathText isPartial cs)

/-- A component of the path the bus answers with: an instance number in the place of an
alias, and the same otherwise. -/
def Numbered (c d : CString) : Prop :=
  if isAliasToken c then ∃ n, d = Nat.toDigits 10 n else d = c

instance IsComponent.decidable (c : CString) : Decidable (IsComponent c) :=
  inferInstanceAs (Decidable (_ ∧ _))

theorem numbered_self {c : CString} (h : isAliasToken c = false) : Numbered c c := by
  rw [Numbered, if_neg (by simp [h])]

theorem numbered_alias {c : CString} (h : isAliasToken c = true) (n : ℕ) :
    Numbered c (Nat.toDigits 10 n) := by
  rw [Numbered, if_pos h]
  exact ⟨n, rfl⟩

variable {isPartial : Bool} {c d : CString} {cs ds extra tail : List CString} {k i : ℕ}

theorem pathText_eq_nil (h : ∀ c ∈ cs, IsComponent c) : pathText isPartial cs = [] ↔ cs = [] := by
  rcases cs with - | ⟨c, cs⟩
  · simp [pathText]
  · have := (h c List.mem_cons_self).1
    simp [pathText, this]

/-- **The tokens of a path are its components.** -/
theorem pieces_pathText (h : ∀ c ∈ cs, IsComponent c) :
    CString.pieces '.' (pathText isPartial cs) = cs := by
  induction cs with
  | nil => rfl
  | cons c cs ih =>
    obtain ⟨hne, hdot⟩ := h c List.mem_cons_self
    have htail := ih fun d hd => h d (List.mem_cons_of_mem c hd)
    rw [pathText]
    by_cases hsep : (decide (cs ≠ []) || isPartial) = true
    · rw [if_pos hsep, List.singleton_append, CString.pieces_append_cons hdot, if_neg hne, htail]
      rfl
    · rw [if_neg hsep]
      obtain ⟨rfl, -⟩ : cs = [] ∧ isPartial = false := by simpa using hsep
      rw [pathText, List.append_nil, List.append_nil]
      rw [CString.pieces, List.splitOn_eq_singleton hdot]
      simp [hne]

/-- A path ends with a dot if it is partial. -/
theorem getLast?_pathText (h : ∀ c ∈ cs, IsComponent c) (hne : cs ≠ []) :
    decide ((pathText isPartial cs).getLast? = some '.') = isPartial := by
  induction cs with
  | nil => exact absurd rfl hne
  | cons c cs ih =>
    obtain ⟨hc, hdot⟩ := h c List.mem_cons_self
    have htail := fun d hd => h d (List.mem_cons_of_mem c hd)
    rw [pathText]
    by_cases hcs : cs = []
    · subst hcs
      rcases isPartial with - | -
      · simp only [pathText, ne_eq, not_true_eq_false, decide_false, Bool.or_self,
          Bool.false_eq_true, if_false, List.append_nil, decide_eq_false_iff_not]
        exact fun h => hdot (List.mem_of_getLast? h)
      · simp [pathText]
    · have hrest : pathText isPartial cs ≠ [] := fun h => hcs ((pathText_eq_nil htail).mp h)
      rw [← List.append_assoc, List.getLast?_append_of_ne_nil _ hrest, ih htail hcs]

/-! ### The aliases that are kept -/

/-- The aliases among components, the first of which has an index. -/
def aliasesFrom : ℕ → List CString → List AliasEntry
  | _, [] => []
  | k, c :: cs => (if isAliasToken c then [⟨k, c⟩] else []) ++ aliasesFrom (k + 1) cs

/-- The characters of the aliases among components. -/
def aliasLength : List CString → ℕ
  | [] => 0
  | c :: cs => (if isAliasToken c then c.length else 0) + aliasLength cs

theorem foldPieces_extractToken {aliases : AliasList} :
    (CString.foldPieces extractToken (k, aliases) cs).2 =
      ⟨aliases.entries ++ aliasesFrom k cs, aliases.totalAliasLength + aliasLength cs⟩ := by
  induction cs generalizing k aliases with
  | nil => simp [CString.foldPieces, aliasesFrom, aliasLength]
  | cons c cs ih =>
    rw [CString.foldPieces, extractToken, ih, aliasesFrom, aliasLength]
    split_ifs <;> simp [Nat.add_assoc]

/-- **The aliases of a path**, each with the place of its component. -/
theorem extractAliases_pathText (h : ∀ c ∈ cs, IsComponent c) :
    extractAliases (pathText isPartial cs) = some ⟨aliasesFrom 0 cs, aliasLength cs⟩ := by
  rw [extractAliases, CString.strtokLoop_eq (le_refl _), pieces_pathText h, Option.map_some,
    foldPieces_extractToken]
  simp

theorem le_index_of_mem_aliasesFrom {e : AliasEntry} (h : e ∈ aliasesFrom k cs) : k ≤ e.index := by
  induction cs generalizing k with
  | nil => cases h
  | cons c cs ih =>
    rcases List.mem_append.mp h with h | h
    · split_ifs at h
      · obtain rfl := List.mem_singleton.mp h
        exact le_refl k
      · cases h
    · exact (Nat.le_succ k).trans (ih h)

/-! ### The aliases that are put back -/

variable {aliases : AliasList} {before : List AliasEntry} {acc token : CString} {size n : ℕ}
variable {next : Bool}

/-- A token without an alias in its place stays. -/
theorem replacement_of_forall_ne (h : ∀ e ∈ aliases.entries, e.index ≠ k) :
    replacement aliases k token = token := by
  have hnone : (aliases.entries.find? fun e => e.index = k) = none :=
    List.find?_eq_none.mpr fun e he => by simpa using h e he
  rw [replacement, hnone]
  rfl

/-- The components of a path, with those of a request that are aliases put back. -/
def putBack : List CString → List CString → List CString
  | _, [] => []
  | [], d :: ds => d :: putBack [] ds
  | c :: cs, d :: ds => (if isAliasToken c then c else d) :: putBack cs ds

/-- A request without aliases leaves a path as it is. -/
theorem putBack_of_forall (h : ∀ c ∈ cs, isAliasToken c = false) : putBack cs ds = ds := by
  induction ds generalizing cs with
  | nil => rw [putBack]
  | cons d ds ih =>
    rcases cs with - | ⟨c, cs⟩
    · rw [putBack, ih h]
    · rw [putBack, ih fun c' hc' => h c' (List.mem_cons_of_mem c hc'), h c List.mem_cons_self]
      rfl

theorem putBack_nil : putBack [] ds = ds := putBack_of_forall fun _ h => absurd h List.not_mem_nil

theorem putBack_append (hlength : cs.length ≤ ds.length)
    (hrest : ∀ c ∈ extra, isAliasToken c = false) :
    putBack (cs ++ extra) (ds ++ tail) = putBack cs ds ++ tail := by
  induction cs generalizing ds with
  | nil => rw [List.nil_append, putBack_of_forall hrest, putBack_nil]
  | cons c cs ih =>
    rcases ds with - | ⟨d, ds⟩
    · cases hlength
    · rw [List.cons_append, List.cons_append, putBack, putBack, List.cons_append,
        ih (Nat.le_of_succ_le_succ hlength)]

theorem length_putBack : (putBack cs ds).length = ds.length := by
  induction ds generalizing cs with
  | nil => rw [putBack]
  | cons d ds ih => cases cs <;> rw [putBack, List.length_cons, List.length_cons, ih]

/-- Both paths go on behind the same places. -/
theorem putBack_ne_nil : decide (putBack cs ds ≠ []) = decide (ds ≠ []) := by
  rw [decide_eq_decide, ← List.length_pos_iff, ← List.length_pos_iff, length_putBack]

/-- The component of a place is put back if it is an alias, where the entries before it are those
of earlier places. -/
theorem replacement_cons (hbefore : ∀ e ∈ before, e.index < k) :
    replacement ⟨before ++ aliasesFrom k (c :: cs), n⟩ k d = if isAliasToken c then c else d := by
  have hearlier : (before.find? fun e => e.index = k) = none :=
    List.find?_eq_none.mpr fun e he => by
      have := hbefore e he
      simpa using this.ne
  by_cases halias : isAliasToken c = true
  · rw [replacement, List.find?_append, hearlier, aliasesFrom, if_pos halias, if_pos halias]
    simp
  · rw [if_neg halias]
    refine replacement_of_forall_ne fun e he => ?_
    rw [aliasesFrom, if_neg halias, List.nil_append] at he
    rcases List.mem_append.mp he with he | he
    · exact (hbefore e he).ne
    · exact (Nat.lt_of_succ_le (le_index_of_mem_aliasesFrom he)).ne'

/-- **One place**: what is written for it, and the entries of the places behind it. -/
theorem putBack_cons (cs : List CString) (d : CString) (hbefore : ∀ e ∈ before, e.index < k) :
    ∃ before' cs', before ++ aliasesFrom k cs = before' ++ aliasesFrom (k + 1) cs' ∧
      (∀ e ∈ before', e.index < k + 1) ∧ ∀ ds n,
        putBack cs (d :: ds) =
          replacement ⟨before ++ aliasesFrom k cs, n⟩ k d :: putBack cs' ds := by
  have hlt : ∀ e ∈ before, e.index < k + 1 := fun e he => (hbefore e he).trans (Nat.lt_succ_self k)
  rcases cs with - | ⟨c, cs⟩
  · refine ⟨before, [], rfl, hlt, fun ds n => ?_⟩
    rw [putBack, aliasesFrom, List.append_nil,
      replacement_of_forall_ne fun e he => (hbefore e he).ne]
  · refine ⟨before ++ if isAliasToken c then [⟨k, c⟩] else [], cs, ?_, fun e he => ?_,
      fun ds n => ?_⟩
    · rw [aliasesFrom, List.append_assoc]
    · rcases List.mem_append.mp he with he | he
      · exact hlt e he
      · split_ifs at he
        · obtain rfl := List.mem_singleton.mp he
          exact Nat.lt_succ_self _
        · cases he
    · rw [putBack, replacement_cons hbefore]

/-- One token is written, with a dot behind it unless it is the last one of a path that is
not partial. -/
theorem modifyToken_eq (hfit : (acc ++ (replacement aliases k token ++
      if next || isPartial then ['.'] else [])).length + 1 ≤ size) :
    modifyToken aliases isPartial size (some (k, acc)) token next =
      some (k + 1, acc ++ (replacement aliases k token ++
        if next || isPartial then ['.'] else [])) := by
  rw [List.length_append, List.length_append] at hfit
  have htoken : strcat size acc (replacement aliases k token) =
      some (acc ++ replacement aliases k token) := by
    rw [strcat, if_pos (by rw [List.length_append]; omega)]
  rw [modifyToken, Option.bind_some]
  dsimp only
  rw [htoken, Option.bind_some]
  by_cases hsep : (next || isPartial) = true
  · rw [if_pos hsep] at hfit
    rw [if_pos hsep, if_pos hsep, strcat, if_pos]
    · simp
    · simp only [List.length_append]
      omega
  · rw [if_neg hsep, if_neg hsep]
    simp

/-- **The aliases of a request are put back**, one after the other. -/
theorem foldPieces_modifyToken (hbefore : ∀ e ∈ before, e.index < k)
    (hfit : acc.length + (pathText isPartial (putBack cs ds)).length + 1 ≤ size) :
    CString.foldPieces (modifyToken ⟨before ++ aliasesFrom k cs, n⟩ isPartial size)
        (some (k, acc)) ds =
      some (k + ds.length, acc ++ pathText isPartial (putBack cs ds)) := by
  induction ds generalizing k acc before cs with
  | nil => simp [CString.foldPieces, putBack, pathText]
  | cons d ds ih =>
    obtain ⟨before', cs', hentries, hbefore', hput⟩ := putBack_cons cs d hbefore
    rw [hput ds n, pathText, putBack_ne_nil] at hfit
    rw [hput ds n, pathText, putBack_ne_nil, CString.foldPieces, modifyToken_eq, hentries,
      ih hbefore']
    · simp [Nat.add_assoc, Nat.add_comm 1]
    · rw [← hentries]
      simp only [List.length_append] at hfit ⊢
      omega
    · simp only [List.length_append] at hfit ⊢
      omega

/-! ### The bound of the buffer -/

/-- The path with the aliases is longer by their characters at most. -/
theorem length_pathText_le : (pathText isPartial (putBack cs ds)).length ≤
    (pathText isPartial ds).length + aliasLength cs := by
  induction ds generalizing cs with
  | nil => simp [putBack, pathText]
  | cons d ds ih =>
    rcases cs with - | ⟨c, cs⟩
    · rw [putBack_nil]
      exact Nat.le_add_right _ _
    · have hone : (if isAliasToken c then c else d).length ≤
          d.length + if isAliasToken c then c.length else 0 := by
        split_ifs <;> omega
      have hrest := @ih cs
      rw [putBack, pathText, pathText, putBack_ne_nil, aliasLength]
      simp only [List.length_append]
      omega

/-- **The aliases of a request are put back into any path** of components, and the new path fits
into the buffer. -/
theorem modifyPathWithAliases_putBack (hds : ∀ d ∈ ds, IsComponent d) (hne : ds ≠ []) :
    modifyPathWithAliases (pathText isPartial ds) ⟨aliasesFrom 0 cs, aliasLength cs⟩ =
      some (pathText isPartial (putBack cs ds)) := by
  have hbound : (pathText isPartial (putBack cs ds)).length ≤
      (pathText isPartial ds).length + aliasLength cs := length_pathText_le
  -- nothing is written yet, and no entry stands before those of the request
  have hfold : CString.foldPieces (modifyToken ⟨[] ++ aliasesFrom 0 cs, aliasLength cs⟩ isPartial
        ((pathText isPartial ds).length + aliasLength cs + 1)) (some (0, [])) ds =
      some (0 + ds.length, [] ++ pathText isPartial (putBack cs ds)) :=
    foldPieces_modifyToken (fun e he => absurd he List.not_mem_nil)
      (by rw [List.length_nil]; omega)
  rw [List.nil_append] at hfold
  rw [modifyPathWithAliases, getLast?_pathText hds hne, CString.strtokLoop_eq (le_refl _),
    pieces_pathText hds]
  dsimp only
  rw [hfold]
  rfl

/-! ### A path of the answer -/

/-- With numbers in the places of the aliases, the components of the request are back. -/
theorem putBack_numbered (hds : List.Forall₂ Numbered cs ds) :
    putBack cs (ds ++ extra) = cs ++ extra := by
  induction hds with
  | nil => exact putBack_nil
  | @cons c d cs ds hd _ ih =>
    rw [List.cons_append, putBack, ih, List.cons_append]
    refine congrArg (· :: _) ?_
    rw [Numbered] at hd
    split_ifs at hd ⊢
    · rfl
    · exact hd

/-- An instance number is a component. -/
theorem IsComponent.numbered (hc : IsComponent c) (hd : Numbered c d) : IsComponent d := by
  rw [Numbered] at hd
  split_ifs at hd
  · obtain ⟨n, rfl⟩ := hd
    exact ⟨Nat.toDigits_ne_nil, CString.not_mem_toDigits (by decide) n⟩
  · rwa [hd]

theorem isComponent_numbered (hcs : ∀ c ∈ cs, IsComponent c) (hds : List.Forall₂ Numbered cs ds) :
    ∀ d ∈ ds, IsComponent d := by
  induction hds with
  | nil => exact fun d hd => absurd hd List.not_mem_nil
  | cons hd _ ih =>
    intro d' hd'
    rcases List.mem_cons.mp hd' with rfl | hd'
    · exact (hcs _ List.mem_cons_self).numbered hd
    · exact ih (fun c hc => hcs c (List.mem_cons_of_mem _ hc)) d' hd'

/-- **The aliases of a request are put back into a path of its answer**: for a request of
components, some of them aliases, and a path with instance numbers in their places, any
further components and with or without a final dot, what is written is the path with the
aliases in those places, and it fits into the buffer. -/
theorem modifyPathWithAliases_extractAliases (cs ds extra : List CString)
    (isPartial isPartial' : Bool) (hne : cs ≠ []) (hcs : ∀ c ∈ cs, IsComponent c)
    (hextra : ∀ c ∈ extra, IsComponent c) (hds : List.Forall₂ Numbered cs ds) :
    ∃ aliases, extractAliases (pathText isPartial cs) = some aliases ∧
      modifyPathWithAliases (pathText isPartial' (ds ++ extra)) aliases =
        some (pathText isPartial' (cs ++ extra)) ∧
      (pathText isPartial' (cs ++ extra)).length <
        (pathText isPartial' (ds ++ extra)).length + aliases.totalAliasLength + 1 := by
  have hcomponents : ∀ c ∈ ds ++ extra, IsComponent c := by
    intro c hc
    rcases List.mem_append.mp hc with hc | hc
    · exact isComponent_numbered hcs hds c hc
    · exact hextra c hc
  have hne' : ds ++ extra ≠ [] := by
    have hlen := hds.length_eq
    rw [← List.length_pos_iff] at hne ⊢
    rw [List.length_append]
    omega
  have hback : putBack cs (ds ++ extra) = cs ++ extra := putBack_numbered hds
  refine ⟨_, extractAliases_pathText hcs, ?_, ?_⟩
  · rw [modifyPathWithAliases_putBack hcomponents hne', hback]
  · rw [← hback]
    exact Nat.lt_succ_of_le length_pathText_le

/-- The interface `lan` by its alias and by its number, and a parameter of it. -/
theorem modifyPathWithAliases_lan :
    ∃ aliases, extractAliases (pathText true ["IP".toList, "[lan]".toList]) = some aliases ∧
      modifyPathWithAliases
          (pathText false (["IP".toList, Nat.toDigits 10 3] ++ ["Status".toList])) aliases =
        some (pathText false (["IP".toList, "[lan]".toList] ++ ["Status".toList])) ∧
      (pathText false (["IP".toList, "[lan]".toList] ++ ["Status".toList])).length <
        (pathText false (["IP".toList, Nat.toDigits 10 3] ++ ["Status".toList])).length +
          aliases.totalAliasLength + 1 :=
  modifyPathWithAliases_extractAliases _ _ _ true false (by decide) (by decide) (by decide)
    (.cons (numbered_self (by decide)) (.cons (numbered_alias (by decide) 3) .nil))

end Tr069.Parameters
