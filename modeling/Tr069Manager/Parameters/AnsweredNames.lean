import Mathlib.Data.List.Forall2
import Tr069Manager.Lib.CString
import Tr069Manager.Parameters.AliasRewrite
import Tr069Manager.Parameters.Answers

/-!
# The name of an object of the answer

The bus answers with instance numbers. In the list of a request the paths of the answer stand
with all their aliases in the instance mode, and otherwise with the aliases of the request put
back (`answeredName`); the path of a request may have aliases besides wildcards, and the fixed
part of it ends before the first of either.

Neither changes what the path is supported by (`buildSupportedPath_answeredName`). On the text of
a path, the name is what `Modify_Path_With_Aliases` writes (`modifyPathWithAliases_answeredName`)
and, in the instance mode, what `IndexToAlias` returns (`indexToAliasText_answeredName`), if the bus
finds an instance behind the aliases of a path. For a request without aliases it is the one of
`returnedName`.
-/

namespace Tr069.Parameters

/-! ### The source -/

/-- A component that `amxd_path_get_fixed_part` passes. -/
def Component.isFixed : Component → Bool
  | .name _ => true
  | .index _ => true
  | _ => false

/-- `DM_ENG_Device_Common_Modify_Path_With_Aliases`, with what
`DM_ENG_Device_Common_Extract_Aliases` has of the request. -/
def restoreAliases : List Component → List Component → List Component
  | [], path => path
  | _ :: _, [] => []
  | .aliased text :: acsPath, part :: path =>
    (if text = "" then part else .aliased text) :: restoreAliases acsPath path
  | _ :: acsPath, part :: path => part :: restoreAliases acsPath path

/-- The name under which a path of the answer is put into the list: with all its aliases, or with
those of the request. -/
def answeredName (instanceAlias : Bool) (aliasOf : List Component → Option String)
    (acsPath path : DmPath) : DmPath :=
  if instanceAlias then
    ⟨indexToAliasLoop aliasOf [] (acsPath.object.takeWhile Component.isFixed) path.object,
      path.parameter⟩
  else ⟨restoreAliases acsPath.object path.object, path.parameter⟩

/-- A component of a request stands for one of the answer: for itself, or for an instance. -/
def Component.StandsFor (p c : Component) : Prop :=
  p = c ∨ ((p = .wildcard ∨ ∃ text, p = .aliased text) ∧ c.isNumeric = true)

/-- The path of an object begins with what a request stands for. -/
def BeginsWith (pattern o : List Component) : Prop :=
  ∃ used rest, o = used ++ rest ∧ List.Forall₂ Component.StandsFor pattern used

/-! ### A name has the data of what it is the name of -/

section AnsweredName

variable {pattern used rest o : List Component} {aliasOf : List Component → Option String}
  {instanceAlias : Bool} {acsPath q : DmPath}

/-- The parts of paths that are supported by the same object. -/
theorem buildSupportedPath_cons {c : Component} {cs : List Component} :
    buildSupportedPath (c :: cs) = buildSupportedPath [c] ++ buildSupportedPath cs := rfl

theorem Component.StandsFor.buildSupportedPath {p c : Component} (h : p.StandsFor c) :
    buildSupportedPath [p] = buildSupportedPath [c] := by
  rcases h with rfl | ⟨hp', hc⟩
  · rfl
  · cases c with
    | index n => rcases hp' with rfl | ⟨text, rfl⟩ <;> rfl
    | name _ => cases hc
    | aliased _ => cases hc
    | wildcard => cases hc

theorem buildSupportedPath_restoreAliases (h : List.Forall₂ Component.StandsFor pattern used) :
    buildSupportedPath (restoreAliases pattern (used ++ rest)) =
      buildSupportedPath (used ++ rest) := by
  induction h with
  | nil => rfl
  | @cons p c pattern used hp h ih =>
    rw [List.cons_append, buildSupportedPath_cons (c := c), ← ih]
    cases p with
    | aliased text =>
      rw [restoreAliases]
      split_ifs
      · exact buildSupportedPath_cons
      · rw [buildSupportedPath_cons, hp.buildSupportedPath]
    | name _ => exact buildSupportedPath_cons
    | index _ => exact buildSupportedPath_cons
    | wildcard => exact buildSupportedPath_cons

theorem length_restoreAliases (h : List.Forall₂ Component.StandsFor pattern used) :
    (restoreAliases pattern (used ++ rest)).length = (used ++ rest).length := by
  induction h with
  | nil => rfl
  | @cons p c pattern used hp h ih =>
    rw [List.cons_append, List.length_cons, ← ih]
    cases p <;> rfl

/-- The fixed part of a request stands at the beginning of the path. -/
theorem BeginsWith.isFixed_prefix (h : BeginsWith pattern o) :
    pattern.takeWhile Component.isFixed <+: o := by
  obtain ⟨used, rest, rfl, hused⟩ := h
  refine List.IsPrefix.trans ?_ (List.prefix_append used rest)
  induction hused with
  | nil => exact List.nil_prefix
  | @cons p c pattern used hp h ih =>
    rw [List.takeWhile_cons]
    split
    · next hfixed =>
      rcases hp with rfl | ⟨rfl | ⟨text, rfl⟩, -⟩
      · exact (List.prefix_cons_inj p).mpr ih
      · cases hfixed
      · cases hfixed
    · exact List.nil_prefix

theorem BeginsWith.length_le (h : BeginsWith pattern o) : pattern.length ≤ o.length := by
  obtain ⟨used, rest, rfl, hused⟩ := h
  rw [List.length_append, hused.length_eq]
  exact Nat.le_add_right _ _

theorem answeredName_parameter :
    (answeredName instanceAlias aliasOf acsPath q).parameter = q.parameter := by
  rw [answeredName]
  split <;> rfl

/-- **The supported path of a name** is the one of the path. -/
theorem buildSupportedPath_answeredName (h : BeginsWith acsPath.object q.object) :
    buildSupportedPath (answeredName instanceAlias aliasOf acsPath q).object =
      buildSupportedPath q.object := by
  rw [answeredName]
  split
  · obtain ⟨zs, hzs⟩ := h.isFixed_prefix
    have happend : ∀ xs ys, buildSupportedPath (xs ++ ys) =
        buildSupportedPath xs ++ buildSupportedPath ys := fun xs ys => List.map_append
    dsimp only
    rw [← hzs, indexToAliasLoop_fixed, happend, buildSupportedPath_loop, happend]
  · obtain ⟨used, rest, hq, hused⟩ := h
    dsimp only
    rw [hq, buildSupportedPath_restoreAliases hused]

theorem length_answeredName (h : BeginsWith acsPath.object q.object) :
    (answeredName instanceAlias aliasOf acsPath q).object.length = q.object.length := by
  rw [answeredName]
  split
  · obtain ⟨zs, hzs⟩ := h.isFixed_prefix
    dsimp only
    rw [← hzs, indexToAliasLoop_fixed, List.length_append, length_indexToAliasLoop,
      List.length_append]
  · obtain ⟨used, rest, hq, hused⟩ := h
    dsimp only
    rw [hq, length_restoreAliases hused]

end AnsweredName

/-! ### On the text of a path -/

/-- The text of a component. -/
def Component.text : Component → String
  | .name text => text
  | .index n => toString n
  | .aliased text => "[" ++ text ++ "]"
  | .wildcard => "*"

/-- The texts of the components of a path. -/
def DmPath.parts (p : DmPath) : List CString :=
  p.object.map (fun c => c.text.toList) ++ (p.parameter.map String.toList).toList

/-- No name in a path looks like an alias. -/
structure DmPath.PlainNames (p : DmPath) : Prop where
  object : ∀ text, .name text ∈ p.object → isAliasToken text.toList = false
  parameter : ∀ text, p.parameter = some text → isAliasToken text.toList = false

section Text

variable {acsPath path : DmPath} {object o : List Component}

theorem Component.text_index (n : ℕ) : (Component.index n).text.toList = Nat.toDigits 10 n :=
  Nat.toList_repr

theorem Component.text_aliased (text : String) :
    (Component.aliased text).text.toList = '[' :: (text.toList ++ [']']) := by
  simp [Component.text, String.toList_append]

/-- A component that is no alias does not look like one. -/
theorem isAliasToken_text {c : Component} (hname : ∀ text, c = .name text →
    isAliasToken text.toList = false) (halias : ∀ text, c ≠ .aliased text) :
    isAliasToken c.text.toList = false := by
  cases c with
  | name text => exact hname text rfl
  | index n =>
    have hhead : (Component.index n).text.toList.head? ≠ some '[' := by
      intro hhead
      rw [Component.text_index] at hhead
      exact CString.not_mem_toDigits (by decide) n (List.mem_of_head? hhead)
    rw [isAliasToken]
    simp [hhead]
  | aliased text => exact absurd rfl (halias text)
  | wildcard => decide

/-- An alias looks like one, unless it is empty. -/
theorem isAliasToken_aliased (text : String) :
    isAliasToken (Component.aliased text).text.toList = decide (text ≠ "") := by
  have hlast : ('[' :: (text.toList ++ [']'])).getLast? = some ']' := by
    rw [← List.cons_append, List.getLast?_concat]
  have hlength : 3 ≤ ('[' :: (text.toList ++ [']'])).length ↔ text ≠ "" := by
    rw [List.length_cons, List.length_append, List.length_singleton, Ne, ← String.toList_eq_nil_iff,
      ← List.length_eq_zero_iff]
    omega
  rw [Component.text_aliased, isAliasToken, hlast, decide_eq_decide]
  exact ⟨fun h => hlength.mp h.1, fun h => ⟨hlength.mpr h, rfl, rfl⟩⟩

/-- **What is put back into a path**, on its texts. -/
theorem putBack_text (hnames : ∀ text, .name text ∈ object → isAliasToken text.toList = false) :
    putBack (object.map fun c => c.text.toList) (o.map fun c => c.text.toList) =
      (restoreAliases object o).map fun c => c.text.toList := by
  induction object generalizing o with
  | nil => rw [List.map_nil, putBack_nil, restoreAliases]
  | cons p object ih =>
    rcases o with - | ⟨c, o⟩
    · rw [List.map_nil, putBack]
      cases p <;> rfl
    · have htail := ih (fun text htext => hnames text (List.mem_cons_of_mem p htext)) (o := o)
      rw [List.map_cons, List.map_cons, putBack, htail]
      by_cases halias : ∃ text, p = .aliased text
      · obtain ⟨text, rfl⟩ := halias
        rw [isAliasToken_aliased, restoreAliases]
        by_cases htext : text = ""
        · simp [htext]
        · simp [htext]
      · have hp := isAliasToken_text (fun text hp => hnames text (hp ▸ List.mem_cons_self))
          fun text hp => halias ⟨text, hp⟩
        rw [hp]
        cases p with
        | aliased text => exact absurd ⟨text, rfl⟩ halias
        | name _ => rfl
        | index _ => rfl
        | wildcard => rfl

/-- **What `Modify_Path_With_Aliases` writes** for a path of the answer is the text of its name,
outside the instance mode. -/
theorem modifyPathWithAliases_answeredName (aliasOf : List Component → Option String)
    (hacs : ∀ c ∈ acsPath.parts, IsComponent c) (hnames : acsPath.PlainNames)
    (hparts : ∀ c ∈ path.parts, IsComponent c) (hne : path.parts ≠ [])
    (hbegins : BeginsWith acsPath.object path.object) :
    ∃ aliases, extractAliases (pathText acsPath.isPartial acsPath.parts) = some aliases ∧
      modifyPathWithAliases (pathText path.isPartial path.parts) aliases =
        some (pathText path.isPartial (answeredName false aliasOf acsPath path).parts) := by
  refine ⟨_, extractAliases_pathText hacs, ?_⟩
  have hlength : (acsPath.object.map fun c => c.text.toList).length ≤
      (path.object.map fun c => c.text.toList).length := by
    rw [List.length_map, List.length_map]
    exact hbegins.length_le
  have hparameter : ∀ c ∈ (acsPath.parameter.map String.toList).toList, isAliasToken c = false := by
    intro c hc
    obtain ⟨text, htext, rfl⟩ := Option.map_eq_some_iff.mp (Option.mem_toList.mp hc)
    exact hnames.parameter text htext
  rw [modifyPathWithAliases_putBack hparts hne, DmPath.parts, DmPath.parts,
    putBack_append hlength hparameter, putBack_text hnames.object]
  rfl

end Text

/-! ### On the text of a path, in the instance mode -/

section InstanceMode

variable {env : AliasEnv} {aliasOf : List Component → Option String}
  {fixed done zs : List Component} {acsPath path : DmPath}

/-- The number of an instance is numeric, and nothing else in a path is. -/
theorem amxcStringIsNumeric_text {c : Component}
    (hname : ∀ text, c = .name text → amxcStringIsNumeric text.toList = false) :
    amxcStringIsNumeric c.text.toList = c.isNumeric := by
  cases c with
  | name text => exact hname text rfl
  | index n =>
    have hall : (Nat.toDigits 10 n).all Char.isDigit = true :=
      List.all_eq_true.mpr fun c hc => Nat.isDigit_of_mem_toDigits (by decide) (by decide) hc
    rw [Component.text_index, amxcStringIsNumeric, hall, decide_eq_true ⟨Nat.toDigits_ne_nil, rfl⟩]
    rfl
  | aliased text =>
    rw [Component.text_aliased, amxcStringIsNumeric, List.all_cons]
    rfl
  | wildcard => decide

/-- A name, a number and a wildcard are fixed on their texts as they are in the request. -/
theorem isFixedComponent_text {c : Component}
    (hname : ∀ text, c = .name text → isFixedComponent text.toList = true) :
    isFixedComponent c.text.toList = c.isFixed := by
  cases c with
  | name text => exact hname text rfl
  | index n =>
    have hnot : ∀ c, c.isDigit = false → c ∉ Nat.toDigits 10 n := fun c hc =>
      CString.not_mem_toDigits hc n
    rw [Component.text_index]
    refine decide_eq_true ⟨fun h => hnot '*' rfl (h ▸ List.mem_cons_self), fun h => ?_⟩
    exact hnot '[' rfl (List.mem_of_head? h)
  | aliased text =>
    rw [Component.text_aliased, isFixedComponent]
    simp [Component.isFixed]
  | wildcard => decide

theorem takeWhile_text {object : List Component}
    (hnames : ∀ text, .name text ∈ object → isFixedComponent text.toList = true) :
    (object.map fun c => c.text.toList).takeWhile isFixedComponent =
      (object.takeWhile Component.isFixed).map fun c => c.text.toList := by
  induction object with
  | nil => rfl
  | cons c object ih =>
    have htail := ih fun text htext => hnames text (List.mem_cons_of_mem c htext)
    rw [List.map_cons, List.takeWhile_cons, List.takeWhile_cons, htail,
      isFixedComponent_text fun text hc => hnames text (hc ▸ List.mem_cons_self)]
    cases c.isFixed <;> rfl

/-- The bus finds an instance behind the aliases of a path as it finds it behind its numbers. -/
def FindsUnderAliases (env : AliasEnv) (aliasOf : List Component → Option String)
    (fixed : List Component) : Prop :=
  ∀ done n, env.givenAlias
      (pathText true
          ((fixed ++ indexToAliasLoop aliasOf fixed [] done).map fun c => c.text.toList) ++
        (Component.index n).text.toList ++ ".Alias".toList) =
    (aliasOf (fixed ++ done ++ [.index n])).map String.toList

/-- What a component becomes, on its text. -/
theorem rewritePart_text {resolvedPath : CString} {c : Component}
    (hname : ∀ text, c = .name text → amxcStringIsNumeric text.toList = false)
    (hbus : ∀ n, c = .index n →
      env.givenAlias (resolvedPath ++ c.text.toList ++ ".Alias".toList) =
        (aliasOf (done ++ [c])).map String.toList) :
    rewritePart env resolvedPath c.text.toList = (aliasComponent aliasOf done c).text.toList := by
  rw [rewritePart, aliasComponent, amxcStringIsNumeric_text hname]
  cases c with
  | index n =>
    have hnumeric : (Component.index n).isNumeric = true := rfl
    rw [if_pos hnumeric, if_pos hnumeric, hbus n rfl]
    generalize aliasOf (done ++ [Component.index n]) = given
    rcases given with - | a
    · rfl
    · by_cases ha : a = ""
      · simp [ha]
      · simp [ha, Component.text, String.toList_append]
  | name _ => rfl
  | aliased _ => rfl
  | wildcard => rfl

/-- **The loop on the texts** of components: it writes the texts of what the components become. -/
theorem rewriteFrom_text (hbus : FindsUnderAliases env aliasOf fixed)
    (hnames : ∀ text, .name text ∈ zs → amxcStringIsNumeric text.toList = false) :
    rewriteFrom env
        (pathText true
          ((fixed ++ indexToAliasLoop aliasOf fixed [] done).map fun c => c.text.toList))
        (zs.map fun c => c.text.toList) =
      (indexToAliasLoop aliasOf (fixed ++ done) [] zs).map fun c => c.text.toList := by
  induction zs generalizing done with
  | nil => rfl
  | cons c zs ih =>
    have hpart : rewritePart env
        (pathText true
          ((fixed ++ indexToAliasLoop aliasOf fixed [] done).map fun c => c.text.toList))
        c.text.toList = (aliasComponent aliasOf (fixed ++ done) c).text.toList := by
      refine rewritePart_text (fun text hc => hnames text (hc ▸ List.mem_cons_self)) ?_
      rintro n rfl
      exact hbus done n
    have hdone : indexToAliasLoop aliasOf fixed [] (done ++ [c]) =
        indexToAliasLoop aliasOf fixed [] done ++ [aliasComponent aliasOf (fixed ++ done) c] := by
      rw [indexToAliasLoop_append, indexToAliasLoop, indexToAliasLoop]
    have htail := @ih (done ++ [c]) fun text hc => hnames text (List.mem_cons_of_mem c hc)
    rw [hdone, ← List.append_assoc, List.map_append, pathText_true_append, List.map_singleton,
      pathText_true_cons] at htail
    rw [List.map_cons, rewriteFrom, hpart, indexToAliasLoop, List.map_cons, List.append_assoc fixed,
      ← htail]
    simp [pathText]

/-- The text of a path: that of its object, with a dot behind it, and that of its parameter. -/
theorem pathText_parts :
    pathText acsPath.isPartial acsPath.parts =
      pathText true (acsPath.object.map fun c => c.text.toList) ++
        (acsPath.parameter.map String.toList).getD [] := by
  rcases acsPath with ⟨object, - | parameter⟩
  · exact (congrArg _ (List.append_nil _)).trans (List.append_nil _).symm
  · have hdot :
        pathText false ((object.map fun c => c.text.toList) ++ [parameter.toList]) ++ ['.'] =
        pathText true (object.map fun c => c.text.toList) ++ parameter.toList ++ ['.'] := by
      rw [← pathText_true (by simp), pathText_true_append, pathText_true_cons, pathText]
      simp
    exact List.append_cancel_right hdot

/-- The parameter of a path is no number, and stays. -/
theorem rewriteFrom_parts {resolvedPath : CString} {cs : List CString}
    (hname : ∀ text, path.parameter = some text → amxcStringIsNumeric text.toList = false) :
    rewriteFrom env resolvedPath (cs ++ (path.parameter.map String.toList).toList) =
      rewriteFrom env resolvedPath cs ++ (path.parameter.map String.toList).toList := by
  rcases hparameter : path.parameter with - | text
  · exact (congrArg _ (List.append_nil _)).trans (List.append_nil _).symm
  · exact rewriteFrom_concat (hname text hparameter)

/-- **What `IndexToAlias` returns** for a path of the answer is the text of its name in the
instance mode. -/
theorem indexToAliasText_answeredName (hsplit : SplitsPaths env.splitToLlist)
    (hfixedPart : GivesFixedPart env.getFixedPart)
    (hacs : ∀ c ∈ acsPath.parts, IsComponent c)
    (hacsNames : ∀ text, .name text ∈ acsPath.object → isFixedComponent text.toList = true)
    (hparts : ∀ c ∈ path.parts, IsComponent c) (hne : path.parts ≠ [])
    (hnames : ∀ text, .name text ∈ path.object ∨ path.parameter = some text →
      amxcStringIsNumeric text.toList = false)
    (hbegins : BeginsWith acsPath.object path.object)
    (hbus : FindsUnderAliases env aliasOf (acsPath.object.takeWhile Component.isFixed)) :
    indexToAliasText env (pathText acsPath.isPartial acsPath.parts)
        (pathText path.isPartial path.parts) =
      some (pathText path.isPartial (answeredName true aliasOf acsPath path).parts) := by
  obtain ⟨zs, hzs⟩ := hbegins.isFixed_prefix
  have hpath : path.parts =
      ((acsPath.object.takeWhile Component.isFixed).map fun c => c.text.toList) ++
      ((zs.map fun c => c.text.toList) ++ (path.parameter.map String.toList).toList) := by
    rw [DmPath.parts, ← hzs, List.map_append, List.append_assoc]
  have hobject : ∀ c ∈ acsPath.object.map fun c => c.text.toList, IsComponent c := fun c hc =>
    hacs c (List.mem_append_left _ hc)
  have hparameter : (acsPath.parameter.map String.toList).getD [] = [] ∨
      IsComponent ((acsPath.parameter.map String.toList).getD []) := by
    rcases hp : acsPath.parameter with - | text
    · exact Or.inl rfl
    · refine Or.inr (hacs _ (List.mem_append_right _ ?_))
      rw [hp]
      exact List.mem_cons_self
  have hloop := @rewriteFrom_text _ _ _ [] zs hbus fun text htext =>
    hnames text (Or.inl (hzs ▸ List.mem_append_right _ htext))
  rw [indexToAliasLoop, List.append_nil] at hloop
  rw [hpath] at hne hparts ⊢
  rw [pathText_parts, indexToAliasText_eq hsplit hfixedPart hobject hparameter
    (takeWhile_text hacsNames) hne hparts,
    rewriteFrom_parts fun text htext => hnames text (Or.inr htext), hloop, answeredName, if_pos rfl,
    ← hzs, indexToAliasLoop_fixed, DmPath.parts, List.map_append, List.append_assoc]
  rfl

end InstanceMode
/-! ### Without aliases -/

section WithoutAliases

variable {env : ReadEnv} {d : Device} {path : DmPath} {pattern o rest : List Component}

theorem beginsWith_of_matchRest (h : matchRest pattern o = some rest) : BeginsWith pattern o := by
  induction pattern generalizing o with
  | nil => exact ⟨[], o, rfl, .nil⟩
  | cons p ps ih =>
    cases o with
    | nil => cases h
    | cons c cs =>
      rw [matchRest] at h
      split_ifs at h with hc
      obtain ⟨used, rest', rfl, hused⟩ := ih h
      exact ⟨c :: used, rest', rfl, .cons (hc.imp_right fun hw => ⟨Or.inl hw.1, hw.2⟩) hused⟩

/-- Without aliases in the request, the names are those of `returnedName`. -/
theorem answeredName_eq_returnedName (h : ∀ c ∈ path.object, ∀ a, c ≠ .aliased a) :
    answeredName env.instanceAlias d.objects.aliasOf path = returnedName env d path := by
  funext q
  rw [answeredName, returnedName]
  split
  · have hfixed : path.object.takeWhile Component.isFixed = fixedPart path.object := by
      rw [fixedPart]
      generalize path.object = cs at h
      induction cs with
      | nil => rfl
      | cons c cs ih =>
        have htail := ih fun c' hc' => h c' (List.mem_cons_of_mem c hc')
        have hhead := h c List.mem_cons_self
        rw [List.takeWhile_cons, List.takeWhile_cons, htail]
        cases c with
        | aliased a => exact absurd rfl (hhead a)
        | name _ => rfl
        | index _ => rfl
        | wildcard => rfl
    rw [hfixed]
    rfl
  · have hrestore : ∀ pattern : List Component, (∀ c ∈ pattern, ∀ a, c ≠ .aliased a) →
        ∀ o, restoreAliases pattern o = o := by
      intro pattern hpattern
      induction pattern with
      | nil => exact fun o => rfl
      | cons p ps ih =>
        have htail := ih fun c hc => hpattern c (List.mem_cons_of_mem p hc)
        have hhead := hpattern p List.mem_cons_self
        rintro (- | ⟨c, cs⟩)
        · cases p <;> rfl
        · cases p with
          | aliased a => exact absurd rfl (hhead a)
          | name _ => exact congrArg _ (htail cs)
          | index _ => exact congrArg _ (htail cs)
          | wildcard => exact congrArg _ (htail cs)
    rw [hrestore path.object h]

end WithoutAliases

end Tr069.Parameters
