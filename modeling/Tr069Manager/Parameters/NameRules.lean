import Tr069Manager.Parameters.Requests

/-!
# Names that are not to be read

The list of names has three sources: the path of the request, the objects of the answer with
the parameters that are left of them, and for each of these objects the ones in it of the
supported data model. A name therefore stands in the list because of something that is there –
the support –, which need not be what the name is of (`MayShowName`). The list is the set of the
names of what is supported by something that is there (`find_getNames`), and whether a name can
be written is a matter of the name.
-/

namespace Tr069.Parameters

variable {env : ReadEnv} {d d' : Device} {path p s q : DmPath} {depth : ℤ} {nextlevel : Bool}
  {o : List Component} {n : String} {v : Value}

/-! ### Whether a name can be written -/

/-- The data of an object are a matter of its supported path. -/
theorem getGsdmInfo_congr {o o' : List Component}
    (h : buildSupportedPath o = buildSupportedPath o') :
    getGsdmInfo env o = getGsdmInfo env o' := by
  rw [getGsdmInfo, getGsdmInfo, h]

/-- The data of an object are the same under its name. -/
theorem getGsdmInfo_returnedName (hunder : Under path p.object) :
    getGsdmInfo env (returnedName env d path p).object = getGsdmInfo env p.object :=
  getGsdmInfo_congr (buildSupportedPath_returnedName hunder)

/-- Whether a path can be written. -/
def writableOf (env : ReadEnv) (q : DmPath) : Bool :=
  match q.parameter with
  | none => ((getGsdmInfo env q.object).bind GsdmInfo.writable).getD false
  | some n => (((getGsdmInfo env q.object).bind fun info => info.parameters n).map
      GsdmParameter.writable).getD false

theorem writableOf_returnedName (hunder : Under path q.object) :
    writableOf env (returnedName env d path q) = writableOf env q := by
  rw [writableOf, writableOf, returnedName_parameter, getGsdmInfo_returnedName hunder]

/-- What stands in the list for a path. -/
def nameEntry (env : ReadEnv) (d : Device) (path q : DmPath) : DmPath × Bool :=
  (returnedName env d path q, writableOf env q)

/-! ### What is added to a list of names -/

section Added

variable {object : List Component} {info : GsdmInfo} {x : DmPath × Bool}

/-- What stands in the list for a name. -/
def entryOf (env : ReadEnv) (q : DmPath) : DmPath × Bool := (q, writableOf env q)

/-- The objects in an object, up to the first without data. -/
def childrenShown (env : ReadEnv) (object : List Component) (info : GsdmInfo) : List String :=
  info.objects.takeWhile fun child => (getGsdmInfo env (object ++ [.name child])).isSome

/-- The objects in an object. -/
theorem mem_addObjectsToPN_iff : x ∈ addObjectsToPN env object info ↔
    ∃ child ∈ childrenShown env object info,
      entryOf env ⟨object ++ [.name child], none⟩ = x := by
  rw [addObjectsToPN, objectsIn, List.takeWhile_map, List.map_map, List.mem_map]
  rfl

/-- The path of the request, and the objects in it. -/
theorem mem_addAcsPathToPN_iff : x ∈ addAcsPathToPN env path nextlevel ↔
    ¬path.isParameterPath = true ∧ ¬path.isWildcard = true ∧
      ((nextlevel = false ∧ entryOf env path = x) ∨
        ∃ info, getGsdmInfo env path.object = some info ∧
          ∃ child ∈ childrenShown env path.object info,
            entryOf env ⟨path.object ++ [.name child], none⟩ = x) := by
  rw [addAcsPathToPN]
  by_cases hpath : (path.isParameterPath || path.isWildcard) = true
  · rw [if_pos hpath]
    rw [Bool.or_eq_true] at hpath
    exact iff_of_false List.not_mem_nil fun h => hpath.elim h.1 h.2.1
  · rw [if_neg hpath]
    rw [Bool.or_eq_true, not_or] at hpath
    have hpartial : path.parameter = none := by
      rw [DmPath.isParameterPath] at hpath
      simpa [hpath.2, DmPath.isPartial] using hpath.1
    have hself : addSingleObjectToPN path (getGsdmInfo env path.object) = entryOf env path := by
      rw [entryOf, writableOf, hpartial]
      rfl
    rw [and_iff_right hpath.1, and_iff_right hpath.2, List.mem_append, hself]
    refine or_congr ?_ ?_
    · rcases nextlevel with - | -
      · simpa using eq_comm
      · simp
    · rcases getGsdmInfo env path.object with - | info
      · simp
      · rw [Option.map_some, Option.getD_some, mem_addObjectsToPN_iff]
        simp

/-- An object of the answer, and the objects in it. -/
theorem mem_addObjectToPN_iff {objectPath : DmPath} (hobject : objectPath.parameter = none)
    (hinfo : getGsdmInfo env objectPath.object = some info) :
    x ∈ addObjectToPN env path nextlevel objectPath info ↔ ¬path.isParameterPath = true ∧
      (((nextlevel = false ∨ path ≠ objectPath) ∧ entryOf env objectPath = x) ∨
        (nextlevel = false ∧ ∃ child ∈ childrenShown env objectPath.object info,
          entryOf env ⟨objectPath.object ++ [.name child], none⟩ = x)) := by
  have hself : addSingleObjectToPN objectPath (some info) = entryOf env objectPath := by
    rw [entryOf, writableOf, hobject, hinfo]
    rfl
  rw [addObjectToPN]
  by_cases hpath : path.isParameterPath = true
  · rw [if_pos hpath]
    exact iff_of_false List.not_mem_nil fun h => h.1 hpath
  · rw [if_neg hpath, and_iff_right hpath, List.mem_append, hself]
    refine or_congr ?_ ?_
    · by_cases hlevel : nextlevel = false ∨ path ≠ objectPath
      · rw [if_pos (by simpa using hlevel), and_iff_right hlevel, List.mem_singleton, eq_comm]
      · rw [if_neg (by simpa using hlevel)]
        exact iff_of_false List.not_mem_nil fun h => hlevel h.1
    · rcases nextlevel with - | -
      · rw [if_neg Bool.false_ne_true, and_iff_right rfl, mem_addObjectsToPN_iff]
      · simp

end Added

/-! ### The names that can be shown -/

/-- A name that is in the list because of a support: the request itself and the objects in it,
an object of the answer and the objects in it, or a parameter that is left of the answer. -/
inductive Supports (env : ReadEnv) (path : DmPath) (nextlevel : Bool) : DmPath → DmPath → Prop
  | acsPath (hdot : path.isPartial = true) (hwild : ¬path.isWildcard = true)
      (hlevel : nextlevel = false) : Supports env path nextlevel path path
  | inAcsPath (hdot : path.isPartial = true) (hwild : ¬path.isWildcard = true)
      {info : GsdmInfo} (hinfo : getGsdmInfo env path.object = some info) {text : String}
      (hchild : path.object ++ [.name text] ∈ objectsIn env path.object info) :
      Supports env path nextlevel path ⟨path.object ++ [.name text], none⟩
  | object {o : List Component} (hpath : ¬path.isParameterPath = true)
      (hselects : SelectsObject path (requestDepth path nextlevel) o) {info : GsdmInfo}
      (hinfo : getGsdmInfo env o = some info) (hlevel : nextlevel = false ∨ path ≠ ⟨o, none⟩) :
      Supports env path nextlevel ⟨o, path.parameter⟩ ⟨o, none⟩
  | inObject {o : List Component} (hpath : ¬path.isParameterPath = true)
      (hselects : SelectsObject path (requestDepth path nextlevel) o) {info : GsdmInfo}
      (hinfo : getGsdmInfo env o = some info) (hlevel : nextlevel = false) {text : String}
      (hchild : o ++ [.name text] ∈ objectsIn env o info) :
      Supports env path nextlevel ⟨o, path.parameter⟩ ⟨o ++ [.name text], none⟩
  | parameter {o : List Component} {n : String}
      (hselects : SelectsParam path (requestDepth path nextlevel) o n) {info : GsdmInfo}
      (hinfo : getGsdmInfo env o = some info)
      (hlevel : ¬(nextlevel = true ∧ path.object.length < o.length))
      (hallowed : path.isPartial = true → env.amxaIsGetAllowed ⟨o, some n⟩ = true) :
      Supports env path nextlevel ⟨o, some n⟩ ⟨o, some n⟩

/-- A request can show a name in some state, because of a support that is there. -/
structure MayShowName (env : ReadEnv) (path : DmPath) (nextlevel : Bool) (s q : DmPath) :
    Prop where
  ne_nil : s.object ≠ []
  concrete : ∀ c ∈ s.object, c.IsConcrete
  supports : Supports env path nextlevel s q

theorem Supports.under_support (h : Supports env path nextlevel s q) : Under path s.object := by
  cases h with
  | acsPath => exact List.takeWhile_prefix _
  | inAcsPath => exact List.takeWhile_prefix _
  | object _ hselects => exact hselects.under
  | inObject _ hselects => exact hselects.under
  | parameter hselects => exact hselects.1.under

/-- A name is the one of the support's object, or of an object in it. -/
theorem Supports.object_eq (h : Supports env path nextlevel s q) :
    q.object = s.object ∨ ∃ text, q.object = s.object ++ [.name text] := by
  cases h with
  | acsPath => exact Or.inl rfl
  | inAcsPath => exact Or.inr ⟨_, rfl⟩
  | object => exact Or.inl rfl
  | inObject => exact Or.inr ⟨_, rfl⟩
  | parameter => exact Or.inl rfl

theorem MayShowName.under (h : MayShowName env path nextlevel s q) : Under path q.object := by
  have hunder := h.supports.under_support
  rcases h.supports.object_eq with heq | ⟨text, heq⟩
  · rw [heq]
    exact hunder
  · rw [heq]
    exact hunder.trans (List.prefix_append _ _)

theorem MayShowName.name_concrete (h : MayShowName env path nextlevel s q) :
    ∀ c ∈ q.object, c.IsConcrete := by
  rcases h.supports.object_eq with heq | ⟨text, heq⟩
  · rw [heq]
    exact h.concrete
  · rw [heq]
    intro c hc
    rcases List.mem_append.mp hc with hc | hc
    · exact h.concrete c hc
    · rw [List.mem_singleton.mp hc]
      exact trivial

/-- An instance on the path of a name is one on the path of its support. -/
theorem MayShowName.instance_of_support (h : MayShowName env path nextlevel s q)
    {r : List Component} {k : ℕ} (hpre : r ++ [.index k] <+: q.object) :
    r ++ [.index k] <+: s.object := by
  rcases h.supports.object_eq with heq | ⟨text, heq⟩
  · rwa [heq] at hpre
  · rw [heq] at hpre
    rcases List.prefix_concat_iff.mp hpre with hall | hpre
    · exact absurd (List.append_inj' hall rfl).2 (by simp)
    · exact hpre

/-- **Where there is a support, something is found.** -/
theorem MayShowName.answer_ne_nil (h : MayShowName env path nextlevel s q) (hs : Present d s)
    (hobject : path.parameter = none → path.object ≠ []) :
    d.answer path (requestDepth path nextlevel) ≠ [] := by
  have hanswer : ∀ {o}, Present d ⟨o, path.parameter⟩ →
      SelectsObject path (requestDepth path nextlevel) o →
        d.answer path (requestDepth path nextlevel) ≠ [] := fun hpres hsel hnil =>
    answer_eq_nil.mp hnil _ hpres hsel
  obtain ⟨-, -, hsupports⟩ := h
  cases hsupports with
  | acsPath _ hwild =>
    rw [Ne, answer_eq_nil_iff_not_present hobject hwild, not_not]
    exact hs
  | inAcsPath _ hwild =>
    rw [Ne, answer_eq_nil_iff_not_present hobject hwild, not_not]
    exact hs
  | object _ hselects => exact hanswer hs hselects
  | inObject _ hselects => exact hanswer hs hselects
  | @parameter o n hselects =>
    refine hanswer ?_ hselects.1
    rcases hparam : path.parameter with - | m
    · obtain ⟨v, hv⟩ := hs
      exact mem_keys_of_value hv
    · obtain rfl := hselects.2 m hparam
      exact hs

/-! ### The list -/

/-- The request is its own name. -/
theorem returnedName_request (hwild : ¬path.isWildcard = true) :
    returnedName env d path path = path := by
  have hnot : Component.wildcard ∉ path.object := fun h => hwild (List.contains_iff_mem.mpr h)
  have hfixed := fixedPart_of_not_mem hnot
  by_cases hmode : env.instanceAlias = true
  · have hsplit : path.object = fixedPart path.object ++ [] := by rw [hfixed, List.append_nil]
    refine DmPath.eq_of ?_ returnedName_parameter
    rw [returnedName_alias hmode hsplit, hfixed, indexToAliasLoop, List.append_nil]
  · exact returnedName_number hmode

/-- There are no wildcards in the name of an object. -/
theorem wildcard_not_mem_returnedName (hconcrete : ∀ c ∈ p.object, c.IsConcrete)
    (hunder : Under path p.object) : Component.wildcard ∉ (returnedName env d path p).object := by
  have hloop : ∀ (done zs : List Component), (∀ c ∈ zs, c.IsConcrete) →
      Component.wildcard ∉ indexToAliasLoop d.objects.aliasOf done [] zs := by
    intro done zs hzs
    induction zs generalizing done with
    | nil => exact List.not_mem_nil
    | cons c zs ih =>
      rw [indexToAliasLoop, List.mem_cons, not_or]
      refine ⟨fun hc => ?_, ih _ fun x hx => hzs x (List.mem_cons_of_mem c hx)⟩
      have hc' := hzs c List.mem_cons_self
      cases c with
      | name _ => cases hc
      | index k => rcases aliasComponent_index k with hk | ⟨a, -, -, hk⟩ <;> cases hc.trans hk
      | aliased _ => exact hc'
      | wildcard => exact hc'
  by_cases hmode : env.instanceAlias = true
  · obtain ⟨zs, hzs⟩ := hunder
    rw [returnedName_alias hmode hzs.symm, List.mem_append, not_or]
    refine ⟨fun hmem => ?_, hloop _ zs fun c hc => hconcrete c (hzs ▸ List.mem_append_right _ hc)⟩
    have hne := List.mem_takeWhile_imp (p := fun c : Component => decide (c ≠ .wildcard)) hmem
    exact of_decide_eq_true hne rfl
  · rw [returnedName_number hmode]
    exact fun hmem => hconcrete _ hmem

/-- The name of an object is the request exactly for the object that is requested. -/
theorem returnedName_eq_request_iff (hconcrete : ∀ c ∈ o, c.IsConcrete) (hunder : Under path o) :
    path = returnedName env d path ⟨o, none⟩ ↔ path = ⟨o, none⟩ := by
  constructor
  · intro h
    have hwild : ¬path.isWildcard = true := by
      intro hwild
      have hmem := List.contains_iff_mem.mp hwild
      rw [congrArg DmPath.object h] at hmem
      exact wildcard_not_mem_returnedName (p := ⟨o, none⟩) hconcrete hunder hmem
    have hfixed := fixedPart_of_not_mem fun hmem => hwild (List.contains_iff_mem.mpr hmem)
    obtain ⟨zs, rfl⟩ := hunder
    have hlen := congrArg List.length (congrArg DmPath.object h)
    rw [length_returnedName (p := ⟨_, none⟩) (List.prefix_append _ _), List.length_append,
      hfixed] at hlen
    obtain rfl : zs = [] := List.length_eq_zero_iff.mp (by omega)
    refine DmPath.eq_of ?_ ((congrArg DmPath.parameter h).trans returnedName_parameter)
    rw [hfixed, List.append_nil]
  · rintro rfl
    have hnot : Component.wildcard ∉ o := fun hmem => hconcrete _ hmem
    refine (returnedName_request fun hwild => hnot ?_).symm
    exact List.contains_iff_mem.mp hwild

theorem append_mem_objectsIn {info : GsdmInfo} {text : String} :
    o ++ [.name text] ∈ objectsIn env o info ↔ text ∈ childrenShown env o info := by
  rw [objectsIn, List.takeWhile_map, List.mem_map]
  constructor
  · rintro ⟨text', htext, heq⟩
    obtain rfl : text' = text := by simpa using heq
    exact htext
  · exact fun htext => ⟨text, htext, rfl⟩

/-- The data of an object in an object are the same under the name of the latter. -/
theorem getGsdmInfo_child (hunder : Under path o) (text : String) :
    getGsdmInfo env ((returnedName env d path ⟨o, none⟩).object ++ [.name text]) =
      getGsdmInfo env (o ++ [.name text]) := by
  have hunder' : Under path (DmPath.mk (o ++ [.name text]) none).object :=
    hunder.trans (List.prefix_append _ _)
  rw [← returnedName_child hunder, getGsdmInfo_returnedName hunder']

/-- What stands in the list for the name of a path. -/
theorem entryOf_returnedName (hunder : Under path q.object) :
    entryOf env (returnedName env d path q) = nameEntry env d path q :=
  Prod.ext rfl (writableOf_returnedName hunder)

/-- An object in an object, under the name of the latter. -/
theorem entryOf_child (hunder : Under path o) (text : String) :
    entryOf env ⟨(returnedName env d path ⟨o, none⟩).object ++ [.name text], none⟩ =
      nameEntry env d path ⟨o ++ [.name text], none⟩ := by
  have hunder' : Under path (DmPath.mk (o ++ [.name text]) none).object :=
    hunder.trans (List.prefix_append _ _)
  have hparam : (returnedName env d path ⟨o ++ [.name text], none⟩).parameter = none :=
    returnedName_parameter
  rw [← entryOf_returnedName hunder', ← returnedName_child hunder]
  exact congrArg (entryOf env) (DmPath.eq_of rfl hparam.symm)

/-- The objects in an object, under its name. -/
theorem mem_addObjectsToPN {info : GsdmInfo} {e : DmPath × Bool} (hunder : Under path o) :
    e ∈ addObjectsToPN env (returnedName env d path ⟨o, none⟩).object info ↔
      ∃ text, o ++ [.name text] ∈ objectsIn env o info ∧
        nameEntry env d path ⟨o ++ [.name text], none⟩ = e := by
  have hshown : childrenShown env (returnedName env d path ⟨o, none⟩).object info =
      childrenShown env o info := by
    simp only [childrenShown, getGsdmInfo_child hunder]
  rw [mem_addObjectsToPN_iff, hshown]
  refine exists_congr fun text => ?_
  rw [append_mem_objectsIn, entryOf_child hunder]

/-- What stands in the list for the path of the request. -/
theorem mem_addAcsPathToPN {e : DmPath × Bool} : e ∈ addAcsPathToPN env path nextlevel ↔
    path.isPartial = true ∧ ¬path.isWildcard = true ∧
      ((nextlevel = false ∧ nameEntry env d path path = e) ∨
        ∃ info, getGsdmInfo env path.object = some info ∧ ∃ text,
          path.object ++ [.name text] ∈ objectsIn env path.object info ∧
            nameEntry env d path ⟨path.object ++ [.name text], none⟩ = e) := by
  have hpath : ¬path.isParameterPath = true ∧ ¬path.isWildcard = true ↔
      path.isPartial = true ∧ ¬path.isWildcard = true := by
    refine and_congr_left fun hwild => ?_
    rw [DmPath.isParameterPath]
    simp [hwild]
  rw [mem_addAcsPathToPN_iff, ← and_assoc, ← and_assoc, hpath]
  refine and_congr_right fun hshape => ?_
  obtain ⟨hdot, hwild⟩ := hshape
  have hunder : Under path path.object := List.takeWhile_prefix _
  have hobject : path = ⟨path.object, none⟩ :=
    DmPath.eq_of rfl (Option.isNone_iff_eq_none.mp hdot)
  have hname : (returnedName env d path ⟨path.object, none⟩).object = path.object := by
    rw [← hobject, returnedName_request hwild]
  refine or_congr (and_congr_right fun _ => ?_) (exists_congr fun info => and_congr_right fun _ =>
    exists_congr fun text => ?_)
  · rw [← entryOf_returnedName hunder, returnedName_request hwild]
  · rw [append_mem_objectsIn, ← entryOf_child hunder, hname]

/-- What stands in the list for an object of the answer. -/
theorem mem_addObjectToPN {info : GsdmInfo} {e : DmPath × Bool} (hunder : Under path o)
    (hconcrete : ∀ c ∈ o, c.IsConcrete) (hinfo : getGsdmInfo env o = some info) :
    e ∈ addObjectToPN env path nextlevel (returnedName env d path ⟨o, none⟩) info ↔
      ¬path.isParameterPath = true ∧
        (((nextlevel = false ∨ path ≠ ⟨o, none⟩) ∧ nameEntry env d path ⟨o, none⟩ = e) ∨
          (nextlevel = false ∧ ∃ text, o ++ [.name text] ∈ objectsIn env o info ∧
            nameEntry env d path ⟨o ++ [.name text], none⟩ = e)) := by
  have hinfo' : getGsdmInfo env (returnedName env d path ⟨o, none⟩).object = some info :=
    (getGsdmInfo_returnedName hunder).trans hinfo
  rw [mem_addObjectToPN_iff returnedName_parameter hinfo', ← mem_addObjectsToPN_iff,
    mem_addObjectsToPN hunder, entryOf_returnedName hunder, Ne,
    returnedName_eq_request_iff hconcrete hunder]

/-- What stands in the list for an object of the answer and its parameters. -/
theorem mem_parseForEachObject {ps : List (String × Value)} {e : DmPath × Bool} :
    e ∈ parseForEachObject env d path nextlevel (addObjectToPN env path nextlevel)
        addParameterToPN (o, ps) ↔
      ∃ info, getGsdmInfo env o = some info ∧
        (e ∈ addObjectToPN env path nextlevel (returnedName env d path ⟨o, none⟩) info ∨
          (¬(nextlevel = true ∧ path.object.length < o.length) ∧ ∃ n v, (n, v) ∈ ps ∧
            nameEntry env d path ⟨o, some n⟩ = e)) := by
  rw [parseForEachObject]
  rcases hinfo : getGsdmInfo env o with - | info
  · simp
  · have hparam : ∀ param : String × Value,
        addParameterToPN (returnedName env d path ⟨o, some param.1⟩) param.2 param.1 info =
          nameEntry env d path ⟨o, some param.1⟩ := by
      intro param
      refine Prod.ext rfl ?_
      show _ = writableOf env ⟨o, some param.1⟩
      rw [writableOf, hinfo]
      rfl
    simp only [hparam, List.mem_append]
    split
    · next hlevel => simp [hlevel]
    · next hlevel => simp [hlevel]

end Tr069.Parameters
