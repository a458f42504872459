import Tr069Manager.Parameters.NameRules

/-!
# The answer to `GetParameterNames` and the access rules

`DM_ENG_Device_GPN` respects the rules for a request exactly if the rules deny the request as a
whole, or allow every name it can show (`getNames_respected_iff`). The names it can show are more
than the filter sees: the objects of the answer, which are not filtered, the objects in them of
the supported data model, and everything that a complete path with wildcards finds.
-/

namespace Tr069.Parameters

variable {env : ReadEnv} {d d' : Device} {path p s q : DmPath} {nextlevel : Bool}
  {o : List Component} {n : String} {v : Value} {k : DmPath} {b : Bool}

/-! ### The list -/

/-- **What the parser adds**, where something is found: the names that have a support. -/
theorem mem_parseNames {e : DmPath × Bool} (hobject : path.parameter = none → path.object ≠ [])
    (hanswer : d.answer path (requestDepth path nextlevel) ≠ []) :
    e ∈ parseNames env d path nextlevel
        (filteredAnswer env d path (requestDepth path nextlevel)) ↔
      ∃ s q, MayShowName env path nextlevel s q ∧ Present d s ∧ nameEntry env d path q = e := by
  have hpath : path.isPartial = true → ¬path.isWildcard = true →
      path.object ≠ [] ∧ (∀ c ∈ path.object, c.IsConcrete) ∧ Present d path := by
    intro _ hwild
    rw [Ne, answer_eq_nil_iff_not_present hobject hwild, not_not] at hanswer
    obtain ⟨hne, hconcrete⟩ := concrete_of_present hanswer
    exact ⟨hne, hconcrete, hanswer⟩
  rw [parseNames, parse, List.mem_append, mem_addAcsPathToPN, List.mem_flatMap]
  constructor
  · rintro (⟨hdot, hwild, hacs⟩ | ⟨⟨o, ps⟩, hmem, he⟩)
    · obtain ⟨hne, hconcrete, hpres⟩ := hpath hdot hwild
      rcases hacs with ⟨hlevel, he⟩ | ⟨info, hinfo, text, hchild, he⟩
      · exact ⟨path, path, ⟨hne, hconcrete, .acsPath hdot hwild hlevel⟩, hpres, he⟩
      · exact ⟨path, _, ⟨hne, hconcrete, .inAcsPath hdot hwild hinfo hchild⟩, hpres, he⟩
    · obtain ⟨hpres, hselects⟩ := mem_filteredAnswer_object.mp ⟨ps, hmem⟩
      obtain ⟨hne, hconcrete⟩ := concrete_of_present hpres
      obtain ⟨info, hinfo, hobj | ⟨hlevel, n, v, hp, he⟩⟩ := mem_parseForEachObject.mp he
      · obtain ⟨hpath, ⟨hlevel, he⟩ | ⟨hlevel, text, hchild, he⟩⟩ :=
          (mem_addObjectToPN hselects.under hconcrete hinfo).mp hobj
        · exact ⟨⟨o, path.parameter⟩, ⟨o, none⟩,
            ⟨hne, hconcrete, .object hpath hselects hinfo hlevel⟩, hpres, he⟩
        · exact ⟨⟨o, path.parameter⟩, _,
            ⟨hne, hconcrete, .inObject hpath hselects hinfo hlevel hchild⟩, hpres, he⟩
      · obtain ⟨hv, hsel, hallowed⟩ := mem_filteredAnswer_param.mp ⟨ps, hmem, hp⟩
        exact ⟨⟨o, some n⟩, ⟨o, some n⟩,
          ⟨hne, hconcrete, .parameter hsel hinfo hlevel hallowed⟩, ⟨v, hv⟩, he⟩
  · rintro ⟨s, q, ⟨-, hconcrete, hsupports⟩, hpres, he⟩
    cases hsupports with
    | acsPath hdot hwild hlevel => exact Or.inl ⟨hdot, hwild, Or.inl ⟨hlevel, he⟩⟩
    | inAcsPath hdot hwild hinfo hchild =>
      exact Or.inl ⟨hdot, hwild, Or.inr ⟨_, hinfo, _, hchild, he⟩⟩
    | object hpath hselects hinfo hlevel =>
      obtain ⟨ps, hmem⟩ := mem_filteredAnswer_object.mpr ⟨hpres, hselects⟩
      refine Or.inr ⟨_, hmem, mem_parseForEachObject.mpr ⟨_, hinfo, Or.inl ?_⟩⟩
      exact (mem_addObjectToPN hselects.under hconcrete hinfo).mpr ⟨hpath, Or.inl ⟨hlevel, he⟩⟩
    | inObject hpath hselects hinfo hlevel hchild =>
      obtain ⟨ps, hmem⟩ := mem_filteredAnswer_object.mpr ⟨hpres, hselects⟩
      refine Or.inr ⟨_, hmem, mem_parseForEachObject.mpr ⟨_, hinfo, Or.inl ?_⟩⟩
      exact (mem_addObjectToPN hselects.under hconcrete hinfo).mpr
        ⟨hpath, Or.inr ⟨hlevel, _, hchild, he⟩⟩
    | parameter hsel hinfo hlevel hallowed =>
      obtain ⟨v, hv⟩ := hpres
      obtain ⟨ps, hmem, hp⟩ := mem_filteredAnswer_param.mpr ⟨hv, hsel, hallowed⟩
      exact Or.inr ⟨_, hmem, mem_parseForEachObject.mpr
        ⟨_, hinfo, Or.inr ⟨hlevel, _, v, hp, he⟩⟩⟩

/-- The requests `DM_AmxParameter_GetNames` makes of the bus. -/
def AsksBus (path : DmPath) (nextlevel : Bool) : Prop :=
  ¬(path.isEmpty = true ∧ nextlevel = true) ∧ ¬(path.isParameterPath = true ∧ nextlevel = true)

theorem getNames_of_asksBus (hasks : AsksBus path nextlevel) :
    getNames env d path nextlevel =
      amxParameterGet env d path nextlevel (parseNames env d) := by
  rw [getNames, if_neg hasks.1, if_neg hasks.2]

theorem parseNames_nil (h : path.isParameterPath = true) :
    parseNames env d path nextlevel [] = [] := by
  rw [parseNames, parse, List.flatMap_nil, List.append_nil, addAcsPathToPN,
    if_pos (by rw [h, Bool.true_or])]

/-- The error, where the request is allowed. -/
theorem getNames_error (hasks : AsksBus path nextlevel)
    (hallowed : env.amxaIsGetAllowed (requestPath path) = true) :
    (getNames env d path nextlevel).error =
      if d.answer (requestPath path) (requestDepth (requestPath path) nextlevel) = [] then
        unansweredError env (requestPath path) else 0 := by
  rw [getNames_of_asksBus hasks]
  split
  · next hanswer =>
    rw [amxParameterGet_unanswered hallowed hanswer parseNames_nil]
    rfl
  · next hanswer => rw [amxParameterGet_answered hallowed hanswer]

/-- **The names that are returned** are those with a support that is there. -/
theorem find_getNames (hasks : AsksBus path nextlevel)
    (hallowed : env.amxaIsGetAllowed (requestPath path) = true) :
    (getNames env d path nextlevel).list.find k = some b ↔
      ∃ s q, MayShowName env (requestPath path) nextlevel s q ∧ Present d s ∧
        nameEntry env d (requestPath path) q = (k, b) := by
  rw [getNames_of_asksBus hasks]
  by_cases hanswer :
      d.answer (requestPath path) (requestDepth (requestPath path) nextlevel) = []
  · rw [amxParameterGet_unanswered hallowed hanswer parseNames_nil]
    refine iff_of_false (fun h => by cases h) ?_
    rintro ⟨s, q, hmay, hpres, -⟩
    exact hmay.answer_ne_nil hpres requestPath_object_ne_nil hanswer
  · rw [amxParameterGet_answered hallowed hanswer]
    refine (Table.find_addAll_empty fun e he e' he' hkey => ?_).trans
      (mem_parseNames requestPath_object_ne_nil hanswer)
    obtain ⟨s, q, hmay, -, rfl⟩ := (mem_parseNames requestPath_object_ne_nil hanswer).mp he
    obtain ⟨s', q', hmay', -, rfl⟩ := (mem_parseNames requestPath_object_ne_nil hanswer).mp he'
    -- whether it can be written is seen in the name
    refine Prod.ext hkey ?_
    show writableOf env q = writableOf env q'
    rw [← writableOf_returnedName hmay.under, ← writableOf_returnedName hmay'.under]
    exact congrArg (writableOf env) hkey

/-! ### What the rules ask -/

/-- **A request for names respects the rules**: its answer is the same for states that differ in
what is denied, and every name in it is one of an object or a parameter that is allowed. -/
structure NamesRespected (env : ReadEnv) (path : DmPath) (nextlevel : Bool) : Prop where
  same : ∀ d d', SameForAcs env d d' →
    (getNames env d path nextlevel).response = (getNames env d' path nextlevel).response
  allowed : ∀ d k b, (getNames env d path nextlevel).list.find k = some b →
    ∃ q, env.amxaIsGetAllowed q = true ∧ (∀ c ∈ q.object, c.IsConcrete) ∧
      Under (requestPath path) q.object ∧ k = returnedName env d (requestPath path) q

/-- The rules allow the names that a request of the bus can show, and the aliases in them. -/
def NamesAllowed (env : ReadEnv) (path : DmPath) (nextlevel : Bool) : Prop :=
  ∀ s q, MayShowName env path nextlevel s q →
    env.amxaIsGetAllowed q = true ∧ AliasesAllowed env path q.object

/-- **The condition on a request for names**: what is above the root is the root, the next level
of a parameter is an error, and otherwise the rules deny the request, or allow what it can
show. -/
def NamesCondition (env : ReadEnv) (path : DmPath) (nextlevel : Bool) : Prop :=
  if path.isEmpty ∧ nextlevel then env.amxaIsGetAllowed devicePath = true
  else if path.isParameterPath ∧ nextlevel then True
  else env.amxaIsGetAllowed (requestPath path) = true →
    NamesAllowed env (requestPath path) nextlevel

/-- A support is allowed where the names are. -/
theorem MayShowName.support_allowed (h : MayShowName env path nextlevel s q)
    (hallowed : env.amxaIsGetAllowed path = true)
    (hnames : ∀ s q, MayShowName env path nextlevel s q → env.amxaIsGetAllowed q = true) :
    env.amxaIsGetAllowed s = true := by
  obtain ⟨hne, hconcrete, hsupports⟩ := h
  -- an object a complete path finds is supported by the parameter, which is a name itself
  have hcomplete : ∀ {o m}, o ≠ [] → (∀ c ∈ o, c.IsConcrete) → path.parameter = some m →
      SelectsObject path (requestDepth path nextlevel) o → (∃ info, getGsdmInfo env o = some info) →
        env.amxaIsGetAllowed ⟨o, some m⟩ = true := by
    rintro o m hne hconcrete hparam hselects ⟨info, hinfo⟩
    have hlen : o.length = path.object.length := by
      rw [SelectsObject, hparam] at hselects
      obtain ⟨used, rfl, hlen, -⟩ := matchRest_split hselects
      rwa [List.append_nil]
    refine hnames ⟨o, some m⟩ ⟨o, some m⟩ ⟨hne, hconcrete, .parameter
      ⟨hselects, fun m' hm' => Option.some.inj (hm'.symm.trans hparam)⟩ hinfo
      (fun hlevel => ?_) fun hdot => ?_⟩
    · omega
    · rw [DmPath.isPartial, hparam] at hdot
      cases hdot
  cases hsupports with
  | acsPath => exact hallowed
  | inAcsPath => exact hallowed
  | @object o hpath hselects info hinfo hlevel =>
    rcases hparam : path.parameter with - | m
    · exact hnames ⟨o, path.parameter⟩ _ ⟨hne, hconcrete, .object hpath hselects hinfo hlevel⟩
    · exact hcomplete hne hconcrete hparam hselects ⟨info, hinfo⟩
  | @inObject o hpath hselects info hinfo hlevel text hchild =>
    rcases hparam : path.parameter with - | m
    · exact hnames ⟨o, path.parameter⟩ _
        ⟨hne, hconcrete, .object hpath hselects hinfo (Or.inl hlevel)⟩
    · exact hcomplete hne hconcrete hparam hselects ⟨info, hinfo⟩
  | parameter hsel hinfo hlevel hfilter =>
    exact hnames _ _ ⟨hne, hconcrete, .parameter hsel hinfo hlevel hfilter⟩

/-! ### The condition is enough -/

/-- What is in the list of one state is in the list of the other. -/
theorem find_getNames_same (hasks : AsksBus path nextlevel)
    (hallowed : env.amxaIsGetAllowed (requestPath path) = true)
    (hnames : NamesAllowed env (requestPath path) nextlevel) (hsame : SameForAcs env d d')
    (h : (getNames env d path nextlevel).list.find k = some b) :
    (getNames env d' path nextlevel).list.find k = some b := by
  obtain ⟨s, q, hmay, hpres, he⟩ := (find_getNames hasks hallowed).mp h
  have hs := hmay.support_allowed hallowed fun s q hmay => (hnames s q hmay).1
  refine (find_getNames hasks hallowed).mpr ⟨s, q, hmay, (hsame.present hs).mp hpres, ?_⟩
  rw [← he, nameEntry, nameEntry, hsame.returnedName hmay.under (hnames s q hmay).2]

/-- The answers in two states that differ in what is denied are the same. -/
theorem getNames_same (hasks : AsksBus path nextlevel)
    (hallowed : env.amxaIsGetAllowed (requestPath path) = true)
    (hnames : NamesAllowed env (requestPath path) nextlevel) (hsame : SameForAcs env d d') :
    (getNames env d path nextlevel).response = (getNames env d' path nextlevel).response := by
  refine Prod.ext ?_ (funext fun k => Option.ext fun b =>
    ⟨find_getNames_same hasks hallowed hnames hsame,
      find_getNames_same hasks hallowed hnames hsame.symm⟩)
  show (getNames env d path nextlevel).error = (getNames env d' path nextlevel).error
  rw [getNames_error hasks hallowed, getNames_error hasks hallowed, unansweredError]
  by_cases hwild : (requestPath path).isWildcard = true
  · rw [hwild, Bool.or_true, if_pos rfl, ite_self, ite_self]
  · rw [if_congr (hsame.answer_eq_nil hallowed hwild) rfl rfl]

theorem namesRespected_of_namesAllowed (hasks : AsksBus path nextlevel)
    (hallowed : env.amxaIsGetAllowed (requestPath path) = true)
    (hnames : NamesAllowed env (requestPath path) nextlevel) :
    NamesRespected env path nextlevel where
  same := fun _ _ => getNames_same hasks hallowed hnames
  allowed := fun d k b h => by
    obtain ⟨s, q, hmay, -, he⟩ := (find_getNames hasks hallowed).mp h
    exact ⟨q, (hnames s q hmay).1, hmay.name_concrete, hmay.under, (Prod.mk.inj he).1.symm⟩

/-! ### The condition is needed -/

section Needed

variable (hasks : AsksBus path nextlevel)
  (hallowed : env.amxaIsGetAllowed (requestPath path) = true)
  (h : NamesRespected env path nextlevel)

include hasks hallowed h

/-- A name that is shown is allowed. -/
theorem NamesRespected.name_allowed (hmay : MayShowName env (requestPath path) nextlevel s q) :
    env.amxaIsGetAllowed q = true := by
  have hpres : Present (supportDevice s hmay.concrete "") s := present_supportDevice hmay.ne_nil
  have hfind := (find_getNames hasks hallowed).mpr ⟨s, q, hmay, hpres, rfl⟩
  obtain ⟨q', hq', hconcrete, hunder, hkey⟩ := h.allowed _ _ _ hfind
  rwa [returnedName_injective hmay.name_concrete hconcrete hmay.under hunder hkey]

/-- An alias in a name that is shown is allowed, or two states differ in the name. -/
theorem NamesRespected.aliasesAllowed (hmay : MayShowName env (requestPath path) nextlevel s q) :
    AliasesAllowed env (requestPath path) q.object := by
  intro hmode r k hfixed hpre
  by_contra hdenied
  have hs := hmay.support_allowed hallowed fun s q hmay => h.name_allowed hasks hallowed hmay
  have hne : s ≠ ⟨r ++ [.index k], some "Alias"⟩ := fun he => hdenied (he ▸ hs)
  have hobject := hmay.instance_of_support hpre
  have hstates : SameForAcs env (aliasDevice s hmay.concrete (r ++ [.index k]) "b")
      (aliasDevice s hmay.concrete (r ++ [.index k]) "") := sameForAcs_aliasDevice hne hdenied
  have hpres : Present (aliasDevice s hmay.concrete (r ++ [.index k]) "b") s :=
    present_aliasDevice hmay.ne_nil hne
  have hfind := (find_getNames hasks hallowed).mpr ⟨s, q, hmay, hpres, rfl⟩
  have hmem : Component.aliased "b" ∈ (returnedName env (aliasDevice s hmay.concrete
      (r ++ [.index k]) "b") (requestPath path) q).object :=
    aliased_mem_aliasDevice hmode hfixed hpre hobject hne (by decide)
  have hsame := congrFun (congrArg Prod.snd (h.same _ _ hstates))
    (returnedName env (aliasDevice s hmay.concrete (r ++ [.index k]) "b") (requestPath path) q)
  obtain ⟨s', q', hmay', -, hkey⟩ := (find_getNames hasks hallowed).mp (hsame.symm.trans hfind)
  -- without an Alias, the names are paths, and an alias is not part of one
  rw [← (Prod.mk.inj hkey).1, returnedName_aliasDevice hne hmay'.under] at hmem
  exact hmay'.name_concrete _ hmem

end Needed

/-- **`DM_ENG_Device_GPN` respects the rules** for a request exactly if they deny it, or allow
the names it can show. -/
theorem getNames_respected_iff :
    NamesRespected env path nextlevel ↔ NamesCondition env path nextlevel := by
  rw [NamesCondition]
  split
  · next hroot =>
    have hrequest : requestPath path = devicePath := if_pos hroot.1
    have hconcrete : ∀ c ∈ devicePath.object, c.IsConcrete := by
      intro c hc
      rw [List.mem_singleton.mp hc]
      exact trivial
    have hlist : ∀ d, getNames env d path nextlevel =
        ⟨0, Table.empty.addAll [addSingleObjectToPN devicePath none]⟩ := fun d => if_pos hroot
    constructor
    · intro h
      obtain ⟨q, hq, -, hunder, hkey⟩ := h.allowed (supportDevice devicePath hconcrete "")
        devicePath false (by rw [hlist]; rfl)
      rw [returnedName_supportDevice hunder] at hkey
      exact hkey ▸ hq
    · refine fun hallowed => ⟨fun d d' _ => by rw [hlist, hlist], fun d k b hfind => ?_⟩
      have hk : k = devicePath := by
        rw [hlist, Table.find_addAll_empty (by simp), List.mem_singleton] at hfind
        exact (Prod.mk.inj hfind).1
      refine ⟨devicePath, hallowed, hconcrete, ?_, ?_⟩
      · rw [hrequest]
        exact List.takeWhile_prefix _
      · rw [hrequest, returnedName_request (by decide)]
        exact hk
  · next hroot =>
    split
    · next hparam =>
      have hlist : ∀ d, getNames env d path nextlevel = .empty invalidArguments := by
        intro d
        rw [getNames, if_neg hroot, if_pos hparam]
      refine iff_of_true ⟨fun d d' _ => ?_, fun d k b hfind => ?_⟩ trivial
      · rw [hlist, hlist]
      · rw [hlist] at hfind
        cases hfind
    · next hparam =>
      have hasks : AsksBus path nextlevel := ⟨hroot, hparam⟩
      constructor
      · exact fun h hallowed s q hmay =>
          ⟨h.name_allowed hasks hallowed hmay, h.aliasesAllowed hasks hallowed hmay⟩
      · intro h
        by_cases hallowed : env.amxaIsGetAllowed (requestPath path) = true
        · exact namesRespected_of_namesAllowed hasks hallowed (h hallowed)
        · have hlist : ∀ d, getNames env d path nextlevel = .empty invalidParameterName :=
            fun d => (getNames_of_asksBus hasks).trans (amxParameterGet_denied hallowed)
          refine ⟨fun d d' _ => ?_, fun d k b hfind => ?_⟩
          · rw [hlist, hlist]
          · rw [hlist] at hfind
            cases hfind

end Tr069.Parameters
