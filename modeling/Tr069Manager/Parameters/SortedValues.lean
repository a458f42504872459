import Tr069Manager.Parameters.ReadValues

/-!
# The sorted lists of values

The lists of `DM_ENG_Device_GetParameterValues_GetValues` depend on the values that are shown
and not on the order in which the bus has them (`getValuesParseValues_congr`). So both
implementations respect the rules for a request exactly if the rules deny it, or all that it can
show is allowed – and in the one for the supported data model, an object a wildcard stands for
must not be denied if the bus fails where it finds nothing (`ObjectsCondition`): the error tells
whether it is there.
-/

namespace Tr069.Parameters

variable {env : ReadEnv} {d d' : Device} {path : DmPath} {depth : ℤ} {o : List Component}
  {n : String} {v : Value} {ps ps' : List (String × Value)}

/-! ### What is in an answer once -/

/-- What is made of entries with different keys, and keeps the keys, has different keys. -/
theorem nodup_filterMap_fst {κ α β : Type} {f : κ × α → Option (κ × β)}
    (hf : ∀ e b, f e = some b → b.1 = e.1) {l : List (κ × α)} (hl : (l.map Prod.fst).Nodup) :
    ((l.filterMap f).map Prod.fst).Nodup := by
  refine hl.sublist ?_
  clear hl
  induction l with
  | nil => exact List.Sublist.slnil
  | cons e l ih =>
    rw [List.filterMap_cons]
    split
    · exact ih.cons _
    · next b hb =>
      rw [List.map_cons, List.map_cons, hf e b hb]
      exact ih.cons_cons _

theorem fst_answerOf {e : List Component × Table String Value}
    {b : List Component × List (String × Value)} (h : answerOf path depth e = some b) :
    b.1 = e.1 ∧ (b.2.map Prod.fst).Nodup := by
  rw [answerOf] at h
  split at h
  · split at h
    · cases h
      exact ⟨rfl, e.2.nodup⟩
    · cases h
  · split at h
    · obtain ⟨w, -, rfl⟩ := Option.map_eq_some_iff.mp h
      exact ⟨rfl, List.nodup_singleton _⟩
    · cases h

theorem map_fst_amxaFilterGetResp {response : Response} :
    (amxaFilterGetResp env response).map Prod.fst = response.map Prod.fst := by
  rw [amxaFilterGetResp, List.map_map]
  rfl

/-- The objects of an answer are different. -/
theorem nodup_filteredAnswer :
    ((filteredAnswer env d path depth).map Prod.fst).Nodup := by
  have hanswer : ((d.answer path depth).map Prod.fst).Nodup :=
    nodup_filterMap_fst (fun e b hb => (fst_answerOf hb).1) d.objects.nodup
  rw [filteredAnswer]
  split
  · rwa [map_fst_amxaFilterGetResp]
  · exact hanswer

/-- The parameters of an object of an answer are different. -/
theorem nodup_params (h : (o, ps) ∈ filteredAnswer env d path depth) :
    (ps.map Prod.fst).Nodup := by
  have hanswer : ∀ qs, (o, qs) ∈ d.answer path depth → (qs.map Prod.fst).Nodup := by
    intro qs hmem
    obtain ⟨e, -, he⟩ := List.mem_filterMap.mp hmem
    exact (fst_answerOf he).2
  rw [filteredAnswer] at h
  split at h
  · obtain ⟨e, he, heq⟩ := List.mem_map.mp h
    cases heq
    exact (hanswer e.2 he).sublist (List.filter_sublist.map Prod.fst)
  · exact hanswer ps h

/-- The parameters in what is left of an object. -/
theorem mem_params (h : (o, ps) ∈ filteredAnswer env d path depth) :
    (n, v) ∈ ps ↔ d.objects.value o n = some v ∧
      MayShowValue env (fun _ => true) path depth o n := by
  rw [← mem_filteredAnswer_iff]
  constructor
  · exact fun hp => ⟨⟨ps, h, hp⟩, rfl⟩
  · rintro ⟨⟨qs, hmem, hp⟩, -⟩
    have he := List.inj_on_of_nodup_map nodup_filteredAnswer hmem h rfl
    exact (Prod.mk.inj he).2 ▸ hp

/-! ### The list -/

/-- The order of the names of parameters. -/
theorem sortedParams_congr (hps : (ps.map Prod.fst).Nodup) (h : ps.Perm ps') :
    sortedParams ps = sortedParams ps' := by
  refine List.mergeSort_congr (fun a b c hab hbc => ?_) (fun a b => ?_)
    (fun a ha b hb hab hba => ?_) h
  · exact decide_eq_true (le_trans (of_decide_eq_true hab) (of_decide_eq_true hbc))
  · rw [Bool.or_eq_true, decide_eq_true_iff, decide_eq_true_iff]
    exact le_total a.1 b.1
  · exact List.eq_of_fst_eq hps ha hb
      (le_antisymm (of_decide_eq_true hab) (of_decide_eq_true hba))

/-- What stands in the list for a parameter. -/
def valueEntry (env : ReadEnv) (d : Device) (path : DmPath) (o : List Component)
    (param : String × Value) : DmPath × ParameterType × String :=
  (returnedName env d path ⟨o, some param.1⟩,
    convertParameterType ((env.supportedType o param.1).getD param.2.type), param.2.text)

/-- What stands in the list for an object. -/
def objectEntries (env : ReadEnv) (d : Device) (path : DmPath)
    (object : List Component × List (String × Value)) :
    List Component × List (DmPath × ParameterType × String) :=
  (object.1, (sortedParams object.2).map (valueEntry env d path object.1))

theorem getValuesParseValues_eq {response : Response} :
    getValuesParseValues env d path response =
      ((response.map (objectEntries env d path)).mergeSort fun a b =>
        env.keyOrder.le a.1 b.1).flatMap Prod.snd := by
  rw [getValuesParseValues, sortedObjects]
  have hmap := List.map_mergeSort (r := fun a b => env.keyOrder.le a.1 b.1)
    (s := fun a b => env.keyOrder.le a.1 b.1) (f := objectEntries env d path) (l := response)
    (fun _ _ _ _ => rfl)
  rw [← hmap, List.flatMap_map]
  rfl

/-- The values in the list. -/
theorem mem_getValuesParseValues {e : DmPath × ParameterType × String} :
    e ∈ getValuesParseValues env d path (filteredAnswer env d path depth) ↔
      ∃ o n v, d.objects.value o n = some v ∧
        MayShowValue env (fun _ => true) path depth o n ∧ valueEntry env d path o (n, v) = e := by
  rw [getValuesParseValues, List.mem_flatMap]
  constructor
  · rintro ⟨⟨o, ps⟩, hmem, he⟩
    obtain ⟨⟨n, v⟩, hp, rfl⟩ := List.mem_map.mp he
    obtain ⟨hv, hmay⟩ := (mem_params (List.mem_mergeSort.mp hmem)).mp (List.mem_mergeSort.mp hp)
    exact ⟨o, n, v, hv, hmay, rfl⟩
  · rintro ⟨o, n, v, hv, hmay, rfl⟩
    obtain ⟨⟨ps, hmem, hp⟩, -⟩ := mem_filteredAnswer_iff.mpr ⟨hv, hmay⟩
    exact ⟨(o, ps), List.mem_mergeSort.mpr hmem,
      List.mem_map.mpr ⟨(n, v), List.mem_mergeSort.mpr hp, rfl⟩⟩

/-- What stands for an object in one state stands for it in the other. -/
theorem objectEntries_mem (hcond : ValuesCondition env (fun _ => true) path depth)
    (hsame : SameForAcs env d d') {c : List (DmPath × ParameterType × String)} (hne : c ≠ [])
    (h : (o, c) ∈ (filteredAnswer env d path depth).map (objectEntries env d path)) :
    (o, c) ∈ (filteredAnswer env d' path depth).map (objectEntries env d' path) := by
  obtain ⟨⟨o', ps⟩, hmem, he⟩ := List.mem_map.mp h
  obtain ⟨rfl, rfl⟩ := Prod.mk.inj he
  have hps : ps ≠ [] := by
    rintro rfl
    refine hne ?_
    rw [sortedParams, List.mergeSort_nil, List.map_nil]
  obtain ⟨⟨m, w⟩, hp⟩ := List.exists_mem_of_ne_nil ps hps
  obtain ⟨hw, hmay⟩ := (mem_params hmem).mp hp
  -- one parameter that is shown brings the object into the other answer
  obtain ⟨⟨ps', hmem', -⟩, -⟩ := mem_filteredAnswer_iff.mpr ⟨(hcond.same hsame hmay hw).1, hmay⟩
  have hperm : ps'.Perm ps := by
    refine (List.perm_ext_iff_of_nodup (nodup_params hmem').of_map
      (nodup_params hmem).of_map).mpr ?_
    rintro ⟨n, v⟩
    rw [mem_params hmem', mem_params hmem]
    exact and_congr_left fun hmay =>
      ⟨fun hv => (hcond.same hsame.symm hmay hv).1, fun hv => (hcond.same hsame hmay hv).1⟩
  refine List.mem_map.mpr ⟨(o', ps'), hmem', Prod.ext rfl ?_⟩
  show (sortedParams ps').map (valueEntry env d' path o') =
    (sortedParams ps).map (valueEntry env d path o')
  rw [sortedParams_congr (nodup_params hmem') hperm]
  refine List.map_congr_left fun param hparam => ?_
  obtain ⟨hv, hmay'⟩ := (mem_params hmem).mp (List.mem_mergeSort.mp hparam)
  rw [valueEntry, valueEntry, (hcond.same hsame hmay' hv).2]

/-- **The list is the same** in two states that differ in what is denied. -/
theorem getValuesParseValues_congr (hcond : ValuesCondition env (fun _ => true) path depth)
    (hsame : SameForAcs env d d') :
    getValuesParseValues env d path (filteredAnswer env d path depth) =
      getValuesParseValues env d' path (filteredAnswer env d' path depth) := by
  have hkeys : ∀ e : Device, (((filteredAnswer env e path depth).map
      (objectEntries env e path)).map Prod.fst).Nodup := by
    intro e
    rw [List.map_map]
    exact nodup_filteredAnswer
  rw [getValuesParseValues_eq, getValuesParseValues_eq]
  exact List.flatMap_mergeSort_congr env.keyOrder.trans env.keyOrder.total env.keyOrder.antisymm
    (hkeys d) (hkeys d') fun o c hne =>
      ⟨objectEntries_mem hcond hsame hne, objectEntries_mem hcond hsame.symm hne⟩

/-! ### The build without the supported data model -/

/-- The values in the answer of an implementation. -/
def InList (answer : Device → Int × List (DmPath × ParameterType × String)) (d : Device)
    (k : DmPath) (x : String) : Prop := ∃ t, (k, t, x) ∈ (answer d).2

/-- An implementation whose list is the one of the values shows those. -/
theorem showsValues_inList {answer : Device → Int × List (DmPath × ParameterType × String)}
    (hlist : ∀ d, (answer d).2 =
      getValuesParseValues env d path (filteredAnswer env d path depth)) :
    ShowsValues env (fun _ => true) path depth (InList answer) := by
  intro d k x
  rw [InList, hlist]
  constructor
  · rintro ⟨t, ht⟩
    obtain ⟨o, n, v, hv, hmay, he⟩ := mem_getValuesParseValues.mp ht
    cases he
    exact ⟨o, n, v, hv, hmay, rfl, rfl⟩
  · rintro ⟨o, n, v, hv, hmay, rfl, rfl⟩
    exact ⟨_, mem_getValuesParseValues.mpr ⟨o, n, v, hv, hmay, rfl⟩⟩

/-- A list without an entry, for a request that is denied. -/
theorem valuesRespected_of_denied
    {answer : Device → Int × List (DmPath × ParameterType × String)}
    (h : ∀ d, answer d = (invalidParameterName, [])) :
    ValuesRespected env path answer (InList answer) where
  same := fun d d' _ => (h d).trans (h d').symm
  allowed := fun d k x hentry => by
    obtain ⟨t, ht⟩ := hentry
    rw [h d] at ht
    exact absurd ht List.not_mem_nil

/-- Two answers that are the same show the same. -/
theorem ValuesRespected.inList {answer : Device → Int × List (DmPath × ParameterType × String)}
    (h : ValuesRespected env path answer (InList answer)) (hsame : SameForAcs env d d')
    {k : DmPath} {x : String} (hentry : InList answer d k x) : InList answer d' k x := by
  rwa [InList, ← h.same d d' hsame]

/-- The answer, where the request is allowed. -/
theorem getParameterValues_eq (hallowed : env.amxaIsGetAllowed (requestPath path) = true) :
    getParameterValues env d path =
      (if d.answer (requestPath path) (getValuesDepth (requestPath path)) = [] then
        unansweredError env (requestPath path) else 0,
        getValuesParseValues env d (requestPath path)
          (filteredAnswer env d (requestPath path) (getValuesDepth (requestPath path)))) := by
  have hnil : getValuesParseValues env d (requestPath path) [] = [] := by
    rw [getValuesParseValues, sortedObjects, List.mergeSort_nil, List.flatMap_nil]
  rw [getParameterValues, if_pos hallowed]
  split
  · next hanswer =>
    rw [filteredAnswer, hanswer, amxaFilterGetResp, List.map_nil, ite_self, hnil,
      unansweredError]
    split
    · rfl
    · rcases env.unanswered (requestPath path) <;> rfl
  · rfl

theorem showsValues_getParameterValues
    (hallowed : env.amxaIsGetAllowed (requestPath path) = true) :
    ShowsValues env (fun _ => true) (requestPath path) (getValuesDepth (requestPath path))
      (InList fun d => getParameterValues env d path) :=
  showsValues_inList fun _ => congrArg Prod.snd (getParameterValues_eq hallowed)

/-- **`DM_AmxParameterValues.c` respects the rules** for a request exactly if they deny it, or
all that it can show is allowed. -/
theorem getParameterValues_respected_iff :
    ValuesRespected env path (fun d => getParameterValues env d path)
        (InList fun d => getParameterValues env d path) ↔
      (env.amxaIsGetAllowed (requestPath path) = true →
        ValuesCondition env (fun _ => true) (requestPath path)
          (getValuesDepth (requestPath path))) := by
  constructor
  · intro h hallowed
    exact (showsValues_getParameterValues hallowed).condition fun d d' hsame k x hentry =>
      h.inList hsame hentry
  · intro h
    by_cases hallowed : env.amxaIsGetAllowed (requestPath path) = true
    · refine (showsValues_getParameterValues hallowed).respected (h hallowed)
        fun d d' hsame => ?_
      rw [getParameterValues_eq hallowed, getParameterValues_eq hallowed,
        getValuesParseValues_congr (h hallowed) hsame, unansweredError]
      by_cases hwild : (requestPath path).isWildcard = true
      · rw [hwild, Bool.or_true, if_pos rfl, ite_self, ite_self]
      · rw [if_congr (hsame.answer_eq_nil hallowed hwild) rfl rfl]
    · exact valuesRespected_of_denied fun d => if_neg hallowed

/-! ### The build for the supported data model -/

/-- The error of `DM_AmxParameterValues_prpl.c`, where nothing is found. -/
def unansweredErrorPrpl (env : ReadEnv) (path : DmPath) : Int :=
  match env.unanswered path with
  | .notSupportedScheme => 0
  | .failed => invalidParameterName
  | .null => if path.isPartial then 0 else invalidParameterName

/-- **The condition on the objects a wildcard stands for**: where the bus fails if it finds
nothing, they are allowed. -/
def ObjectsCondition (env : ReadEnv) (path : DmPath) : Prop :=
  path.isPartial = true → path.isWildcard = true → env.unanswered path = .failed →
    ∀ o, o ≠ [] → (∀ c ∈ o, c.IsConcrete) → matchRest path.object o = some [] →
      env.amxaIsGetAllowed ⟨o, none⟩ = true

/-- The answer, where the request is allowed. -/
theorem getParameterValuesPrpl_eq (hallowed : env.amxaIsGetAllowed (requestPath path) = true) :
    getParameterValuesPrpl env d path =
      (if d.answer (requestPath path) (getValuesDepth (requestPath path)) = [] then
        unansweredErrorPrpl env (requestPath path) else 0,
        getValuesParseValues env d (requestPath path)
          (filteredAnswer env d (requestPath path) (getValuesDepth (requestPath path)))) := by
  have hnil : getValuesParseValues env d (requestPath path) [] = [] := by
    rw [getValuesParseValues, sortedObjects, List.mergeSort_nil, List.flatMap_nil]
  rw [getParameterValuesPrpl, if_pos hallowed]
  split
  · next hanswer =>
    rw [filteredAnswer, hanswer, amxaFilterGetResp, List.map_nil, ite_self, hnil,
      unansweredErrorPrpl]
    rcases env.unanswered (requestPath path)
    · dsimp only
      split <;> rfl
    · rfl
    · rfl
  · rfl

theorem showsValues_getParameterValuesPrpl
    (hallowed : env.amxaIsGetAllowed (requestPath path) = true) :
    ShowsValues env (fun _ => true) (requestPath path) (getValuesDepth (requestPath path))
      (InList fun d => getParameterValuesPrpl env d path) :=
  showsValues_inList fun _ => congrArg Prod.snd (getParameterValuesPrpl_eq hallowed)

/-- What a path stands for is found in both states, where it is allowed. -/
theorem SameForAcs.answer_eq_nil_of (hsame : SameForAcs env d d')
    (hobject : path.parameter = none → path.object ≠ [])
    (h : ∀ o, o ≠ [] → (∀ c ∈ o, c.IsConcrete) → matchRest path.object o = some [] →
      env.amxaIsGetAllowed ⟨o, path.parameter⟩ = true) :
    d.answer path depth = [] ↔ d'.answer path depth = [] := by
  have himp : ∀ {e e' : Device}, SameForAcs env e e' → e.answer path depth = [] →
      e'.answer path depth = [] := by
    intro e e' hsame
    rw [answer_eq_nil_iff hobject, answer_eq_nil_iff hobject]
    intro hnone o hmatch hpres
    obtain ⟨hne, hconcrete⟩ := concrete_of_present hpres
    exact hnone o hmatch ((hsame.present (h o hne hconcrete hmatch)).mpr hpres)
  exact ⟨himp hsame, himp hsame.symm⟩

/-- The error is the same in two states that differ in what is denied. -/
theorem unansweredErrorPrpl_same (hallowed : env.amxaIsGetAllowed (requestPath path) = true)
    (hcond : ValuesCondition env (fun _ => true) (requestPath path) depth)
    (hobjects : ObjectsCondition env (requestPath path)) (hsame : SameForAcs env d d') :
    (if d.answer (requestPath path) depth = [] then unansweredErrorPrpl env (requestPath path)
      else 0) = if d'.answer (requestPath path) depth = [] then
        unansweredErrorPrpl env (requestPath path) else 0 := by
  by_cases hwild : (requestPath path).isWildcard = true
  · rcases hparam : (requestPath path).parameter with - | m
    · have hdot : (requestPath path).isPartial = true := by rw [DmPath.isPartial, hparam]; rfl
      by_cases hfailed : env.unanswered (requestPath path) = .failed
      · refine if_congr (hsame.answer_eq_nil_of requestPath_object_ne_nil ?_) rfl rfl
        rw [hparam]
        exact hobjects hdot hwild hfailed
      · have hzero : unansweredErrorPrpl env (requestPath path) = 0 := by
          rw [unansweredErrorPrpl]
          split
          · rfl
          · next h => exact absurd h hfailed
          · exact if_pos hdot
        rw [hzero, ite_self, ite_self]
    · refine if_congr (hsame.answer_eq_nil_of requestPath_object_ne_nil ?_) rfl rfl
      intro o hne hconcrete hmatch
      rw [hparam]
      refine (hcond o m ⟨hne, hconcrete, rfl, ⟨?_, fun m' hm' => ?_⟩, fun hdot => ?_⟩).1
      · rw [SelectsObject, hparam]
        exact hmatch
      · exact Option.some.inj (hm'.symm.trans hparam)
      · rw [DmPath.isPartial, hparam] at hdot
        cases hdot
  · exact if_congr (hsame.answer_eq_nil hallowed hwild) rfl rfl

variable (depth) in
/-- An object that is there is what a request finds, and without it nothing is found. -/
theorem answer_chainDevice_dropLast (hobject : path.parameter = none → path.object ≠ [])
    (hdot : path.isPartial = true) (hne : o ≠ []) (hconcrete : ∀ c ∈ o, c.IsConcrete)
    (hmatch : matchRest path.object o = some []) :
    (chainDevice o hconcrete []).answer path depth ≠ [] ∧
      (chainDevice o.dropLast (fun c hc => hconcrete c (List.mem_of_mem_dropLast hc)) []).answer
        path depth = [] := by
  have hparam : path.parameter = none := Option.isNone_iff_eq_none.mp hdot
  have hlength : ∀ {q}, matchRest path.object q = some [] → q.length = path.object.length := by
    intro q hq
    obtain ⟨used, rfl, hlen, -⟩ := matchRest_split hq
    rwa [List.append_nil]
  constructor
  · rw [Ne, answer_eq_nil_iff hobject, hparam]
    exact fun h => h o hmatch (mem_keys_chainObjects.mpr ⟨List.prefix_rfl, hne⟩)
  · rw [answer_eq_nil_iff hobject, hparam]
    intro q hq hpres
    -- the path is too long for what is left
    have hle : q.length ≤ o.dropLast.length := (mem_keys_chainObjects.mp hpres).1.length_le
    have hpos := List.length_pos_iff.mpr hne
    have hsame := (hlength hq).trans (hlength hmatch).symm
    rw [List.length_dropLast] at hle
    omega

/-- The states with and without an object that is denied. -/
theorem sameForAcs_chainDevice_dropLast (hconcrete : ∀ c ∈ o, c.IsConcrete)
    (hdenied : ¬env.amxaIsGetAllowed ⟨o, none⟩ = true) :
    SameForAcs env (chainDevice o hconcrete [])
      (chainDevice o.dropLast (fun c hc => hconcrete c (List.mem_of_mem_dropLast hc)) []) where
  object := fun p hp => by
    refine (mem_keys_chainObjects.trans ?_).trans mem_keys_chainObjects.symm
    refine and_congr_left fun _ => ⟨fun h => ?_, fun h => h.trans (List.dropLast_prefix o)⟩
    have hlt : p.length < o.length := lt_of_le_of_ne h.length_le fun hlen =>
      hdenied (h.eq_of_length hlen ▸ hp)
    refine List.prefix_of_prefix_length_le h (List.dropLast_prefix o) ?_
    rw [List.length_dropLast]
    omega
  value := fun p m _ => by
    have hnone : ∀ q : List Component, ((chainObjects q []).value p m) = none := by
      intro q
      refine Option.eq_none_iff_forall_ne_some.mpr fun v hv => ?_
      exact absurd ((value_chainObjects (by simp)).mp hv).2 List.not_mem_nil
    exact (hnone o).trans (hnone _).symm

/-- **`DM_AmxParameterValues_prpl.c` respects the rules** for a request exactly if they deny it,
or all that it can show is allowed, and so are the objects a wildcard stands for. -/
theorem getParameterValuesPrpl_respected_iff :
    ValuesRespected env path (fun d => getParameterValuesPrpl env d path)
        (InList fun d => getParameterValuesPrpl env d path) ↔
      (env.amxaIsGetAllowed (requestPath path) = true →
        ValuesCondition env (fun _ => true) (requestPath path)
          (getValuesDepth (requestPath path)) ∧ ObjectsCondition env (requestPath path)) := by
  constructor
  · intro h hallowed
    refine ⟨(showsValues_getParameterValuesPrpl hallowed).condition fun d d' hsame k x hentry =>
      h.inList hsame hentry, fun hdot hwild hfailed o hne hconcrete hmatch => ?_⟩
    by_contra hdenied
    obtain ⟨hfound, hnothing⟩  :=
      answer_chainDevice_dropLast (getValuesDepth (requestPath path)) requestPath_object_ne_nil
        hdot hne hconcrete hmatch
    have herror := congrArg Prod.fst (h.same _ _
      (sameForAcs_chainDevice_dropLast hconcrete hdenied))
    rw [getParameterValuesPrpl_eq hallowed, getParameterValuesPrpl_eq hallowed, if_neg hfound,
      if_pos hnothing, unansweredErrorPrpl, hfailed] at herror
    exact absurd herror (show (0 : Int) ≠ invalidParameterName by decide)
  · intro h
    by_cases hallowed : env.amxaIsGetAllowed (requestPath path) = true
    · obtain ⟨hcond, hobjects⟩ := h hallowed
      refine (showsValues_getParameterValuesPrpl hallowed).respected hcond fun d d' hsame => ?_
      rw [getParameterValuesPrpl_eq hallowed, getParameterValuesPrpl_eq hallowed,
        getValuesParseValues_congr hcond hsame,
        unansweredErrorPrpl_same hallowed hcond hobjects hsame]
    · exact valuesRespected_of_denied fun d => if_neg hallowed

end Tr069.Parameters
