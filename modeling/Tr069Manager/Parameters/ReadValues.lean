import Tr069Manager.Lib.Sorted
import Tr069Manager.Parameters.Requests
import Tr069Manager.Parameters.ValueRules

/-!
# The answers to `GetParameterValues` and the access rules

Each of the three implementations respects the rules for a request exactly if the rules deny
the request as a whole, or the condition on what it can show is met
(`getValues_respected_iff`, `getParameterValues_respected_iff`,
`getParameterValuesPrpl_respected_iff`). The implementation for the supported data model answers
a request for an object that nothing is found for as the bus does, and asks for one thing more:
that the objects a wildcard stands for are allowed.
-/

namespace Tr069.Parameters

variable {env : ReadEnv} {d d' : Device} {path : DmPath} {depth : ℤ} {o : List Component}
  {n : String} {v : Value} {has : List Component → Bool}

/-- **A request for values respects the rules**: its answer is the same for states that differ in
what is denied, and every value in it is one of a parameter that is allowed. -/
structure ValuesRespected {ρ : Type} (env : ReadEnv) (path : DmPath) (answer : Device → ρ)
    (entry : Device → DmPath → String → Prop) : Prop where
  same : ∀ d d', SameForAcs env d d' → answer d = answer d'
  allowed : ∀ d k x, entry d k x → ∃ o n v, env.amxaIsGetAllowed ⟨o, some n⟩ = true ∧
    d.objects.value o n = some v ∧
      k = returnedName env d (requestPath path) ⟨o, some n⟩ ∧ x = v.text

/-- What is shown is allowed, where the condition is met. -/
theorem ShowsValues.respected {ρ : Type} {answer : Device → ρ}
    {entry : Device → DmPath → String → Prop}
    (hshows : ShowsValues env has (requestPath path) depth entry)
    (hcond : ValuesCondition env has (requestPath path) depth)
    (hsame : ∀ d d', SameForAcs env d d' → answer d = answer d') :
    ValuesRespected env path answer entry where
  same := hsame
  allowed := fun d k x hentry => by
    obtain ⟨o, n, v, hv, hmay, hk, hx⟩ := (hshows d k x).mp hentry
    exact ⟨o, n, v, (hcond o n hmay).1, hv, hk, hx⟩

/-- The parameters that are left of an answer are those the request can show. -/
theorem mem_filteredAnswer_iff :
    (∃ ps, (o, ps) ∈ filteredAnswer env d path depth ∧ (n, v) ∈ ps) ∧ has o = true ↔
      d.objects.value o n = some v ∧ MayShowValue env has path depth o n := by
  rw [mem_filteredAnswer_param]
  constructor
  · rintro ⟨⟨hv, hsel, hallowed⟩, hhas⟩
    obtain ⟨hne, hconcrete⟩ := d.concrete o (mem_keys_of_value hv)
    exact ⟨hv, hne, hconcrete, hhas, hsel, hallowed⟩
  · rintro ⟨hv, hmay⟩
    exact ⟨⟨hv, hmay.selects, hmay.allowed⟩, hmay.has⟩

/-! ### `DM_AmxParameter_GetValues` -/

/-- An object with data. -/
def hasGsdmInfo (env : ReadEnv) (o : List Component) : Bool := (getGsdmInfo env o).isSome

/-- What the parser adds for an answer. -/
theorem mem_parseValues {response : Response} {e : DmPath × (ParameterType × String)} :
    e ∈ parseValues env d path false response ↔ ∃ o ps n v info, ((o, ps) ∈ response ∧
      (n, v) ∈ ps) ∧ getGsdmInfo env o = some info ∧
        addParameterToPVS env (returnedName env d path ⟨o, some n⟩) v n info = e := by
  rw [parseValues, parse, List.nil_append, List.mem_flatMap]
  constructor
  · rintro ⟨⟨o, ps⟩, hmem, he⟩
    rw [parseForEachObject] at he
    split at he
    · cases he
    · next info hinfo =>
      rw [List.nil_append, if_neg fun h => absurd h.1 (by decide), List.mem_map] at he
      obtain ⟨⟨n, v⟩, hp, he⟩ := he
      exact ⟨o, ps, n, v, info, ⟨hmem, hp⟩, hinfo, he⟩
  · rintro ⟨o, ps, n, v, info, ⟨hmem, hp⟩, hinfo, he⟩
    refine ⟨(o, ps), hmem, ?_⟩
    rw [parseForEachObject, hinfo]
    dsimp only
    rw [List.nil_append, if_neg fun h => absurd h.1 (by decide)]
    exact List.mem_map.mpr ⟨(n, v), hp, he⟩

/-- What the parser adds for the answer to a request. -/
theorem mem_parseValues_filteredAnswer {e : DmPath × (ParameterType × String)} :
    e ∈ parseValues env d path false (filteredAnswer env d path depth) ↔
      ∃ o n v info, d.objects.value o n = some v ∧
        MayShowValue env (hasGsdmInfo env) path depth o n ∧ getGsdmInfo env o = some info ∧
          addParameterToPVS env (returnedName env d path ⟨o, some n⟩) v n info = e := by
  rw [mem_parseValues]
  constructor
  · rintro ⟨o, ps, n, v, info, hmem, hinfo, he⟩
    have hhas : hasGsdmInfo env o = true := Option.isSome_iff_exists.mpr ⟨info, hinfo⟩
    obtain ⟨hv, hmay⟩ := mem_filteredAnswer_iff.mp ⟨⟨ps, hmem⟩, hhas⟩
    exact ⟨o, n, v, info, hv, hmay, hinfo, he⟩
  · rintro ⟨o, n, v, info, hv, hmay, hinfo, he⟩
    obtain ⟨⟨ps, hmem⟩, -⟩ := mem_filteredAnswer_iff.mpr ⟨hv, hmay⟩
    exact ⟨o, ps, n, v, info, hmem, hinfo, he⟩

/-- A name has one value. -/
theorem parseValues_functional :
    ∀ e ∈ parseValues env d path false (filteredAnswer env d path depth),
      ∀ e' ∈ parseValues env d path false (filteredAnswer env d path depth),
        e.1 = e'.1 → e = e' := by
  intro e he e' he' hkey
  obtain ⟨o, n, v, info, hv, hmay, hinfo, rfl⟩ := mem_parseValues_filteredAnswer.mp he
  obtain ⟨o', n', v', info', hv', hmay', hinfo', rfl⟩ := mem_parseValues_filteredAnswer.mp he'
  have hunder : Under path (DmPath.mk o (some n)).object := hmay.under
  have hunder' : Under path (DmPath.mk o' (some n')).object := hmay'.under
  cases returnedName_injective hmay.concrete hmay'.concrete hunder hunder' hkey
  rw [Option.some.inj (hv.symm.trans hv'), Option.some.inj (hinfo.symm.trans hinfo')]

/-- The list of `DM_AmxParameter_GetValues`, where the request is allowed. -/
theorem getValues_list (hallowed : env.amxaIsGetAllowed (requestPath path) = true) :
    (getValues env d path).list = Table.empty.addAll (parseValues env d (requestPath path) false
      (filteredAnswer env d (requestPath path) (requestDepth (requestPath path) false))) := by
  by_cases hanswer : d.answer (requestPath path) (requestDepth (requestPath path) false) = []
  · rw [getValues, amxParameterGet_unanswered hallowed hanswer fun _ => rfl, filteredAnswer,
      hanswer, amxaFilterGetResp, List.map_nil, ite_self]
    rfl
  · rw [getValues, amxParameterGet_answered hallowed hanswer]

/-- The error, where the request is allowed. -/
theorem getValues_error (hallowed : env.amxaIsGetAllowed (requestPath path) = true) :
    (getValues env d path).error =
      if d.answer (requestPath path) (requestDepth (requestPath path) false) = [] then
        unansweredError env (requestPath path) else 0 := by
  split
  · next hanswer =>
    rw [getValues, amxParameterGet_unanswered hallowed hanswer fun _ => rfl]
    rfl
  · next hanswer => rw [getValues, amxParameterGet_answered hallowed hanswer]

/-- The values in the answer of `DM_ENG_Device_GPV`. -/
def InGetValues (env : ReadEnv) (path : DmPath) (d : Device) (k : DmPath) (x : String) : Prop :=
  ∃ t, (getValues env d path).list.find k = some (t, x)

theorem find_getValues (hallowed : env.amxaIsGetAllowed (requestPath path) = true)
    {k : DmPath} {x : ParameterType × String} :
    (getValues env d path).list.find k = some x ↔ ∃ o n v info, d.objects.value o n = some v ∧
      MayShowValue env (hasGsdmInfo env) (requestPath path)
        (requestDepth (requestPath path) false) o n ∧ getGsdmInfo env o = some info ∧
          addParameterToPVS env (returnedName env d (requestPath path) ⟨o, some n⟩) v n info =
            (k, x) := by
  rw [getValues_list hallowed, Table.find_addAll_empty parseValues_functional,
    mem_parseValues_filteredAnswer]

theorem showsValues_getValues (hallowed : env.amxaIsGetAllowed (requestPath path) = true) :
    ShowsValues env (hasGsdmInfo env) (requestPath path)
      (requestDepth (requestPath path) false) (InGetValues env path) := by
  intro d k x
  constructor
  · rintro ⟨t, ht⟩
    obtain ⟨o, n, v, info, hv, hmay, -, he⟩ := (find_getValues hallowed).mp ht
    cases he
    exact ⟨o, n, v, hv, hmay, rfl, rfl⟩
  · rintro ⟨o, n, v, hv, hmay, rfl, rfl⟩
    obtain ⟨info, hinfo⟩ := Option.isSome_iff_exists.mp hmay.has
    exact ⟨_, (find_getValues hallowed).mpr ⟨o, n, v, info, hv, hmay, hinfo, rfl⟩⟩

/-- The answers in two states that differ in what is denied are the same. -/
theorem getValues_same (hallowed : env.amxaIsGetAllowed (requestPath path) = true)
    (hcond : ValuesCondition env (hasGsdmInfo env) (requestPath path)
      (requestDepth (requestPath path) false)) (hsame : SameForAcs env d d') :
    (getValues env d path).response = (getValues env d' path).response := by
  refine Prod.ext ?_ (funext fun k => Option.ext fun x => ?_)
  · show (getValues env d path).error = (getValues env d' path).error
    rw [getValues_error hallowed, getValues_error hallowed, unansweredError]
    by_cases hwild : (requestPath path).isWildcard = true
    · rw [hwild, Bool.or_true, if_pos rfl, ite_self, ite_self]
    · rw [if_congr (hsame.answer_eq_nil hallowed hwild) rfl rfl]
  · show (getValues env d path).list.find k = some x ↔ (getValues env d' path).list.find k = some x
    rw [find_getValues hallowed, find_getValues hallowed]
    constructor
    · rintro ⟨o, n, v, info, hv, hmay, hinfo, he⟩
      obtain ⟨hv', hname⟩ := hcond.same hsame hmay hv
      exact ⟨o, n, v, info, hv', hmay, hinfo, hname ▸ he⟩
    · rintro ⟨o, n, v, info, hv, hmay, hinfo, he⟩
      obtain ⟨hv', hname⟩ := hcond.same hsame.symm hmay hv
      exact ⟨o, n, v, info, hv', hmay, hinfo, hname ▸ he⟩

/-- **`DM_ENG_Device_GPV` respects the rules** for a request exactly if they deny it, or all that
it can show is allowed. -/
theorem getValues_respected_iff :
    ValuesRespected env path (fun d => (getValues env d path).response) (InGetValues env path) ↔
      (env.amxaIsGetAllowed (requestPath path) = true →
        ValuesCondition env (hasGsdmInfo env) (requestPath path)
          (requestDepth (requestPath path) false)) := by
  constructor
  · intro h hallowed
    refine (showsValues_getValues hallowed).condition fun d d' hsame k x hentry => ?_
    obtain ⟨t, ht⟩ := hentry
    have hfind := congrFun (congrArg Prod.snd (h.same d d' hsame)) k
    exact ⟨t, hfind.symm.trans ht⟩
  · intro h
    by_cases hallowed : env.amxaIsGetAllowed (requestPath path) = true
    · exact (showsValues_getValues hallowed).respected (h hallowed)
        fun d d' => getValues_same hallowed (h hallowed)
    · have hdenied : ∀ d, getValues env d path = .empty invalidParameterName := fun d =>
        amxParameterGet_denied hallowed
      refine ⟨fun d d' _ => ?_, fun d k x hentry => ?_⟩
      · rw [hdenied, hdenied]
      · obtain ⟨t, ht⟩ := hentry
        rw [hdenied] at ht
        cases ht

end Tr069.Parameters
