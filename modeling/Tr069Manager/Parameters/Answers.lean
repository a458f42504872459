import Tr069Manager.Parameters.Aliases

/-!
# What the bus answers, and what the rules deny

A request shows objects and parameters of the device, and which ones it may show is a matter of
its path and the rules alone (`SelectsObject`, `SelectsParam`). Two states of the device are the
same for the ACS if they differ in what the rules deny (`SameForAcs`). To see that something is
shown, the file makes the states that have an object, what it is in, and a few parameters
(`chainDevice`).
-/

namespace Tr069.Parameters

variable {env : ReadEnv} {d d' : Device} {path : DmPath} {depth : ℤ} {o : List Component}
  {n : String} {v : Value}

/-! ### What a request shows -/

/-- The request is for the object. -/
def SelectsObject (path : DmPath) (depth : ℤ) (o : List Component) : Prop :=
  match path.parameter with
  | none => selects path.object depth o = true
  | some _ => matchRest path.object o = some []

/-- The request is for the parameter. -/
def SelectsParam (path : DmPath) (depth : ℤ) (o : List Component) (n : String) : Prop :=
  SelectsObject path depth o ∧ ∀ m, path.parameter = some m → m = n

/-- The object or the parameter is there. -/
def Present (d : Device) (s : DmPath) : Prop :=
  match s.parameter with
  | none => s.object ∈ d.objects.keys
  | some n => ∃ v, d.objects.value s.object n = some v

theorem value_eq_some :
    d.objects.value o n = some v ↔ ∃ t, d.objects.find o = some t ∧ t.find n = some v :=
  Option.bind_eq_some_iff

theorem mem_keys_of_value (h : d.objects.value o n = some v) : o ∈ d.objects.keys := by
  obtain ⟨t, ht, -⟩ := value_eq_some.mp h
  exact Table.mem_keys.mpr ⟨t, ht⟩

theorem mem_answer {ps : List (String × Value)} :
    (o, ps) ∈ d.answer path depth ↔
      ∃ t, d.objects.find o = some t ∧ answerOf path depth (o, t) = some (o, ps) := by
  rw [Device.answer, List.mem_filterMap]
  constructor
  · rintro ⟨⟨o', t⟩, hmem, hans⟩
    have ho : o' = o := by
      rw [answerOf] at hans
      split at hans
      · split at hans
        · exact congrArg Prod.fst (Option.some.inj hans)
        · cases hans
      · split at hans
        · obtain ⟨w, -, hw⟩ := Option.map_eq_some_iff.mp hans
          exact congrArg Prod.fst hw
        · cases hans
    subst ho
    exact ⟨t, Table.find_eq_some.mpr hmem, hans⟩
  · rintro ⟨t, ht, hans⟩
    exact ⟨(o, t), Table.find_eq_some.mp ht, hans⟩

/-- The objects in the answer. -/
theorem mem_answer_object :
    (∃ ps, (o, ps) ∈ d.answer path depth) ↔
      Present d ⟨o, path.parameter⟩ ∧ SelectsObject path depth o := by
  rcases hparam : path.parameter with - | m
  · rw [SelectsObject, hparam]
    constructor
    · rintro ⟨ps, hmem⟩
      obtain ⟨t, ht, hans⟩ := mem_answer.mp hmem
      rw [answerOf, hparam] at hans
      dsimp only at hans
      split at hans
      · next hsel => exact ⟨Table.mem_keys.mpr ⟨t, ht⟩, hsel⟩
      · cases hans
    · rintro ⟨hpres, hsel⟩
      obtain ⟨t, ht⟩ := Table.mem_keys.mp hpres
      refine ⟨t.entries, mem_answer.mpr ⟨t, ht, ?_⟩⟩
      rw [answerOf, hparam]
      exact if_pos hsel
  · rw [SelectsObject, hparam]
    constructor
    · rintro ⟨ps, hmem⟩
      obtain ⟨t, ht, hans⟩ := mem_answer.mp hmem
      rw [answerOf, hparam] at hans
      dsimp only at hans
      split at hans
      · next hsel =>
        obtain ⟨v, hv, -⟩ := Option.map_eq_some_iff.mp hans
        exact ⟨⟨v, value_eq_some.mpr ⟨t, ht, hv⟩⟩, hsel⟩
      · cases hans
    · rintro ⟨⟨v, hv⟩, hsel⟩
      obtain ⟨t, ht, hfind⟩ := value_eq_some.mp hv
      refine ⟨[(m, v)], mem_answer.mpr ⟨t, ht, ?_⟩⟩
      rw [answerOf, hparam]
      dsimp only
      rw [if_pos hsel, hfind, Option.map_some]

/-- The parameters in the answer. -/
theorem mem_answer_param :
    (∃ ps, (o, ps) ∈ d.answer path depth ∧ (n, v) ∈ ps) ↔
      d.objects.value o n = some v ∧ SelectsParam path depth o n := by
  rcases hparam : path.parameter with - | m
  · rw [SelectsParam, SelectsObject, hparam]
    constructor
    · rintro ⟨ps, hmem, hp⟩
      obtain ⟨t, ht, hans⟩ := mem_answer.mp hmem
      rw [answerOf, hparam] at hans
      dsimp only at hans
      split at hans
      · next hsel =>
        cases hans
        exact ⟨value_eq_some.mpr ⟨t, ht, Table.find_eq_some.mpr hp⟩, hsel,
          fun m hm => absurd hm (by simp)⟩
      · cases hans
    · rintro ⟨hv, hsel, -⟩
      obtain ⟨t, ht, hfind⟩ := value_eq_some.mp hv
      refine ⟨t.entries, mem_answer.mpr ⟨t, ht, ?_⟩, Table.find_eq_some.mp hfind⟩
      rw [answerOf, hparam]
      exact if_pos hsel
  · rw [SelectsParam, SelectsObject, hparam]
    constructor
    · rintro ⟨ps, hmem, hp⟩
      obtain ⟨t, ht, hans⟩ := mem_answer.mp hmem
      rw [answerOf, hparam] at hans
      dsimp only at hans
      split at hans
      · next hsel =>
        obtain ⟨w, hw, he⟩ := Option.map_eq_some_iff.mp hans
        cases he
        cases List.mem_singleton.mp hp
        exact ⟨value_eq_some.mpr ⟨t, ht, hw⟩, hsel, fun m hm => (Option.some.inj hm).symm⟩
      · cases hans
    · rintro ⟨hv, hsel, hm⟩
      obtain rfl := hm m rfl
      obtain ⟨t, ht, hfind⟩ := value_eq_some.mp hv
      refine ⟨[(m, v)], mem_answer.mpr ⟨t, ht, ?_⟩, List.mem_singleton_self _⟩
      rw [answerOf, hparam]
      dsimp only
      rw [if_pos hsel, hfind, Option.map_some]

theorem mem_filteredAnswer_object :
    (∃ ps, (o, ps) ∈ filteredAnswer env d path depth) ↔
      Present d ⟨o, path.parameter⟩ ∧ SelectsObject path depth o := by
  rw [← mem_answer_object, filteredAnswer]
  split
  · constructor
    · rintro ⟨ps, hmem⟩
      obtain ⟨e, he, heq⟩ := List.mem_map.mp hmem
      cases heq
      exact ⟨e.2, he⟩
    · rintro ⟨ps, hmem⟩
      exact ⟨_, List.mem_map.mpr ⟨(o, ps), hmem, rfl⟩⟩
  · rfl

/-- **The parameters that are left**: on the path of an object, those the rules allow. -/
theorem mem_filteredAnswer_param :
    (∃ ps, (o, ps) ∈ filteredAnswer env d path depth ∧ (n, v) ∈ ps) ↔
      d.objects.value o n = some v ∧ SelectsParam path depth o n ∧
        (path.isPartial = true → env.amxaIsGetAllowed ⟨o, some n⟩ = true) := by
  rw [← and_assoc, ← mem_answer_param, filteredAnswer]
  split
  · next hdot =>
    constructor
    · rintro ⟨ps, hmem, hp⟩
      obtain ⟨e, he, heq⟩ := List.mem_map.mp hmem
      cases heq
      obtain ⟨hp, hallowed⟩ := List.mem_filter.mp hp
      exact ⟨⟨e.2, he, hp⟩, fun _ => hallowed⟩
    · rintro ⟨⟨ps, hmem, hp⟩, hallowed⟩
      exact ⟨_, List.mem_map.mpr ⟨(o, ps), hmem, rfl⟩, List.mem_filter.mpr ⟨hp, hallowed hdot⟩⟩
  · next hdot => exact ⟨fun h => ⟨h, fun hp => absurd hp hdot⟩, fun h => h.1⟩

/-- What is selected is under the request. -/
theorem SelectsObject.under (h : SelectsObject path depth o) : Under path o := by
  rw [SelectsObject] at h
  split at h
  · rw [selects] at h
    split at h
    · cases h
    · next rest hrest => exact prefix_of_matchRest hrest
  · exact prefix_of_matchRest h

theorem concrete_of_present (h : Present d ⟨o, path.parameter⟩) :
    o ≠ [] ∧ ∀ c ∈ o, c.IsConcrete := by
  rw [Present] at h
  split at h
  · exact d.concrete o h
  · obtain ⟨v, hv⟩ := h
    exact d.concrete o (mem_keys_of_value hv)

/-! ### The same for the ACS -/

/-- The two states differ only in objects and parameters the rules deny. -/
structure SameForAcs (env : ReadEnv) (d d' : Device) : Prop where
  object : ∀ o, env.amxaIsGetAllowed ⟨o, none⟩ = true →
    (o ∈ d.objects.keys ↔ o ∈ d'.objects.keys)
  value : ∀ o n, env.amxaIsGetAllowed ⟨o, some n⟩ = true →
    d.objects.value o n = d'.objects.value o n

theorem SameForAcs.symm (h : SameForAcs env d d') : SameForAcs env d' d :=
  ⟨fun o ho => (h.object o ho).symm, fun o n hn => (h.value o n hn).symm⟩

theorem SameForAcs.present (h : SameForAcs env d d') {s : DmPath}
    (hs : env.amxaIsGetAllowed s = true) : Present d s ↔ Present d' s := by
  obtain ⟨o, - | n⟩ := s
  · exact h.object o hs
  · show (∃ v, d.objects.value o n = some v) ↔ ∃ v, d'.objects.value o n = some v
    rw [h.value o n hs]

/-- In the alias mode, the rules allow the aliases in the name of an object. -/
def AliasesAllowed (env : ReadEnv) (path : DmPath) (o : List Component) : Prop :=
  env.instanceAlias = true → ∀ q k, fixedPart path.object <+: q → q ++ [.index k] <+: o →
    env.amxaIsGetAllowed ⟨q ++ [.index k], some "Alias"⟩ = true

/-- The name is then the same in both states. -/
theorem SameForAcs.returnedName (h : SameForAcs env d d') {p : DmPath}
    (hunder : Under path p.object) (hp : AliasesAllowed env path p.object) :
    returnedName env d path p = returnedName env d' path p := by
  refine returnedName_congr hunder fun hmode q k hq hpre => ?_
  rw [Objects.aliasOf, Objects.aliasOf, h.value _ _ (hp hmode q k hq hpre)]

/-! ### The states with one object -/

section Chain

variable {p : List Component} {params : List ((List Component × String) × Value)}

/-- The parameters of an object, from a list. -/
def paramsAt (params : List ((List Component × String) × Value)) (p : List Component) :
    Table String Value :=
  Table.empty.addAll (params.filterMap fun e => if e.1.1 = p then some (e.1.2, e.2) else none)

/-- An object and what it is in, with parameters from a list. -/
def chainObjects (o : List Component) (params : List ((List Component × String) × Value)) :
    Objects where
  entries := (List.range o.length).map fun i => (o.take (i + 1), paramsAt params (o.take (i + 1)))
  nodup := by
    rw [List.map_map]
    refine List.Nodup.map_on (fun i hi j hj h => ?_) List.nodup_range
    have hlen := congrArg List.length h
    rw [Function.comp_apply, Function.comp_apply, List.length_take, List.length_take] at hlen
    have hi' := List.mem_range.mp hi
    have hj' := List.mem_range.mp hj
    omega

theorem find_chainObjects {t : Table String Value} :
    (chainObjects o params).find p = some t ↔ p <+: o ∧ p ≠ [] ∧ t = paramsAt params p := by
  rw [Table.find_eq_some, chainObjects, List.mem_map]
  constructor
  · rintro ⟨i, hi, he⟩
    obtain ⟨rfl, rfl⟩ := Prod.mk.inj he
    refine ⟨List.take_prefix _ _, fun hnil => ?_, rfl⟩
    have hlen := congrArg List.length hnil
    rw [List.length_take, List.length_nil] at hlen
    have hi' := List.mem_range.mp hi
    omega
  · rintro ⟨hpre, hne, rfl⟩
    have hpos := List.length_pos_iff.mpr hne
    have hlen := hpre.length_le
    have htake : o.take (p.length - 1 + 1) = p := by
      rw [Nat.sub_add_cancel hpos]
      exact (List.prefix_iff_eq_take.mp hpre).symm
    exact ⟨p.length - 1, List.mem_range.mpr (by omega), by rw [htake]⟩

theorem mem_keys_chainObjects : p ∈ (chainObjects o params).keys ↔ p <+: o ∧ p ≠ [] := by
  rw [Table.mem_keys]
  constructor
  · rintro ⟨t, ht⟩
    obtain ⟨hpre, hne, -⟩ := find_chainObjects.mp ht
    exact ⟨hpre, hne⟩
  · exact fun h => ⟨_, find_chainObjects.mpr ⟨h.1, h.2, rfl⟩⟩

theorem value_chainObjects (hparams : ∀ e ∈ params, ∀ e' ∈ params, e.1 = e'.1 → e = e') :
    (chainObjects o params).value p n = some v ↔
      (p <+: o ∧ p ≠ []) ∧ ((p, n), v) ∈ params := by
  have hat : (paramsAt params p).find n = some v ↔ ((p, n), v) ∈ params := by
    rw [paramsAt, Table.find_addAll_empty]
    · rw [List.mem_filterMap]
      constructor
      · rintro ⟨e, he, hif⟩
        split at hif
        · next hp =>
          obtain ⟨rfl, rfl⟩ := Prod.mk.inj (Option.some.inj hif)
          exact hp ▸ he
        · cases hif
      · exact fun h => ⟨((p, n), v), h, if_pos rfl⟩
    · intro e he e' he' hkey
      obtain ⟨a, ha, hif⟩ := List.mem_filterMap.mp he
      obtain ⟨b, hb, hif'⟩ := List.mem_filterMap.mp he'
      split at hif
      · next hap =>
        split at hif'
        · next hbp =>
          cases hif
          cases hif'
          rw [hparams a ha b hb (Prod.ext (hap.trans hbp.symm) hkey)]
        · cases hif'
      · cases hif
  rw [Objects.value, Option.bind_eq_some_iff]
  constructor
  · rintro ⟨t, ht, hv⟩
    obtain ⟨hpre, hne, rfl⟩ := find_chainObjects.mp ht
    exact ⟨⟨hpre, hne⟩, hat.mp hv⟩
  · rintro ⟨hp, hmem⟩
    exact ⟨_, find_chainObjects.mpr ⟨hp.1, hp.2, rfl⟩, hat.mpr hmem⟩

/-- The state with an object, what it is in, and parameters from a list. -/
def chainDevice (o : List Component) (hconcrete : ∀ c ∈ o, c.IsConcrete)
    (params : List ((List Component × String) × Value)) : Device where
  objects := chainObjects o params
  concrete := fun p hp => ⟨(mem_keys_chainObjects.mp hp).2, fun c hc =>
    hconcrete c ((mem_keys_chainObjects.mp hp).1.subset hc)⟩
  closed := fun p c hp hne => mem_keys_chainObjects.mpr
    ⟨(List.prefix_append p [c]).trans (mem_keys_chainObjects.mp hp).1, hne⟩
  aliases := fun p m k a _ hm hk => by
    have hpre : ∀ j, (chainObjects o params).aliasOf (p ++ [.index j]) = some a →
        p ++ [.index j] <+: o := by
      intro j hj
      obtain ⟨v, hv, -⟩ := Option.map_eq_some_iff.mp hj
      obtain ⟨t, ht, -⟩ := Option.bind_eq_some_iff.mp hv
      exact (find_chainObjects.mp ht).1
    -- two parts of one path, of one length
    have hsame := List.prefix_of_prefix_length_le (hpre m hm) (hpre k hk) (by simp)
    have heq := hsame.eq_of_length (by simp)
    have hlast := List.append_cancel_left heq
    simpa using hlast

/-! ### Two states that differ in what is denied -/

/-- The parameter a path is for, with a value. -/
def supportParams (s : DmPath) (text : String) : List ((List Component × String) × Value) :=
  match s.parameter with
  | none => []
  | some n => [((s.object, n), ⟨.cstring, text⟩)]

/-- The same, and the Alias of an instance. -/
def aliasParams (s : DmPath) (q : List Component) (a : String) :
    List ((List Component × String) × Value) :=
  ((q, "Alias"), ⟨.cstring, a⟩) :: supportParams s ""

/-- The state for a path. -/
def supportDevice (s : DmPath) (hconcrete : ∀ c ∈ s.object, c.IsConcrete) (text : String) :
    Device := chainDevice s.object hconcrete (supportParams s text)

/-- The state for a path, with the Alias of an instance. -/
def aliasDevice (s : DmPath) (hconcrete : ∀ c ∈ s.object, c.IsConcrete) (q : List Component)
    (a : String) : Device := chainDevice s.object hconcrete (aliasParams s q a)

variable {s : DmPath} {hconcrete : ∀ c ∈ s.object, c.IsConcrete} {q : List Component}
  {text a : String}

theorem mem_supportParams {e : (List Component × String) × Value} :
    e ∈ supportParams s text ↔
      ∃ n, s.parameter = some n ∧ e = ((s.object, n), ⟨.cstring, text⟩) := by
  rcases hs : s.parameter with - | n
  · simp [supportParams, hs]
  · simp [supportParams, hs]

theorem supportParams_functional :
    ∀ e ∈ supportParams s text, ∀ e' ∈ supportParams s text, e.1 = e'.1 → e = e' := by
  intro e he e' he' _
  obtain ⟨n, hn, rfl⟩ := mem_supportParams.mp he
  obtain ⟨n', hn', rfl⟩ := mem_supportParams.mp he'
  rw [Option.some.inj (hn.symm.trans hn')]

theorem value_supportDevice : (supportDevice s hconcrete text).objects.value p n = some v ↔
    (p <+: s.object ∧ p ≠ []) ∧ s.parameter = some n ∧ p = s.object ∧ v = ⟨.cstring, text⟩ := by
  refine (value_chainObjects supportParams_functional).trans (and_congr_right fun _ => ?_)
  rw [mem_supportParams]
  constructor
  · rintro ⟨m, hm, he⟩
    cases he
    exact ⟨hm, rfl, rfl⟩
  · rintro ⟨hn, rfl, rfl⟩
    exact ⟨n, hn, rfl⟩

theorem value_aliasDevice (hne : s ≠ ⟨q, some "Alias"⟩) :
    (aliasDevice s hconcrete q a).objects.value p n = some v ↔
      (p <+: s.object ∧ p ≠ []) ∧ ((p = q ∧ n = "Alias" ∧ v = ⟨.cstring, a⟩) ∨
        (s.parameter = some n ∧ p = s.object ∧ v = ⟨.cstring, ""⟩)) := by
  have hkey : ∀ e ∈ supportParams s "", e.1 ≠ (q, "Alias") := by
    intro e he hkey
    obtain ⟨m, hm, rfl⟩ := mem_supportParams.mp he
    obtain ⟨ho, hn⟩ := Prod.mk.inj hkey
    exact hne (DmPath.eq_of ho (hm.trans (congrArg some hn)))
  have hfunctional : ∀ e ∈ aliasParams s q a, ∀ e' ∈ aliasParams s q a, e.1 = e'.1 → e = e' := by
    intro e he e' he' h
    rcases List.mem_cons.mp he with rfl | he
    · rcases List.mem_cons.mp he' with rfl | he'
      · rfl
      · exact absurd h.symm (hkey e' he')
    · rcases List.mem_cons.mp he' with rfl | he'
      · exact absurd h (hkey e he)
      · exact supportParams_functional e he e' he' h
  refine (value_chainObjects hfunctional).trans (and_congr_right fun _ => ?_)
  rw [aliasParams, List.mem_cons, mem_supportParams]
  refine or_congr ⟨fun he => ?_, ?_⟩ ⟨?_, ?_⟩
  · cases he
    exact ⟨rfl, rfl, rfl⟩
  · rintro ⟨rfl, rfl, rfl⟩
    rfl
  · rintro ⟨m, hm, he⟩
    cases he
    exact ⟨hm, rfl, rfl⟩
  · rintro ⟨hn, rfl, rfl⟩
    exact ⟨n, hn, rfl⟩

theorem present_chain (hne : s.object ≠ [])
    {params : List ((List Component × String) × Value)}
    (hvalue : ∀ m, s.parameter = some m →
      ∃ v, (chainObjects s.object params).value s.object m = some v) :
    Present (chainDevice s.object hconcrete params) s := by
  rw [Present]
  split
  · exact mem_keys_chainObjects.mpr ⟨List.prefix_rfl, hne⟩
  · next m hm => exact hvalue m hm

/-- The path is there in its state. -/
theorem present_supportDevice (hne : s.object ≠ []) :
    Present (supportDevice s hconcrete text) s :=
  present_chain hne fun m hm =>
    have hvalue : (supportDevice s hconcrete text).objects.value s.object m =
      some ⟨.cstring, text⟩ := value_supportDevice.mpr ⟨⟨List.prefix_rfl, hne⟩, hm, rfl, rfl⟩
    ⟨_, hvalue⟩

theorem present_aliasDevice (hobject : s.object ≠ []) (hne : s ≠ ⟨q, some "Alias"⟩) :
    Present (aliasDevice s hconcrete q a) s :=
  present_chain hobject fun m hm =>
    have hvalue : (aliasDevice s hconcrete q a).objects.value s.object m =
      some ⟨.cstring, ""⟩ :=
        (value_aliasDevice hne).mpr ⟨⟨List.prefix_rfl, hobject⟩, Or.inr ⟨hm, rfl, rfl⟩⟩
    ⟨_, hvalue⟩

/-- Two states for a path that is denied. -/
theorem sameForAcs_supportDevice {text' : String} (hdenied : ¬env.amxaIsGetAllowed s = true) :
    SameForAcs env (supportDevice s hconcrete text) (supportDevice s hconcrete text') where
  object := fun _ _ => mem_keys_chainObjects.trans mem_keys_chainObjects.symm
  value := fun p m hallowed => by
    refine Option.ext fun w => ?_
    rw [value_supportDevice, value_supportDevice]
    have hnot : s.parameter = some m → p ≠ s.object := by
      rintro hm rfl
      exact hdenied ((DmPath.eq_of rfl hm : s = ⟨s.object, some m⟩) ▸ hallowed)
    exact ⟨fun h => absurd h.2.2.1 (hnot h.2.1), fun h => absurd h.2.2.1 (hnot h.2.1)⟩

/-- Two states with two aliases of an instance whose Alias is denied. -/
theorem sameForAcs_aliasDevice {b : String} (hne : s ≠ ⟨q, some "Alias"⟩)
    (hdenied : ¬env.amxaIsGetAllowed ⟨q, some "Alias"⟩ = true) :
    SameForAcs env (aliasDevice s hconcrete q a) (aliasDevice s hconcrete q b) where
  object := fun _ _ => mem_keys_chainObjects.trans mem_keys_chainObjects.symm
  value := fun p m hallowed => by
    refine Option.ext fun w => ?_
    rw [value_aliasDevice hne, value_aliasDevice hne]
    have hnot : p = q → m ≠ "Alias" := by
      rintro rfl rfl
      exact hdenied hallowed
    refine and_congr_right fun _ => or_congr_left ?_
    exact ⟨fun h => absurd h.2.1 (hnot h.1), fun h => absurd h.2.1 (hnot h.1)⟩

/-- In these states, the names are the paths. -/
theorem returnedName_supportDevice {p : DmPath} (hunder : Under path p.object) :
    returnedName env (supportDevice s hconcrete "") path p = p := by
  refine returnedName_self hunder fun r k b _ _ hb => ?_
  obtain ⟨w, hw, rfl⟩ := Option.map_eq_some_iff.mp hb
  rw [(value_supportDevice.mp hw).2.2.2]

theorem returnedName_aliasDevice {p : DmPath} (hne : s ≠ ⟨q, some "Alias"⟩)
    (hunder : Under path p.object) :
    returnedName env (aliasDevice s hconcrete q "") path p = p := by
  refine returnedName_self hunder fun r k b _ _ hb => ?_
  obtain ⟨w, hw, rfl⟩ := Option.map_eq_some_iff.mp hb
  rcases ((value_aliasDevice hne).mp hw).2 with ⟨-, -, rfl⟩ | ⟨-, -, rfl⟩ <;> rfl

/-- An alias that is denied stands in the names of what is behind its instance. -/
theorem aliased_mem_aliasDevice {p : DmPath} {k : ℕ} (hmode : env.instanceAlias = true)
    (hfixed : fixedPart path.object <+: q) (hpre : q ++ [.index k] <+: p.object)
    (hobject : q ++ [.index k] <+: s.object) (hne : s ≠ ⟨q ++ [.index k], some "Alias"⟩)
    (ha : a ≠ "") :
    Component.aliased a ∈
      (returnedName env (aliasDevice s hconcrete (q ++ [.index k]) a) path p).object := by
  refine aliased_mem_returnedName hmode hfixed hpre ?_ ha
  have hvalue : (aliasDevice s hconcrete (q ++ [.index k]) a).objects.value (q ++ [.index k])
      "Alias" = some ⟨.cstring, a⟩ :=
    (value_aliasDevice hne).mpr ⟨⟨hobject, by simp⟩, Or.inl ⟨rfl, rfl, rfl⟩⟩
  rw [Objects.aliasOf, hvalue, Option.map_some]

end Chain

end Tr069.Parameters
