import Tr069Manager.Parameters.HashOrder

/-!
# Data of the supported data model that is shared

`DM_ENG_Device_GPV` fetches the data for all of its paths into one variable. A request is
remembered there, by the supported path and the level, before the access rules and the bus are
asked, and a second one with the same key does nothing; what a request is answered is put to what
is there, and of the same thing the first one stays.

The supported data model is one for all calls, as the bus has it and as the access rules leave
it, and a call that is answered gets a part of it (`SupportedModel`): at least the object of the
path, or that of its instances, and the objects in it. A call can be denied, and the bus can fail
(`GsdmCall`). What is in the data after any calls is what the calls that were answered have given
(`remembers_after`), and for one call on new data it is what `getGsdmData` makes
(`fetched_getGsdmDataIn_new`).

In a list of calls the last one is the first.
-/

namespace Tr069.Parameters

/-! ### The data -/

/-- What the data has of an object: of `writable` and `parameters` the first ones that are
added. -/
structure GsdmEntry where
  writable : Option Bool
  objects : List String
  parameters : Option (String → Option GsdmParameter)

/-- The data: what has been requested, and what there is. -/
structure GsdmData where
  request : List (SupportedPath × Bool)
  response : Table SupportedPath GsdmEntry

/-- The data that is new. -/
def GsdmData.new : GsdmData := ⟨[], Table.empty⟩

namespace GsdmEntry

/-- An object without anything. -/
def new : GsdmEntry := ⟨none, [], none⟩

/-- What is seen of an object. -/
def info (entry : GsdmEntry) : GsdmInfo :=
  ⟨entry.writable, entry.objects, entry.parameters.getD fun _ => none⟩

/-- What an object of an answer adds. -/
def add (entry : GsdmEntry) (v : GsdmObject) : GsdmEntry :=
  { entry with
    writable := entry.writable.or (v.access.map fun access => access ≠ 0)
    parameters := entry.parameters.or
      (if v.supportedParams.isEmpty then none else some v.parameters) }

/-- An object in it is added. -/
def addObject (template : String) (entry : GsdmEntry) : GsdmEntry :=
  if template ∈ entry.objects then entry
  else { entry with objects := entry.objects ++ [template] }

end GsdmEntry

/-- The loop of `DM_ENG_Device_Common_Get_Gsdm_data` on a key, with what is there already. -/
def addKeyTo (parameterName : DmPath) (gsdm : GsdmResponse)
    (response : Table SupportedPath GsdmEntry) (key : SupportedPath) :
    Table SupportedPath GsdmEntry :=
  match gsdm.find key with
  | none => response
  | some v =>
    let response := response.put key (((response.find key).getD .new).add v)
    match parentAndTemplate parameterName key v with
    | none => response
    | some (parentPath, template) => response.modify parentPath (.addObject template)

/-- The object of a key is in the one of another. -/
def IsChild (gsdm : GsdmResponse) (key : SupportedPath) (template : String) : Prop :=
  ∃ key' v, gsdm.find key' = some v ∧
    if v.isMultiInstance then ∃ part, key' = key ++ [template, part] else key' = key ++ [template]

/-- The supported data model, and what of it the bus gives for a path, on the first level only or
of all levels. The object of a table has `{i}` at the end. -/
structure SupportedModel where
  objects : GsdmResponse
  getSupported : SupportedPath → Bool → GsdmResponse
  find_objects : ∀ {path firstLevel key v}, (getSupported path firstLevel).find key = some v →
    objects.find key = some v
  own : ∀ {path firstLevel key}, key = path ∨ key = path ++ [instancePart] →
    key ∈ objects.keys → key ∈ (getSupported path firstLevel).keys
  inOwn : ∀ {path firstLevel key key' template v}, key = path ∨ key = path ++ [instancePart] →
    key ∈ objects.keys → objects.find key' = some v →
    (if v.isMultiInstance then ∃ part, key' = key ++ [template, part]
      else key' = key ++ [template]) → key' ∈ (getSupported path firstLevel).keys
  table : ∀ path, path ∈ objects.keys → path ++ [instancePart] ∉ objects.keys

/-- A call: whether it is allowed at that moment, and whether the bus answers. -/
structure GsdmCall where
  parameterName : DmPath
  nextlevel : Bool
  allowed : Bool
  answered : Bool

/-- What a request is remembered by. -/
def GsdmCall.request (c : GsdmCall) : SupportedPath × Bool :=
  (supportedKey c.parameterName.object, c.nextlevel || c.parameterName.isParameterPath)

/-- `DM_AmxParameter_GetGsdmInfo`. -/
def GsdmData.getGsdmInfo (data : GsdmData) (object : List Component) : Option GsdmInfo :=
  if object = [] then none
  else ((data.response.find (supportedKey object)).or
    (data.response.find (supportedKey object ++ [instancePart]))).map GsdmEntry.info

namespace SupportedModel

variable (M : SupportedModel)

/-- What the bus gives for a call, if it answers. -/
def answer (c : GsdmCall) : GsdmResponse := M.getSupported c.request.1 c.request.2

/-- `DM_ENG_Device_Common_Get_Gsdm_data`. -/
def getGsdmDataIn (c : GsdmCall) (data : GsdmData) : Int × GsdmData :=
  if c.parameterName.object = [] then (0, data)
  else if c.request ∈ data.request then (0, data)
  else
    let data := { data with request := data.request ++ [c.request] }
    if !c.allowed then (invalidParameterName, data)
    else if !c.answered then (0, data)
    else (0, { data with response :=
      (sortedKeys (M.answer c)).foldl (addKeyTo c.parameterName (M.answer c)) data.response })

/-- The data after some calls. -/
def after : List GsdmCall → GsdmData
  | [] => .new
  | c :: h => (M.getGsdmDataIn c (after h)).2

end SupportedModel

/-! ### What the calls have given -/

namespace GsdmCall

/-- The same has been requested before. -/
def Asked (h : List GsdmCall) (c : GsdmCall) : Prop :=
  ∃ e ∈ h, e.parameterName.object ≠ [] ∧ e.request = c.request

/-- The bus is asked, and answers. -/
structure Fetches (h : List GsdmCall) (c : GsdmCall) : Prop where
  named : c.parameterName.object ≠ []
  new : ¬c.Asked h
  allowed : c.allowed = true
  answered : c.answered = true

end GsdmCall

variable (M : SupportedModel)

/-- One of the calls has given the object. -/
def Given : List GsdmCall → SupportedPath → Prop
  | [], _ => False
  | c :: h, key => Given h key ∨ (c.Fetches h ∧ key ∈ (M.answer c).keys)

/-- One of the calls has given an object in another, which has been given as well. -/
def GivenIn : List GsdmCall → SupportedPath → String → Prop
  | [], _, _ => False
  | c :: h, key, template => GivenIn h key template ∨ (c.Fetches h ∧ Given M (c :: h) key ∧
      ∃ key' v, (M.answer c).find key' = some v ∧
        parentAndTemplate c.parameterName key' v = some (key, template))

/-- The entry has what the object has itself. -/
structure GsdmEntry.Holds (entry : GsdmEntry) (v : GsdmObject) : Prop where
  writable : entry.writable = v.access.map fun access => decide (access ≠ 0)
  parameters : entry.parameters.getD (fun _ => none) = v.parameters

/-- **What the data has after some calls**: their requests, and what they have given. -/
structure Remembers (h : List GsdmCall) (data : GsdmData) : Prop where
  request : ∀ key, key ∈ data.request ↔ ∃ e ∈ h, e.parameterName.object ≠ [] ∧ e.request = key
  keys : ∀ key, key ∈ data.response.keys ↔ Given M h key
  entry : ∀ key entry, data.response.find key = some entry → ∃ v, M.objects.find key = some v ∧
    entry.Holds v ∧ ∀ template, template ∈ entry.objects ↔ GivenIn M h key template

/-! ### An answer that is put to what there is -/

section Loop

variable {path : DmPath} {objects gsdm : GsdmResponse} {v : GsdmObject}
  {response₀ response : Table SupportedPath GsdmEntry} {done : List SupportedPath}
  {key parentPath : SupportedPath} {template : String} {entry : GsdmEntry}

theorem GsdmObject.parameters_of_isEmpty (h : v.supportedParams.isEmpty = true) :
    v.parameters = fun _ => none := by
  funext name
  rw [GsdmObject.parameters, List.isEmpty_iff.mp h]
  rfl

/-- **Of the same object the first one stays**, and it is the same. -/
theorem GsdmEntry.Holds.add (h : entry.Holds v) : (entry.add v).Holds v := by
  refine ⟨?_, ?_⟩
  · have hwritable : (entry.add v).writable =
        entry.writable.or (v.access.map fun access => decide (access ≠ 0)) := rfl
    rw [hwritable, h.writable, Option.or_self]
  · have hparameters := h.parameters
    rcases hentry : entry.parameters with - | parameters
    · rw [hentry] at hparameters
      rw [GsdmEntry.add, hentry]
      by_cases hempty : v.supportedParams.isEmpty = true
      · rw [if_pos hempty]
        exact hparameters
      · rw [if_neg hempty]
        rfl
    · rw [hentry] at hparameters
      rw [GsdmEntry.add, hentry]
      exact hparameters

theorem GsdmEntry.holds_new_add : (GsdmEntry.new.add v).Holds v := by
  refine ⟨rfl, ?_⟩
  have hparameters : (GsdmEntry.new.add v).parameters =
      if v.supportedParams.isEmpty then none else some v.parameters := rfl
  rw [hparameters]
  split
  · next hempty => exact (GsdmObject.parameters_of_isEmpty hempty).symm
  · rfl

/-- What the loop has made of a key: its object, with what there was and what it adds. -/
theorem find_addKeyTo (hv : gsdm.find key = some v) {k : SupportedPath}
    (h : (addKeyTo path gsdm response key).find k = some entry) :
    ∃ entry', (response.put key (((response.find key).getD .new).add v)).find k = some entry' ∧
      entry.writable = entry'.writable ∧ entry.parameters = entry'.parameters ∧
      ∀ child, child ∈ entry.objects ↔
        child ∈ entry'.objects ∨ parentAndTemplate path key v = some (k, child) := by
  rw [addKeyTo, hv] at h
  dsimp only at h
  rcases hadded : parentAndTemplate path key v with - | ⟨parentPath, template⟩
  · rw [hadded] at h
    exact ⟨entry, h, rfl, rfl, fun child => (or_iff_left (Option.some_ne_none _).symm).symm⟩
  · rw [hadded] at h
    by_cases hk : k = parentPath
    · subst hk
      rw [Table.find_modify_self] at h
      obtain ⟨entry', hentry', rfl⟩ := Option.map_eq_some_iff.mp h
      refine ⟨entry', hentry', ?_⟩
      rw [GsdmEntry.addObject]
      by_cases hmem : template ∈ entry'.objects
      · rw [if_pos hmem]
        refine ⟨rfl, rfl, fun child => (or_iff_left_of_imp fun heq => ?_).symm⟩
        obtain ⟨-, rfl⟩ := Prod.mk.inj (Option.some.inj heq)
        exact hmem
      · rw [if_neg hmem]
        refine ⟨rfl, rfl, fun child => ?_⟩
        rw [List.mem_append, List.mem_singleton, Option.some_inj, Prod.mk.injEq,
          and_iff_right rfl, eq_comm]
    · rw [Table.find_modify_ne hk] at h
      refine ⟨entry, h, rfl, rfl, fun child => (or_iff_left_of_imp fun heq => ?_).symm⟩
      exact absurd (Prod.mk.inj (Option.some.inj heq)).1.symm hk

theorem mem_keys_addKeyTo (hv : gsdm.find key = some v) {k : SupportedPath} :
    k ∈ (addKeyTo path gsdm response key).keys ↔ k ∈ response.keys ∨ k = key := by
  have hput : ∀ entry, k ∈ (response.put key entry).keys ↔ k ∈ response.keys ∨ k = key := by
    intro entry
    rw [Table.keys_put]
    split
    · next hmem => exact (or_iff_left_of_imp fun heq => heq ▸ hmem).symm
    · rw [List.mem_append, List.mem_singleton]
  rw [addKeyTo, hv]
  dsimp only
  rcases parentAndTemplate path key v with - | ⟨parentPath, template⟩
  · exact hput _
  · dsimp only
    rw [Table.keys_modify]
    exact hput _

/-- What the keys up to now have made of what there was. -/
structure Merged (objects : GsdmResponse) (path : DmPath) (gsdm : GsdmResponse)
    (response₀ : Table SupportedPath GsdmEntry) (done : List SupportedPath)
    (response : Table SupportedPath GsdmEntry) : Prop where
  mem_keys : ∀ key, key ∈ response.keys ↔ key ∈ response₀.keys ∨ key ∈ done
  entry : ∀ key entry, response.find key = some entry → ∃ v, objects.find key = some v ∧
    entry.Holds v ∧ ∀ template, template ∈ entry.objects ↔
      (∃ entry₀, response₀.find key = some entry₀ ∧ template ∈ entry₀.objects) ∨
      ∃ key' ∈ done, ∃ v, gsdm.find key' = some v ∧
        parentAndTemplate path key' v = some (key, template)

/-- **A key is put to what there is**, and to the object it is in. -/
theorem Merged.concat (h : Merged objects path gsdm response₀ done response)
    (hobjects : ∀ key v, gsdm.find key = some v → objects.find key = some v)
    (hv : gsdm.find key = some v) (horder : ∀ key' ∈ done, keyText key' ≤ keyText key) :
    Merged objects path gsdm response₀ (done ++ [key]) (addKeyTo path gsdm response key) := by
  refine ⟨fun k => ?_, fun k entry hentry => ?_⟩
  · rw [mem_keys_addKeyTo hv, h.mem_keys, List.mem_append, List.mem_singleton, or_assoc]
  · obtain ⟨entry', hentry', hwritable, hparameters, hin⟩ := find_addKeyTo hv hentry
    -- what the key itself adds
    have hsplit : ∀ child, (∃ key' ∈ done ++ [key], ∃ w, gsdm.find key' = some w ∧
        parentAndTemplate path key' w = some (k, child)) ↔
          (∃ key' ∈ done, ∃ w, gsdm.find key' = some w ∧
            parentAndTemplate path key' w = some (k, child)) ∨
          parentAndTemplate path key v = some (k, child) := by
      intro child
      have hself : (∃ w, gsdm.find key = some w ∧
          parentAndTemplate path key w = some (k, child)) ↔
            parentAndTemplate path key v = some (k, child) := by
        simp [hv]
      rw [← hself]
      simp only [List.mem_append, List.mem_singleton, or_and_right, exists_or, exists_eq_left]
    have hprevious : ∃ w, objects.find k = some w ∧ entry'.Holds w ∧
        ∀ child, child ∈ entry'.objects ↔
          (∃ entry₀, response₀.find k = some entry₀ ∧ child ∈ entry₀.objects) ∨
          ∃ key' ∈ done, ∃ w, gsdm.find key' = some w ∧
            parentAndTemplate path key' w = some (k, child) := by
      by_cases hk : k = key
      · subst hk
        rw [Table.find_put_self, Option.some_inj] at hentry'
        subst hentry'
        rcases hfind : response.find k with - | previous
        · refine ⟨v, hobjects k v hv, GsdmEntry.holds_new_add, fun child => ?_⟩
          -- nothing is in the new object yet: what is in it has a greater text
          refine iff_of_false List.not_mem_nil ?_
          rintro (⟨entry₀, hentry₀, -⟩ | ⟨key', hkey', w, -, hadded⟩)
          · have hmem := (h.mem_keys k).mpr (Or.inl (Table.mem_keys.mpr ⟨entry₀, hentry₀⟩))
            exact Table.find_eq_none.mp hfind hmem
          · exact not_keyText_le hadded (horder key' hkey')
        · obtain ⟨w, hw, hholds, hchildren⟩ := h.entry k previous hfind
          obtain rfl : v = w := Option.some.inj ((hobjects k v hv).symm.trans hw)
          exact ⟨v, hw, hholds.add, hchildren⟩
      · rw [Table.find_put_ne hk] at hentry'
        exact h.entry k entry' hentry'
    obtain ⟨w, hw, hholds, hchildren⟩ := hprevious
    refine ⟨w, hw, ⟨hwritable.trans hholds.writable, ?_⟩, fun child => ?_⟩
    · rw [hparameters, hholds.parameters]
    · rw [hin, hchildren, hsplit, or_assoc]

theorem merged_foldl (hobjects : ∀ key v, gsdm.find key = some v → objects.find key = some v)
    (hold : ∀ key entry, response₀.find key = some entry →
      ∃ v, objects.find key = some v ∧ entry.Holds v)
    (hfind : ∀ key ∈ done, ∃ v, gsdm.find key = some v)
    (horder : done.Pairwise fun a b => keyText a ≤ keyText b) :
    Merged objects path gsdm response₀ done (done.foldl (addKeyTo path gsdm) response₀) := by
  induction done using List.reverseRecOn with
  | nil =>
    refine ⟨fun key => (or_iff_left List.not_mem_nil).symm, fun key entry hentry => ?_⟩
    obtain ⟨v, hv, hholds⟩ := hold key entry hentry
    refine ⟨v, hv, hholds, fun template => ?_⟩
    constructor
    · exact fun hmem => Or.inl ⟨entry, hentry, hmem⟩
    · rintro (⟨entry₀, hentry₀, hmem⟩ | ⟨key', hkey', -⟩)
      · obtain rfl := Option.some.inj (hentry.symm.trans hentry₀)
        exact hmem
      · exact absurd hkey' List.not_mem_nil
  | append_singleton done key ih =>
    rw [List.foldl_append, List.foldl_cons, List.foldl_nil]
    obtain ⟨v, hv⟩ := hfind key (by simp)
    obtain ⟨hdone, -, hcross⟩ := List.pairwise_append.mp horder
    refine (ih (fun key' hkey' => hfind key' (List.mem_append_left _ hkey')) hdone).concat
      hobjects hv fun key' hkey' => hcross key' hkey' key (List.mem_singleton_self _)

theorem fetched_new (hobjects : ∀ key ∈ done, ∃ v, gsdm.find key = some v)
    (horder : done.Pairwise fun a b => keyText a ≤ keyText b) :
    Fetched path gsdm done
      ((done.foldl (addKeyTo path gsdm) Table.empty).mapValues GsdmEntry.info) := by
  have hnone : ∀ key entry, (Table.empty : Table SupportedPath GsdmEntry).find key ≠ some entry :=
    fun _ _ => (Option.some_ne_none _).symm
  have h := @merged_foldl path gsdm gsdm Table.empty done (fun _ _ hv => hv)
    (fun key entry hentry => absurd hentry (hnone key entry)) hobjects horder
  refine ⟨fun key => ?_, fun key info hinfo => ?_, fun key info hinfo child => ?_⟩
  · have hkeys : (∃ info, ((done.foldl (addKeyTo path gsdm) Table.empty).find key).map
        GsdmEntry.info = some info) ↔
          key ∈ (done.foldl (addKeyTo path gsdm) Table.empty).keys := by
      rw [Table.mem_keys]
      simp only [Option.map_eq_some_iff]
      constructor
      · rintro ⟨-, entry, hentry, -⟩
        exact ⟨entry, hentry⟩
      · rintro ⟨entry, hentry⟩
        exact ⟨entry.info, entry, hentry, rfl⟩
    rw [Table.mem_keys, Table.find_mapValues, hkeys, h.mem_keys]
    exact or_iff_right List.not_mem_nil
  · rw [Table.find_mapValues] at hinfo
    obtain ⟨entry, hentry, rfl⟩ := Option.map_eq_some_iff.mp hinfo
    obtain ⟨v, hv, hholds, -⟩ := h.entry key entry hentry
    exact ⟨v, hv, hholds.writable, hholds.parameters⟩
  · rw [Table.find_mapValues] at hinfo
    obtain ⟨entry, hentry, rfl⟩ := Option.map_eq_some_iff.mp hinfo
    obtain ⟨v, -, -, hchildren⟩ := h.entry key entry hentry
    refine (hchildren child).trans (or_iff_right ?_)
    rintro ⟨entry₀, hentry₀, -⟩
    exact hnone key entry₀ hentry₀

end Loop

/-! ### A call -/

section Call

variable {M} {c : GsdmCall} {h : List GsdmCall} {data : GsdmData} {key : SupportedPath}

/-- The error is the one of a call that is denied, which has not been requested before. -/
theorem error_getGsdmDataIn : (M.getGsdmDataIn c data).1 =
    if c.parameterName.object ≠ [] ∧ c.request ∉ data.request ∧ c.allowed = false then
      invalidParameterName
    else 0 := by
  rw [SupportedModel.getGsdmDataIn]
  by_cases hnamed : c.parameterName.object = []
  · rw [if_pos hnamed, if_neg fun h => h.1 hnamed]
  · by_cases hrequest : c.request ∈ data.request
    · rw [if_neg hnamed, if_pos hrequest, if_neg fun h => h.2.1 hrequest]
    · rw [if_neg hnamed, if_neg hrequest]
      cases hallowed : c.allowed with
      | false => exact (if_pos ⟨hnamed, hrequest, rfl⟩).symm
      | true =>
        have hdenied : ¬(c.parameterName.object ≠ [] ∧ c.request ∉ data.request ∧
            true = false) := fun h => Bool.noConfusion h.2.2
        rw [if_neg hdenied]
        cases c.answered <;> rfl

/-- **Whatever comes of it, a request is remembered.** -/
theorem mem_request_getGsdmDataIn {r : SupportedPath × Bool} :
    r ∈ (M.getGsdmDataIn c data).2.request ↔
      r ∈ data.request ∨ (c.parameterName.object ≠ [] ∧ c.request = r) := by
  rw [SupportedModel.getGsdmDataIn]
  split
  · next hnamed => exact (or_iff_left fun h => h.1 hnamed).symm
  · next hnamed =>
    split
    · next hrequest => exact (or_iff_left_of_imp fun h => h.2 ▸ hrequest).symm
    · have hput : r ∈ data.request ++ [c.request] ↔
          r ∈ data.request ∨ (c.parameterName.object ≠ [] ∧ c.request = r) := by
        rw [List.mem_append, List.mem_singleton, and_iff_right hnamed, eq_comm]
      cases c.allowed with
      | false => exact hput
      | true => cases c.answered <;> exact hput

theorem response_getGsdmDataIn (hnamed : c.parameterName.object ≠ [])
    (hrequest : c.request ∉ data.request) (hallowed : c.allowed = true)
    (hanswered : c.answered = true) : (M.getGsdmDataIn c data).2.response =
      (sortedKeys (M.answer c)).foldl (addKeyTo c.parameterName (M.answer c)) data.response := by
  rw [SupportedModel.getGsdmDataIn, if_neg hnamed, if_neg hrequest, hallowed, hanswered]
  rfl

theorem response_getGsdmDataIn_of_not (h : ¬(c.parameterName.object ≠ [] ∧
    c.request ∉ data.request ∧ c.allowed = true ∧ c.answered = true)) :
    (M.getGsdmDataIn c data).2.response = data.response := by
  rw [SupportedModel.getGsdmDataIn]
  split
  · rfl
  · next hnamed =>
    split
    · rfl
    · next hrequest =>
      cases hallowed : c.allowed with
      | false => rfl
      | true =>
        cases hanswered : c.answered with
        | false => rfl
        | true => exact absurd ⟨hnamed, hrequest, hallowed, hanswered⟩ h

/-- The bus is asked and answers, in terms of the data. -/
theorem Remembers.fetches_iff (hdata : Remembers M h data) : c.Fetches h ↔
    c.parameterName.object ≠ [] ∧ c.request ∉ data.request ∧ c.allowed = true ∧
      c.answered = true := by
  rw [hdata.request]
  exact ⟨fun h => ⟨h.named, h.new, h.allowed, h.answered⟩, fun h => ⟨h.1, h.2.1, h.2.2.1, h.2.2.2⟩⟩

theorem GivenIn.given {template : String} (hin : GivenIn M h key template) : Given M h key := by
  induction h with
  | nil => exact hin
  | cons c h ih =>
    rcases hin with hbefore | hnow
    · exact Or.inl (ih hbefore)
    · exact hnow.2.1

/-- **One call**: its request is remembered, and what it is answered is put to what there is. -/
theorem Remembers.cons (hdata : Remembers M h data) (c : GsdmCall) :
    Remembers M (c :: h) (M.getGsdmDataIn c data).2 := by
  have hrequest : ∀ r, r ∈ (M.getGsdmDataIn c data).2.request ↔
      ∃ e ∈ c :: h, e.parameterName.object ≠ [] ∧ e.request = r := by
    intro r
    rw [mem_request_getGsdmDataIn, hdata.request, or_comm]
    simp only [List.mem_cons, or_and_right, exists_or, exists_eq_left]
  by_cases hfetches : c.Fetches h
  · obtain ⟨hnamed, hnew, hallowed, hanswered⟩ := hdata.fetches_iff.mp hfetches
    have hmerged := @merged_foldl c.parameterName M.objects (M.answer c) data.response
      (sortedKeys (M.answer c)) (fun _ _ => M.find_objects)
      (fun key entry hentry => by
        obtain ⟨v, hv, hholds, -⟩ := hdata.entry key entry hentry
        exact ⟨v, hv, hholds⟩)
      (fun key hkey => Table.mem_keys.mp (mem_sortedKeys.mp hkey)) sortedKeys_pairwise
    have hresponse := @response_getGsdmDataIn M c data hnamed hnew hallowed hanswered
    have hkeys : ∀ key, key ∈ (M.getGsdmDataIn c data).2.response.keys ↔
        Given M (c :: h) key := by
      intro key
      rw [hresponse, hmerged.mem_keys, hdata.keys, mem_sortedKeys, Given]
      exact or_congr Iff.rfl (and_iff_right hfetches).symm
    refine ⟨hrequest, hkeys, fun key entry hentry => ?_⟩
    have hgiven := (hkeys key).mp (Table.mem_keys.mpr ⟨entry, hentry⟩)
    rw [hresponse] at hentry
    obtain ⟨v, hv, hholds, hchildren⟩ := hmerged.entry key entry hentry
    refine ⟨v, hv, hholds, fun template => (hchildren template).trans (or_congr ?_ ?_)⟩
    · constructor
      · rintro ⟨entry₀, hentry₀, hmem⟩
        obtain ⟨-, -, -, hchildren₀⟩ := hdata.entry key entry₀ hentry₀
        exact (hchildren₀ template).mp hmem
      · intro hin
        obtain ⟨entry₀, hentry₀⟩ := Table.mem_keys.mp ((hdata.keys key).mpr hin.given)
        obtain ⟨-, -, -, hchildren₀⟩ := hdata.entry key entry₀ hentry₀
        exact ⟨entry₀, hentry₀, (hchildren₀ template).mpr hin⟩
    · constructor
      · rintro ⟨key', -, w, hw, hadded⟩
        exact ⟨hfetches, hgiven, key', w, hw, hadded⟩
      · rintro ⟨-, -, key', w, hw, hadded⟩
        exact ⟨key', mem_sortedKeys.mpr (Table.mem_keys.mpr ⟨w, hw⟩), w, hw, hadded⟩
  · have hresponse := @response_getGsdmDataIn_of_not M c data
      fun hnot => hfetches (hdata.fetches_iff.mpr hnot)
    have hgiven : ∀ key, Given M (c :: h) key ↔ Given M h key := fun key =>
      or_iff_left fun hnow => hfetches hnow.1
    refine ⟨hrequest, fun key => ?_, fun key entry hentry => ?_⟩
    · rw [hresponse, hdata.keys, hgiven]
    · rw [hresponse] at hentry
      obtain ⟨v, hv, hholds, hchildren⟩ := hdata.entry key entry hentry
      exact ⟨v, hv, hholds, fun template => (hchildren template).trans
        (or_iff_left fun hnow => hfetches hnow.1).symm⟩

variable (M) in
theorem remembers_after (h : List GsdmCall) : Remembers M h (M.after h) := by
  induction h with
  | nil =>
    refine ⟨fun r => ?_, fun key => iff_of_false List.not_mem_nil id, fun key entry hentry => ?_⟩
    · exact iff_of_false List.not_mem_nil fun ⟨_, hmem, _⟩ => absurd hmem List.not_mem_nil
    · exact absurd hentry (Option.some_ne_none _).symm
  | cons c h ih => exact ih.cons c

/-- **New data is that of one call.** -/
theorem fetched_getGsdmDataIn_new (hfetches : c.Fetches []) :
    Fetched c.parameterName (M.answer c) (sortedKeys (M.answer c))
      ((M.getGsdmDataIn c .new).2.response.mapValues GsdmEntry.info) := by
  rw [response_getGsdmDataIn hfetches.named List.not_mem_nil hfetches.allowed hfetches.answered]
  exact fetched_new (fun key hkey => Table.mem_keys.mp (mem_sortedKeys.mp hkey))
    sortedKeys_pairwise

end Call

end Tr069.Parameters
