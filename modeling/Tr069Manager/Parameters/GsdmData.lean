import Mathlib.Data.List.Sort
import Tr069Manager.Parameters.AnsweredNames

/-!
# The data of the supported data model

`DM_ENG_Device_Common_Get_Gsdm_data` asks the bus for the supported objects of a path and makes
a table of them: for each object whether it can be written, its parameters, and the objects in
it (`DM_AmxCommon.c`). An object is added to the one it is in, which is the path without the
last component – for a table, without its instance as well –, provided that one is in the table
already. The keys are gone through in the order of their texts, and so an object comes before
what is in it (`fetched_foldl`).

A request for names has no data of its own to add to, so the table is a new one. In the path of
a supported object `{i}` stands for an instance.
-/

namespace Tr069.Parameters

/-! ### The source -/

/-- The components of the path of a supported object. -/
abbrev SupportedPath := List String

/-- What stands for an instance. -/
def instancePart : String := "\x7bi\x7d"

/-- A parameter of the answer to `amxb_get_supported`. -/
structure GsdmParam where
  paramName : String
  type : AmxcVarId
  access : ℤ

/-- An object of the answer to `amxb_get_supported`. -/
structure GsdmObject where
  access : Option ℤ
  isMultiInstance : Bool
  supportedParams : List GsdmParam

/-- The answer to `amxb_get_supported`. -/
abbrev GsdmResponse := Table SupportedPath GsdmObject

/-- The `Response` of the data. -/
abbrev GsdmTable := Table SupportedPath GsdmInfo

/-- The text of a path. -/
def keyText (key : SupportedPath) : CString := key.flatMap fun part => part.toList ++ ['.']

/-- `amxc_htable_get_sorted_keys`. -/
def sortedKeys (gsdm : GsdmResponse) : List SupportedPath :=
  gsdm.keys.insertionSort fun a b => keyText a ≤ keyText b

/-- `amxd_path_get_last`, which takes the last component out of the path. -/
def getLast (path : SupportedPath) : Option (SupportedPath × String) :=
  path.getLast?.map fun part => (path.dropLast, part)

/-- The parameters of an object: of two with one name the first counts. -/
def GsdmObject.parameters (v : GsdmObject) (name : String) : Option GsdmParameter :=
  (v.supportedParams.find? fun p => p.paramName ≠ "" ∧ p.paramName = name).map fun p =>
    ⟨p.type, p.access = 1⟩

/-- The parent of the object of a key, and what is added to it. -/
def parentAndTemplate (parameterName : DmPath) (key : SupportedPath) (v : GsdmObject) :
    Option (SupportedPath × String) :=
  if parameterName.isParameterPath then none
  else if v.isMultiInstance then
    -- take out the second last element
    (getLast key).bind fun (path, _) => getLast path
  else if parameterName.isPartial ∧ parameterName.object.map Component.text = key then none
  else getLast key

/-- `DM_ENG_Device_Common_Add_Object_To_Parent`. -/
def addObjectToParent (response : GsdmTable) (parentPath : SupportedPath) (template : String) :
    GsdmTable :=
  response.modify parentPath fun parent =>
    if template ∈ parent.objects then parent
    else { parent with objects := parent.objects ++ [template] }

/-- The loop of `DM_ENG_Device_Common_Get_Gsdm_data` on a key. -/
def addKey (parameterName : DmPath) (gsdm : GsdmResponse) (response : GsdmTable)
    (key : SupportedPath) : GsdmTable :=
  match gsdm.find key with
  | none => response
  | some v =>
    -- the parent is another object, so that the parameters may be there before it is told
    let response := response.put key
      { writable := v.access.map fun access => access ≠ 0
        objects := []
        parameters := v.parameters }
    match parentAndTemplate parameterName key v with
    | none => response
    | some (parentPath, template) => addObjectToParent response parentPath template

/-- What the names of a request are made from, but for what a `ReadEnv` has: the answer to
`amxb_get_supported` for a path, of which only the first level may be asked for, what the access
rules leave of it, and the Alias of an instance. -/
structure SupportedBus where
  amxbGetSupported : DmPath → Bool → Option GsdmResponse
  amxaFilterGetResp : GsdmResponse → GsdmResponse
  aliasOf : List Component → Option String

/-- The answer that is gone through: nothing if the request fails. -/
def SupportedBus.response (bus : SupportedBus) (parameterName : DmPath) (nextlevel : Bool) :
    GsdmResponse :=
  match bus.amxbGetSupported parameterName (nextlevel || parameterName.isParameterPath) with
  | none => Table.empty
  | some gsdm => bus.amxaFilterGetResp gsdm

/-- `DM_ENG_Device_Common_Get_Gsdm_data`: the error, and the data. -/
def getGsdmData (env : ReadEnv) (bus : SupportedBus) (parameterName : DmPath)
    (nextlevel : Bool) : Int × GsdmTable :=
  if env.amxaIsGetAllowed parameterName then
    let gsdm := bus.response parameterName nextlevel
    (0, (sortedKeys gsdm).foldl (addKey parameterName gsdm) Table.empty)
  else (invalidParameterName, Table.empty)

/-! ### An object and its parent -/

variable {path : DmPath} {gsdm : GsdmResponse} {response : GsdmTable} {v : GsdmObject}
  {key parentPath : SupportedPath} {part template : String} {done : List SupportedPath}

theorem getLast_eq_some : getLast key = some (parentPath, part) ↔ key = parentPath ++ [part] := by
  rw [getLast, Option.map_eq_some_iff]
  constructor
  · rintro ⟨last, hlast, heq⟩
    obtain ⟨init, rfl⟩ := List.getLast?_eq_some_iff.mp hlast
    rw [List.dropLast_concat] at heq
    cases heq
    rfl
  · rintro rfl
    exact ⟨part, List.getLast?_concat, by rw [List.dropLast_concat]⟩

/-- **What is added to which object**: the last component of the path to the ones before it, or
for a table the one before its instance. -/
theorem parentAndTemplate_eq_some :
    parentAndTemplate path key v = some (parentPath, template) ↔
      ¬path.isParameterPath = true ∧
        if v.isMultiInstance then ∃ part, key = parentPath ++ [template, part]
        else ¬(path.isPartial = true ∧ path.object.map Component.text = key) ∧
          key = parentPath ++ [template] := by
  rw [parentAndTemplate]
  by_cases hpath : path.isParameterPath = true
  · rw [if_pos hpath]
    exact iff_of_false (Option.some_ne_none _).symm fun h => h.1 hpath
  · rw [if_neg hpath, and_iff_right hpath]
    by_cases hmulti : v.isMultiInstance = true
    · rw [if_pos hmulti, if_pos hmulti, Option.bind_eq_some_iff]
      constructor
      · rintro ⟨⟨table, part⟩, hkey, htable⟩
        rw [getLast_eq_some] at hkey htable
        exact ⟨part, by rw [hkey, htable, List.append_assoc, List.singleton_append]⟩
      · rintro ⟨part, rfl⟩
        refine ⟨(parentPath ++ [template], part), getLast_eq_some.mpr ?_, getLast_eq_some.mpr rfl⟩
        rw [List.append_assoc, List.singleton_append]
    · rw [if_neg hmulti, if_neg hmulti]
      by_cases hself : path.isPartial = true ∧ path.object.map Component.text = key
      · rw [if_pos hself]
        exact iff_of_false (Option.some_ne_none _).symm fun h => h.1 hself
      · rw [if_neg hself, and_iff_right hself, getLast_eq_some]

/-- The parent stands at the beginning of the path. -/
theorem exists_of_parentAndTemplate
    (h : parentAndTemplate path key v = some (parentPath, template)) :
    ∃ rest, rest ≠ [] ∧ key = parentPath ++ rest := by
  obtain ⟨-, h⟩ := parentAndTemplate_eq_some.mp h
  split_ifs at h
  · obtain ⟨part, rfl⟩ := h
    exact ⟨_, List.cons_ne_nil _ _, rfl⟩
  · exact ⟨_, List.cons_ne_nil _ _, h.2⟩

/-! ### The order of the keys -/

/-- The text of a parent is smaller. -/
theorem not_keyText_le (h : parentAndTemplate path key v = some (parentPath, template)) :
    ¬keyText key ≤ keyText parentPath := by
  obtain ⟨rest, hrest, rfl⟩ := exists_of_parentAndTemplate h
  intro hle
  rw [keyText, keyText, List.flatMap_append] at hle
  have hge : parentPath.flatMap (fun part => part.toList ++ ['.']) ≤
      parentPath.flatMap (fun part => part.toList ++ ['.']) ++
        rest.flatMap fun part => part.toList ++ ['.'] := not_lt.mp List.le_append_left
  have hnil := List.append_right_eq_self.mp (le_antisymm hle hge)
  rcases rest with - | ⟨part, rest⟩
  · exact hrest rfl
  · simp at hnil

theorem sortedKeys_pairwise : (sortedKeys gsdm).Pairwise fun a b => keyText a ≤ keyText b := by
  have : Std.Total fun a b : SupportedPath => keyText a ≤ keyText b := ⟨fun a b => le_total _ _⟩
  have : IsTrans SupportedPath fun a b => keyText a ≤ keyText b := ⟨fun a b c => le_trans⟩
  exact List.pairwise_insertionSort _ _

theorem mem_sortedKeys : key ∈ sortedKeys gsdm ↔ key ∈ gsdm.keys := List.mem_insertionSort _

theorem nodup_sortedKeys : (sortedKeys gsdm).Nodup :=
  (List.perm_insertionSort _ _).nodup_iff.mpr gsdm.nodup

/-! ### The data -/

/-- The data that the keys up to now have made: an object for each, with what it has itself, and
in it what the keys behind it are of. -/
structure Fetched (path : DmPath) (gsdm : GsdmResponse) (done : List SupportedPath)
    (response : GsdmTable) : Prop where
  mem_keys : ∀ key, key ∈ response.keys ↔ key ∈ done
  find : ∀ key info, response.find key = some info → ∃ v, gsdm.find key = some v ∧
    info.writable = v.access.map (fun access => decide (access ≠ 0)) ∧
      info.parameters = v.parameters
  objects : ∀ key info, response.find key = some info → ∀ child, child ∈ info.objects ↔
    ∃ key' ∈ done, ∃ v, gsdm.find key' = some v ∧ parentAndTemplate path key' v = some (key, child)

theorem mem_objects_addObjectToParent {info : GsdmInfo}
    (h : (addObjectToParent response parentPath template).find key = some info) :
    ∃ info', response.find key = some info' ∧ info.writable = info'.writable ∧
      info.parameters = info'.parameters ∧ ∀ child, child ∈ info.objects ↔
        child ∈ info'.objects ∨ (parentPath, template) = (key, child) := by
  by_cases hkey : key = parentPath
  · subst hkey
    rw [addObjectToParent, Table.find_modify_self] at h
    obtain ⟨info', hinfo', rfl⟩ := Option.map_eq_some_iff.mp h
    refine ⟨info', hinfo', ?_⟩
    by_cases hmem : template ∈ info'.objects
    · rw [if_pos hmem]
      refine ⟨rfl, rfl, fun child => (or_iff_left_of_imp ?_).symm⟩
      rintro ⟨-, rfl⟩
      exact hmem
    · rw [if_neg hmem]
      refine ⟨rfl, rfl, fun child => ?_⟩
      rw [List.mem_append, List.mem_singleton, Prod.mk.injEq, and_iff_right rfl, eq_comm]
  · rw [addObjectToParent, Table.find_modify_ne hkey] at h
    refine ⟨info, h, rfl, rfl, fun child => (or_iff_left_of_imp fun heq => ?_).symm⟩
    exact absurd (congrArg Prod.fst heq).symm hkey

/-- What the loop has made of a key: its object, with what there was and what it adds. -/
theorem find_addKey {info : GsdmInfo} (hv : gsdm.find key = some v) {k : SupportedPath}
    (h : (addKey path gsdm response key).find k = some info) :
    ∃ info', (response.put key ⟨v.access.map fun access => decide (access ≠ 0), [],
        v.parameters⟩).find k = some info' ∧ info.writable = info'.writable ∧
      info.parameters = info'.parameters ∧ ∀ child, child ∈ info.objects ↔
        child ∈ info'.objects ∨ parentAndTemplate path key v = some (k, child) := by
  rw [addKey, hv] at h
  dsimp only at h
  rcases hadded : parentAndTemplate path key v with - | ⟨parentPath, template⟩
  · rw [hadded] at h
    exact ⟨info, h, rfl, rfl, fun child => (or_iff_left (Option.some_ne_none _).symm).symm⟩
  · rw [hadded] at h
    simpa only [Option.some.injEq] using mem_objects_addObjectToParent h

theorem keys_addKey (hv : gsdm.find key = some v) (hnew : key ∉ response.keys) :
    (addKey path gsdm response key).keys = response.keys ++ [key] := by
  rw [addKey, hv]
  dsimp only
  rcases parentAndTemplate path key v with - | ⟨parentPath, template⟩
  · rw [Table.keys_put, if_neg hnew]
  · dsimp only
    rw [addObjectToParent, Table.keys_modify, Table.keys_put, if_neg hnew]

/-- **A key adds its object**, and adds it to the one it is in, which has been before. -/
theorem Fetched.concat (h : Fetched path gsdm done response) (hv : gsdm.find key = some v)
    (hnew : key ∉ done) (horder : ∀ key' ∈ done, keyText key' ≤ keyText key) :
    Fetched path gsdm (done ++ [key]) (addKey path gsdm response key) := by
  have hkeys : (addKey path gsdm response key).keys = response.keys ++ [key] :=
    keys_addKey hv fun hmem => hnew ((h.mem_keys key).mp hmem)
  refine ⟨fun k => ?_, fun k info hinfo => ?_, fun k info hinfo child => ?_⟩
  · rw [hkeys, List.mem_append, List.mem_append, h.mem_keys]
  · obtain ⟨info', hinfo', hwritable, hparameters, -⟩ := find_addKey hv hinfo
    by_cases hk : k = key
    · subst hk
      rw [Table.find_put_self] at hinfo'
      cases hinfo'
      exact ⟨v, hv, hwritable, hparameters⟩
    · rw [Table.find_put_ne hk] at hinfo'
      obtain ⟨w, hw, hwritable', hparameters'⟩ := h.find k info' hinfo'
      exact ⟨w, hw, hwritable.trans hwritable', hparameters.trans hparameters'⟩
  · obtain ⟨info', hinfo', -, -, hobjects⟩ := find_addKey hv hinfo
    -- what the key itself adds
    have hself : (∃ w, gsdm.find key = some w ∧
        parentAndTemplate path key w = some (k, child)) ↔
          parentAndTemplate path key v = some (k, child) := by
      simp [hv]
    have hsplit : (∃ key' ∈ done ++ [key], ∃ w, gsdm.find key' = some w ∧
        parentAndTemplate path key' w = some (k, child)) ↔
          (∃ key' ∈ done, ∃ w, gsdm.find key' = some w ∧
            parentAndTemplate path key' w = some (k, child)) ∨
          parentAndTemplate path key v = some (k, child) := by
      rw [← hself]
      simp only [List.mem_append, List.mem_singleton, or_and_right, exists_or, exists_eq_left]
    rw [hobjects, hsplit]
    refine or_congr ?_ Iff.rfl
    by_cases hk : k = key
    · subst hk
      rw [Table.find_put_self] at hinfo'
      cases hinfo'
      -- nothing is in the new object yet: what is in it has a greater text
      refine iff_of_false List.not_mem_nil ?_
      rintro ⟨key', hkey', w, -, hadded⟩
      exact not_keyText_le hadded (horder key' hkey')
    · rw [Table.find_put_ne hk] at hinfo'
      exact h.objects k info' hinfo' child

theorem fetched_foldl (hfind : ∀ key ∈ done, ∃ v, gsdm.find key = some v) (hnodup : done.Nodup)
    (horder : done.Pairwise fun a b => keyText a ≤ keyText b) :
    Fetched path gsdm done (done.foldl (addKey path gsdm) Table.empty) := by
  induction done using List.reverseRecOn with
  | nil =>
    have hnone : ∀ key info, (Table.empty : GsdmTable).find key ≠ some info :=
      fun _ _ => (Option.some_ne_none _).symm
    exact ⟨fun key => Iff.rfl, fun key info h => absurd h (hnone key info),
      fun key info h => absurd h (hnone key info)⟩
  | append_singleton done key ih =>
    rw [List.foldl_append, List.foldl_cons, List.foldl_nil]
    obtain ⟨v, hv⟩ := hfind key (by simp)
    obtain ⟨hdone, -, hcross⟩ := List.pairwise_append.mp horder
    obtain ⟨hdone', -, hdisjoint⟩ := List.nodup_append.mp hnodup
    refine (ih (fun key' hkey' => hfind key' (List.mem_append_left _ hkey')) hdone' hdone).concat
      hv (fun hmem => ?_) fun key' hkey' => hcross key' hkey' key (List.mem_singleton_self _)
    exact hdisjoint key hmem key (List.mem_singleton_self _) rfl

/-- **The data of a request**: an object for every key of the answer, and in it the objects of
the keys behind it. -/
theorem fetched_getGsdmData {env : ReadEnv} {bus : SupportedBus} {nextlevel : Bool}
    (hallowed : env.amxaIsGetAllowed path = true) :
    (getGsdmData env bus path nextlevel).1 = 0 ∧
      Fetched path (bus.response path nextlevel) (sortedKeys (bus.response path nextlevel))
        (getGsdmData env bus path nextlevel).2 := by
  rw [getGsdmData, if_pos hallowed]
  refine ⟨rfl, fetched_foldl (fun key hkey => ?_) nodup_sortedKeys sortedKeys_pairwise⟩
  exact Table.mem_keys.mp (mem_sortedKeys.mp hkey)

end Tr069.Parameters
