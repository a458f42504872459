import Mathlib.Data.List.Perm.Basic
import Tr069Manager.Parameters.SortedValues
import Tr069Manager.Subscriptions.Notification

/-!
# The reads of the whole data model

A request of the ACS for the root alone does not go through the lists of
`DM_ENG_Device_GetParameterValues`: `DM_ENG_Device_GetParameterValuesAll` and
`DM_ENG_Device_GetParameterAttributesAll` ask the bus once and write the elements of the answer
right away. The values stand in the order of their names, as in the ordinary list; the attributes
stand in the order of the bus.

The short way differs from the ordinary one in three places, and
`getParameterValuesAll_agrees_iff` says that there are no others:

* it leaves out an object if `amxb_get_supported` fails for it;
* it asks for all levels, and the ordinary request for 20 below the root;
* an answer that is null is an error, where the ordinary request for an object has an empty list.

The names of the attributes are those of the values, each once, exactly if `amxb_get_supported`
fails for no object that is shown (`getParameterAttributesAll_names_iff`).
-/

namespace Tr069.Parameters

/-! ### The elements of an answer -/

/-- A `ParameterList` element: the elements in it, and how many have been counted. -/
structure ParameterList (ν : Type) where
  nodes : List ν
  paramCount : ℕ

namespace ParameterList

variable {ν α : Type}

/-- The element when it is made. -/
def new : ParameterList ν := ⟨[], 0⟩

/-- One element more, which is counted. -/
def add (list : ParameterList ν) (node : ν) : ParameterList ν :=
  ⟨list.nodes ++ [node], list.paramCount + 1⟩

/-- The attribute `soap-enc:arrayType`. -/
def arrayType (element : String) (list : ParameterList ν) : String :=
  "cwmp:" ++ element ++ "[" ++ toString list.paramCount ++ "]"

theorem foldl_add (nodes : List ν) (list : ParameterList ν) :
    nodes.foldl add list = ⟨list.nodes ++ nodes, list.paramCount + nodes.length⟩ := by
  induction nodes generalizing list with
  | nil => rw [List.foldl_nil, List.append_nil, List.length_nil, Nat.add_zero]
  | cons node nodes ih =>
    rw [List.foldl_cons, ih, add, List.append_assoc, List.length_cons]
    show ParameterList.mk _ (list.paramCount + 1 + nodes.length) =
      ParameterList.mk _ (list.paramCount + (nodes.length + 1))
    rw [Nat.add_right_comm, Nat.add_assoc]
    rfl

/-- A loop whose rounds add elements ends with all of them, and has counted them. -/
theorem foldl_eq {g : ParameterList ν → α → ParameterList ν} {f : α → List ν}
    (hround : ∀ list a, g list a = (f a).foldl add list) (l : List α) :
    l.foldl g new = ⟨l.flatMap f, (l.flatMap f).length⟩ := by
  have hg : g = fun list a => (f a).foldl add list := by
    funext list a
    exact hround list a
  rw [hg, ← List.foldl_flatMap, foldl_add, new, List.nil_append, Nat.zero_add]

end ParameterList

/-- What a whole read gives: the error, and the `ParameterList` if it is written. -/
structure AllAnswer (ν : Type) where
  error : Int
  list : Option (ParameterList ν)

/-- The elements in the answer. -/
def AllAnswer.nodes {ν : Type} (answer : AllAnswer ν) : List ν :=
  (answer.list.map ParameterList.nodes).getD []

variable (env : ReadEnv) (d : Device)

/-- The part that both reads have: the access to the root, and its objects. -/
def readAll {ν : Type} (build : Response → ParameterList ν) : AllAnswer ν :=
  if env.amxaIsGetAllowed devicePath then
    if d.answer devicePath (-1) = [] then
      match env.unanswered devicePath with
      | .notSupportedScheme => ⟨0, none⟩
      | .failed => ⟨invalidParameterName, none⟩
      | .null => ⟨invalidParameterName, none⟩
    else ⟨0, some (build (amxaFilterGetResp env (d.answer devicePath (-1))))⟩
  else ⟨invalidParameterName, none⟩

/-! ### `DM_ENG_Device_GetParameterValuesAll` -/

/-- `amx_type_to_xml_type`. -/
def amxTypeToXmlType : AmxcVarId → String
  | .int8 | .int16 | .int32 | .int64 => "xsd:int"
  | .uint8 | .uint16 | .uint32 | .uint64 => "xsd:unsignedInt"
  | .cstring | .csvString | .ssvString => "xsd:string"
  | .timestamp => "xsd:dateTime"
  | .bool => "xsd:boolean"
  | .any | .other => "xsd:any"

/-- An entry of `supported_params`. -/
structure SupportedParam where
  paramName : String
  type : AmxcVarId

/-- The answer to `amxb_get_supported`, by supported paths. -/
abbrev SupportedAnswer := List (Option String) → Option (List SupportedParam)

/-- The `supported_params` of an object: those of its instances, and if there are none its own. -/
def supportedParams (answer : SupportedAnswer) (object : List Component) : List SupportedParam :=
  match answer (buildSupportedPath object ++ [none]) with
  | some params => params
  | none => (answer (buildSupportedPath object)).getD []

/-- The type of a parameter, which is that of the null variant if it is not found. -/
def supportedParamType (params : List SupportedParam) (name : String) : AmxcVarId :=
  ((params.find? fun p => p.paramName = name).map SupportedParam.type).getD .other

/-- What `xml_add_parameter_value_struct` adds. -/
structure ParameterValueNode where
  name : DmPath
  value : String
  xsiType : String
  deriving DecidableEq

/-- The element of a parameter. -/
def parameterValueNode (params : List SupportedParam) (object : List Component)
    (param : String × Value) : ParameterValueNode :=
  ⟨returnedName env d devicePath ⟨object, some param.1⟩, param.2.text,
    amxTypeToXmlType (supportedParamType params param.1)⟩

/-- The loop of `build_gpv_all_body` over the parameters of an object. -/
def gpvAllObject (supported : List Component → Option SupportedAnswer)
    (list : ParameterList ParameterValueNode) (object : List Component × List (String × Value)) :
    ParameterList ParameterValueNode :=
  if object.2.isEmpty then list
  else
    match supported object.1 with
    | none => list
    | some answer =>
      (sortedParams object.2).foldl
        (fun list param => list.add
          (parameterValueNode env d (supportedParams answer object.1) object.1 param)) list

/-- `build_gpv_all_body`. -/
def buildGpvAllBody (supported : List Component → Option SupportedAnswer) (response : Response) :
    ParameterList ParameterValueNode :=
  (sortedObjects env response).foldl (gpvAllObject env d supported) ParameterList.new

/-- `DM_ENG_Device_GetParameterValuesAll`, with what `amxb_get_supported` gives. -/
def getParameterValuesAll (supported : List Component → Option SupportedAnswer) :
    AllAnswer ParameterValueNode :=
  readAll env d (buildGpvAllBody env d supported)

/-! ### `DM_ENG_Device_GetParameterAttributesAll` -/

/-- What `xml_add_parameter_attribute_struct` adds. -/
structure ParameterAttributeNode where
  name : DmPath
  notification : NotificationMode
  accessList : List String
  deriving DecidableEq

/-- The element of a parameter, with what the cache has for its path. The forced mode is shown as
the active one. -/
def parameterAttributeNode (cacheInfo : DmPath → NotificationMode × List String)
    (object : List Component) (param : String × Value) : ParameterAttributeNode :=
  let info := cacheInfo ⟨object, some param.1⟩
  ⟨returnedName env d devicePath ⟨object, some param.1⟩,
    if info.1 = .forced then .active else info.1, info.2⟩

/-- `build_gpa_all_body`. -/
def buildGpaAllBody (cacheInfo : DmPath → NotificationMode × List String) (response : Response) :
    ParameterList ParameterAttributeNode :=
  response.foldl
    (fun list object =>
      if object.2.isEmpty then list
      else object.2.foldl
        (fun list param => list.add (parameterAttributeNode env d cacheInfo object.1 param)) list)
    ParameterList.new

/-- `DM_ENG_Device_GetParameterAttributesAll`, with what `DM_ENG_CacheDict_GetInfo` gives. -/
def getParameterAttributesAll (cacheInfo : DmPath → NotificationMode × List String) :
    AllAnswer ParameterAttributeNode :=
  readAll env d (buildGpaAllBody env d cacheInfo)

/-! ### What is below the root -/

/-- How many levels below the root an object is; an instance is on the level of its table. -/
def levels (o : List Component) : ℕ := o.tail.countP fun c => !c.isNumeric

/-- A parameter of the object is shown by a whole read. -/
def Shown (o : List Component) : Prop :=
  ∃ n v, d.objects.value o n = some v ∧
    MayShowValue env (fun _ => true) devicePath (-1) o n

variable {env d} {depth : ℤ} {o : List Component} {n : String} {v : Value}
  {ps : List (String × Value)} {supported : List Component → Option SupportedAnswer}
  {cacheInfo : DmPath → NotificationMode × List String}

theorem matchRest_devicePath {rest : List Component} :
    matchRest devicePath.object o = some rest ↔ o = .name "Device" :: rest := by
  cases o with
  | nil => exact ⟨fun h => (by cases h), fun h => (by cases h)⟩
  | cons c cs =>
    rw [devicePath, matchRest, matchRest]
    constructor
    · intro h
      split at h
      · next hc =>
        rcases hc with hc | ⟨hc, -⟩
        · rw [← hc, Option.some.inj h]
        · cases hc
      · cases h
    · intro h
      obtain ⟨rfl, rfl⟩ := List.cons.inj h
      exact if_pos (Or.inl rfl)

/-- The request for 20 levels is the one for all of them but for the objects that are deeper. -/
theorem selects_devicePath_twenty :
    selects devicePath.object 20 o = true ↔
      selects devicePath.object (-1) o = true ∧ levels o ≤ 20 := by
  rw [selects, selects, levels]
  cases h : matchRest devicePath.object o with
  | none => simp
  | some rest =>
    rw [matchRest_devicePath.mp h, List.tail_cons]
    simp only [decide_eq_true_eq]
    omega

theorem mayShowValue_twenty :
    MayShowValue env (fun _ => true) devicePath 20 o n ↔
      MayShowValue env (fun _ => true) devicePath (-1) o n ∧ levels o ≤ 20 := by
  constructor
  · intro h
    obtain ⟨hsel, hlevels⟩ := selects_devicePath_twenty.mp h.selects.1
    exact ⟨⟨h.ne_nil, h.concrete, rfl, ⟨hsel, h.selects.2⟩, h.allowed⟩, hlevels⟩
  · rintro ⟨h, hlevels⟩
    exact ⟨h.ne_nil, h.concrete, rfl,
      ⟨selects_devicePath_twenty.mpr ⟨h.selects.1, hlevels⟩, h.selects.2⟩, h.allowed⟩

/-- Whether anything is found does not depend on how many levels are asked for. -/
theorem answer_devicePath_eq_nil {depth' : ℤ} :
    d.answer devicePath depth = [] ↔ d.answer devicePath depth' = [] := by
  have hobject : devicePath.parameter = none → devicePath.object ≠ [] := fun _ =>
    List.cons_ne_nil _ _
  rw [answer_eq_nil_iff hobject, answer_eq_nil_iff hobject]

theorem filteredAnswer_devicePath :
    filteredAnswer env d devicePath depth = amxaFilterGetResp env (d.answer devicePath depth) :=
  if_pos rfl

/-- The objects of the answer, with what is left of their parameters. -/
theorem mem_filteredAnswer_devicePath :
    (o, ps) ∈ filteredAnswer env d devicePath depth ↔
      selects devicePath.object depth o = true ∧ ∃ t, d.objects.find o = some t ∧
        ps = t.entries.filter fun p => env.amxaIsGetAllowed ⟨o, some p.1⟩ := by
  rw [filteredAnswer_devicePath, amxaFilterGetResp, List.mem_map]
  constructor
  · rintro ⟨⟨o', qs⟩, hmem, he⟩
    obtain ⟨rfl, rfl⟩ := Prod.mk.inj he
    obtain ⟨t, ht, hans⟩ := mem_answer.mp hmem
    have hselects : (if selects devicePath.object depth o' then some (o', t.entries) else none) =
        some (o', qs) := hans
    split at hselects
    · next hsel =>
      cases hselects
      exact ⟨hsel, t, ht, rfl⟩
    · cases hselects
  · rintro ⟨hsel, t, ht, rfl⟩
    exact ⟨(o, t.entries), mem_answer.mpr ⟨t, ht, if_pos hsel⟩, rfl⟩

/-- Where nothing is found, nothing is shown. -/
theorem not_shown_of_answer_nil (h : d.answer devicePath (-1) = []) : ¬Shown env d o := by
  rintro ⟨n, v, hv, hmay⟩
  obtain ⟨⟨ps, hmem, -⟩, -⟩ := mem_filteredAnswer_iff.mpr ⟨hv, hmay⟩
  rw [filteredAnswer_devicePath, h, amxaFilterGetResp, List.map_nil] at hmem
  exact absurd hmem List.not_mem_nil

/-! ### The list of the values -/

/-- The name and the value of a parameter. -/
def namedValue (env : ReadEnv) (d : Device) (o : List Component) (param : String × Value) :
    DmPath × String :=
  (returnedName env d devicePath ⟨o, some param.1⟩, param.2.text)

/-- The name and the value in an element. -/
def ParameterValueNode.named (node : ParameterValueNode) : DmPath × String :=
  (node.name, node.value)

/-- What a whole read of the values says: the error, the names and the values. -/
def AllAnswer.named (answer : AllAnswer ParameterValueNode) : Int × List (DmPath × String) :=
  (answer.error, answer.nodes.map ParameterValueNode.named)

/-- The error, the names and the values of the ordinary request. -/
def namedValues (answer : Int × List (DmPath × ParameterType × String)) :
    Int × List (DmPath × String) :=
  (answer.1, answer.2.map fun e => (e.1, e.2.2))

/-- What the objects contribute, in the order of their paths. -/
theorem flatMap_sortedObjects {γ : Type}
    (f : List Component × List (String × Value) → List γ) (response : Response) :
    (sortedObjects env response).flatMap f =
      ((response.map fun e => (e.1, f e)).mergeSort fun a b =>
        env.keyOrder.le a.1 b.1).flatMap Prod.snd := by
  have hmap := List.map_mergeSort (r := fun a b => env.keyOrder.le a.1 b.1)
    (s := fun a b => env.keyOrder.le a.1 b.1) (f := fun e => (e.1, f e)) (l := response)
    (fun _ _ _ _ => rfl)
  rw [sortedObjects, ← hmap, List.flatMap_map]

/-- What an object contributes to the elements. -/
def gpvAllNodes (env : ReadEnv) (d : Device) (supported : List Component → Option SupportedAnswer)
    (object : List Component × List (String × Value)) : List ParameterValueNode :=
  match supported object.1 with
  | none => []
  | some answer =>
    (sortedParams object.2).map
      (parameterValueNode env d (supportedParams answer object.1) object.1)

theorem gpvAllObject_eq (list : ParameterList ParameterValueNode)
    (object : List Component × List (String × Value)) :
    gpvAllObject env d supported list object =
      (gpvAllNodes env d supported object).foldl ParameterList.add list := by
  rw [gpvAllObject, gpvAllNodes]
  split
  · next hempty =>
    rw [List.isEmpty_iff.mp hempty, sortedParams, List.mergeSort_nil]
    cases supported object.1 <;> rfl
  · cases supported object.1 with
    | none => rfl
    | some answer => rw [List.foldl_map]

/-- The elements are those of the objects, and all of them are counted. -/
theorem buildGpvAllBody_eq (response : Response) :
    buildGpvAllBody env d supported response =
      ⟨(sortedObjects env response).flatMap (gpvAllNodes env d supported),
        ((sortedObjects env response).flatMap (gpvAllNodes env d supported)).length⟩ :=
  ParameterList.foldl_eq gpvAllObject_eq _

/-- What an object contributes to the short list: names and values. -/
def gpvAllNamed (env : ReadEnv) (d : Device) (supported : List Component → Option SupportedAnswer)
    (object : List Component × List (String × Value)) : List (DmPath × String) :=
  if (supported object.1).isSome then (sortedParams object.2).map (namedValue env d object.1)
  else []

theorem map_named_gpvAllNodes (object : List Component × List (String × Value)) :
    (gpvAllNodes env d supported object).map ParameterValueNode.named =
      gpvAllNamed env d supported object := by
  rw [gpvAllNodes, gpvAllNamed]
  cases supported object.1 with
  | none => rfl
  | some answer =>
    rw [List.map_map]
    rfl

/-- The whole read, where it is allowed and finds something. -/
theorem named_getParameterValuesAll (hallowed : env.amxaIsGetAllowed devicePath = true)
    (hanswer : d.answer devicePath (-1) ≠ []) :
    (getParameterValuesAll env d supported).named =
      (0, (sortedObjects env (filteredAnswer env d devicePath (-1))).flatMap
        (gpvAllNamed env d supported)) := by
  have hnodes : (getParameterValuesAll env d supported) =
      ⟨0, some (buildGpvAllBody env d supported
        (amxaFilterGetResp env (d.answer devicePath (-1))))⟩ := by
    rw [getParameterValuesAll, readAll, if_pos hallowed, if_neg hanswer]
  rw [hnodes, buildGpvAllBody_eq, AllAnswer.named, AllAnswer.nodes, Option.map_some,
    Option.getD_some, List.map_flatMap, filteredAnswer_devicePath]
  refine congrArg (Prod.mk 0) (List.flatMap_congr fun object _ => ?_)
  exact map_named_gpvAllNodes object

/-- The ordinary request, where it is allowed and finds something. -/
theorem namedValues_getParameterValuesPrpl (hallowed : env.amxaIsGetAllowed devicePath = true)
    (hanswer : d.answer devicePath (-1) ≠ []) :
    namedValues (getParameterValuesPrpl env d devicePath) =
      (0, (sortedObjects env (filteredAnswer env d devicePath 20)).flatMap fun object =>
        (sortedParams object.2).map (namedValue env d object.1)) := by
  have htwenty : d.answer devicePath 20 ≠ [] := fun h => hanswer (answer_devicePath_eq_nil.mp h)
  have hprpl : getParameterValuesPrpl env d devicePath =
      (0, getValuesParseValues env d devicePath (filteredAnswer env d devicePath 20)) := by
    rw [getParameterValuesPrpl_eq hallowed]
    exact congrArg (fun e => (e, _)) (if_neg htwenty)
  rw [hprpl, namedValues, getValuesParseValues, List.map_flatMap]
  refine congrArg (Prod.mk 0) (List.flatMap_congr fun object _ => ?_)
  rw [List.map_map]
  rfl

/-- A name and a value in the short list. -/
theorem mem_gpvAllNamed {e : DmPath × String} :
    e ∈ (sortedObjects env (filteredAnswer env d devicePath (-1))).flatMap
        (gpvAllNamed env d supported) ↔
      ∃ o n v, d.objects.value o n = some v ∧
        MayShowValue env (fun o => (supported o).isSome) devicePath (-1) o n ∧
          namedValue env d o (n, v) = e := by
  rw [List.mem_flatMap]
  constructor
  · rintro ⟨⟨o, ps⟩, hmem, he⟩
    rw [gpvAllNamed] at he
    split at he
    · next hsupported =>
      obtain ⟨⟨n, v⟩, hp, rfl⟩ := List.mem_map.mp he
      have hfound : ∃ ps, (o, ps) ∈ filteredAnswer env d devicePath (-1) ∧ (n, v) ∈ ps :=
        ⟨ps, List.mem_mergeSort.mp hmem, List.mem_mergeSort.mp hp⟩
      have hmay : d.objects.value o n = some v ∧
          MayShowValue env (fun o => (supported o).isSome) devicePath (-1) o n :=
        mem_filteredAnswer_iff.mp ⟨hfound, hsupported⟩
      exact ⟨o, n, v, hmay.1, hmay.2, rfl⟩
    · exact absurd he List.not_mem_nil
  · rintro ⟨o, n, v, hv, hmay, rfl⟩
    obtain ⟨⟨ps, hmem, hp⟩, hsupported⟩ := mem_filteredAnswer_iff.mpr ⟨hv, hmay⟩
    refine ⟨(o, ps), List.mem_mergeSort.mpr hmem, ?_⟩
    rw [gpvAllNamed, if_pos hsupported]
    exact List.mem_map.mpr ⟨(n, v), List.mem_mergeSort.mpr hp, rfl⟩

/-- A name and a value in the ordinary list. -/
theorem mem_namedValues {e : DmPath × String} :
    (e ∈ (sortedObjects env (filteredAnswer env d devicePath 20)).flatMap fun object =>
        (sortedParams object.2).map (namedValue env d object.1)) ↔
      ∃ o n v, d.objects.value o n = some v ∧
        MayShowValue env (fun _ => true) devicePath 20 o n ∧ namedValue env d o (n, v) = e := by
  rw [List.mem_flatMap]
  constructor
  · rintro ⟨⟨o, ps⟩, hmem, he⟩
    obtain ⟨⟨n, v⟩, hp, rfl⟩ := List.mem_map.mp he
    obtain ⟨hv, hmay⟩ := (mem_params (List.mem_mergeSort.mp hmem)).mp (List.mem_mergeSort.mp hp)
    exact ⟨o, n, v, hv, hmay, rfl⟩
  · rintro ⟨o, n, v, hv, hmay, rfl⟩
    obtain ⟨⟨ps, hmem, hp⟩, -⟩ := mem_filteredAnswer_iff.mpr ⟨hv, hmay⟩
    exact ⟨(o, ps), List.mem_mergeSort.mpr hmem,
      List.mem_map.mpr ⟨(n, v), List.mem_mergeSort.mpr hp, rfl⟩⟩

/-- Two shown parameters of one name are parameters of one object. -/
theorem object_eq_of_namedValue {has has' : List Component → Bool} {depth' : ℤ}
    {o' : List Component} {n' : String} {v' : Value}
    (hmay : MayShowValue env has devicePath depth o n)
    (hmay' : MayShowValue env has' devicePath depth' o' n')
    (h : namedValue env d o (n, v) = namedValue env d o' (n', v')) : o = o' := by
  have hunder : Under devicePath (DmPath.mk o (some n)).object := hmay.under
  have hunder' : Under devicePath (DmPath.mk o' (some n')).object := hmay'.under
  have hpath := returnedName_injective hmay.concrete hmay'.concrete hunder hunder'
    (congrArg Prod.fst h)
  exact congrArg DmPath.object hpath

/-- The lists of an answer are the same exactly if the objects with a shown parameter are
supported exactly where they are not too deep. -/
theorem lists_eq_iff :
    ((sortedObjects env (filteredAnswer env d devicePath (-1))).flatMap
        (gpvAllNamed env d supported) =
      (sortedObjects env (filteredAnswer env d devicePath 20)).flatMap fun object =>
        (sortedParams object.2).map (namedValue env d object.1)) ↔
      ∀ o, Shown env d o → ((supported o).isSome = true ↔ levels o ≤ 20) := by
  constructor
  · rintro heq o ⟨n, v, hv, hmay⟩
    constructor
    · intro hsupported
      have hmem := mem_gpvAllNamed.mpr ⟨o, n, v, hv,
        ⟨hmay.ne_nil, hmay.concrete, hsupported, hmay.selects, hmay.allowed⟩, rfl⟩
      rw [heq] at hmem
      obtain ⟨o', n', v', -, hmay', hname⟩ := mem_namedValues.mp hmem
      rw [object_eq_of_namedValue hmay hmay' hname.symm]
      exact (mayShowValue_twenty.mp hmay').2
    · intro hlevels
      have hmem := mem_namedValues.mpr ⟨o, n, v, hv, mayShowValue_twenty.mpr ⟨hmay, hlevels⟩, rfl⟩
      rw [← heq] at hmem
      obtain ⟨o', n', v', -, hmay', hname⟩ := mem_gpvAllNamed.mp hmem
      rw [object_eq_of_namedValue hmay hmay' hname.symm]
      exact hmay'.has
  · intro h
    rw [flatMap_sortedObjects, flatMap_sortedObjects]
    have hkeys : ∀ {γ : Type} (depth : ℤ) (f : List Component × List (String × Value) → List γ),
        (((filteredAnswer env d devicePath depth).map fun e => (e.1, f e)).map
          Prod.fst).Nodup := by
      intro γ depth f
      rw [List.map_map]
      exact nodup_filteredAnswer
    refine List.flatMap_mergeSort_congr env.keyOrder.trans env.keyOrder.total
      env.keyOrder.antisymm (hkeys _ _) (hkeys _ _) fun o c hne => ?_
    -- an object that contributes something has a parameter that is shown
    have hshown : ∀ {depth : ℤ} {ps : List (String × Value)}, selects devicePath.object (-1) o →
        (o, ps) ∈ filteredAnswer env d devicePath depth →
          (sortedParams ps).map (namedValue env d o) ≠ [] → Shown env d o := by
      intro depth ps hsel hmem hps
      have hps' : ps ≠ [] := by
        rintro rfl
        refine hps ?_
        rw [sortedParams, List.mergeSort_nil, List.map_nil]
      obtain ⟨⟨n, v⟩, hp⟩ := List.exists_mem_of_ne_nil ps hps'
      obtain ⟨hv, hmay⟩ := (mem_params hmem).mp hp
      exact ⟨n, v, hv, hmay.ne_nil, hmay.concrete, rfl, ⟨hsel, hmay.selects.2⟩, hmay.allowed⟩
    rw [List.mem_map, List.mem_map]
    constructor
    · rintro ⟨⟨o', ps⟩, hmem, he⟩
      obtain ⟨rfl, rfl⟩ := Prod.mk.inj he
      rw [gpvAllNamed] at hne ⊢
      by_cases hsupported : (supported o').isSome = true
      · dsimp only at hne ⊢
        rw [if_pos hsupported] at hne ⊢
        obtain ⟨hsel, ht⟩ := mem_filteredAnswer_devicePath.mp hmem
        have hlevels := (h o' (hshown hsel hmem hne)).mp hsupported
        exact ⟨(o', ps), mem_filteredAnswer_devicePath.mpr
          ⟨selects_devicePath_twenty.mpr ⟨hsel, hlevels⟩, ht⟩, rfl⟩
      · exact absurd (if_neg hsupported) hne
    · rintro ⟨⟨o', ps⟩, hmem, he⟩
      obtain ⟨rfl, rfl⟩ := Prod.mk.inj he
      obtain ⟨hsel, ht⟩ := mem_filteredAnswer_devicePath.mp hmem
      obtain ⟨hall, hlevels⟩ := selects_devicePath_twenty.mp hsel
      refine ⟨(o', ps), mem_filteredAnswer_devicePath.mpr ⟨hall, ht⟩, ?_⟩
      rw [gpvAllNamed]
      exact congrArg (Prod.mk o') (if_pos ((h o' (hshown hall hmem hne)).mpr hlevels))

/-- **The short way to all values says what the ordinary request for the root says** – the same
error, and the same names and values in the same order – exactly if, where the root may be read,
the bus does not answer null to it, and of the objects that have a parameter to be shown those
that `amxb_get_supported` knows are the ones that are not more than 20 levels below the root. -/
theorem getParameterValuesAll_agrees_iff :
    (getParameterValuesAll env d supported).named =
        namedValues (getParameterValuesPrpl env d devicePath) ↔
      (env.amxaIsGetAllowed devicePath = true →
        (d.answer devicePath (-1) = [] → env.unanswered devicePath ≠ .null) ∧
          ∀ o, Shown env d o → ((supported o).isSome = true ↔ levels o ≤ 20)) := by
  by_cases hallowed : env.amxaIsGetAllowed devicePath = true
  · by_cases hanswer : d.answer devicePath (-1) = []
    · -- nothing is found: both lists are empty, and the errors are those of the bus
      have hall : (getParameterValuesAll env d supported).named =
          (match env.unanswered devicePath with
            | .notSupportedScheme => 0
            | .failed => invalidParameterName
            | .null => invalidParameterName, []) := by
        rw [getParameterValuesAll, readAll, if_pos hallowed, if_pos hanswer]
        cases env.unanswered devicePath <;> rfl
      have hprpl : namedValues (getParameterValuesPrpl env d devicePath) =
          (unansweredErrorPrpl env devicePath, []) := by
        have htwenty : d.answer devicePath 20 = [] := answer_devicePath_eq_nil.mp hanswer
        have hcond : d.answer (requestPath devicePath)
            (getValuesDepth (requestPath devicePath)) = [] := htwenty
        have hprpl := getParameterValuesPrpl_eq (d := d)
          (show env.amxaIsGetAllowed (requestPath devicePath) = true from hallowed)
        rw [if_pos hcond, filteredAnswer, hcond, amxaFilterGetResp, List.map_nil, ite_self,
          getValuesParseValues, sortedObjects, List.mergeSort_nil, List.flatMap_nil] at hprpl
        rw [namedValues, hprpl]
        rfl
      rw [hall, hprpl, unansweredErrorPrpl]
      constructor
      · intro h _
        refine ⟨fun _ hnull => ?_, fun o ho => absurd ho (not_shown_of_answer_nil hanswer)⟩
        rw [hnull] at h
        exact absurd (congrArg Prod.fst h) (show (invalidParameterName : Int) ≠ 0 by decide)
      · intro h
        have hnull := (h hallowed).1 hanswer
        cases hcase : env.unanswered devicePath with
        | notSupportedScheme => rfl
        | failed => rfl
        | null => exact absurd hcase hnull
    · rw [named_getParameterValuesAll hallowed hanswer,
        namedValues_getParameterValuesPrpl hallowed hanswer]
      constructor
      · exact fun h _ => ⟨fun hnil => absurd hnil hanswer, lists_eq_iff.mp (congrArg Prod.snd h)⟩
      · exact fun h => congrArg (Prod.mk 0) (lists_eq_iff.mpr (h hallowed).2)
  · have hall : (getParameterValuesAll env d supported).named = (invalidParameterName, []) := by
      rw [getParameterValuesAll, readAll, if_neg hallowed]
      rfl
    have hprpl : namedValues (getParameterValuesPrpl env d devicePath) =
        (invalidParameterName, []) := by
      have hdenied : getParameterValuesPrpl env d devicePath = (invalidParameterName, []) :=
        if_neg hallowed
      rw [hdenied]
      rfl
    rw [hall, hprpl]
    exact ⟨fun _ h => absurd h hallowed, fun _ => rfl⟩

/-! ### The list of the attributes -/

/-- The elements are those of the objects in the order of the bus, and all of them are counted. -/
theorem buildGpaAllBody_eq (response : Response) :
    buildGpaAllBody env d cacheInfo response =
      ⟨response.flatMap fun e => e.2.map (parameterAttributeNode env d cacheInfo e.1),
        (response.flatMap fun e =>
          e.2.map (parameterAttributeNode env d cacheInfo e.1)).length⟩ := by
  refine ParameterList.foldl_eq (fun list object => ?_) response
  rw [List.foldl_map]
  split
  · next hempty => rw [List.isEmpty_iff.mp hempty, List.foldl_nil]
  · rfl

/-- The whole read, where it is allowed and finds something. -/
theorem nodes_getParameterAttributesAll (hallowed : env.amxaIsGetAllowed devicePath = true)
    (hanswer : d.answer devicePath (-1) ≠ []) :
    (getParameterAttributesAll env d cacheInfo).nodes =
      (filteredAnswer env d devicePath (-1)).flatMap fun e =>
        e.2.map (parameterAttributeNode env d cacheInfo e.1) := by
  rw [getParameterAttributesAll, readAll, if_pos hallowed, if_neg hanswer, buildGpaAllBody_eq,
    AllAnswer.nodes, Option.map_some, Option.getD_some, filteredAnswer_devicePath]

/-- Where nothing is found, or nothing may be read, there are no elements. -/
theorem nodes_readAll_eq_nil {ν : Type} {build : Response → ParameterList ν}
    (h : env.amxaIsGetAllowed devicePath = true → d.answer devicePath (-1) = []) :
    (readAll env d build).nodes = [] := by
  rw [readAll]
  split
  · next hallowed =>
    rw [if_pos (h hallowed)]
    cases env.unanswered devicePath <;> rfl
  · rfl

/-- The errors of the two whole reads are the same. -/
theorem readAll_error {ν μ : Type} {build : Response → ParameterList ν}
    {build' : Response → ParameterList μ} :
    (readAll env d build).error = (readAll env d build').error := by
  rw [readAll, readAll]
  split
  · split
    · cases env.unanswered devicePath <;> rfl
    · rfl
  · rfl

/-- **Every shown parameter is in the list of the attributes**, with what the cache has for its
path, and nothing else is. -/
theorem mem_getParameterAttributesAll {node : ParameterAttributeNode} :
    node ∈ (getParameterAttributesAll env d cacheInfo).nodes ↔
      env.amxaIsGetAllowed devicePath = true ∧ ∃ o n v, d.objects.value o n = some v ∧
        MayShowValue env (fun _ => true) devicePath (-1) o n ∧
          parameterAttributeNode env d cacheInfo o (n, v) = node := by
  by_cases hfound : env.amxaIsGetAllowed devicePath = true → d.answer devicePath (-1) = []
  · rw [getParameterAttributesAll, nodes_readAll_eq_nil hfound]
    constructor
    · exact fun h => absurd h List.not_mem_nil
    · rintro ⟨hallowed, o, n, v, hv, hmay, -⟩
      exact absurd ⟨n, v, hv, hmay⟩ (not_shown_of_answer_nil (hfound hallowed))
  · obtain ⟨hallowed, hanswer⟩ := Classical.not_imp.mp hfound
    rw [nodes_getParameterAttributesAll hallowed hanswer, List.mem_flatMap]
    constructor
    · rintro ⟨⟨o, ps⟩, hmem, hnode⟩
      obtain ⟨⟨n, v⟩, hp, rfl⟩ := List.mem_map.mp hnode
      obtain ⟨hv, hmay⟩ := (mem_params hmem).mp hp
      exact ⟨hallowed, o, n, v, hv, hmay, rfl⟩
    · rintro ⟨-, o, n, v, hv, hmay, rfl⟩
      obtain ⟨⟨ps, hmem, hp⟩, -⟩ := mem_filteredAnswer_iff.mpr ⟨hv, hmay⟩
      exact ⟨(o, ps), hmem, List.mem_map.mpr ⟨(n, v), hp, rfl⟩⟩

/-- No parameter is twice in the list of the attributes. -/
theorem nodup_names_getParameterAttributesAll :
    ((getParameterAttributesAll env d cacheInfo).nodes.map ParameterAttributeNode.name).Nodup := by
  by_cases hfound : env.amxaIsGetAllowed devicePath = true → d.answer devicePath (-1) = []
  · rw [getParameterAttributesAll, nodes_readAll_eq_nil hfound]
    exact List.nodup_nil
  · obtain ⟨hallowed, hanswer⟩ := Classical.not_imp.mp hfound
    have hpairs : (getParameterAttributesAll env d cacheInfo).nodes.map
        ParameterAttributeNode.name =
          ((filteredAnswer env d devicePath (-1)).flatMap fun e =>
            e.2.map fun p => (e.1, p.1)).map fun x =>
              returnedName env d devicePath ⟨x.1, some x.2⟩ := by
      rw [nodes_getParameterAttributesAll hallowed hanswer, List.map_flatMap, List.map_flatMap]
      refine List.flatMap_congr fun e _ => ?_
      rw [List.map_map, List.map_map]
      rfl
    have hmem : ∀ x ∈ (filteredAnswer env d devicePath (-1)).flatMap fun e =>
        e.2.map fun p => (e.1, p.1),
          MayShowValue env (fun _ => true) devicePath (-1) x.1 x.2 := by
      intro x hx
      obtain ⟨⟨o, ps⟩, hobject, hx⟩ := List.mem_flatMap.mp hx
      obtain ⟨⟨n, v⟩, hp, rfl⟩ := List.mem_map.mp hx
      exact ((mem_params hobject).mp hp).2
    rw [hpairs]
    refine List.Nodup.map_on (fun x hx y hy hname => ?_) ?_
    · have hunder : Under devicePath (DmPath.mk x.1 (some x.2)).object := (hmem x hx).under
      have hunder' : Under devicePath (DmPath.mk y.1 (some y.2)).object := (hmem y hy).under
      have hpath := returnedName_injective (hmem x hx).concrete (hmem y hy).concrete hunder
        hunder' hname
      exact Prod.ext (congrArg DmPath.object hpath)
        (Option.some.inj (congrArg DmPath.parameter hpath))
    · -- the objects are different, and so are the parameters of each of them
      refine List.nodup_flatMap.mpr ⟨fun e he => ?_, ?_⟩
      · refine List.Nodup.of_map Prod.snd ?_
        rw [List.map_map]
        exact nodup_params he
      · have hobjects : ((filteredAnswer env d devicePath (-1)).map Prod.fst).Nodup :=
          nodup_filteredAnswer
        refine (List.pairwise_map.mp hobjects).imp fun {a b} hne x hxa hxb => ?_
        obtain ⟨p, -, rfl⟩ := List.mem_map.mp hxa
        obtain ⟨q, -, hq⟩ := List.mem_map.mp hxb
        exact hne (congrArg Prod.fst hq).symm

/-- **The whole reads name the same parameters** exactly if, where the root may be read,
`amxb_get_supported` knows all the objects that have a parameter to be shown. The error is the
same in any case, no parameter is named twice, and no notification is the forced one. -/
theorem getParameterAttributesAll_names_iff :
    ((getParameterAttributesAll env d cacheInfo).error =
          (getParameterValuesAll env d supported).error ∧
        ((getParameterAttributesAll env d cacheInfo).nodes.map ParameterAttributeNode.name).Nodup ∧
        (∀ node ∈ (getParameterAttributesAll env d cacheInfo).nodes,
          node.notification ≠ .forced)) ∧
      (((getParameterAttributesAll env d cacheInfo).nodes.map ParameterAttributeNode.name).Perm
          ((getParameterValuesAll env d supported).nodes.map ParameterValueNode.name) ↔
        (env.amxaIsGetAllowed devicePath = true →
          ∀ o, Shown env d o → (supported o).isSome = true)) := by
  refine ⟨⟨readAll_error, nodup_names_getParameterAttributesAll, fun node hnode => ?_⟩, ?_⟩
  · obtain ⟨-, o, n, v, -, -, rfl⟩ := mem_getParameterAttributesAll.mp hnode
    show (if _ then _ else _) ≠ NotificationMode.forced
    split
    · exact fun h => NotificationMode.noConfusion h
    · next h => exact h
  · by_cases hfound : env.amxaIsGetAllowed devicePath = true → d.answer devicePath (-1) = []
    · rw [getParameterAttributesAll, getParameterValuesAll, nodes_readAll_eq_nil hfound,
        nodes_readAll_eq_nil hfound]
      exact ⟨fun _ hallowed o ho => absurd ho (not_shown_of_answer_nil (hfound hallowed)),
        fun _ => List.Perm.nil⟩
    · obtain ⟨hallowed, hanswer⟩ := Classical.not_imp.mp hfound
      have hvalues : (getParameterValuesAll env d supported).nodes.map ParameterValueNode.name =
          (getParameterValuesAll env d supported).named.2.map Prod.fst := by
        rw [AllAnswer.named, List.map_map]
        rfl
      have hattributes : (getParameterAttributesAll env d cacheInfo).nodes.map
          ParameterAttributeNode.name = (filteredAnswer env d devicePath (-1)).flatMap fun e =>
            (e.2.map (namedValue env d e.1)).map Prod.fst := by
        rw [nodes_getParameterAttributesAll hallowed hanswer, List.map_flatMap]
        refine List.flatMap_congr fun e _ => ?_
        rw [List.map_map, List.map_map]
        rfl
      rw [hvalues, named_getParameterValuesAll hallowed hanswer]
      constructor
      · rintro hperm - o ⟨n, v, hv, hmay⟩
        have hmem : returnedName env d devicePath ⟨o, some n⟩ ∈
            (getParameterAttributesAll env d cacheInfo).nodes.map ParameterAttributeNode.name :=
          List.mem_map.mpr ⟨_, mem_getParameterAttributesAll.mpr
            ⟨hallowed, o, n, v, hv, hmay, rfl⟩, rfl⟩
        obtain ⟨e, he, hname⟩ := List.mem_map.mp (hperm.mem_iff.mp hmem)
        obtain ⟨o', n', v', -, hmay', rfl⟩ := mem_gpvAllNamed.mp he
        have hunder : Under devicePath (DmPath.mk o (some n)).object := hmay.under
        have hunder' : Under devicePath (DmPath.mk o' (some n')).object := hmay'.under
        have hpath := returnedName_injective hmay.concrete hmay'.concrete hunder hunder' hname.symm
        have ho : o = o' := congrArg DmPath.object hpath
        rw [ho]
        exact hmay'.has
      · intro h
        rw [hattributes, List.map_flatMap]
        have hsorted : (sortedObjects env (filteredAnswer env d devicePath (-1))).Perm
            (filteredAnswer env d devicePath (-1)) := List.mergeSort_perm _ _
        refine (List.Perm.flatMap_left _ fun e he => ?_).trans
          (hsorted.flatMap_right fun e => (gpvAllNamed env d supported e).map Prod.fst).symm
        rw [gpvAllNamed]
        split
        · exact ((List.mergeSort_perm e.2 _).map _ |>.map _).symm
        · next hnot =>
          -- an object that is not supported has no parameter to be shown
          have hnil : e.2 = [] := by
            by_contra hne
            obtain ⟨⟨n, v⟩, hp⟩ := List.exists_mem_of_ne_nil e.2 hne
            exact hnot (h hallowed e.1 ⟨n, v, (mem_params he).mp hp⟩)
          rw [hnil]
          exact List.Perm.nil

end Tr069.Parameters
