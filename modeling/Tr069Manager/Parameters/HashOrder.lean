import Tr069Manager.Parameters.AnsweredNames
import Tr069Manager.Parameters.GsdmData
import Tr069Manager.Parameters.NameRules

/-!
# The names of a request, in the order of the hash tables

`DM_ENG_Device_GPN` goes over three kinds of hash tables: the objects of the answer, the
parameters of each, and the objects in an object of the supported data model. Here it is with
the order of each of them (`HashOrder`), with the data it fetches, and for every path: the names
of a request with aliases have these aliases, or all of them in the instance mode.

Whatever the order, the supported path of a name is the one of what it is the name of, so that
whether a name can be written is a matter of the name, and the first writer of a name does no
harm (`mem_addAll_parseNamesAs`).
-/

namespace Tr069.Parameters

/-! ### The source -/

/-- What `amxb_get` gives for a path. -/
inductive GetAnswer (path : DmPath) where
  | notSupportedScheme
  | failed
  | null
  | objects (response : Response)
      (matching : ∀ e ∈ response, BeginsWith path.object e.1)

/-- The orders in which hash tables are iterated: that of the objects in each supported object,
that of the objects of an answer, and that of the parameters of each of these. -/
structure HashOrder where
  children : SupportedPath → List String → List String
  objects : Response → Response
  parameters : List Component → List (String × Value) → List (String × Value)
  children_perm : ∀ key l, (children key l).Perm l
  objects_perm : ∀ response, (objects response).Perm response
  parameters_perm : ∀ object l, (parameters object l).Perm l

/-- The data as it is looked up, with the objects in an object in their order. -/
def HashOrder.gsdm (order : HashOrder) (data : GsdmTable) (path : List (Option String)) :
    Option GsdmInfo :=
  let key := path.map fun part => part.getD instancePart
  (data.find key).map fun info => { info with objects := order.children key info.objects }

/-- The data, as the parser has it. -/
def HashOrder.readEnv (order : HashOrder) (env : ReadEnv) (data : GsdmTable) : ReadEnv :=
  { env with gsdm := order.gsdm data }

/-- An answer in the order in which it is iterated. -/
def HashOrder.response (order : HashOrder) (response : Response) : Response :=
  (order.objects response).map fun e => (e.1, order.parameters e.1 e.2)

section Parse

variable (env : ReadEnv) (name : DmPath → DmPath) (acsPath : DmPath) (nextlevel : Bool)

/-- `DM_AmxParameter_ParseForEachObject` for names, of which the name of a path is a
parameter. -/
def parseForEachObjectAs (object : List Component × List (String × Value)) :
    List (DmPath × Bool) :=
  match getGsdmInfo env object.1 with
  | none => []
  | some info =>
    addObjectToPN env acsPath nextlevel (name ⟨object.1, none⟩) info ++
      -- avoid adding indepth parameters when nextlevel is set
      if nextlevel ∧ acsPath.object.length < object.1.length then []
      else object.2.map fun param =>
        addParameterToPN (name ⟨object.1, some param.1⟩) param.2 param.1 info

/-- `DM_AmxParameter_ParseNames`: what is added to the list, in its order. -/
def parseNamesAs (response : Response) : List (DmPath × Bool) :=
  addAcsPathToPN env acsPath nextlevel ++
    response.flatMap (parseForEachObjectAs env name acsPath nextlevel)

end Parse

section Names

variable (order : HashOrder) (env : ReadEnv) (bus : SupportedBus)

/-- `DM_AmxParameter_Parse` with the data it fetches, from a list without entries. -/
def parseFetched (acsPath : DmPath) (nextlevel : Bool) (response : Response) : ReadResult Bool :=
  let (error, data) := getGsdmData env bus acsPath nextlevel
  if error ≠ 0 then .empty error
  else ⟨0, Table.empty.addAll (parseNamesAs (order.readEnv env data)
    (answeredName env.instanceAlias bus.aliasOf acsPath) acsPath nextlevel
    (order.response response))⟩

/-- `DM_ENG_Device_GPN`, which is `DM_AmxParameter_GetNames` without data. -/
def gpn (path : DmPath) (nextlevel : Bool) (answer : GetAnswer (requestPath path)) :
    ReadResult Bool :=
  if path.isEmpty ∧ nextlevel then ⟨0, Table.empty.addAll [addSingleObjectToPN devicePath none]⟩
  else if path.isParameterPath ∧ nextlevel then .empty invalidArguments
  else if env.amxaIsGetAllowed (requestPath path) then
    match answer with
    -- a path that is not one of the data model is skipped
    | .notSupportedScheme => .empty 0
    | .failed =>
      if (requestPath path).isPartial || (requestPath path).isWildcard then .empty 0
      else .empty invalidParameterName
    | .null =>
      if (requestPath path).isPartial || (requestPath path).isWildcard then .empty 0
      else parseFetched order env bus (requestPath path) nextlevel []
    | .objects response _ => parseFetched order env bus (requestPath path) nextlevel
        (if (requestPath path).isPartial then amxaFilterGetResp env response else response)
  else .empty invalidParameterName

end Names

/-! ### What there is data of -/

/-- The supported path of an object, as a key of the answer has it. -/
def supportedKey (object : List Component) : SupportedPath :=
  (buildSupportedPath object).map fun part => part.getD instancePart

/-- The key an object has its data from: its own one, or that of its instances. -/
def entryKey (gsdm : GsdmResponse) (object : List Component) : Option SupportedPath :=
  if supportedKey object ∈ gsdm.keys then some (supportedKey object)
  else if supportedKey object ++ [instancePart] ∈ gsdm.keys then
    some (supportedKey object ++ [instancePart])
  else none

/-- There is an entry for the object. -/
def HasEntry (gsdm : GsdmResponse) (object : List Component) : Prop :=
  supportedKey object ∈ gsdm.keys ∨ supportedKey object ++ [instancePart] ∈ gsdm.keys

/-- The `objects` table of an object's data has a child, by the key of an entry. -/
def Lists (gsdm : GsdmResponse) (path : DmPath) (object : List Component) (child : String) :
    Prop :=
  ∃ key, entryKey gsdm object = some key ∧ ∃ key' v, gsdm.find key' = some v ∧
    parentAndTemplate path key' v = some (key, child)

instance HasEntry.decidable (gsdm : GsdmResponse) (object : List Component) :
    Decidable (HasEntry gsdm object) :=
  inferInstanceAs (Decidable (_ ∨ _))

section Data

variable {gsdm : GsdmResponse} {path : DmPath} {order order' : HashOrder} {env : ReadEnv}
  {data : GsdmTable} {object object' : List Component} {child : String}

theorem isSome_entryKey : (entryKey gsdm object).isSome = true ↔ HasEntry gsdm object := by
  rw [entryKey, HasEntry]
  split_ifs <;> simp_all

theorem supportedKey_congr (h : buildSupportedPath object = buildSupportedPath object') :
    supportedKey object = supportedKey object' := by
  rw [supportedKey, supportedKey, h]

theorem hasEntry_congr (h : buildSupportedPath object = buildSupportedPath object') :
    HasEntry gsdm object ↔ HasEntry gsdm object' := by
  rw [HasEntry, HasEntry, supportedKey_congr h]

/-- The data of an object are those of its key, with the objects in it in their order. -/
theorem getGsdmInfo_readEnv : getGsdmInfo (order.readEnv env data) object =
    ((data.find (supportedKey object)).map fun info =>
        { info with objects := order.children (supportedKey object) info.objects }).or
      ((data.find (supportedKey object ++ [instancePart])).map fun info =>
        { info with
          objects := order.children (supportedKey object ++ [instancePart]) info.objects }) := by
  have hinstance : (buildSupportedPath object ++ [none]).map
      (fun part : Option String => part.getD instancePart) =
        supportedKey object ++ [instancePart] := List.map_append
  rw [← hinstance]
  rfl

/-- **The data of an object**, once they are fetched: an entry, and the objects in it in their
order. -/
theorem getGsdmInfo_fetched (order : HashOrder) (env : ReadEnv) (object : List Component)
    (h : Fetched path gsdm (sortedKeys gsdm) data) :
    (∀ key, entryKey gsdm object = some key → ∃ info, data.find key = some info ∧
      getGsdmInfo (order.readEnv env data) object =
        some { info with objects := order.children key info.objects }) ∧
      (entryKey gsdm object = none → getGsdmInfo (order.readEnv env data) object = none) := by
  have hkeys : ∀ key, key ∈ data.keys ↔ key ∈ gsdm.keys := fun key =>
    (h.mem_keys key).trans mem_sortedKeys
  have hnone : ∀ key, key ∉ gsdm.keys → data.find key = none := fun key hkey =>
    Table.find_eq_none.mpr (mt (hkeys key).mp hkey)
  rw [getGsdmInfo_readEnv, entryKey]
  -- the entry of the path itself, or else that of its instances
  by_cases hown : supportedKey object ∈ gsdm.keys
  · rw [if_pos hown]
    obtain ⟨info, hinfo⟩ := Table.mem_keys.mp ((hkeys _).mpr hown)
    rw [hinfo, Option.map_some, Option.some_or]
    refine ⟨fun key hkey => ?_, fun hkey => absurd hkey (Option.some_ne_none _)⟩
    obtain rfl := Option.some.inj hkey
    exact ⟨info, hinfo, rfl⟩
  · rw [if_neg hown, hnone _ hown, Option.map_none, Option.none_or]
    by_cases hinstance : supportedKey object ++ [instancePart] ∈ gsdm.keys
    · rw [if_pos hinstance]
      obtain ⟨info, hinfo⟩ := Table.mem_keys.mp ((hkeys _).mpr hinstance)
      rw [hinfo, Option.map_some]
      refine ⟨fun key hkey => ?_, fun hkey => absurd hkey (Option.some_ne_none _)⟩
      obtain rfl := Option.some.inj hkey
      exact ⟨info, hinfo, rfl⟩
    · rw [if_neg hinstance, hnone _ hinstance, Option.map_none]
      exact ⟨fun key hkey => absurd hkey.symm (Option.some_ne_none _), fun _ => rfl⟩

theorem isSome_getGsdmInfo (h : Fetched path gsdm (sortedKeys gsdm) data) :
    (getGsdmInfo (order.readEnv env data) object).isSome = true ↔ HasEntry gsdm object := by
  rw [← isSome_entryKey]
  obtain ⟨hsome, hnone⟩ := getGsdmInfo_fetched order env object h
  rcases hkey : entryKey gsdm object with - | key
  · rw [hnone hkey, Option.isSome_none, Option.isSome_none]
  · obtain ⟨info, -, hinfo⟩ := hsome key hkey
    rw [hinfo]
    rfl

/-- The objects in an object are what its key lists. -/
theorem mem_objects_iff (h : Fetched path gsdm (sortedKeys gsdm) data) {info : GsdmInfo}
    (hinfo : getGsdmInfo (order.readEnv env data) object = some info) :
    child ∈ info.objects ↔ Lists gsdm path object child := by
  obtain ⟨hsome, hnone⟩ := getGsdmInfo_fetched order env object h
  rcases hkey : entryKey gsdm object with - | key
  · rw [hnone hkey] at hinfo
    cases hinfo
  · obtain ⟨info', hfind, hinfo'⟩ := hsome key hkey
    obtain rfl := Option.some.inj (hinfo'.symm.trans hinfo)
    rw [(order.children_perm key info'.objects).mem_iff, h.objects key info' hfind, Lists, hkey]
    simp only [Option.some.injEq, exists_eq_left']
    constructor
    · rintro ⟨key', -, v, hv, hadded⟩
      exact ⟨key', v, hv, hadded⟩
    · rintro ⟨key', v, hv, hadded⟩
      exact ⟨key', mem_sortedKeys.mpr (Table.mem_keys.mpr ⟨v, hv⟩), v, hv, hadded⟩

/-- Whether a path can be written does not depend on the order. -/
theorem writableOf_readEnv (q : DmPath) :
    writableOf (order.readEnv env data) q = writableOf (order'.readEnv env data) q := by
  rw [writableOf, writableOf, getGsdmInfo_readEnv, getGsdmInfo_readEnv]
  rcases data.find (supportedKey q.object) with - | info
  · rcases data.find (supportedKey q.object ++ [instancePart]) with - | info <;> rfl
  · rfl

end Data

/-! ### What is in the list -/

section List

variable {env : ReadEnv} {name : DmPath → DmPath} {path q : DmPath} {nextlevel : Bool}
  {response : Response} {object : List Component} {info : GsdmInfo} {x : DmPath × Bool}

/-- The objects under whose names the objects in them are gone through: the path of the request,
and, if it is not for the next level only, the objects of the answer. -/
def GoneThrough (name : DmPath → DmPath) (path : DmPath) (nextlevel : Bool) (response : Response)
    (object : List Component) : Prop :=
  ¬path.isParameterPath = true ∧ ((¬path.isWildcard = true ∧ object = path.object) ∨
    (nextlevel = false ∧ ∃ e ∈ response, (name ⟨e.1, none⟩).object = object))

/-- The names in the list. -/
inductive NameSource (env : ReadEnv) (name : DmPath → DmPath) (path : DmPath) (nextlevel : Bool)
    (response : Response) : DmPath → Prop
  | acsPath (hpath : ¬path.isParameterPath = true) (hwild : ¬path.isWildcard = true)
      (hlevel : nextlevel = false) : NameSource env name path nextlevel response path
  | child {object : List Component} (hgone : GoneThrough name path nextlevel response object)
      {info : GsdmInfo} (hinfo : getGsdmInfo env object = some info) {child : String}
      (hchild : child ∈ childrenShown env object info) :
      NameSource env name path nextlevel response ⟨object ++ [.name child], none⟩
  | object (hpath : ¬path.isParameterPath = true) {e : List Component × List (String × Value)}
      (he : e ∈ response) (hinfo : (getGsdmInfo env e.1).isSome = true)
      (hlevel : nextlevel = false ∨ path ≠ name ⟨e.1, none⟩) :
      NameSource env name path nextlevel response (name ⟨e.1, none⟩)
  | parameter {e : List Component × List (String × Value)} (he : e ∈ response)
      (hinfo : (getGsdmInfo env e.1).isSome = true)
      (hlevel : ¬(nextlevel = true ∧ path.object.length < e.1.length)) {param : String × Value}
      (hparam : param ∈ e.2) :
      NameSource env name path nextlevel response (name ⟨e.1, some param.1⟩)

/-- A name keeps the parameter and the supported path. -/
def KeepsPath (name : DmPath → DmPath) (response : Response) : Prop :=
  ∀ e ∈ response, ∀ n, (name ⟨e.1, n⟩).parameter = n ∧
    buildSupportedPath (name ⟨e.1, n⟩).object = buildSupportedPath e.1

/-- An object of the answer with its parameters. -/
theorem mem_parseForEachObjectAs {e : List Component × List (String × Value)}
    (hname : ∀ n, (name ⟨e.1, n⟩).parameter = n ∧
      buildSupportedPath (name ⟨e.1, n⟩).object = buildSupportedPath e.1) :
    x ∈ parseForEachObjectAs env name path nextlevel e ↔
      ∃ info, getGsdmInfo env e.1 = some info ∧
        (x ∈ addObjectToPN env path nextlevel (name ⟨e.1, none⟩) info ∨
          (¬(nextlevel = true ∧ path.object.length < e.1.length) ∧ ∃ param ∈ e.2,
            entryOf env (name ⟨e.1, some param.1⟩) = x)) := by
  rw [parseForEachObjectAs]
  rcases hinfo : getGsdmInfo env e.1 with - | info
  · simp
  · have hparam : ∀ param : String × Value,
        addParameterToPN (name ⟨e.1, some param.1⟩) param.2 param.1 info =
          entryOf env (name ⟨e.1, some param.1⟩) := by
      intro param
      obtain ⟨hparameter, hpath⟩ := hname (some param.1)
      rw [entryOf, writableOf, hparameter, getGsdmInfo_congr hpath, hinfo]
      rfl
    simp only [hparam, List.mem_append, Option.some.injEq, exists_eq_left']
    refine or_congr Iff.rfl ?_
    by_cases hlevel : nextlevel = true ∧ path.object.length < e.1.length
    · rw [if_pos hlevel]
      exact iff_of_false List.not_mem_nil fun h => h.1 hlevel
    · rw [if_neg hlevel, and_iff_right hlevel, List.mem_map]

/-- **The list has the names of its sources**, and whether a name can be written is a matter of
the name. -/
theorem mem_parseNamesAs (hname : KeepsPath name response) :
    x ∈ parseNamesAs env name path nextlevel response ↔
      ∃ q, NameSource env name path nextlevel response q ∧ entryOf env q = x := by
  rw [parseNamesAs, List.mem_append, List.mem_flatMap, mem_addAcsPathToPN_iff]
  constructor
  · rintro (⟨hpath, hwild, ⟨hlevel, rfl⟩ | ⟨info, hinfo, child, hchild, rfl⟩⟩ | ⟨e, he, hx⟩)
    · exact ⟨path, .acsPath hpath hwild hlevel, rfl⟩
    · exact ⟨_, .child ⟨hpath, Or.inl ⟨hwild, rfl⟩⟩ hinfo hchild, rfl⟩
    · obtain ⟨hparameter, hobject⟩ := hname e he none
      obtain ⟨info, hinfo, hadded | ⟨hlevel, param, hparam, rfl⟩⟩ :=
        (mem_parseForEachObjectAs (hname e he)).mp hx
      · have hinfo' := (getGsdmInfo_congr hobject).trans hinfo
        obtain ⟨hpath, ⟨hlevel, rfl⟩ | ⟨hlevel, child, hchild, rfl⟩⟩ :=
          (mem_addObjectToPN_iff hparameter hinfo').mp hadded
        · exact ⟨_, .object hpath he (Option.isSome_iff_exists.mpr ⟨info, hinfo⟩) hlevel, rfl⟩
        · exact ⟨_, .child ⟨hpath, Or.inr ⟨hlevel, e, he, rfl⟩⟩ hinfo' hchild, rfl⟩
      · exact ⟨_, .parameter he (Option.isSome_iff_exists.mpr ⟨info, hinfo⟩) hlevel hparam, rfl⟩
  · rintro ⟨q, hsource, rfl⟩
    cases hsource with
    | acsPath hpath hwild hlevel => exact Or.inl ⟨hpath, hwild, Or.inl ⟨hlevel, rfl⟩⟩
    | @child object hgone info hinfo child hchild =>
      obtain ⟨hpath, ⟨hwild, rfl⟩ | ⟨hlevel, e, he, rfl⟩⟩ := hgone
      · exact Or.inl ⟨hpath, hwild, Or.inr ⟨info, hinfo, child, hchild, rfl⟩⟩
      · obtain ⟨hparameter, hobject⟩ := hname e he none
        refine Or.inr ⟨e, he, (mem_parseForEachObjectAs (hname e he)).mpr ⟨info, ?_, Or.inl ?_⟩⟩
        · rw [← getGsdmInfo_congr hobject, hinfo]
        · exact (mem_addObjectToPN_iff hparameter hinfo).mpr
            ⟨hpath, Or.inr ⟨hlevel, child, hchild, rfl⟩⟩
    | @object hpath e he hinfo hlevel =>
      obtain ⟨info, hinfo⟩ := Option.isSome_iff_exists.mp hinfo
      obtain ⟨hparameter, hobject⟩ := hname e he none
      refine Or.inr ⟨e, he, (mem_parseForEachObjectAs (hname e he)).mpr ⟨info, hinfo, Or.inl ?_⟩⟩
      exact (mem_addObjectToPN_iff hparameter ((getGsdmInfo_congr hobject).trans hinfo)).mpr
        ⟨hpath, Or.inl ⟨hlevel, rfl⟩⟩
    | @parameter e he hinfo hlevel param hparam =>
      obtain ⟨info, hinfo⟩ := Option.isSome_iff_exists.mp hinfo
      exact Or.inr ⟨e, he, (mem_parseForEachObjectAs (hname e he)).mpr
        ⟨info, hinfo, Or.inr ⟨hlevel, param, hparam, rfl⟩⟩⟩

/-- **The list of a parser**: the first writer of a name does no harm. -/
theorem mem_addAll_parseNamesAs (hname : KeepsPath name response) :
    x ∈ (Table.empty.addAll (parseNamesAs env name path nextlevel response)).entries ↔
      ∃ q, NameSource env name path nextlevel response q ∧ entryOf env q = x := by
  rw [← mem_parseNamesAs hname, ← Table.find_eq_some (k := x.1) (a := x.2)]
  refine Table.find_addAll_empty fun e he e' he' hkey => ?_
  obtain ⟨q, -, rfl⟩ := (mem_parseNamesAs hname).mp he
  obtain ⟨q', -, rfl⟩ := (mem_parseNamesAs hname).mp he'
  have hq : q = q' := hkey
  rw [hq]

end List

/-! ### The tables as they are -/

section AsGiven

variable {env : ReadEnv} {d : Device} {path : DmPath} {nextlevel : Bool} {depth : ℤ}
  {pattern o rest : List Component}

theorem perm_response (response : Response) : (id response).Perm response := List.Perm.refl _

theorem perm_parameters (_ : List Component) (l : List (String × Value)) : l.Perm l :=
  List.Perm.refl l

/-- The order the tables have in the model. -/
def HashOrder.asGiven : HashOrder where
  children := fun _ l => l
  objects := id
  parameters := fun _ l => l
  children_perm := fun _ _ => List.Perm.refl _
  objects_perm := perm_response
  parameters_perm := perm_parameters

theorem beginsWith_of_mem_answer {e : List Component × List (String × Value)}
    (h : e ∈ d.answer path depth) : BeginsWith path.object e.1 := by
  obtain ⟨o, ps⟩ := e
  obtain ⟨-, hselects⟩ := mem_answer_object.mp ⟨ps, h⟩
  rw [SelectsObject] at hselects
  split at hselects
  · rw [selects] at hselects
    split at hselects
    · cases hselects
    · next hrest => exact beginsWith_of_matchRest hrest
  · exact beginsWith_of_matchRest hselects

/-- The answer of a device. -/
def Device.getAnswer (env : ReadEnv) (d : Device) (path : DmPath) (depth : ℤ) :
    GetAnswer path :=
  if d.answer path depth = [] then
    match env.unanswered path with
    | .notSupportedScheme => .notSupportedScheme
    | .failed => .failed
    | .null => .null
  else .objects (d.answer path depth) fun _ => beginsWith_of_mem_answer

theorem response_asGiven (response : Response) : HashOrder.asGiven.response response = response :=
  List.map_id _

/-- **The names of a device**, for a request without aliases: those of `getNames`, with the data
that is fetched. -/
theorem gpn_asGiven {bus : SupportedBus} (hbus : bus.aliasOf = d.objects.aliasOf)
    (halias : ∀ c ∈ (requestPath path).object, ∀ a, c ≠ .aliased a) :
    gpn .asGiven env bus path nextlevel
        (d.getAnswer env (requestPath path) (requestDepth (requestPath path) nextlevel)) =
      getNames (HashOrder.asGiven.readEnv env (getGsdmData env bus (requestPath path) nextlevel).2)
        d path nextlevel := by
  have hname : answeredName env.instanceAlias bus.aliasOf (requestPath path) =
      returnedName env d (requestPath path) := hbus ▸ answeredName_eq_returnedName halias
  have hparse : ∀ response, env.amxaIsGetAllowed (requestPath path) = true →
      parseFetched .asGiven env bus (requestPath path) nextlevel response =
        ⟨0, Table.empty.addAll (parseNames (HashOrder.asGiven.readEnv env
          (getGsdmData env bus (requestPath path) nextlevel).2) d (requestPath path) nextlevel
          response)⟩ := by
    intro response hallowed
    have herror : (getGsdmData env bus (requestPath path) nextlevel).1 = 0 :=
      (fetched_getGsdmData hallowed).1
    rw [parseFetched, response_asGiven, hname]
    exact if_neg (not_not_intro herror)
  unfold gpn
  rw [getNames]
  refine if_congr Iff.rfl rfl (if_congr Iff.rfl rfl ?_)
  rw [amxParameterGet]
  refine if_ctx_congr Iff.rfl (fun hallowed => ?_) fun _ => rfl
  have hallowed' : env.amxaIsGetAllowed (requestPath path) = true := hallowed
  rw [Device.getAnswer]
  by_cases hanswer : d.answer (requestPath path) (requestDepth (requestPath path) nextlevel) = []
  · rw [if_pos hanswer, if_pos hanswer]
    show _ = ite _ _ (match env.unanswered (requestPath path) with
      | .notSupportedScheme => _
      | .failed => _
      | .null => _)
    rcases env.unanswered (requestPath path) with - | - | -
    · exact if_congr Iff.rfl rfl (hparse [] hallowed')
    · exact (ite_self _).symm
    · rfl
  · rw [if_neg hanswer, if_neg hanswer]
    exact hparse _ hallowed'

end AsGiven

end Tr069.Parameters
