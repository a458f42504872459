import Tr069Manager.Parameters.DataModel

/-!
# `DM_AmxParameter.c`

The values and the names of a path, as `DM_ENG_Device_GPV` and `DM_ENG_Device_GPN` have them:
one access check on the path, one request to the bus, a filter if the path is the one of an
object, and a parser that goes over what is left and adds to a list what is not in it yet. The
list is a hash table, by the name.

Paths with aliases are left out, and so is the restoring of their components in the names. The
data of the supported data model is there when the parser needs it: the check before it is
fetched is made on the same path.
-/

namespace Tr069.Parameters

variable (env : ReadEnv) (d : Device)

/-- `DM_AmxParameter_GetGsdmInfo`, for the path of an object. -/
def getGsdmInfo (object : List Component) : Option GsdmInfo :=
  (env.gsdm (buildSupportedPath object)).or (env.gsdm (buildSupportedPath object ++ [none]))

/-! ### The parser -/

section Parse

variable {β : Type} (acsPath : DmPath) (nextlevel : Bool)

/-- `DM_AmxParameter_ParseForEachObject`, with `DM_AmxParameter_ParseForEachParameter`: what is
added for an object of the response. -/
def parseForEachObject (addObject : DmPath → GsdmInfo → List (DmPath × β))
    (addParameter : DmPath → Value → String → GsdmInfo → DmPath × β)
    (object : List Component × List (String × Value)) : List (DmPath × β) :=
  match getGsdmInfo env object.1 with
  | none => []
  | some info =>
    addObject (returnedName env d acsPath ⟨object.1, none⟩) info ++
      if nextlevel ∧ acsPath.object.length < object.1.length then []
      else object.2.map fun param =>
        addParameter (returnedName env d acsPath ⟨object.1, some param.1⟩) param.2 param.1 info

/-- `DM_AmxParameter_Parse`: what is added to the list, in its order. -/
def parse (addAcsPath : List (DmPath × β))
    (addObject : DmPath → GsdmInfo → List (DmPath × β))
    (addParameter : DmPath → Value → String → GsdmInfo → DmPath × β) (response : Response) :
    List (DmPath × β) :=
  addAcsPath ++
    response.flatMap (parseForEachObject env d acsPath nextlevel addObject addParameter)

end Parse

/-! ### Values -/

/-- `DM_AmxParameter_AddParameterToPVS`. -/
def addParameterToPVS (paramPath : DmPath) (paramVar : Value) (paramKey : String)
    (info : GsdmInfo) : DmPath × (ParameterType × String) :=
  (paramPath, env.amxTypeToDataType (((info.parameters paramKey).map GsdmParameter.type).getD
    .other), paramVar.text)

/-- `DM_AmxParameter_ParseValues`. -/
def parseValues (acsPath : DmPath) (nextlevel : Bool) (response : Response) :
    List (DmPath × (ParameterType × String)) :=
  parse env d acsPath nextlevel [] (fun _ _ => []) (addParameterToPVS env) response

/-! ### Names -/

/-- `DM_AmxParameter_AddSingleObjectToPN`. -/
def addSingleObjectToPN (objectPath : DmPath) (info : Option GsdmInfo) : DmPath × Bool :=
  (objectPath, (info.bind GsdmInfo.writable).getD false)

/-- The paths of the objects in an object, up to the first without data. -/
def objectsIn (object : List Component) (info : GsdmInfo) : List (List Component) :=
  (info.objects.map fun child => object ++ [.name child]).takeWhile fun child =>
    (getGsdmInfo env child).isSome

/-- `DM_AmxParameter_AddObjectsToPN`. -/
def addObjectsToPN (object : List Component) (info : GsdmInfo) : List (DmPath × Bool) :=
  (objectsIn env object info).map fun child =>
    addSingleObjectToPN ⟨child, none⟩ (getGsdmInfo env child)

/-- `DM_AmxParameter_AddAcsPathToPN`. -/
def addAcsPathToPN (acsPath : DmPath) (nextlevel : Bool) : List (DmPath × Bool) :=
  if acsPath.isParameterPath || acsPath.isWildcard then []
  else
    (if nextlevel then [] else [addSingleObjectToPN acsPath (getGsdmInfo env acsPath.object)]) ++
      ((getGsdmInfo env acsPath.object).map (addObjectsToPN env acsPath.object)).getD []

/-- `DM_AmxParameter_AddObjectToPN`. -/
def addObjectToPN (acsPath : DmPath) (nextlevel : Bool) (objectPath : DmPath)
    (info : GsdmInfo) : List (DmPath × Bool) :=
  if acsPath.isParameterPath then []
  else
    (if !nextlevel || acsPath ≠ objectPath then [addSingleObjectToPN objectPath (some info)]
      else []) ++
      if nextlevel then [] else addObjectsToPN env objectPath.object info

/-- `DM_AmxParameter_AddParameterToPN`. -/
def addParameterToPN (paramPath : DmPath) (_paramVar : Value) (paramKey : String)
    (info : GsdmInfo) : DmPath × Bool :=
  (paramPath, ((info.parameters paramKey).map GsdmParameter.writable).getD false)

/-- `DM_AmxParameter_ParseNames`. -/
def parseNames (acsPath : DmPath) (nextlevel : Bool) (response : Response) :
    List (DmPath × Bool) :=
  parse env d acsPath nextlevel (addAcsPathToPN env acsPath nextlevel)
    (addObjectToPN env acsPath nextlevel) addParameterToPN response

/-! ### The request -/

/-- The error and the list of an answer. -/
structure ReadResult (β : Type) where
  error : Int
  list : Table DmPath β

/-- The answer without an entry. -/
def ReadResult.empty {β : Type} (error : Int) : ReadResult β := ⟨error, Table.empty⟩

/-- The path of a request, of which the empty one is the root's. -/
def requestPath (path : DmPath) : DmPath := if path.isEmpty then devicePath else path

/-- How many levels the bus is asked for. -/
def requestDepth (path : DmPath) (nextlevel : Bool) : ℤ :=
  if nextlevel then 0 else if path.isPartial then -1 else 0

/-- The response, filtered if the path is the one of an object. -/
def filteredAnswer (path : DmPath) (depth : ℤ) : Response :=
  if path.isPartial then amxaFilterGetResp env (d.answer path depth) else d.answer path depth

/-- `DM_AmxParameter_Get`, from a list without entries; `parseGet` has the path, `nextlevel` and
the response. -/
def amxParameterGet {β : Type} (acsPath : DmPath) (nextlevel : Bool)
    (parseGet : DmPath → Bool → Response → List (DmPath × β)) : ReadResult β :=
  let path := requestPath acsPath
  if env.amxaIsGetAllowed path then
    if d.answer path (requestDepth path nextlevel) = [] then
      if path.isPartial || path.isWildcard then .empty 0
      else
        match env.unanswered path with
        | .notSupportedScheme => .empty 0
        | .failed => .empty invalidParameterName
        | .null => ⟨0, Table.empty.addAll (parseGet path nextlevel [])⟩
    else ⟨0, Table.empty.addAll
      (parseGet path nextlevel (filteredAnswer env d path (requestDepth path nextlevel)))⟩
  else .empty invalidParameterName

/-- `DM_AmxParameter_GetValues`, which is `DM_ENG_Device_GPV` for one path. -/
def getValues (path : DmPath) : ReadResult (ParameterType × String) :=
  amxParameterGet env d path false (parseValues env d)

/-- `DM_AmxParameter_GetNames`, which is `DM_ENG_Device_GPN`. -/
def getNames (path : DmPath) (nextlevel : Bool) : ReadResult Bool :=
  if path.isEmpty ∧ nextlevel then ⟨0, Table.empty.addAll [addSingleObjectToPN devicePath none]⟩
  else if path.isParameterPath ∧ nextlevel then .empty invalidArguments
  else amxParameterGet env d path nextlevel (parseNames env d)

end Tr069.Parameters
