import Mathlib.Data.List.Sort
import Mathlib.Data.String.Basic
import Tr069Manager.Parameters.AmxParameter

/-!
# `DM_ENG_Device_GetParameterNames`

The second implementation of `GetParameterNames`, of which there are two:
`DM_AmxParameterNames.c` asks the bus to describe an object, and then the objects in it, one
after the other; `DM_AmxParameterNames_prpl.c` asks for all objects at once, and looks each up in
what is supported. A path with wildcards is resolved before.

Both have the access check of a parameter in one function, which is given the path of the object
that is returned, and puts the name of the parameter behind it.
-/

namespace Tr069.Parameters

/-! ### What the bus is asked for -/

/-- What `amxb_describe` gives: the type of an object, its parameters with whether they are
read-only, the objects in it and its instances, and what it gives for each of these in turn. -/
inductive Description where
  | notSupported
  | failed
  | object (typeId : Int) (parameters : List (String × Int)) (objects : List String)
      (instances : List ℕ) (child : Component → Description)

/-- What `amxb_get_supported` gives of an object: whether it has instances, and its parameters
with how they can be accessed. -/
structure SupportedObject where
  isMultiInstance : Bool
  params : List (String × Int)

/-- What a request for names depends on besides: the configuration, whether the bus has an empty
list where a path is resolved to nothing, what it describes, and what it supports at an object –
on the next level only, or below. -/
structure NamesEnv extends ReadEnv where
  wildcardsSupported : Bool
  resolvesToNothing : DmPath → Bool
  describe : List Component → Description
  getSupported : List Component → Bool → Option (List (Option String) → Option SupportedObject)

/-- `DM_ENG_Device_Common_IsValidPath`. -/
def isValidPath (path : DmPath) : Bool :=
  path.isEmpty || path.object.head? = some (.name "Device")

/-- `amxb_resolve`, where something is found. -/
def Device.resolve (d : Device) (path : DmPath) : List (List Component) :=
  d.objects.keys.filter fun o => matchRest path.object o = some []

/-- `DM_ENG_Device_Common_Resolve_Path`. -/
def commonResolvePath (env : NamesEnv) (d : Device) (path : DmPath) : Option (List DmPath) :=
  if path.isWildcard then
    if env.wildcardsSupported ∧ path.object.head? ≠ some .wildcard then
      if d.resolve path = [] ∧ !env.resolvesToNothing path then none
      else some ((d.resolve path).map fun o => ⟨o, path.parameter⟩)
    else none
  else if path.isEmpty then some [devicePath]
  else some [path]

/-- The loop over what a path is resolved to, up to the first error. -/
def forEachResolved {β : Type} (f : DmPath → Int × List β) : List DmPath → Int × List β
  | [] => (0, [])
  | p :: ps =>
    if (f p).1 ≠ 0 then f p
    else ((forEachResolved f ps).1, (f p).2 ++ (forEachResolved f ps).2)

/-- What a path is resolved to, one after the other; that it is not valid and that it cannot be
resolved are the same error. -/
def onResolved {β : Type} (env : NamesEnv) (d : Device) (path : DmPath)
    (f : DmPath → Int × List β) : Int × List β :=
  if isValidPath path then
    match commonResolvePath env d path with
    | some paths => forEachResolved f paths
    | none => (invalidParameterName, [])
  else (invalidParameterName, [])

section Names

variable (env : NamesEnv) (d : Device)

/-- `DM_ENG_Device_GetParameterNames_GetParameter`, for a parameter with a name. -/
def getParameterNamesGetParameter (objectPath : DmPath) (paramName : String) (writable : Bool) :
    List (DmPath × Bool) :=
  if env.amxaIsGetAllowed ⟨objectPath.object, some paramName⟩ then
    [(⟨objectPath.object, some paramName⟩, writable)]
  else []

/-! ### `DM_AmxParameterNames.c` -/

/-- The type of a template. -/
def templateType : Int := 2

/-- The type of an instance. -/
def instanceType : Int := 3

/-- An object of the type can be written: instances can be added, or it can be deleted. -/
def isWritableType (typeId : Int) : Bool := typeId = templateType || typeId = instanceType

/-- `DM_ENG_Device_GetParameterNames_GetParameters`. -/
def getParameterNamesGetParameters (acspath : DmPath) (path : List Component) (incObject : Bool)
    (typeId : Int) (parameters : List (String × Int)) : List (DmPath × Bool) :=
  if env.amxaIsGetAllowed ⟨path, none⟩ then
    let objectPath := returnedName env.toReadEnv d acspath ⟨path, none⟩
    (if incObject then [(objectPath, isWritableType typeId)] else []) ++
      if typeId = templateType then []
      else (parameters.mergeSort fun a b => a.1 ≤ b.1).flatMap fun parameter =>
        getParameterNamesGetParameter env objectPath parameter.1 (parameter.2 = 0)
  else []

/-- The children of an object, in the order of `DM_ENG_Device_Common_String_Compare`. -/
def sortedChildren (typeId : Int) (objects : List String) (instances : List ℕ) :
    List Component :=
  if typeId = templateType then
    (instances.mergeSort fun a b => toString a ≤ toString b).map .index
  else (objects.mergeSort fun a b => a ≤ b).map .name

/-- What is added for a child on the next level. -/
def nextLevelChild (acspath : DmPath) (childPath : List Component) :
    Description → List (DmPath × Bool)
  | .object typeId .. =>
    if env.amxaIsGetAllowed ⟨childPath, none⟩ then
      [(returnedName env.toReadEnv d acspath ⟨childPath, none⟩, isWritableType typeId)]
    else []
  | _ => []

/-- `DM_ENG_Device_GetParameterNames_GetNames`: the error of the last child is the error. -/
def getParameterNamesGetNames (nextlevel : Bool) (acspath : DmPath) :
    List Component → Description → Int × List (DmPath × Bool)
  | _, .notSupported => (0, [])
  | _, .failed => (invalidParameterName, [])
  | path, .object typeId parameters objects instances child =>
    let own := getParameterNamesGetParameters env d acspath path (!nextlevel) typeId parameters
    let children := sortedChildren typeId objects instances
    if nextlevel then
      (0, own ++ children.flatMap fun c => nextLevelChild env d acspath (path ++ [c]) (child c))
    else
      let results := children.map fun c =>
        getParameterNamesGetNames nextlevel acspath (path ++ [c]) (child c)
      ((results.getLast?.map Prod.fst).getD 0, own ++ results.flatMap Prod.snd)

/-- `DM_ENG_Device_GetParameterNames_PartialPath`. -/
def getParameterNamesPartialPath (path : DmPath) (nextlevel : Bool) : Int × List (DmPath × Bool) :=
  onResolved env d path fun p =>
    getParameterNamesGetNames env d nextlevel path p.object (env.describe p.object)

/-- What `DM_ENG_Device_GetParameterNames_Parameter` does for a parameter. -/
def parameterNamesOf (acspath p : DmPath) : Int × List (DmPath × Bool) :=
  match env.describe p.object with
  | .object _ parameters .. =>
    match parameters.find? fun parameter => parameter.1 = p.parameter.getD "" with
    | some parameter => (0, getParameterNamesGetParameter env
        (returnedName env.toReadEnv d acspath ⟨p.object, none⟩) parameter.1 (parameter.2 = 0))
    | none => (invalidParameterName, [])
  | _ => (invalidParameterName, [])

/-- `DM_ENG_Device_GetParameterNames_Parameter`. -/
def getParameterNamesParameter (path : DmPath) : Int × List (DmPath × Bool) :=
  onResolved env d path (parameterNamesOf env d path)

/-! ### `DM_AmxParameterNames_prpl.c` -/

/-- `amxd_path_is_instance_path`. -/
def isInstancePath (o : List Component) : Bool := o.getLast?.any Component.isNumeric

/-- The look-up of an object in what is supported, first as an instance. -/
def supportedObject (table : List (Option String) → Option SupportedObject)
    (o : List Component) : Option SupportedObject :=
  (table (buildSupportedPath o ++ [none])).or (table (buildSupportedPath o))

/-- What is added for an object of the answer. -/
def namesOfObjectPrpl (nextlevel : Bool) (acspath : DmPath) (path key : List Component)
    (var : SupportedObject) : List (DmPath × Bool) :=
  let childPath := returnedName env.toReadEnv d acspath ⟨key, none⟩
  (if !nextlevel || key ≠ path then [(childPath, var.isMultiInstance)] else []) ++
    if (!nextlevel || key = path) && (!var.isMultiInstance || isInstancePath key) then
      var.params.flatMap fun parameter =>
        getParameterNamesGetParameter env childPath parameter.1 (parameter.2 = 1)
    else []

/-- What is supported of an object: in the answer for the request, or asked for on its own.
Nothing, where that fails; nothing of it, where the object is not there. -/
def supportedOrAsked (nextlevel : Bool) (rslt : List (Option String) → Option SupportedObject)
    (key : List Component) : Option (Option SupportedObject) :=
  match supportedObject rslt key with
  | some var => some (some var)
  | none => (env.getSupported key nextlevel).map fun retObj => supportedObject retObj key

/-- The loop over the objects of the answer. -/
def namesLoopPrpl (nextlevel : Bool) (acspath : DmPath) (path : List Component)
    (rslt : List (Option String) → Option SupportedObject) :
    List (List Component) → Int × List (DmPath × Bool)
  | [] => (0, [])
  | key :: keys =>
    let rest := namesLoopPrpl nextlevel acspath path rslt keys
    if nextlevel ∧ path.length + 1 < key.length then rest
    else
      match supportedOrAsked env nextlevel rslt key with
      | none => (invalidParameterName, [])
      | some none => rest
      | some (some var) =>
        (rest.1, namesOfObjectPrpl env d nextlevel acspath path key var ++ rest.2)

/-- How many levels the bus is asked for. -/
def namesDepth (nextlevel : Bool) : ℤ := if nextlevel then 1 else -1

/-- `DM_ENG_Device_GetParameterNames_GetNames` of the build for the supported data model. -/
def getParameterNamesGetNamesPrpl (nextlevel : Bool) (acspath : DmPath) (path : List Component) :
    Int × List (DmPath × Bool) :=
  let result := d.answer ⟨path, none⟩ (namesDepth nextlevel)
  if result = [] then (invalidParameterName, [])
  else
    match env.getSupported path nextlevel with
    | none => (invalidParameterName, [])
    | some rslt => namesLoopPrpl env d nextlevel acspath path rslt
        ((result.map Prod.fst).mergeSort env.keyOrder.le)

/-- `DM_ENG_Device_GetParameterNames_PartialPath` of the build for the supported data model. -/
def getParameterNamesPartialPathPrpl (path : DmPath) (nextlevel : Bool) :
    Int × List (DmPath × Bool) :=
  onResolved env d path fun p => getParameterNamesGetNamesPrpl env d nextlevel path p.object

/-- What `DM_ENG_Device_GetParameterNames_Parameter` does for a parameter. -/
def parameterNamesOfPrpl (acspath p : DmPath) : Int × List (DmPath × Bool) :=
  match env.getSupported p.object false with
  | none => (invalidParameterName, [])
  | some table =>
    match ((supportedObject table p.object).map SupportedObject.params).bind
        (List.find? fun parameter => parameter.1 = p.parameter.getD "") with
    | some parameter => (0, getParameterNamesGetParameter env
        (returnedName env.toReadEnv d acspath ⟨p.object, none⟩) parameter.1 (parameter.2 = 1))
    | none => (0, [])

/-- `DM_ENG_Device_GetParameterNames_Parameter` of the build for the supported data model. -/
def getParameterNamesParameterPrpl (path : DmPath) : Int × List (DmPath × Bool) :=
  onResolved env d path (parameterNamesOfPrpl env d path)

end Names

end Tr069.Parameters
