import Mathlib.Data.List.Sort
import Mathlib.Data.String.Basic
import Tr069Manager.Parameters.AmxParameter

/-!
# `DM_ENG_Device_GetParameterValues_GetValues`

The second implementation of `GetParameterValues`, of which there are two: that of
`DM_AmxParameterValues_prpl.c`, and that of `DM_AmxParameterValues.c` for the build without the
supported data model. They differ in what they do where nothing is found, and in where they ask
for the types. Their list has the objects, and the parameters of an object, in the order of
their names.
-/

namespace Tr069.Parameters

variable (env : ReadEnv) (d : Device)

/-- `amxc_htable_get_sorted_keys` of the objects, with what is under the keys. -/
def sortedObjects (response : Response) : Response :=
  response.mergeSort fun a b => env.keyOrder.le a.1 b.1

/-- `amxc_htable_get_sorted_keys` of the parameters of an object. -/
def sortedParams (params : List (String × Value)) : List (String × Value) :=
  params.mergeSort fun a b => a.1 ≤ b.1

/-- `DM_ENG_Device_GetParameterValues_ParseValues`: a parameter of which the bus does not give
the type has that of its value. -/
def getValuesParseValues (acsPath : DmPath) (response : Response) :
    List (DmPath × ParameterType × String) :=
  (sortedObjects env response).flatMap fun object =>
    (sortedParams object.2).map fun param =>
      (returnedName env d acsPath ⟨object.1, some param.1⟩,
        convertParameterType ((env.supportedType object.1 param.1).getD param.2.type),
        param.2.text)

/-- The depth of the request. -/
def getValuesDepth (path : DmPath) : ℤ := if path.isPartial then 20 else 0

/-- `DM_ENG_Device_GetParameterValues_GetValues` of `DM_AmxParameterValues_prpl.c`, with the
error and the list. -/
def getParameterValuesPrpl (acsPath : DmPath) : Int × List (DmPath × ParameterType × String) :=
  let path := requestPath acsPath
  if env.amxaIsGetAllowed path then
    if d.answer path (getValuesDepth path) = [] then
      match env.unanswered path with
      | .notSupportedScheme => (0, [])
      | .failed => (invalidParameterName, [])
      | .null => if path.isPartial then (0, []) else (invalidParameterName, [])
    else (0, getValuesParseValues env d path (filteredAnswer env d path (getValuesDepth path)))
  else (invalidParameterName, [])

/-- `DM_ENG_Device_GetParameterValues_GetValues` of `DM_AmxParameterValues.c`. -/
def getParameterValues (acsPath : DmPath) : Int × List (DmPath × ParameterType × String) :=
  let path := requestPath acsPath
  if env.amxaIsGetAllowed path then
    if d.answer path (getValuesDepth path) = [] then
      if path.isPartial || path.isWildcard then (0, [])
      else
        match env.unanswered path with
        | .notSupportedScheme => (0, [])
        | .failed => (invalidParameterName, [])
        | .null => (0, [])
    else (0, getValuesParseValues env d path (filteredAnswer env d path (getValuesDepth path)))
  else (invalidParameterName, [])

end Tr069.Parameters
