import Mathlib.Data.Int.Notation
import Mathlib.Data.List.Lex
import Mathlib.Data.List.TakeWhile
import Mathlib.Data.Prod.Lex
import Mathlib.Data.String.Basic
import Tr069Manager.Lib.Table
import Tr069Manager.SetParameterValues.DataModel

/-!
# What the reads of the ACS work on

The paths of `GetParameterValues` and `GetParameterNames`, the state of the device as the bus
shows it, and what the code asks the bus and its libraries. A path is taken by its components,
of which it is the text: names, instance numbers, aliases in brackets, and wildcards.

The bus keeps the objects in a hash table, which is iterated in its own order. It finds an
instance under its alias as under its number, so that the components of a path it is asked for
may be taken as numbers. An instance has an alias that no other one of its table has.
-/

namespace Tr069.Parameters

/-! ### Paths -/

/-- A component of a path. -/
inductive Component where
  | name (text : String)
  | index (n : ℕ)
  | aliased (text : String)
  | wildcard
  deriving DecidableEq

/-- `amxc_string_is_numeric`, of a component. -/
def Component.isNumeric : Component → Bool
  | .index _ => true
  | _ => false

/-- A component of the path of an object of the device. -/
def Component.IsConcrete : Component → Prop
  | .name _ | .index _ => True
  | _ => False

/-- A path: that of an object, which ends with a dot, or that of a parameter. -/
structure DmPath where
  object : List Component
  parameter : Option String
  deriving DecidableEq

/-- The path is the one of an object. -/
def DmPath.isPartial (p : DmPath) : Bool := p.parameter.isNone

/-- `DM_ENG_Device_Common_IsWildcardPath`. -/
def DmPath.isWildcard (p : DmPath) : Bool := p.object.contains .wildcard

/-- `DM_ENG_Device_Common_IsParameterPath`. -/
def DmPath.isParameterPath (p : DmPath) : Bool := !p.isPartial && !p.isWildcard

/-- The path of the root, which an empty path stands for. -/
def devicePath : DmPath := ⟨[.name "Device"], none⟩

/-- The path is empty. -/
def DmPath.isEmpty (p : DmPath) : Bool := p.object.isEmpty && p.parameter.isNone

/-- `amxd_path_get_fixed_part`, for a path without aliases. -/
def fixedPart (object : List Component) : List Component := object.takeWhile (· ≠ .wildcard)

/-- `amxd_path_build_supported_path`: what stands for an instance is `none`. -/
def buildSupportedPath (object : List Component) : List (Option String) :=
  object.map fun
    | .name text => some text
    | _ => none

/-- What is left of an object's path behind a path it matches. A wildcard stands for an
instance. -/
def matchRest : List Component → List Component → Option (List Component)
  | [], o => some o
  | _ :: _, [] => none
  | p :: ps, c :: cs =>
    if p = c ∨ (p = .wildcard ∧ c.isNumeric) then matchRest ps cs else none

/-- The object is a matching one, or not deeper below one than `depth`; an instance is on the
level of its table. -/
def selects (pattern : List Component) (depth : ℤ) (o : List Component) : Bool :=
  match matchRest pattern o with
  | none => false
  | some rest => depth < 0 ∨ (rest.countP (!·.isNumeric) : ℤ) ≤ depth

/-- A path that the ACS may send: one of names, instance numbers and wildcards. -/
structure AcsPath where
  path : DmPath
  noAlias : ∀ c ∈ path.object, ∀ a, c ≠ .aliased a

/-! ### The device -/

/-- The value of a parameter. -/
structure Value where
  type : AmxcVarId
  text : String
  deriving DecidableEq

/-- The parameters of the objects. -/
abbrev Objects := Table (List Component) (Table String Value)

/-- The value of a parameter of an object. -/
def Objects.value (t : Objects) (o : List Component) (n : String) : Option Value :=
  (t.find o).bind fun parameters => parameters.find n

/-- The Alias of an instance. -/
def Objects.aliasOf (t : Objects) (o : List Component) : Option String :=
  (t.value o "Alias").map Value.text

/-- The state of the device. -/
structure Device where
  objects : Objects
  concrete : ∀ o ∈ objects.keys, o ≠ [] ∧ ∀ c ∈ o, c.IsConcrete
  closed : ∀ o c, o ++ [c] ∈ objects.keys → o ≠ [] → o ∈ objects.keys
  aliases : ∀ o m n a, a ≠ "" → objects.aliasOf (o ++ [.index m]) = some a →
    objects.aliasOf (o ++ [.index n]) = some a → m = n

/-- What a request to the bus gives: the objects, each with its parameters. -/
abbrev Response := List (List Component × List (String × Value))

/-- The answer where nothing is found. -/
inductive Unanswered where
  | null
  | notSupportedScheme
  | failed
  deriving DecidableEq

/-- What an object adds to the answer to `amxb_get`. -/
def answerOf (path : DmPath) (depth : ℤ) (e : List Component × Table String Value) :
    Option (List Component × List (String × Value)) :=
  match path.parameter with
  | none => if selects path.object depth e.1 then some (e.1, e.2.entries) else none
  | some n =>
    if matchRest path.object e.1 = some [] then (e.2.find n).map fun v => (e.1, [(n, v)])
    else none

/-- `amxb_get`, where something is found. -/
def Device.answer (d : Device) (path : DmPath) (depth : ℤ) : Response :=
  d.objects.entries.filterMap (answerOf path depth)

/-! ### What the code asks -/

/-- A parameter of the supported data model. -/
structure GsdmParameter where
  type : AmxcVarId
  writable : Bool

/-- What `DM_ENG_Device_Common_Get_Gsdm_data` has of a supported object: whether it can be
written, the objects in it, and its parameters. -/
structure GsdmInfo where
  writable : Option Bool
  objects : List String
  parameters : String → Option GsdmParameter

/-- The order in which `amxc_htable_get_sorted_keys` has the paths of objects. -/
structure KeyOrder where
  le : List Component → List Component → Bool
  total : ∀ a b, le a b || le b a
  trans : ∀ a b c, le a b → le b c → le a c
  antisymm : ∀ a b, le a b → le b a → a = b

/-- The order of components. -/
def Component.key : Component → ℕ ×ₗ ℕ ×ₗ String
  | .name text => toLex (0, toLex (0, text))
  | .index n => toLex (1, toLex (n, ""))
  | .aliased text => toLex (2, toLex (0, text))
  | .wildcard => toLex (3, toLex (0, ""))

theorem Component.key_injective : Function.Injective Component.key := by
  intro x y h
  cases x <;> cases y <;> simp_all [Component.key]

/-- The order of paths, component by component. -/
def byComponents : KeyOrder where
  le := fun a b => a.map Component.key ≤ b.map Component.key
  total := fun a b => by
    rw [Bool.or_eq_true, decide_eq_true_iff, decide_eq_true_iff]
    exact le_total _ _
  trans := fun a b c hab hbc =>
    decide_eq_true (le_trans (of_decide_eq_true hab) (of_decide_eq_true hbc))
  antisymm := fun a b hab hba => List.map_injective_iff.mpr Component.key_injective
    (le_antisymm (of_decide_eq_true hab) (of_decide_eq_true hba))

/-- What a request depends on but for the state of the device: the instance mode, the access
rules for `cwmp` – the text of a path decides –, the answer of the bus where nothing is found,
the data of the supported data model, which has been fetched before, the type the bus gives for
a parameter, the types of CWMP, and the order of the paths of objects. -/
structure ReadEnv where
  instanceAlias : Bool
  amxaIsGetAllowed : DmPath → Bool
  unanswered : DmPath → Unanswered
  gsdm : List (Option String) → Option GsdmInfo
  supportedType : List Component → String → Option AmxcVarId
  amxTypeToDataType : AmxcVarId → ParameterType
  keyOrder : KeyOrder

/-- `amxa_filter_get_resp`. -/
def amxaFilterGetResp (env : ReadEnv) (resp : Response) : Response :=
  resp.map fun e => (e.1, e.2.filter fun p => env.amxaIsGetAllowed ⟨e.1, some p.1⟩)

/-! ### `DM_ENG_Device_Common_IndexToAlias` -/

/-- What a component becomes, behind the ones before it. -/
def aliasComponent (aliasOf : List Component → Option String) (done : List Component)
    (part : Component) : Component :=
  if part.isNumeric then
    match aliasOf (done ++ [part]) with
    | some a => if a ≠ "" then .aliased a else part
    | none => part
  else part

/-- The loop over the components, those of the fixed part first. -/
def indexToAliasLoop (aliasOf : List Component → Option String) :
    List Component → List Component → List Component → List Component
  | _, _, [] => []
  | done, orig :: fixed, _ :: parts => orig :: indexToAliasLoop aliasOf (done ++ [orig]) fixed parts
  | done, [], part :: parts =>
    aliasComponent aliasOf done part :: indexToAliasLoop aliasOf (done ++ [part]) [] parts

/-- `DM_ENG_Device_Common_IndexToAlias`. -/
def indexToAlias (d : Device) (acsPath path : DmPath) : DmPath :=
  ⟨indexToAliasLoop d.objects.aliasOf [] (fixedPart acsPath.object) path.object, path.parameter⟩

/-- The name under which a path is returned. -/
def returnedName (env : ReadEnv) (d : Device) (acsPath path : DmPath) : DmPath :=
  if env.instanceAlias then indexToAlias d acsPath path else path

end Tr069.Parameters
