import Tr069Manager.Parameters.ReadNames
import Tr069Manager.Parameters.SortedValues

/-!
# Reads and the access rules

The check of a request is made once, on its text, and only the answer to a request for an object
is filtered, by its parameters. So the reads respect the rules for some requests and not for
others, and for each list builder there is an exact condition on the rules and the request
(`reads_respected_iff`). A complete path with wildcards shows a value that is denied
(`reads_not_respected_of_wildcard`).
-/

namespace Tr069.Parameters

/-- The condition on a request of values: if the rules allow it, they allow what it can show. -/
def ReadsAllowedValues (env : ReadEnv) (has : List Component → Bool) (path : DmPath)
    (depth : DmPath → ℤ) : Prop :=
  env.amxaIsGetAllowed (requestPath path) = true →
    ValuesCondition env has (requestPath path) (depth (requestPath path))

/-- **When the reads respect the rules**: both `GetParameterValues` exactly if the rules deny the
request, or allow the parameters it can show with the aliases in their names – in the build for
the supported data model, also the objects a wildcard stands for –, and `GetParameterNames`
exactly if they allow every name it can show. -/
theorem reads_respected_iff (env : ReadEnv) (acs : AcsPath) :
    (ValuesRespected env acs.path (fun d => (getValues env d acs.path).response)
        (InGetValues env acs.path) ↔
      ReadsAllowedValues env (hasGsdmInfo env) acs.path fun path => requestDepth path false) ∧
    (ValuesRespected env acs.path (fun d => getParameterValuesPrpl env d acs.path)
        (InList fun d => getParameterValuesPrpl env d acs.path) ↔
      ReadsAllowedValues env (fun _ => true) acs.path getValuesDepth ∧
        (env.amxaIsGetAllowed (requestPath acs.path) = true →
          ObjectsCondition env (requestPath acs.path))) ∧
    (ValuesRespected env acs.path (fun d => getParameterValues env d acs.path)
        (InList fun d => getParameterValues env d acs.path) ↔
      ReadsAllowedValues env (fun _ => true) acs.path getValuesDepth) ∧
    ∀ nextlevel, NamesRespected env acs.path nextlevel ↔
      NamesCondition env acs.path nextlevel :=
  ⟨getValues_respected_iff, getParameterValuesPrpl_respected_iff.trans forall_and,
    getParameterValues_respected_iff, fun _ => getNames_respected_iff⟩

/-! ### A value that is denied -/

/-- The parameter `P` of the first instance of a table. -/
def firstP : DmPath := ⟨[.name "Device", .name "X", .index 1], some "P"⟩

/-- The parameter `P` of every instance. -/
def everyP : AcsPath where
  path := ⟨[.name "Device", .name "X", .wildcard], some "P"⟩
  noAlias := by
    intro c hc a
    simp only [List.mem_cons, List.not_mem_nil, or_false] at hc
    rcases hc with rfl | rfl | rfl <;> exact Component.noConfusion

/-- The rules deny `P` of the first instance, and nothing else. -/
def firstPDenied : ReadEnv where
  instanceAlias := false
  amxaIsGetAllowed := fun p => p ≠ firstP
  unanswered := fun _ => .null
  gsdm := fun path =>
    if path = [some "Device", some "X", none] then
      some ⟨none, [], fun _ => some ⟨.cstring, false⟩⟩
    else none
  supportedType := fun _ _ => some .cstring
  amxTypeToDataType := convertParameterType
  keyOrder := byComponents

/-- The state in which it has a value. -/
def firstPDevice (text : String) : Device :=
  supportDevice firstP (by
    intro c hc
    simp only [firstP, List.mem_cons, List.not_mem_nil, or_false] at hc
    rcases hc with rfl | rfl | rfl <;> exact trivial) text

theorem getValues_firstP (text : String) :
    (getValues firstPDenied (firstPDevice text) everyP.path).list.find firstP =
      some (.string, text) := rfl

/-- **A complete path with wildcards shows a value that is denied**: two states that differ in it
have different answers. -/
theorem reads_not_respected_of_wildcard : ¬∀ (env : ReadEnv) (acs : AcsPath),
    ValuesRespected env acs.path (fun d => (getValues env d acs.path).response)
        (InGetValues env acs.path) ∧
      ValuesRespected env acs.path (fun d => getParameterValuesPrpl env d acs.path)
        (InList fun d => getParameterValuesPrpl env d acs.path) ∧
      ValuesRespected env acs.path (fun d => getParameterValues env d acs.path)
        (InList fun d => getParameterValues env d acs.path) ∧
      ∀ nextlevel, NamesRespected env acs.path nextlevel := by
  intro h
  have hstates : SameForAcs firstPDenied (firstPDevice "a") (firstPDevice "b") :=
    sameForAcs_supportDevice (by decide)
  have hanswers := (h firstPDenied everyP).1.same _ _ hstates
  have hfind := congrFun (congrArg Prod.snd hanswers) firstP
  have ha : (getValues firstPDenied (firstPDevice "a") everyP.path).response.2 firstP =
      some (.string, "a") := getValues_firstP "a"
  have hb : (getValues firstPDenied (firstPDevice "b") everyP.path).response.2 firstP =
      some (.string, "b") := getValues_firstP "b"
  rw [ha, hb] at hfind
  exact absurd hfind (by decide)

end Tr069.Parameters
