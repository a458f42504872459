import Tr069Manager.Parameters.Aliases
import Tr069Manager.Parameters.ParameterNames

/-!
# The walk of `DM_ENG_Device_GetParameterNames`

Both implementations come to objects, one after the other, and list them with their parameters.
To which objects they come, and where they stop with an error, does not depend on the instance
mode, nor on what the rules say of parameters (`walkPartialPath`, `walkParameter` and those of
the build for the supported data model). What an object adds to the list does (`listVisit`). The
list is made of what is added for the objects of the walk (`getParameterNamesPartialPath_eq` and
the others).
-/

namespace Tr069.Parameters

/-- An object the walk comes to: whether it can be written if it is listed itself, and the
parameters of it that are looked at, with whether they can be written. -/
structure Visit where
  object : List Component
  listed : Option Bool
  params : List (String × Bool)

/-- What is added to the list for an object of the walk. -/
def listVisit (env : NamesEnv) (d : Device) (acspath : DmPath) (visit : Visit) :
    List (DmPath × Bool) :=
  let objectPath := returnedName env.toReadEnv d acspath ⟨visit.object, none⟩
  visit.listed.toList.map (fun writable => (objectPath, writable)) ++
    visit.params.flatMap fun parameter =>
      getParameterNamesGetParameter env objectPath parameter.1 parameter.2

/-- What is added for the objects of a walk. -/
def listWalk (env : NamesEnv) (d : Device) (acspath : DmPath) (walk : Int × List Visit) :
    Int × List (DmPath × Bool) :=
  (walk.1, walk.2.flatMap (listVisit env d acspath))

/-! ### The walk of `DM_AmxParameterNames.c` -/

section Walk

variable (allowed : DmPath → Bool)

/-- The visit to a described object. -/
def visitsOf (path : List Component) (incObject : Bool) (typeId : Int)
    (parameters : List (String × Int)) : List Visit :=
  if allowed ⟨path, none⟩ then
    [⟨path, if incObject then some (isWritableType typeId) else none,
      if typeId = templateType then []
      else (parameters.mergeSort fun a b => a.1 ≤ b.1).map fun parameter =>
        (parameter.1, parameter.2 = 0)⟩]
  else []

/-- The visit to a child on the next level. -/
def visitsOfChild (childPath : List Component) : Description → List Visit
  | .object typeId .. =>
    if allowed ⟨childPath, none⟩ then [⟨childPath, some (isWritableType typeId), []⟩] else []
  | _ => []

/-- The walk over what is described. -/
def walkNames (nextlevel : Bool) : List Component → Description → Int × List Visit
  | _, .notSupported => (0, [])
  | _, .failed => (invalidParameterName, [])
  | path, .object typeId parameters objects instances child =>
    let own := visitsOf allowed path (!nextlevel) typeId parameters
    let children := sortedChildren typeId objects instances
    if nextlevel then
      (0, own ++ children.flatMap fun c => visitsOfChild allowed (path ++ [c]) (child c))
    else
      let results := children.map fun c => walkNames nextlevel (path ++ [c]) (child c)
      ((results.getLast?.map Prod.fst).getD 0, own ++ results.flatMap Prod.snd)

end Walk

section

variable (env : NamesEnv) (d : Device)

/-- The walk for the path of an object. -/
def walkPartialPath (path : DmPath) (nextlevel : Bool) : Int × List Visit :=
  onResolved env d path fun p =>
    walkNames env.amxaIsGetAllowed nextlevel p.object (env.describe p.object)

/-- The visit to the object of a parameter. -/
def visitParameter (p : DmPath) : Int × List Visit :=
  match env.describe p.object with
  | .object _ parameters .. =>
    match parameters.find? fun parameter => parameter.1 = p.parameter.getD "" with
    | some parameter => (0, [⟨p.object, none, [(parameter.1, parameter.2 = 0)]⟩])
    | none => (invalidParameterName, [])
  | _ => (invalidParameterName, [])

/-- The walk for the path of a parameter. -/
def walkParameter (path : DmPath) : Int × List Visit :=
  onResolved env d path (visitParameter env)

/-! ### The walk of `DM_AmxParameterNames_prpl.c` -/

/-- The visit to an object that is supported. -/
def visitPrpl (nextlevel : Bool) (path key : List Component) (var : SupportedObject) : Visit where
  object := key
  listed := if !nextlevel || key ≠ path then some var.isMultiInstance else none
  params :=
    if (!nextlevel || key = path) && (!var.isMultiInstance || isInstancePath key) then
      var.params.map fun parameter => (parameter.1, parameter.2 = 1)
    else []

/-- The walk over the objects of the answer. -/
def walkLoopPrpl (nextlevel : Bool) (path : List Component)
    (supported : List Component → Option (Option SupportedObject)) :
    List (List Component) → Int × List Visit
  | [] => (0, [])
  | key :: keys =>
    let rest := walkLoopPrpl nextlevel path supported keys
    if nextlevel ∧ path.length + 1 < key.length then rest
    else
      match supported key with
      | none => (invalidParameterName, [])
      | some none => rest
      | some (some var) => (rest.1, visitPrpl nextlevel path key var :: rest.2)

/-- The walk for an object. -/
def walkNamesPrpl (nextlevel : Bool) (path : List Component) : Int × List Visit :=
  let result := d.answer ⟨path, none⟩ (namesDepth nextlevel)
  if result = [] then (invalidParameterName, [])
  else
    match env.getSupported path nextlevel with
    | none => (invalidParameterName, [])
    | some rslt => walkLoopPrpl nextlevel path (supportedOrAsked env nextlevel rslt)
        ((result.map Prod.fst).mergeSort env.keyOrder.le)

/-- The walk for the path of an object. -/
def walkPartialPathPrpl (path : DmPath) (nextlevel : Bool) : Int × List Visit :=
  onResolved env d path fun p => walkNamesPrpl env d nextlevel p.object

/-- The visit to the object of a parameter. -/
def visitParameterPrpl (p : DmPath) : Int × List Visit :=
  match env.getSupported p.object false with
  | none => (invalidParameterName, [])
  | some table =>
    match ((supportedObject table p.object).map SupportedObject.params).bind
        (List.find? fun parameter => parameter.1 = p.parameter.getD "") with
    | some parameter => (0, [⟨p.object, none, [(parameter.1, parameter.2 = 1)]⟩])
    | none => (0, [])

/-- The walk for the path of a parameter. -/
def walkParameterPrpl (path : DmPath) : Int × List Visit :=
  onResolved env d path (visitParameterPrpl env)

end

/-! ### The list is made of the walk -/

section List

variable {env : NamesEnv} {d : Device} {acspath : DmPath}

theorem listWalk_append (error : Int) (visits visits' : List Visit) :
    listWalk env d acspath (error, visits ++ visits') =
      (error, visits.flatMap (listVisit env d acspath) ++
        visits'.flatMap (listVisit env d acspath)) := by
  rw [listWalk, List.flatMap_append]

theorem listVisit_parameter {o : List Component} {n : String} {writable : Bool} :
    listVisit env d acspath ⟨o, none, [(n, writable)]⟩ =
      getParameterNamesGetParameter env (returnedName env.toReadEnv d acspath ⟨o, none⟩) n
        writable := by
  rw [listVisit, Option.toList_none, List.map_nil, List.nil_append, List.flatMap_singleton]

/-- The loop over what a path is resolved to. -/
theorem forEachResolved_eq {f : DmPath → Int × List (DmPath × Bool)}
    {g : DmPath → Int × List Visit} (h : ∀ p, f p = listWalk env d acspath (g p))
    (ps : List DmPath) : forEachResolved f ps = listWalk env d acspath (forEachResolved g ps) := by
  induction ps with
  | nil => rfl
  | cons p ps ih =>
    have herror : (f p).1 = (g p).1 := by rw [h]; rfl
    rw [forEachResolved, forEachResolved, herror, ih]
    split
    · exact h p
    · rw [listWalk_append, h]
      rfl

theorem onResolved_eq {f : DmPath → Int × List (DmPath × Bool)} {g : DmPath → Int × List Visit}
    {path : DmPath} (h : ∀ p, f p = listWalk env d acspath (g p)) :
    onResolved env d path f = listWalk env d acspath (onResolved env d path g) := by
  rw [onResolved, onResolved]
  split
  · split
    · exact forEachResolved_eq h _
    · rfl
  · rfl

theorem getParameterNamesGetParameters_eq {path : List Component} {incObject : Bool}
    {typeId : Int} {parameters : List (String × Int)} :
    getParameterNamesGetParameters env d acspath path incObject typeId parameters =
      (visitsOf env.amxaIsGetAllowed path incObject typeId parameters).flatMap
        (listVisit env d acspath) := by
  rw [getParameterNamesGetParameters, visitsOf]
  split
  · rw [List.flatMap_singleton, listVisit]
    refine congrArg₂ _ ?_ ?_
    · split <;> rfl
    · split
      · rfl
      · rw [List.flatMap_map]
  · rfl

theorem nextLevelChild_eq {childPath : List Component} {description : Description} :
    nextLevelChild env d acspath childPath description =
      (visitsOfChild env.amxaIsGetAllowed childPath description).flatMap
        (listVisit env d acspath) := by
  cases description with
  | notSupported => rfl
  | failed => rfl
  | object typeId _ _ _ _ =>
    rw [nextLevelChild, visitsOfChild]
    split
    · rw [List.flatMap_singleton]
      rfl
    · rfl

theorem getParameterNamesGetNames_eq {nextlevel : Bool} {path : List Component}
    {description : Description} :
    getParameterNamesGetNames env d nextlevel acspath path description =
      listWalk env d acspath (walkNames env.amxaIsGetAllowed nextlevel path description) := by
  induction description generalizing path with
  | notSupported => rfl
  | failed => rfl
  | object typeId parameters objects instances child ih =>
    rw [getParameterNamesGetNames, walkNames]
    dsimp only
    rw [getParameterNamesGetParameters_eq]
    split
    · rw [listWalk_append, List.flatMap_assoc]
      simp only [nextLevelChild_eq]
    · simp only [ih]
      rw [listWalk_append, List.flatMap_assoc, List.flatMap_map, List.flatMap_map,
        List.getLast?_map, List.getLast?_map, Option.map_map, Option.map_map]
      rfl

/-- **The names of the path of an object** are those of the walk. -/
theorem getParameterNamesPartialPath_eq {nextlevel : Bool} :
    getParameterNamesPartialPath env d acspath nextlevel =
      listWalk env d acspath (walkPartialPath env d acspath nextlevel) :=
  onResolved_eq fun _ => getParameterNamesGetNames_eq

theorem parameterNamesOf_eq {p : DmPath} :
    parameterNamesOf env d acspath p = listWalk env d acspath (visitParameter env p) := by
  rw [parameterNamesOf, visitParameter]
  rcases env.describe p.object with - | - | ⟨typeId, parameters, objects, instances, child⟩
  · rfl
  · rfl
  · dsimp only
    generalize List.find? _ parameters = found
    rcases found with - | parameter
    · rfl
    · dsimp only
      rw [listWalk, List.flatMap_singleton, listVisit_parameter]

/-- **The names of the path of a parameter** are those of the walk. -/
theorem getParameterNamesParameter_eq :
    getParameterNamesParameter env d acspath = listWalk env d acspath
      (walkParameter env d acspath) :=
  onResolved_eq fun _ => parameterNamesOf_eq

theorem namesOfObjectPrpl_eq {nextlevel : Bool} {path key : List Component}
    {var : SupportedObject} : namesOfObjectPrpl env d nextlevel acspath path key var =
      listVisit env d acspath (visitPrpl nextlevel path key var) := by
  rw [namesOfObjectPrpl, listVisit, visitPrpl]
  refine congrArg₂ _ ?_ ?_
  · split <;> rfl
  · split
    · rw [List.flatMap_map]
    · rfl

theorem namesLoopPrpl_eq {nextlevel : Bool} {path : List Component}
    {rslt : List (Option String) → Option SupportedObject} {keys : List (List Component)} :
    namesLoopPrpl env d nextlevel acspath path rslt keys = listWalk env d acspath
      (walkLoopPrpl nextlevel path (supportedOrAsked env nextlevel rslt) keys) := by
  induction keys with
  | nil => rfl
  | cons key keys ih =>
    rw [namesLoopPrpl, walkLoopPrpl]
    split
    · exact ih
    · rcases supportedOrAsked env nextlevel rslt key with - | - | var
      · rfl
      · exact ih
      · dsimp only
        rw [ih, namesOfObjectPrpl_eq]
        rfl

theorem getParameterNamesGetNamesPrpl_eq {nextlevel : Bool} {path : List Component} :
    getParameterNamesGetNamesPrpl env d nextlevel acspath path =
      listWalk env d acspath (walkNamesPrpl env d nextlevel path) := by
  rw [getParameterNamesGetNamesPrpl, walkNamesPrpl]
  split
  · rfl
  · rcases env.getSupported path nextlevel with - | rslt
    · rfl
    · exact namesLoopPrpl_eq

/-- **The names of the path of an object**, in the build for the supported data model. -/
theorem getParameterNamesPartialPathPrpl_eq {nextlevel : Bool} :
    getParameterNamesPartialPathPrpl env d acspath nextlevel =
      listWalk env d acspath (walkPartialPathPrpl env d acspath nextlevel) :=
  onResolved_eq fun _ => getParameterNamesGetNamesPrpl_eq

theorem parameterNamesOfPrpl_eq {p : DmPath} :
    parameterNamesOfPrpl env d acspath p = listWalk env d acspath (visitParameterPrpl env p) := by
  rw [parameterNamesOfPrpl, visitParameterPrpl]
  rcases env.getSupported p.object false with - | table
  · rfl
  · dsimp only
    generalize Option.bind _ _ = found
    rcases found with - | parameter
    · rfl
    · dsimp only
      rw [listWalk, List.flatMap_singleton, listVisit_parameter]

/-- **The names of the path of a parameter**, in the build for the supported data model. -/
theorem getParameterNamesParameterPrpl_eq :
    getParameterNamesParameterPrpl env d acspath = listWalk env d acspath
      (walkParameterPrpl env d acspath) :=
  onResolved_eq fun _ => parameterNamesOfPrpl_eq

end List

/-! ### The objects of the walk -/

section Objects

variable {env : NamesEnv} {d : Device} {path : DmPath} {nextlevel : Bool}

/-- The object is one under the request, with a path of its own. -/
structure UnderRequest (path : DmPath) (o : List Component) : Prop where
  under : Under path o
  concrete : ∀ c ∈ o, c.IsConcrete

theorem UnderRequest.append {o rest : List Component} (h : UnderRequest path o)
    (hrest : ∀ c ∈ rest, c.IsConcrete) : UnderRequest path (o ++ rest) where
  under := h.under.trans (List.prefix_append o rest)
  concrete := fun c hc => (List.mem_append.mp hc).elim (h.concrete c) (hrest c)

/-- What a path is resolved to is under it. -/
theorem underRequest_of_mem_commonResolvePath (hpath : ∀ c ∈ path.object, ∀ a, c ≠ .aliased a)
    {ps : List DmPath} (h : commonResolvePath env d path = some ps) {p : DmPath} (hp : p ∈ ps) :
    UnderRequest path p.object := by
  rw [commonResolvePath] at h
  split at h
  · split at h
    · split at h
      · cases h
      · cases h
        obtain ⟨o, ho, rfl⟩ := List.mem_map.mp hp
        obtain ⟨hkey, hmatch⟩ := List.mem_filter.mp ho
        exact ⟨prefix_of_matchRest (of_decide_eq_true hmatch), (d.concrete o hkey).2⟩
    · cases h
  · next hwild =>
    split at h
    · next hempty =>
      cases h
      obtain rfl := List.mem_singleton.mp hp
      have hnil : path.object = [] := by
        rw [DmPath.isEmpty, Bool.and_eq_true] at hempty
        exact List.isEmpty_iff.mp hempty.1
      refine ⟨?_, fun c hc => ?_⟩
      · rw [Under, hnil]
        exact List.nil_prefix
      · rw [List.mem_singleton.mp hc]
        exact trivial
    · cases h
      obtain rfl := List.mem_singleton.mp hp
      refine ⟨List.takeWhile_prefix _, fun c hc => ?_⟩
      cases c with
      | name _ => exact trivial
      | index _ => exact trivial
      | aliased a => exact absurd rfl (hpath _ hc a)
      | wildcard => exact absurd (List.contains_iff_mem.mpr hc) hwild

theorem mem_forEachResolved {f : DmPath → Int × List Visit} {ps : List DmPath} {v : Visit}
    (h : v ∈ (forEachResolved f ps).2) : ∃ p ∈ ps, v ∈ (f p).2 := by
  induction ps with
  | nil => cases h
  | cons p ps ih =>
    rw [forEachResolved] at h
    split at h
    · exact ⟨p, List.mem_cons_self, h⟩
    · rcases List.mem_append.mp h with h | h
      · exact ⟨p, List.mem_cons_self, h⟩
      · obtain ⟨q, hq, hv⟩ := ih h
        exact ⟨q, List.mem_cons_of_mem p hq, hv⟩

/-- A visit is one to what the path is resolved to. -/
theorem mem_onResolved {f : DmPath → Int × List Visit} {v : Visit}
    (hpath : ∀ c ∈ path.object, ∀ a, c ≠ .aliased a) (h : v ∈ (onResolved env d path f).2) :
    ∃ p, UnderRequest path p.object ∧ v ∈ (f p).2 := by
  rw [onResolved] at h
  split at h
  · split at h
    · next ps hps =>
      obtain ⟨p, hp, hv⟩ := mem_forEachResolved h
      exact ⟨p, underRequest_of_mem_commonResolvePath hpath hps hp, hv⟩
    · cases h
  · cases h

theorem sortedChildren_concrete {typeId : Int} {objects : List String} {instances : List ℕ} :
    ∀ c ∈ sortedChildren typeId objects instances, c.IsConcrete := by
  intro c hc
  rw [sortedChildren] at hc
  split at hc
  · obtain ⟨k, -, rfl⟩ := List.mem_map.mp hc
    exact trivial
  · obtain ⟨t, -, rfl⟩ := List.mem_map.mp hc
    exact trivial

theorem object_of_mem_visitsOf {allowed : DmPath → Bool} {o : List Component} {incObject : Bool}
    {typeId : Int} {parameters : List (String × Int)} {v : Visit}
    (h : v ∈ visitsOf allowed o incObject typeId parameters) : v.object = o := by
  rw [visitsOf] at h
  split at h
  · rw [List.mem_singleton.mp h]
  · cases h

theorem object_of_mem_visitsOfChild {allowed : DmPath → Bool} {o : List Component}
    {description : Description} {v : Visit} (h : v ∈ visitsOfChild allowed o description) :
    v.object = o := by
  cases description with
  | notSupported => cases h
  | failed => cases h
  | object typeId _ _ _ _ =>
    rw [visitsOfChild] at h
    split at h
    · rw [List.mem_singleton.mp h]
    · cases h

theorem underRequest_walkNames {allowed : DmPath → Bool} {o : List Component}
    {description : Description} (ho : UnderRequest path o) {v : Visit}
    (h : v ∈ (walkNames allowed nextlevel o description).2) : UnderRequest path v.object := by
  induction description generalizing o with
  | notSupported => cases h
  | failed => cases h
  | object typeId parameters objects instances child ih =>
    have hchild : ∀ c ∈ sortedChildren typeId objects instances, UnderRequest path (o ++ [c]) :=
      fun c hc => ho.append fun x hx => List.mem_singleton.mp hx ▸ sortedChildren_concrete c hc
    rw [walkNames] at h
    dsimp only at h
    split at h
    · rcases List.mem_append.mp h with h | h
      · rwa [object_of_mem_visitsOf h]
      · obtain ⟨c, hc, hv⟩ := List.mem_flatMap.mp h
        rw [object_of_mem_visitsOfChild hv]
        exact hchild c hc
    · rcases List.mem_append.mp h with h | h
      · rwa [object_of_mem_visitsOf h]
      · rw [List.flatMap_map] at h
        obtain ⟨c, hc, hv⟩ := List.mem_flatMap.mp h
        exact ih c (hchild c hc) hv

theorem mem_walkLoopPrpl {o : List Component}
    {supported : List Component → Option (Option SupportedObject)} {keys : List (List Component)}
    {v : Visit} (h : v ∈ (walkLoopPrpl nextlevel o supported keys).2) : v.object ∈ keys := by
  induction keys with
  | nil => cases h
  | cons key keys ih =>
    rw [walkLoopPrpl] at h
    split at h
    · exact List.mem_cons_of_mem key (ih h)
    · split at h
      · cases h
      · exact List.mem_cons_of_mem key (ih h)
      · rcases List.mem_cons.mp h with rfl | h
        · exact List.mem_cons_self
        · exact List.mem_cons_of_mem key (ih h)

/-- The objects of an answer are in the object that is asked for. -/
theorem underRequest_of_mem_answer {o key : List Component} {depth : ℤ}
    (ho : UnderRequest path o) (h : key ∈ (d.answer ⟨o, none⟩ depth).map Prod.fst) :
    UnderRequest path key := by
  obtain ⟨e, he, rfl⟩ := List.mem_map.mp h
  obtain ⟨⟨key, t⟩, hmem, hanswer⟩ := List.mem_filterMap.mp he
  have hkey : key ∈ d.objects.keys := List.mem_map.mpr ⟨(key, t), hmem, rfl⟩
  rw [answerOf] at hanswer
  split at hanswer
  · split at hanswer
    · next hselects =>
      cases hanswer
      refine ⟨ho.under.trans ?_, (d.concrete key hkey).2⟩
      rw [selects] at hselects
      split at hselects
      · cases hselects
      · next rest hmatch =>
        have hpre := prefix_of_matchRest hmatch
        rwa [fixedPart_of_not_mem fun hw => ho.concrete _ hw] at hpre
    · cases hanswer
  · next n hparam => cases hparam

theorem underRequest_walkNamesPrpl {o : List Component} (ho : UnderRequest path o) {v : Visit}
    (h : v ∈ (walkNamesPrpl env d nextlevel o).2) : UnderRequest path v.object := by
  rw [walkNamesPrpl] at h
  split at h
  · cases h
  · split at h
    · cases h
    · exact underRequest_of_mem_answer ho (List.mem_mergeSort.mp (mem_walkLoopPrpl h))

/-- **The objects of a walk** are under the request. -/
theorem underRequest_walkPartialPath (hpath : ∀ c ∈ path.object, ∀ a, c ≠ .aliased a) {v : Visit}
    (h : v ∈ (walkPartialPath env d path nextlevel).2) : UnderRequest path v.object := by
  obtain ⟨p, hp, hv⟩ := mem_onResolved hpath h
  exact underRequest_walkNames hp hv

theorem underRequest_walkPartialPathPrpl (hpath : ∀ c ∈ path.object, ∀ a, c ≠ .aliased a)
    {v : Visit} (h : v ∈ (walkPartialPathPrpl env d path nextlevel).2) :
    UnderRequest path v.object := by
  obtain ⟨p, hp, hv⟩ := mem_onResolved hpath h
  exact underRequest_walkNamesPrpl hp hv

theorem underRequest_walkParameter (hpath : ∀ c ∈ path.object, ∀ a, c ≠ .aliased a) {v : Visit}
    (h : v ∈ (walkParameter env d path).2) : UnderRequest path v.object := by
  obtain ⟨p, hp, hv⟩ := mem_onResolved hpath h
  have hobject : v.object = p.object := by
    rw [visitParameter] at hv
    split at hv
    · split at hv
      · rw [List.mem_singleton.mp hv]
      · cases hv
    · cases hv
  rwa [hobject]

theorem underRequest_walkParameterPrpl (hpath : ∀ c ∈ path.object, ∀ a, c ≠ .aliased a)
    {v : Visit} (h : v ∈ (walkParameterPrpl env d path).2) : UnderRequest path v.object := by
  obtain ⟨p, hp, hv⟩ := mem_onResolved hpath h
  have hobject : v.object = p.object := by
    rw [visitParameterPrpl] at hv
    split at hv
    · cases hv
    · split at hv
      · rw [List.mem_singleton.mp hv]
      · cases hv
  rwa [hobject]

end Objects

end Tr069.Parameters
