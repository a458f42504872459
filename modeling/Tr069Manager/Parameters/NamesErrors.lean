import Mathlib.Data.List.Nodup
import Tr069Manager.Parameters.InstanceMode

/-!
# Errors in the walk over the objects

`DM_ENG_Device_GetParameterNames_GetNames` of `DM_AmxParameterNames.c`, with `NextLevel` false,
asks the bus to describe an object and calls itself for each of the objects in it. The error of
such a call is put into the one variable `error`, over the one of the call before, and the loop
goes on. Two errors of the bus are no errors here, and the object is skipped for them; and an
object whose parameters cannot be listed, as one has no name, is an error as well.

The objects are those the bus describes, as a tree in which each of them fails, is skipped or has
parameters and objects in it (`BusObject`). With all names there, the walk is the one of
`getParameterNamesGetNames` (`BusObject.getNames_toDescription`).

What is returned is the error of the object that is met by going to the last of the children, as
long as there is one (`BusObject.failsLast_iff`). An error anywhere else is lost, and the list is
returned without the names below it as if it were complete. Where no object fails the list is
complete, and has everything once (`BusObject.placed_eq`, `BusObject.nodup_placed`).
-/

namespace Tr069.Parameters

/-! ### The data -/

/-- A parameter in what `amxb_describe` gives: its `name`, and `read-only` of its attributes. -/
structure DescribedParameter where
  name : Option String
  readOnly : Int

/-- An object in what `amxb_describe` gives: its type, the table of its parameters, and the
objects and the instances in it, each of them once. -/
structure DescribedObject where
  typeId : Int
  parameters : List (String × DescribedParameter)
  objects : List String
  instances : List ℕ
  parameters_nodup : (parameters.map Prod.fst).Nodup
  objects_nodup : objects.Nodup
  instances_nodup : instances.Nodup

/-- What `amxb_describe` gives for an object: an error, or nothing where the error is zero; or the
object, and the same for each of those in it. -/
inductive BusObject where
  | undescribed (rv : Int)
  | described (object : DescribedObject) (child : Component → BusObject)

/-- What a request for names depends on: the environment and the device, the path of the request,
and the two errors of the bus for which an object is skipped. -/
structure NamesRequest where
  env : NamesEnv
  device : Device
  acspath : DmPath
  notSupportedScheme : Int
  notSupportedOp : Int

namespace NamesRequest

variable (r : NamesRequest)

/-- The path that an object is returned with. -/
def objectPath (path : List Component) : DmPath :=
  returnedName r.env.toReadEnv r.device r.acspath ⟨path, none⟩

/-- The object can be read. -/
def allowed (path : List Component) : Bool := r.env.amxaIsGetAllowed ⟨path, none⟩

/-- The error where `amxb_describe` has failed, or has given nothing. -/
def describeError (rv : Int) : Int :=
  if rv = r.notSupportedScheme ∨ rv = r.notSupportedOp then 0 else invalidParameterName

/-- The loop over the parameters of an object, in the order of their keys: it stops at one without
a name. -/
def getParametersLoop (objectPath : DmPath) :
    List (String × DescribedParameter) → Bool × List (DmPath × Bool)
  | [] => (true, [])
  | parameter :: parameters =>
    match parameter.2.name with
    | none => (false, [])
    | some name =>
      let rest := getParametersLoop objectPath parameters
      (rest.1, getParameterNamesGetParameter r.env objectPath name (parameter.2.readOnly = 0) ++
        rest.2)

/-- `DM_ENG_Device_GetParameterNames_GetParameters`, with the object included. -/
def getParameters (path : List Component) (object : DescribedObject) :
    Bool × List (DmPath × Bool) :=
  if r.allowed path then
    let listed := [(r.objectPath path, isWritableType object.typeId)]
    if object.typeId = templateType then (true, listed)
    else
      let result := r.getParametersLoop (r.objectPath path)
        (object.parameters.mergeSort fun a b => a.1 ≤ b.1)
      (result.1, listed ++ result.2)
  else (true, [])

end NamesRequest

/-- The objects that are visited in an object. -/
def DescribedObject.children (object : DescribedObject) : List Component :=
  sortedChildren object.typeId object.objects object.instances

namespace BusObject

variable (r : NamesRequest)

/-- `DM_ENG_Device_GetParameterNames_GetNames`, with `NextLevel` false: the error of the last child
is the error. -/
def getNames : List Component → BusObject → Int × List (DmPath × Bool)
  | _, .undescribed rv => (r.describeError rv, [])
  | path, .described object child =>
    let own := r.getParameters path object
    if own.1 then
      let results := object.children.map fun c => getNames (path ++ [c]) (child c)
      ((results.getLast?.map Prod.fst).getD 0, own.2 ++ results.flatMap Prod.snd)
    else (invalidParameterName, own.2)

/-! ### The objects that are visited -/

/-- What the bus gives for an object in this one. -/
def child : BusObject → Component → BusObject
  | .undescribed rv => fun _ => .undescribed rv
  | .described _ child => child

/-- The object itself fails: it is not described, for a reason that does not let it be skipped, or
its parameters cannot be listed. -/
def ownError (path : List Component) : BusObject → Int
  | .undescribed rv => r.describeError rv
  | .described object _ => if (r.getParameters path object).1 then 0 else invalidParameterName

/-- The objects in this one that the walk goes on to. -/
def visitedChildren (path : List Component) : BusObject → List Component
  | .undescribed _ => []
  | .described object _ => if (r.getParameters path object).1 then object.children else []

/-- What is added to the list for the object itself. -/
def ownNames (path : List Component) : BusObject → List (DmPath × Bool)
  | .undescribed _ => []
  | .described object _ => (r.getParameters path object).2

/-- The descendants that the walk visits, with their paths. -/
inductive Visited : List Component → BusObject → List Component → BusObject → Prop
  | self (path : List Component) (t : BusObject) : Visited path t path t
  | inside {path p : List Component} {t u : BusObject} {c : Component}
      (hc : c ∈ t.visitedChildren r path) (h : Visited (path ++ [c]) (t.child c) p u) :
      Visited path t p u

/-- The descendants that are met by going to the last child, again and again. -/
inductive VisitedLast : List Component → BusObject → List Component → BusObject → Prop
  | self (path : List Component) (t : BusObject) : VisitedLast path t path t
  | inside {path p : List Component} {t u : BusObject} {c : Component}
      (hc : (t.visitedChildren r path).getLast? = some c)
      (h : VisitedLast (path ++ [c]) (t.child c) p u) : VisitedLast path t p u

/-- A visited descendant fails. -/
def Fails (path : List Component) (t : BusObject) : Prop :=
  ∃ p u, Visited r path t p u ∧ u.ownError r p ≠ 0

/-- A descendant fails that is met by going to the last child. -/
def FailsLast (path : List Component) (t : BusObject) : Prop :=
  ∃ p u, VisitedLast r path t p u ∧ u.ownError r p ≠ 0

variable {r} {path : List Component} {t : BusObject}

/-- What a call returns, by what it does itself and the calls it makes. -/
theorem getNames_eq : getNames r path t =
    (((t.visitedChildren r path).getLast?.map fun c =>
        (getNames r (path ++ [c]) (t.child c)).1).getD (t.ownError r path),
      t.ownNames r path ++ (t.visitedChildren r path).flatMap fun c =>
        (getNames r (path ++ [c]) (t.child c)).2) := by
  cases t with
  | undescribed rv => rfl
  | described object child =>
    rw [getNames, ownNames, visitedChildren, ownError]
    rcases hown : (r.getParameters path object).1 with - | -
    · simp
    · simp only [if_true]
      rw [List.getLast?_map, Option.map_map, List.flatMap_map]
      rfl

/-- An object that the walk goes on from has not failed. -/
theorem ownError_of_mem {c : Component} (hc : c ∈ t.visitedChildren r path) :
    t.ownError r path = 0 := by
  cases t with
  | undescribed rv => cases hc
  | described object child =>
    rw [visitedChildren] at hc
    split at hc
    · next hown => rw [ownError, if_pos hown]
    · cases hc

theorem fails_iff : t.Fails r path ↔
    t.ownError r path ≠ 0 ∨ ∃ c ∈ t.visitedChildren r path, (t.child c).Fails r (path ++ [c]) := by
  constructor
  · rintro ⟨p, u, hvisited, hfails⟩
    cases hvisited with
    | self => exact Or.inl hfails
    | inside hc h => exact Or.inr ⟨_, hc, p, u, h, hfails⟩
  · rintro (hfails | ⟨c, hc, p, u, h, hfails⟩)
    · exact ⟨path, t, .self path t, hfails⟩
    · exact ⟨p, u, .inside hc h, hfails⟩

theorem failsLast_cases : t.FailsLast r path ↔
    t.ownError r path ≠ 0 ∨ ∃ c, (t.visitedChildren r path).getLast? = some c ∧
      (t.child c).FailsLast r (path ++ [c]) := by
  constructor
  · rintro ⟨p, u, hvisited, hfails⟩
    cases hvisited with
    | self => exact Or.inl hfails
    | inside hc h => exact Or.inr ⟨_, hc, p, u, h, hfails⟩
  · rintro (hfails | ⟨c, hc, p, u, h, hfails⟩)
    · exact ⟨path, t, .self path t, hfails⟩
    · exact ⟨p, u, .inside hc h, hfails⟩

/-- **What is returned is the last error**: the call fails exactly if a descendant does that is met
by going to the last child. -/
theorem failsLast_iff : (getNames r path t).1 ≠ 0 ↔ t.FailsLast r path := by
  induction t generalizing path with
  | undescribed rv =>
    rw [getNames_eq, failsLast_cases]
    simp [visitedChildren]
  | described object child ih =>
    rw [getNames_eq, failsLast_cases]
    rcases hlast : (visitedChildren r path (.described object child)).getLast? with - | c
    · simp
    · have hown := ownError_of_mem (List.mem_of_getLast? hlast)
      simp only [hown, Option.map_some, Option.getD_some, ne_eq, not_true_eq_false, false_or,
        Option.some_inj, exists_eq_left']
      exact ih c

theorem FailsLast.fails (h : t.FailsLast r path) : t.Fails r path := by
  obtain ⟨p, u, hvisited, hfails⟩ := h
  refine ⟨p, u, ?_, hfails⟩
  clear hfails
  induction hvisited with
  | self path t => exact .self path t
  | inside hc _ ih => exact .inside (List.mem_of_getLast? hc) ih

/-! ### The walk where all names are there -/

/-- Each parameter of the objects has its key as its name. -/
def Named : BusObject → Prop
  | .undescribed _ => True
  | .described object child =>
    (∀ parameter ∈ object.parameters, parameter.2.name = some parameter.1) ∧ ∀ c, Named (child c)

variable (r) in
/-- What the bus gives, with the two errors for which an object is skipped told from the others. -/
def toDescription : BusObject → Description
  | .undescribed rv => if r.describeError rv = 0 then .notSupported else .failed
  | .described object child =>
    .object object.typeId (object.parameters.map fun p => (p.1, p.2.readOnly)) object.objects
      object.instances fun c => toDescription (child c)

/-- An error of `amxb_describe` is the one error there is. -/
theorem describeError_ne_zero {rv : Int} (h : r.describeError rv ≠ 0) :
    r.describeError rv = invalidParameterName := by
  rw [NamesRequest.describeError] at h ⊢
  split at h
  · exact absurd rfl h
  · next hother => rw [if_neg hother]

theorem getParametersLoop_named {objectPath : DmPath}
    {parameters : List (String × DescribedParameter)}
    (h : ∀ parameter ∈ parameters, parameter.2.name = some parameter.1) :
    r.getParametersLoop objectPath parameters = (true, parameters.flatMap fun parameter =>
      getParameterNamesGetParameter r.env objectPath parameter.1 (parameter.2.readOnly = 0)) := by
  induction parameters with
  | nil => rfl
  | cons parameter parameters ih =>
    rw [NamesRequest.getParametersLoop, h parameter List.mem_cons_self,
      ih fun p hp => h p (List.mem_cons_of_mem _ hp), List.flatMap_cons]

/-- What is listed for an object whose parameters have their names. -/
theorem getParameters_named {object : DescribedObject}
    (h : ∀ parameter ∈ object.parameters, parameter.2.name = some parameter.1) :
    r.getParameters path object = (true, getParameterNamesGetParameters r.env r.device r.acspath
      path true object.typeId (object.parameters.map fun p => (p.1, p.2.readOnly))) := by
  have hsorted : (object.parameters.map fun p => (p.1, p.2.readOnly)).mergeSort
      (fun a b => decide (a.1 ≤ b.1)) = (object.parameters.mergeSort fun a b =>
        decide (a.1 ≤ b.1)).map fun p => (p.1, p.2.readOnly) :=
    (List.map_mergeSort (f := fun p : String × DescribedParameter => (p.1, p.2.readOnly))
      fun _ _ _ _ => rfl).symm
  have hnames : ∀ p ∈ object.parameters.mergeSort fun a b => decide (a.1 ≤ b.1),
      p.2.name = some p.1 := fun p hp => h p (List.mem_mergeSort.mp hp)
  rw [NamesRequest.getParameters, getParameterNamesGetParameters, NamesRequest.allowed]
  split
  · dsimp only
    rw [hsorted, getParametersLoop_named hnames, List.flatMap_map]
    split <;> rfl
  · rfl

/-- **The walk is the one over what is described**, where all names are there. -/
theorem getNames_toDescription (h : t.Named) : getNames r path t =
    getParameterNamesGetNames r.env r.device false r.acspath path (t.toDescription r) := by
  induction t generalizing path with
  | undescribed rv =>
    rw [getNames, toDescription]
    by_cases hrv : r.describeError rv = 0
    · rw [if_pos hrv, hrv]
      rfl
    · rw [if_neg hrv, describeError_ne_zero hrv]
      rfl
  | described object child ih =>
    rw [getNames, toDescription, getParameterNamesGetNames, getParameters_named h.1]
    simp only [Bool.not_false, if_true, Bool.false_eq_true, if_false]
    have hresults : object.children.map (fun c => getNames r (path ++ [c]) (child c)) =
        (sortedChildren object.typeId object.objects object.instances).map fun c =>
          getParameterNamesGetNames r.env r.device false r.acspath (path ++ [c])
            ((child c).toDescription r) :=
      List.map_congr_left fun c _ => ih c (h.2 c)
    rw [hresults]

end BusObject

/-! ### What can be read -/

/-- Where something stands in a tree: the names down to its object, and the key of a parameter. -/
abbrev Place := List Component × Option String

/-- What can be read of an object, and of the objects in it: an object the rules allow, and of
such an object, unless it is a template, the parameters the rules allow, with the path each of
them is returned with and whether it can be written. -/
inductive Readable (r : NamesRequest) :
    List Component → BusObject → Place → DmPath × Bool → Prop
  | object {path : List Component} {object : DescribedObject} {child : Component → BusObject}
      (hallowed : r.allowed path = true) :
      Readable r path (.described object child) ([], none)
        (r.objectPath path, isWritableType object.typeId)
  | parameter {path : List Component} {object : DescribedObject} {child : Component → BusObject}
      {key name : String} {parameter : DescribedParameter} (hallowed : r.allowed path = true)
      (htype : object.typeId ≠ templateType) (hmem : (key, parameter) ∈ object.parameters)
      (hname : parameter.name = some name)
      (hparameter : r.env.amxaIsGetAllowed ⟨(r.objectPath path).object, some name⟩ = true) :
      Readable r path (.described object child) ([], some key)
        (⟨(r.objectPath path).object, some name⟩, decide (parameter.readOnly = 0))
  | inside {path : List Component} {object : DescribedObject} {child : Component → BusObject}
      {c : Component} {o : List Component} {key : Option String} {entry : DmPath × Bool}
      (hc : c ∈ object.children) (h : Readable r (path ++ [c]) (child c) (o, key) entry) :
      Readable r path (.described object child) (c :: o, key) entry

namespace NamesRequest

variable (r : NamesRequest)

/-- What is listed for a parameter, with its place. -/
def placedParameter (path : List Component) (parameter : String × DescribedParameter) :
    List (Place × (DmPath × Bool)) :=
  parameter.2.name.toList.flatMap fun name =>
    (getParameterNamesGetParameter r.env (r.objectPath path) name
      (parameter.2.readOnly = 0)).map fun entry => (([], some parameter.1), entry)

/-- What is listed for an object itself, with the places. -/
def placedOwn (path : List Component) (object : DescribedObject) :
    List (Place × (DmPath × Bool)) :=
  if r.allowed path then
    (([], none), (r.objectPath path, isWritableType object.typeId)) ::
      if object.typeId = templateType then []
      else (object.parameters.mergeSort fun a b => a.1 ≤ b.1).flatMap (r.placedParameter path)
  else []

/-- The place of something in a child is inside of the object. -/
def insideOf (c : Component) (x : Place × (DmPath × Bool)) : Place × (DmPath × Bool) :=
  ((c :: x.1.1, x.1.2), x.2)

end NamesRequest

namespace BusObject

variable (r : NamesRequest)

/-- What is listed for an object and those in it where none of them fails, with the places. -/
def placed : List Component → BusObject → List (Place × (DmPath × Bool))
  | _, .undescribed _ => []
  | path, .described object child =>
    r.placedOwn path object ++ object.children.flatMap fun c =>
      (placed (path ++ [c]) (child c)).map (NamesRequest.insideOf c)

variable {r} {path : List Component} {t : BusObject}

theorem mem_placedParameter {parameter : String × DescribedParameter}
    {x : Place × (DmPath × Bool)} : x ∈ r.placedParameter path parameter ↔
      ∃ name, parameter.2.name = some name ∧
        r.env.amxaIsGetAllowed ⟨(r.objectPath path).object, some name⟩ = true ∧
        x = (([], some parameter.1), (⟨(r.objectPath path).object, some name⟩,
          decide (parameter.2.readOnly = 0))) := by
  rw [NamesRequest.placedParameter]
  rcases parameter.2.name with - | name
  · simp
  · rw [Option.toList_some, List.flatMap_singleton, getParameterNamesGetParameter]
    by_cases hallowed : r.env.amxaIsGetAllowed ⟨(r.objectPath path).object, some name⟩ = true
    · simp [hallowed]
    · simp [hallowed]

/-- **Everything that can be read has its place in the list**, and nothing else. -/
theorem mem_placed {x : Place × (DmPath × Bool)} :
    x ∈ t.placed r path ↔ Readable r path t x.1 x.2 := by
  induction t generalizing path x with
  | undescribed rv =>
    refine ⟨fun h => absurd h List.not_mem_nil, fun h => ?_⟩
    cases h
  | described object child ih =>
    rw [placed, List.mem_append, NamesRequest.placedOwn]
    constructor
    · rintro (h | h)
      · split at h
        · next hallowed =>
          rcases List.mem_cons.mp h with rfl | h
          · exact .object hallowed
          · split at h
            · cases h
            · next htype =>
              obtain ⟨⟨key, parameter⟩, hmem, hx⟩ := List.mem_flatMap.mp h
              obtain ⟨name, hname, hparameter, rfl⟩ := mem_placedParameter.mp hx
              exact .parameter hallowed htype (List.mem_mergeSort.mp hmem) hname hparameter
        · cases h
      · obtain ⟨c, hc, hx⟩ := List.mem_flatMap.mp h
        obtain ⟨⟨⟨o, key⟩, entry⟩, hmem, rfl⟩ := List.mem_map.mp hx
        exact .inside hc ((ih c).mp hmem)
    · intro h
      obtain ⟨⟨o, key⟩, entry⟩ := x
      cases h with
      | object hallowed =>
        rw [if_pos hallowed]
        exact Or.inl List.mem_cons_self
      | parameter hallowed htype hmem hname hparameter =>
        rw [if_pos hallowed, if_neg htype]
        refine Or.inl (List.mem_cons_of_mem _ (List.mem_flatMap.mpr
          ⟨_, List.mem_mergeSort.mpr hmem, mem_placedParameter.mpr ⟨_, hname, hparameter, rfl⟩⟩))
      | @inside _ _ _ c o _ _ hc h =>
        exact Or.inr (List.mem_flatMap.mpr
          ⟨c, hc, List.mem_map.mpr ⟨((o, key), entry), (ih c).mpr h, rfl⟩⟩)

theorem children_nodup (object : DescribedObject) : object.children.Nodup := by
  rw [DescribedObject.children, sortedChildren]
  split
  · refine List.Nodup.map (fun a b h => Component.index.inj h) ?_
    exact (List.mergeSort_perm _ _).nodup_iff.mpr object.instances_nodup
  · refine List.Nodup.map (fun a b h => Component.name.inj h) ?_
    exact (List.mergeSort_perm _ _).nodup_iff.mpr object.objects_nodup

/-- What is listed for the parameters is at most one entry for each key. -/
theorem placedParameter_sublist {parameter : String × DescribedParameter} :
    ((r.placedParameter path parameter).map Prod.fst).Sublist [([], some parameter.1)] := by
  rw [NamesRequest.placedParameter]
  rcases parameter.2.name with - | name
  · exact List.nil_sublist _
  · rw [Option.toList_some, List.flatMap_singleton, getParameterNamesGetParameter]
    split
    · exact List.Sublist.refl _
    · exact List.nil_sublist _

theorem placedParameters_sublist (parameters : List (String × DescribedParameter)) :
    ((parameters.flatMap (r.placedParameter path)).map Prod.fst).Sublist
      (parameters.map fun parameter => ([], some parameter.1)) := by
  induction parameters with
  | nil => exact List.Sublist.refl _
  | cons parameter parameters ih =>
    rw [List.flatMap_cons, List.map_append, List.map_cons]
    exact placedParameter_sublist.append ih

theorem nodup_placedOwn (object : DescribedObject) :
    ((r.placedOwn path object).map Prod.fst).Nodup := by
  rw [NamesRequest.placedOwn]
  split
  · rw [List.map_cons]
    split
    · exact List.nodup_singleton _
    · have hsub := @placedParameters_sublist r path
        (object.parameters.mergeSort fun a b => a.1 ≤ b.1)
      have hkeys : ((object.parameters.mergeSort fun a b => decide (a.1 ≤ b.1)).map
          fun parameter => (([] : List Component), some parameter.1)).Nodup := by
        have hperm := (List.mergeSort_perm object.parameters fun a b => decide (a.1 ≤ b.1)).map
          Prod.fst
        have hnodup := hperm.nodup_iff.mpr object.parameters_nodup
        have hmap := hnodup.map (f := fun key : String => (([] : List Component), some key))
          fun a b h => Option.some.inj (Prod.mk.inj h).2
        rwa [List.map_map] at hmap
      refine List.nodup_cons.mpr ⟨fun h => ?_, hkeys.sublist hsub⟩
      obtain ⟨parameter, -, hplace⟩ := List.mem_map.mp (hsub.subset h)
      cases (Prod.mk.inj hplace).2
  · exact List.nodup_nil

/-- The places for the object itself are not inside of a child. -/
theorem object_of_mem_placedOwn {object : DescribedObject} {x : Place × (DmPath × Bool)}
    (h : x ∈ r.placedOwn path object) : x.1.1 = [] := by
  rw [NamesRequest.placedOwn] at h
  split at h
  · rcases List.mem_cons.mp h with rfl | h
    · rfl
    · split at h
      · cases h
      · obtain ⟨parameter, -, hx⟩ := List.mem_flatMap.mp h
        obtain ⟨name, -, -, rfl⟩ := mem_placedParameter.mp hx
        rfl
  · cases h

/-- **Nothing has two places** in the list. -/
theorem nodup_placed : ((t.placed r path).map Prod.fst).Nodup := by
  induction t generalizing path with
  | undescribed rv => exact List.nodup_nil
  | described object child ih =>
    have hinside : ∀ c, (((child c).placed r (path ++ [c])).map
        (NamesRequest.insideOf c)).map Prod.fst =
          (((child c).placed r (path ++ [c])).map Prod.fst).map
            fun place => (c :: place.1, place.2) := by
      intro c
      rw [List.map_map, List.map_map]
      rfl
    rw [placed, List.map_append, List.map_flatMap, List.nodup_append]
    refine ⟨nodup_placedOwn object, ?_, ?_⟩
    · rw [List.nodup_flatMap]
      constructor
      · intro c _
        rw [hinside c]
        refine (ih c).map fun a b h => ?_
        obtain ⟨hcons, hkey⟩ := Prod.mk.inj h
        exact Prod.ext (List.cons.inj hcons).2 hkey
      · refine (children_nodup object).imp fun {c c'} hne => ?_
        intro place hplace hplace'
        simp only [hinside] at hplace hplace'
        obtain ⟨a, -, rfl⟩ := List.mem_map.mp hplace
        obtain ⟨b, -, hb⟩ := List.mem_map.mp hplace'
        exact hne (List.cons.inj (Prod.mk.inj hb).1).1.symm
    · intro place hown place' hchild heq
      subst heq
      obtain ⟨x, hx, rfl⟩ := List.mem_map.mp hown
      have hnil := object_of_mem_placedOwn hx
      obtain ⟨c, -, hmem⟩ := List.mem_flatMap.mp hchild
      rw [hinside c] at hmem
      obtain ⟨a, -, ha⟩ := List.mem_map.mp hmem
      rw [← ha] at hnil
      cases hnil

/-! ### The list -/

/-- The parameters that can be listed are listed with their places. -/
theorem getParametersLoop_eq {parameters : List (String × DescribedParameter)}
    (h : (r.getParametersLoop (r.objectPath path) parameters).1 = true) :
    (parameters.flatMap (r.placedParameter path)).map Prod.snd =
      (r.getParametersLoop (r.objectPath path) parameters).2 := by
  induction parameters with
  | nil => rfl
  | cons parameter parameters ih =>
    rw [NamesRequest.getParametersLoop] at h ⊢
    rw [List.flatMap_cons, List.map_append, NamesRequest.placedParameter]
    rcases hname : parameter.2.name with - | name
    · rw [hname] at h
      cases h
    · rw [hname] at h
      simp only at h ⊢
      rw [ih h, Option.toList_some, List.flatMap_singleton, List.map_map]
      exact congrArg (· ++ _) (List.map_id _)

theorem placedOwn_eq {object : DescribedObject} (h : (r.getParameters path object).1 = true) :
    (r.placedOwn path object).map Prod.snd = (r.getParameters path object).2 := by
  rw [NamesRequest.getParameters] at h ⊢
  rw [NamesRequest.placedOwn]
  split
  · next hallowed =>
    rw [if_pos hallowed] at h
    simp only at h ⊢
    split
    · rfl
    · next htype =>
      rw [if_neg htype] at h
      rw [List.map_cons, getParametersLoop_eq h]
      rfl
  · rfl

/-- **Where nothing fails the list is complete.** -/
theorem placed_eq (h : ¬t.Fails r path) :
    (t.placed r path).map Prod.snd = (getNames r path t).2 := by
  induction t generalizing path with
  | undescribed rv => rfl
  | described object child ih =>
    rw [fails_iff, not_or, not_exists] at h
    obtain ⟨hown, hchildren⟩ := h
    have hparameters : (r.getParameters path object).1 = true := by
      by_contra hfalse
      rw [ownError, if_neg hfalse] at hown
      exact hown (by decide)
    have hvisited : visitedChildren r path (.described object child) = object.children := by
      rw [visitedChildren, if_pos hparameters]
    rw [getNames_eq, placed, List.map_append, placedOwn_eq hparameters, hvisited, List.map_flatMap,
      ownNames]
    refine congrArg (_ ++ ·) (List.flatMap_congr fun c hc => ?_)
    rw [List.map_map]
    exact ih c fun hfails => hchildren c ⟨hvisited ▸ hc, hfails⟩

/-! ### The property and the condition -/

variable (r) in
/-- **The property**: the call fails exactly if a visited descendant does, and where it does not,
the list has everything that can be read, each once. -/
structure NamesRight (path : List Component) (t : BusObject) : Prop where
  error : (getNames r path t).1 ≠ 0 ↔ t.Fails r path
  complete : (getNames r path t).1 = 0 → ∃ places : List Place,
    places.Nodup ∧ places.length = (getNames r path t).2.length ∧
      ∀ place entry, (place, entry) ∈ places.zip (getNames r path t).2 ↔
        Readable r path t place entry

/-- **No error is lost** exactly if no visited object fails, or one fails that is met by going to
the last child. -/
theorem namesRight_iff (r : NamesRequest) (path : List Component) (t : BusObject) :
    NamesRight r path t ↔ (t.Fails r path → t.FailsLast r path) := by
  constructor
  · exact fun h hfails => failsLast_iff.mp (h.error.mpr hfails)
  · intro h
    refine ⟨⟨fun herror => (failsLast_iff.mp herror).fails, fun hfails =>
      failsLast_iff.mpr (h hfails)⟩, fun herror => ?_⟩
    have hnone : ¬t.Fails r path := fun hfails => failsLast_iff.mpr (h hfails) herror
    refine ⟨(t.placed r path).map Prod.fst, nodup_placed, ?_, fun place entry => ?_⟩
    · rw [← placed_eq hnone, List.length_map, List.length_map]
    · have hzip : ((t.placed r path).map Prod.fst).zip ((t.placed r path).map Prod.snd) =
          t.placed r path := (List.zip_of_prod rfl rfl).symm
      rw [← placed_eq hnone, hzip]
      exact mem_placed

/-! ### A child that is not described -/

/-- A request for all names, with two other errors for an object that is skipped. -/
def allNames : NamesRequest where
  env := firstNameDenied
  device := firstNameDevice
  acspath := devicePath
  notSupportedScheme := 8
  notSupportedOp := 9

/-- An object without parameters, and with some objects in it. -/
def objectWith (objects : List String) (h : objects.Nodup) : DescribedObject where
  typeId := 1
  parameters := []
  objects := objects
  instances := []
  parameters_nodup := List.nodup_nil
  objects_nodup := h
  instances_nodup := List.nodup_nil

/-- The bus fails for the first of two objects. -/
def firstUndescribed : BusObject :=
  .described (objectWith ["DeviceInfo", "Time"] (by decide)) fun c =>
    if c = .name "Time" then .described (objectWith [] List.nodup_nil) fun _ => .undescribed 1
    else .undescribed 1

theorem visitedChildren_objectWith {objects : List String} {h : objects.Nodup}
    {child : Component → BusObject} (hsorted : objects.Pairwise (· ≤ ·)) :
    visitedChildren r path (.described (objectWith objects h) child) =
      objects.map Component.name := by
  have hown := congrArg Prod.fst (@getParameters_named r path (objectWith objects h)
    fun _ hmem => absurd hmem List.not_mem_nil)
  have hmerge : objects.mergeSort (fun a b => decide (a ≤ b)) = objects :=
    List.mergeSort_of_pairwise (hsorted.imp fun hle => decide_eq_true hle)
  have htype : (objectWith objects h).typeId ≠ templateType := show (1 : Int) ≠ 2 by decide
  rw [visitedChildren, if_pos hown, DescribedObject.children, sortedChildren, if_neg htype]
  exact congrArg (List.map Component.name) hmerge

/-- The error of the first object is lost, as the second one has none. -/
theorem error_of_first_lost : ¬NamesRight allNames [.name "Device"] firstUndescribed := by
  intro h
  have hvisited : visitedChildren allNames [.name "Device"] firstUndescribed =
      [.name "DeviceInfo", .name "Time"] := visitedChildren_objectWith (by decide)
  have hfails : firstUndescribed.Fails allNames [.name "Device"] := by
    refine fails_iff.mpr (Or.inr ⟨.name "DeviceInfo", ?_, fails_iff.mpr (Or.inl ?_)⟩)
    · exact hvisited ▸ List.mem_cons_self
    · decide
  have hlast : (getNames allNames [.name "Device", .name "Time"]
      (firstUndescribed.child (.name "Time"))).1 = 0 := by
    have htime : firstUndescribed.child (.name "Time") =
        .described (objectWith [] List.nodup_nil) fun _ => .undescribed 1 := rfl
    rw [htime, getNames_eq, visitedChildren_objectWith .nil]
    have hown := congrArg Prod.fst (@getParameters_named allNames
      [.name "Device", .name "Time"] (objectWith [] List.nodup_nil)
      fun _ hmem => absurd hmem List.not_mem_nil)
    exact if_pos hown
  have hzero : (getNames allNames [.name "Device"] firstUndescribed).1 = 0 := by
    rw [getNames_eq, hvisited]
    exact hlast
  exact h.error.mpr hfails hzero

end BusObject

end Tr069.Parameters
