import Tr069Manager.Parameters.HashOrder

/-!
# Names that do not depend on the order

The order of a hash table means nothing, and the list of names is a hash table itself, so it
should be the same for every order (`HashOrderFree`). But the loop of
`DM_AmxParameter_AddObjectsToPN` is left at the first object without an entry, and what comes
behind that one in the table is lost. The path of a table, which has the data of its instances,
is where such an object can be. The list is the same for every order exactly if what can be
lost in this way is in the answer besides (`hashOrderFree_iff`).

So it is for the supported data models the bus has: there, the objects in an object all have an
entry, or none of them has (`hashOrderFree_of_tables`).
-/

namespace Tr069.Parameters

/-! ### The property and the condition -/

/-- The response that is parsed: there is one if something is found, or if nothing is found for
the path of a parameter. -/
def GetAnswer.parsed (env : ReadEnv) {path : DmPath} : GetAnswer path → Option Response
  | .notSupportedScheme => none
  | .failed => none
  | .null => if path.isPartial || path.isWildcard then none else some []
  | .objects response _ =>
    some (if path.isPartial then amxaFilterGetResp env response else response)

/-- The response a request for names hands to the parser, if it does. -/
def parsedResponse (env : ReadEnv) (path : DmPath) (nextlevel : Bool)
    (answer : GetAnswer (requestPath path)) : Option Response :=
  if path.isEmpty ∧ nextlevel then none
  else if path.isParameterPath ∧ nextlevel then none
  else if env.amxaIsGetAllowed (requestPath path) then answer.parsed env
  else none

/-- **The list does not depend on the order**: it has no name twice, two orders give the same
names with the same flags, and an object in an object is in it if there is an entry for it,
whatever there is in the same object without one. -/
structure HashOrderFree (env : ReadEnv) (bus : SupportedBus) (path : DmPath) (nextlevel : Bool)
    (answer : GetAnswer (requestPath path)) : Prop where
  nodup : ∀ order, (gpn order env bus path nextlevel answer).list.keys.Nodup
  same : ∀ order order' x, x ∈ (gpn order env bus path nextlevel answer).list.entries ↔
    x ∈ (gpn order' env bus path nextlevel answer).list.entries
  kept : ∀ order response, parsedResponse env path nextlevel answer = some response →
    ∀ object sibling, GoneThrough (answeredName env.instanceAlias bus.aliasOf (requestPath path))
        (requestPath path) nextlevel response object →
      Lists (bus.response (requestPath path) nextlevel) (requestPath path) object sibling →
        HasEntry (bus.response (requestPath path) nextlevel) (object ++ [.name sibling]) →
          ⟨object ++ [.name sibling], none⟩ ∈ (gpn order env bus path nextlevel answer).list.keys

/-- In an object that is gone through, the objects all have an entry; or those that have one are
objects of the answer. -/
def SiblingsKept (gsdm : GsdmResponse) (name : DmPath → DmPath) (path : DmPath)
    (nextlevel : Bool) (response : Response) : Prop :=
  ∀ object child sibling, GoneThrough name path nextlevel response object →
    Lists gsdm path object child → ¬HasEntry gsdm (object ++ [.name child]) →
      Lists gsdm path object sibling → HasEntry gsdm (object ++ [.name sibling]) →
        ∃ e ∈ response, name ⟨e.1, none⟩ = ⟨object ++ [.name sibling], none⟩

/-- **The condition**: a request that comes to the parser keeps the siblings. -/
def NoSiblingLost (env : ReadEnv) (bus : SupportedBus) (path : DmPath) (nextlevel : Bool)
    (answer : GetAnswer (requestPath path)) : Prop :=
  ∀ response, parsedResponse env path nextlevel answer = some response →
    SiblingsKept (bus.response (requestPath path) nextlevel)
      (answeredName env.instanceAlias bus.aliasOf (requestPath path)) (requestPath path) nextlevel
      response

/-! ### One order -/

section Order

variable {order order' : HashOrder} {env : ReadEnv} {gsdm : GsdmResponse} {data : GsdmTable}
  {name : DmPath → DmPath} {path q : DmPath} {nextlevel : Bool} {response : Response}
  {object : List Component} {child sibling : String} {info : GsdmInfo}

theorem mem_response {e : List Component × List (String × Value)} :
    e ∈ order.response response ↔
      ∃ e' ∈ response, (e'.1, order.parameters e'.1 e'.2) = e := by
  rw [HashOrder.response, List.mem_map]
  exact exists_congr fun e' => and_congr_left fun _ =>
    (order.objects_perm response).mem_iff

/-- What is asked about the objects of the answer does not depend on the order. -/
theorem exists_mem_response {P : List Component → Prop} :
    (∃ e ∈ order.response response, P e.1) ↔ ∃ e ∈ response, P e.1 := by
  constructor
  · rintro ⟨e, he, hP⟩
    obtain ⟨e', he', rfl⟩ := mem_response.mp he
    exact ⟨e', he', hP⟩
  · rintro ⟨e, he, hP⟩
    exact ⟨_, mem_response.mpr ⟨e, he, rfl⟩, hP⟩

theorem goneThrough_response : GoneThrough name path nextlevel (order.response response) object ↔
    GoneThrough name path nextlevel response object := by
  rw [GoneThrough, GoneThrough,
    exists_mem_response (P := fun o => (name ⟨o, none⟩).object = object)]

theorem KeepsPath.ordered (h : KeepsPath name response) :
    KeepsPath name (order.response response) := by
  intro e he
  obtain ⟨e', he', rfl⟩ := mem_response.mp he
  exact h e' he'

/-- The names in the list for every order. -/
inductive InEveryOrder (gsdm : GsdmResponse) (name : DmPath → DmPath) (path : DmPath)
    (nextlevel : Bool) (response : Response) : DmPath → Prop
  | acsPath (hpath : ¬path.isParameterPath = true) (hwild : ¬path.isWildcard = true)
      (hlevel : nextlevel = false) : InEveryOrder gsdm name path nextlevel response path
  | object (hpath : ¬path.isParameterPath = true) {e : List Component × List (String × Value)}
      (he : e ∈ response) (hentry : HasEntry gsdm e.1)
      (hlevel : nextlevel = false ∨ path ≠ name ⟨e.1, none⟩) :
      InEveryOrder gsdm name path nextlevel response (name ⟨e.1, none⟩)
  | parameter {e : List Component × List (String × Value)} (he : e ∈ response)
      (hentry : HasEntry gsdm e.1)
      (hlevel : ¬(nextlevel = true ∧ path.object.length < e.1.length)) {param : String × Value}
      (hparam : param ∈ e.2) :
      InEveryOrder gsdm name path nextlevel response (name ⟨e.1, some param.1⟩)

/-- **What the list of one order has**: what it has for every order, and the objects that are
shown in an object. -/
theorem nameSource_iff (h : Fetched path gsdm (sortedKeys gsdm) data) :
    NameSource (order.readEnv env data) name path nextlevel (order.response response) q ↔
      InEveryOrder gsdm name path nextlevel response q ∨
        ∃ object, GoneThrough name path nextlevel response object ∧
          ∃ info, getGsdmInfo (order.readEnv env data) object = some info ∧
            ∃ child ∈ childrenShown (order.readEnv env data) object info,
              ⟨object ++ [.name child], none⟩ = q := by
  constructor
  · intro hsource
    cases hsource with
    | acsPath hpath hwild hlevel => exact Or.inl (.acsPath hpath hwild hlevel)
    | @child object hgone info hinfo child hchild =>
      exact Or.inr ⟨object, goneThrough_response.mp hgone, info, hinfo, child, hchild, rfl⟩
    | @object hpath e he hinfo hlevel =>
      obtain ⟨e', he', rfl⟩ := mem_response.mp he
      exact Or.inl (.object (e := e') hpath he' ((isSome_getGsdmInfo h).mp hinfo) hlevel)
    | @parameter e he hinfo hlevel param hparam =>
      obtain ⟨e', he', rfl⟩ := mem_response.mp he
      exact Or.inl (.parameter (e := e') he' ((isSome_getGsdmInfo h).mp hinfo) hlevel
        ((order.parameters_perm e'.1 e'.2).mem_iff.mp hparam))
  · rintro (hsource | ⟨object, hgone, info, hinfo, child, hchild, rfl⟩)
    · cases hsource with
      | acsPath hpath hwild hlevel => exact .acsPath hpath hwild hlevel
      | @object hpath e he hentry hlevel =>
        exact NameSource.object (e := (e.1, order.parameters e.1 e.2)) hpath
          (mem_response.mpr ⟨e, he, rfl⟩) ((isSome_getGsdmInfo h).mpr hentry) hlevel
      | @parameter e he hentry hlevel param hparam =>
        exact NameSource.parameter (e := (e.1, order.parameters e.1 e.2))
          (mem_response.mpr ⟨e, he, rfl⟩) ((isSome_getGsdmInfo h).mpr hentry) hlevel
          ((order.parameters_perm e.1 e.2).mem_iff.mpr hparam)
    · exact .child (goneThrough_response.mpr hgone) hinfo hchild

/-! ### Siblings -/

theorem getGsdmInfo_of_lists (order : HashOrder) (env : ReadEnv)
    (h : Fetched path gsdm (sortedKeys gsdm) data) (hlists : Lists gsdm path object child) :
    ∃ info, getGsdmInfo (order.readEnv env data) object = some info ∧ child ∈ info.objects := by
  obtain ⟨key, hkey, -⟩ := id hlists
  obtain ⟨info, -, hinfo⟩ := (getGsdmInfo_fetched order env object h).1 key hkey
  exact ⟨_, hinfo, (mem_objects_iff h hinfo).mpr hlists⟩

theorem mem_childrenShown (h : Fetched path gsdm (sortedKeys gsdm) data)
    (hinfo : getGsdmInfo (order.readEnv env data) object = some info)
    (hchild : child ∈ childrenShown (order.readEnv env data) object info) :
    Lists gsdm path object child ∧ HasEntry gsdm (object ++ [.name child]) := by
  rw [childrenShown] at hchild
  have hsome := List.mem_takeWhile_imp hchild
  exact ⟨(mem_objects_iff h hinfo).mp ((List.takeWhile_prefix _).subset hchild),
    (isSome_getGsdmInfo h).mp hsome⟩

variable (hlength : ∀ e ∈ response, path.object.length ≤ (name ⟨e.1, none⟩).object.length)

include hlength in
theorem GoneThrough.length_le (h : GoneThrough name path nextlevel response object) :
    path.object.length ≤ object.length := by
  obtain ⟨-, ⟨-, rfl⟩ | ⟨-, e, he, rfl⟩⟩ := h
  · exact le_refl _
  · exact hlength e he

include hlength in
/-- **No sibling is lost** under the condition. -/
theorem SiblingsKept.nameSource (order : HashOrder) (env : ReadEnv)
    (hkept : SiblingsKept gsdm name path nextlevel response) (hname : KeepsPath name response)
    (h : Fetched path gsdm (sortedKeys gsdm) data)
    (hgone : GoneThrough name path nextlevel response object)
    (hlists : Lists gsdm path object sibling)
    (hentry : HasEntry gsdm (object ++ [.name sibling])) :
    NameSource (order.readEnv env data) name path nextlevel (order.response response)
      ⟨object ++ [.name sibling], none⟩ := by
  obtain ⟨info, hinfo, hmem⟩ := getGsdmInfo_of_lists order env h hlists
  rw [nameSource_iff h]
  by_cases hall : ∀ child, Lists gsdm path object child → HasEntry gsdm (object ++ [.name child])
  · -- the loop comes to the end
    have hshown : childrenShown (order.readEnv env data) object info = info.objects :=
      List.takeWhile_eq_self_iff.mpr fun child hchild =>
        (isSome_getGsdmInfo h).mpr (hall child ((mem_objects_iff h hinfo).mp hchild))
    exact Or.inr ⟨object, hgone, info, hinfo, sibling, hshown ▸ hmem, rfl⟩
  · -- it may be left before the sibling, which is an object of the answer
    push Not at hall
    obtain ⟨child, hchild, hmissing⟩ := hall
    obtain ⟨e, he, heq⟩ := hkept object child sibling hgone hchild hmissing hlists hentry
    have hobject : (name ⟨e.1, none⟩).object = object ++ [.name sibling] := congrArg _ heq
    refine Or.inl (heq ▸ .object hgone.1 he ?_ (Or.inr fun hpath => ?_))
    · rwa [← hasEntry_congr (hname e he none).2, hobject]
    · have hlen := hgone.length_le hlength
      rw [hpath, hobject, List.length_append, List.length_singleton] at hlen
      omega

include hlength in
/-- What is in the list of one order is in the list of the other. -/
theorem SiblingsKept.same (hkept : SiblingsKept gsdm name path nextlevel response)
    (hname : KeepsPath name response) (h : Fetched path gsdm (sortedKeys gsdm) data)
    (hq : NameSource (order.readEnv env data) name path nextlevel (order.response response) q) :
    NameSource (order'.readEnv env data) name path nextlevel (order'.response response) q := by
  rcases (nameSource_iff h).mp hq with hevery | ⟨object, hgone, info, hinfo, child, hchild, rfl⟩
  · exact (nameSource_iff h).mpr (Or.inl hevery)
  · obtain ⟨hlists, hentry⟩ := mem_childrenShown h hinfo hchild
    exact hkept.nameSource hlength order' env hname h hgone hlists hentry

/-- The order that has an object first. -/
def HashOrder.front (first : String) : HashOrder where
  children := fun _ l => if first ∈ l then first :: l.erase first else l
  objects := id
  parameters := fun _ l => l
  children_perm := fun _ l => by
    split_ifs with hmem
    · exact (List.perm_cons_erase hmem).symm
    · exact List.Perm.refl l
  objects_perm := perm_response
  parameters_perm := perm_parameters

/-- The objects in an object, where one of them is first: none are shown if that one has no entry,
and it is shown itself if it has one. -/
theorem childrenShown_front (h : Fetched path gsdm (sortedKeys gsdm) data)
    (hlists : Lists gsdm path object child)
    (hinfo : getGsdmInfo ((HashOrder.front child).readEnv env data) object = some info) :
    (¬HasEntry gsdm (object ++ [.name child]) →
      childrenShown ((HashOrder.front child).readEnv env data) object info = []) ∧
    (HasEntry gsdm (object ++ [.name child]) →
      child ∈ childrenShown ((HashOrder.front child).readEnv env data) object info) := by
  obtain ⟨key, hkey, -⟩ := id hlists
  obtain ⟨info', -, hinfo'⟩ :=
    (getGsdmInfo_fetched (.front child) env object h).1 key hkey
  have hmem := (mem_objects_iff h hinfo).mpr hlists
  obtain rfl := Option.some.inj (hinfo'.symm.trans hinfo)
  have hfirst : child ∈ info'.objects :=
    ((HashOrder.front child).children_perm key info'.objects).mem_iff.mp hmem
  have hobjects : (HashOrder.front child).children key info'.objects =
      child :: info'.objects.erase child := if_pos hfirst
  rw [childrenShown]
  dsimp only
  rw [hobjects, List.takeWhile_cons]
  constructor
  · intro hmissing
    rw [if_neg (mt (isSome_getGsdmInfo h).mp hmissing)]
  · intro hentry
    rw [if_pos ((isSome_getGsdmInfo h).mpr hentry)]
    exact List.mem_cons_self

include hlength in
/-- **The condition is needed**: a sibling that is not in the answer is in the list where it is
the first in its table, and not where one without an entry is. -/
theorem siblingsKept_of_same (env : ReadEnv) (h : Fetched path gsdm (sortedKeys gsdm) data)
    (hname : KeepsPath name response)
    (hsame : ∀ (order order' : HashOrder) q,
      NameSource (order.readEnv env data) name path nextlevel (order.response response) q →
        NameSource (order'.readEnv env data) name path nextlevel (order'.response response) q) :
    SiblingsKept gsdm name path nextlevel response := by
  intro object child sibling hgone hchild hmissing hlists hentry
  obtain ⟨info, hinfo, -⟩ :=
    getGsdmInfo_of_lists (.front sibling) env h hlists
  have hin := hsame (.front sibling) (.front child) ⟨object ++ [.name sibling], none⟩
    ((nameSource_iff h).mpr (Or.inr ⟨object, hgone, info, hinfo, sibling,
      (childrenShown_front h hlists hinfo).2 hentry, rfl⟩))
  -- no other source has the name of an object in an object but the answer
  rcases (nameSource_iff h).mp hin with hevery | ⟨object', -, info', hinfo', child', hshown, heq⟩
  · generalize hq : (⟨object ++ [.name sibling], none⟩ : DmPath) = q at hevery
    cases hevery with
    | acsPath =>
      have hlen := hgone.length_le hlength
      rw [← hq, List.length_append, List.length_singleton] at hlen
      omega
    | @object _ e he => exact ⟨e, he, rfl⟩
    | @parameter e he _ _ param =>
      have hparameter := congrArg DmPath.parameter hq
      rw [(hname e he _).1] at hparameter
      cases hparameter
  · have hobject : object' ++ [Component.name child'] = object ++ [Component.name sibling] :=
      congrArg DmPath.object heq
    obtain rfl := (List.append_inj' hobject rfl).1
    rw [(childrenShown_front h hchild hinfo').1 hmissing] at hshown
    cases hshown

end Order

/-! ### The request -/

section Request

variable {env : ReadEnv} {bus : SupportedBus} {path : DmPath} {nextlevel : Bool}
  {answer : GetAnswer (requestPath path)} {response : Response}

/-- Where nothing comes to the parser, there is no order to depend on. -/
theorem gpn_of_parsedResponse_none (h : parsedResponse env path nextlevel answer = none)
    (order order' : HashOrder) :
    gpn order env bus path nextlevel answer = gpn order' env bus path nextlevel answer := by
  rw [parsedResponse] at h
  unfold gpn
  by_cases hroot : path.isEmpty = true ∧ nextlevel = true
  · rw [if_pos hroot, if_pos hroot]
  rw [if_neg hroot] at h
  rw [if_neg hroot, if_neg hroot]
  by_cases hlevel : path.isParameterPath = true ∧ nextlevel = true
  · rw [if_pos hlevel, if_pos hlevel]
  rw [if_neg hlevel] at h
  rw [if_neg hlevel, if_neg hlevel]
  by_cases hallowed : env.amxaIsGetAllowed (requestPath path) = true
  · rw [if_pos hallowed] at h
    rw [if_pos hallowed, if_pos hallowed]
    cases answer with
    | notSupportedScheme => rfl
    | failed => rfl
    | null =>
      by_cases hempty : ((requestPath path).isPartial || (requestPath path).isWildcard) = true
      · dsimp only
        rw [if_pos hempty, if_pos hempty]
      · rw [GetAnswer.parsed, if_neg hempty] at h
        cases h
    | objects response matching => cases h
  · rw [if_neg hallowed, if_neg hallowed]

/-- What comes to the parser is what the path stands for, and it is parsed. -/
theorem gpn_of_parsedResponse (h : parsedResponse env path nextlevel answer = some response) :
    env.amxaIsGetAllowed (requestPath path) = true ∧
      (∀ e ∈ response, BeginsWith (requestPath path).object e.1) ∧
      ∀ order, gpn order env bus path nextlevel answer =
        parseFetched order env bus (requestPath path) nextlevel response := by
  rw [parsedResponse] at h
  split_ifs at h with hroot hlevel hallowed
  refine ⟨hallowed, ?_⟩
  unfold gpn
  simp only [if_neg hroot, if_neg hlevel, if_pos hallowed]
  cases answer with
  | notSupportedScheme => cases h
  | failed => cases h
  | null =>
    rw [GetAnswer.parsed] at h
    split_ifs at h with hempty
    obtain rfl := Option.some.inj h
    exact ⟨fun e he => absurd he List.not_mem_nil, fun order => if_neg hempty⟩
  | objects get matching =>
    obtain rfl := Option.some.inj h
    refine ⟨fun e he => ?_, fun order => rfl⟩
    split_ifs at he
    · obtain ⟨e', he', rfl⟩ := List.mem_map.mp he
      exact matching e' he'
    · exact matching e he

/-- The names of an answer keep the supported path, and are as long as the request. -/
theorem keepsPath_answeredName (h : ∀ e ∈ response, BeginsWith path.object e.1) :
    KeepsPath (answeredName env.instanceAlias bus.aliasOf path) response ∧
      ∀ e ∈ response, path.object.length ≤
        (answeredName env.instanceAlias bus.aliasOf path ⟨e.1, none⟩).object.length := by
  refine ⟨fun e he n => ⟨answeredName_parameter, ?_⟩, fun e he => ?_⟩
  · exact buildSupportedPath_answeredName (q := ⟨e.1, n⟩) (h e he)
  · rw [length_answeredName (q := ⟨e.1, none⟩) (h e he)]
    exact (h e he).length_le

/-- What is known of a request that comes to the parser: its data, and its names. -/
theorem parsed_spec (bus : SupportedBus)
    (h : parsedResponse env path nextlevel answer = some response) :
    Fetched (requestPath path) (bus.response (requestPath path) nextlevel)
        (sortedKeys (bus.response (requestPath path) nextlevel))
        (getGsdmData env bus (requestPath path) nextlevel).2 ∧
      KeepsPath (answeredName env.instanceAlias bus.aliasOf (requestPath path)) response ∧
      ∀ e ∈ response, (requestPath path).object.length ≤ (answeredName env.instanceAlias
        bus.aliasOf (requestPath path) ⟨e.1, none⟩).object.length := by
  obtain ⟨hallowed, hbegins, -⟩ := @gpn_of_parsedResponse env bus path nextlevel answer response h
  exact ⟨(fetched_getGsdmData hallowed).2, keepsPath_answeredName hbegins⟩

/-- **The list of a request that comes to the parser**: the names of its sources. -/
theorem mem_gpn (h : parsedResponse env path nextlevel answer = some response)
    (order : HashOrder) {x : DmPath × Bool} :
    x ∈ (gpn order env bus path nextlevel answer).list.entries ↔
      ∃ q, NameSource (order.readEnv env (getGsdmData env bus (requestPath path) nextlevel).2)
          (answeredName env.instanceAlias bus.aliasOf (requestPath path)) (requestPath path)
          nextlevel (order.response response) q ∧
        entryOf (order.readEnv env (getGsdmData env bus (requestPath path) nextlevel).2) q = x := by
  obtain ⟨hallowed, hbegins, hgpn⟩ :=
    @gpn_of_parsedResponse env bus path nextlevel answer response h
  have herror : (getGsdmData env bus (requestPath path) nextlevel).1 = 0 :=
    (fetched_getGsdmData hallowed).1
  have hlist : (gpn order env bus path nextlevel answer).list = Table.empty.addAll
      (parseNamesAs (order.readEnv env (getGsdmData env bus (requestPath path) nextlevel).2)
        (answeredName env.instanceAlias bus.aliasOf (requestPath path)) (requestPath path)
        nextlevel (order.response response)) := by
    rw [hgpn, parseFetched]
    exact congrArg ReadResult.list (if_neg (not_not_intro herror))
  rw [hlist, mem_addAll_parseNamesAs (keepsPath_answeredName hbegins).1.ordered]

end Request

/-! ### The result -/

section Result

variable {env : ReadEnv} {bus : SupportedBus} {path : DmPath} {nextlevel : Bool}
  {answer : GetAnswer (requestPath path)}

theorem HashOrderFree.noSiblingLost (h : HashOrderFree env bus path nextlevel answer) :
    NoSiblingLost env bus path nextlevel answer := by
  intro response hparsed
  obtain ⟨hfetched, hname, hlength⟩ := parsed_spec bus hparsed
  refine siblingsKept_of_same hlength env hfetched hname fun order order' q hq => ?_
  -- a name in the list of one order is in that of the other
  have hin := (h.same order order' _).mp ((mem_gpn hparsed order).mpr ⟨q, hq, rfl⟩)
  obtain ⟨q', hq', heq⟩ := (mem_gpn hparsed order').mp hin
  have hqq' : q' = q := congrArg Prod.fst heq
  exact hqq' ▸ hq'

theorem NoSiblingLost.hashOrderFree (h : NoSiblingLost env bus path nextlevel answer) :
    HashOrderFree env bus path nextlevel answer := by
  refine ⟨fun order => (gpn order env bus path nextlevel answer).list.nodup, ?_, ?_⟩
  · intro order order' x
    rcases hparsed : parsedResponse env path nextlevel answer with - | response
    · rw [gpn_of_parsedResponse_none hparsed order order']
    · obtain ⟨hfetched, hname, hlength⟩ := parsed_spec bus hparsed
      -- the same names, and the flag is a matter of the name
      have hentry : ∀ q, entryOf
          (order.readEnv env (getGsdmData env bus (requestPath path) nextlevel).2) q =
          entryOf (order'.readEnv env (getGsdmData env bus (requestPath path) nextlevel).2) q :=
        fun q => Prod.ext rfl (writableOf_readEnv q)
      rw [mem_gpn hparsed, mem_gpn hparsed]
      simp only [hentry]
      exact exists_congr fun q => and_congr_left fun _ =>
        ⟨(h response hparsed).same hlength hname hfetched,
          (h response hparsed).same hlength hname hfetched⟩
  · intro order response hparsed object sibling hgone hlists hentry
    obtain ⟨hfetched, hname, hlength⟩ := parsed_spec bus hparsed
    have hsource :=
      (h response hparsed).nameSource hlength order env hname hfetched hgone hlists hentry
    exact List.mem_map.mpr ⟨_, (mem_gpn hparsed order).mpr ⟨_, hsource, rfl⟩, rfl⟩

/-! ### The supported data model of the bus -/

/-- A supported data model as the bus describes one: the paths with an instance at the end are
those of tables, and a table has nothing but its instances in it. -/
structure Tables (gsdm : GsdmResponse) : Prop where
  isMultiInstance : ∀ key v, gsdm.find key = some v →
    (v.isMultiInstance = true ↔ ∃ table, key = table ++ [instancePart])
  inTable : ∀ table part rest, table ++ [instancePart] ∈ gsdm.keys →
    table ++ part :: rest ∈ gsdm.keys → part = instancePart
  notTwice : ∀ key, key ++ [instancePart, instancePart] ∉ gsdm.keys

theorem supportedKey_child {object : List Component} {child : String} :
    supportedKey (object ++ [.name child]) = supportedKey object ++ [child] := by
  rw [supportedKey, buildSupportedPath, List.map_append, List.map_append]
  rfl

/-- The path of what is listed in an object. -/
theorem Tables.mem_keys {gsdm : GsdmResponse} (h : Tables gsdm) {key key' : SupportedPath}
    {v : GsdmObject} {child : String} (hv : gsdm.find key' = some v)
    (hadded : parentAndTemplate path key' v = some (key, child)) :
    child ≠ instancePart ∧
      (key ++ [child] ∈ gsdm.keys ∨ key ++ [child, instancePart] ∈ gsdm.keys) := by
  have hmem := Table.mem_keys.mpr ⟨v, hv⟩
  obtain ⟨-, hkey⟩ := parentAndTemplate_eq_some.mp hadded
  by_cases hmulti : v.isMultiInstance = true
  · rw [if_pos hmulti] at hkey
    obtain ⟨part, rfl⟩ := hkey
    obtain ⟨table, htable⟩ := (h.isMultiInstance _ v hv).mp hmulti
    have hpart : part = instancePart := by
      have hlast := congrArg List.getLast? htable
      simpa using hlast
    subst hpart
    refine ⟨fun hchild => h.notTwice key (hchild ▸ hmem), Or.inr hmem⟩
  · rw [if_neg hmulti] at hkey
    obtain ⟨-, rfl⟩ := hkey
    refine ⟨fun hchild => hmulti ((h.isMultiInstance _ v hv).mpr ⟨key, ?_⟩), Or.inl hmem⟩
    rw [hchild]

/-- **On the supported data model of the bus nothing depends on the order**: an object has an
entry of its own, and then all objects in it have one, or it is the path of a table, and then
none has. -/
theorem hashOrderFree_of_tables
    (h : Tables (bus.response (requestPath path) nextlevel)) :
    HashOrderFree env bus path nextlevel answer := by
  refine NoSiblingLost.hashOrderFree fun response _ object child sibling _ hchild hmissing
    hsibling hentry => absurd hentry ?_
  generalize bus.response (requestPath path) nextlevel = gsdm at h hchild hmissing hsibling ⊢
  obtain ⟨key, hkey, key', v, hv, hadded⟩ := hchild
  obtain ⟨key₂, hkey₂, key₂', w, hw, hadded₂⟩ := hsibling
  obtain rfl : key = key₂ := Option.some.inj (hkey.symm.trans hkey₂)
  obtain ⟨hne, hin⟩ := h.mem_keys hv hadded
  obtain ⟨hne₂, -⟩ := h.mem_keys hw hadded₂
  rw [HasEntry, supportedKey_child, List.append_assoc] at hmissing ⊢
  rw [entryKey] at hkey
  split_ifs at hkey with hown htable
  · obtain rfl := Option.some.inj hkey
    exact absurd hin hmissing
  · rintro (hmem | hmem)
    · exact hne₂ (h.inTable _ sibling [] htable hmem)
    · exact hne₂ (h.inTable _ sibling [instancePart] htable hmem)

end Result

/-- **`DM_ENG_Device_GPN` does not depend on the order of the hash tables** exactly if, in every
object that is gone through, the objects all have an entry, or those that have one are objects
of the answer. -/
theorem hashOrderFree_iff (env : ReadEnv) (bus : SupportedBus) (path : DmPath) (nextlevel : Bool)
    (answer : GetAnswer (requestPath path)) :
    HashOrderFree env bus path nextlevel answer ↔
      NoSiblingLost env bus path nextlevel answer :=
  ⟨HashOrderFree.noSiblingLost, NoSiblingLost.hashOrderFree⟩

/-- The supported path of the interfaces. -/
def interfacesKey : SupportedPath := ["Device", "IP", "Interface"]

/-- Interfaces with their addresses and `Stats`, and another `Stats` for all of them. -/
def interfacesGsdm : GsdmResponse where
  entries :=
    [(interfacesKey ++ [instancePart], ⟨none, true, []⟩),
      (interfacesKey ++ [instancePart, "IPv4Address", instancePart], ⟨none, true, []⟩),
      (interfacesKey ++ [instancePart, "Stats"], ⟨none, false, []⟩),
      (interfacesKey ++ ["Stats"], ⟨none, false, []⟩)]
  nodup := by decide

/-- A bus with these objects. -/
def interfacesBus : SupportedBus where
  amxbGetSupported := fun _ _ => some interfacesGsdm
  amxaFilterGetResp := id
  aliasOf := fun _ => none

/-- Everything may be read. -/
def interfacesEnv : ReadEnv where
  instanceAlias := false
  amxaIsGetAllowed := fun _ => true
  unanswered := fun _ => .null
  gsdm := fun _ => none
  supportedType := fun _ _ => none
  amxTypeToDataType := convertParameterType
  keyOrder := byComponents

/-- The path of the interfaces. -/
def interfacesPath : DmPath := ⟨[.name "Device", .name "IP", .name "Interface"], none⟩

/-- The bus has no interface. -/
def noInterfaces : GetAnswer (requestPath interfacesPath) :=
  .objects [(interfacesPath.object, [])] fun e he => by
    obtain rfl := List.mem_singleton.mp he
    exact ⟨_, [], (List.append_nil _).symm, .cons (Or.inl rfl) (.cons (Or.inl rfl)
      (.cons (Or.inl rfl) .nil))⟩

/-- The `Stats` of all interfaces is in the list if it is first in its table, and lost if the
addresses are: there are none for all interfaces. -/
theorem interfaces_not_hashOrderFree : ¬∀ (env : ReadEnv) (bus : SupportedBus) (path : DmPath)
    (nextlevel : Bool) (answer : GetAnswer (requestPath path)),
      HashOrderFree env bus path nextlevel answer := by
  intro h
  have hsame := (h interfacesEnv interfacesBus interfacesPath true noInterfaces).same
    (.front "Stats") (.front "IPv4Address")
    (⟨interfacesPath.object ++ [.name "Stats"], none⟩, false)
  have hstats : (gpn (.front "Stats") interfacesEnv interfacesBus interfacesPath true
      noInterfaces).list.entries = [(⟨interfacesPath.object ++ [.name "Stats"], none⟩, false)] := by
    decide +kernel
  have haddresses : (gpn (.front "IPv4Address") interfacesEnv interfacesBus interfacesPath true
      noInterfaces).list.entries = [] := by
    decide +kernel
  rw [hstats, haddresses, List.mem_singleton] at hsame
  exact List.not_mem_nil (hsame.mp rfl)

end Tr069.Parameters
