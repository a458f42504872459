import Tr069Manager.Parameters.NamesWalk
import Tr069Manager.Parameters.ReadNames
import Tr069Manager.Parameters.SortedValues

/-!
# The instance mode only renames

With the mode `InstanceAlias` a list should be the one of the mode `InstanceNumber`, with each
path replaced by what `IndexToAlias` makes of it. For the lists of values, and for the names of
`DM_AmxParameter.c`, it is. The other two implementations of `GetParameterNames` ask the rules
for a parameter by the name that is returned, which has the aliases already: there it is exactly
if the rules say the same of both names of every parameter the walk comes to
(`instance_mode_only_renames_iff`).
-/

namespace Tr069.Parameters

/-- The same, in one of the modes. -/
def ReadEnv.inMode (env : ReadEnv) (instanceAlias : Bool) : ReadEnv :=
  { env with instanceAlias := instanceAlias }

/-- The same, in one of the modes. -/
def NamesEnv.inMode (env : NamesEnv) (instanceAlias : Bool) : NamesEnv :=
  { env with instanceAlias := instanceAlias }

/-- **The mode only renames**: the answer with aliases is the answer with numbers, with each path
replaced. -/
def OnlyRenames {β : Type} (d : Device) (acspath : DmPath)
    (answer : Bool → Int × List (DmPath × β)) : Prop :=
  answer true = ((answer false).1, (answer false).2.map (Prod.map (indexToAlias d acspath) id))

variable {env : NamesEnv} {d : Device} {path p : DmPath} {o : List Component}

/-! ### The lists that are made on a walk -/

/-- **The rules say the same of both names** of the parameters of a walk. -/
def RulesAgree (env : NamesEnv) (d : Device) (acspath : DmPath) (visits : List Visit) : Prop :=
  ∀ visit ∈ visits, ∀ parameter ∈ visit.params,
    env.amxaIsGetAllowed (indexToAlias d acspath ⟨visit.object, some parameter.1⟩) =
      env.amxaIsGetAllowed ⟨visit.object, some parameter.1⟩

theorem returnedName_some {env : ReadEnv} {n : String} :
    (⟨(returnedName env d path ⟨o, none⟩).object, some n⟩ : DmPath) =
      returnedName env d path ⟨o, some n⟩ := by
  rw [returnedName, returnedName]
  split <;> rfl

/-- The parameters in the list of a walk. -/
theorem mem_listVisit_parameter {visits : List Visit} {k : DmPath} {n : String} {w : Bool}
    (hk : k.parameter = some n) : (k, w) ∈ visits.flatMap (listVisit env d path) ↔
      ∃ visit ∈ visits, ∃ parameter ∈ visit.params,
        k = returnedName env.toReadEnv d path ⟨visit.object, some parameter.1⟩ ∧
          w = parameter.2 ∧ env.amxaIsGetAllowed k = true := by
  rw [List.mem_flatMap]
  refine exists_congr fun visit => and_congr_right fun _ => ?_
  rw [listVisit, List.mem_append, or_iff_right, List.mem_flatMap]
  · refine exists_congr fun parameter => and_congr_right fun _ => ?_
    rw [getParameterNamesGetParameter, returnedName_some]
    split
    · next hallowed =>
      rw [List.mem_singleton, Prod.mk.injEq]
      refine and_congr_right fun hk => ?_
      rw [hk, hallowed, and_iff_left rfl]
    · next hdenied =>
      refine iff_of_false List.not_mem_nil ?_
      rintro ⟨rfl, -, hallowed⟩
      exact hdenied hallowed
  · intro hmem
    obtain ⟨w', -, he⟩ := List.mem_map.mp hmem
    have hparam := congrArg DmPath.parameter (Prod.mk.inj he).1
    rw [returnedName_parameter, hk] at hparam
    cases hparam

/-- What is added for an object of the walk is renamed, where the rules say the same. -/
theorem listVisit_inMode {visit : Visit} (h : RulesAgree env d path [visit]) :
    listVisit (env.inMode true) d path visit =
      (listVisit (env.inMode false) d path visit).map (Prod.map (indexToAlias d path) id) := by
  rw [listVisit, listVisit, List.map_append, List.map_map, List.map_flatMap]
  refine congrArg₂ _ rfl (List.flatMap_congr fun parameter hparam => ?_)
  have hagree := h visit (List.mem_singleton_self visit) parameter hparam
  show (if env.amxaIsGetAllowed (indexToAlias d path ⟨visit.object, some parameter.1⟩) then _
    else _) = (if env.amxaIsGetAllowed ⟨visit.object, some parameter.1⟩ then _ else _ : List _).map _
  rw [hagree]
  split <;> rfl

/-- **The mode only renames the list of a walk** exactly if the rules say the same of both names
of each parameter. -/
theorem onlyRenames_listWalk_iff {walk : Int × List Visit}
    (hwalk : ∀ visit ∈ walk.2, UnderRequest path visit.object) :
    OnlyRenames d path (fun mode => listWalk (env.inMode mode) d path walk) ↔
      RulesAgree env d path walk.2 := by
  have hlists : OnlyRenames d path (fun mode => listWalk (env.inMode mode) d path walk) ↔
      walk.2.flatMap (listVisit (env.inMode true) d path) =
        (walk.2.flatMap (listVisit (env.inMode false) d path)).map
          (Prod.map (indexToAlias d path) id) := by
    rw [OnlyRenames, listWalk, listWalk, Prod.mk.injEq, and_iff_right rfl]
  rw [hlists]
  constructor
  · intro hlist visit hvisit parameter hparam
    -- a parameter is in both lists, or in none
    have halias : env.amxaIsGetAllowed
        (indexToAlias d path ⟨visit.object, some parameter.1⟩) = true ↔
          (indexToAlias d path ⟨visit.object, some parameter.1⟩, parameter.2) ∈
            walk.2.flatMap (listVisit (env.inMode true) d path) := by
      rw [mem_listVisit_parameter rfl]
      constructor
      · exact fun h => ⟨visit, hvisit, parameter, hparam, rfl, rfl, h⟩
      · rintro ⟨-, -, -, -, -, -, h⟩
        exact h
    have hnumber : env.amxaIsGetAllowed ⟨visit.object, some parameter.1⟩ = true ↔
        (⟨visit.object, some parameter.1⟩, parameter.2) ∈
          walk.2.flatMap (listVisit (env.inMode false) d path) := by
      rw [mem_listVisit_parameter rfl]
      constructor
      · exact fun h => ⟨visit, hvisit, parameter, hparam, rfl, rfl, h⟩
      · rintro ⟨-, -, -, -, -, -, h⟩
        exact h
    rw [Bool.eq_iff_iff, halias, hnumber, hlist, List.mem_map]
    constructor
    · rintro ⟨⟨k, w⟩, hmem, he⟩
      obtain ⟨hname, rfl⟩ := Prod.mk.inj he
      have hk : k.parameter = some parameter.1 := congrArg DmPath.parameter hname
      obtain ⟨visit', hvisit', parameter', -, hname', -, -⟩ :=
        (mem_listVisit_parameter hk).mp hmem
      have hunder := hwalk visit hvisit
      have hunder' : UnderRequest path k.object := by
        rw [hname']
        exact hwalk visit' hvisit'
      rwa [indexToAlias_injective hunder'.concrete hunder.concrete hunder'.under hunder.under
        hname] at hmem
    · exact fun hmem => ⟨_, hmem, rfl⟩
  · intro hagree
    rw [List.map_flatMap]
    refine List.flatMap_congr fun visit hvisit => listVisit_inMode fun v hv => ?_
    obtain rfl := List.mem_singleton.mp hv
    exact hagree v hvisit

/-! ### The lists of `DM_AmxParameter.c` -/

section Parse

variable {β : Type} {response : Response} {nextlevel : Bool}

/-- The root as a request renames as the empty one does. -/
theorem indexToAlias_requestPath {q : DmPath} (h : Under (requestPath path) q.object) :
    indexToAlias d (requestPath path) q = indexToAlias d path q := by
  rw [requestPath] at h ⊢
  split at h
  · next hempty =>
    rw [if_pos hempty]
    obtain ⟨zs, hzs⟩ := h
    have hnil : path.object = [] := by
      rw [DmPath.isEmpty, Bool.and_eq_true] at hempty
      exact List.isEmpty_iff.mp hempty.1
    have hq : q.object = fixedPart path.object ++ q.object := by rw [hnil]; rfl
    refine DmPath.eq_of ?_ rfl
    rw [indexToAlias_object hzs.symm, indexToAlias_object hq, hnil, ← hzs]
    rfl
  · next hempty => rw [if_neg hempty]

/-- What the parser adds is renamed, if what is added for an object is. -/
theorem parse_inMode {addAcsPath : List (DmPath × β)}
    {addObject : DmPath → GsdmInfo → List (DmPath × β)}
    {addParameter : DmPath → Value → String → GsdmInfo → DmPath × β}
    (hacs : addAcsPath.map (Prod.map (indexToAlias d path) id) = addAcsPath)
    (hobject : ∀ o info, UnderRequest path o → addObject (indexToAlias d path ⟨o, none⟩) info =
      (addObject ⟨o, none⟩ info).map (Prod.map (indexToAlias d path) id))
    (hparameter : ∀ q v n info, addParameter (indexToAlias d path q) v n info =
      Prod.map (indexToAlias d path) id (addParameter q v n info))
    (hresponse : ∀ e ∈ response, UnderRequest path e.1) :
    parse (env.inMode true).toReadEnv d path nextlevel addAcsPath addObject addParameter
        response =
      (parse (env.inMode false).toReadEnv d path nextlevel addAcsPath addObject addParameter
        response).map (Prod.map (indexToAlias d path) id) := by
  rw [parse, parse, List.map_append, hacs, List.map_flatMap]
  refine congrArg _ (List.flatMap_congr fun object hmem => ?_)
  have hgsdm : ∀ mode, getGsdmInfo (env.inMode mode).toReadEnv object.1 =
      getGsdmInfo env.toReadEnv object.1 := fun _ => rfl
  rw [parseForEachObject, parseForEachObject, hgsdm, hgsdm]
  rcases getGsdmInfo env.toReadEnv object.1 with - | info
  · rfl
  · dsimp only
    rw [List.map_append]
    refine congrArg₂ _ (hobject object.1 info (hresponse object hmem)) ?_
    split
    · rfl
    · rw [List.map_map]
      refine List.map_congr_left fun param _ => ?_
      exact hparameter ⟨object.1, some param.1⟩ param.2 param.1 info

theorem addObjectsToPN_eq {info : GsdmInfo} : addObjectsToPN env.toReadEnv o info =
    (info.objects.takeWhile fun child =>
      (getGsdmInfo env.toReadEnv (o ++ [.name child])).isSome).map fun child =>
        addSingleObjectToPN ⟨o ++ [.name child], none⟩
          (getGsdmInfo env.toReadEnv (o ++ [.name child])) := by
  rw [addObjectsToPN, objectsIn, List.takeWhile_map, List.map_map]
  rfl

/-- The objects in an object are renamed with it. -/
theorem addObjectsToPN_indexToAlias {info : GsdmInfo} (hunder : Under path o) :
    addObjectsToPN env.toReadEnv (indexToAlias d path ⟨o, none⟩).object info =
      (addObjectsToPN env.toReadEnv o info).map (Prod.map (indexToAlias d path) id) := by
  have hdata : ∀ text, getGsdmInfo env.toReadEnv
      ((indexToAlias d path ⟨o, none⟩).object ++ [.name text]) =
        getGsdmInfo env.toReadEnv (o ++ [.name text]) := by
    intro text
    have hchild : getGsdmInfo (env.inMode true).toReadEnv
        ((returnedName (env.inMode true).toReadEnv d path ⟨o, none⟩).object ++ [.name text]) =
          getGsdmInfo (env.inMode true).toReadEnv (o ++ [.name text]) :=
      getGsdmInfo_child hunder text
    exact hchild
  have hname : ∀ text, (⟨(indexToAlias d path ⟨o, none⟩).object ++ [.name text], none⟩ : DmPath) =
      indexToAlias d path ⟨o ++ [.name text], none⟩ := by
    intro text
    have hchild : (returnedName (env.inMode true).toReadEnv d path
        ⟨o ++ [.name text], none⟩).object =
          (returnedName (env.inMode true).toReadEnv d path ⟨o, none⟩).object ++ [.name text] :=
      returnedName_child hunder
    exact DmPath.eq_of hchild.symm rfl
  rw [addObjectsToPN_eq, addObjectsToPN_eq, List.map_map]
  simp only [hdata, hname]
  rfl

/-- What is added for the request is kept. -/
theorem addAcsPathToPN_indexToAlias :
    (addAcsPathToPN env.toReadEnv path nextlevel).map (Prod.map (indexToAlias d path) id) =
      addAcsPathToPN env.toReadEnv path nextlevel := by
  rw [addAcsPathToPN]
  split
  · rfl
  · next hpath =>
    have hwild : ¬path.isWildcard = true := fun h => hpath (by rw [h, Bool.or_true])
    have hrequest : indexToAlias d path path = path := by
      have hname : returnedName (env.inMode true).toReadEnv d path path = path :=
        returnedName_request hwild
      exact hname
    have hobject : (indexToAlias d path ⟨path.object, none⟩).object = path.object := by
      have hself := congrArg DmPath.object hrequest
      exact hself
    have hunder : Under path path.object := List.takeWhile_prefix _
    rw [List.map_append]
    refine congrArg₂ _ ?_ ?_
    · split
      · rfl
      · rw [List.map_singleton, addSingleObjectToPN, Prod.map_apply, hrequest]
        rfl
    · rcases getGsdmInfo env.toReadEnv path.object with - | info
      · rfl
      · rw [Option.map_some, Option.getD_some, ← addObjectsToPN_indexToAlias hunder, hobject]

/-- What is added for an object of the answer is renamed. -/
theorem addObjectToPN_indexToAlias {info : GsdmInfo} (h : UnderRequest path o) :
    addObjectToPN env.toReadEnv path nextlevel (indexToAlias d path ⟨o, none⟩) info =
      (addObjectToPN env.toReadEnv path nextlevel ⟨o, none⟩ info).map
        (Prod.map (indexToAlias d path) id) := by
  have hrequest : path = indexToAlias d path ⟨o, none⟩ ↔ path = ⟨o, none⟩ := by
    have hname : path = returnedName (env.inMode true).toReadEnv d path ⟨o, none⟩ ↔
        path = ⟨o, none⟩ := returnedName_eq_request_iff h.concrete h.under
    exact hname
  rw [addObjectToPN, addObjectToPN]
  split
  · rfl
  · rw [List.map_append]
    refine congrArg₂ _ ?_ ?_
    · simp only [Ne, hrequest]
      split <;> rfl
    · split
      · rfl
      · exact addObjectsToPN_indexToAlias h.under

/-- The objects that are left of an answer are under the request. -/
theorem underRequest_of_mem_filteredAnswer {depth : ℤ}
    {e : List Component × List (String × Value)}
    (he : e ∈ filteredAnswer env.toReadEnv d path depth) : UnderRequest path e.1 := by
  obtain ⟨hpres, hselects⟩ := mem_filteredAnswer_object.mp ⟨e.2, he⟩
  exact ⟨hselects.under, (concrete_of_present hpres).2⟩

/-- The error and the entries, in the order in which they have been added. -/
def ReadResult.entries (r : ReadResult β) : Int × List (DmPath × β) := (r.error, r.list.entries)

/-- The table of a list that is renamed is the renamed table. -/
theorem entries_addAll_indexToAlias {es : List (DmPath × β)}
    (hes : ∀ e ∈ es, UnderRequest path e.1.object) :
    (Table.empty.addAll (es.map (Prod.map (indexToAlias d path) id))).entries =
      (Table.empty.addAll es).entries.map (Prod.map (indexToAlias d path) id) :=
  Table.entries_addAll_map (P := fun q => UnderRequest path q.object)
    (fun _ _ hq hq' h => indexToAlias_injective hq.concrete hq'.concrete hq.under hq'.under h)
    rfl (fun _ hq => absurd hq List.not_mem_nil) hes

/-- **A request of the bus only renames**, if the parser does. -/
theorem onlyRenames_amxParameterGet
    {parseGet : Bool → DmPath → Bool → Response → List (DmPath × β)}
    (hnil : ∀ mode, (requestPath path).isParameterPath = true →
      parseGet mode (requestPath path) nextlevel [] = [])
    (hparse : ∀ response, (∀ e ∈ response, UnderRequest (requestPath path) e.1) →
      parseGet true (requestPath path) nextlevel response =
        (parseGet false (requestPath path) nextlevel response).map
          (Prod.map (indexToAlias d (requestPath path)) id))
    (hunder : d.answer (requestPath path) (requestDepth (requestPath path) nextlevel) ≠ [] →
      ∀ e ∈ parseGet false (requestPath path) nextlevel (filteredAnswer env.toReadEnv d
        (requestPath path) (requestDepth (requestPath path) nextlevel)),
          UnderRequest (requestPath path) e.1.object) :
    OnlyRenames d path fun mode => (amxParameterGet (env.inMode mode).toReadEnv d path nextlevel
      (parseGet mode)).entries := by
  rw [OnlyRenames]
  by_cases hallowed : env.amxaIsGetAllowed (requestPath path) = true
  · have hallowed' : ∀ mode, (env.inMode mode).toReadEnv.amxaIsGetAllowed (requestPath path) =
        true := fun _ => hallowed
    by_cases hanswer : d.answer (requestPath path)
        (requestDepth (requestPath path) nextlevel) = []
    · rw [amxParameterGet_unanswered (hallowed' true) hanswer (hnil true),
        amxParameterGet_unanswered (hallowed' false) hanswer (hnil false)]
      rfl
    · rw [amxParameterGet_answered (hallowed' true) hanswer,
        amxParameterGet_answered (hallowed' false) hanswer]
      refine Prod.ext rfl ?_
      have hlist := hparse (filteredAnswer env.toReadEnv d (requestPath path)
        (requestDepth (requestPath path) nextlevel))
        fun e he => underRequest_of_mem_filteredAnswer he
      refine (congrArg (fun es => (Table.empty.addAll es).entries) hlist).trans
        ((entries_addAll_indexToAlias (hunder hanswer)).trans (List.map_congr_left ?_))
      intro e he
      rw [Prod.map_apply', Prod.map_apply',
        indexToAlias_requestPath (hunder hanswer e (Table.mem_of_mem_addAll_empty he)).under]
  · have hdenied : ∀ mode, amxParameterGet (env.inMode mode).toReadEnv d path nextlevel
        (parseGet mode) = .empty invalidParameterName := fun _ => amxParameterGet_denied hallowed
    rw [hdenied, hdenied]
    rfl

end Parse

/-- **The values of `DM_AmxParameter.c`** are only renamed. -/
theorem onlyRenames_getValues (env : NamesEnv) (d : Device) (path : DmPath) :
    OnlyRenames d path fun mode => (getValues (env.inMode mode).toReadEnv d path).entries := by
  refine onlyRenames_amxParameterGet (fun _ _ => rfl) (fun response hresponse => ?_)
    fun _ e he => ?_
  · exact parse_inMode rfl (fun _ _ _ => rfl) (fun _ _ _ _ => rfl) hresponse
  · obtain ⟨o, n, v, info, -, hmay, -, rfl⟩ := mem_parseValues_filteredAnswer.mp he
    exact ⟨hmay.under, hmay.concrete⟩

/-- **The names of `DM_AmxParameter.c`** are only renamed. -/
theorem onlyRenames_getNames (env : NamesEnv) (d : Device) (path : DmPath) (nextlevel : Bool) :
    OnlyRenames d path fun mode =>
      (getNames (env.inMode mode).toReadEnv d path nextlevel).entries := by
  by_cases hroot : path.isEmpty = true ∧ nextlevel = true
  · have hlist : ∀ mode, getNames (env.inMode mode).toReadEnv d path nextlevel =
        ⟨0, Table.empty.addAll [addSingleObjectToPN devicePath none]⟩ := fun _ => if_pos hroot
    have hunder : Under (requestPath path) devicePath.object := by
      rw [requestPath, if_pos hroot.1]
      exact List.takeWhile_prefix _
    have hroot' : indexToAlias d path devicePath = devicePath := by
      rw [← indexToAlias_requestPath hunder, requestPath, if_pos hroot.1]
      rfl
    rw [OnlyRenames, hlist, hlist]
    refine Prod.ext rfl ?_
    show [(devicePath, false)] = [(indexToAlias d path devicePath, false)]
    rw [hroot']
  · by_cases hparam : path.isParameterPath = true ∧ nextlevel = true
    · have hlist : ∀ mode, getNames (env.inMode mode).toReadEnv d path nextlevel =
          .empty invalidArguments := fun _ => by rw [getNames, if_neg hroot, if_pos hparam]
      rw [OnlyRenames, hlist, hlist]
      rfl
    · simp only [getNames_of_asksBus ⟨hroot, hparam⟩]
      refine onlyRenames_amxParameterGet (fun _ h => parseNames_nil h)
        (fun response hresponse => ?_) fun hanswer e he => ?_
      · exact parse_inMode addAcsPathToPN_indexToAlias
          (fun _ _ h => addObjectToPN_indexToAlias h) (fun _ _ _ _ => rfl) hresponse
      · obtain ⟨s, q, hmay, -, rfl⟩ :=
          (mem_parseNames requestPath_object_ne_nil hanswer).mp he
        exact ⟨hmay.under, hmay.name_concrete⟩

/-! ### The lists of `DM_ENG_Device_GetParameterValues_GetValues` -/

/-- A sorted list of values is only renamed. -/
theorem getValuesParseValues_inMode {response : Response}
    (hresponse : ∀ e ∈ response, UnderRequest (requestPath path) e.1) :
    getValuesParseValues (env.inMode true).toReadEnv d (requestPath path) response =
      (getValuesParseValues (env.inMode false).toReadEnv d (requestPath path) response).map
        (Prod.map (indexToAlias d path) id) := by
  rw [getValuesParseValues, getValuesParseValues, List.map_flatMap]
  refine List.flatMap_congr fun object hobject => ?_
  rw [List.map_map]
  refine List.map_congr_left fun param _ => Prod.ext ?_ rfl
  have hunder := (hresponse object (List.mem_mergeSort.mp hobject)).under
  exact indexToAlias_requestPath (q := ⟨object.1, some param.1⟩) hunder

/-- **The values of `DM_AmxParameterValues.c`** are only renamed. -/
theorem onlyRenames_getParameterValues (env : NamesEnv) (d : Device) (path : DmPath) :
    OnlyRenames d path fun mode => getParameterValues (env.inMode mode).toReadEnv d path := by
  rw [OnlyRenames]
  by_cases hallowed : env.amxaIsGetAllowed (requestPath path) = true
  · have hallowed' : ∀ mode, (env.inMode mode).toReadEnv.amxaIsGetAllowed (requestPath path) =
        true := fun _ => hallowed
    rw [getParameterValues_eq (hallowed' true), getParameterValues_eq (hallowed' false)]
    exact Prod.ext rfl (getValuesParseValues_inMode fun e he =>
      underRequest_of_mem_filteredAnswer he)
  · have hdenied : ∀ mode, getParameterValues (env.inMode mode).toReadEnv d path =
        (invalidParameterName, []) := fun _ => if_neg hallowed
    rw [hdenied, hdenied]
    rfl

/-- **The values of `DM_AmxParameterValues_prpl.c`** are only renamed. -/
theorem onlyRenames_getParameterValuesPrpl (env : NamesEnv) (d : Device) (path : DmPath) :
    OnlyRenames d path fun mode => getParameterValuesPrpl (env.inMode mode).toReadEnv d path := by
  rw [OnlyRenames]
  by_cases hallowed : env.amxaIsGetAllowed (requestPath path) = true
  · have hallowed' : ∀ mode, (env.inMode mode).toReadEnv.amxaIsGetAllowed (requestPath path) =
        true := fun _ => hallowed
    rw [getParameterValuesPrpl_eq (hallowed' true), getParameterValuesPrpl_eq (hallowed' false)]
    exact Prod.ext rfl (getValuesParseValues_inMode fun e he =>
      underRequest_of_mem_filteredAnswer he)
  · have hdenied : ∀ mode, getParameterValuesPrpl (env.inMode mode).toReadEnv d path =
        (invalidParameterName, []) := fun _ => if_neg hallowed
    rw [hdenied, hdenied]
    rfl

/-! ### When the mode only renames -/

/-- **When the mode only renames**: the values, and the names of `DM_AmxParameter.c`, always; the
names of `DM_AmxParameterNames.c` and of `DM_AmxParameterNames_prpl.c` exactly if the rules say
the same of a parameter the walk comes to by both of its names. -/
theorem instance_mode_only_renames_iff (env : NamesEnv) (d : Device) (acs : AcsPath) :
    (∀ nextlevel,
      OnlyRenames d acs.path (fun mode =>
        getParameterNamesPartialPath (env.inMode mode) d acs.path nextlevel) ↔
      RulesAgree env d acs.path (walkPartialPath env d acs.path nextlevel).2) ∧
    (OnlyRenames d acs.path (fun mode =>
        getParameterNamesParameter (env.inMode mode) d acs.path) ↔
      RulesAgree env d acs.path (walkParameter env d acs.path).2) ∧
    (∀ nextlevel,
      OnlyRenames d acs.path (fun mode =>
        getParameterNamesPartialPathPrpl (env.inMode mode) d acs.path nextlevel) ↔
      RulesAgree env d acs.path (walkPartialPathPrpl env d acs.path nextlevel).2) ∧
    (OnlyRenames d acs.path (fun mode =>
        getParameterNamesParameterPrpl (env.inMode mode) d acs.path) ↔
      RulesAgree env d acs.path (walkParameterPrpl env d acs.path).2) ∧
    (∀ nextlevel, OnlyRenames d acs.path fun mode =>
      (getNames (env.inMode mode).toReadEnv d acs.path nextlevel).entries) ∧
    (OnlyRenames d acs.path fun mode =>
      (getValues (env.inMode mode).toReadEnv d acs.path).entries) ∧
    (OnlyRenames d acs.path fun mode =>
      getParameterValues (env.inMode mode).toReadEnv d acs.path) ∧
    OnlyRenames d acs.path fun mode =>
      getParameterValuesPrpl (env.inMode mode).toReadEnv d acs.path := by
  refine ⟨fun nextlevel => ?_, ?_, fun nextlevel => ?_, ?_, onlyRenames_getNames env d acs.path,
    onlyRenames_getValues env d acs.path, onlyRenames_getParameterValues env d acs.path,
    onlyRenames_getParameterValuesPrpl env d acs.path⟩
  · simp only [getParameterNamesPartialPath_eq]
    exact onlyRenames_listWalk_iff fun _ => underRequest_walkPartialPath acs.noAlias
  · simp only [getParameterNamesParameter_eq]
    exact onlyRenames_listWalk_iff fun _ => underRequest_walkParameter acs.noAlias
  · simp only [getParameterNamesPartialPathPrpl_eq]
    exact onlyRenames_listWalk_iff fun _ => underRequest_walkPartialPathPrpl acs.noAlias
  · simp only [getParameterNamesParameterPrpl_eq]
    exact onlyRenames_listWalk_iff fun _ => underRequest_walkParameterPrpl acs.noAlias

/-! ### Rules with and without instance numbers -/

/-- A rule is for a path: a wildcard in it for any component, and a number for itself. -/
def covers : List Component → List Component → Bool
  | [], [] => true
  | r :: rs, c :: cs => (r = .wildcard || r = c) && covers rs cs
  | _, _ => false

/-- A rule without instance numbers: one of names and wildcards. -/
def WithoutNumbers (rule : List Component) : Prop :=
  ∀ r ∈ rule, r.isNumeric = false ∧ ∀ a, r ≠ .aliased a

theorem covers_aliasComponent {aliasOf : List Component → Option String} {done : List Component}
    {r c : Component} (hr : r.isNumeric = false ∧ ∀ a, r ≠ .aliased a) :
    decide (r = aliasComponent aliasOf done c) = decide (r = c) := by
  cases c with
  | index k =>
    have hindex : r ≠ .index k := by
      rintro rfl
      cases hr.1
    rcases aliasComponent_index k with hk | ⟨a, -, -, hk⟩
    · rw [hk]
    · rw [hk, decide_eq_false hindex, decide_eq_false (hr.2 a)]
  | name _ => rfl
  | aliased _ => rfl
  | wildcard => rfl

/-- Such a rule does not see what the instances are called. -/
theorem covers_indexToAliasLoop {aliasOf : List Component → Option String}
    {rule done fixed o : List Component} (hrule : WithoutNumbers rule) (hfixed : fixed <+: o) :
    covers rule (indexToAliasLoop aliasOf done fixed o) = covers rule o := by
  induction o generalizing rule done fixed with
  | nil => rw [List.prefix_nil.mp hfixed, indexToAliasLoop]
  | cons c o ih =>
    cases rule with
    | nil =>
      cases fixed with
      | nil => rfl
      | cons f fixed => rfl
    | cons r rule =>
      have hrest : WithoutNumbers rule := fun x hx => hrule x (List.mem_cons_of_mem r hx)
      cases fixed with
      | nil =>
        rw [indexToAliasLoop, covers, covers, covers_aliasComponent (hrule r List.mem_cons_self),
          ih hrest List.nil_prefix]
      | cons f fixed =>
        obtain ⟨rfl, htail⟩ := List.cons_prefix_cons.mp hfixed
        rw [indexToAliasLoop, covers, covers, ih hrest htail]

/-- **Rules without instance numbers say the same of both names.** -/
theorem rulesAgree_of_withoutNumbers {rules : List (List Component)} {visits : List Visit}
    (hrules : ∀ rule ∈ rules, WithoutNumbers rule)
    (hdecide : ∀ p q : DmPath, p.parameter = q.parameter →
      (∀ rule ∈ rules, covers rule p.object = covers rule q.object) →
        env.amxaIsGetAllowed p = env.amxaIsGetAllowed q)
    (hvisits : ∀ visit ∈ visits, UnderRequest path visit.object) :
    RulesAgree env d path visits := by
  intro visit hvisit parameter _
  refine hdecide _ _ rfl fun rule hrule => ?_
  exact covers_indexToAliasLoop (hrules rule hrule) (hvisits visit hvisit).under

/-- The parameter `Name` of the first instance of a table. -/
def firstName : DmPath := ⟨[.name "Device", .name "X", .index 1], some "Name"⟩

/-- The parameter `Name` of every instance. -/
def everyName : AcsPath where
  path := ⟨[.name "Device", .name "X", .wildcard], some "Name"⟩
  noAlias := by
    intro c hc a
    simp only [List.mem_cons, List.not_mem_nil, or_false] at hc
    rcases hc with rfl | rfl | rfl <;> exact Component.noConfusion

/-- A rule with an instance number denies `Name` of the first instance. -/
def firstNameDenied : NamesEnv where
  instanceAlias := false
  amxaIsGetAllowed := fun p =>
    !(p.parameter = firstName.parameter && covers firstName.object p.object)
  unanswered := fun _ => .null
  gsdm := fun _ => none
  supportedType := fun _ _ => some .cstring
  amxTypeToDataType := convertParameterType
  keyOrder := byComponents
  wildcardsSupported := true
  resolvesToNothing := fun _ => false
  describe := fun _ => .object instanceType [("Alias", 0), ("Name", 0)] [] [] fun _ => .failed
  getSupported := fun _ _ => some fun _ => some ⟨true, [("Alias", 1), ("Name", 1)]⟩

theorem firstName_concrete : ∀ c ∈ firstName.object, c.IsConcrete := by
  intro c hc
  simp only [firstName, List.mem_cons, List.not_mem_nil, or_false] at hc
  rcases hc with rfl | rfl | rfl <;> exact trivial

/-- The state with that instance. -/
def firstNameDevice : Device :=
  chainDevice firstName.object firstName_concrete
    [((firstName.object, "Alias"), ⟨.cstring, "a"⟩), ((firstName.object, "Name"), ⟨.cstring, "n"⟩)]

/-- Every instance has an Alias. -/
def EveryInstanceHasAlias (d : Device) : Prop :=
  ∀ o k, o ++ [.index k] ∈ d.objects.keys →
    ∃ a, a ≠ "" ∧ d.objects.aliasOf (o ++ [.index k]) = some a

theorem everyInstanceHasAlias_firstNameDevice : EveryInstanceHasAlias firstNameDevice := by
  intro o k hmem
  have hpre : o ++ [.index k] <+: [.name "Device", .name "X"] ++ [.index 1] :=
    (mem_keys_chainObjects.mp hmem).1
  rcases List.prefix_concat_iff.mp hpre with hall | hpre
  · rw [hall]
    exact ⟨"a", by decide, rfl⟩
  · have hindex : Component.index k ∈ [.name "Device", .name "X"] :=
      hpre.subset (List.mem_append_right o (List.mem_singleton_self _))
    simp at hindex

/-- The mode only renames, in every implementation. -/
structure InstanceModeOnlyRenames (env : NamesEnv) (d : Device) (acspath : DmPath) : Prop where
  partialPath : ∀ nextlevel, OnlyRenames d acspath fun mode =>
    getParameterNamesPartialPath (env.inMode mode) d acspath nextlevel
  parameter : OnlyRenames d acspath fun mode =>
    getParameterNamesParameter (env.inMode mode) d acspath
  partialPathPrpl : ∀ nextlevel, OnlyRenames d acspath fun mode =>
    getParameterNamesPartialPathPrpl (env.inMode mode) d acspath nextlevel
  parameterPrpl : OnlyRenames d acspath fun mode =>
    getParameterNamesParameterPrpl (env.inMode mode) d acspath
  names : ∀ nextlevel, OnlyRenames d acspath fun mode =>
    (getNames (env.inMode mode).toReadEnv d acspath nextlevel).entries
  values : OnlyRenames d acspath fun mode =>
    (getValues (env.inMode mode).toReadEnv d acspath).entries

/-- **A rule with an instance number hides a parameter in one of the modes only.** -/
theorem instance_mode_shows_denied : ¬∀ (env : NamesEnv) (d : Device) (acs : AcsPath),
    EveryInstanceHasAlias d → InstanceModeOnlyRenames env d acs.path := by
  intro h
  have hnumber : getParameterNamesParameter (firstNameDenied.inMode false) firstNameDevice
      everyName.path = (0, []) := rfl
  have halias : getParameterNamesParameter (firstNameDenied.inMode true) firstNameDevice
      everyName.path = (0, [(⟨[.name "Device", .name "X", .aliased "a"], some "Name"⟩, true)]) :=
    rfl
  have hrenames := (h firstNameDenied firstNameDevice everyName
    everyInstanceHasAlias_firstNameDevice).parameter
  rw [OnlyRenames, hnumber, halias] at hrenames
  exact absurd (congrArg Prod.snd hrenames) (List.cons_ne_nil _ _)

end Tr069.Parameters
