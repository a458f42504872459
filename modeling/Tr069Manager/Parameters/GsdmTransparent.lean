import Tr069Manager.Parameters.GsdmCache

/-!
# Where shared data is like new data

After any calls on one variable, a call should return what it returns for a new one, and there
should be the same data for its path. It is so exactly if `GsdmCall.Kept` holds
(`transparent_iff`). A request that was denied or has failed is remembered like one that was
answered, and one for a parameter like one for the object it is of: the next one with the same key
then finds less than it would be given. The other way round, a call that is denied, or for which
the bus fails, finds what the calls before have been given.

Where all calls are answered nothing goes wrong, but with the call for an object behind one for a
parameter in it (`kept_of_answered`).
-/

namespace Tr069.Parameters

variable (M : SupportedModel)

/-! ### What there is for a path -/

/-- The object that a path has its data from: its own one, or that of its instances. -/
structure SupportedModel.Own (object : List Component) (key : SupportedPath) (v : GsdmObject) :
    Prop where
  named : object ≠ []
  ofPath : key = supportedKey object ∨ key = supportedKey object ++ [instancePart]
  find : M.objects.find key = some v

/-- The data of two objects says the same. -/
structure GsdmInfo.Same (a b : GsdmInfo) : Prop where
  writable : a.writable = b.writable
  parameters : a.parameters = b.parameters
  objects : ∀ template, template ∈ a.objects ↔ template ∈ b.objects

/-- **The same is there for a path**: for that of a parameter its type and whether it can be
written, for that of an object what there is of the object. -/
def SameFor (path : DmPath) (a b : Option GsdmInfo) : Prop :=
  match path.parameter with
  | some name => (a.bind fun info => info.parameters name) = b.bind fun info => info.parameters name
  | none => Option.Rel GsdmInfo.Same a b

theorem sameFor_none {path : DmPath} : SameFor path none none := by
  rw [SameFor]
  rcases path.parameter with - | name
  · exact .none
  · rfl

section Path

variable {M} {c : GsdmCall} {h h' : List GsdmCall} {data : GsdmData} {key : SupportedPath}
  {object : List Component} {path : DmPath} {v : GsdmObject} {template : String}

theorem SupportedModel.Own.find_eq (hown : M.Own object key v) (hdata : Remembers M h data) :
    data.getGsdmInfo object = (data.response.find key).map GsdmEntry.info := by
  have hnone : ∀ k, k ∉ M.objects.keys → data.response.find k = none := by
    intro k hk
    rcases hfind : data.response.find k with - | entry
    · rfl
    · obtain ⟨w, hw, -⟩ := hdata.entry k entry hfind
      exact absurd (Table.mem_keys.mpr ⟨w, hw⟩) hk
  have hmem : key ∈ M.objects.keys := Table.mem_keys.mpr ⟨v, hown.find⟩
  rw [GsdmData.getGsdmInfo, if_neg hown.named]
  rcases hown.ofPath with rfl | rfl
  · rw [hnone _ (M.table _ hmem), Option.or_none]
  · rw [hnone _ fun hplain => M.table _ hplain hmem, Option.none_or]

/-- There is nothing for a path that is not supported. -/
theorem getGsdmInfo_of_not_own (hdata : Remembers M h data) (hown : ∀ key v, ¬M.Own object key v) :
    data.getGsdmInfo object = none := by
  rw [GsdmData.getGsdmInfo]
  split
  · rfl
  · next hnamed =>
    have hnone : ∀ k, k = supportedKey object ∨ k = supportedKey object ++ [instancePart] →
        data.response.find k = none := by
      intro k hk
      rcases hfind : data.response.find k with - | entry
      · rfl
      · obtain ⟨w, hw, -⟩ := hdata.entry k entry hfind
        exact absurd ⟨hnamed, hk, hw⟩ (hown k w)
    rw [hnone _ (Or.inl rfl), hnone _ (Or.inr rfl)]
    rfl

theorem SupportedModel.Own.of_given (hown : M.Own object key v) (hdata : Remembers M h data)
    (hgiven : Given M h key) : ∃ info, data.getGsdmInfo object = some info ∧
      info.writable = v.access.map (fun access => decide (access ≠ 0)) ∧
      info.parameters = v.parameters ∧
      ∀ template, template ∈ info.objects ↔ GivenIn M h key template := by
  obtain ⟨entry, hentry⟩ := Table.mem_keys.mp ((hdata.keys key).mpr hgiven)
  obtain ⟨w, hw, hholds, hchildren⟩ := hdata.entry key entry hentry
  obtain rfl : v = w := Option.some.inj (hown.find.symm.trans hw)
  refine ⟨entry.info, ?_, hholds.writable, hholds.parameters, hchildren⟩
  rw [hown.find_eq hdata, hentry]
  rfl

theorem SupportedModel.Own.of_not_given (hown : M.Own object key v) (hdata : Remembers M h data)
    (hgiven : ¬Given M h key) : data.getGsdmInfo object = none := by
  rw [hown.find_eq hdata, Table.find_eq_none.mpr fun hmem => hgiven ((hdata.keys key).mp hmem)]
  rfl

/-- For a parameter: the object is there, if it has the parameter. -/
theorem SupportedModel.Own.parameter_iff (hown : M.Own object key v) {name : String} :
    (((M.after h).getGsdmInfo object).bind fun info => info.parameters name) =
        (((M.after h').getGsdmInfo object).bind fun info => info.parameters name) ↔
      (v.parameters name ≠ none → (Given M h key ↔ Given M h' key)) := by
  have hread : ∀ h, Given M h key →
      (((M.after h).getGsdmInfo object).bind fun info => info.parameters name) =
        v.parameters name := by
    intro h hgiven
    obtain ⟨info, hinfo, -, hparameters, -⟩ := hown.of_given (remembers_after M h) hgiven
    rw [hinfo, Option.bind_some, hparameters]
  have hunread : ∀ h, ¬Given M h key →
      (((M.after h).getGsdmInfo object).bind fun info => info.parameters name) = none := by
    intro h hgiven
    rw [hown.of_not_given (remembers_after M h) hgiven, Option.bind_none]
  by_cases hgiven : Given M h key
  · by_cases hgiven' : Given M h' key
    · rw [hread h hgiven, hread h' hgiven']
      exact iff_of_true rfl fun _ => iff_of_true hgiven hgiven'
    · rw [hread h hgiven, hunread h' hgiven']
      exact ⟨fun hnone hsome => absurd hnone hsome,
        fun h => by_contra fun hsome => hgiven' ((h hsome).mp hgiven)⟩
  · by_cases hgiven' : Given M h' key
    · rw [hunread h hgiven, hread h' hgiven']
      exact ⟨fun hnone hsome => absurd hnone.symm hsome,
        fun h => by_contra fun hsome => hgiven ((h fun heq => hsome heq.symm).mpr hgiven')⟩
    · rw [hunread h hgiven, hunread h' hgiven']
      exact iff_of_true rfl fun _ => iff_of_false hgiven hgiven'

/-- For an object: it is there, and so are the objects in it. -/
theorem SupportedModel.Own.object_iff (hown : M.Own object key v) :
    Option.Rel GsdmInfo.Same ((M.after h).getGsdmInfo object) ((M.after h').getGsdmInfo object) ↔
      (Given M h key ↔ Given M h' key) ∧
        (Given M h key → ∀ template, GivenIn M h key template ↔ GivenIn M h' key template) := by
  have hdata := remembers_after M h
  have hdata' := remembers_after M h'
  by_cases hgiven : Given M h key
  · obtain ⟨info, hinfo, hwritable, hparameters, hobjects⟩ := hown.of_given hdata hgiven
    by_cases hgiven' : Given M h' key
    · obtain ⟨info', hinfo', hwritable', hparameters', hobjects'⟩ := hown.of_given hdata' hgiven'
      rw [hinfo, hinfo', Option.rel_some_some, and_iff_right (iff_of_true hgiven hgiven'),
        imp_iff_right hgiven]
      constructor
      · intro hsame template
        rw [← hobjects, ← hobjects', hsame.objects]
      · intro hin
        refine ⟨hwritable.trans hwritable'.symm, hparameters.trans hparameters'.symm, ?_⟩
        intro template
        rw [hobjects, hobjects', hin]
    · rw [hinfo, hown.of_not_given hdata' hgiven']
      exact iff_of_false (fun hsame => by cases hsame) fun h => hgiven' (h.1.mp hgiven)
  · rw [hown.of_not_given hdata hgiven]
    by_cases hgiven' : Given M h' key
    · obtain ⟨info', hinfo', -⟩ := hown.of_given hdata' hgiven'
      rw [hinfo']
      exact iff_of_false (fun hsame => by cases hsame) fun h => hgiven (h.1.mpr hgiven')
    · rw [hown.of_not_given hdata' hgiven']
      exact iff_of_true .none ⟨iff_of_false hgiven hgiven', fun h => absurd h hgiven⟩

/-- **Where the same is there for a path**, by what the calls have given. -/
theorem SupportedModel.Own.sameFor_iff (hown : M.Own path.object key v) :
    SameFor path ((M.after h).getGsdmInfo path.object) ((M.after h').getGsdmInfo path.object) ↔
      (∀ name, path.parameter = some name → v.parameters name ≠ none →
        (Given M h key ↔ Given M h' key)) ∧
      (path.parameter = none → (Given M h key ↔ Given M h' key) ∧
        (Given M h key → ∀ template, GivenIn M h key template ↔ GivenIn M h' key template)) := by
  rw [SameFor]
  rcases path.parameter with - | name
  · have hnone : ∀ name : String, none = some name → v.parameters name ≠ none →
        (Given M h key ↔ Given M h' key) := fun _ hname => by cases hname
    rw [and_iff_right hnone, imp_iff_right rfl]
    exact hown.object_iff
  · have hsome : some name = none → (Given M h key ↔ Given M h' key) ∧ (Given M h key →
        ∀ template, GivenIn M h key template ↔ GivenIn M h' key template) :=
      fun hname => by cases hname
    rw [and_iff_left hsome]
    simp only [Option.some_inj, forall_eq']
    exact hown.parameter_iff

/-! ### The objects in an object -/

theorem length_supportedKey : (supportedKey object).length = object.length := by
  rw [supportedKey, buildSupportedPath, List.length_map, List.length_map]

/-- What a call adds to an object is in it. -/
theorem isChild_of_parentAndTemplate {key' : SupportedPath} {w : GsdmObject}
    (hw : M.objects.find key' = some w)
    (hadded : parentAndTemplate path key' w = some (key, template)) :
    IsChild M.objects key template := by
  obtain ⟨-, hkey⟩ := parentAndTemplate_eq_some.mp hadded
  refine ⟨key', w, hw, ?_⟩
  split at hkey
  · next hmulti =>
    rw [if_pos hmulti]
    exact hkey
  · next hmulti =>
    rw [if_neg hmulti]
    exact hkey.2

theorem GivenIn.isChild (hin : GivenIn M h key template) : IsChild M.objects key template := by
  induction h with
  | nil => exact hin.elim
  | cons c h ih =>
    rcases hin with hbefore | ⟨-, -, key', w, hw, hadded⟩
    · exact ih hbefore
    · exact isChild_of_parentAndTemplate (M.find_objects hw) hadded

/-- **A call for an object gives all objects in it.** -/
theorem SupportedModel.Own.added_iff (hown : M.Own c.parameterName.object key v)
    (hobject : c.parameterName.parameter = none) :
    (∃ key' w, (M.answer c).find key' = some w ∧
      parentAndTemplate c.parameterName key' w = some (key, template)) ↔
        IsChild M.objects key template := by
  constructor
  · rintro ⟨key', w, hw, hadded⟩
    exact isChild_of_parentAndTemplate (M.find_objects hw) hadded
  · rintro ⟨key', w, hw, hkey⟩
    have hmem : key ∈ M.objects.keys := Table.mem_keys.mpr ⟨v, hown.find⟩
    have hanswer : key' ∈ (M.answer c).keys := M.inOwn hown.ofPath hmem hw hkey
    obtain ⟨w', hw'⟩ := Table.mem_keys.mp hanswer
    obtain rfl : w = w' := Option.some.inj (hw.symm.trans (M.find_objects hw'))
    refine ⟨key', w, hw', parentAndTemplate_eq_some.mpr ⟨?_, ?_⟩⟩
    · simp [DmPath.isParameterPath, DmPath.isPartial, hobject]
    · split at hkey
      · next hmulti =>
        rw [if_pos hmulti]
        exact hkey
      · next hmulti =>
        rw [if_neg hmulti]
        -- the path that is asked for is shorter
        refine ⟨fun hself => ?_, hkey⟩
        have hlength := congrArg List.length hself.2
        rw [hkey, List.length_append, List.length_map, List.length_singleton] at hlength
        rcases hown.ofPath with hpath | hpath
        · rw [hpath, length_supportedKey] at hlength
          omega
        · rw [hpath, List.length_append, length_supportedKey] at hlength
          omega

end Path

/-! ### The property and the condition -/

/-- **The property**: after the calls before, a call returns the error of one for new data, and
there is the same for its path. -/
structure Transparent (h : List GsdmCall) (c : GsdmCall) : Prop where
  error : (M.getGsdmDataIn c (M.after h)).1 = (M.getGsdmDataIn c .new).1
  info : SameFor c.parameterName
    ((M.getGsdmDataIn c (M.after h)).2.getGsdmInfo c.parameterName.object)
    ((M.getGsdmDataIn c .new).2.getGsdmInfo c.parameterName.object)

/-- **The condition**: a call that is denied has not been requested before; where it is denied or
the bus fails, the calls before have given nothing that it asks for; and where it is answered but
has been requested before, they have given all of it: the object of the path, for the path of an
object with those in it, and for the path of a parameter if it has that. -/
structure GsdmCall.Kept (h : List GsdmCall) (c : GsdmCall) : Prop where
  denied : c.parameterName.object ≠ [] → c.allowed = false → ¬c.Asked h
  nothing : ¬(c.allowed = true ∧ c.answered = true) → ∀ key v,
    M.Own c.parameterName.object key v → Given M h key →
      ∃ name, c.parameterName.parameter = some name ∧ v.parameters name = none
  everything : c.allowed = true → c.answered = true → c.Asked h → ∀ key v,
    M.Own c.parameterName.object key v →
      (∀ name, c.parameterName.parameter = some name → v.parameters name ≠ none →
        Given M h key) ∧
      (c.parameterName.parameter = none → Given M h key ∧
        ∀ template, IsChild M.objects key template → GivenIn M h key template)

section Transparent

variable {M} {c : GsdmCall} {h : List GsdmCall} {key : SupportedPath} {v : GsdmObject}

theorem not_asked_nil : ¬c.Asked [] := fun ⟨_, hmem, _⟩ => absurd hmem List.not_mem_nil

/-- The errors are the same. -/
theorem error_eq_iff : (M.getGsdmDataIn c (M.after h)).1 = (M.getGsdmDataIn c .new).1 ↔
    (c.parameterName.object ≠ [] → c.allowed = false → ¬c.Asked h) := by
  have hasked : c.request ∈ (M.after h).request ↔ c.Asked h :=
    (remembers_after M h).request c.request
  have hnew : c.request ∉ GsdmData.new.request := List.not_mem_nil
  rw [error_getGsdmDataIn, error_getGsdmDataIn, ← hasked]
  by_cases hdenied : c.parameterName.object ≠ [] ∧ c.allowed = false
  · rw [if_pos (show _ ∧ _ ∧ _ from ⟨hdenied.1, hnew, hdenied.2⟩)]
    constructor
    · intro herror _ _ hbefore
      rw [if_neg fun h => h.2.1 hbefore] at herror
      exact absurd herror (by decide)
    · intro h
      rw [if_pos ⟨hdenied.1, h hdenied.1 hdenied.2, hdenied.2⟩]
  · rw [if_neg fun h => hdenied ⟨h.1, h.2.2⟩, if_neg fun h => hdenied ⟨h.1, h.2.2⟩]
    exact iff_of_true rfl fun hnamed hallowed => absurd ⟨hnamed, hallowed⟩ hdenied

/-- What a call gives is its object. -/
theorem SupportedModel.Own.mem_answer (hown : M.Own c.parameterName.object key v) :
    key ∈ (M.answer c).keys :=
  M.own hown.ofPath (Table.mem_keys.mpr ⟨v, hown.find⟩)

theorem SupportedModel.Own.given_of_fetches (hown : M.Own c.parameterName.object key v)
    (hfetches : c.Fetches h) : Given M (c :: h) key := Or.inr ⟨hfetches, hown.mem_answer⟩

/-- **A call that is answered gives all objects in its own.** -/
theorem SupportedModel.Own.givenIn_iff (hown : M.Own c.parameterName.object key v)
    (hobject : c.parameterName.parameter = none) (hfetches : c.Fetches h) {template : String} :
    GivenIn M (c :: h) key template ↔ IsChild M.objects key template :=
  ⟨GivenIn.isChild, fun hchild => Or.inr ⟨hfetches, hown.given_of_fetches hfetches,
    (hown.added_iff hobject).mpr hchild⟩⟩

/-- **The same is there**, for a path that is supported. -/
theorem SupportedModel.Own.info_iff (hown : M.Own c.parameterName.object key v) :
    SameFor c.parameterName ((M.after (c :: h)).getGsdmInfo c.parameterName.object)
        ((M.after [c]).getGsdmInfo c.parameterName.object) ↔
      (¬(c.allowed = true ∧ c.answered = true) → Given M h key →
        ∃ name, c.parameterName.parameter = some name ∧ v.parameters name = none) ∧
      (c.allowed = true → c.answered = true → c.Asked h →
        (∀ name, c.parameterName.parameter = some name → v.parameters name ≠ none →
          Given M h key) ∧
        (c.parameterName.parameter = none → Given M h key ∧
          ∀ template, IsChild M.objects key template → GivenIn M h key template)) := by
  rw [hown.sameFor_iff]
  by_cases hok : c.allowed = true ∧ c.answered = true
  · have hfirst : c.Fetches [] := ⟨hown.named, not_asked_nil, hok.1, hok.2⟩
    have hgiven₀ : Given M [c] key := hown.given_of_fetches hfirst
    by_cases hasked : c.Asked h
    · have hnot : ¬c.Fetches h := fun hfetches => hfetches.new hasked
      have hgiven : Given M (c :: h) key ↔ Given M h key := or_iff_left fun hnow => hnot hnow.1
      have hgivenIn : ∀ template, GivenIn M (c :: h) key template ↔ GivenIn M h key template :=
        fun template => or_iff_left fun hnow => hnot hnow.1
      simp only [hgiven, hgivenIn, hgiven₀, iff_true, hok, and_self, not_true_eq_false,
        false_imp_iff, true_and, forall_const, hasked]
      refine and_congr_right fun _ => imp_congr_right fun hobject => ?_
      refine and_congr_right fun hbefore => ?_
      rw [imp_iff_right hbefore]
      refine forall_congr' fun template => ?_
      rw [hown.givenIn_iff hobject hfirst]
      exact ⟨fun hin => hin.mpr, fun hin => ⟨GivenIn.isChild, hin⟩⟩
    · have hfetches : c.Fetches h := ⟨hown.named, hasked, hok.1, hok.2⟩
      have hgiven := hown.given_of_fetches hfetches
      refine iff_of_true ⟨fun _ _ _ => iff_of_true hgiven hgiven₀, fun hobject =>
        ⟨iff_of_true hgiven hgiven₀, fun _ template => ?_⟩⟩
        ⟨fun hnot => absurd hok hnot, fun _ _ hbefore => absurd hbefore hasked⟩
      rw [hown.givenIn_iff hobject hfetches, hown.givenIn_iff hobject hfirst]
  · have hnot : ∀ h, ¬c.Fetches h := fun h hfetches => hok ⟨hfetches.allowed, hfetches.answered⟩
    have hgiven : Given M (c :: h) key ↔ Given M h key := or_iff_left fun hnow => hnot h hnow.1
    have hnone : ¬Given M [c] key := fun hnow => hnow.elim id fun hnow => hnot [] hnow.1
    rw [hgiven]
    constructor
    · rintro ⟨hparameter, hobject⟩
      refine ⟨fun _ hbefore => ?_, fun hallowed hanswered => absurd ⟨hallowed, hanswered⟩ hok⟩
      rcases hpath : c.parameterName.parameter with - | name
      · exact absurd ((hobject hpath).1.mp hbefore) hnone
      · refine ⟨name, rfl, by_contra fun hsome => ?_⟩
        exact hnone ((hparameter name hpath hsome).mp hbefore)
    · rintro ⟨hnothing, -⟩
      refine ⟨fun name hname hsome => iff_of_false (fun hbefore => ?_) hnone, fun hobject => ?_⟩
      · obtain ⟨name', hname', hv⟩ := hnothing hok hbefore
        obtain rfl := Option.some.inj (hname.symm.trans hname')
        exact hsome hv
      · have hbefore : ¬Given M h key := by
          intro hbefore
          obtain ⟨name, hname, -⟩ := hnothing hok hbefore
          rw [hobject] at hname
          cases hname
        exact ⟨iff_of_false hbefore hnone, fun h => absurd h hbefore⟩

/-! ### Calls that are answered -/

theorem Given.of_suffix {h' : List GsdmCall} (hsuffix : h' <:+ h) (hgiven : Given M h' key) :
    Given M h key := by
  induction h with
  | nil =>
    rw [List.suffix_nil] at hsuffix
    exact hsuffix ▸ hgiven
  | cons c h ih =>
    rcases List.suffix_cons_iff.mp hsuffix with rfl | hsuffix
    · exact hgiven
    · exact Or.inl (ih hsuffix)

theorem GivenIn.of_suffix {h' : List GsdmCall} {template : String} (hsuffix : h' <:+ h)
    (hin : GivenIn M h' key template) : GivenIn M h key template := by
  induction h with
  | nil =>
    rw [List.suffix_nil] at hsuffix
    exact hsuffix ▸ hin
  | cons c h ih =>
    rcases List.suffix_cons_iff.mp hsuffix with rfl | hsuffix
    · exact hin
    · exact Or.inl (ih hsuffix)

/-- Where all calls are answered, the first one with a request has fetched. -/
theorem exists_fetches (hanswered : ∀ e ∈ h, e.allowed = true ∧ e.answered = true)
    (hasked : c.Asked h) : ∃ e h', e :: h' <:+ h ∧ e.Fetches h' ∧ e.request = c.request := by
  induction h with
  | nil => exact absurd hasked not_asked_nil
  | cons d h ih =>
    have hbefore : c.Asked h → ∃ e h', e :: h' <:+ d :: h ∧ e.Fetches h' ∧
        e.request = c.request := by
      intro hasked
      obtain ⟨e, h', hsuffix, he⟩ := ih (fun e he => hanswered e (List.mem_cons_of_mem _ he)) hasked
      exact ⟨e, h', hsuffix.trans (List.suffix_cons d h), he⟩
    obtain ⟨e, he, hnamed, hrequest⟩ := hasked
    rcases List.mem_cons.mp he with rfl | he
    · by_cases hasked : e.Asked h
      · obtain ⟨e', he', hnamed', hrequest'⟩ := hasked
        exact hbefore ⟨e', he', hnamed', hrequest'.trans hrequest⟩
      · have hthis := hanswered e List.mem_cons_self
        exact ⟨e, h, List.suffix_refl _, ⟨hnamed, hasked, hthis.1, hthis.2⟩, hrequest⟩
    · exact hbefore ⟨e, he, hnamed, hrequest⟩

/-- **Where all calls are allowed and answered** a call is kept, unless it is for an object and
one with the same request was for a parameter. -/
theorem kept_of_answered (hanswered : ∀ e ∈ c :: h, e.allowed = true ∧ e.answered = true)
    (hsame : c.parameterName.parameter = none →
      ∀ e ∈ h, e.request = c.request → e.parameterName.parameter = none) : c.Kept M h := by
  have hthis := hanswered c List.mem_cons_self
  refine ⟨fun _ hdenied => ?_, fun hnot => absurd hthis hnot, fun _ _ hasked key v hown => ?_⟩
  · rw [hthis.1] at hdenied
    cases hdenied
  · obtain ⟨e, h', hsuffix, hfetches, hrequest⟩ :=
      exists_fetches (fun e he => hanswered e (List.mem_cons_of_mem _ he)) hasked
    have hpath : supportedKey e.parameterName.object = supportedKey c.parameterName.object :=
      (Prod.mk.inj hrequest).1
    have hown' : M.Own e.parameterName.object key v :=
      ⟨hfetches.named, hpath ▸ hown.ofPath, hown.find⟩
    have hgiven := (hown'.given_of_fetches hfetches).of_suffix hsuffix
    refine ⟨fun _ _ _ => hgiven, fun hobject => ⟨hgiven, fun template hchild => ?_⟩⟩
    have hobject' := hsame hobject e (hsuffix.subset List.mem_cons_self) hrequest
    exact ((hown'.givenIn_iff hobject' hfetches).mpr hchild).of_suffix hsuffix

/-- **A call is transparent** exactly if it is kept. -/
theorem transparent_iff (M : SupportedModel) (h : List GsdmCall) (c : GsdmCall) :
    Transparent M h c ↔ c.Kept M h := by
  have hinfo : SameFor c.parameterName
      ((M.getGsdmDataIn c (M.after h)).2.getGsdmInfo c.parameterName.object)
      ((M.getGsdmDataIn c .new).2.getGsdmInfo c.parameterName.object) ↔
        ∀ key v, M.Own c.parameterName.object key v →
          SameFor c.parameterName ((M.after (c :: h)).getGsdmInfo c.parameterName.object)
            ((M.after [c]).getGsdmInfo c.parameterName.object) := by
    constructor
    · exact fun hsame _ _ _ => hsame
    · intro hsame
      by_cases hown : ∃ key v, M.Own c.parameterName.object key v
      · obtain ⟨key, v, hown⟩ := hown
        exact hsame key v hown
      · have hnone : ∀ key v, ¬M.Own c.parameterName.object key v :=
          fun key v h => hown ⟨key, v, h⟩
        have hleft : (M.getGsdmDataIn c (M.after h)).2.getGsdmInfo c.parameterName.object = none :=
          getGsdmInfo_of_not_own (remembers_after M (c :: h)) hnone
        have hright : (M.getGsdmDataIn c .new).2.getGsdmInfo c.parameterName.object = none :=
          getGsdmInfo_of_not_own (remembers_after M [c]) hnone
        rw [hleft, hright]
        exact sameFor_none
  constructor
  · rintro ⟨herror, hsame⟩
    have hparts := fun key v (hown : M.Own c.parameterName.object key v) =>
      hown.info_iff.mp (hinfo.mp hsame key v hown)
    exact ⟨error_eq_iff.mp herror, fun hnot key v hown => (hparts key v hown).1 hnot,
      fun hallowed hanswered hasked key v hown => (hparts key v hown).2 hallowed hanswered hasked⟩
  · rintro ⟨hdenied, hnothing, heverything⟩
    refine ⟨error_eq_iff.mpr hdenied, hinfo.mpr fun key v hown => hown.info_iff.mpr ?_⟩
    exact ⟨fun hnot => hnothing hnot key v hown,
      fun hallowed hanswered hasked => heverything hallowed hanswered hasked key v hown⟩

end Transparent

/-! ### A request that has failed -/

/-- The key of the only object of a supported data model. -/
def deviceInfoKey : SupportedPath := ["Device", "DeviceInfo"]

/-- The object. -/
def deviceInfo : GsdmObject := ⟨some 0, false, [⟨"UpTime", .uint32, 0⟩]⟩

/-- A supported data model with one object. -/
def onlyDeviceInfo : SupportedModel where
  objects := Table.empty.put deviceInfoKey deviceInfo
  getSupported := fun _ _ => Table.empty.put deviceInfoKey deviceInfo
  find_objects := id
  own := fun _ hmem => hmem
  inOwn := fun _ _ hfind _ => Table.mem_keys.mpr ⟨_, hfind⟩
  table := by
    intro path hpath hinstance
    have hpath : path = deviceInfoKey := List.mem_singleton.mp hpath
    have hinstance : path ++ [instancePart] = deviceInfoKey := List.mem_singleton.mp hinstance
    rw [hpath] at hinstance
    exact absurd hinstance (by decide)

/-- A call for the parameter. -/
def upTime (answered : Bool) : GsdmCall :=
  ⟨⟨[.name "Device", .name "DeviceInfo"], some "UpTime"⟩, false, true, answered⟩

/-- The bus fails, and is not asked again: there is no data for the parameter. -/
theorem failed_request_remembered :
    ¬Transparent onlyDeviceInfo [upTime false] (upTime true) := by
  intro h
  have hown : onlyDeviceInfo.Own (upTime true).parameterName.object deviceInfoKey deviceInfo :=
    ⟨List.cons_ne_nil _ _, Or.inl rfl, Table.find_put_self⟩
  have hasked : (upTime true).Asked [upTime false] :=
    ⟨upTime false, List.mem_cons_self, List.cons_ne_nil _ _, rfl⟩
  have hgiven := ((hown.info_iff.mp h.info).2 rfl rfl hasked).1 "UpTime" rfl (by decide)
  rcases hgiven with hnothing | hfetches
  · exact hnothing
  · exact absurd hfetches.1.answered (by decide)

end Tr069.Parameters
