import Tr069Manager.Parameters.AmxParameter

/-!
# What `IndexToAlias` does to a path

Under the request, the path of an object begins with the fixed part of the request, which is
kept; behind it, an instance number becomes the alias of its instance, if there is one. The
renaming depends on the state of the device only through these aliases, it is one-to-one, and
the supported path is the same before and after.
-/

namespace Tr069.Parameters

/-! ### Matching -/

section Matching

variable {pattern o rest : List Component}

/-- What is left is what stands behind a part that matches. -/
theorem matchRest_split (h : matchRest pattern o = some rest) :
    ∃ used, o = used ++ rest ∧ used.length = pattern.length ∧ matchRest pattern used = some [] := by
  induction pattern generalizing o with
  | nil =>
    cases h
    exact ⟨[], rfl, rfl, rfl⟩
  | cons p ps ih =>
    cases o with
    | nil => cases h
    | cons c cs =>
      rw [matchRest] at h
      split at h
      · next hc =>
        obtain ⟨used, rfl, hlen, hmatch⟩ := ih h
        refine ⟨c :: used, rfl, congrArg (· + 1) hlen, ?_⟩
        rw [matchRest, if_pos hc, hmatch]
      · cases h

/-- The fixed part of what is matched stands at its beginning. -/
theorem prefix_of_matchRest (h : matchRest pattern o = some rest) : fixedPart pattern <+: o := by
  induction pattern generalizing o with
  | nil => exact List.nil_prefix
  | cons p ps ih =>
    cases o with
    | nil => cases h
    | cons c cs =>
      rw [matchRest] at h
      split at h
      · next hc =>
        rw [fixedPart, List.takeWhile_cons]
        split
        · next hp =>
          obtain rfl := hc.resolve_right fun hw => of_decide_eq_true hp hw.1
          exact (List.prefix_cons_inj p).mpr (ih h)
        · exact List.nil_prefix
      · cases h

/-- A path without wildcards is its own fixed part. -/
theorem fixedPart_of_not_mem (h : Component.wildcard ∉ pattern) : fixedPart pattern = pattern :=
  List.takeWhile_eq_self_iff.mpr fun _ hc => decide_eq_true fun hw => h (hw ▸ hc)

/-- A path without wildcards matches what it is the beginning of. -/
theorem matchRest_of_not_mem (h : Component.wildcard ∉ pattern) :
    matchRest pattern o = some rest ↔ o = pattern ++ rest := by
  constructor
  · intro hmatch
    obtain ⟨used, rfl, hlen, -⟩ := matchRest_split hmatch
    have hpre := prefix_of_matchRest hmatch
    rw [fixedPart_of_not_mem h] at hpre
    obtain ⟨tail, htail⟩ := hpre
    rw [(List.append_inj htail hlen.symm).1]
  · rintro rfl
    induction pattern with
    | nil => rfl
    | cons p ps ih =>
      rw [List.cons_append, matchRest, if_pos (Or.inl rfl)]
      exact ih fun hmem => h (List.mem_cons_of_mem p hmem)

end Matching

/-! ### The loop -/

section Loop

variable {aliasOf aliasOf' : List Component → Option String}
  {done fixed xs ys zs : List Component}

theorem aliasComponent_index (k : ℕ) :
    (aliasComponent aliasOf done (.index k) = .index k) ∨
      ∃ a, a ≠ "" ∧ aliasOf (done ++ [.index k]) = some a ∧
        aliasComponent aliasOf done (.index k) = .aliased a := by
  rw [aliasComponent, if_pos (show (Component.index k).isNumeric = true from rfl)]
  split
  · next a ha =>
    by_cases hne : a = ""
    · exact Or.inl (if_neg fun h => h hne)
    · exact Or.inr ⟨a, hne, ha, if_pos hne⟩
  · exact Or.inl rfl

/-- The fixed part is kept. -/
theorem indexToAliasLoop_fixed :
    indexToAliasLoop aliasOf done fixed (fixed ++ zs) =
      fixed ++ indexToAliasLoop aliasOf (done ++ fixed) [] zs := by
  induction fixed generalizing done with
  | nil => rw [List.nil_append, List.nil_append, List.append_nil]
  | cons c fixed ih =>
    rw [List.cons_append, indexToAliasLoop, ih, List.append_assoc, List.cons_append,
      List.cons_append, List.nil_append]

theorem indexToAliasLoop_append :
    indexToAliasLoop aliasOf done [] (xs ++ ys) =
      indexToAliasLoop aliasOf done [] xs ++ indexToAliasLoop aliasOf (done ++ xs) [] ys := by
  induction xs generalizing done with
  | nil => rw [List.nil_append, List.append_nil, indexToAliasLoop, List.nil_append]
  | cons c xs ih =>
    rw [List.cons_append, indexToAliasLoop, ih, indexToAliasLoop, List.cons_append,
      List.append_assoc, List.cons_append, List.nil_append]

theorem length_indexToAliasLoop : (indexToAliasLoop aliasOf done [] xs).length = xs.length := by
  induction xs generalizing done with
  | nil => rfl
  | cons c xs ih => rw [indexToAliasLoop, List.length_cons, List.length_cons, ih]

/-- The loop reads the aliases of the instances on the path, and no other. -/
theorem indexToAliasLoop_congr
    (h : ∀ q k r, zs = q ++ .index k :: r →
      aliasOf (done ++ q ++ [.index k]) = aliasOf' (done ++ q ++ [.index k])) :
    indexToAliasLoop aliasOf done [] zs = indexToAliasLoop aliasOf' done [] zs := by
  induction zs generalizing done with
  | nil => rfl
  | cons c zs ih =>
    have hhead : aliasComponent aliasOf done c = aliasComponent aliasOf' done c := by
      cases c with
      | index k =>
        have hk := h [] k zs rfl
        rw [List.append_nil] at hk
        rw [aliasComponent, aliasComponent, hk]
      | name _ => rfl
      | aliased _ => rfl
      | wildcard => rfl
    rw [indexToAliasLoop, indexToAliasLoop, hhead]
    refine congrArg _ (ih fun q k r hq => ?_)
    have hk := h (c :: q) k r (by rw [hq, List.cons_append])
    rwa [List.append_assoc done, List.cons_append, List.nil_append]

/-- Without aliases the path is kept. -/
theorem indexToAliasLoop_self
    (h : ∀ q k r, zs = q ++ .index k :: r → ∀ a, aliasOf (done ++ q ++ [.index k]) = some a →
      a = "") :
    indexToAliasLoop aliasOf done [] zs = zs := by
  induction zs generalizing done with
  | nil => rfl
  | cons c zs ih =>
    have hhead : aliasComponent aliasOf done c = c := by
      cases c with
      | index k =>
        have hk := h [] k zs rfl
        rw [List.append_nil] at hk
        rcases aliasComponent_index k with hself | ⟨a, hne, ha, -⟩
        · exact hself
        · exact absurd (hk a ha) hne
      | name _ => rfl
      | aliased _ => rfl
      | wildcard => rfl
    rw [indexToAliasLoop, hhead]
    refine congrArg _ (ih fun q k r hq => ?_)
    have hk := h (c :: q) k r (by rw [hq, List.cons_append])
    rwa [List.append_assoc done, List.cons_append, List.nil_append]

/-- The aliases of a table are different. -/
def AliasesDiffer (aliasOf : List Component → Option String) : Prop :=
  ∀ o m n a, a ≠ "" → aliasOf (o ++ [.index m]) = some a → aliasOf (o ++ [.index n]) = some a →
    m = n

theorem aliasComponent_injective (halias : AliasesDiffer aliasOf) {x y : Component}
    (hx : x.IsConcrete) (hy : y.IsConcrete)
    (h : aliasComponent aliasOf done x = aliasComponent aliasOf done y) : x = y := by
  have hname : ∀ t, aliasComponent aliasOf done (.name t) = .name t := fun _ => rfl
  cases x with
  | name s =>
    cases y with
    | name t => exact h
    | index k =>
      rcases aliasComponent_index k with hk | ⟨a, -, -, hk⟩
      · rw [hname, hk] at h
        cases h
      · rw [hname, hk] at h
        cases h
    | aliased _ => exact absurd hy id
    | wildcard => exact absurd hy id
  | index j =>
    cases y with
    | name t =>
      rcases aliasComponent_index j with hj | ⟨a, -, -, hj⟩
      · rw [hname, hj] at h
        cases h
      · rw [hname, hj] at h
        cases h
    | index k =>
      rcases aliasComponent_index j with hj | ⟨a, hne, ha, hj⟩ <;>
        rcases aliasComponent_index k with hk | ⟨b, -, hb, hk⟩
      · rwa [hj, hk] at h
      · rw [hj, hk] at h
        cases h
      · rw [hj, hk] at h
        cases h
      · rw [hj, hk] at h
        cases h
        exact congrArg Component.index (halias done j k a hne ha hb)
    | aliased _ => exact absurd hy id
    | wildcard => exact absurd hy id
  | aliased _ => exact absurd hx id
  | wildcard => exact absurd hx id

theorem indexToAliasLoop_injective (halias : AliasesDiffer aliasOf)
    (hxs : ∀ c ∈ xs, c.IsConcrete) (hys : ∀ c ∈ ys, c.IsConcrete)
    (h : indexToAliasLoop aliasOf done [] xs = indexToAliasLoop aliasOf done [] ys) : xs = ys := by
  induction xs generalizing done ys with
  | nil =>
    cases ys with
    | nil => rfl
    | cons y ys => cases h
  | cons x xs ih =>
    cases ys with
    | nil => cases h
    | cons y ys =>
      obtain ⟨hhead, htail⟩ := List.cons_eq_cons.mp h
      obtain rfl := aliasComponent_injective halias (hxs x List.mem_cons_self)
        (hys y List.mem_cons_self) hhead
      rw [ih (fun c hc => hxs c (List.mem_cons_of_mem x hc))
        (fun c hc => hys c (List.mem_cons_of_mem x hc)) htail]

theorem buildSupportedPath_loop :
    buildSupportedPath (indexToAliasLoop aliasOf done [] xs) = buildSupportedPath xs := by
  induction xs generalizing done with
  | nil => rfl
  | cons c xs ih =>
    rw [indexToAliasLoop, buildSupportedPath, List.map_cons, ← buildSupportedPath, ih]
    refine congrArg₂ List.cons ?_ rfl
    cases c with
    | index k =>
      rcases aliasComponent_index k with hk | ⟨a, -, -, hk⟩
      · rw [hk]
      · rw [hk]
    | name _ => rfl
    | aliased _ => rfl
    | wildcard => rfl

end Loop

/-! ### The name that is returned -/

section Returned

variable {env : ReadEnv} {d d' : Device} {path p : DmPath}

/-- The object is one under the request. -/
def Under (path : DmPath) (o : List Component) : Prop := fixedPart path.object <+: o

theorem returnedName_parameter : (returnedName env d path p).parameter = p.parameter := by
  rw [returnedName]
  split <;> rfl

/-- The part behind the fixed one is renamed. -/
theorem indexToAlias_object {zs : List Component} (hp : p.object = fixedPart path.object ++ zs) :
    (indexToAlias d path p).object = fixedPart path.object ++
      indexToAliasLoop d.objects.aliasOf (fixedPart path.object) [] zs := by
  rw [indexToAlias, hp, indexToAliasLoop_fixed, List.nil_append]

theorem returnedName_alias (hmode : env.instanceAlias = true) {zs : List Component}
    (hp : p.object = fixedPart path.object ++ zs) :
    (returnedName env d path p).object = fixedPart path.object ++
      indexToAliasLoop d.objects.aliasOf (fixedPart path.object) [] zs := by
  rw [returnedName, if_pos hmode, indexToAlias_object hp]

theorem returnedName_number (hmode : ¬env.instanceAlias = true) :
    returnedName env d path p = p := if_neg hmode

theorem DmPath.eq_of {p p' : DmPath} (ho : p.object = p'.object)
    (hp : p.parameter = p'.parameter) : p = p' := by
  cases p
  cases p'
  cases ho
  cases hp
  rfl

/-- A name depends on the aliases of the instances on its path. -/
theorem returnedName_congr (hunder : Under path p.object)
    (h : env.instanceAlias = true → ∀ q k, fixedPart path.object <+: q →
      q ++ [.index k] <+: p.object →
        d.objects.aliasOf (q ++ [.index k]) = d'.objects.aliasOf (q ++ [.index k])) :
    returnedName env d path p = returnedName env d' path p := by
  by_cases hmode : env.instanceAlias = true
  · obtain ⟨zs, hzs⟩ := hunder
    refine DmPath.eq_of ?_ (returnedName_parameter.trans returnedName_parameter.symm)
    rw [returnedName_alias hmode hzs.symm, returnedName_alias hmode hzs.symm]
    refine congrArg _ (indexToAliasLoop_congr fun q k r hq => h hmode _ k
      (List.prefix_append _ q) ⟨r, ?_⟩)
    rw [← hzs, hq, List.append_assoc, List.append_assoc, List.cons_append, List.nil_append]
  · rw [returnedName_number hmode, returnedName_number hmode]

/-- Where there are no aliases, a path is its own name. -/
theorem returnedName_self (hunder : Under path p.object)
    (h : ∀ q k a, fixedPart path.object <+: q → q ++ [.index k] <+: p.object →
      d.objects.aliasOf (q ++ [.index k]) = some a → a = "") :
    returnedName env d path p = p := by
  by_cases hmode : env.instanceAlias = true
  · obtain ⟨zs, hzs⟩ := hunder
    refine DmPath.eq_of ?_ returnedName_parameter
    rw [returnedName_alias hmode hzs.symm, ← hzs]
    refine congrArg _ (indexToAliasLoop_self fun q k r hq a ha => h _ k a
      (List.prefix_append _ q) ⟨r, ?_⟩ ha)
    rw [← hzs, hq, List.append_assoc, List.append_assoc, List.cons_append, List.nil_append]
  · exact returnedName_number hmode

/-- An alias on the path stands in its name. -/
theorem aliased_mem_returnedName (hmode : env.instanceAlias = true) {q : List Component} {k : ℕ}
    {a : String} (hq : fixedPart path.object <+: q) (hpre : q ++ [.index k] <+: p.object)
    (ha : d.objects.aliasOf (q ++ [.index k]) = some a) (hne : a ≠ "") :
    Component.aliased a ∈ (returnedName env d path p).object := by
  obtain ⟨xs, rfl⟩ := hq
  obtain ⟨ys, hys⟩ := hpre
  have hp : p.object = fixedPart path.object ++ (xs ++ .index k :: ys) := by
    rw [← hys, List.append_assoc, List.append_assoc, List.cons_append, List.nil_append]
  rw [returnedName_alias hmode hp, indexToAliasLoop_append, indexToAliasLoop]
  have hhead : aliasComponent d.objects.aliasOf (fixedPart path.object ++ xs) (.index k) =
      .aliased a := by
    rcases aliasComponent_index k with hself | ⟨b, -, hb, hb'⟩
    · rw [aliasComponent, if_pos (show (Component.index k).isNumeric = true from rfl), ha]
      exact if_pos hne
    · obtain rfl := Option.some.inj (hb.symm.trans ha)
      exact hb'
  rw [hhead]
  exact List.mem_append_right _ (List.mem_append_right _ List.mem_cons_self)

/-- **The renaming is one-to-one**, on the objects under the request. -/
theorem indexToAlias_injective {p' : DmPath} (hp : ∀ c ∈ p.object, c.IsConcrete)
    (hp' : ∀ c ∈ p'.object, c.IsConcrete) (hunder : Under path p.object)
    (hunder' : Under path p'.object) (h : indexToAlias d path p = indexToAlias d path p') :
    p = p' := by
  obtain ⟨xs, hxs⟩ := hunder
  obtain ⟨ys, hys⟩ := hunder'
  have hparam := congrArg DmPath.parameter h
  refine DmPath.eq_of ?_ hparam
  have hobject := congrArg DmPath.object h
  rw [indexToAlias_object hxs.symm, indexToAlias_object hys.symm] at hobject
  rw [← hxs, ← hys, indexToAliasLoop_injective d.aliases
    (fun c hc => hp c (hxs ▸ List.mem_append_right _ hc))
    (fun c hc => hp' c (hys ▸ List.mem_append_right _ hc)) (List.append_cancel_left hobject)]

theorem returnedName_injective {p' : DmPath} (hp : ∀ c ∈ p.object, c.IsConcrete)
    (hp' : ∀ c ∈ p'.object, c.IsConcrete) (hunder : Under path p.object)
    (hunder' : Under path p'.object)
    (h : returnedName env d path p = returnedName env d path p') : p = p' := by
  rw [returnedName, returnedName] at h
  split at h
  · exact indexToAlias_injective hp hp' hunder hunder' h
  · exact h

/-- The supported path of a name is the one of the path. -/
theorem buildSupportedPath_returnedName (hunder : Under path p.object) :
    buildSupportedPath (returnedName env d path p).object = buildSupportedPath p.object := by
  by_cases hmode : env.instanceAlias = true
  · obtain ⟨zs, hzs⟩ := hunder
    have happend : ∀ xs ys, buildSupportedPath (xs ++ ys) =
        buildSupportedPath xs ++ buildSupportedPath ys := fun xs ys => List.map_append
    rw [returnedName_alias hmode hzs.symm, ← hzs, happend, buildSupportedPath_loop, happend]
  · rw [returnedName_number hmode]

/-- The name of an object in an object. -/
theorem returnedName_child {o : List Component} {child : String} (hunder : Under path o) :
    (returnedName env d path ⟨o ++ [.name child], none⟩).object =
      (returnedName env d path ⟨o, none⟩).object ++ [.name child] := by
  by_cases hmode : env.instanceAlias = true
  · obtain ⟨zs, rfl⟩ := hunder
    rw [returnedName_alias hmode (p := ⟨_ ++ [_], none⟩) (List.append_assoc _ _ _),
      returnedName_alias hmode (p := ⟨_, none⟩) rfl, indexToAliasLoop_append, List.append_assoc]
    rfl
  · rw [returnedName_number hmode, returnedName_number hmode]

theorem length_returnedName (hunder : Under path p.object) :
    (returnedName env d path p).object.length = p.object.length := by
  by_cases hmode : env.instanceAlias = true
  · obtain ⟨zs, hzs⟩ := hunder
    rw [returnedName_alias hmode hzs.symm, ← hzs, List.length_append, List.length_append,
      length_indexToAliasLoop]
  · rw [returnedName_number hmode]

end Returned

end Tr069.Parameters
