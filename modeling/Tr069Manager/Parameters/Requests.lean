import Tr069Manager.Parameters.Answers

/-!
# Requests that are answered

Whether anything is found for a request is a matter of what its path stands for itself, since
what an object is in is there if the object is; two states that differ in what is denied may
therefore find different things only for a path with wildcards. `DM_AmxParameter_Get` then has
three outcomes.
-/

namespace Tr069.Parameters

variable {env : ReadEnv} {d d' : Device} {path : DmPath} {depth : ℤ} {o : List Component}

/-! ### Whether anything is found -/

theorem answer_eq_nil : d.answer path depth = [] ↔
    ∀ o, Present d ⟨o, path.parameter⟩ → ¬SelectsObject path depth o := by
  rw [List.eq_nil_iff_forall_not_mem]
  constructor
  · intro h o hpres hsel
    obtain ⟨ps, hmem⟩ := mem_answer_object.mpr ⟨hpres, hsel⟩
    exact h _ hmem
  · rintro h ⟨o, ps⟩ hmem
    obtain ⟨hpres, hsel⟩ := mem_answer_object.mp ⟨ps, hmem⟩
    exact h o hpres hsel

/-- What an object is in is there. -/
theorem mem_keys_of_append {rest : List Component} (h : o ++ rest ∈ d.objects.keys)
    (ho : o ≠ []) : o ∈ d.objects.keys := by
  induction rest using List.reverseRecOn with
  | nil => rwa [List.append_nil] at h
  | append_singleton rest c ih =>
    rw [← List.append_assoc] at h
    exact ih (d.closed _ c h fun hnil => ho (List.append_eq_nil_iff.mp hnil).1)

/-- **Whether anything is found** is a matter of what the path itself stands for. -/
theorem answer_eq_nil_iff (hobject : path.parameter = none → path.object ≠ []) :
    d.answer path depth = [] ↔
      ∀ o, matchRest path.object o = some [] → ¬Present d ⟨o, path.parameter⟩ := by
  rw [answer_eq_nil]
  rcases hparam : path.parameter with - | m
  · simp only [SelectsObject, hparam]
    constructor
    · intro h o hmatch hpres
      refine h o hpres ?_
      rw [selects, hmatch]
      exact decide_eq_true (Int.lt_or_le depth 0)
    · intro h o hpres hsel
      rw [selects] at hsel
      split at hsel
      · cases hsel
      · next rest hrest =>
        obtain ⟨used, rfl, hlen, hmatch⟩ := matchRest_split hrest
        refine h used hmatch (mem_keys_of_append hpres fun hnil => hobject hparam ?_)
        exact List.length_eq_zero_iff.mp (hlen.symm.trans (congrArg List.length hnil))
  · simp only [SelectsObject, hparam]
    exact ⟨fun h o hmatch hpres => h o hpres hmatch, fun h o hpres hmatch => h o hmatch hpres⟩

/-- Without wildcards, the path is there or nothing is found. -/
theorem answer_eq_nil_iff_not_present (hobject : path.parameter = none → path.object ≠ [])
    (hwild : ¬path.isWildcard = true) : d.answer path depth = [] ↔ ¬Present d path := by
  have hnot : Component.wildcard ∉ path.object := fun h => hwild (List.contains_iff_mem.mpr h)
  rw [answer_eq_nil_iff hobject]
  constructor
  · exact fun h => h path.object ((matchRest_of_not_mem hnot).mpr (List.append_nil _).symm)
  · intro h o hmatch
    rw [(matchRest_of_not_mem hnot).mp hmatch, List.append_nil]
    exact h

/-- The path of an object that is requested is not empty. -/
theorem requestPath_object_ne_nil (h : (requestPath path).parameter = none) :
    (requestPath path).object ≠ [] := by
  rw [requestPath] at h ⊢
  split
  · exact List.cons_ne_nil _ _
  · next hempty =>
    rw [if_neg hempty] at h
    intro hnil
    exact hempty (by rw [DmPath.isEmpty, hnil, h]; rfl)

/-- Where there are no wildcards, two states that differ in what is denied find the same, if the
request is allowed. -/
theorem SameForAcs.answer_eq_nil (hsame : SameForAcs env d d')
    (hallowed : env.amxaIsGetAllowed (requestPath path) = true)
    (hwild : ¬(requestPath path).isWildcard = true) :
    d.answer (requestPath path) depth = [] ↔ d'.answer (requestPath path) depth = [] := by
  rw [answer_eq_nil_iff_not_present requestPath_object_ne_nil hwild,
    answer_eq_nil_iff_not_present requestPath_object_ne_nil hwild, hsame.present hallowed]

/-! ### `DM_AmxParameter_Get` -/

/-- What is answered: the error, and what stands under each name. -/
def ReadResult.response {β : Type} (r : ReadResult β) : Int × (DmPath → Option β) :=
  (r.error, r.list.find)

/-- The error where nothing is found. -/
def unansweredError (env : ReadEnv) (path : DmPath) : Int :=
  if path.isPartial || path.isWildcard then 0
  else if env.unanswered path = .failed then invalidParameterName else 0

/-- The path of a parameter is one that is not partial and has no wildcards. -/
theorem isParameterPath_of (h : ¬(path.isPartial || path.isWildcard) = true) :
    path.isParameterPath = true := by
  rw [DmPath.isParameterPath]
  simpa using h

section Get

variable {β : Type} {nextlevel : Bool} {parseGet : DmPath → Bool → Response → List (DmPath × β)}

theorem amxParameterGet_denied (h : ¬env.amxaIsGetAllowed (requestPath path) = true) :
    amxParameterGet env d path nextlevel parseGet = .empty invalidParameterName := if_neg h

theorem amxParameterGet_answered (h : env.amxaIsGetAllowed (requestPath path) = true)
    (hanswer : d.answer (requestPath path) (requestDepth (requestPath path) nextlevel) ≠ []) :
    amxParameterGet env d path nextlevel parseGet = ⟨0, Table.empty.addAll (parseGet
      (requestPath path) nextlevel (filteredAnswer env d (requestPath path)
        (requestDepth (requestPath path) nextlevel)))⟩ := by
  rw [amxParameterGet, if_pos h, if_neg hanswer]

/-- Where nothing is found, the list has no entry. -/
theorem amxParameterGet_unanswered (h : env.amxaIsGetAllowed (requestPath path) = true)
    (hanswer : d.answer (requestPath path) (requestDepth (requestPath path) nextlevel) = [])
    (hparse : (requestPath path).isParameterPath = true →
      parseGet (requestPath path) nextlevel [] = []) :
    amxParameterGet env d path nextlevel parseGet =
      .empty (unansweredError env (requestPath path)) := by
  rw [amxParameterGet, if_pos h, if_pos hanswer, unansweredError]
  split
  · rfl
  · next hpath =>
    rw [hparse (isParameterPath_of hpath)]
    rcases env.unanswered (requestPath path) <;> rfl

end Get

end Tr069.Parameters
