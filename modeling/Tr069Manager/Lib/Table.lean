import Mathlib.Data.List.Induction
import Mathlib.Data.List.Nodup

/-!
# Tables of named entries

A finite table whose entries have distinct keys and come in some order, as a hash table
does when it is iterated: the order is not that of the keys, and a reader that scans for
an entry with some property gets the first one (`Table.first`). `Table.find` is the
lookup by key, and `Table.modify` the change of one entry in its place,
`Table.mapValues` that of all entries. `Table.put` writes
one entry, in its place if the key is there and at the end if it is not; in a table filled
that way every key has the value written last, and the keys stand in the order of their
first appearance (`Table.find_fill`, `Table.keys_fill`).
-/

/-- A list without repetition is as it is without its repetitions. -/
theorem List.eraseDups_of_nodup {α : Type*} [BEq α] [LawfulBEq α] {l : List α}
    (h : l.Nodup) : l.eraseDups = l := by
  induction l with
  | nil => rfl
  | cons a l ih =>
    obtain ⟨ha, hl⟩ := List.nodup_cons.mp h
    rw [List.eraseDups_cons, List.filter_eq_self.mpr fun b hb => ?_, ih hl]
    rw [Bool.not_eq_true', beq_eq_false_iff_ne]
    rintro rfl
    exact ha hb

/-- What holds of every element and each one that stands before it holds of the pairs. -/
theorem List.pairwise_of_forall_split {α : Type*} {R : α → α → Prop} {l : List α}
    (h : ∀ pre b post, l = pre ++ b :: post → ∀ a ∈ pre, R a b) : l.Pairwise R := by
  induction l using List.reverseRecOn with
  | nil => exact List.Pairwise.nil
  | append_singleton l b ih =>
    refine List.pairwise_append.mpr ⟨ih fun pre c post hl => ?_, List.pairwise_singleton R b,
      fun a ha c hc => ?_⟩
    · exact h pre c (post ++ [b]) (by rw [hl, List.append_assoc, List.cons_append])
    · obtain rfl := List.mem_singleton.mp hc
      exact h l c [] rfl a ha

/-- A list of entries with distinct keys. -/
structure Table (κ : Type*) (α : Type*) where
  entries : List (κ × α)
  nodup : (entries.map Prod.fst).Nodup

namespace Table

variable {κ α : Type*}

/-- The table without entries. -/
def empty : Table κ α := ⟨[], List.nodup_nil⟩

/-- The first entry with a property, in the order of the table. -/
def first (t : Table κ α) (p : α → Bool) : Option (κ × α) := t.entries.find? fun e => p e.2

theorem eq_of_entries_eq {t u : Table κ α} (h : t.entries = u.entries) : t = u := by
  cases t
  cases u
  cases h
  rfl

variable [DecidableEq κ]

/-- The entry with a key. -/
def find (t : Table κ α) (k : κ) : Option α :=
  (t.entries.find? fun e => e.1 = k).map Prod.snd

/-- The table with one entry changed. -/
def modify (t : Table κ α) (k : κ) (f : α → α) : Table κ α where
  entries := t.entries.map fun e => if e.1 = k then (e.1, f e.2) else e
  nodup := by
    have hkeys : (t.entries.map fun e => if e.1 = k then (e.1, f e.2) else e).map Prod.fst =
        t.entries.map Prod.fst := by
      rw [List.map_map]
      refine List.map_congr_left fun e _ => ?_
      rw [Function.comp_apply]
      split <;> rfl
    exact hkeys ▸ t.nodup

variable {t : Table κ α} {k j : κ} {a : α} {f : α → α} {p : α → Bool}

theorem find_eq_some : t.find k = some a ↔ (k, a) ∈ t.entries := by
  constructor
  · intro h
    obtain ⟨⟨k', a'⟩, hfind, rfl⟩ := Option.map_eq_some_iff.mp h
    obtain rfl : k' = k := by simpa using List.find?_some hfind
    exact List.mem_of_find?_eq_some hfind
  · intro hmem
    obtain ⟨⟨k', a'⟩, hfind⟩ := Option.isSome_iff_exists.mp
      (List.find?_isSome (p := fun e => decide (e.1 = k)) |>.mpr ⟨(k, a), hmem, by simp⟩)
    obtain rfl : k' = k := by simpa using List.find?_some hfind
    -- two entries with one key are one entry
    have hsame := List.inj_on_of_nodup_map t.nodup (List.mem_of_find?_eq_some hfind) hmem rfl
    rw [find, hfind, Option.map_some, congrArg Prod.snd hsame]

/-- The entry a scan stops at is the one of its key. -/
theorem find_of_first {e : κ × α} (h : t.first p = some e) :
    t.find e.1 = some e.2 ∧ p e.2 = true := by
  have hp := List.find?_some h
  exact ⟨find_eq_some.mpr (List.mem_of_find?_eq_some h), hp⟩

/-- A scan stops somewhere if there is an entry with the property. -/
theorem exists_first (h : t.find k = some a) (hp : p a = true) : ∃ e, t.first p = some e :=
  Option.isSome_iff_exists.mp (List.find?_isSome.mpr ⟨(k, a), find_eq_some.mp h, hp⟩)

@[simp] theorem find_modify_self : (t.modify k f).find k = (t.find k).map f := by
  cases h : t.find k with
  | some a =>
    rw [Option.map_some]
    refine find_eq_some.mpr (List.mem_map.mpr ⟨(k, a), find_eq_some.mp h, ?_⟩)
    rw [if_pos rfl]
  | none =>
    refine Option.eq_none_iff_forall_ne_some.mpr fun b hb => ?_
    obtain ⟨⟨k', a⟩, hmem, he⟩ := List.mem_map.mp (find_eq_some.mp hb)
    have hk : k' = k := by
      by_contra hne
      rw [if_neg hne] at he
      exact hne (congrArg Prod.fst he)
    subst hk
    rw [find_eq_some.mpr hmem] at h
    cases h

theorem find_modify_ne (hj : j ≠ k) : (t.modify k f).find j = t.find j := by
  refine Option.ext fun a => ?_
  rw [find_eq_some, find_eq_some]
  constructor
  · intro h
    obtain ⟨⟨k', b⟩, hmem, he⟩ := List.mem_map.mp h
    split at he
    · next hk => exact absurd ((congrArg Prod.fst he).symm.trans hk) hj
    · exact he ▸ hmem
  · intro h
    exact List.mem_map.mpr ⟨(j, a), h, if_neg hj⟩

omit [DecidableEq κ] in
/-- The entry of a key has one place in the table. -/
theorem split_unique {pre post pre' post' : List (κ × α)} {e : κ × α}
    (h : t.entries = pre ++ e :: post) (h' : t.entries = pre' ++ e :: post') : pre = pre' := by
  have hnodup : (pre ++ e :: post).Nodup := h ▸ t.nodup.of_map _
  have hnot : e ∉ pre ∧ e ∉ pre' := by
    have hnodup' : (pre' ++ e :: post').Nodup := h' ▸ t.nodup.of_map _
    exact ⟨fun he => (List.nodup_cons.mp (List.nodup_middle.mp hnodup)).1
        (List.mem_append_left _ he),
      fun he => (List.nodup_cons.mp (List.nodup_middle.mp hnodup')).1
        (List.mem_append_left _ he)⟩
  rcases List.append_eq_append_iff.mp (h.symm.trans h') with ⟨l, hl, hr⟩ | ⟨l, hl, hr⟩
  · cases l with
    | nil => exact (List.append_nil pre).symm.trans hl.symm
    | cons a l =>
      rw [List.cons_append, List.cons.injEq] at hr
      exact absurd (hl ▸ List.mem_append_right _ (hr.1 ▸ List.mem_cons_self)) hnot.2
  · cases l with
    | nil => exact hl.trans (List.append_nil pre')
    | cons a l =>
      rw [List.cons_append, List.cons.injEq] at hr
      exact absurd (hl ▸ List.mem_append_right _ (hr.1 ▸ List.mem_cons_self)) hnot.1

/-- The table without the entry of a key. -/
def remove (t : Table κ α) (k : κ) : Table κ α where
  entries := t.entries.filter fun e => e.1 ≠ k
  nodup := t.nodup.sublist (List.filter_sublist.map _)

theorem find_remove_ne (hj : j ≠ k) : (t.remove k).find j = t.find j := by
  refine Option.ext fun a => ?_
  rw [find_eq_some, find_eq_some, remove, List.mem_filter]
  exact ⟨fun h => h.1, fun h => ⟨h, decide_eq_true hj⟩⟩

@[simp] theorem find_remove_self : (t.remove k).find k = none := by
  refine Option.eq_none_iff_forall_ne_some.mpr fun a h => ?_
  rw [find_eq_some, remove, List.mem_filter] at h
  exact of_decide_eq_true h.2 rfl

theorem find_remove : (t.remove k).find = Function.update t.find k none := by
  funext j
  by_cases hj : j = k
  · rw [hj, find_remove_self, Function.update_self]
  · rw [find_remove_ne hj, Function.update_of_ne hj]

theorem find_modify : (t.modify k f).find j = if j = k then (t.find j).map f else t.find j := by
  by_cases hj : j = k
  · subst hj
    rw [if_pos rfl, find_modify_self]
  · rw [if_neg hj, find_modify_ne hj]

/-- **An entry between the others**, which are as they were when it is changed or removed. -/
theorem exists_split (h : t.find k = some a) : ∃ pre post, t.entries = pre ++ (k, a) :: post ∧
    (t.remove k).entries = pre ++ post ∧
    ∀ f : α → α, (t.modify k f).entries = pre ++ (k, f a) :: post := by
  obtain ⟨pre, post, hsplit⟩ := List.append_of_mem (find_eq_some.mp h)
  have hothers : ∀ e ∈ pre ++ post, e.1 ≠ k := by
    have hnodup := t.nodup
    rw [hsplit, List.map_append, List.map_cons, List.nodup_middle, ← List.map_append] at hnodup
    intro e he hk
    exact (List.nodup_cons.mp hnodup).1 (List.mem_map.mpr ⟨e, he, hk⟩)
  have hpre : ∀ e ∈ pre, e.1 ≠ k := fun e he => hothers e (List.mem_append_left _ he)
  have hpost : ∀ e ∈ post, e.1 ≠ k := fun e he => hothers e (List.mem_append_right _ he)
  refine ⟨pre, post, hsplit, ?_, fun f => ?_⟩
  · show t.entries.filter (fun e => e.1 ≠ k) = pre ++ post
    rw [hsplit, List.filter_append, List.filter_cons_of_neg (by simp),
      List.filter_eq_self.mpr fun e he => decide_eq_true (hpre e he),
      List.filter_eq_self.mpr fun e he => decide_eq_true (hpost e he)]
  · have hsame : ∀ l : List (κ × α), (∀ e ∈ l, e.1 ≠ k) →
        (l.map fun e => if e.1 = k then (e.1, f e.2) else e) = l := by
      intro l hl
      refine (List.map_congr_left fun e he => ?_).trans (List.map_id l)
      rw [if_neg (hl e he), id]
    show (t.entries.map fun e => if e.1 = k then (e.1, f e.2) else e) = pre ++ (k, f a) :: post
    rw [hsplit, List.map_append, List.map_cons, hsame pre hpre, hsame post hpost, if_pos rfl]

/-- The table with every entry changed. -/
def mapValues {β : Type*} (t : Table κ α) (g : α → β) : Table κ β where
  entries := t.entries.map (Prod.map id g)
  nodup := by
    have hkeys : (t.entries.map (Prod.map id g)).map Prod.fst = t.entries.map Prod.fst := by
      rw [List.map_map]
      rfl
    exact hkeys ▸ t.nodup

@[simp] theorem find_mapValues {β : Type*} {g : α → β} :
    (t.mapValues g).find k = (t.find k).map g := by
  rw [find, find, mapValues, List.find?_map, Option.map_map, Option.map_map]
  rfl

/-! ### What two tables have in common -/

/-- The tables have the same keys in the same order, and what `g` makes of their values is the
same. -/
def Agree {β : Type*} (g : α → β) (t u : Table κ α) : Prop :=
  t.entries.map (Prod.map id g) = u.entries.map (Prod.map id g)

section Agree

variable {β : Type*} {g : α → β} {u v : Table κ α}

omit [DecidableEq κ] in
theorem Agree.refl (t : Table κ α) : Agree g t t := rfl

omit [DecidableEq κ] in
theorem Agree.trans (h : Agree g t u) (h' : Agree g u v) : Agree g t v := Eq.trans h h'

omit [DecidableEq κ] in
theorem Agree.comp {γ : Type*} (f : β → γ) (h : Agree g t u) : Agree (fun a => f (g a)) t u := by
  have hmap := congrArg (List.map (Prod.map id f)) h
  rwa [List.map_map, List.map_map] at hmap

/-- A change of one entry that `g` does not see. -/
theorem agree_modify (hf : ∀ a, g (f a) = g a) : Agree g (t.modify k f) t := by
  rw [Agree, modify, List.map_map]
  refine List.map_congr_left fun e _ => ?_
  rw [Function.comp_apply]
  split
  · exact Prod.ext rfl (hf e.2)
  · rfl

theorem Agree.find (h : Agree g t u) (k : κ) : (t.find k).map g = (u.find k).map g := by
  have hfind : ∀ w : Table κ α, (w.find k).map g =
      ((w.entries.map (Prod.map id g)).find? fun e => e.1 = k).map Prod.snd := by
    intro w
    rw [Table.find, List.find?_map, Option.map_map, Option.map_map]
    rfl
  rw [hfind, hfind, h]

omit [DecidableEq κ] in
/-- As many entries have a value that `g` sees. -/
theorem Agree.countP (h : Agree g t u) (p : β → Bool) :
    t.entries.countP (fun e => p (g e.2)) = u.entries.countP fun e => p (g e.2) := by
  have hcount : ∀ w : Table κ α, w.entries.countP (fun e => p (g e.2)) =
      (w.entries.map (Prod.map id g)).countP fun e => p e.2 := by
    intro w
    rw [List.countP_map]
    rfl
  rw [hcount, hcount, h]

omit [DecidableEq κ] in
theorem Agree.first (h : Agree g t u) (p : β → Bool) :
    (t.first fun a => p (g a)).map Prod.fst = (u.first fun a => p (g a)).map Prod.fst := by
  have hfirst : ∀ w : Table κ α, (w.first fun a => p (g a)).map Prod.fst =
      ((w.entries.map (Prod.map id g)).find? fun e => p e.2).map Prod.fst := by
    intro w
    rw [Table.first, List.find?_map, Option.map_map]
    rfl
  rw [hfirst, hfirst, h]

end Agree

/-! ### Writing entries -/

/-- The keys, in the order of the table. -/
def keys (t : Table κ α) : List κ := t.entries.map Prod.fst

theorem mem_keys : k ∈ t.keys ↔ ∃ a, t.find k = some a := by
  rw [keys, List.mem_map]
  constructor
  · rintro ⟨⟨k', a⟩, hmem, rfl⟩
    exact ⟨a, find_eq_some.mpr hmem⟩
  · rintro ⟨a, ha⟩
    exact ⟨(k, a), find_eq_some.mp ha, rfl⟩

/-- A new entry at the end of the table. -/
def append (t : Table κ α) (k : κ) (a : α) (h : t.find k = none) : Table κ α where
  entries := t.entries ++ [(k, a)]
  nodup := by
    rw [List.map_append, List.map_cons, List.map_nil]
    refine List.nodup_append.mpr ⟨t.nodup, List.nodup_singleton k, fun j hj i hi => ?_⟩
    obtain rfl := List.mem_singleton.mp hi
    rintro rfl
    obtain ⟨b, hb⟩ := mem_keys.mp hj
    rw [h] at hb
    cases hb

/-- Write an entry: in its place, or at the end. -/
def put (t : Table κ α) (k : κ) (a : α) : Table κ α :=
  if h : t.find k = none then t.append k a h else t.modify k fun _ => a

theorem keys_modify : (t.modify k f).keys = t.keys := by
  rw [keys, keys, modify, List.map_map]
  refine List.map_congr_left fun e _ => ?_
  rw [Function.comp_apply]
  split <;> rfl

theorem keys_remove : (t.remove k).keys = t.keys.erase k := by
  have hnodup : t.keys.Nodup := t.nodup
  rw [hnodup.erase_eq_filter, keys, keys, List.filter_map]
  refine congrArg (List.map Prod.fst) (List.filter_congr fun e _ => ?_)
  by_cases hk : e.1 = k
  · simp [hk]
  · simp [hk]

@[simp] theorem find_append_self {h : t.find k = none} : (t.append k a h).find k = some a :=
  find_eq_some.mpr (List.mem_append_right _ (List.mem_singleton_self _))

theorem find_append_ne {h : t.find k = none} (hj : j ≠ k) :
    (t.append k a h).find j = t.find j := by
  refine Option.ext fun b => ?_
  rw [find_eq_some, find_eq_some, append, List.mem_append, List.mem_singleton]
  refine ⟨fun hb => hb.resolve_right fun he => hj (congrArg Prod.fst he), Or.inl⟩

theorem find_append {h : t.find k = none} :
    (t.append k a h).find = Function.update t.find k (some a) := by
  funext j
  by_cases hj : j = k
  · rw [hj, find_append_self, Function.update_self]
  · rw [find_append_ne hj, Function.update_of_ne hj]

@[simp] theorem find_put_self : (t.put k a).find k = some a := by
  rw [put]
  split
  · exact find_append_self
  · next h =>
    obtain ⟨b, hb⟩ := Option.ne_none_iff_exists'.mp h
    rw [find_modify_self, hb, Option.map_some]

theorem find_put_ne (hj : j ≠ k) : (t.put k a).find j = t.find j := by
  rw [put]
  split
  · exact find_append_ne hj
  · exact find_modify_ne hj

theorem keys_put : (t.put k a).keys = if k ∈ t.keys then t.keys else t.keys ++ [k] := by
  rw [put]
  split
  · next h =>
    have hk : k ∉ t.keys := by
      intro hk
      obtain ⟨b, hb⟩ := mem_keys.mp hk
      rw [h] at hb
      cases hb
    rw [if_neg hk, keys, append, List.map_append]
    rfl
  · next h =>
    rw [if_pos (mem_keys.mpr (Option.ne_none_iff_exists'.mp h)), keys_modify]

/-- Write a list of entries, the first one first. -/
def fill (t : Table κ α) (es : List (κ × α)) : Table κ α :=
  es.foldl (fun t e => t.put e.1 e.2) t

variable {es : List (κ × α)}

theorem fill_concat {e : κ × α} : t.fill (es ++ [e]) = (t.fill es).put e.1 e.2 := by
  rw [fill, List.foldl_append]
  rfl

/-- **The last value written counts**, and a key that is not written keeps its value. -/
theorem find_fill :
    (t.fill es).find k = ((es.reverse.find? fun e => e.1 = k).map Prod.snd).or (t.find k) := by
  induction es using List.reverseRecOn with
  | nil => rfl
  | append_singleton es e ih =>
    rw [fill_concat, List.reverse_append]
    by_cases hk : e.1 = k
    · subst hk
      simp
    · rw [find_put_ne (Ne.symm hk), ih]
      simp [hk]

/-- **The keys stand in the order of their first appearance.** -/
theorem keys_fill [BEq κ] [LawfulBEq κ] :
    (t.fill es).keys = (t.keys ++ es.map Prod.fst).eraseDups := by
  induction es using List.reverseRecOn with
  | nil =>
    rw [List.map_nil, List.append_nil]
    exact (List.eraseDups_of_nodup t.nodup).symm
  | append_singleton es e ih =>
    have hsplit : t.keys ++ (es ++ [e]).map Prod.fst = (t.keys ++ es.map Prod.fst) ++ [e.1] := by
      rw [List.map_append, ← List.append_assoc]
      rfl
    rw [fill_concat, keys_put, ih, hsplit]
    generalize t.keys ++ es.map Prod.fst = ks
    rw [List.eraseDups_append]
    by_cases he : e.1 ∈ ks
    · rw [if_pos (List.mem_eraseDups.mpr he)]
      simp [List.removeAll, he]
    · rw [if_neg (fun h => he (List.mem_eraseDups.mp h))]
      simp [List.removeAll, he, List.eraseDups_cons]

/-- What has been written is in the list, unless it was there before. -/
theorem mem_of_mem_fill {e : κ × α} (h : e ∈ (t.fill es).entries) : e ∈ t.entries ∨ e ∈ es := by
  have hfind := find_eq_some.mpr h
  rw [find_fill] at hfind
  rcases hlast : (es.reverse.find? fun e' => e'.1 = e.1) with - | e'
  · rw [hlast, Option.map_none, Option.none_or] at hfind
    exact Or.inl (find_eq_some.mp hfind)
  · rw [hlast, Option.map_some, Option.some_or] at hfind
    have hk : e'.1 = e.1 := by simpa using List.find?_some hlast
    have he : e' = e := Prod.ext hk (Option.some.inj hfind)
    exact Or.inr (List.mem_reverse.mp (he ▸ List.mem_of_find?_eq_some hlast))

/-- Entries with new and distinct keys come to stand at the end, in their order. -/
theorem entries_fill_of_nodup (h : ((t.entries ++ es).map Prod.fst).Nodup) :
    (t.fill es).entries = t.entries ++ es := by
  induction es generalizing t with
  | nil => exact (List.append_nil _).symm
  | cons e es ih =>
    have hnew : t.find e.1 = none := by
      refine Option.eq_none_iff_forall_ne_some.mpr fun a ha => ?_
      rw [List.map_append, List.map_cons] at h
      exact (List.nodup_cons.mp (List.nodup_middle.mp h)).1
        (List.mem_append_left _ (mem_keys.mpr ⟨a, ha⟩))
    have hput : (t.put e.1 e.2).entries = t.entries ++ [e] := by
      rw [put, dif_pos hnew]
      rfl
    have hsplit : (t.put e.1 e.2).entries ++ es = t.entries ++ e :: es := by
      rw [hput, List.append_assoc, List.singleton_append]
    rw [fill, List.foldl_cons, ← fill, ih (hsplit ▸ h), hsplit]

/-- **A table is filled with its own entries.** -/
theorem fill_entries : empty.fill t.entries = t :=
  eq_of_entries_eq (entries_fill_of_nodup t.nodup)

/-! ### Entries that are not there yet -/

/-- Add an entry, if there is none with its key. -/
def addNew (t : Table κ α) (e : κ × α) : Table κ α :=
  if h : t.find e.1 = none then t.append e.1 e.2 h else t

/-- Add a list of entries, the first one first. -/
def addAll (t : Table κ α) (es : List (κ × α)) : Table κ α := es.foldl addNew t

theorem find_addNew {e : κ × α} :
    (t.addNew e).find k = (t.find k).or (if e.1 = k then some e.2 else none) := by
  rw [addNew]
  split
  · next h =>
    by_cases hk : e.1 = k
    · subst hk
      rw [find_append_self, h, Option.none_or, if_pos rfl]
    · rw [find_append_ne (Ne.symm hk), if_neg hk, Option.or_none]
  · next h =>
    by_cases hk : e.1 = k
    · subst hk
      obtain ⟨b, hb⟩ := Option.ne_none_iff_exists'.mp h
      rw [hb, Option.some_or]
    · rw [if_neg hk, Option.or_none]

/-- **The first value counts.** -/
theorem find_addAll :
    (t.addAll es).find k = (t.find k).or ((es.find? fun e => e.1 = k).map Prod.snd) := by
  induction es generalizing t with
  | nil => rw [List.find?_nil, Option.map_none, Option.or_none]; rfl
  | cons e es ih =>
    rw [addAll, List.foldl_cons, ← addAll, ih, find_addNew, Option.or_assoc, List.find?_cons]
    by_cases hk : e.1 = k
    · simp [hk]
    · simp [hk]

/-- What has been added to the table without entries is in the list. -/
theorem mem_of_mem_addAll_empty {e : κ × α} (h : e ∈ (empty.addAll es).entries) : e ∈ es := by
  have hnone : (empty : Table κ α).find e.1 = none := rfl
  have hfind := find_eq_some.mpr h
  rw [find_addAll, hnone, Option.none_or] at hfind
  obtain ⟨⟨k', a'⟩, hfind', heq⟩ := Option.map_eq_some_iff.mp hfind
  have hk : k' = e.1 := by simpa using List.find?_some hfind'
  have he : (k', a') = e := Prod.ext hk heq
  exact he ▸ List.mem_of_find?_eq_some hfind'

/-- A list that gives a key one value is found by what is in it. -/
theorem find_addAll_empty (hes : ∀ e ∈ es, ∀ e' ∈ es, e.1 = e'.1 → e = e') :
    (empty.addAll es).find k = some a ↔ (k, a) ∈ es := by
  have hnone : (empty : Table κ α).find k = none := rfl
  rw [find_addAll, hnone, Option.none_or]
  constructor
  · intro h
    obtain ⟨⟨k', a'⟩, hfind, rfl⟩ := Option.map_eq_some_iff.mp h
    have hk : k' = k := by simpa using List.find?_some hfind
    exact hk ▸ List.mem_of_find?_eq_some hfind
  · intro h
    obtain ⟨e, he⟩ := Option.isSome_iff_exists.mp
      (List.find?_isSome (p := fun e : κ × α => decide (e.1 = k)) |>.mpr ⟨(k, a), h, by simp⟩)
    have hk : e.1 = k := by simpa using List.find?_some he
    rw [he, Option.map_some, hes e (List.mem_of_find?_eq_some he) (k, a) h hk]

theorem find_eq_none : t.find k = none ↔ k ∉ t.keys := by
  rw [mem_keys, not_exists, Option.eq_none_iff_forall_ne_some]

section Rename

variable {κ' : Type*} [DecidableEq κ'] {f : κ → κ'} {u : Table κ' α} {P : κ → Prop}

/-- An entry that is renamed is added to a table that is renamed as it is to the table. -/
theorem entries_addNew_map {e : κ × α} (hf : ∀ i j, P i → P j → f i = f j → i = j)
    (hu : u.entries = t.entries.map (Prod.map f id)) (ht : ∀ i ∈ t.keys, P i) (he : P e.1) :
    (u.addNew (Prod.map f id e)).entries = (t.addNew e).entries.map (Prod.map f id) := by
  have hkeys : u.keys = t.keys.map f := by
    rw [keys, keys, hu, List.map_map, List.map_map]
    rfl
  have hfind : u.find (Prod.map f id e).1 = none ↔ t.find e.1 = none := by
    rw [Prod.map_fst, find_eq_none, find_eq_none, hkeys, List.mem_map]
    refine not_congr ⟨?_, fun h => ⟨e.1, h, rfl⟩⟩
    rintro ⟨i, hi, hname⟩
    exact hf i e.1 (ht i hi) he hname ▸ hi
  by_cases h : t.find e.1 = none
  · rw [addNew, addNew, dif_pos h, dif_pos (hfind.mpr h)]
    show u.entries ++ [Prod.map f id e] = (t.entries ++ [e]).map (Prod.map f id)
    rw [hu, List.map_append]
    rfl
  · rw [addNew, addNew, dif_neg h, dif_neg (mt hfind.mp h)]
    exact hu

theorem mem_keys_addNew {e : κ × α} (h : k ∈ (t.addNew e).keys) : k ∈ t.keys ∨ k = e.1 := by
  rw [addNew] at h
  split at h
  · rw [keys, append, List.map_append] at h
    exact (List.mem_append.mp h).imp_right List.mem_singleton.mp
  · exact Or.inl h

/-- **Entries that are renamed make the renamed table**, if no two of the keys get one name. -/
theorem entries_addAll_map (hf : ∀ i j, P i → P j → f i = f j → i = j)
    (hu : u.entries = t.entries.map (Prod.map f id)) (ht : ∀ i ∈ t.keys, P i)
    (hes : ∀ e ∈ es, P e.1) :
    (u.addAll (es.map (Prod.map f id))).entries = (t.addAll es).entries.map (Prod.map f id) := by
  induction es generalizing t u with
  | nil => exact hu
  | cons e es ih =>
    have he := hes e List.mem_cons_self
    refine ih (entries_addNew_map hf hu ht he) (fun i hi => ?_)
      fun e' he' => hes e' (List.mem_cons_of_mem e he')
    rcases mem_keys_addNew hi with hi | rfl
    · exact ht i hi
    · exact he

end Rename

end Table
