import Mathlib.Data.List.Basic
import Mathlib.Data.Nat.Notation
import Tr069Manager.Lib.CString

/-!
# The paths of the instances a result is reported for

`ManagementServer.Transfers.ScheduleDownload.{i}.` and
`ManagementServer.SMM.DUStateChangeComplete.{i}.`. A path is a text: the daemon gets it
as the key of a table or as the name of the object of a notification, uses it as the name of
a timer, and makes other paths of it by appending to it and by `amxc_string_replace`.

Two facts are needed of these texts. The path of a `TransferComplete` object gives back the
path of its transfer (`Tr069.transferPathOf_transferCompletePath`), and the path of
something below an instance is the path of no instance
(`Tr069.ResultKind.instancePath_append_ne`).
-/

namespace Tr069

/-- The two kinds of results. -/
inductive ResultKind where
  | scheduleDownload
  | duStateChangeComplete
  deriving DecidableEq

namespace ResultKind

/-- `SCHEDULEDOWNLOAD_TRANSFERS`, and what it is for the other kind. -/
def root : ResultKind → String
  | .scheduleDownload => "ManagementServer.Transfers.ScheduleDownload."
  | .duStateChangeComplete => "ManagementServer.SMM.DUStateChangeComplete."

/-- The path of instance `n`. -/
def instancePath (k : ResultKind) (n : ℕ) : String := k.root ++ toString n ++ "."

end ResultKind

/-! ### `amxc_string_replace` -/

/-- A text with the first occurrence of another one taken out. -/
def replaceFirst (needle : List Char) : List Char → List Char
  | [] => []
  | c :: cs =>
    if needle.isPrefixOf (c :: cs) then (c :: cs).drop needle.length
    else c :: replaceFirst needle cs

/-- `amxc_string_replace(s, needle, "", 1)`. -/
def amxcStringReplace (s needle : String) : String :=
  String.ofList (replaceFirst needle.toList s.toList)

/-- The path `transfercomplete_notification` makes of the object of a notification. -/
def transferPathOf (objPath : String) : String := amxcStringReplace objPath "TransferComplete."

section Replace

variable {t : Char} {ts l m : List Char}

/-- An occurrence begins with the first character of the text. -/
theorem replaceFirst_append (h : t ∉ l) :
    replaceFirst (t :: ts) (l ++ m) = l ++ replaceFirst (t :: ts) m := by
  induction l with
  | nil => rfl
  | cons c l ih =>
    obtain ⟨hc, hl⟩ := not_or.mp (mt List.mem_cons.mpr h)
    have hno : (t :: ts).isPrefixOf (c :: (l ++ m)) = false := by
      rw [List.isPrefixOf_cons_cons, beq_false_of_ne hc, Bool.false_and]
    rw [List.cons_append, replaceFirst, hno, if_neg Bool.false_ne_true, ih hl, List.cons_append]

theorem replaceFirst_self : replaceFirst (t :: ts) (t :: ts) = [] := by
  have hself : (t :: ts).isPrefixOf (t :: ts) = true :=
    List.isPrefixOf_iff_prefix.mpr (List.prefix_refl _)
  rw [replaceFirst, hself, if_pos rfl, List.drop_length]

/-- A text that differs from the other one before that one ends is not an occurrence. -/
theorem replaceFirst_of_take_ne (hlen : (t :: ts).length ≤ l.length + 1)
    (hne : (t :: l).take (t :: ts).length ≠ t :: ts) :
    replaceFirst (t :: ts) (t :: (l ++ m)) = t :: replaceFirst (t :: ts) (l ++ m) := by
  have hno : ¬(t :: ts).isPrefixOf (t :: (l ++ m)) = true := by
    intro h
    refine hne ?_
    have h := List.prefix_iff_eq_take.mp (List.isPrefixOf_iff_prefix.mp h)
    rw [← List.cons_append, List.take_append_of_le_length hlen] at h
    exact h.symm
  rw [replaceFirst, if_neg hno]

end Replace

/-! ### Instances and what is below them -/

namespace ResultKind

theorem toList_instancePath (k : ResultKind) (n : ℕ) :
    (k.instancePath n).toList = k.root.toList ++ (Nat.toDigits 10 n ++ ['.']) := by
  rw [instancePath, String.toList_append, String.toList_append, Nat.toString_eq_repr,
    Nat.toList_repr, List.append_assoc]
  rfl

/-- **What is below an instance is not an instance.** -/
theorem instancePath_append_ne (k : ResultKind) (n m : ℕ) {sub : String} (hsub : sub ≠ "") :
    k.instancePath n ++ sub ≠ k.instancePath m := by
  intro h
  have h := congrArg String.toList h
  rw [String.toList_append, toList_instancePath, toList_instancePath, List.append_assoc,
    List.append_cancel_left_eq, List.append_assoc, List.singleton_append] at h
  have hdot : '.' ∉ Nat.toDigits 10 m := CString.not_mem_toDigits (by decide) m
  have h := (List.append_cons_inj_of_notMem hdot List.not_mem_nil).mp h.symm
  refine hsub (String.toList_inj.mp ?_)
  exact h.2.2.symm

/-- The two kinds have no path in common. -/
theorem kind_of_instancePath_append {k k' : ResultKind} {n n' : ℕ} {sub : String}
    (h : k.instancePath n ++ sub = k'.instancePath n') : k = k' := by
  have h := congrArg (fun s : String => s.toList.take 18) h
  simp only [String.toList_append, toList_instancePath, List.append_assoc] at h
  have hroot : ∀ (k : ResultKind) (l : List Char), (k.root.toList ++ l).take 18 =
      k.root.toList.take 18 := fun k l => List.take_append_of_le_length (by cases k <;> decide)
  rw [hroot, hroot] at h
  cases k <;> cases k'
  · rfl
  · exact absurd h (by decide)
  · exact absurd h (by decide)
  · rfl

end ResultKind

/-- **The object of a notification gives back the path of its transfer.** -/
theorem transferPathOf_transferCompletePath (n : ℕ) :
    transferPathOf (ResultKind.scheduleDownload.instancePath n ++ "TransferComplete.") =
      ResultKind.scheduleDownload.instancePath n := by
  obtain ⟨ts, hneedle⟩ : ∃ ts, "TransferComplete.".toList = 'T' :: ts := ⟨_, rfl⟩
  have hroot : ResultKind.scheduleDownload.root.toList =
      "ManagementServer.".toList ++ 'T' :: "ransfers.ScheduleDownload.".toList := by decide
  -- no T before "Transfers", which is another text, and none after it
  have hmiss :
      (('T' :: "ransfers.ScheduleDownload.".toList).take ('T' :: ts).length) ≠ 'T' :: ts := by
    rw [← hneedle]
    decide
  have hlen : ('T' :: ts).length ≤ "ransfers.ScheduleDownload.".toList.length + 1 := by
    rw [← hneedle]
    decide
  have hdigits : 'T' ∉ Nat.toDigits 10 n ++ ['.'] := by
    intro h
    rcases List.mem_append.mp h with h | h
    · exact CString.not_mem_toDigits (by decide) n h
    · exact absurd h (by decide)
  refine String.toList_inj.mp ?_
  rw [transferPathOf, amxcStringReplace, String.toList_ofList, String.toList_append,
    ResultKind.toList_instancePath, hroot, hneedle]
  generalize Nat.toDigits 10 n ++ ['.'] = digits at hdigits ⊢
  rw [List.append_assoc, List.append_assoc, List.cons_append, replaceFirst_append (by decide),
    replaceFirst_of_take_ne hlen hmiss, replaceFirst_append (by decide),
    replaceFirst_append hdigits, replaceFirst_self, List.append_nil, List.append_assoc,
    List.cons_append]

end Tr069
