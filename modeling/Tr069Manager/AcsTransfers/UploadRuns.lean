import Mathlib.Data.List.Perm.Basic
import Mathlib.Data.List.Nodup
import Mathlib.Data.Option.Basic
import Tr069Manager.AcsTransfers.Uploads
import Tr069Manager.Lib.Runs

/-!
# No upload is lost

The uploads as a system: the daemon makes instances and adds transfers, delays and self-tests
end, and the device completes the calls it has taken, while others complete uploads of their
own. An upload has been *started* once its delay is over; from then on it should wait for its
self-test, or be among the calls, or be "Finished", and not be in two of these.

What carries the proof is that the indices that stand in the delays and in the two lists are
all different, and belong to transfers that are not "Finished" (`UploadSystem.Inv`). Every
event takes an index out of its place, which leaves it loose (`UploadSystem.Loose`), and puts
it into the next one, or finishes its transfer.
-/

namespace Tr069

/-- The plugin, the uploads that have been started, and the calls the device has taken and not
completed, each with the transfer it was made for. -/
structure UploadSystem where
  plugin : Uploads
  started : List Int32
  calls : List (Int32 × VendorFileCall)

/-- What may happen to the uploads. -/
inductive UploadEvent where
  | newInstance (index : Int32) (t : AcsTransfer)
  | addTransfer (a : UploadArgs) (timer : Bool)
  | uploadCb (a : UploadArgs) (bus : PrepareAnswers)
  | selftestCallDone (a : UploadArgs) (status retval : ℤ) (now : String)
  | transferComplete (call : Int32 × VendorFileCall) (faultCode : UInt32)
      (faultString : Option String) (endTime : String)
  | otherComplete (data : Option TransferCompleteData) (endTime : String)

namespace UploadSystem

/-- The system before the first upload. -/
def init : UploadSystem := ⟨Uploads.init, [], []⟩

/-- The system with what a callback has made of the uploads, for the upload of `a`. -/
def become (s : UploadSystem) (a : UploadArgs) (r : Uploads × Option VendorFileCall) :
    UploadSystem :=
  { s with
    plugin := r.1
    calls := s.calls ++ (r.2.map fun call => (a.transferIndex, call)).toList }

/-- One step of the system. -/
def step (lib : UploadLibrary) (s : UploadSystem) : UploadEvent → Option UploadSystem
  | .newInstance index t =>
    if (s.plugin.acsTransfers index).isNone then
      some { s with plugin := { s.plugin with
        acsTransfers := Function.update s.plugin.acsTransfers index (some t) } }
    else none
  | .addTransfer a timer =>
    some { s with plugin := s.plugin.filetransferUploadStart a timer }
  | .uploadCb a bus =>
    if a ∈ s.plugin.timers then
      some ({ s with started := s.started ++ [a.transferIndex] }.become a
        (s.plugin.filetransferUploadCb lib bus a))
    else none
  | .selftestCallDone a status retval now =>
    if a ∈ s.plugin.selftestRequests then
      some (s.become a
        (s.plugin.filetransferUploadSelftestCallDone lib true status a retval now))
    else none
  | .transferComplete call faultCode faultString endTime =>
    if call ∈ s.calls then
      some { s with
        plugin := s.plugin.filetransferUploadCompleteNotification
          (some ⟨some call.2.url, faultCode, faultString⟩) endTime
        calls := s.calls.erase call }
    else none
  | .otherComplete data endTime =>
    some { s with plugin := s.plugin.filetransferUploadCompleteNotification data endTime }

/-! ### What is to hold -/

/-- The upload waits for its self-test. -/
def Waiting (d : Uploads) (i : Int32) : Prop := ∃ a ∈ d.selftestRequests, a.transferIndex = i

/-- The upload is among the calls. -/
def Requested (d : Uploads) (i : Int32) : Prop := ∃ u ∈ d.uploadRequests, u.index = i

/-- The upload is over. -/
def Finished (d : Uploads) (i : Int32) : Prop :=
  ∃ t, d.acsTransfers i = some t ∧ t.status = some "Finished"

/-- The upload is in one place. -/
def OnePlace (d : Uploads) (i : Int32) : Prop :=
  (Waiting d i ∧ ¬Requested d i ∧ ¬Finished d i) ∨
    (¬Waiting d i ∧ Requested d i ∧ ¬Finished d i) ∨
      (¬Waiting d i ∧ ¬Requested d i ∧ Finished d i)

/-- A callback that does not bring its upload into a list finishes it with a fault. -/
def FailureFinishes (t : UploadSystem) : UploadEvent → Prop
  | .uploadCb a _ | .selftestCallDone a _ _ _ =>
    ¬Waiting t.plugin a.transferIndex → ¬Requested t.plugin a.transferIndex →
      ∃ x, t.plugin.acsTransfers a.transferIndex = some x ∧ x.status = some "Finished" ∧
        x.faultCode ≠ 0
  | _ => True

/-- A completion finishes the transfer of its call, with its fault, and no other one. -/
def CompletesItsOwn (s t : UploadSystem) : UploadEvent → Prop
  | .transferComplete call faultCode faultString _ =>
    (∃ x, t.plugin.acsTransfers call.1 = some x ∧ x.status = some "Finished" ∧
      x.faultCode = faultCode ∧ x.faultString = faultString) ∧
      ∀ j, j ≠ call.1 → t.plugin.acsTransfers j = s.plugin.acsTransfers j
  | .otherComplete _ _ => t.plugin.acsTransfers = s.plugin.acsTransfers
  | _ => True

/-! ### The condition -/

/-- The file types that are uploaded after a self-test of the device. -/
def NeedsSelftest (fileType : String) : Prop :=
  hasText fileType "2 Vendor Log File" = true ∨ hasText fileType "4 Vendor Log File 1" = true

/-- The file types that can be uploaded. -/
def Supported (fileType : String) : Prop :=
  NeedsSelftest fileType ∨ hasText fileType "4 Vendor Log File" = true ∨
    hasText fileType "1 Vendor Configuration File" = true ∨
      hasText fileType "3 Vendor Configuration File" = true

/-- There is an instance, and it is not "Finished". -/
def Unfinished (d : Uploads) (i : Int32) : Prop :=
  ∃ t, d.acsTransfers i = some t ∧ t.status ≠ some "Finished"

/-- The indices that stand in the delays and in the two lists. -/
def indices (d : Uploads) : List Int32 :=
  d.timers.map UploadArgs.transferIndex ++
    (d.selftestRequests.map UploadArgs.transferIndex ++ d.uploadRequests.map UploadContext.index)

/-- **The condition on a step**: an upload is added for a transfer that is there, is not
"Finished" and is not under way; where its delay ends there is a bus, its file type can be
uploaded and the self-test, if any, has begun; and a completion carries the URL of no other
transfer that comes before its own. -/
def Orderly (s : UploadSystem) : UploadEvent → Prop
  | .addTransfer a timer =>
    timer = true → a.index ≠ 0 ∧ Unfinished s.plugin a.transferIndex ∧
      a.transferIndex ∉ indices s.plugin
  | .uploadCb a bus =>
    bus.busCtx = true ∧ ∃ fileType, nonEmpty a.fileType = some fileType ∧
      Supported fileType ∧ (NeedsSelftest fileType → bus.request = true)
  | .transferComplete call _ _ _ =>
    ∀ u, s.plugin.filetransferUploadFind call.2.url = some u → u.index = call.1
  | .otherComplete data _ =>
    ∀ adata, data = some adata → ∀ url, nonEmpty adata.transferURL = some url →
      s.plugin.filetransferUploadFind url = none
  | _ => True

instance (d : Uploads) (i : Int32) : Decidable (Unfinished d i) :=
  decidable_of_iff ((d.acsTransfers i).any fun t => t.status ≠ some "Finished") <| by
    simp only [Option.any_eq_true, decide_eq_true_eq, Unfinished]

instance (fileType : String) : Decidable (NeedsSelftest fileType) :=
  inferInstanceAs (Decidable (_ ∨ _))

instance (fileType : String) : Decidable (Supported fileType) :=
  inferInstanceAs (Decidable (_ ∨ _))

instance (s : UploadSystem) (e : UploadEvent) : Decidable (Orderly s e) :=
  match e with
  | .addTransfer _ _ => inferInstanceAs (Decidable (_ → _))
  | .uploadCb a bus =>
    decidable_of_iff (bus.busCtx = true ∧ (nonEmpty a.fileType).any fun fileType =>
      Supported fileType ∧ (NeedsSelftest fileType → bus.request = true)) <| by
        simp only [Option.any_eq_true, decide_eq_true_eq, Orderly]
  | .transferComplete call _ _ _ =>
    decidable_of_iff ((s.plugin.filetransferUploadFind call.2.url).all fun u =>
      u.index = call.1) <| by
        simp only [Option.all_eq_true, decide_eq_true_eq, Orderly]
  | .otherComplete data _ =>
    decidable_of_iff (data.all fun adata => (nonEmpty adata.transferURL).all fun url =>
      (s.plugin.filetransferUploadFind url).isNone) <| by
        simp only [Option.all_eq_true, Option.isNone_iff_eq_none, Orderly]
  | .newInstance _ _ | .selftestCallDone _ _ _ _ => inferInstanceAs (Decidable True)

/-! ### The invariant -/

/-- **The invariant**, for the uploads that have a place. -/
structure Inv (d : Uploads) (placed : Int32 → Prop) (calls : List (Int32 × VendorFileCall)) :
    Prop where
  nodup : (indices d).Nodup
  unfinished : ∀ i ∈ indices d, Unfinished d i
  index_ne : ∀ a, a ∈ d.timers ∨ a ∈ d.selftestRequests → a.index ≠ 0
  place : ∀ i, placed i → Waiting d i ∨ Requested d i ∨ Finished d i
  callsNodup : (calls.map Prod.fst).Nodup
  context : ∀ c ∈ calls, c.2.url ≠ "" ∧ ∃ u ∈ d.uploadRequests, u.index = c.1 ∧ u.url = c.2.url

/-- An upload that has been taken out of its place, and has no other one yet. -/
structure Loose (d : Uploads) (i : Int32) (placed : Int32 → Prop)
    (calls : List (Int32 × VendorFileCall)) : Prop where
  inv : Inv d (fun j => placed j ∧ j ≠ i) calls
  notMem : i ∉ indices d
  unfinished : Unfinished d i

section Places

variable {d : Uploads} {placed : Int32 → Prop} {calls : List (Int32 × VendorFileCall)}
  {i : Int32} {a : UploadArgs} {u : UploadContext}

theorem waiting_mem (h : Waiting d i) : i ∈ indices d :=
  List.mem_append_right _ (List.mem_append_left _ (List.mem_map.mpr h))

theorem requested_mem (h : Requested d i) : i ∈ indices d :=
  List.mem_append_right _ (List.mem_append_right _ (List.mem_map.mpr h))

theorem not_finished (h : Unfinished d i) : ¬Finished d i := by
  rintro ⟨t, ht, hfin⟩
  obtain ⟨t', ht', hnot⟩ := h
  obtain rfl := Option.some.inj (ht.symm.trans ht')
  exact hnot hfin

/-- An upload that has a place has one. -/
theorem Inv.onePlace (hi : Inv d placed calls) (h : placed i) : OnePlace d i := by
  have hlists := (List.nodup_append.mp hi.nodup).2.1
  have hdisjoint : Waiting d i → ¬Requested d i := by
    rintro ⟨a, ha, rfl⟩ ⟨u, hu, hidx⟩
    exact (List.nodup_append.mp hlists).2.2 _ (List.mem_map_of_mem ha) _
      (List.mem_map_of_mem hu) hidx.symm
  rcases hi.place i h with hw | hr | hf
  · exact Or.inl ⟨hw, hdisjoint hw, not_finished (hi.unfinished i (waiting_mem hw))⟩
  · exact Or.inr (Or.inl ⟨fun hw => hdisjoint hw hr, hr,
      not_finished (hi.unfinished i (requested_mem hr))⟩)
  · exact Or.inr (Or.inr ⟨fun hw => not_finished (hi.unfinished i (waiting_mem hw)) hf,
      fun hr => not_finished (hi.unfinished i (requested_mem hr)) hf, hf⟩)

/-! ### Taking an upload out of its place -/

theorem indices_timer (ha : a ∈ d.timers) :
    (indices d).Perm (a.transferIndex :: indices { d with timers := d.timers.erase a }) :=
  ((List.perm_cons_erase ha).map UploadArgs.transferIndex).append_right _

theorem indices_selftest (ha : a ∈ d.selftestRequests) :
    (indices d).Perm
      (a.transferIndex :: indices { d with selftestRequests := d.selftestRequests.erase a }) :=
  ((((List.perm_cons_erase ha).map UploadArgs.transferIndex).append_right _).append_left _).trans
    List.perm_middle

theorem indices_request (hu : u ∈ d.uploadRequests) :
    (indices d).Perm
      (u.index :: indices { d with uploadRequests := d.uploadRequests.erase u }) :=
  ((((List.perm_cons_erase hu).map UploadContext.index).append_left _).append_left _).trans
    (((List.perm_middle).append_left _).trans List.perm_middle)

/-- What is left when an index has gone: one lemma for the delays and the two lists. -/
theorem Inv.loose_of_perm (hi : Inv d placed calls) {d' : Uploads}
    {calls' : List (Int32 × VendorFileCall)} (hperm : (indices d).Perm (i :: indices d'))
    (hsame : d'.acsTransfers = d.acsTransfers)
    (htimers : ∀ a, a ∈ d'.timers ∨ a ∈ d'.selftestRequests →
      a ∈ d.timers ∨ a ∈ d.selftestRequests)
    (hwaiting : ∀ j, j ≠ i → Waiting d j → Waiting d' j)
    (hrequested : ∀ u ∈ d.uploadRequests, u.index ≠ i → u ∈ d'.uploadRequests)
    (hcalls : calls'.Sublist calls) (hother : ∀ c ∈ calls', c.1 = i → d'.uploadRequests =
      d.uploadRequests) :
    Loose d' i placed calls' := by
  have hnodup := List.nodup_cons.mp (hperm.nodup_iff.mp hi.nodup)
  have hunfinished : ∀ j, Unfinished d j → Unfinished d' j := fun j h => by
    rwa [Unfinished, hsame]
  refine ⟨⟨hnodup.2, fun j hj => ?_, fun a ha => hi.index_ne a (htimers a ha), fun j hj => ?_,
    hi.callsNodup.sublist (hcalls.map _), fun c hc => ?_⟩, hnodup.1, ?_⟩
  · exact hunfinished j (hi.unfinished j (hperm.mem_iff.mpr (List.mem_cons_of_mem _ hj)))
  · rcases hi.place j hj.1 with hw | ⟨u, hu, hidx⟩ | hf
    · exact Or.inl (hwaiting j hj.2 hw)
    · exact Or.inr (Or.inl ⟨u, hrequested u hu (hidx ▸ hj.2), hidx⟩)
    · refine Or.inr (Or.inr ?_)
      rwa [Finished, hsame]
  · obtain ⟨hne, u, hu, hidx, hurl⟩ := hi.context c (hcalls.subset hc)
    refine ⟨hne, u, ?_, hidx, hurl⟩
    by_cases hci : c.1 = i
    · exact (hother c hc hci).symm ▸ hu
    · exact hrequested u hu (hidx ▸ hci)
  · exact hunfinished i (hi.unfinished i (hperm.mem_iff.mpr List.mem_cons_self))

/-- The delay of an upload is over. -/
theorem Inv.takeTimer (hi : Inv d placed calls) (ha : a ∈ d.timers) :
    Loose { d with timers := d.timers.erase a } a.transferIndex placed calls := by
  refine hi.loose_of_perm (indices_timer ha) rfl (fun b hb => ?_) (fun _ _ h => h)
    (fun _ h _ => h) (List.Sublist.refl _) fun _ _ _ => rfl
  exact hb.imp_left List.mem_of_mem_erase

/-- The self-test of an upload is over. -/
theorem Inv.takeSelftest (hi : Inv d placed calls) (ha : a ∈ d.selftestRequests) :
    Loose { d with selftestRequests := d.selftestRequests.erase a } a.transferIndex placed
      calls := by
  refine hi.loose_of_perm (indices_selftest ha) rfl (fun b hb => ?_) (fun j hj hw => ?_)
    (fun _ h _ => h) (List.Sublist.refl _) fun _ _ _ => rfl
  · exact hb.imp_right List.mem_of_mem_erase
  · obtain ⟨b, hb, rfl⟩ := hw
    refine ⟨b, (List.mem_erase_of_ne ?_).mpr hb, rfl⟩
    rintro rfl
    exact hj rfl

/-- The call of an upload is complete. -/
theorem Inv.takeRequest (hi : Inv d placed calls) (hu : u ∈ d.uploadRequests)
    {c : Int32 × VendorFileCall} (hc : c ∈ calls) (hidx : u.index = c.1) :
    Loose { d with uploadRequests := d.uploadRequests.erase u } c.1 placed (calls.erase c) := by
  refine hi.loose_of_perm (hidx ▸ indices_request hu) rfl (fun _ h => h) (fun _ _ h => h)
    (fun v hv hne => ?_) List.erase_sublist fun b hb hbi => ?_
  · refine (List.mem_erase_of_ne ?_).mpr hv
    rintro rfl
    exact hne hidx
  · -- a transfer has one call
    have hperm := (List.perm_cons_erase hc).map Prod.fst
    have hnot := (List.nodup_cons.mp (hperm.nodup_iff.mp hi.callsNodup)).1
    exact absurd (List.mem_map.mpr ⟨b, hb, hbi⟩) hnot

/-! ### Putting it into the next one -/

/-- The upload waits for its self-test. -/
theorem Loose.wait (hl : Loose d a.transferIndex placed calls) (hne : a.index ≠ 0) :
    Inv { d with selftestRequests := d.selftestRequests ++ [a] }
      (fun j => placed j ∨ j = a.transferIndex) calls := by
  have hperm : (indices { d with selftestRequests := d.selftestRequests ++ [a] }).Perm
      (a.transferIndex :: indices d) := by
    rw [indices, List.map_append, List.append_assoc]
    exact (List.perm_middle.append_left _).trans List.perm_middle
  refine ⟨hperm.nodup_iff.mpr (List.nodup_cons.mpr ⟨hl.notMem, hl.inv.nodup⟩), fun j hj => ?_,
    fun b hb => ?_, fun j hj => ?_, hl.inv.callsNodup, hl.inv.context⟩
  · rcases List.mem_cons.mp (hperm.mem_iff.mp hj) with rfl | hj
    · exact hl.unfinished
    · exact hl.inv.unfinished j hj
  · rcases hb with hb | hb
    · exact hl.inv.index_ne b (Or.inl hb)
    · rcases List.mem_append.mp hb with hb | hb
      · exact hl.inv.index_ne b (Or.inr hb)
      · exact List.mem_singleton.mp hb ▸ hne
  · by_cases hja : j = a.transferIndex
    · exact Or.inl ⟨a, List.mem_append_right _ (List.mem_singleton_self a), hja.symm⟩
    · refine (hl.inv.place j ⟨hj.resolve_right hja, hja⟩).imp_left ?_
      rintro ⟨b, hb, hidx⟩
      exact ⟨b, List.mem_append_left _ hb, hidx⟩

/-- The upload is among the calls. -/
theorem Loose.request (hl : Loose d u.index placed calls) {call : VendorFileCall}
    (hne : call.url ≠ "") (hurl : u.url = call.url) :
    Inv { d with uploadRequests := d.uploadRequests ++ [u] }
      (fun j => placed j ∨ j = u.index) (calls ++ [(u.index, call)]) := by
  have hperm : (indices { d with uploadRequests := d.uploadRequests ++ [u] }).Perm
      (u.index :: indices d) := by
    rw [indices, List.map_append]
    exact ((List.perm_append_singleton _ _).append_left _ |>.trans List.perm_middle).append_left _
      |>.trans List.perm_middle
  have hmem : u ∈ d.uploadRequests ++ [u] :=
    List.mem_append_right _ (List.mem_singleton_self u)
  refine ⟨hperm.nodup_iff.mpr (List.nodup_cons.mpr ⟨hl.notMem, hl.inv.nodup⟩), fun j hj => ?_,
    hl.inv.index_ne, fun j hj => ?_, ?_, fun c hc => ?_⟩
  · rcases List.mem_cons.mp (hperm.mem_iff.mp hj) with rfl | hj
    · exact hl.unfinished
    · exact hl.inv.unfinished j hj
  · by_cases hja : j = u.index
    · exact Or.inr (Or.inl ⟨u, hmem, hja.symm⟩)
    · refine (hl.inv.place j ⟨hj.resolve_right hja, hja⟩).imp_right (Or.imp_left ?_)
      rintro ⟨v, hv, hidx⟩
      exact ⟨v, List.mem_append_left _ hv, hidx⟩
  · rw [List.map_append]
    refine (List.perm_append_singleton _ _).nodup_iff.mpr
      (List.nodup_cons.mpr ⟨fun hmem => ?_, hl.inv.callsNodup⟩)
    -- a transfer with a call is in the list
    obtain ⟨c, hc, hidx⟩ := List.mem_map.mp hmem
    obtain ⟨-, v, hv, hvidx, -⟩ := hl.inv.context c hc
    exact hl.notMem (requested_mem ⟨v, hv, hvidx.trans hidx⟩)
  · rcases List.mem_append.mp hc with hc | hc
    · obtain ⟨hcne, v, hv, hvidx⟩ := hl.inv.context c hc
      exact ⟨hcne, v, List.mem_append_left _ hv, hvidx⟩
    · obtain rfl := List.mem_singleton.mp hc
      exact ⟨hne, u, hmem, rfl, hurl⟩

/-- What is written to the transfer that is finished. -/
theorem find_finished {t : AcsTransfer} (ht : d.acsTransfers i = some t)
    {startTime endTime : String} {code : UInt32} {text : Option String} :
    (d.transferUpdateStatus i startTime endTime code text).acsTransfers i =
      some (t.uploadFinished startTime endTime code text) :=
  (Function.update_self _ _ _).trans (by rw [ht, Option.map_some])

/-- The transfer is finished. -/
theorem Loose.finish (hl : Loose d i placed calls) {startTime endTime : String}
    {code : UInt32} {text : Option String} :
    Inv (d.transferUpdateStatus i startTime endTime code text) (fun j => placed j ∨ j = i)
      calls := by
  obtain ⟨t, ht, -⟩ := hl.unfinished
  have hsame : ∀ j, j ≠ i →
      (d.transferUpdateStatus i startTime endTime code text).acsTransfers j =
        d.acsTransfers j := fun j hj => Function.update_of_ne hj _ _
  refine ⟨hl.inv.nodup, fun j hj => ?_, hl.inv.index_ne, fun j hj => ?_, hl.inv.callsNodup,
    hl.inv.context⟩
  · have hne : j ≠ i := fun h => hl.notMem (h ▸ hj)
    rw [Unfinished, hsame j hne]
    exact hl.inv.unfinished j hj
  · by_cases hji : j = i
    · subst hji
      exact Or.inr (Or.inr ⟨_, find_finished ht, rfl⟩)
    · refine (hl.inv.place j ⟨hj.resolve_right hji, hji⟩).imp_right (Or.imp_right ?_)
      rw [Finished, Finished, hsame j hji]
      exact id

end Places

/-! ### What the callbacks do -/

section Callbacks

variable {lib : UploadLibrary} {d : Uploads} {a : UploadArgs}
  {placed : Int32 → Prop} {calls : List (Int32 × VendorFileCall)}

/-- What a callback may make of an upload. -/
inductive Outcome (lib : UploadLibrary) (d : Uploads) (a : UploadArgs) :
    Uploads × Option VendorFileCall → Prop where
  | waits : Outcome lib d a ({ d with selftestRequests := d.selftestRequests ++ [a] }, none)
  | requested (call : VendorFileCall) (now : String) (hne : call.url ≠ "") :
    Outcome lib d a
      ({ d with uploadRequests := d.uploadRequests ++
          [⟨call.url, call.username, call.password, a.transferIndex, now⟩] }, some call)
  | failed (time : String) :
    Outcome lib d a
      (d.transferUpdateStatus a.transferIndex time time lib.faultcodeInternalError
        (some "Internal error"), none)

theorem nonEmpty_eq_some {s : Option String} {text : String} :
    nonEmpty s = some text ↔ s = some text ∧ text ≠ "" := by
  rw [nonEmpty, Option.filter_eq_some_iff, decide_eq_true_eq]

/-- A call is made to a URL. -/
theorem checkedArgs_url {object method : String} {call : VendorFileCall}
    (h : Uploads.checkedArgs lib a object method = some call) : call.url ≠ "" := by
  simp only [Uploads.checkedArgs, Option.bind_eq_bind, Option.bind_eq_some_iff] at h
  obtain ⟨_, -, _, -, url, hurl, _, -, _, -, hcall⟩ := h
  obtain rfl := Option.some.inj hcall
  exact (nonEmpty_eq_some.mp hurl).2

theorem callVendorFile_outcome {ready : Bool} {object method : String} {retval : ℤ}
    {now time : String} :
    Outcome lib d a (d.callVendorFile lib a ready object method retval now time) := by
  rw [Uploads.callVendorFile]
  split
  · next call hcall =>
    split
    · refine .requested call now ?_
      split at hcall
      · exact checkedArgs_url hcall
      · cases hcall
    · exact .failed time
  · exact .failed time

/-- The call does not touch the self-tests that run. -/
theorem callVendorFile_erase {ready : Bool} {object method : String} {retval : ℤ}
    {now time : String} :
    { d with selftestRequests := d.selftestRequests.erase a }.callVendorFile lib a ready object
        method retval now time =
      ({ (d.callVendorFile lib a ready object method retval now time).1 with
        selftestRequests := (d.callVendorFile lib a ready object method retval now
          time).1.selftestRequests.erase a },
        (d.callVendorFile lib a ready object method retval now time).2) := by
  simp only [Uploads.callVendorFile]
  split
  · split <;> rfl
  · rfl

/-- The reply to the self-test of an upload takes its request off the list. -/
theorem selftestCallDone_outcome (hne : a.index ≠ 0) {status retval : ℤ} {now : String} :
    Outcome lib { d with selftestRequests := d.selftestRequests.erase a } a
      (d.filetransferUploadSelftestCallDone lib true status a retval now) := by
  rw [Uploads.filetransferUploadSelftestCallDone, if_neg hne]
  dsimp only
  rw [if_pos rfl, ← callVendorFile_erase]
  exact callVendorFile_outcome

/-- **The preparation**, where the condition is met: the upload is finished if it comes into no
list. -/
theorem uploadPrepare_outcome {bus : PrepareAnswers} {fileType : String} (hne : a.index ≠ 0)
    (hbus : bus.busCtx = true) (htype : nonEmpty a.fileType = some fileType)
    (hsupported : Supported fileType) (hrequest : NeedsSelftest fileType → bus.request = true) :
    Outcome lib d a (d.filetransferUploadPrepare lib bus a) := by
  rw [Uploads.filetransferUploadPrepare, if_pos hbus, htype]
  dsimp only
  by_cases hself : NeedsSelftest fileType
  · rw [if_pos ((Bool.or_eq_true _ _).mpr hself), if_pos (hrequest hself)]
    exact .waits
  · rw [if_neg fun h => hself ((Bool.or_eq_true _ _).mp h)]
    split
    · -- a log file without a self-test
      rw [Uploads.filetransferUploadSelftestCallDone, if_neg hne]
      dsimp only
      rw [if_neg Bool.false_ne_true]
      exact callVendorFile_outcome
    · next hlog =>
      rw [if_pos ((Bool.or_eq_true _ _).mpr ((hsupported.resolve_left hself).resolve_left hlog)),
        Uploads.uploadVendorConfigFile, if_neg hne]
      exact callVendorFile_outcome

/-- **What a callback makes of a loose upload**: it has a place again. -/
theorem Loose.of_outcome (hl : Loose d a.transferIndex placed calls) (hne : a.index ≠ 0)
    {r : Uploads × Option VendorFileCall} (hr : Outcome lib d a r) :
    Inv r.1 (fun j => placed j ∨ j = a.transferIndex)
      (calls ++ (r.2.map fun call => (a.transferIndex, call)).toList) := by
  cases hr with
  | waits => exact (List.append_nil calls).symm ▸ hl.wait hne
  | requested call now hurl =>
    have hreq : Loose d (UploadContext.mk call.url call.username call.password
      a.transferIndex now).index placed calls := hl
    exact hreq.request hurl rfl
  | failed time => exact (List.append_nil calls).symm ▸ hl.finish

/-- A callback that brings a loose upload into no list finishes it with a fault. -/
theorem Loose.failureFinishes (hl : Loose d a.transferIndex placed calls)
    {r : Uploads × Option VendorFileCall} (hr : Outcome lib d a r)
    (hw : ¬Waiting r.1 a.transferIndex) (hq : ¬Requested r.1 a.transferIndex) :
    ∃ x, r.1.acsTransfers a.transferIndex = some x ∧ x.status = some "Finished" ∧
      x.faultCode ≠ 0 := by
  have hlast : ∀ {α : Type} (l : List α) (x : α), x ∈ l ++ [x] := fun l x =>
    List.mem_append_right l (List.mem_singleton_self x)
  cases hr with
  | waits => exact absurd ⟨a, hlast _ a, rfl⟩ hw
  | requested call now hurl => exact absurd ⟨_, hlast _ _, rfl⟩ hq
  | failed time =>
    obtain ⟨t, ht, -⟩ := hl.unfinished
    exact ⟨_, find_finished ht, rfl, lib.faultcodeInternalError_ne⟩

end Callbacks

/-! ### The steps -/

section Steps

variable {lib : UploadLibrary} {d : Uploads} {s t : UploadSystem} {a : UploadArgs}
  {placed placed' : Int32 → Prop} {calls : List (Int32 × VendorFileCall)} {e : UploadEvent}

theorem Inv.mono (hi : Inv d placed calls) (h : ∀ i, placed' i → placed i) :
    Inv d placed' calls :=
  ⟨hi.nodup, hi.unfinished, hi.index_ne, fun i hp => hi.place i (h i hp), hi.callsNodup,
    hi.context⟩

/-- A new instance is none of the transfers under way. -/
theorem Inv.newInstance (hi : Inv d placed calls) {i : Int32} {x : AcsTransfer}
    (hnone : d.acsTransfers i = none) :
    Inv { d with acsTransfers := Function.update d.acsTransfers i (some x) } placed calls := by
  have hsame : ∀ j, d.acsTransfers j ≠ none →
      Function.update d.acsTransfers i (some x) j = d.acsTransfers j := fun j hj => by
    refine Function.update_of_ne ?_ _ _
    rintro rfl
    exact hj hnone
  refine ⟨hi.nodup, fun j hj => ?_, hi.index_ne, fun j hj => ?_, hi.callsNodup, hi.context⟩
  · obtain ⟨y, hy, hstatus⟩ := hi.unfinished j hj
    exact ⟨y, (hsame j (hy ▸ Option.some_ne_none y)).trans hy, hstatus⟩
  · refine (hi.place j hj).imp_right (Or.imp_right ?_)
    rintro ⟨y, hy, hstatus⟩
    exact ⟨y, (hsame j (hy ▸ Option.some_ne_none y)).trans hy, hstatus⟩

/-- A new upload waits for its delay. -/
theorem Inv.start (hi : Inv d placed calls) (hne : a.index ≠ 0)
    (hunfinished : Unfinished d a.transferIndex) (hnot : a.transferIndex ∉ indices d) :
    Inv { d with timers := d.timers ++ [a] } placed calls := by
  have hperm : (indices { d with timers := d.timers ++ [a] }).Perm
      (a.transferIndex :: indices d) := by
    rw [indices, List.map_append, List.append_assoc]
    exact List.perm_middle
  refine ⟨hperm.nodup_iff.mpr (List.nodup_cons.mpr ⟨hnot, hi.nodup⟩), fun j hj => ?_,
    fun b hb => ?_, hi.place, hi.callsNodup, hi.context⟩
  · rcases List.mem_cons.mp (hperm.mem_iff.mp hj) with rfl | hj
    · exact hunfinished
    · exact hi.unfinished j hj
  · rcases hb with hb | hb
    · rcases List.mem_append.mp hb with hb | hb
      · exact hi.index_ne b (Or.inl hb)
      · exact List.mem_singleton.mp hb ▸ hne
    · exact hi.index_ne b (Or.inr hb)

/-- A completion that finds a call finishes its transfer. -/
theorem complete_of_find {adata : TransferCompleteData} {url endTime : String}
    {u : UploadContext} (hurl : nonEmpty adata.transferURL = some url)
    (hfind : d.filetransferUploadFind url = some u) :
    d.filetransferUploadCompleteNotification (some adata) endTime =
      { d with uploadRequests := d.uploadRequests.erase u }.transferUpdateStatus u.index u.time
        endTime adata.faultCode adata.faultString := by
  rw [Uploads.filetransferUploadCompleteNotification, hurl, Option.bind_some, hfind]
  rfl

/-- A completion that finds none changes nothing. -/
theorem complete_of_not_find {data : Option TransferCompleteData} {endTime : String}
    (h : ∀ adata, data = some adata → ∀ url, nonEmpty adata.transferURL = some url →
      d.filetransferUploadFind url = none) :
    d.filetransferUploadCompleteNotification data endTime = d := by
  cases data with
  | none => rfl
  | some adata =>
    have hnone : (nonEmpty adata.transferURL).bind d.filetransferUploadFind = none :=
      Option.bind_eq_none_iff.mpr fun url hurl => h adata rfl url hurl
    rw [Uploads.filetransferUploadCompleteNotification, hnone]

/-- A call that is not complete can be found by its URL. -/
theorem Inv.exists_find (hi : Inv d placed calls) {c : Int32 × VendorFileCall}
    (hc : c ∈ calls) :
    nonEmpty (some c.2.url) = some c.2.url ∧
      ∃ u ∈ d.uploadRequests, d.filetransferUploadFind c.2.url = some u := by
  obtain ⟨hne, v, hv, -, hurl⟩ := hi.context c hc
  obtain ⟨u, hu⟩ := Option.isSome_iff_exists.mp (List.find?_isSome
    (p := fun u : UploadContext => decide (u.url = c.2.url)) |>.mpr
      ⟨v, hv, decide_eq_true hurl⟩)
  exact ⟨nonEmpty_eq_some.mpr ⟨rfl, hne⟩, u, List.mem_of_find?_eq_some hu, hu⟩

/-- **A step that meets the condition** keeps the invariant, finishes an upload that fails, and
completes no more than its own. -/
theorem Inv.step (hi : Inv s.plugin (· ∈ s.started) s.calls) (hg : Orderly s e)
    (hstep : step lib s e = some t) :
    Inv t.plugin (· ∈ t.started) t.calls ∧ FailureFinishes t e ∧ CompletesItsOwn s t e := by
  cases e with
  | newInstance i x =>
    rw [UploadSystem.step] at hstep
    split at hstep
    · next hnone =>
      obtain rfl := Option.some.inj hstep
      exact ⟨hi.newInstance (Option.isNone_iff_eq_none.mp hnone), trivial, trivial⟩
    · cases hstep
  | addTransfer a timer =>
    obtain rfl := Option.some.inj hstep
    refine ⟨?_, trivial, trivial⟩
    show Inv (s.plugin.filetransferUploadStart a timer) _ _
    rw [Uploads.filetransferUploadStart]
    split
    · next htimer =>
      obtain ⟨hne, hunfinished, hnot⟩ := hg htimer
      exact hi.start hne hunfinished hnot
    · exact hi
  | uploadCb a bus =>
    rw [UploadSystem.step] at hstep
    split at hstep
    · next ha =>
      obtain rfl := Option.some.inj hstep
      obtain ⟨hbus, fileType, htype, hsupported, hrequest⟩ := hg
      have hne := hi.index_ne a (Or.inl ha)
      have hl := hi.takeTimer ha
      have hout : Outcome lib _ a (s.plugin.filetransferUploadCb lib bus a) :=
        uploadPrepare_outcome hne hbus htype hsupported hrequest
      refine ⟨(hl.of_outcome hne hout).mono fun j hj => ?_, hl.failureFinishes hout, trivial⟩
      rcases List.mem_append.mp hj with hj | hj
      · exact Or.inl hj
      · exact Or.inr (List.mem_singleton.mp hj)
    · cases hstep
  | selftestCallDone a status retval now =>
    rw [UploadSystem.step] at hstep
    split at hstep
    · next ha =>
      obtain rfl := Option.some.inj hstep
      have hne := hi.index_ne a (Or.inr ha)
      have hl := hi.takeSelftest ha
      have hout : Outcome lib _ a
          (s.plugin.filetransferUploadSelftestCallDone lib true status a retval now) :=
        selftestCallDone_outcome hne
      exact ⟨(hl.of_outcome hne hout).mono fun j hj => Or.inl hj, hl.failureFinishes hout,
        trivial⟩
    · cases hstep
  | transferComplete c faultCode faultString endTime =>
    rw [UploadSystem.step] at hstep
    split at hstep
    · next hc =>
      obtain rfl := Option.some.inj hstep
      obtain ⟨hurl, u, hu, hfind⟩ := hi.exists_find hc
      have hidx : u.index = c.1 := hg u hfind
      have hl := hi.takeRequest hu hc hidx
      have hafter : s.plugin.filetransferUploadCompleteNotification
            (some ⟨some c.2.url, faultCode, faultString⟩) endTime =
          { s.plugin with uploadRequests := s.plugin.uploadRequests.erase u }.transferUpdateStatus
            c.1 u.time endTime faultCode faultString :=
        hidx ▸ complete_of_find hurl hfind
      obtain ⟨x, hx, -⟩ := hl.unfinished
      refine ⟨?_, trivial, ⟨x.uploadFinished u.time endTime faultCode faultString, ?_, rfl, rfl,
        rfl⟩, fun j hj => ?_⟩
      · dsimp only
        rw [hafter]
        exact hl.finish.mono fun j hj => Or.inl hj
      · dsimp only
        rw [hafter]
        exact find_finished hx
      · dsimp only
        rw [hafter]
        exact Function.update_of_ne hj _ _
    · cases hstep
  | otherComplete data endTime =>
    obtain rfl := Option.some.inj hstep
    have hsame : s.plugin.filetransferUploadCompleteNotification data endTime = s.plugin :=
      complete_of_not_find hg
    refine ⟨?_, trivial, ?_⟩
    · show Inv (s.plugin.filetransferUploadCompleteNotification data endTime) _ _
      rw [hsame]
      exact hi
    · show (s.plugin.filetransferUploadCompleteNotification data endTime).acsTransfers = _
      rw [hsame]

end Steps

/-! ### The runs -/

theorem Inv.init : Inv init.plugin (· ∈ init.started) init.calls where
  nodup := List.nodup_nil
  unfinished := by simp [indices, UploadSystem.init, Uploads.init]
  index_ne := by simp [UploadSystem.init, Uploads.init]
  place := by simp [UploadSystem.init]
  callsNodup := List.nodup_nil
  context := by simp [UploadSystem.init]

end UploadSystem

/-- **No upload is lost or mixed up**, in the runs whose steps meet the condition. -/
theorem uploads_kept_of_reaches (lib : UploadLibrary) {s : UploadSystem}
    (h : Runs.Reaches (UploadSystem.step lib) UploadSystem.Orderly UploadSystem.init s) :
    (∀ i ∈ s.started, UploadSystem.OnePlace s.plugin i) ∧
      ∀ e t, UploadSystem.Orderly s e → UploadSystem.step lib s e = some t →
        UploadSystem.FailureFinishes t e ∧ UploadSystem.CompletesItsOwn s t e := by
  have hi : UploadSystem.Inv s.plugin (· ∈ s.started) s.calls :=
    Runs.Reaches.invariant (I := fun s => UploadSystem.Inv s.plugin (· ∈ s.started) s.calls)
      (fun _ _ _ hi hg hstep => (hi.step hg hstep).1) h UploadSystem.Inv.init
  exact ⟨fun i hmem => hi.onePlace hmem, fun e t hg hstep => (hi.step hg hstep).2⟩

/-- An instance whose upload is to begin. -/
def initialUpload : AcsTransfer :=
  ⟨some "ACS", some "", false, none, none, none, none, some "Initial", 0, none, none, none, 0,
    none, 0⟩

/-- An upload the ACS has asked for, whose delay ends at once. -/
def beginUpload (index : Int32) (a : UploadArgs) : List UploadEvent :=
  [.newInstance index initialUpload, .addTransfer a true,
    .uploadCb a ⟨true, true, 0, "2024-01-01T00:00:00Z"⟩]

/-- The upload of the logs, after a self-test. -/
def logsUpload : UploadArgs :=
  ⟨1, some "2 Vendor Log File", some "http://acs/logs", some "cpe", some "secret"⟩

/-- The upload of the configuration. -/
def configUpload : UploadArgs :=
  ⟨2, some "1 Vendor Configuration File", some "http://acs/config", some "cpe", some "secret"⟩

theorem internalFault_ne : (9002 : UInt32) ≠ 0 := by decide

/-- A library that takes a text for one word. -/
def oneWordLibrary : UploadLibrary :=
  ⟨fun s => [s], fun s => s.toList.all Char.isDigit, 9002, internalFault_ne⟩

/-- The call the device has taken for the logs. -/
def logsCall : Int32 × VendorFileCall :=
  (1, ⟨"Device.DeviceInfo.VendorLogFile.1", "Upload", "http://acs/logs", "cpe", "secret"⟩)

/-- The upload of the configuration begins while the self-test for the logs runs. -/
def sideBySide : List UploadEvent :=
  beginUpload 1 logsUpload ++ beginUpload 2 configUpload ++
    [.selftestCallDone logsUpload 0 0 "2024-01-01T00:00:05Z"]

/-- The device could not upload the logs. -/
def logsFailed : UploadEvent :=
  .transferComplete logsCall 9011 (some "Upload failure") "2024-01-01T00:00:09Z"

theorem uploads_kept_sideBySide :
    ∃ s t, Runs.exec (UploadSystem.step oneWordLibrary) UploadSystem.init sideBySide = some s ∧
      UploadSystem.step oneWordLibrary s logsFailed = some t ∧ s.started = [1, 2] ∧
      (∀ i ∈ s.started, UploadSystem.OnePlace s.plugin i) ∧
      UploadSystem.CompletesItsOwn s t logsFailed := by
  have hrun : ((Runs.exec (UploadSystem.step oneWordLibrary) UploadSystem.init
      sideBySide).bind fun s => (UploadSystem.step oneWordLibrary s logsFailed).map fun _ =>
        (s.started, decide (s.Orderly logsFailed))) = some ([1, 2], true) := by
    decide
  obtain ⟨s, hs, hlast⟩ := Option.bind_eq_some_iff.mp hrun
  obtain ⟨t, ht, hresult⟩ := Option.map_eq_some_iff.mp hlast
  obtain ⟨hstarted, horderly⟩ := Prod.mk.inj hresult
  have hmeets : Runs.Meets (UploadSystem.step oneWordLibrary) UploadSystem.Orderly
      UploadSystem.init sideBySide :=
    Runs.meets_of_checks (fun s e => of_decide_eq_true) (by decide)
  obtain ⟨hplace, hsound⟩ := uploads_kept_of_reaches oneWordLibrary (Runs.reaches_of_exec hs hmeets)
  exact ⟨s, t, hs, ht, hstarted, hplace,
    (hsound logsFailed t (of_decide_eq_true horderly) ht).2⟩

/-- An upload of a file type that is not supported. -/
def unsupportedUpload : UploadArgs :=
  ⟨1, some "5 Unknown File", some "http://acs/file", some "cpe", some "secret"⟩

/-- An upload of a file type that is not supported is in no place once its delay is over. -/
theorem uploads_not_kept_of_unsupported :
    ¬∀ (lib : UploadLibrary) (s : UploadSystem),
      Runs.Reaches (UploadSystem.step lib) Runs.free UploadSystem.init s →
        (∀ i ∈ s.started, UploadSystem.OnePlace s.plugin i) ∧
          ∀ e t, UploadSystem.step lib s e = some t →
            UploadSystem.FailureFinishes t e ∧ UploadSystem.CompletesItsOwn s t e := by
  intro hall
  have hrun : (Runs.exec (UploadSystem.step oneWordLibrary) UploadSystem.init
      (beginUpload 1 unsupportedUpload)).map (fun s => (s.started, s.plugin.selftestRequests,
        s.plugin.uploadRequests, (s.plugin.acsTransfers 1).map AcsTransfer.status)) =
      some ([1], [], [], some (some "Initial")) := by
    decide
  obtain ⟨s, hs, hresult⟩ := Option.map_eq_some_iff.mp hrun
  obtain ⟨hstarted, hresult⟩ := Prod.mk.inj hresult
  obtain ⟨hselftests, hresult⟩ := Prod.mk.inj hresult
  obtain ⟨hrequests, hstatus⟩ := Prod.mk.inj hresult
  have hplace := (hall _ s (Runs.reaches_of_exec hs (Runs.meets_free _ _))).1 1
    (hstarted ▸ List.mem_singleton_self 1)
  rcases hplace with ⟨⟨a, ha, -⟩, -⟩ | ⟨-, ⟨u, hu, -⟩, -⟩ | ⟨-, -, x, hx, hfin⟩
  · exact absurd (hselftests ▸ ha) List.not_mem_nil
  · exact absurd (hrequests ▸ hu) List.not_mem_nil
  · rw [hx, Option.map_some, hfin] at hstatus
    exact absurd hstatus (by decide)

end Tr069
