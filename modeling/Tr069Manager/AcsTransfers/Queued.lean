import Tr069Manager.AcsTransfers.OwnTimers

/-!
# The queued transfers over whole runs

The ACS asks with `GetAllQueuedTransfers` what has become of its transfers.
`DM_ENG_Device_GetQueuedTransfers` (`DM_AmxUpDownload.c`) reads all of them from the data model,
and a transfer leaves the data model when the ACS has acknowledged its report
(`DM_ENG_Device_TransferDoneAcknowledged`).

So the answer should be the queue of what has been asked for and is not acknowledged, which
`TransferSystem.queue` keeps along the events of a run. It is
(`Tr069.TransferSystem.queuedTransfers_of_run`), whatever the bus refuses, whichever timers expire
and however often the daemon is restarted – and so a request that was refused after its instance
had been made stays in the answer.
-/

namespace Tr069

/-! ### The source -/

/-- `DM_ENG_AllQueuedTransferStruct`, as `DM_ENG_newAllQueuedTransferStruct` is called. -/
structure AllQueuedTransferStruct where
  isDownload : Bool
  state : ℤ
  fileType : Option String
  fileSize : UInt32
  targetFileName : Option String
  commandKey : Option String
  deriving DecidableEq

/-- The state of a transfer in the answer, by its Status. -/
def queuedTransferState (status : String) : ℤ :=
  if status = "Initial" then 1 else if status = "Applying" then 2 else 3

/-- A turn of the loop; `none` when the comparison of a Status that is null ends the process. -/
def queuedTransfer (t : AcsTransfer) : Option AllQueuedTransferStruct :=
  t.status.map fun status =>
    ⟨t.isDownload, queuedTransferState status, t.fileType, t.fileSize, t.targetFileName,
      t.commandKey⟩

namespace TimedTransfers

/-- `DM_ENG_Device_GetQueuedTransfers`, with the error and the list; `getAll` says whether the
transfers could be read. -/
def getQueuedTransfers (d : TimedTransfers) (getAll : Bool) :
    Option (ℤ × List AllQueuedTransferStruct) :=
  if getAll then
    (d.acsTransfers.entries.mapM fun e => queuedTransfer e.2).map fun list => (0, list)
  else some (9005, [])

/-- `DM_ENG_Device_GetAllQueuedTransfers`; `system` is what
`DM_ENG_Device_Common_CheckSystem` gives. -/
def getAllQueuedTransfers (d : TimedTransfers) (system getAll : Bool) :
    Option (ℤ × List AllQueuedTransferStruct) :=
  if system then d.getQueuedTransfers getAll else some (9003, [])

/-! ### What leaves the queue alone -/

/-- From `t` to `t'` no transfer comes or goes, none changes its CommandKey, and none loses its
Status. -/
structure LeavesQueue (t t' : Table ObjectPath AcsTransfer) : Prop where
  agree : Table.Agree AcsTransfer.commandKey t' t
  status : (∀ e ∈ t.entries, e.2.status ≠ none) → ∀ e ∈ t'.entries, e.2.status ≠ none

section LeavesQueue

variable {t t' t'' : Table ObjectPath AcsTransfer} {path : ObjectPath}
  {f : AcsTransfer → AcsTransfer}

theorem LeavesQueue.refl (t : Table ObjectPath AcsTransfer) : LeavesQueue t t :=
  ⟨Table.Agree.refl t, id⟩

theorem LeavesQueue.trans (h : LeavesQueue t t') (h' : LeavesQueue t' t'') : LeavesQueue t t'' :=
  ⟨h'.agree.trans h.agree, fun hs => h'.status (h.status hs)⟩

/-- The change of one transfer. -/
theorem leavesQueue_modify (hkey : ∀ a, (f a).commandKey = a.commandKey)
    (hstatus : ∀ a, a.status ≠ none → (f a).status ≠ none) : LeavesQueue t (t.modify path f) := by
  refine ⟨Table.agree_modify hkey, fun hs e he => ?_⟩
  obtain ⟨e', he', rfl⟩ := List.mem_map.mp he
  split
  · exact hstatus e'.2 (hs e' he')
  · exact hs e' he'

variable {d : TimedTransfers}

theorem updateTransferState_leavesQueue {set : Bool} {code : UInt32} {faultString : String}
    {completeTime : Option String} :
    LeavesQueue d.acsTransfers
      (d.updateTransferState set path code faultString completeTime).acsTransfers := by
  rw [updateTransferState]
  split
  · refine leavesQueue_modify (f := fun t => t.finished code faultString completeTime)
      (fun _ => rfl) fun a _ => ?_
    exact Option.some_ne_none "Finished"
  · exact LeavesQueue.refl _

theorem addTransferCall_leavesQueue {bus : AddAnswers} :
    LeavesQueue d.acsTransfers (d.addTransferCall bus path).2.acsTransfers := by
  rw [addTransferCall]
  split
  · rw [addTransferSubscription]
    split
    · exact LeavesQueue.refl _
    · dsimp only
      split
      · exact leavesQueue_modify (f := fun t => { t with subscriptionId := _ }) (fun _ => rfl)
          fun _ h => h
      · exact LeavesQueue.refl _
  · exact LeavesQueue.refl _

theorem restartTransfer_leavesQueue {get : Bool} {bus : AddAnswers} :
    LeavesQueue d.acsTransfers (d.restartTransfer get bus path).acsTransfers := by
  rw [restartTransfer]
  split
  · split
    · exact LeavesQueue.refl _
    · have hcall := @addTransferCall_leavesQueue path d bus
      split
      next error d' heq =>
      rw [heq] at hcall
      split
      · exact hcall
      · exact hcall
  · exact LeavesQueue.refl _

variable {dateStringToTime : Option String → ℤ}

theorem transferCompleteEvent_acsTransfers {get : Bool} :
    (d.transferCompleteEvent dateStringToTime get path).acsTransfers = d.acsTransfers := by
  rw [transferCompleteEvent]
  split
  · split <;> rfl
  · rfl

theorem transferTimedOut_leavesQueue {bus : BusAnswers} {cmdkey : String} :
    LeavesQueue d.acsTransfers
      (d.transferTimedOut dateStringToTime bus cmdkey).acsTransfers := by
  rw [transferTimedOut]
  split
  · split
    · exact LeavesQueue.refl _
    · dsimp only
      rw [transferCompleteEvent_acsTransfers]
      split
      · exact updateTransferState_leavesQueue (d := d.deleteSubscription _)
      · exact LeavesQueue.refl _
  · exact LeavesQueue.refl _

theorem timerTimeoutHandler_leavesQueue {bus : TimerAnswers} {name : String} :
    LeavesQueue d.acsTransfers
      (d.timerTimeoutHandler dateStringToTime bus name).acsTransfers := by
  rw [timerTimeoutHandler]
  split
  · next item path _ _ =>
    dsimp only
    split
    · exact transferTimedOut_leavesQueue (d := { d with timers := d.timers.expired item })
    · exact restartTransfer_leavesQueue (d := { d with timers := d.timers.expired item })
    · rw [transferCompleteEvent_acsTransfers]
      exact LeavesQueue.refl _
    · exact LeavesQueue.refl _
  · exact LeavesQueue.refl _

variable {amxcTsParse : String → ℤ} {now : ObjectPath → ℤ} {bus : StartAnswers}

theorem handlePendingUpgrade_leavesQueue :
    LeavesQueue d.acsTransfers (d.handlePendingUpgrade bus path).acsTransfers := by
  rw [handlePendingUpgrade]
  split
  · exact updateTransferState_leavesQueue
  · split
    · exact updateTransferState_leavesQueue
    · exact updateTransferState_leavesQueue

theorem initializeTransfer_leavesQueue {transfer : AcsTransfer} {status : String}
    {d' : TimedTransfers}
    (h : d.initializeTransfer amxcTsParse now bus path transfer status = some d') :
    LeavesQueue d.acsTransfers d'.acsTransfers := by
  rw [initializeTransfer] at h
  split at h
  · split at h
    · split at h
      · split at h <;> (cases h; exact LeavesQueue.refl _)
      · cases h
        exact LeavesQueue.refl _
    · cases h
      exact LeavesQueue.refl _
  · split at h
    · cases h
      exact LeavesQueue.refl _
    · split at h
      · split at h
        · cases h
        · split at h
          · cases h
            exact handlePendingUpgrade_leavesQueue
          · cases h
            exact LeavesQueue.refl _
      · cases h
        exact LeavesQueue.refl _

theorem initializeLoop_leavesQueue {es : List (ObjectPath × AcsTransfer)} {ret : Bool}
    {d' : TimedTransfers} (h : initializeLoop amxcTsParse now bus d es = some (ret, d')) :
    LeavesQueue d.acsTransfers d'.acsTransfers := by
  induction es generalizing d with
  | nil =>
    cases h
    exact LeavesQueue.refl _
  | cons e es ih =>
    obtain ⟨key, t⟩ := e
    rw [initializeLoop] at h
    split at h
    · cases h
      exact LeavesQueue.refl _
    · obtain ⟨d₁, hd₁, hrest⟩ := Option.bind_eq_some_iff.mp h
      exact (initializeTransfer_leavesQueue hd₁).trans (ih hrest)

theorem upDownloadInitialize_leavesQueue {ret : Bool} {d' : TimedTransfers}
    (h : d.upDownloadInitialize amxcTsParse now bus = some (ret, d')) :
    LeavesQueue d.acsTransfers d'.acsTransfers := by
  rw [upDownloadInitialize] at h
  split at h
  · exact initializeLoop_leavesQueue (d := { d with transferSubsList := [] }) h
  · cases h
    exact LeavesQueue.refl _

end LeavesQueue

end TimedTransfers

/-! ### The queue of a run -/

namespace TransferSystem

/-- **What the ACS has asked for and not acknowledged**, along the events of a run: an instance
that is made comes to the end of the queue with the CommandKey of its request, and an
acknowledgement takes it out. -/
def queue (q : List (ObjectPath × String)) : TransferEvent → List (ObjectPath × String)
  | .request r bus _ => q ++ bus.added.toList.map fun path => (path, r.commandkey)
  | .acknowledged path => q.filter fun e => e.1 ≠ path
  | _ => q

/-- No write takes the Status of a transfer away. -/
def KeepsStatus (_ : TransferSystem) : TransferEvent → Prop
  | .written _ t => t.status ≠ none
  | _ => True

/-- The transfers are those of the queue, all of them have a Status, and their paths have been
given out. -/
structure Queued (s : TransferSystem) (q : List (ObjectPath × String)) : Prop where
  entries : s.daemon.acsTransfers.entries.map (Prod.map id AcsTransfer.commandKey) =
    q.map (Prod.map id some)
  status : ∀ e ∈ s.daemon.acsTransfers.entries, e.2.status ≠ none
  used : ∀ path ∈ s.daemon.acsTransfers.keys, path ∈ s.used

open TimedTransfers (LeavesQueue)

variable {s t : TransferSystem} {q : List (ObjectPath × String)} {e : TransferEvent}
  {dateStringToTime : Option String → ℤ} {amxcTsFormat : ℤ → String} {amxcTsParse : String → ℤ}

/-- A step that leaves the queue alone. -/
theorem Queued.leaves (h : Queued s q)
    (hleaves : LeavesQueue s.daemon.acsTransfers t.daemon.acsTransfers) (hused : t.used = s.used) :
    Queued t q where
  entries := Eq.trans hleaves.agree h.entries
  status := hleaves.status h.status
  used := fun path hpath => by
    have hkeys : t.daemon.acsTransfers.keys = s.daemon.acsTransfers.keys := by
      have hfst := congrArg (List.map Prod.fst) (show _ = _ from hleaves.agree)
      rwa [List.map_map, List.map_map] at hfst
    rw [hused]
    exact h.used path (hkeys ▸ hpath)

/-- A transfer that the plugin writes keeps its place in the queue. -/
theorem written_leavesQueue {d : TimedTransfers} {path : ObjectPath} {old new : AcsTransfer}
    (hold : d.acsTransfers.find path = some old) (hkey : new.commandKey = old.commandKey)
    (hstatus : new.status ≠ none) :
    LeavesQueue d.acsTransfers (d.acsTransfers.modify path fun _ => new) := by
  refine ⟨?_, fun hs e he => ?_⟩
  · rw [Table.Agree, Table.modify, List.map_map]
    refine List.map_congr_left fun e he => ?_
    rw [Function.comp_apply]
    split
    · next hpath =>
      have hfind : d.acsTransfers.find e.1 = some e.2 := Table.find_eq_some.mpr he
      rw [hpath, hold] at hfind
      rw [Prod.map_apply, hkey, Option.some.inj hfind]
      rfl
    · rfl
  · obtain ⟨e', he', rfl⟩ := List.mem_map.mp he
    split
    · exact hstatus
    · exact hs e' he'

/-- A request puts its instance at the end of the queue, whatever it returns. -/
theorem Queued.request (h : Queued s q) {r : TransferRequest} {bus : AddAnswers} {now : ℤ}
    (hnew : ∀ path, bus.added = some path → path ∉ s.used) :
    Queued { s with
      daemon := (s.daemon.doTransfer amxcTsFormat now bus r).2
      used := bus.added.toList ++ s.used } (queue q (.request r bus now)) := by
  have hentry : ∃ entry : AcsTransfer, entry.commandKey = some r.commandkey ∧
      entry.status ≠ none ∧ (s.daemon.doTransfer amxcTsFormat now bus r).2.acsTransfers =
        (s.daemon.addTransfer bus entry).2.acsTransfers := by
    refine ⟨r.entry (amxcTsFormat (now + r.delayseconds.toNat)) (amxcTsFormat (now + 3600)),
      rfl, Option.some_ne_none "Initial", ?_⟩
    rw [TimedTransfers.doTransfer]
    dsimp only
    split <;> rfl
  obtain ⟨entry, hkey, hstatus, htable⟩ := hentry
  rw [queue]
  rw [TimedTransfers.addTransfer] at htable
  cases hadded : bus.added with
  | none =>
    rw [hadded] at htable
    rw [Option.toList_none, List.map_nil, List.append_nil]
    exact h.leaves (htable ▸ LeavesQueue.refl _) rfl
  | some path =>
    rw [hadded] at htable
    have hfree : s.daemon.acsTransfers.find path = none := by
      refine Option.eq_none_iff_forall_ne_some.mpr fun a ha => ?_
      exact hnew path hadded (h.used path (Table.mem_keys.mpr ⟨a, ha⟩))
    have hput : (s.daemon.acsTransfers.put path entry).entries =
        s.daemon.acsTransfers.entries ++ [(path, entry)] := by
      rw [Table.put, dif_pos hfree]
      rfl
    -- the state behind the new instance, and before the calls for it
    have hqueued : Queued { s with
        daemon := { s.daemon with acsTransfers := s.daemon.acsTransfers.put path entry }
        used := path :: s.used } (q ++ [(path, r.commandkey)]) := by
      refine ⟨?_, fun e he => ?_, fun p hp => ?_⟩
      · rw [hput, List.map_append, List.map_append, h.entries, List.map_singleton,
          List.map_singleton, Prod.map_apply, hkey]
        rfl
      · rw [hput, List.mem_append, List.mem_singleton] at he
        rcases he with he | rfl
        · exact h.status e he
        · exact hstatus
      · rw [Table.keys, hput, List.map_append, List.mem_append] at hp
        rcases hp with hp | hp
        · exact List.mem_cons_of_mem path (h.used p hp)
        · exact List.mem_cons.mpr (Or.inl (List.mem_singleton.mp hp))
    refine hqueued.leaves ?_ rfl
    show LeavesQueue (s.daemon.acsTransfers.put path entry) _
    rw [htable]
    exact TimedTransfers.addTransferCall_leavesQueue
      (d := { s.daemon with acsTransfers := s.daemon.acsTransfers.put path entry })

/-- An acknowledgement takes its transfer out of the queue. -/
theorem Queued.acknowledged (h : Queued s q) (path : ObjectPath) :
    Queued { s with daemon :=
      { s.daemon with acsTransfers := s.daemon.acsTransfers.remove path } }
      (queue q (.acknowledged path)) := by
  have hkeep : ∀ {β : Type} (g : β → Option String) (l : List (ObjectPath × β)),
      (l.filter fun e => e.1 ≠ path).map (Prod.map id g) =
        (l.map (Prod.map id g)).filter fun e => e.1 ≠ path := by
    intro β g l
    rw [List.filter_map]
    rfl
  refine ⟨?_, fun e he => h.status e (List.mem_of_mem_filter he), fun p hp => ?_⟩
  · show (s.daemon.acsTransfers.entries.filter fun e => e.1 ≠ path).map _ =
      (q.filter fun e => e.1 ≠ path).map _
    rw [hkeep, hkeep, h.entries]
  · obtain ⟨e, he, rfl⟩ := List.mem_map.mp hp
    exact h.used e.1 (List.mem_map_of_mem (List.mem_of_mem_filter he))

/-- **One step**: the transfers are those of the queue again. -/
theorem Queued.step (h : Queued s q) (hstatus : KeepsStatus s e)
    (hstep : s.step dateStringToTime amxcTsFormat amxcTsParse e = some t) :
    Queued t (queue q e) := by
  cases e with
  | request r bus now =>
    rw [TransferSystem.step, Option.ite_none_right_eq_some] at hstep
    obtain ⟨⟨-, hnew⟩, hs⟩ := hstep
    cases hs
    exact h.request hnew
  | written path new =>
    rw [TransferSystem.step] at hstep
    split at hstep
    · cases hstep
    · next old hold =>
      rw [Option.ite_none_right_eq_some] at hstep
      obtain ⟨⟨hkey, -⟩, hs⟩ := hstep
      cases hs
      exact h.leaves (written_leavesQueue hold hkey hstatus) rfl
  | notification get =>
    rw [TransferSystem.step] at hstep
    split at hstep
    · cases hstep
    · next path status rest hnotifications =>
      dsimp only at hstep
      split at hstep
      · cases hstep
        refine h.leaves ?_ rfl
        show LeavesQueue s.daemon.acsTransfers
          (s.daemon.transferNotification dateStringToTime get path status).acsTransfers
        rw [TimedTransfers.transferNotification]
        split
        · rw [TimedTransfers.transferCompleteEvent_acsTransfers]
          exact LeavesQueue.refl _
        · exact LeavesQueue.refl _
      · cases hstep
        exact h.leaves (LeavesQueue.refl _) rfl
  | expired name bus =>
    rw [TransferSystem.step, Option.ite_none_right_eq_some] at hstep
    obtain ⟨-, hs⟩ := hstep
    cases hs
    exact h.leaves TimedTransfers.timerTimeoutHandler_leavesQueue rfl
  | acknowledged path =>
    rw [TransferSystem.step, Option.ite_none_right_eq_some] at hstep
    obtain ⟨-, hs⟩ := hstep
    cases hs
    exact h.acknowledged path
  | daemonStart name waitTime intervalTime =>
    cases hstep
    exact h.leaves (LeavesQueue.refl _) rfl
  | daemonStop name =>
    cases hstep
    exact h.leaves (LeavesQueue.refl _) rfl
  | start bus now =>
    rw [TransferSystem.step] at hstep
    split at hstep
    · cases hstep
    · split at hstep
      · cases hstep
        exact h.leaves (LeavesQueue.refl _) rfl
      · next ret d hinit =>
        cases hstep
        exact h.leaves (TimedTransfers.upDownloadInitialize_leavesQueue hinit) rfl
  | restart =>
    cases hstep
    exact h.leaves (LeavesQueue.refl _) rfl

/-- What the answer says of a queue. -/
theorem Queued.getQueuedTransfers (h : Queued s q) :
    ∃ list, s.daemon.getAllQueuedTransfers true true = some (0, list) ∧
      list.map AllQueuedTransferStruct.commandKey = q.map fun e => some e.2 := by
  have hloop : ∀ es : List (ObjectPath × AcsTransfer), (∀ e ∈ es, e.2.status ≠ none) →
      ∃ list, (es.mapM fun e => queuedTransfer e.2) = some list ∧
        list.map AllQueuedTransferStruct.commandKey = es.map fun e => e.2.commandKey := by
    intro es
    induction es with
    | nil => exact fun _ => ⟨[], rfl, rfl⟩
    | cons e es ih =>
      intro hstatus
      obtain ⟨list, hlist, hkeys⟩ := ih fun e he => hstatus e (List.mem_cons_of_mem _ he)
      obtain ⟨status, hsome⟩ := Option.ne_none_iff_exists'.mp (hstatus e List.mem_cons_self)
      refine ⟨⟨e.2.isDownload, queuedTransferState status, e.2.fileType, e.2.fileSize,
        e.2.targetFileName, e.2.commandKey⟩ :: list, ?_, ?_⟩
      · rw [List.mapM_cons, queuedTransfer, hsome, hlist]
        rfl
      · rw [List.map_cons, List.map_cons, hkeys]
  obtain ⟨list, hlist, hkeys⟩ := hloop s.daemon.acsTransfers.entries h.status
  refine ⟨list, ?_, ?_⟩
  · rw [TimedTransfers.getAllQueuedTransfers, if_pos rfl, TimedTransfers.getQueuedTransfers,
      if_pos rfl, hlist]
    rfl
  · have hsnd := congrArg (List.map Prod.snd) h.entries
    rw [List.map_map, List.map_map] at hsnd
    exact hkeys.trans hsnd

/-- **The answer to `GetAllQueuedTransfers` is the queue**: after any run in which no write takes
a Status away, it has one entry for every instance that was made for a request and is not
acknowledged, with the CommandKey of the request. The bus may have refused any call, so that this
goes for a request that was refused as well. The order of the answer is that of a hash table. -/
theorem queuedTransfers_of_run {events : List TransferEvent}
    (hrun : Runs.exec (TransferSystem.step dateStringToTime amxcTsFormat amxcTsParse) init events =
      some s)
    (hstatus : Runs.Meets (TransferSystem.step dateStringToTime amxcTsFormat amxcTsParse)
      KeepsStatus init events) :
    ∃ list, s.daemon.getAllQueuedTransfers true true = some (0, list) ∧
      (list.map AllQueuedTransferStruct.commandKey).Perm
        ((events.foldl queue []).map fun e => some e.2) := by
  have hinit : Queued init [] := ⟨rfl, fun e he => absurd he List.not_mem_nil,
    fun p hp => absurd hp List.not_mem_nil⟩
  have hqueued : Queued s (events.foldl queue []) :=
    Runs.exec_foldl (fun _ _ _ _ h hg he => h.step hg he) hrun hstatus hinit
  obtain ⟨list, hlist, hkeys⟩ := hqueued.getQueuedTransfers
  exact ⟨list, hlist, hkeys ▸ List.Perm.refl _⟩

/-- A request whose `AddTransfer` the bus refuses: the ACS is told that it is denied, and finds it
in the queue. -/
theorem queuedTransfers_of_run_refused :
    ∃ s : TransferSystem, ∃ list, s.daemon.getAllQueuedTransfers true true = some (0, list) ∧
      (list.map AllQueuedTransferStruct.commandKey).Perm [some "key"] := by
  let r : TransferRequest :=
    ⟨"key", "3 Vendor Configuration File", "http://acs/config", "", "", 0, "", 0, true⟩
  let bus : AddAnswers := ⟨some ⟨"ACSTransfer.1.", by decide⟩, false, none, false⟩
  have hrun : Runs.exec (TransferSystem.step (fun _ => 0) (fun _ => "") fun _ => 0) init
      [.start ⟨true, none, true⟩ fun _ => 0, .request r bus 0] = some _ := rfl
  exact ⟨_, queuedTransfers_of_run hrun ⟨trivial, fun _ _ => ⟨trivial, fun _ _ => trivial⟩⟩⟩

end TransferSystem

end Tr069
