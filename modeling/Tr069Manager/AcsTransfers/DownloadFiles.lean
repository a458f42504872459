import Tr069Manager.AcsTransfers.Downloads

/-!
# Downloads that do not mix up their files

Every download is to have its own file: the name of it on its own instance and on the
request of its number, no two made of a CommandKey the same, and on success the script
for the leading number of the file type run on the file that was written.

So it is in a run where the search for the CommandKey of a new transfer finds its own
instance – as it does for a key that no other transfer has, and that the search takes for
what it is (`Tr069.Downloads.findCommandKey_own`) – where two transfers without a name have
two keys, and where the digits 2 and 3 are in a file type only as its leading number
(`Tr069.Downloads.unmixed_of_reaches`). These conditions are needed, event by event
(`Tr069.Downloads.keepsApart_of_unmixed`).
-/

namespace Tr069

open Runs

/-- The instance of a download that is not of the firmware image. -/
def DownloadEntry.IsFile (t : DownloadEntry) : Prop :=
  t.isDownload = true ∧ t.fileType ≠ some firmwareUpgradeImage

/-- The transfer was given no name. -/
def DownloadEntry.Unnamed (t : DownloadEntry) : Prop := t.targetFileName.getD "" = ""

instance (t : DownloadEntry) : Decidable t.Unnamed := inferInstanceAs (Decidable (_ = _))

/-- The file of the transfer itself. -/
def DownloadEntry.ownFile (t : DownloadEntry) : String :=
  if t.Unnamed then "/tmp/dl_" ++ t.commandKey.getD "" else "/tmp/" ++ t.targetFileName.getD ""

namespace Downloads

variable {lib : DownloadLibrary} {s t : Downloads} {e : Event}

/-! ### The property and the condition -/

/-- The script that is right for a download: the one for the leading number, on the file that was
written. -/
def rightTask (f : FinishedDownload) : Option DownloadTask := do
  let fileType ← f.fileType
  let script ← scriptFor (leadingNumber fileType)
  let targetFile ← f.targetFile
  return ⟨script, targetFile⟩

/-- **The downloads do not mix up their files.** -/
structure Unmixed (s : Downloads) : Prop where
  recorded : ∀ i t, s.acsTransfers.find i = some t → t.IsFile → t.saveFileName = some t.ownFile
  requests : ∀ r ∈ s.requests, ∃ t, s.acsTransfers.find r.data = some t ∧ t.IsFile ∧
    r.targetFile = some t.ownFile
  apart : ∀ i j t u, i ≠ j → s.acsTransfers.find i = some t → s.acsTransfers.find j = some u →
    t.IsFile → u.IsFile → t.Unnamed → u.Unnamed → t.ownFile ≠ u.ownFile
  ran : ∀ f ∈ s.finished, f.task = rightTask f

/-- **The condition on the events**: the search for the key of a new download finds its own
instance, another download without a name has another key if it has none, and a download that
is a success has a file type with the digits 2 and 3 only as the leading number. -/
def KeepsApart (lib : DownloadLibrary) (s : Downloads) : Event → Prop
  | .addTransfer index r startTime completeTime =>
    r.isDownload = true → r.fileType ≠ firmwareUpgradeImage →
      lib.findCommandKey
        (commandKeys (s.acsTransfers.put index (r.newEntry startTime completeTime)))
        r.commandkey = some index ∧
      (r.targetFileName = "" → ∀ i t, s.acsTransfers.find i = some t → t.IsFile → t.Unnamed →
        t.commandKey.getD "" ≠ r.commandkey)
  | .complete n _ _ errorCode _ =>
    errorCode = 0 → ∀ request t fileType, s.requests[n]? = some request →
      s.acsTransfers.find request.data = some t → t.fileType = some fileType → WellTyped fileType
  | .remove _ => True

/-! ### Starts -/

theorem isFile_newEntry {r : TransferRequest} {startTime completeTime : String} :
    (r.newEntry startTime completeTime).IsFile ↔
      r.isDownload = true ∧ r.fileType ≠ firmwareUpgradeImage :=
  and_congr Iff.rfl (not_congr Option.some_inj)

/-- The file of a new instance is the one the request is given. -/
theorem ownFile_newEntry (r : TransferRequest) (startTime completeTime : String) :
    (r.newEntry startTime completeTime).ownFile = r.fileName := by
  have hunnamed : (r.newEntry startTime completeTime).Unnamed ↔ r.targetFileName = "" := Iff.rfl
  rw [DownloadEntry.ownFile, TransferRequest.fileName]
  by_cases hname : r.targetFileName = ""
  · rw [if_pos (hunnamed.mpr hname), if_neg (not_not_intro hname)]
    rfl
  · rw [if_neg (mt hunnamed.mp hname), if_pos hname]
    rfl

/-- Two names made of two keys are two names. -/
theorem ownFile_ne {t u : DownloadEntry} (ht : t.Unnamed) (hu : u.Unnamed)
    (hkey : t.commandKey.getD "" ≠ u.commandKey.getD "") : t.ownFile ≠ u.ownFile := by
  rw [DownloadEntry.ownFile, if_pos ht, DownloadEntry.ownFile, if_pos hu]
  exact fun h => hkey ((String.append_right_inj _).mp h)

/-- A new transfer of another kind: the instance is added and nothing else. -/
theorem addTransfer_other {index : Int32} {r : TransferRequest} {startTime completeTime : String}
    (h : ¬(r.newEntry startTime completeTime).IsFile) :
    s.addTransfer lib index r startTime completeTime =
      { s with acsTransfers := s.acsTransfers.put index (r.newEntry startTime completeTime) } := by
  rw [addTransfer, filetransferRequestPrepare, if_neg (mt isFile_newEntry.mpr h)]

/-- A new download whose search finds its own instance. -/
theorem addTransfer_own {index : Int32} {r : TransferRequest} {startTime completeTime : String}
    (h : (r.newEntry startTime completeTime).IsFile)
    (hfind : lib.findCommandKey
      (commandKeys (s.acsTransfers.put index (r.newEntry startTime completeTime)))
      r.commandkey = some index) :
    s.addTransfer lib index r startTime completeTime =
      { s with
        acsTransfers := (s.acsTransfers.put index (r.newEntry startTime completeTime)).modify index
          fun t => { t with saveFileName := some r.fileName }
        requests := s.requests ++
          [{ filetransferSetCommonData index r with targetFile := some r.fileName }] } := by
  rw [addTransfer, filetransferRequestPrepare, if_pos (isFile_newEntry.mp h)]
  unfold filetransferDownloadSetTargetFile
  dsimp only
  rw [hfind]

/-- An instance that is added keeps the files apart if its own file is recorded on it and no other
transfer without a name has it. -/
theorem Unmixed.insert {u : Downloads} (h : s.Unmixed) {index : Int32} {t : DownloadEntry}
    (hnew : s.acsTransfers.find index = none) (hself : u.acsTransfers.find index = some t)
    (hold : ∀ i ≠ index, u.acsTransfers.find i = s.acsTransfers.find i)
    (hrecorded : t.IsFile → t.saveFileName = some t.ownFile)
    (hapart : t.IsFile → t.Unnamed → ∀ i v, s.acsTransfers.find i = some v → v.IsFile →
      v.Unnamed → v.ownFile ≠ t.ownFile)
    (hrequests : ∀ q ∈ u.requests, q ∈ s.requests ∨
      q.data = index ∧ t.IsFile ∧ q.targetFile = some t.ownFile)
    (hran : u.finished = s.finished) : u.Unmixed := by
  refine ⟨fun i v hv hfile => ?_, fun q hq => ?_, fun i j v w hne hv hw hfv hfw hnv hnw => ?_,
    fun f hf => h.ran f (hran ▸ hf)⟩
  · by_cases hi : i = index
    · rw [hi, hself] at hv
      obtain rfl := Option.some.inj hv
      exact hrecorded hfile
    · rw [hold i hi] at hv
      exact h.recorded i v hv hfile
  · rcases hrequests q hq with hq | ⟨hdata, hfile, htarget⟩
    · obtain ⟨v, hv, hrest⟩ := h.requests q hq
      have hi : q.data ≠ index := by
        intro hsame
        rw [hsame, hnew] at hv
        cases hv
      exact ⟨v, (hold _ hi).trans hv, hrest⟩
    · exact ⟨t, hdata ▸ hself, hfile, htarget⟩
  · by_cases hi : i = index
    · have hj : j ≠ index := fun hj => hne (hi.trans hj.symm)
      rw [hi, hself] at hv
      rw [hold j hj] at hw
      obtain rfl := Option.some.inj hv
      exact (hapart hfv hnv j w hw hfw hnw).symm
    · rw [hold i hi] at hv
      by_cases hj : j = index
      · rw [hj, hself] at hw
        obtain rfl := Option.some.inj hw
        exact hapart hfw hnw i v hv hfv hnv
      · rw [hold j hj] at hw
        exact h.apart i j v w hne hv hw hfv hfw hnv hnw

/-- A new transfer keeps the files apart, under the condition. -/
theorem Unmixed.addTransfer (h : s.Unmixed) {index : Int32} {r : TransferRequest}
    {startTime completeTime : String} (hnew : s.acsTransfers.find index = none)
    (hok : s.KeepsApart lib (.addTransfer index r startTime completeTime)) :
    (s.addTransfer lib index r startTime completeTime).Unmixed := by
  by_cases hfile : (r.newEntry startTime completeTime).IsFile
  · obtain ⟨hdown, htype⟩ := isFile_newEntry.mp hfile
    obtain ⟨hfind, hkeys⟩ := hok hdown htype
    have hown := ownFile_newEntry r startTime completeTime
    rw [addTransfer_own hfile hfind]
    refine h.insert
      (t := { r.newEntry startTime completeTime with saveFileName := some r.fileName }) hnew ?_
      (fun i hi => ?_) (fun _ => congrArg some hown.symm) ?_ (fun q hq => ?_) rfl
    · rw [Table.find_modify_self, Table.find_put_self, Option.map_some]
    · rw [Table.find_modify_ne hi, Table.find_put_ne hi]
    · intro _ hunnamed i v hv hfv hnv
      exact ownFile_ne hnv hunnamed (hkeys hunnamed i v hv hfv hnv)
    · rcases List.mem_append.mp hq with hq | hq
      · exact Or.inl hq
      · obtain rfl := List.mem_singleton.mp hq
        exact Or.inr ⟨rfl, hfile, congrArg some hown.symm⟩
  · rw [addTransfer_other hfile]
    exact h.insert hnew Table.find_put_self (fun i hi => Table.find_put_ne hi)
      (fun hf => absurd hf hfile) (fun hf => absurd hf hfile) (fun q hq => Or.inl hq) rfl

/-! ### Completions -/

/-- The status of a transfer is no matter of its file. -/
theorem Unmixed.transferUpdateStatus (h : s.Unmixed) (index : Int32)
    (startTime completeTime : String) (errorCode : UInt32) (errorString : Option String) :
    (s.transferUpdateStatus index startTime completeTime errorCode errorString).Unmixed := by
  have hback : ∀ i t,
      (s.transferUpdateStatus index startTime completeTime errorCode
        errorString).acsTransfers.find i = some t → ∃ u, s.acsTransfers.find i = some u ∧
          (t.IsFile ↔ u.IsFile) ∧ (t.Unnamed ↔ u.Unnamed) ∧ t.ownFile = u.ownFile ∧
            t.saveFileName = u.saveFileName := by
    intro i t ht
    rw [Downloads.transferUpdateStatus, Table.find_modify] at ht
    split at ht
    · obtain ⟨u, hu, rfl⟩ := Option.map_eq_some_iff.mp ht
      exact ⟨u, hu, Iff.rfl, Iff.rfl, rfl, rfl⟩
    · exact ⟨t, ht, Iff.rfl, Iff.rfl, rfl, rfl⟩
  refine ⟨fun i t ht hfile => ?_, fun r hr => ?_, fun i j t u hne ht hu hft hfu hnt hnu => ?_,
    h.ran⟩
  · obtain ⟨v, hv, hf, -, hown, hsave⟩ := hback i t ht
    rw [hsave, hown]
    exact h.recorded i v hv (hf.mp hfile)
  · obtain ⟨u, hu, hfile, htarget⟩ := h.requests r hr
    rw [Downloads.transferUpdateStatus, Table.find_modify, hu]
    split
    · exact ⟨_, rfl, hfile, htarget⟩
    · exact ⟨u, rfl, hfile, htarget⟩
  · obtain ⟨t', ht', hf, hn, hown, -⟩ := hback i t ht
    obtain ⟨u', hu', hf', hn', hown', -⟩ := hback j u hu
    rw [hown, hown']
    exact h.apart i j t' u' hne ht' hu' (hf.mp hft) (hf'.mp hfu) (hn.mp hnt) (hn'.mp hnu)

/-- What a success runs is right exactly if the file type is. -/
theorem downloadFinished_right (h : s.Unmixed) {request : FtxRequest} (hr : request ∈ s.requests) :
    ∃ t, s.acsTransfers.find request.data = some t ∧
      (s.filetransferDownloadFinished request.data = rightTask
        ⟨request.targetFile, (s.acsTransfers.find request.data).bind fun t => t.fileType,
          s.filetransferDownloadFinished request.data⟩ ↔
        ∀ fileType, t.fileType = some fileType → WellTyped fileType) := by
  obtain ⟨t, ht, hfile, htarget⟩ := h.requests request hr
  refine ⟨t, ht, ?_⟩
  have hrun : s.filetransferDownloadFinished request.data =
      (t.fileType.bind downloadScript).map fun script => ⟨script, t.ownFile⟩ := by
    rw [filetransferDownloadFinished, ht]
    change (t.fileType.bind fun fileType => t.saveFileName.bind fun name => _) = _
    rw [h.recorded _ t ht hfile]
    rcases t.fileType with - | fileType
    · rfl
    · exact Option.map_eq_bind.symm
  have hright : rightTask ⟨request.targetFile, t.fileType, s.filetransferDownloadFinished
      request.data⟩ = (t.fileType.bind fun fileType => scriptFor (leadingNumber fileType)).map
        fun script => ⟨script, t.ownFile⟩ := by
    rw [rightTask, htarget]
    rcases t.fileType with - | fileType
    · rfl
    · exact Option.map_eq_bind.symm
  have hinj : Function.Injective fun script => (⟨script, t.ownFile⟩ : DownloadTask) :=
    fun a b hab => congrArg DownloadTask.script hab
  rw [ht, Option.bind_some, hright, hrun, (Option.map_injective hinj).eq_iff]
  rcases t.fileType with - | fileType
  · exact ⟨fun _ => nofun, fun _ => rfl⟩
  · rw [Option.bind_some, Option.bind_some, downloadScript_eq_iff]
    refine ⟨fun hwell other hother => ?_, fun hwell => hwell fileType rfl⟩
    obtain rfl := Option.some.inj hother
    exact hwell

/-- A completion keeps the files apart, under the condition. -/
theorem Unmixed.complete (h : s.Unmixed) {n : ℕ} {request : FtxRequest}
    (hr : s.requests[n]? = some request) {startTime endTime : String} {errorCode : UInt32}
    {errorReason : Option String}
    (hok : s.KeepsApart lib (.complete n startTime endTime errorCode errorReason)) :
    ({ s with requests := s.requests.eraseIdx n }.filetransferRequestCb request startTime endTime
      errorCode errorReason).Unmixed := by
  have herased : { s with requests := s.requests.eraseIdx n }.Unmixed :=
    ⟨h.recorded, fun r hr' => h.requests r (List.mem_of_mem_eraseIdx hr'), h.apart, h.ran⟩
  unfold filetransferRequestCb
  dsimp only
  refine Unmixed.transferUpdateStatus ?_ _ _ _ _ _
  split
  · next hsuccess =>
    refine ⟨h.recorded, herased.requests, h.apart, fun f hf => ?_⟩
    rcases List.mem_append.mp hf with hf | hf
    · exact h.ran f hf
    · obtain rfl := List.mem_singleton.mp hf
      obtain ⟨t, ht, hright⟩ := downloadFinished_right h (List.mem_of_getElem? hr)
      exact hright.mpr fun fileType hfileType => hok hsuccess request t fileType hr ht hfileType
  · exact herased

/-- An instance is removed. -/
theorem Unmixed.remove (h : s.Unmixed) {index : Int32}
    (hdone : s.requests.all fun request => request.data ≠ index) :
    { s with acsTransfers := s.acsTransfers.remove index }.Unmixed := by
  have hback : ∀ i t, (s.acsTransfers.remove index).find i = some t →
      s.acsTransfers.find i = some t := by
    intro i t ht
    by_cases hi : i = index
    · rw [hi, Table.find_remove_self] at ht
      cases ht
    · rwa [Table.find_remove_ne hi] at ht
  refine ⟨fun i t ht => h.recorded i t (hback i t ht), fun r hr => ?_, fun i j t u hne ht hu =>
    h.apart i j t u hne (hback i t ht) (hback j u hu), h.ran⟩
  obtain ⟨t, ht, hrest⟩ := h.requests r hr
  have hne : r.data ≠ index := of_decide_eq_true (List.all_eq_true.mp hdone r hr)
  exact ⟨t, (Table.find_remove_ne hne).trans ht, hrest⟩

/-! ### The main results -/

/-- **One event keeps the files apart**, under the condition. -/
theorem Unmixed.step (h : s.Unmixed) (hok : s.KeepsApart lib e) (hstep : s.step lib e = some t) :
    t.Unmixed := by
  rcases e with ⟨index, r, startTime, completeTime⟩ | ⟨n, startTime, endTime, code, reason⟩ | index
  · rw [Downloads.step] at hstep
    split at hstep
    · next hnew =>
      obtain rfl := Option.some.inj hstep
      exact h.addTransfer (Option.isNone_iff_eq_none.mp hnew) hok
    · cases hstep
  · obtain ⟨request, hr, rfl⟩ := Option.map_eq_some_iff.mp hstep
    exact h.complete hr hok
  · rw [Downloads.step] at hstep
    split at hstep
    · next hdone =>
      obtain rfl := Option.some.inj hstep
      exact h.remove hdone
    · cases hstep

theorem unmixed_init : init.Unmixed := by
  have hnone : ∀ i t, init.acsTransfers.find i ≠ some t := by
    intro i t ht
    have hmem := Table.find_eq_some.mp ht
    cases hmem
  exact ⟨fun i t ht => absurd ht (hnone i t), fun r hr => absurd hr List.not_mem_nil,
    fun i j t u _ ht => absurd ht (hnone i t), fun f hf => absurd hf List.not_mem_nil⟩

/-- **Downloads do not mix up their files** in any run whose events meet the condition. -/
theorem unmixed_of_reaches (h : Reaches (step lib) (KeepsApart lib) init s) : s.Unmixed :=
  h.invariant (fun _ _ _ hs hok hstep => hs.step hok hstep) unmixed_init

/-! ### What the condition leaves out -/

/-- The search finds the only instance that has a key, if it takes the key for what it is. -/
def FindsOnly (lib : DownloadLibrary) (Plain : String → Prop) : Prop :=
  ∀ keys key i, Plain key → (i, some key) ∈ keys → (∀ j, (j, some key) ∈ keys → j = i) →
    lib.findCommandKey keys key = some i

/-- A key that no other transfer has finds its own instance. -/
theorem findCommandKey_own {Plain : String → Prop} (hlib : FindsOnly lib Plain) {index : Int32}
    {r : TransferRequest} (hplain : Plain r.commandkey) (startTime completeTime : String)
    (hother : ∀ i t, s.acsTransfers.find i = some t → t.commandKey ≠ some r.commandkey) :
    lib.findCommandKey (commandKeys (s.acsTransfers.put index (r.newEntry startTime completeTime)))
      r.commandkey = some index := by
  refine hlib _ _ _ hplain ?_ fun j hj => ?_
  · exact List.mem_map_of_mem (Table.find_eq_some.mp Table.find_put_self)
  · obtain ⟨⟨i, t⟩, hmem, heq⟩ := List.mem_map.mp hj
    obtain ⟨rfl, hkey⟩ := Prod.mk.inj heq
    by_contra hne
    refine hother i t ?_ hkey
    exact (Table.find_put_ne hne).symm.trans (Table.find_eq_some.mpr hmem)

/-- A new download that leaves the files apart has found its own instance. -/
theorem findCommandKey_of_unmixed {index : Int32} {r : TransferRequest}
    {startTime completeTime : String} (hfile : (r.newEntry startTime completeTime).IsFile)
    (ht : (s.addTransfer lib index r startTime completeTime).Unmixed) :
    lib.findCommandKey (commandKeys (s.acsTransfers.put index (r.newEntry startTime completeTime)))
      r.commandkey = some index := by
  rw [addTransfer, filetransferRequestPrepare, if_pos (isFile_newEntry.mp hfile)] at ht
  unfold filetransferDownloadSetTargetFile at ht
  dsimp only at ht
  rcases hfind : lib.findCommandKey (commandKeys (s.acsTransfers.put index
    (r.newEntry startTime completeTime))) r.commandkey with - | j
  · -- the request is given no file
    rw [hfind] at ht
    obtain ⟨t, -, -, htarget⟩ := ht.requests (filetransferSetCommonData index r)
      (List.mem_append_right _ List.mem_cons_self)
    cases htarget
  · rw [hfind] at ht
    by_contra hne
    have hj : index ≠ j := fun h => hne (congrArg some h.symm)
    -- the name given by the server is left on the instance
    have hself := ht.recorded index (r.newEntry startTime completeTime)
      ((Table.find_modify_ne hj).trans Table.find_put_self) hfile
    rw [ownFile_newEntry] at hself
    have hlength : r.targetFileName.length = r.fileName.length :=
      congrArg String.length (Option.some.inj hself)
    rw [TransferRequest.fileName] at hlength
    split at hlength
    · rw [String.length_append] at hlength
      have htmp : "/tmp/".length = 5 := rfl
      omega
    · next hname =>
      rw [not_not.mp hname, String.length_append] at hlength
      have htmp : "/tmp/dl_".length = 8 := rfl
      have hempty : "".length = 0 := rfl
      omega

/-- **The condition leaves out nothing else**: an event that does not meet it mixes up the files. -/
theorem keepsApart_of_unmixed (h : s.Unmixed) (hstep : s.step lib e = some t) (ht : t.Unmixed) :
    s.KeepsApart lib e := by
  rcases e with ⟨index, r, startTime, completeTime⟩ | ⟨n, startTime, endTime, code, reason⟩ | index
  · rw [step] at hstep
    split at hstep
    · next hnew =>
      obtain rfl := Option.some.inj hstep
      have hnone := Option.isNone_iff_eq_none.mp hnew
      intro hdown htype
      have hfile := (@isFile_newEntry r startTime completeTime).mpr ⟨hdown, htype⟩
      have hfind := findCommandKey_of_unmixed hfile ht
      refine ⟨hfind, fun hname i v hv hfv hnv hkey => ?_⟩
      have hi : i ≠ index := by
        rintro rfl
        rw [hnone] at hv
        cases hv
      rw [addTransfer_own hfile hfind] at ht
      refine ht.apart i index v _ hi ?_ (Table.find_modify_self.trans
        (congrArg (Option.map _) Table.find_put_self)) hfv hfile hnv hname ?_
      · rw [Table.find_modify_ne hi, Table.find_put_ne hi]
        exact hv
      · rw [DownloadEntry.ownFile, if_pos hnv, hkey]
        exact (if_pos hname).symm
    · cases hstep
  · obtain ⟨request, hr, rfl⟩ := Option.map_eq_some_iff.mp hstep
    intro hsuccess request' v fileType hr' hv hfileType
    obtain rfl := Option.some.inj (hr.symm.trans hr')
    obtain ⟨v', hv', hright⟩ := downloadFinished_right h (List.mem_of_getElem? hr)
    obtain rfl := Option.some.inj (hv.symm.trans hv')
    refine hright.mp ?_ fileType hfileType
    unfold filetransferRequestCb at ht
    rw [if_pos hsuccess] at ht
    exact ht.ran _ (List.mem_append_right _ List.mem_cons_self)
  · trivial

/-- A search that finds an instance by its CommandKey, the first one that has it. -/
def firstCommandKey : DownloadLibrary :=
  ⟨fun keys key => (keys.find? fun k => k.2 = some key).map Prod.fst⟩

/-- A transfer with a key and a file type, and no name. -/
def unnamedRequest (key type : String) : TransferRequest :=
  ⟨key, type, "http://f/", "", "", 0, "", 0, true⟩

theorem mem_commandKeys {i : Int32} {t : DownloadEntry} (h : s.acsTransfers.find i = some t) :
    (i, t.commandKey) ∈ commandKeys s.acsTransfers :=
  List.mem_map_of_mem (Table.find_eq_some.mp h)

/-- Two downloads, the second one complete. -/
theorem unmixed_two :
    ∃ s : Downloads, Reaches (step firstCommandKey) (KeepsApart firstCommandKey) init s ∧
      s.finished = [⟨some "/tmp/dl_b", some "3 Vendor Configuration File",
        some ⟨"tr069_3_conf_apply", "/tmp/dl_b"⟩⟩] ∧ s.Unmixed := by
  have hrun : (exec (step firstCommandKey) init
      [.addTransfer 1 (unnamedRequest "a" "2 Web Content") "" "",
        .addTransfer 2 (unnamedRequest "b" "3 Vendor Configuration File") "" "",
        .complete 1 "" "" 0 none]).map finished =
      some [⟨some "/tmp/dl_b", some "3 Vendor Configuration File",
        some ⟨"tr069_3_conf_apply", "/tmp/dl_b"⟩⟩] := by
    decide
  obtain ⟨s, hs, hfinished⟩ := Option.map_eq_some_iff.mp hrun
  have hreach := reaches_of_exec hs (G := KeepsApart firstCommandKey) <| by
    refine ⟨fun _ _ => ⟨by decide, fun _ i t ht => ?_⟩, fun t₁ h₁ => ?_⟩
    · have hmem := mem_commandKeys ht
      cases hmem
    · obtain rfl := Option.some.inj h₁
      refine ⟨fun _ _ => ⟨by decide, fun _ i t ht _ _ => ?_⟩, fun t₂ h₂ => ?_⟩
      · have hmem := mem_commandKeys ht
        have hkey := congrArg (fun k : Int32 × Option String => k.2) (List.mem_singleton.mp hmem)
        change t.commandKey = some "a" at hkey
        rw [hkey]
        decide
      · obtain rfl := Option.some.inj h₂
        refine ⟨fun _ request t fileType hr ht hfileType => ?_, fun _ _ => trivial⟩
        have hdata : some request.data = some 2 :=
          (congrArg (Option.map FtxRequest.data) hr).symm.trans (by decide)
        rw [Option.some.inj hdata] at ht
        have htype : t.fileType = some "3 Vendor Configuration File" :=
          (congrArg (fun u => u.bind fun t : DownloadEntry => t.fileType) ht).symm.trans (by decide)
        obtain rfl := Option.some.inj (htype.symm.trans hfileType)
        decide
  exact ⟨s, hreach, hfinished, unmixed_of_reaches hreach⟩

/-- Not in every run: two downloads with one CommandKey have one file. -/
theorem not_unmixed_sameKey :
    ¬∀ (lib : DownloadLibrary) (s : Downloads), Reaches (step lib) free init s → s.Unmixed := by
  intro h
  have hrun : (exec (step firstCommandKey) init
      [.addTransfer 1 (unnamedRequest "a" "2 Web Content") "" "",
        .addTransfer 2 (unnamedRequest "a" "3 Vendor Configuration File") "" ""]).map
          (fun s => (s.acsTransfers.find 2).map fun t =>
            (t.isDownload, t.fileType, t.saveFileName, t.ownFile)) =
      some (some (true, some "3 Vendor Configuration File", some "", "/tmp/dl_a")) := by
    decide
  obtain ⟨s, hs, heq⟩ := Option.map_eq_some_iff.mp hrun
  obtain ⟨t, ht, hfields⟩ := Option.map_eq_some_iff.mp heq
  obtain ⟨hdown, hrest⟩ := Prod.mk.inj hfields
  obtain ⟨htype, hrest⟩ := Prod.mk.inj hrest
  obtain ⟨hsave, hown⟩ := Prod.mk.inj hrest
  have hrecorded := (h firstCommandKey s (reaches_free_of_exec _ hs)).recorded 2 t ht
    ⟨hdown, by rw [htype]; decide⟩
  rw [hsave, hown] at hrecorded
  exact absurd hrecorded (by decide)

end Downloads

end Tr069
