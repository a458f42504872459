import Mathlib.Algebra.Group.Nat.Defs
import Tr069Manager.AcsTransfers.UploadRuns

/-!
# The routing of the uploads

An upload is of a vendor configuration file or of a vendor log file, and its file type says
of which one: with a number at its end, or without one for the first. What is called for it
should be the `Backup` of that configuration file, or the `Upload` of that log file, after a
self-test of the device if it is the first one.

The file types are told apart by searches in their texts, in `vendorfile_get_index` and in
`filetransfer_upload_prepare`. The letter V stands in each of these texts once, so that a
search comes down to the digit in front and to how the texts go on
(`Tr069.VendorFileType.hasText_iff`). The searches with a 1 at their end are meant for the
first file, and find every number that begins with that digit; a log file of any other number
goes through the callback of a self-test that was never asked for, which takes the request it
does not have off its list (`Tr069.VendorFileType.routedRight_iff`).

The words of a text come from a library, which is assumed to return words and single blanks
alternately.
-/

namespace Tr069

/-! ### The file types -/

/-- The files of a vendor. -/
inductive VendorFile where
  | config
  | log
  deriving DecidableEq

/-- A file type of an upload: of the file of a number, or without one. -/
structure VendorFileType where
  file : VendorFile
  number : Option { n : ℕ // 0 < n }

namespace VendorFileType

/-- The text of a file type. -/
def text (t : VendorFileType) : String :=
  match t.number with
  | none =>
    match t.file with
    | .config => "1 Vendor Configuration File"
    | .log => "2 Vendor Log File"
  | some n =>
    match t.file with
    | .config => "3 Vendor Configuration File " ++ toString n.1
    | .log => "4 Vendor Log File " ++ toString n.1

/-- The number of the file; without one it is the first. -/
def index (t : VendorFileType) : ℕ :=
  match t.number with
  | none => 1
  | some n => n.1

/-- The object of the files, without the number. -/
def object : VendorFile → String
  | .config => "Device.DeviceInfo.VendorConfigFile."
  | .log => "Device.DeviceInfo.VendorLogFile."

/-- The object of the file. -/
def path (t : VendorFileType) : String := object t.file ++ toString t.index

/-- What is called for the file. -/
def method (t : VendorFileType) : String :=
  match t.file with
  | .config => "Backup"
  | .log => "Upload"

end VendorFileType

/-! ### The library -/

/-- The libraries, with the words of a text: they and single blanks come alternately, and a word
of digits is a number. -/
structure WordLibrary extends UploadLibrary where
  amxcStringSplitWord_eq : ∀ words : List CString, (∀ w ∈ words, w ≠ [] ∧ ' ' ∉ w) →
    amxcStringSplitWord (String.ofList ([' '].intercalate words)) =
      (words.map String.ofList).intersperse " "
  amxcStringIsNumeric_of_digits : ∀ s : CString, s ≠ [] → (∀ c ∈ s, c.isDigit = true) →
    amxcStringIsNumeric (String.ofList s) = true

/-- A library of words. -/
def wordLibrary : WordLibrary where
  amxcStringSplitWord s := ((CString.pieces ' ' s.toList).map String.ofList).intersperse " "
  amxcStringIsNumeric s := s.toList.all Char.isDigit
  faultcodeInternalError := 9002
  faultcodeInternalError_ne := internalFault_ne
  amxcStringSplitWord_eq words h := by
    rw [String.toList_ofList, CString.pieces_intercalate h]
  amxcStringIsNumeric_of_digits s _ h := by
    rw [String.toList_ofList, List.all_eq_true]
    exact h

/-! ### The missing request -/

namespace Uploads

/-- `filetransfer_upload_selftest_call_done` takes its request off the list at its end, unless
the index of the transfer is missing; `req` is whether there is a request. -/
def takesMissingRequest (req : Bool) (a : UploadArgs) : Bool := a.index ≠ 0 && !req

/-- Whether `filetransfer_upload_prepare` comes to that. -/
def prepareTakesMissingRequest (bus : PrepareAnswers) (a : UploadArgs) : Bool :=
  if bus.busCtx then
    match nonEmpty a.fileType with
    | none => false
    | some filetype =>
      if hasText filetype "2 Vendor Log File" || hasText filetype "4 Vendor Log File 1" then false
      else if hasText filetype "4 Vendor Log File" then takesMissingRequest false a
      else false
  else false

variable (lib : UploadLibrary)

/-- The call an upload comes to: at once, or when the self-test that was begun is over. -/
def uploadCall (d : Uploads) (bus : PrepareAnswers) (status : ℤ) (a : UploadArgs) :
    Option VendorFileCall :=
  match d.filetransferUploadPrepare lib bus a with
  | (d', call) =>
    if d'.selftestRequests = d.selftestRequests then call
    else (d'.filetransferUploadSelftestCallDone lib true status a bus.call bus.now).2

end Uploads

/-- Nothing goes wrong with an upload but, perhaps, its routing. -/
structure UploadGoesWell (bus : PrepareAnswers) (status : ℤ) (a : UploadArgs)
    (url username password : String) : Prop where
  busCtx : bus.busCtx = true
  request : bus.request = true
  call : bus.call = 0
  status : status = 0
  index : a.index ≠ 0
  readUrl : a.url = some url
  url_ne : url ≠ ""
  readUsername : a.username = some username
  readPassword : a.password = some password

namespace VendorFileType

/-! ### The property and the condition -/

/-- **A file type that is routed as it should be**: its index is its number; a self-test comes
first only for the first log file; every call that is made is the one meant, and it is made if
nothing goes wrong; and no request is taken off its list that there is not. -/
structure RoutedRight (lib : UploadLibrary) (t : VendorFileType) : Prop where
  index : (vendorfileGetIndex lib t.text).toInt = t.index
  selftest : ∀ (d : Uploads) (bus : PrepareAnswers) (a : UploadArgs),
    a.fileType = some t.text → bus.busCtx = true → bus.request = true →
      ((d.filetransferUploadPrepare lib bus a).1.selftestRequests = d.selftestRequests ++ [a] ↔
        t.file = .log ∧ t.index = 1)
  call : ∀ (d : Uploads) (bus : PrepareAnswers) (status : ℤ) (a : UploadArgs)
    (call : VendorFileCall), a.fileType = some t.text →
      d.uploadCall lib bus status a = some call → call.path = t.path ∧ call.method = t.method
  made : ∀ (d : Uploads) (bus : PrepareAnswers) (status : ℤ) (a : UploadArgs)
    (url username password : String), a.fileType = some t.text →
      UploadGoesWell bus status a url username password →
        d.uploadCall lib bus status a = some ⟨t.path, t.method, url, username, password⟩
  request : ∀ (bus : PrepareAnswers) (a : UploadArgs), a.fileType = some t.text →
    Uploads.prepareTakesMissingRequest bus a = false

/-- The decimal text of the number begins with a 1. -/
def LeadingOne (n : ℕ) : Prop := ['1'] <+: Nat.toDigits 10 n

/-- **The condition**: the file type has no number; or it is of a configuration file whose
number is 1 or does not begin with a 1, and fits; or it is of the first log file. -/
def Routable (t : VendorFileType) : Prop :=
  ∀ n, t.number = some n →
    match t.file with
    | .config => (n.1 = 1 ∨ ¬ LeadingOne n.1) ∧ n.1 < 2 ^ 31
    | .log => n.1 = 1

/-! ### The searches -/

/-- What comes after the V, up to the number. -/
def body : VendorFile → CString
  | .config =>
    ['e', 'n', 'd', 'o', 'r', ' ', 'C', 'o', 'n', 'f', 'i', 'g', 'u', 'r', 'a', 't', 'i', 'o', 'n',
      ' ', 'F', 'i', 'l', 'e']
  | .log => ['e', 'n', 'd', 'o', 'r', ' ', 'L', 'o', 'g', ' ', 'F', 'i', 'l', 'e']

/-- The digit in front, for a file type with a number. -/
def digit : VendorFile → Char
  | .config => '3'
  | .log => '4'

variable {lib : WordLibrary} {n : { n : ℕ // 0 < n }} {file : VendorFile}

/-- **A search among texts with one V**: the digits in front are the same, and the texts go on in
the same way. -/
theorem hasText_iff {s t : String} {d d' : Char} {b b' : CString}
    (hs : s.toList = d :: ' ' :: 'V' :: b) (ht : t.toList = d' :: ' ' :: 'V' :: b')
    (hd : d ≠ 'V') (hb : 'V' ∉ b) : hasText s t = true ↔ d' = d ∧ b' <+: b := by
  have hpre : 'V' ∉ [d, ' '] := by
    simp only [List.mem_cons, List.not_mem_nil, or_false, not_or]
    exact ⟨Ne.symm hd, by decide⟩
  have hmark : [d', ' '] ++ 'V' :: b' <:+: [d, ' '] ++ 'V' :: b ↔
      [d', ' '] <:+ [d, ' '] ∧ b' <+: b := CString.append_cons_infix_iff hpre hb
  rw [hasText, CString.strstr_isSome, hs, ht]
  refine hmark.trans (and_congr_left fun _ => ⟨fun h => ?_, fun h => h ▸ List.suffix_rfl⟩)
  have heq := h.eq_of_length rfl
  exact (List.cons.inj heq).1

theorem mark_not_mem : 'V' ∉ body file ++ ' ' :: Nat.toDigits 10 n := by
  have hbody : 'V' ∉ body file := by cases file <;> decide
  have hdigits := CString.not_mem_toDigits (c := 'V') (by decide) n.1
  simp only [List.mem_append, List.mem_cons, not_or]
  exact ⟨hbody, by decide, hdigits⟩

theorem toList_text :
    (text ⟨file, some n⟩).toList = digit file :: ' ' :: 'V' :: (body file ++ ' ' ::
      Nat.toDigits 10 n) := by
  have hconfig : "3 Vendor Configuration File ".toList =
      '3' :: ' ' :: 'V' :: (body .config ++ [' ']) := by decide
  have hlog : "4 Vendor Log File ".toList = '4' :: ' ' :: 'V' :: (body .log ++ [' ']) := by decide
  have hdigits : (toString n.1).toList = Nat.toDigits 10 n := Nat.toList_repr
  cases file
  · rw [text, String.toList_append, hconfig, hdigits]
    simp [digit]
  · rw [text, String.toList_append, hlog, hdigits]
    simp [digit]

/-- A search for a text with another digit in front finds nothing. -/
theorem hasText_other {t : String} {d' : Char} {b' : CString}
    (ht : t.toList = d' :: ' ' :: 'V' :: b') (hd' : d' ≠ digit file) :
    hasText (text ⟨file, some n⟩) t = false := by
  have hd : digit file ≠ 'V' := by cases file <;> decide
  rw [← Bool.not_eq_true, hasText_iff toList_text ht hd mark_not_mem]
  exact fun h => hd' h.1

/-- A search for the text without the number finds it. -/
theorem hasText_plain {t : String} (ht : t.toList = digit file :: ' ' :: 'V' :: body file) :
    hasText (text ⟨file, some n⟩) t = true := by
  have hd : digit file ≠ 'V' := by cases file <;> decide
  rw [hasText_iff toList_text ht hd mark_not_mem]
  exact ⟨rfl, List.prefix_append _ _⟩

/-- **A search for the text of the first file** finds every number that begins with a 1. -/
theorem hasText_first {t : String}
    (ht : t.toList = digit file :: ' ' :: 'V' :: (body file ++ [' ', '1'])) :
    hasText (text ⟨file, some n⟩) t = decide (['1'] <+: Nat.toDigits 10 n) := by
  have hd : digit file ≠ 'V' := by cases file <;> decide
  rw [Bool.eq_iff_iff, hasText_iff toList_text ht hd mark_not_mem, decide_eq_true_eq,
    List.prefix_append_right_inj, List.cons_prefix_cons]
  exact ⟨fun h => h.2.2, fun h => ⟨rfl, rfl, h⟩⟩

/-! ### The index -/

/-- The digits of a number are read back. -/
theorem atoi_toDigits {m : ℕ} : atoi (String.ofList (Nat.toDigits 10 m)) = Int32.ofNat m := by
  have hall : (Nat.toDigits 10 m).takeWhile Char.isDigit = Nat.toDigits 10 m :=
    List.takeWhile_eq_self_iff.mpr fun c hc =>
      Nat.isDigit_of_mem_toDigits (by decide) (by decide) hc
  have hread : (Nat.toDigits 10 m).foldl (fun n c => 10 * n + (c.toNat - 48)) 0 = m :=
    Nat.ofDigitChars_ten_toDigits
  rw [atoi, String.toList_ofList, hall, hread]

/-- The words of a file type, up to the number. -/
def words : VendorFile → List CString
  | .config =>
    [['3'], ['V', 'e', 'n', 'd', 'o', 'r'],
      ['C', 'o', 'n', 'f', 'i', 'g', 'u', 'r', 'a', 't', 'i', 'o', 'n'], ['F', 'i', 'l', 'e']]
  | .log =>
    [['4'], ['V', 'e', 'n', 'd', 'o', 'r'], ['L', 'o', 'g'], ['F', 'i', 'l', 'e']]

/-- The last word is the number, and has eight words and blanks before it. -/
theorem split_text : (lib.amxcStringSplitWord (text ⟨file, some n⟩))[8]? =
    some (String.ofList (Nat.toDigits 10 n)) := by
  have htext : text ⟨file, some n⟩ =
      String.ofList ([' '].intercalate (words file ++ [Nat.toDigits 10 n])) := by
    rw [← String.toList_inj, toList_text, String.toList_ofList]
    cases file <;> simp [words, digit, body, List.intercalate]
  have hwords : ∀ w ∈ words file ++ [Nat.toDigits 10 n], w ≠ [] ∧ ' ' ∉ w := by
    intro w hw
    rcases List.mem_append.mp hw with hw | hw
    · have hall : ∀ w ∈ words file, w ≠ [] ∧ ' ' ∉ w := by cases file <;> decide
      exact hall w hw
    · obtain rfl := List.mem_singleton.mp hw
      exact ⟨Nat.toDigits_ne_nil, CString.not_mem_toDigits (by decide) n.1⟩
  rw [htext, lib.amxcStringSplitWord_eq _ hwords]
  cases file <;> rfl

/-- What is searched for in a file type. -/
structure Searches (s : String) (log2 log41 log4 config1 config31 config3 : Bool) : Prop where
  log2 : hasText s "2 Vendor Log File" = log2
  log41 : hasText s "4 Vendor Log File 1" = log41
  log4 : hasText s "4 Vendor Log File" = log4
  config1 : hasText s "1 Vendor Configuration File" = config1
  config31 : hasText s "3 Vendor Configuration File 1" = config31
  config3 : hasText s "3 Vendor Configuration File" = config3

section Literals

theorem toList_log2 : "2 Vendor Log File".toList = '2' :: ' ' :: 'V' :: body .log := by decide

theorem toList_log41 :
    "4 Vendor Log File 1".toList = '4' :: ' ' :: 'V' :: (body .log ++ [' ', '1']) := by decide

theorem toList_log4 : "4 Vendor Log File".toList = '4' :: ' ' :: 'V' :: body .log := by decide

theorem toList_config1 :
    "1 Vendor Configuration File".toList = '1' :: ' ' :: 'V' :: body .config := by decide

theorem toList_config31 : "3 Vendor Configuration File 1".toList =
    '3' :: ' ' :: 'V' :: (body .config ++ [' ', '1']) := by decide

theorem toList_config3 :
    "3 Vendor Configuration File".toList = '3' :: ' ' :: 'V' :: body .config := by decide

end Literals

instance instDecidableLeadingOne (m : ℕ) : Decidable (LeadingOne m) :=
  inferInstanceAs (Decidable (_ <+: _))

theorem searches_config :
    Searches (text ⟨.config, some n⟩) false false false false (LeadingOne n) true where
  log2 := hasText_other toList_log2 (by decide)
  log41 := hasText_other toList_log41 (by decide)
  log4 := hasText_other toList_log4 (by decide)
  config1 := hasText_other toList_config1 (by decide)
  config31 := hasText_first toList_config31
  config3 := hasText_plain toList_config3

theorem searches_log :
    Searches (text ⟨.log, some n⟩) false (LeadingOne n) true false false false where
  log2 := hasText_other toList_log2 (by decide)
  log41 := hasText_first toList_log41
  log4 := hasText_plain toList_log4
  config1 := hasText_other toList_config1 (by decide)
  config31 := hasText_other toList_config31 (by decide)
  config3 := hasText_other toList_config3 (by decide)

/-- The search in a file type without a number. -/
theorem hasText_of_none {t : String} {d' : Char} {b' : CString}
    (ht : t.toList = d' :: ' ' :: 'V' :: b') :
    hasText (text ⟨.config, none⟩) t = decide (d' = '1' ∧ b' <+: body .config) ∧
      hasText (text ⟨.log, none⟩) t = decide (d' = '2' ∧ b' <+: body .log) := by
  refine ⟨Bool.eq_iff_iff.mpr ?_, Bool.eq_iff_iff.mpr ?_⟩
  · rw [decide_eq_true_eq]
    exact hasText_iff toList_config1 ht (by decide) (by decide)
  · rw [decide_eq_true_eq]
    exact hasText_iff toList_log2 ht (by decide) (by decide)

theorem searches_config_none :
    Searches (text ⟨.config, none⟩) false false false true false false where
  log2 := (hasText_of_none toList_log2).1.trans (by decide)
  log41 := (hasText_of_none toList_log41).1.trans (by decide)
  log4 := (hasText_of_none toList_log4).1.trans (by decide)
  config1 := (hasText_of_none toList_config1).1.trans (by decide)
  config31 := (hasText_of_none toList_config31).1.trans (by decide)
  config3 := (hasText_of_none toList_config3).1.trans (by decide)

theorem hasText_log2_none : hasText (text ⟨.log, none⟩) "2 Vendor Log File" = true :=
  (hasText_of_none toList_log2).2.trans (by decide)

theorem text_ne {t : VendorFileType} : t.text ≠ "" := by
  rcases t with ⟨file, - | n⟩
  · cases file <;> decide
  · intro h
    have hlist := congrArg String.toList h
    rw [toList_text] at hlist
    cases hlist

/-- **The index of a file type with a number**: 1 for all that begin with that digit. -/
theorem vendorfileGetIndex_some :
    vendorfileGetIndex lib.toUploadLibrary (text ⟨file, some n⟩) =
      if LeadingOne n then 1 else Int32.ofNat n := by
  have hnumeric : lib.amxcStringIsNumeric (String.ofList (Nat.toDigits 10 n)) = true :=
    lib.amxcStringIsNumeric_of_digits _ Nat.toDigits_ne_nil fun c hc =>
      Nat.isDigit_of_mem_toDigits (by decide) (by decide) hc
  rw [vendorfileGetIndex, if_neg text_ne, split_text]
  dsimp only
  rw [if_pos hnumeric, atoi_toDigits]
  cases file
  · rw [searches_config.log2, searches_config.log41, searches_config.config1,
      searches_config.config31, searches_config.config3]
    simp
  · rw [searches_log.log2, searches_log.log41, searches_log.config1, searches_log.config31,
      searches_log.log4]
    simp

/-- Without a number it is the first file. -/
theorem vendorfileGetIndex_none :
    vendorfileGetIndex lib.toUploadLibrary (text ⟨file, none⟩) = 1 := by
  cases file
  · have hconfig : hasText "1 Vendor Configuration File" "1 Vendor Configuration File" = true :=
      searches_config_none.config1
    simp [vendorfileGetIndex, text, hconfig]
  · have hlog : hasText "2 Vendor Log File" "2 Vendor Log File" = true := hasText_log2_none
    simp [vendorfileGetIndex, text, hlog]

/-! ### The branches -/

section Branches

variable {l : UploadLibrary} {d : Uploads} {bus : PrepareAnswers} {a : UploadArgs} {status : ℤ}
variable {number : Option { n : ℕ // 0 < n }} {call : VendorFileCall}

/-- The file types whose upload begins with a self-test: the first log file's, and all whose
number begins with a 1. -/
def SelftestFirst (t : VendorFileType) : Prop :=
  t.file = .log ∧ ∀ n, t.number = some n → LeadingOne n.1

instance instDecidableSelftestFirst (t : VendorFileType) : Decidable t.SelftestFirst :=
  decidable_of_iff (t.file = .log ∧ t.number.all (fun n => decide (LeadingOne n.1)) = true) <|
    and_congr_right fun _ => by
      rw [Option.all_eq_true]
      exact forall₂_congr fun n _ => decide_eq_true_iff

/-- Any other log file has a number. -/
theorem exists_number_of_log (h : ¬ SelftestFirst ⟨.log, number⟩) :
    ∃ n, number = some n ∧ ¬ LeadingOne n.1 := by
  by_contra hall
  exact h ⟨rfl, fun n hn => by_contra fun hone => hall ⟨n, hn, hone⟩⟩

theorem nonEmpty_text {t : VendorFileType} (ha : a.fileType = some t.text) :
    nonEmpty a.fileType = some t.text :=
  UploadSystem.nonEmpty_eq_some.mpr ⟨ha, text_ne⟩

/-- **A configuration file** is backed up at once. -/
theorem prepare_config (ha : a.fileType = some (text ⟨.config, number⟩))
    (hbus : bus.busCtx = true) :
    d.filetransferUploadPrepare l bus a = d.uploadVendorConfigFile l a bus.call bus.now := by
  have hsearch : ∃ config1 config31 config3,
      Searches (text ⟨.config, number⟩) false false false config1 config31 config3 ∧
        (config1 || config3) = true := by
    rcases number with - | n
    · exact ⟨true, false, false, searches_config_none, rfl⟩
    · exact ⟨false, LeadingOne n, true, searches_config, rfl⟩
  obtain ⟨config1, config31, config3, hs, hconfig⟩ := hsearch
  rw [Uploads.filetransferUploadPrepare, if_pos hbus, nonEmpty_text ha]
  dsimp only
  rw [hs.log2, hs.log41, hs.log4, hs.config1, hs.config3, hconfig]
  rfl

/-- **A log file that is taken for the first one** waits for a self-test. -/
theorem prepare_selftest {t : VendorFileType} (ha : a.fileType = some t.text)
    (ht : t.SelftestFirst) (hbus : bus.busCtx = true) :
    d.filetransferUploadPrepare l bus a =
      if bus.request then ({ d with selftestRequests := d.selftestRequests ++ [a] }, none)
      else (d, none) := by
  have hsearch : (hasText t.text "2 Vendor Log File" || hasText t.text "4 Vendor Log File 1") =
      true := by
    rcases t with ⟨file, - | n⟩
    · obtain ⟨rfl, -⟩ := ht
      rw [hasText_log2_none, Bool.true_or]
    · obtain ⟨rfl, hone⟩ := ht
      rw [searches_log.log41, decide_eq_true (hone n rfl), Bool.or_true]
  rw [Uploads.filetransferUploadPrepare, if_pos hbus, nonEmpty_text ha]
  dsimp only
  rw [hsearch, if_pos rfl]

/-- **Any other log file** goes on as if its self-test were over. -/
theorem prepare_log (ha : a.fileType = some (text ⟨.log, some n⟩)) (hn : ¬ LeadingOne n.1)
    (hbus : bus.busCtx = true) :
    d.filetransferUploadPrepare l bus a =
      d.filetransferUploadSelftestCallDone l false 0 a bus.call bus.now := by
  rw [Uploads.filetransferUploadPrepare, if_pos hbus, nonEmpty_text ha]
  dsimp only
  rw [searches_log.log2, searches_log.log41, searches_log.log4, decide_eq_false hn]
  rfl

/-! ### The calls -/

theorem callVendorFile_call {ready : Bool} {object method : String} {retval : ℤ}
    {now time : String} :
    (d.callVendorFile l a ready object method retval now time).2 =
      if ready = true ∧ retval = 0 then Uploads.checkedArgs l a object method else none := by
  rw [Uploads.callVendorFile]
  cases ready
  · simp
  · rcases Uploads.checkedArgs l a object method with - | args
    · simp
    · by_cases hretval : retval = 0 <;> simp [hretval]

theorem callVendorFile_selftestRequests {ready : Bool} {object method : String} {retval : ℤ}
    {now time : String} :
    (d.callVendorFile l a ready object method retval now time).1.selftestRequests =
      d.selftestRequests := by
  rw [Uploads.callVendorFile]
  split
  · split <;> rfl
  · rfl

theorem selftestCallDone_call {req : Bool} {retval : ℤ} {now : String} :
    (d.filetransferUploadSelftestCallDone l req status a retval now).2 =
      if a.index ≠ 0 ∧ status = 0 ∧ retval = 0 then
        Uploads.checkedArgs l a (object .log) "Upload"
      else none := by
  rw [Uploads.filetransferUploadSelftestCallDone]
  by_cases hindex : a.index = 0
  · simp [hindex]
  · rw [if_neg hindex]
    dsimp only
    rw [callVendorFile_call]
    simp [hindex, object]

theorem vendorConfigFile_call {retval : ℤ} {now : String} :
    (d.uploadVendorConfigFile l a retval now).2 =
      if a.index ≠ 0 ∧ retval = 0 then Uploads.checkedArgs l a (object .config) "Backup"
      else none := by
  rw [Uploads.uploadVendorConfigFile]
  by_cases hindex : a.index = 0
  · simp [hindex]
  · rw [if_neg hindex, callVendorFile_call]
    simp [hindex, object]

theorem vendorConfigFile_selftestRequests {retval : ℤ} {now : String} :
    (d.uploadVendorConfigFile l a retval now).1.selftestRequests = d.selftestRequests := by
  rw [Uploads.uploadVendorConfigFile]
  split
  · rfl
  · exact callVendorFile_selftestRequests

theorem selftestCallDone_selftestRequests {retval : ℤ} {now : String} :
    (d.filetransferUploadSelftestCallDone l false status a retval now).1.selftestRequests =
      d.selftestRequests := by
  rw [Uploads.filetransferUploadSelftestCallDone]
  split
  · rfl
  · dsimp only
    rw [if_neg Bool.false_ne_true]
    exact callVendorFile_selftestRequests

/-- **What an upload calls**, as far as the bus lets it: the arguments are checked once, and the
object and the method are those of the file. -/
theorem uploadCall_eq {t : VendorFileType} (ha : a.fileType = some t.text) :
    d.uploadCall l bus status a =
      if bus.busCtx = true ∧ a.index ≠ 0 ∧ bus.call = 0 ∧
          (t.SelftestFirst → bus.request = true ∧ status = 0) then
        Uploads.checkedArgs l a (object t.file) t.method
      else none := by
  rw [Uploads.uploadCall]
  by_cases hbus : bus.busCtx = true
  · by_cases ht : t.SelftestFirst
    · rw [prepare_selftest ha ht hbus]
      by_cases hrequest : bus.request = true
      · have hgrown : d.selftestRequests ++ [a] ≠ d.selftestRequests := by simp
        rw [if_pos hrequest]
        dsimp only
        rw [if_neg hgrown, selftestCallDone_call]
        simp [hbus, hrequest, ht, method, ht.1, and_comm]
      · rw [if_neg hrequest]
        simp [hrequest, ht]
    · rcases t with ⟨file, number⟩
      cases file
      · rw [prepare_config ha hbus]
        dsimp only
        rw [if_pos vendorConfigFile_selftestRequests, vendorConfigFile_call]
        simp [hbus, ht, method]
      · obtain ⟨n, rfl, hone⟩ := exists_number_of_log ht
        rw [prepare_log ha hone hbus]
        dsimp only
        rw [if_pos selftestCallDone_selftestRequests, selftestCallDone_call]
        simp [hbus, ht, method]
  · rw [Uploads.filetransferUploadPrepare, if_neg hbus]
    simp [hbus]

/-- A self-test is begun exactly for the file types that are taken for the first log file. -/
theorem selftestRequests_iff {t : VendorFileType} (ha : a.fileType = some t.text)
    (hbus : bus.busCtx = true) (hrequest : bus.request = true) :
    (d.filetransferUploadPrepare l bus a).1.selftestRequests = d.selftestRequests ++ [a] ↔
      t.SelftestFirst := by
  have hgrown : d.selftestRequests ≠ d.selftestRequests ++ [a] := by simp
  by_cases ht : t.SelftestFirst
  · rw [prepare_selftest ha ht hbus, if_pos hrequest]
    exact iff_of_true rfl ht
  · refine iff_of_false (fun h => hgrown (Eq.trans (Eq.symm ?_) h)) ht
    rcases t with ⟨file, number⟩
    cases file
    · rw [prepare_config ha hbus]
      exact vendorConfigFile_selftestRequests
    · obtain ⟨n, rfl, hone⟩ := exists_number_of_log ht
      rw [prepare_log ha hone hbus]
      exact selftestCallDone_selftestRequests

/-- **The request that is not there** is taken off its list for every log file that is not taken
for the first one. -/
theorem prepareTakesMissingRequest_eq {t : VendorFileType} (ha : a.fileType = some t.text) :
    Uploads.prepareTakesMissingRequest bus a =
      decide (bus.busCtx = true ∧ t.file = .log ∧ ¬ t.SelftestFirst ∧ a.index ≠ 0) := by
  rw [Uploads.prepareTakesMissingRequest, nonEmpty_text ha]
  by_cases hbus : bus.busCtx = true
  · rw [if_pos hbus]
    dsimp only
    rcases t with ⟨file, - | n⟩
    · cases file
      · rw [searches_config_none.log2, searches_config_none.log41, searches_config_none.log4]
        simp
      · rw [hasText_log2_none]
        simp [SelftestFirst]
    · cases file
      · rw [searches_config.log2, searches_config.log41, searches_config.log4]
        simp
      · rw [searches_log.log2, searches_log.log41, searches_log.log4]
        simp [Uploads.takesMissingRequest, SelftestFirst, hbus]
  · rw [if_neg hbus]
    simp [hbus]

/-- What is called stands under the index of the file type. -/
theorem checkedArgs_call {t : VendorFileType} {object method : String}
    (ha : a.fileType = some t.text)
    (h : Uploads.checkedArgs l a object method = some call) :
    call.path = object ++ toString (vendorfileGetIndex l t.text) ∧ call.method = method := by
  simp only [Uploads.checkedArgs, nonEmpty_text ha, Option.bind_eq_bind, Option.bind_some,
    Option.bind_eq_some_iff] at h
  obtain ⟨_, -, _, -, _, -, _, -, hcall⟩ := h
  obtain rfl := Option.some.inj hcall
  exact ⟨rfl, rfl⟩

/-- With arguments that can be read the call is made. -/
theorem checkedArgs_of_goesWell {t : VendorFileType} {object method url username password : String}
    (ha : a.fileType = some t.text) (hindex : vendorfileGetIndex l t.text ≠ 0)
    (h : UploadGoesWell bus status a url username password) :
    Uploads.checkedArgs l a object method = some
      ⟨object ++ toString (vendorfileGetIndex l t.text), method, url, username, password⟩ := by
  have hurl : nonEmpty a.url = some url := UploadSystem.nonEmpty_eq_some.mpr ⟨h.readUrl, h.url_ne⟩
  rw [Uploads.checkedArgs, nonEmpty_text ha, hurl, h.readUsername, h.readPassword]
  simp [hindex]

end Branches

/-! ### Which file types are routed right -/

/-- A number that fits is written as itself. -/
theorem toString_of_toInt {i : Int32} {m : ℕ} (h : i.toInt = m) : toString i = toString m := by
  have hstring : toString i = toString i.toInt := rfl
  rw [hstring, h]
  rfl

theorem index_some : index ⟨file, some n⟩ = n.1 := rfl

theorem index_pos (t : VendorFileType) : 0 < t.index := by
  rcases t with ⟨file, - | n⟩
  · exact Nat.one_pos
  · exact n.2

/-- The index of a file type is its number under the condition. -/
theorem index_of_routable {t : VendorFileType} (ht : t.Routable) :
    (vendorfileGetIndex lib.toUploadLibrary t.text).toInt = t.index := by
  rcases t with ⟨file, - | n⟩
  · rw [vendorfileGetIndex_none]
    rfl
  · rw [vendorfileGetIndex_some, index_some]
    have hn := ht n rfl
    by_cases hone : LeadingOne n.1
    · have heq : n.1 = 1 := by
        cases file
        · exact hn.1.resolve_right fun h => h hone
        · exact hn
      rw [if_pos hone, heq]
      rfl
    · have hlt : n.1 < 2 ^ 31 := by
        cases file
        · exact hn.2
        · have heq : n.1 = 1 := hn
          omega
      rw [if_neg hone]
      exact Int32.toInt_ofNat_of_lt hlt

/-- Under the condition it is for the first log file alone that a self-test comes first. -/
theorem selftestFirst_iff_of_routable {t : VendorFileType} (ht : t.Routable) :
    t.SelftestFirst ↔ t.file = .log ∧ t.index = 1 := by
  refine and_congr_right fun hfile => ?_
  rcases t with ⟨file, - | n⟩
  · exact iff_of_true (fun n h => absurd h nofun) rfl
  · obtain rfl : file = .log := hfile
    have heq : n.1 = 1 := ht n rfl
    refine iff_of_true (fun m hm => ?_) heq
    obtain rfl := Option.some.inj hm
    rw [heq]
    decide

/-- A log file is the first one under the condition. -/
theorem index_eq_one_of_log {t : VendorFileType} (ht : t.Routable) (hfile : t.file = .log) :
    t.index = 1 := by
  rcases t with ⟨file, - | n⟩
  · rfl
  · obtain rfl : file = .log := hfile
    exact ht n rfl

/-- **Which file types are routed as they should be**: those without a number; those of
configuration files but the ones whose number begins with a 1 and is longer; and, of the log
files with a number, the first one alone. -/
theorem routedRight_iff (lib : WordLibrary) (t : VendorFileType) :
    RoutedRight lib.toUploadLibrary t ↔ t.Routable := by
  constructor
  · intro h n hnumber
    rcases t with ⟨file, number⟩
    obtain rfl : number = some n := hnumber
    have hindex := h.index
    rw [vendorfileGetIndex_some, index_some] at hindex
    have hfirst : LeadingOne n.1 → n.1 = 1 := fun hone => by
      rw [if_pos hone] at hindex
      exact (Int.ofNat.inj hindex).symm
    cases file
    · refine ⟨?_, ?_⟩
      · by_cases hone : LeadingOne n.1
        · exact Or.inl (hfirst hone)
        · exact Or.inr hone
      · have hlt := (if LeadingOne n.1 then 1 else Int32.ofNat n.1).toInt_lt
        rw [hindex] at hlt
        exact Int.ofNat_lt.mp hlt
    · -- a log file of another number comes to the request that is not there
      by_contra hne
      have hother : ¬ SelftestFirst ⟨.log, some n⟩ := fun hself => hne (hfirst (hself.2 n rfl))
      have hmissing := h.request ⟨true, true, 0, ""⟩
        ⟨1, some (text ⟨.log, some n⟩), none, none, none⟩ rfl
      rw [prepareTakesMissingRequest_eq rfl, decide_eq_false_iff_not] at hmissing
      have hone : (1 : UInt32) ≠ 0 := by decide
      exact hmissing ⟨rfl, rfl, hother, hone⟩
  · intro ht
    have hindex : (vendorfileGetIndex lib.toUploadLibrary t.text).toInt = t.index :=
      index_of_routable ht
    have hselftest := selftestFirst_iff_of_routable ht
    refine ⟨hindex, ?_, ?_, ?_, ?_⟩
    · intro d bus a ha hbus hrequest
      rw [selftestRequests_iff ha hbus hrequest, hselftest]
    · intro d bus status a call ha hcall
      rw [uploadCall_eq ha] at hcall
      split at hcall
      · obtain ⟨hpath, hmethod⟩ := checkedArgs_call ha hcall
        rw [toString_of_toInt hindex] at hpath
        exact ⟨hpath, hmethod⟩
      · cases hcall
    · intro d bus status a url username password ha hwell
      have hne : vendorfileGetIndex lib.toUploadLibrary t.text ≠ 0 := by
        intro hzero
        rw [hzero] at hindex
        exact absurd (Int.ofNat.inj hindex) (Nat.ne_of_lt t.index_pos)
      rw [uploadCall_eq ha, if_pos ⟨hwell.busCtx, hwell.index, hwell.call,
        fun _ => ⟨hwell.request, hwell.status⟩⟩, checkedArgs_of_goesWell ha hne hwell,
        toString_of_toInt hindex]
      rfl
    · intro bus a ha
      rw [prepareTakesMissingRequest_eq ha, decide_eq_false_iff_not]
      rintro ⟨-, hfile, hother, -⟩
      exact hother (hselftest.mpr ⟨hfile, index_eq_one_of_log ht hfile⟩)

/-- The configuration file with the number 12 is taken for the first one. -/
theorem config12_not_routedRight :
    ¬ ∀ (lib : WordLibrary) (t : VendorFileType), RoutedRight lib.toUploadLibrary t := by
  intro h
  have hindex := (h wordLibrary ⟨.config, some ⟨12, by decide⟩⟩).index
  have hfirst : vendorfileGetIndex wordLibrary.toUploadLibrary
      (text ⟨.config, some ⟨12, by decide⟩⟩) = 1 := by decide +kernel
  rw [hfirst] at hindex
  exact absurd hindex (by decide)

end VendorFileType

end Tr069
