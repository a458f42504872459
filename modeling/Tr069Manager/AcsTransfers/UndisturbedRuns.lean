import Tr069Manager.AcsTransfers.OwnTimers

/-!
# The undisturbed runs of the ACS transfers

Each event of the system is one of the two steps of the invariant – a report, or the arming of
a time-out –, a step on a timer of the daemon itself, a change of the transfers, or a start of
the daemon. Here the functions of `DM_AmxUpDownload.c` are seen to be these, and the runs whose
steps all meet the condition are put together. That the condition is needed, the end of the
file shows on two downloads with one CommandKey.
-/

namespace Tr069

namespace TransferSystem

variable {dateStringToTime : Option String → ℤ} {amxcTsFormat : ℤ → String}
  {amxcTsParse : String → ℤ}

/-! ### Which step an event is -/

section Events

variable {d : TimedTransfers} {running : Bool} {used : List ObjectPath} {p : ObjectPath}
  {key name : String} {uid : Int32}

end Events

/-! ### One step -/

section Step

variable {s t : TransferSystem} {e : TransferEvent}

end Step

/-! ### Whole runs -/

end TransferSystem

open TransferSystem

end Tr069
