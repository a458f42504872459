import Tr069Manager.AcsAddress.Dns
import Tr069Manager.Lib.MachineInt

/-!
# When the next look-up comes

An answer with addresses arms the timer for the next look-up: with the lowest TTL, or with the
interval of the periodic inform where there is none that counts (`cwmp_dns_schedule` of
`dmmain/cwmpd_dns.c`). The seconds go through three conversions on their way. The interval is an
unsigned number of the configuration that `atoi` reads from its text; the seconds are multiplied
by 1000 as an `int`; and the product is given to the timer as an `unsigned int`. None of them is
guarded. A product that an `int` cannot hold is undefined, and so nothing is said here of what the
timer is given then (`Tr069.Dns.Given`).

The lowest TTL itself is right, whatever the answer is: the loop begins with the greatest `int`,
and that is what is left where no node has an address (`Tr069.Dns.readAi_dnsTtlVal`). So the delay
is exact as long as the seconds are not more than 2147483, which is less than 25 days
(`Tr069.Dns.delayExact_iff`).
-/

namespace Tr069

namespace Dns

/-! ### What is wanted -/

/-- The TTLs of the addresses of an answer. -/
def ttlsOf (nodes : List AddrinfoNode) : List ℤ :=
  (nodes.filter fun node => node.ip ≠ []).map fun node => node.ttl.toInt

/-- The seconds until the next look-up: the smallest TTL if it is positive and below `INT_MAX`,
otherwise the interval of the periodic inform, or 300 if that cannot be read. -/
def lookupSeconds (nodes : List AddrinfoNode) (interval : Option UInt32) : ℕ :=
  match (ttlsOf nodes).min?.filter fun ttl => 0 < ttl ∧ ttl < 2147483647 with
  | some ttl => ttl.toNat
  | none => (interval.map UInt32.toNat).getD 300

/-- What the timer may be given for so many seconds: their milliseconds, if an `int` can hold
them. -/
def Given (seconds : Int32) (ms : UInt32) : Prop :=
  -2 ^ 31 ≤ seconds.toInt * 1000 → seconds.toInt * 1000 < 2 ^ 31 →
    ms = (seconds * 1000).toUInt32

/-- **The property**: after an answer, whatever the timer is given is the wanted delay in
milliseconds, and not zero. -/
def DelayExact (s : Dns) (nodes : List AddrinfoNode) (interval : Option UInt32) : Prop :=
  ∀ ms, Given (((s.readAi nodes).updateDm).schedule).dnsTtlVal ms →
    ms.toNat = 1000 * lookupSeconds nodes interval ∧ 0 < ms.toNat

/-- What the timer is armed with is one of the things it may be given. -/
theorem given_schedule (s : Dns) :
    ∃ ms, Given s.schedule.dnsTtlVal ms ∧ s.schedule.dnsTtlTimer = some ms.toNat :=
  ⟨_, fun _ _ => rfl, rfl⟩

/-! ### The lowest TTL -/

theorem foldl_min_eq {l : List ℤ} {a : ℤ} : l.foldl min a = (l.min?.map (min a)).getD a := by
  rcases l with - | ⟨b, l⟩
  · rfl
  · rw [List.min?_cons', Option.map_some, Option.getD_some, List.foldl_cons]
    exact List.foldl_assoc

/-- The loop over the nodes keeps the lowest of what it began with and the TTLs. -/
theorem foldl_readNode_dnsTtlVal (nodes : List AddrinfoNode) (s : Dns) :
    (nodes.foldl readNode s).dnsTtlVal.toInt = (ttlsOf nodes).foldl min s.dnsTtlVal.toInt := by
  induction nodes generalizing s with
  | nil => rfl
  | cons node nodes ih =>
    rw [List.foldl_cons, ih, readNode]
    by_cases hip : node.ip = []
    · have hskip : ttlsOf (node :: nodes) = ttlsOf nodes := by
        rw [ttlsOf, List.filter_cons_of_neg (by simp [hip])]
        rfl
      rw [if_pos hip, hskip]
    · have htake : ttlsOf (node :: nodes) = node.ttl.toInt :: ttlsOf nodes := by
        rw [ttlsOf, List.filter_cons_of_pos (by simp [hip])]
        rfl
      rw [if_neg hip, htake, List.foldl_cons]
      refine congrArg (List.foldl min · (ttlsOf nodes)) ?_
      show (if s.dnsTtlVal > node.ttl then node.ttl else s.dnsTtlVal).toInt =
        min s.dnsTtlVal.toInt node.ttl.toInt
      split
      · next hlt => exact (min_eq_right (Int32.lt_iff_toInt_lt.mp hlt).le).symm
      · next hle => exact (min_eq_left (not_lt.mp (mt Int32.lt_iff_toInt_lt.mpr hle))).symm

/-- **The lowest TTL** of the addresses, or the greatest `int` if there is no address. -/
theorem readAi_dnsTtlVal (s : Dns) (nodes : List AddrinfoNode) :
    (s.readAi nodes).dnsTtlVal.toInt = (ttlsOf nodes).min?.getD 2147483647 := by
  have hmax : Int32.maxValue.toInt = 2147483647 := Int32.toInt_maxValue
  rw [readAi, foldl_readNode_dnsTtlVal, foldl_min_eq, hmax]
  rcases hmin : (ttlsOf nodes).min? with - | ttl
  · rfl
  · have hmem : ttl ∈ ttlsOf nodes := List.min?_mem hmin
    obtain ⟨node, -, rfl⟩ := List.mem_map.mp hmem
    have hlt := Int32.toInt_lt node.ttl
    rw [Option.map_some, Option.getD_some, Option.getD_some]
    exact min_eq_right (Int.le_of_lt_add_one hlt)

/-! ### The seconds -/

section Seconds

variable {s : Dns} {nodes : List AddrinfoNode} {interval : Option UInt32} {text : AtoiLibrary}

theorem schedule_seconds :
    (((s.readAi nodes).updateDm).schedule).dnsTtlVal =
      if (s.readAi nodes).dnsTtlVal ≤ 0 ∨ (s.readAi nodes).dnsTtlVal = Int32.maxValue then
        (s.readAi nodes).reads.periodicInformInterval.getD 300
      else (s.readAi nodes).dnsTtlVal := rfl

/-- The seconds that `cwmp_dns_schedule` has before it multiplies: the wanted ones, unless they
are an interval that `atoi` reads as something else. -/
theorem schedule_dnsTtlVal
    (hreads : s.reads.periodicInformInterval = interval.map text.atoi)
    (hsmall : lookupSeconds nodes interval < 2 ^ 31) :
    (((s.readAi nodes).updateDm).schedule).dnsTtlVal.toInt = lookupSeconds nodes interval := by
  have hread : (s.readAi nodes).reads = s.reads := by
    obtain ⟨val, hval⟩ := foldl_readNode nodes
      { s with ainfoList := [], dnsTtlVal := Int32.maxValue }
    rw [readAi, hval]
  have hval := readAi_dnsTtlVal s nodes
  have hcond : ((s.readAi nodes).dnsTtlVal ≤ 0 ∨ (s.readAi nodes).dnsTtlVal = Int32.maxValue) ↔
      ((ttlsOf nodes).min?.getD 2147483647 ≤ 0 ∨ (ttlsOf nodes).min?.getD 2147483647 =
        2147483647) := by
    have hmax : Int32.maxValue.toInt = 2147483647 := Int32.toInt_maxValue
    rw [Int32.le_iff_toInt_le, ← Int32.toInt_inj, hval, hmax, Int32.toInt_zero]
  have hinterval : lookupSeconds nodes interval = (interval.map UInt32.toNat).getD 300 →
      ((s.readAi nodes).reads.periodicInformInterval.getD 300).toInt =
        lookupSeconds nodes interval := by
    intro hseconds
    rw [hread, hreads, hseconds]
    rcases interval with - | v
    · rfl
    · rw [hseconds] at hsmall
      exact text.atoi_of_lt v hsmall
  have hlt := Int32.toInt_lt (s.readAi nodes).dnsTtlVal
  rw [schedule_seconds, if_congr hcond rfl rfl]
  rcases hmin : (ttlsOf nodes).min? with - | ttl
  · have hseconds : lookupSeconds nodes interval = (interval.map UInt32.toNat).getD 300 := by
      rw [lookupSeconds, hmin]
      rfl
    rw [Option.getD_none, if_pos (Or.inr rfl)]
    exact hinterval hseconds
  · rw [hmin, Option.getD_some] at hval
    rw [Option.getD_some]
    by_cases hcounts : 0 < ttl ∧ ttl < 2147483647
    · have hseconds : lookupSeconds nodes interval = ttl.toNat := by
        rw [lookupSeconds, hmin, Option.filter_some, if_pos (by simpa using hcounts)]
      rw [if_neg (by omega), hval, hseconds, Int.toNat_of_nonneg hcounts.1.le]
    · have hseconds : lookupSeconds nodes interval = (interval.map UInt32.toNat).getD 300 := by
        rw [lookupSeconds, hmin, Option.filter_some, if_neg (by simpa using hcounts)]
      rw [if_pos (by omega)]
      exact hinterval hseconds

end Seconds

/-! ### The milliseconds -/

/-- A product that an `int` can hold is given to the timer as it is. -/
theorem toNat_product {seconds : Int32} (hpos : 0 ≤ seconds.toInt)
    (hfits : seconds.toInt * 1000 < 2 ^ 31) :
    ((seconds * 1000).toUInt32.toNat : ℤ) = seconds.toInt * 1000 := by
  have hthousand : (1000 : Int32).toInt = 1000 := rfl
  have hproduct : (seconds * 1000).toInt = seconds.toInt * 1000 := by
    rw [Int32.toInt_mul, hthousand]
    exact Int.bmod_eq_of_le (by omega) (by omega)
  have hle : 0 ≤ seconds * 1000 := by
    rw [Int32.le_iff_toInt_le, hproduct, Int32.toInt_zero]
    omega
  rw [Int32.toNat_toUInt32_of_le hle, Int32.cast_toNatClampNeg _ hle, hproduct]

/-- **The delay is exact** – the wanted number of milliseconds, and not zero – exactly if it is
between one second and 2147483 seconds, the most of which an `int` can hold the milliseconds. -/
theorem delayExact_iff (text : AtoiLibrary) (s : Dns) (nodes : List AddrinfoNode)
    (interval : Option UInt32)
    (hreads : s.reads.periodicInformInterval = interval.map text.atoi) :
    DelayExact s nodes interval ↔
      1 ≤ lookupSeconds nodes interval ∧ lookupSeconds nodes interval ≤ 2147483 := by
  constructor
  · intro h
    obtain ⟨ms, hgiven, -⟩ := given_schedule ((s.readAi nodes).updateDm)
    obtain ⟨hms, hpos⟩ := h ms hgiven
    have hbound := ms.toNat_lt
    refine ⟨by omega, ?_⟩
    by_contra hlarge
    have hval := @schedule_dnsTtlVal s nodes interval text hreads (by omega)
    -- the product does not fit, and the timer may be given anything
    obtain ⟨-, hzero⟩ := h 0 fun _ hfits => by omega
    exact absurd hzero (lt_irrefl 0)
  · rintro ⟨hone, hmax⟩ ms hgiven
    have hval := @schedule_dnsTtlVal s nodes interval text hreads (by omega)
    have hfits : (((s.readAi nodes).updateDm).schedule).dnsTtlVal.toInt * 1000 < 2 ^ 31 := by
      omega
    have hms := toNat_product (by omega) hfits
    rw [← hgiven (by omega) hfits] at hms
    omega

/-- What an answer without a cause to wrap around gives: an hour is the lowest of two TTLs. -/
theorem delayExact_iff_hour :
    DelayExact (initial ⟨none, some 86400⟩)
      [⟨"192.0.2.1".toList, 7200⟩, ⟨"192.0.2.2".toList, 3600⟩] (some 86400) :=
  (delayExact_iff AtoiLibrary.cut _ _ _ rfl).mpr (by decide)

/-- A TTL of 49 days, 17 hours, 2 minutes and 48 seconds: an `int` cannot hold its milliseconds.
Where the product wraps around, the timer is armed with 704 milliseconds. -/
theorem wraps_around_at_long_ttl :
    ((((initial ⟨none, some 86400⟩).readAi
        [⟨"192.0.2.1".toList, 4294968⟩]).updateDm).schedule).dnsTtlTimer = some 704 ∧
      ¬DelayExact (initial ⟨none, some 86400⟩) [⟨"192.0.2.1".toList, 4294968⟩] (some 86400) := by
  refine ⟨by decide, fun h => ?_⟩
  obtain ⟨hms, -⟩ := h _ fun _ _ => rfl
  revert hms
  decide

end Dns

end Tr069
