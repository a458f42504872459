import Mathlib.Algebra.Group.Nat.Defs
import Mathlib.Data.Int.Init
import Tr069Manager.Cookies.Jar
import Tr069Manager.Lib.StringPointer

/-!
# The loop over the tokens, pointer by pointer

In `cwmpd_cookie_cookiejar_build` (`dmmain/cwmpd_cookie.c`) one path through the body of the
loop over the tokens does not take the next token: the `continue` where no `=` is found
behind `start`. The two loops that skip white space have no end but a character that is no
space. `Tr069.handleToken` has the pointer differences as numbers of any size; here every
character is read through its pointer, the loops run on fuel, and `len` is an `int`, so that
nothing is said of a token but what the machine makes of it.

What carries the result is that the first `=` of the token is itself not a space. The loop
backwards begins on it, and stays there; the loop forwards meets it at the latest, so that
`start` is not behind it, and the search behind `start` finds it again
(`Tr069.startPointer_eq`, `Tr069.scanToken_of_mem`). That `len` may be anything for a token of
`2^31` characters or more does not matter for this. Where it fits, the body is
`Tr069.handleToken` (`Tr069.scanToken_eq_handleToken`).
-/

namespace Tr069

/-! ### The source -/

/-- `while(start && (*start) == ' ') start++`, from the first character of the token on. -/
def startPointer (fuel : Nat) (tok : CString) : Option Int :=
  CString.walkWhile ' ' 1 tok fuel 0

/-- `while(end && (*end) == ' ') end--`, from the first `=` on. -/
def endPointer (fuel : Nat) (tok : CString) (p : Nat) : Option Int :=
  CString.walkWhile ' ' (-1) tok fuel p

/-- `start` and `len`. The difference of the pointers is put into an `int`. -/
def trimToken (fuel : Nat) (tok : CString) : Option (Int × Int32) :=
  match CString.strchr tok '=' with
  | none => some (0, 0)
  | some p =>
    (startPointer fuel tok).bind fun start =>
      (endPointer fuel tok p).map fun stop => (start, Int32.ofInt (stop - start))

/-- The body of the loop, with the pointers of `trimToken`. As a `size_t` a positive `len`
is the same number. -/
def scanTrimmed (jar : CookieJar) (tok : CString) (start : Int) (len : Int32) : TokenPass :=
  let name := tok.drop start.toNat
  if 0 < len.toInt ∧
      ∀ attr ∈ cookieAttributes, CString.strncasecmp name attr len.toInt.toNat ≠ .eq then
    match CString.strchr name '=' with
    | none => .again jar
    | some equals => .next (storeCookie jar (name.take equals) (name.drop (equals + 1)))
  else .next jar

/-- The body of the loop for one token. -/
def scanToken (fuel : Nat) (jar : CookieJar) (tok : CString) : Option TokenPass :=
  (trimToken fuel tok).map fun trimmed => scanTrimmed jar tok trimmed.1 trimmed.2

/-- The loop over the tokens, where the white-space loops have the fuel `walk`. -/
def scanLoop (walk : Nat) : Nat → CookieJar → Option (CString × CString) → Option CookieJar
  | _, jar, none => some jar
  | 0, _, some _ => none
  | fuel + 1, jar, some (tok, rest) =>
    match scanToken walk jar tok with
    | none => none
    | some (.next jar') => scanLoop walk fuel jar' (CString.strtok ';' rest)
    | some (.again jar') => scanLoop walk fuel jar' (some (tok, rest))

/-- `cwmpd_cookie_cookiejar_build`, with pointers that may be `NULL`: the return value and
the jar. -/
def cookiejarBuildScan (fuel : Nat) :
    Option CookieJar → Option CString → Option (Int × Option CookieJar)
  | none, _ => some (-1, none)
  | some jar, none => some (-1, some jar)
  | some jar, some header =>
    if header = [] then some (-1, some jar)
    else (scanLoop fuel fuel jar (CString.strtok ';' header)).map fun jar' => (0, some jar')

/-! ### The pointers of a token -/

section Pointers

variable {tok : CString} {fuel p : Nat}

/-- The loop forwards ends, on the first character that is not a space or on the NUL. -/
theorem startPointer_eq (hfuel : tok.length < fuel) :
    startPointer fuel tok = some (skipSpaces tok : Int) := by
  have hwalk := CString.walkWhile_forward (c := ' ') (s := tok) (i := 0) (by decide)
    (Nat.zero_le _) hfuel
  rw [startPointer, ← Int.natCast_zero, hwalk, List.drop_zero, Nat.zero_add]
  rfl

/-- The loop backwards stays on the `=` it begins on. -/
theorem endPointer_eq (hp : CString.strchr tok '=' = some p) (hfuel : tok.length < fuel) :
    endPointer fuel tok p = some (p : Int) := by
  obtain ⟨hlt, heq, -⟩ := List.findIdx?_eq_some_iff_getElem.mp hp
  obtain ⟨fuel, rfl⟩ := Nat.exists_eq_add_one_of_ne_zero (Nat.ne_zero_of_lt hfuel)
  refine CString.walkWhile_of_getElem? (d := '=') ?_ (by decide)
  rw [List.getElem?_eq_getElem hlt, beq_iff_eq.mp heq]

/-- The first `=` is behind the spaces at the front of the token, and the first one there. -/
theorem strchr_drop_skipSpaces (hp : CString.strchr tok '=' = some p) :
    skipSpaces tok ≤ p ∧ p < tok.length ∧
      CString.strchr (tok.drop (skipSpaces tok)) '=' = some (p - skipSpaces tok) := by
  obtain ⟨hlt, heq, -⟩ := List.findIdx?_eq_some_iff_getElem.mp hp
  have hmem : '=' ∈ tok := by
    rw [← beq_iff_eq.mp heq]
    exact List.getElem_mem hlt
  have hfirst := strchr_eq hmem
  rw [hp, Option.some_inj] at hfirst
  refine ⟨by omega, hlt, List.findIdx?_eq_some_iff_findIdx_eq.mpr ⟨?_, by omega⟩⟩
  rw [List.length_drop]
  omega

theorem trimToken_of_some (hp : CString.strchr tok '=' = some p) (hfuel : tok.length < fuel) :
    trimToken fuel tok =
      some ((skipSpaces tok : Int), Int32.ofInt ((p : Int) - (skipSpaces tok : Nat))) := by
  rw [trimToken, hp]
  simp only [startPointer_eq hfuel, endPointer_eq hp hfuel, Option.bind_some, Option.map_some]

/-- Both pointers are found for every token. -/
theorem trimToken_isSome (hfuel : tok.length < fuel) : (trimToken fuel tok).isSome = true := by
  rcases hp : CString.strchr tok '=' with - | p
  · rw [trimToken, hp]
    rfl
  · rw [trimToken_of_some hp hfuel]
    rfl

end Pointers

/-! ### The body -/

section Body

variable {tok : CString} {fuel : Nat} {jar : CookieJar}

/-- A token without `=` has the length zero, and the next one is taken. -/
theorem scanToken_of_none (hp : CString.strchr tok '=' = none) :
    scanToken fuel jar tok = some (.next jar) := by
  rw [scanToken, trimToken, hp]
  rfl

/-- A token with `=`: whatever `len` is, the search behind `start` does not fail. -/
theorem scanTrimmed_next {p : Nat} (hp : CString.strchr tok '=' = some p) (jar : CookieJar)
    (len : Int32) :
    ∃ jar', scanTrimmed jar tok (skipSpaces tok : Int) len = .next jar' := by
  rw [scanTrimmed]
  simp only [Int.toNat_natCast, (strchr_drop_skipSpaces hp).2.2]
  split
  · exact ⟨_, rfl⟩
  · exact ⟨_, rfl⟩

/-- **Every token is left behind**: the body ends, and at the next call of `strtok`. -/
theorem scanToken_next (jar : CookieJar) (hfuel : tok.length < fuel) :
    ∃ jar', scanToken fuel jar tok = some (.next jar') := by
  rcases hp : CString.strchr tok '=' with - | p
  · exact ⟨jar, scanToken_of_none hp⟩
  · obtain ⟨jar', hnext⟩ := scanTrimmed_next hp jar
      (Int32.ofInt ((p : Int) - (skipSpaces tok : Nat)))
    refine ⟨jar', ?_⟩
    rw [scanToken, trimToken_of_some hp hfuel, Option.map_some, hnext]

/-- The fuel decides only whether the loops come to their ends. -/
theorem scanToken_congr {fuel' : Nat} (hfuel : tok.length < fuel) (hfuel' : tok.length < fuel') :
    scanToken fuel jar tok = scanToken fuel' jar tok := by
  rcases hp : CString.strchr tok '=' with - | p
  · rw [scanToken_of_none hp, scanToken_of_none hp]
  · rw [scanToken, scanToken, trimToken_of_some hp hfuel, trimToken_of_some hp hfuel']

/-- **Where the length fits**, the body is the one with numbers of any size. -/
theorem scanToken_eq_handleToken (hfuel : tok.length < fuel) (hfits : tok.length < 2 ^ 31) :
    scanToken fuel jar tok = handleToken jar tok := by
  rcases hp : CString.strchr tok '=' with - | p
  · rw [scanToken_of_none hp, handleToken, nameLength, hp]
    rfl
  · obtain ⟨hle, hlt, -⟩ := strchr_drop_skipSpaces hp
    obtain ⟨hltok, heq, -⟩ := List.findIdx?_eq_some_iff_getElem.mp hp
    have hat : tok[p]? = some '=' := by
      rw [List.getElem?_eq_getElem hltok, beq_iff_eq.mp heq]
    have hlen : (Int32.ofInt ((p : Int) - (skipSpaces tok : Nat))).toInt =
        (p : Int) - (skipSpaces tok : Nat) :=
      Int32.toInt_ofInt_of_le (by omega) (by omega)
    rw [scanToken, trimToken_of_some hp hfuel, handleToken, nameLength, hp]
    simp only [backOverSpaces_eq hat, Option.map_some, scanTrimmed, Int.toNat_natCast, hlen] <;>
      rfl

end Body

/-! ### The loop -/

/-- **The loop over the tokens ends**, with the same jar for all fuel that is enough: every
round takes the next token, and less of the header follows it. -/
theorem scanLoop_ends (jar : CookieJar) (s : CString) :
    ∃ jar', ∀ walk fuel, s.length < walk → s.length ≤ fuel →
      scanLoop walk fuel jar (CString.strtok ';' s) = some jar' := by
  induction hn : s.length using Nat.strong_induction_on generalizing jar s with
  | _ n ih =>
    subst hn
    rcases htok : CString.strtok ';' s with - | ⟨tok, rest⟩
    · exact ⟨jar, fun walk fuel _ _ => by cases fuel <;> rfl⟩
    · have hrest := (CString.pieces_of_strtok htok).2
      have hle := CString.length_le_of_strtok htok
      obtain ⟨next, hnext⟩ := scanToken_next jar (Nat.lt_succ_self tok.length)
      obtain ⟨jar', hjar'⟩ := ih rest.length hrest next rest rfl
      refine ⟨jar', fun walk fuel hwalk hfuel => ?_⟩
      obtain ⟨fuel, rfl⟩ := Nat.exists_eq_add_one_of_ne_zero (n := fuel) (by omega)
      have hbody : scanToken walk jar tok = some (.next next) := by
        rw [scanToken_congr (by omega) (Nat.lt_succ_self tok.length), hnext]
      rw [scanLoop, hbody]
      exact hjar' walk fuel (by omega) (by omega)

/-- **The parsing of a `Set-Cookie` header ends.** For every jar and header, `NULL` or not,
there is one result for all fuel beyond the length of the header. For every token the body of
the loop goes on to the next token, never round to the same one; and where the token has an
`=`, both white-space loops end inside of the token, the first one not behind the second. -/
theorem cookiejarBuildScan_ends (jar : Option CookieJar) (header : Option CString) :
    (∃ r, ∀ extra, cookiejarBuildScan ((header.getD []).length + 1 + extra) jar header = some r) ∧
    (∀ (jar : CookieJar) (tok : CString), ∃ jar', ∀ extra,
      scanToken (tok.length + 1 + extra) jar tok = some (.next jar')) ∧
    ∀ (tok : CString) (p : Nat), CString.strchr tok '=' = some p →
      ∃ start stop : Nat, start ≤ stop ∧ stop < tok.length ∧ ∀ extra,
        startPointer (tok.length + 1 + extra) tok = some (start : Int) ∧
          endPointer (tok.length + 1 + extra) tok p = some (stop : Int) := by
  refine ⟨?_, fun jar tok => ?_, fun tok p hp => ?_⟩
  · rcases jar with - | jar
    · exact ⟨(-1, none), fun _ => by cases header <;> rfl⟩
    · rcases header with - | header
      · exact ⟨(-1, some jar), fun _ => rfl⟩
      · by_cases hempty : header = []
        · exact ⟨(-1, some jar), fun _ => by rw [cookiejarBuildScan, if_pos hempty]⟩
        · obtain ⟨jar', hjar'⟩ := scanLoop_ends jar header
          refine ⟨(0, some jar'), fun extra => ?_⟩
          rw [cookiejarBuildScan, if_neg hempty, Option.getD_some,
            hjar' _ _ (by omega) (by omega), Option.map_some]
  · obtain ⟨jar', hnext⟩ := scanToken_next jar (Nat.lt_succ_self tok.length)
    refine ⟨jar', fun extra => ?_⟩
    rw [scanToken_congr (by omega) (Nat.lt_succ_self tok.length), hnext]
  · obtain ⟨hle, hlt, -⟩ := strchr_drop_skipSpaces hp
    exact ⟨skipSpaces tok, p, hle, hlt, fun extra =>
      ⟨startPointer_eq (by omega), endPointer_eq hp (by omega)⟩⟩

/-- A token with spaces at the front. -/
theorem cookiejarBuildScan_ends_spaces :
    ∃ start stop : Nat, start ≤ stop ∧ stop < 7 ∧ ∀ extra,
      startPointer (8 + extra) "  id=42".toList = some (start : Int) ∧
        endPointer (8 + extra) "  id=42".toList 4 = some (stop : Int) :=
  (cookiejarBuildScan_ends (some Table.empty) (some "  id=42".toList)).2.2 "  id=42".toList 4
    (by decide)

end Tr069
