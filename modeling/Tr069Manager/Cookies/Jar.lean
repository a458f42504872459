import Tr069Manager.Lib.CString
import Tr069Manager.Lib.Table

/-!
# The cookie jar

What the server sets as cookies while a session runs is kept in a jar, a list of cookies
(`dmmain/cwmpd_cookie.c`), and every `Set-Cookie` header of a response is fed to it
(`cwmp_client_handle_cookies` of `dmmain/cwmpd_client.c`). The jar is a `Table`: a cookie
is added only when the search for its name found nothing, so the names are distinct.

The loop over the tokens works with pointers into a token – `p`, `start` and `end` – and
on one of its paths it goes round without taking the next token. Both are kept:
`handleToken` is `none` when a pointer leaves the token, and tells whether the loop takes
the next token or the same one again. That neither happens is `handleToken_eq`.
-/

namespace Tr069

/-- The cookies, by name; the value of each is text. -/
abbrev CookieJar := Table CString CString

/-! ### The source -/

/-- `search_cookie`: no cookie is found under the empty name. -/
def searchCookie (jar : CookieJar) (name : CString) : Option CString :=
  if name = [] then none else jar.find name

/-- The attributes of a cookie that the loop tells from cookies. -/
def cookieAttributes : List CString :=
  ["Path".toList, "Max-Age".toList, "Expires".toList, "SameSite".toList, "Domain".toList]

/-- `while(*start == ' ') start++`: the first character that is not a space, the NUL at the
latest. -/
def skipSpaces (tok : CString) : Nat := tok.findIdx (· != ' ')

/-- `while(*end == ' ') end--`, from a place of the token: `none` if the pointer gets in
front of it. -/
def backOverSpaces (tok : CString) : Nat → Option Nat
  | 0 => if tok[0]? = some ' ' then none else some 0
  | e + 1 => if tok[e + 1]? = some ' ' then backOverSpaces tok e else some (e + 1)

/-- Where the loop over the tokens stands after its body. -/
inductive TokenPass
  /-- at `strtok(NULL, ";")` -/
  | next (jar : CookieJar)
  /-- at the `continue`, with the token it had -/
  | again (jar : CookieJar)

/-- The search for the name, and `update_cookie` or `add_cookie`; both store any value,
the empty one included. -/
def storeCookie (jar : CookieJar) (name value : CString) : CookieJar :=
  match searchCookie jar name with
  | some _ => jar.modify name fun _ => value
  | none =>
    -- `add_cookie` does nothing for an empty name
    if h : name ≠ [] ∧ jar.find name = none then jar.append name value h.2 else jar

/-- The end of the trimmed name, less its start: `len`. -/
def nameLength (tok : CString) : Option Int :=
  match CString.strchr tok '=' with
  | none => some 0
  | some p => (backOverSpaces tok p).map fun (e : Nat) => (e : Int) - skipSpaces tok

/-- The body of the loop for one token. -/
def handleToken (jar : CookieJar) (tok : CString) : Option TokenPass :=
  (nameLength tok).map fun (len : Int) =>
    let start := tok.drop (skipSpaces tok)
    if 0 < len ∧ ∀ attr ∈ cookieAttributes, CString.strncasecmp start attr len.toNat ≠ .eq then
      match CString.strchr start '=' with
      | none => .again jar
      | some equals => .next (storeCookie jar (start.take equals) (start.drop (equals + 1)))
    else .next jar

/-- The loop, as long as the fuel lasts: with the token at hand and what `strtok` goes on
with. -/
def tokenLoop : Nat → CookieJar → Option (CString × CString) → Option CookieJar
  | _, jar, none => some jar
  | 0, _, some _ => none
  | fuel + 1, jar, some (tok, rest) =>
    match handleToken jar tok with
    | none => none
    | some (.next jar') => tokenLoop fuel jar' (CString.strtok ';' rest)
    | some (.again jar') => tokenLoop fuel jar' (some (tok, rest))

/-- `cwmpd_cookie_cookiejar_build`: the return value and the jar. Every token takes a
character of the header, whose length is fuel enough (`cookiejarBuild_eq`). -/
def cwmpdCookieCookiejarBuild (jar : CookieJar) (header : CString) : Option (Int × CookieJar) :=
  if header = [] then some (-1, jar)
  else (tokenLoop header.length jar (CString.strtok ';' header)).map fun jar' => (0, jar')

/-- A jar after a list of headers, from `cwmpd_cookie_cookiejar_init` on. -/
def jarAfter (headers : List CString) : Option CookieJar :=
  headers.foldlM (fun jar header => (cwmpdCookieCookiejarBuild jar header).map Prod.snd)
    Table.empty

/-- `cwmp_client_handle_cookies`: the jar is made when the first header comes. -/
def cwmpClientHandleCookies (jar : Option CookieJar) (header : CString) :
    Option (Option CookieJar) :=
  if 0 < header.length then
    (cwmpdCookieCookiejarBuild (jar.getD Table.empty) header).map fun r => some r.2
  else some jar

/-! ### What one token does -/

/-- The name and the value a token gives: the name is the text before the first `=`
without the spaces at the front, the value what follows the `=`. -/
def cookieGiven (tok : CString) : Option (CString × CString) :=
  if '=' ∈ tok then
    let start := tok.dropWhile (· == ' ')
    some (start.takeWhile (· != '='), (start.dropWhile (· != '=')).drop 1)
  else none

/-- A name that the comparisons limited to its own length find equal to an attribute. -/
def TakenForAttribute (name : CString) : Prop :=
  ∃ attr ∈ cookieAttributes, CString.PrefixIgnoringCase name attr

instance (name : CString) : Decidable (TakenForAttribute name) :=
  inferInstanceAs (Decidable (∃ attr ∈ cookieAttributes, _))

/-- The cookie the loop stores for a token. -/
def cookieStored (tok : CString) : Option (CString × CString) :=
  (cookieGiven tok).filter fun c => c.1 ≠ [] ∧ ¬TakenForAttribute c.1

theorem storeCookie_eq {jar : CookieJar} {name value : CString} (h : name ≠ []) :
    storeCookie jar name value = jar.put name value := by
  rw [storeCookie, searchCookie, if_neg h, Table.put]
  by_cases hnone : jar.find name = none
  · rw [dif_pos hnone]
    split
    · next v hsome =>
      rw [hnone] at hsome
      cases hsome
    · rw [dif_pos ⟨h, hnone⟩]
  · rw [dif_neg hnone]
    split
    · rfl
    · next hfind => exact absurd hfind hnone

theorem drop_skipSpaces (tok : CString) :
    tok.drop (skipSpaces tok) = tok.dropWhile (· == ' ') := by
  rw [List.dropWhile_eq_drop_findIdx_not, skipSpaces]
  rfl

/-- The `=` stops the pointer that goes backwards where it stands. -/
theorem backOverSpaces_eq {tok : CString} {p : Nat} (h : tok[p]? = some '=') :
    backOverSpaces tok p = some p := by
  cases p <;> simp [backOverSpaces, h]

/-- The first `=` of a token that has one: past the spaces at the front, by the length of
the name. -/
theorem strchr_eq {tok : CString} (h : '=' ∈ tok) :
    CString.strchr tok '=' =
      some (skipSpaces tok + (tok.drop (skipSpaces tok)).findIdx (· == '=')) := by
  have hskip : ∀ c ∈ tok.take (skipSpaces tok), (c == '=') = false := by
    intro c hc
    have hc' : c ∈ tok.takeWhile (· == ' ') := by
      rw [List.takeWhile_eq_take_findIdx_not]
      exact hc
    have hspace : c = ' ' := by simpa using List.mem_takeWhile_imp hc'
    subst hspace
    rfl
  have hidx : tok.findIdx (· == '=') =
      skipSpaces tok + (tok.drop (skipSpaces tok)).findIdx (· == '=') := by
    conv_lhs => rw [← List.take_append_drop (skipSpaces tok) tok]
    have hnone : (tok.take (skipSpaces tok)).findIdx (· == '=') =
        (tok.take (skipSpaces tok)).length := List.findIdx_eq_length.mpr hskip
    have hle : skipSpaces tok ≤ tok.length := List.findIdx_le_length
    rw [List.findIdx_append, hnone, if_neg (lt_irrefl _), List.length_take, min_eq_left hle,
      Nat.add_comm]
  rw [CString.strchr, List.findIdx?_eq_some_iff_findIdx_eq, hidx]
  refine ⟨?_, rfl⟩
  rw [← hidx]
  exact List.findIdx_lt_length_of_exists ⟨'=', h, beq_self_eq_true _⟩

/-- What a token without `=` does: nothing. -/
theorem handleToken_of_not_mem {jar : CookieJar} {tok : CString} (h : '=' ∉ tok) :
    handleToken jar tok = some (.next jar) := by
  have hnone : CString.strchr tok '=' = none := by
    refine List.findIdx?_eq_none_iff.mpr fun c hc => ?_
    rw [beq_eq_false_iff_ne]
    rintro rfl
    exact h hc
  simp [handleToken, nameLength, hnone]

/-- What a token with `=` does: the pointer `end` stays on the `=`, so that the length is
that of the name, and the `=` the name ends at is found again. -/
theorem handleToken_of_mem {jar : CookieJar} {tok name value : CString}
    (h : cookieGiven tok = some (name, value)) :
    handleToken jar tok = some (.next
      (if name ≠ [] ∧ ¬TakenForAttribute name then jar.put name value else jar)) := by
  have hmem : '=' ∈ tok := by
    by_contra hmem
    rw [cookieGiven, if_neg hmem] at h
    cases h
  have hstrchr := strchr_eq hmem
  set start := tok.drop (skipSpaces tok) with hstart
  set n := start.findIdx (· == '=') with hn
  have hname : name = start.take n ∧ value = start.drop (n + 1) := by
    rw [cookieGiven, if_pos hmem, ← drop_skipSpaces] at h
    obtain ⟨rfl, rfl⟩ := Prod.mk.inj (Option.some.inj h)
    have hnot : (fun c : Char => !c != '=') = fun c => c == '=' := by
      ext c
      simp [bne]
    rw [List.takeWhile_eq_take_findIdx_not, List.dropWhile_eq_drop_findIdx_not, List.drop_drop,
      hnot]
    exact ⟨rfl, rfl⟩
  have hat : tok[skipSpaces tok + n]? = some '=' := by
    obtain ⟨hlt, heq, -⟩ := List.findIdx?_eq_some_iff_getElem.mp hstrchr
    rw [List.getElem?_eq_getElem hlt, beq_iff_eq.mp heq]
  have hlen : nameLength tok = some (n : Int) := by
    rw [nameLength, hstrchr]
    simp only [backOverSpaces_eq hat, Option.map_some]
    congr 1
    push_cast
    omega
  have hlt : n < start.length := by
    have := (List.getElem?_eq_some_iff.mp hat).1
    rw [hstart, List.length_drop]
    omega
  have hequals : CString.strchr start '=' = some n :=
    List.findIdx?_eq_some_iff_findIdx_eq.mpr ⟨hlt, rfl⟩
  have hnonempty : name ≠ [] ↔ 0 < (n : Int) := by
    rw [hname.1, ← List.length_pos_iff, List.length_take]
    omega
  have hattr : (∀ attr ∈ cookieAttributes, CString.strncasecmp start attr n ≠ .eq) ↔
      ¬TakenForAttribute name := by
    rw [TakenForAttribute, not_exists]
    refine forall_congr' fun attr => ?_
    rw [not_and, ne_eq, CString.strncasecmp_eq_iff hlt.le, hname.1]
  rw [handleToken, hlen, Option.map_some]
  simp only [Int.toNat_natCast, ← hstart, hequals, hattr, ← hnonempty]
  split
  · next hstored => rw [← hname.1, ← hname.2, storeCookie_eq hstored.1]
  · rfl

/-- **What a token does to the jar**: the loop always takes the next token, after it stored
the cookie of this one if there is one to store. -/
theorem handleToken_eq (jar : CookieJar) (tok : CString) :
    handleToken jar tok = some (.next (jar.fill (cookieStored tok).toList)) := by
  by_cases hmem : '=' ∈ tok
  · obtain ⟨⟨name, value⟩, hgiven⟩ : ∃ c, cookieGiven tok = some c := by
      rw [cookieGiven, if_pos hmem]
      exact ⟨_, rfl⟩
    rw [handleToken_of_mem hgiven, cookieStored, hgiven, Option.filter_some]
    by_cases hstored : name ≠ [] ∧ ¬TakenForAttribute name
    · simp [hstored, Table.fill]
    · rw [if_neg hstored, if_neg (by simpa using hstored)]
      rfl
  · rw [handleToken_of_not_mem hmem, cookieStored, cookieGiven, if_neg hmem]
    rfl

/-! ### What a header does -/

/-- The tokens of a list of headers. -/
def tokensOf (headers : List CString) : List CString :=
  headers.flatMap fun header => header.splitOn ';'

/-- A token without characters stores nothing, so that it does not matter that `strtok`
passes it over. -/
theorem filterMap_pieces (header : CString) :
    (CString.pieces ';' header).filterMap cookieStored =
      (header.splitOn ';').filterMap cookieStored := by
  rw [CString.pieces, List.filterMap_filter]
  refine congrArg (List.filterMap · _) (funext fun tok => ?_)
  by_cases htok : tok = []
  · subst htok
    rfl
  · simp [htok]

theorem fill_append {jar : CookieJar} {es es' : List (CString × CString)} :
    jar.fill (es ++ es') = (jar.fill es).fill es' := List.foldl_append

/-- The loop over the tokens comes to its end, with every cookie stored that is one. -/
theorem tokenLoop_eq {fuel : Nat} {jar : CookieJar} {s : CString} (h : s.length ≤ fuel) :
    tokenLoop fuel jar (CString.strtok ';' s) =
      some (jar.fill ((CString.pieces ';' s).filterMap cookieStored)) := by
  induction fuel generalizing jar s with
  | zero =>
    obtain rfl : s = [] := List.length_eq_zero_iff.mp (Nat.le_zero.mp h)
    rfl
  | succ fuel ih =>
    rcases htok : CString.strtok ';' s with - | ⟨tok, rest⟩
    · rw [CString.pieces_of_strtok_none htok]
      rfl
    · obtain ⟨hpieces, hlen⟩ := CString.pieces_of_strtok htok
      simp only [tokenLoop, handleToken_eq]
      rw [ih (by omega), hpieces, List.filterMap_cons, ← fill_append]
      cases cookieStored tok <;> rfl

/-- What a header with characters does. -/
theorem cookiejarBuild_of_ne_nil (jar : CookieJar) {header : CString} (h : header ≠ []) :
    cwmpdCookieCookiejarBuild jar header =
      some (0, jar.fill ((tokensOf [header]).filterMap cookieStored)) := by
  rw [tokensOf, List.flatMap_singleton, ← filterMap_pieces, cwmpdCookieCookiejarBuild, if_neg h,
    tokenLoop_eq le_rfl, Option.map_some]

theorem cookiejarBuild_eq (jar : CookieJar) (header : CString) :
    (cwmpdCookieCookiejarBuild jar header).map Prod.snd =
      some (jar.fill ((tokensOf [header]).filterMap cookieStored)) := by
  by_cases h : header = []
  · subst h
    rfl
  · rw [cookiejarBuild_of_ne_nil jar h, Option.map_some]

/-- **The jar after any headers**: the loop always ends, and the jar is what the tokens
store one after the other. -/
theorem jarAfter_eq (headers : List CString) :
    jarAfter headers = some (Table.empty.fill ((tokensOf headers).filterMap cookieStored)) := by
  induction headers using List.reverseRecOn with
  | nil => rfl
  | append_singleton headers header ih =>
    have htokens : tokensOf (headers ++ [header]) = tokensOf headers ++ tokensOf [header] :=
      List.flatMap_append
    rw [jarAfter] at ih
    rw [jarAfter, List.foldlM_append, ih, Option.bind_eq_bind, Option.bind_some,
      List.foldlM_cons, cookiejarBuild_eq, Option.bind_eq_bind, Option.bind_some, List.foldlM_nil,
      htokens, List.filterMap_append, fill_append]
    rfl

/-- One response, with the jar that is not there yet read as an empty one. -/
theorem clientHandleCookies_getD (jar : Option CookieJar) (header : CString) :
    (cwmpClientHandleCookies jar header).map (·.getD Table.empty) =
      (cwmpdCookieCookiejarBuild (jar.getD Table.empty) header).map Prod.snd := by
  rw [cwmpClientHandleCookies]
  split
  · rw [Option.map_map]
    rfl
  · next h =>
    obtain rfl : header = [] := by simpa using h
    rfl

/-- The jar the client keeps is the jar after the headers of the responses. -/
theorem clientHandleCookies_eq (headers : List CString) :
    (headers.foldlM cwmpClientHandleCookies none).map (·.getD Table.empty) =
      jarAfter headers := by
  induction headers using List.reverseRecOn with
  | nil => rfl
  | append_singleton headers header ih =>
    rw [jarAfter_eq] at ih
    obtain ⟨jar, hjar, hget⟩ := Option.map_eq_some_iff.mp ih
    rw [jarAfter, List.foldlM_append, List.foldlM_append, ← jarAfter, jarAfter_eq, hjar, ← hget,
      Option.bind_eq_bind, Option.bind_some, Option.bind_eq_bind, Option.bind_some,
      List.foldlM_cons, List.foldlM_cons, ← clientHandleCookies_getD]
    cases cwmpClientHandleCookies jar header <;> rfl

end Tr069
