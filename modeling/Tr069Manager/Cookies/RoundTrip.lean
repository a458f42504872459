import Tr069Manager.Cookies.Jar

/-!
# The `Cookie` header

What the jar holds goes back to the server as one line of text, the cookies joined by `;`
(`cwmpd_cookie_cookiejar_to_string`). Nothing is quoted, and the loop that reads a header
looks for the same two characters again. It can do so: a token has no `;` in it, its name
ends at the first `=`, begins with no space and is not taken for an attribute. So every
cookie of a jar is `Storable`, whatever its value is, and a fresh jar built from the text
is the jar the text was made of (`cookiejarBuild_cookiejarToString`).
-/

namespace Tr069

/-! ### The source -/

/-- `"%s=%s"`. -/
def cookieText (cookie : CString × CString) : CString := cookie.1 ++ '=' :: cookie.2

/-- One round of the loop: the string gets its `;` unless it is empty. -/
def appendCookie (str : CString) (cookie : CString × CString) : CString :=
  if str = [] then str ++ cookieText cookie else str ++ ';' :: cookieText cookie

/-- `cwmpd_cookie_cookiejar_to_string`: no text for no jar, and none for an empty one. -/
def cwmpdCookieCookiejarToString : Option CookieJar → Option CString
  | none => none
  | some jar => if jar.entries = [] then none else some (jar.entries.foldl appendCookie [])

/-! ### The cookies of a jar -/

/-- A cookie that the text of a token can stand for: its name is one that is stored, and
neither the name nor the value has what ends it. -/
structure Storable (cookie : CString × CString) : Prop where
  nonempty : cookie.1 ≠ []
  notTaken : ¬TakenForAttribute cookie.1
  space : cookie.1.head? ≠ some ' '
  equals : '=' ∉ cookie.1
  semicolon : ';' ∉ cookieText cookie

/-- What a token stores is storable. -/
theorem Storable.of_cookieStored {tok : CString} {cookie : CString × CString}
    (h : cookieStored tok = some cookie) (htok : ';' ∉ tok) : Storable cookie := by
  obtain ⟨hgiven, hstored⟩ := Option.filter_eq_some_iff.mp h
  have hname : cookie.1 ≠ [] ∧ ¬TakenForAttribute cookie.1 := of_decide_eq_true hstored
  have hmem : '=' ∈ tok := by
    by_contra hmem
    rw [cookieGiven, if_neg hmem] at hgiven
    cases hgiven
  rw [cookieGiven, if_pos hmem] at hgiven
  obtain rfl := Option.some.inj hgiven
  have hsub : (tok.dropWhile (· == ' ')).Sublist tok := List.dropWhile_sublist _
  refine ⟨hname.1, hname.2, fun hspace => ?_, fun hequals => ?_, fun hsemicolon => ?_⟩
  · have hfirst := List.head?_dropWhile_not (· == ' ') tok
    rw [List.head?_takeWhile, Option.filter_eq_some_iff] at hspace
    rw [hspace.1] at hfirst
    cases hfirst
  · simpa using List.mem_takeWhile_imp hequals
  · rcases List.mem_append.mp hsemicolon with hleft | hright
    · exact htok (hsub.subset ((List.takeWhile_sublist _).subset hleft))
    · rcases List.mem_cons.mp hright with hchar | hvalue
      · exact absurd hchar (by decide)
      · exact htok (hsub.subset ((List.dropWhile_sublist _).subset (List.mem_of_mem_drop hvalue)))

/-- The cookies of every jar are storable. -/
theorem Storable.of_mem_jarAfter {headers : List CString} {jar : CookieJar}
    (h : jarAfter headers = some jar) {cookie : CString × CString}
    (hmem : cookie ∈ jar.entries) : Storable cookie := by
  rw [jarAfter_eq] at h
  obtain rfl := Option.some.inj h
  rcases Table.mem_of_mem_fill hmem with hnone | hset
  · cases hnone
  · obtain ⟨tok, htok, hstored⟩ := List.mem_filterMap.mp hset
    obtain ⟨header, -, hpiece⟩ := List.mem_flatMap.mp htok
    exact Storable.of_cookieStored hstored (CString.not_mem_of_mem_splitOn hpiece)

/-- The text of a storable cookie is a token that stores it. -/
theorem Storable.cookieStored_cookieText {cookie : CString × CString} (h : Storable cookie) :
    cookieStored (cookieText cookie) = some cookie := by
  obtain ⟨name, value⟩ := cookie
  obtain ⟨hnonempty, htaken, hspace, hequals, -⟩ := h
  have hmem : '=' ∈ name ++ '=' :: value := by simp
  have hstart : (name ++ '=' :: value).dropWhile (· == ' ') = name ++ '=' :: value := by
    rcases name with - | ⟨c, name⟩
    · exact absurd rfl hnonempty
    · have hc : c ≠ ' ' := fun hc => hspace (congrArg some hc)
      rw [List.cons_append, List.dropWhile_cons, if_neg (by simpa using hc)]
  have hall : ∀ c ∈ name, (c != '=') = true := by
    intro c hc
    rw [bne_iff_ne]
    rintro rfl
    exact hequals hc
  have htake : (name ++ '=' :: value).takeWhile (· != '=') = name := by
    rw [List.takeWhile_append_of_pos hall, List.takeWhile_cons_of_neg (by simp), List.append_nil]
  have hdrop : ((name ++ '=' :: value).dropWhile (· != '=')).drop 1 = value := by
    rw [List.dropWhile_append_of_pos hall, List.dropWhile_cons_of_neg (by simp)]
    rfl
  have hgiven : cookieGiven (cookieText (name, value)) = some (name, value) := by
    rw [cookieGiven, cookieText, if_pos hmem]
    simp only [hstart, htake, hdrop]
  rw [cookieStored, hgiven, Option.filter_some, if_pos (decide_eq_true ⟨hnonempty, htaken⟩)]

/-! ### The text -/

/-- A string that is not empty is followed by the rest of the cookies. -/
theorem foldl_appendCookie {str : CString} (hstr : str ≠ [])
    (cookies : List (CString × CString)) :
    cookies.foldl appendCookie str = [';'].intercalate (str :: cookies.map cookieText) := by
  induction cookies generalizing str with
  | nil => simp
  | cons cookie cookies ih =>
    have hnext : str ++ ';' :: cookieText cookie ≠ [] := by simp
    rw [List.foldl_cons, appendCookie, if_neg hstr, ih hnext, List.map_cons,
      List.intercalate_cons_of_ne_nil (List.cons_ne_nil (cookieText cookie) _)]
    rcases cookies with - | ⟨cookie', cookies⟩
    · simp
    · rw [List.map_cons, List.intercalate_cons_of_ne_nil (List.cons_ne_nil _ _),
        List.intercalate_cons_of_ne_nil (List.cons_ne_nil _ _)]
      simp

/-- The text is the cookies, joined. -/
theorem cookiejarToString_eq (jar : CookieJar) :
    cwmpdCookieCookiejarToString (some jar) =
      if jar.entries = [] then none
      else some ([';'].intercalate (jar.entries.map cookieText)) := by
  rw [cwmpdCookieCookiejarToString]
  rcases jar.entries with - | ⟨cookie, cookies⟩
  · rfl
  · have hfirst : cookieText cookie ≠ [] := by simp [cookieText]
    have hstart : appendCookie [] cookie = cookieText cookie := rfl
    rw [if_neg (List.cons_ne_nil _ _), if_neg (List.cons_ne_nil _ _), List.foldl_cons, hstart,
      foldl_appendCookie hfirst, List.map_cons]

/-- What a text that is a list of storable cookies gives to a jar. -/
theorem tokensStored_intercalate {cookies : List (CString × CString)}
    (h : ∀ cookie ∈ cookies, Storable cookie) :
    (tokensOf [[';'].intercalate (cookies.map cookieText)]).filterMap cookieStored = cookies := by
  have hpieces : CString.pieces ';' ([';'].intercalate (cookies.map cookieText)) =
      cookies.map cookieText := by
    refine CString.pieces_intercalate fun text htext => ?_
    obtain ⟨cookie, hmem, rfl⟩ := List.mem_map.mp htext
    exact ⟨by simp [cookieText], (h cookie hmem).semicolon⟩
  rw [tokensOf, List.flatMap_singleton, ← filterMap_pieces, hpieces, List.filterMap_map]
  have hall : ∀ cookie ∈ cookies, (cookieStored ∘ cookieText) cookie = some cookie :=
    fun cookie hmem => (h cookie hmem).cookieStored_cookieText
  rw [List.filterMap_congr hall, List.filterMap_some]

/-- **The round trip**: whatever the headers were, there is no text exactly if the jar has no
cookie, and a new jar that is built from the text is the same jar. -/
theorem cookiejarBuild_cookiejarToString (headers : List CString) :
    ∃ jar, jarAfter headers = some jar ∧
      (cwmpdCookieCookiejarToString (some jar) = none ↔ jar.entries = []) ∧
      ∀ text, cwmpdCookieCookiejarToString (some jar) = some text →
        cwmpdCookieCookiejarBuild Table.empty text = some (0, jar) := by
  refine ⟨_, jarAfter_eq headers, ?_, fun text htext => ?_⟩
  · rw [cookiejarToString_eq]
    split
    · next h => exact ⟨fun _ => h, fun _ => rfl⟩
    · next h => exact ⟨fun hnone => absurd hnone (Option.some_ne_none _), fun h' => absurd h' h⟩
  set jar := Table.empty.fill ((tokensOf headers).filterMap cookieStored) with hjar
  have htokens := tokensStored_intercalate fun cookie hmem =>
    Storable.of_mem_jarAfter (jarAfter_eq headers) hmem
  rw [cookiejarToString_eq] at htext
  split at htext
  · cases htext
  · next hne =>
    obtain rfl := Option.some.inj htext
    have htext' : [';'].intercalate (jar.entries.map cookieText) ≠ [] := by
      intro hnil
      rw [hnil] at htokens
      exact hne htokens.symm
    rw [cookiejarBuild_of_ne_nil _ htext', htokens, Table.fill_entries]

end Tr069
