import Tr069Manager.Cookies.Jar

/-!
# What the jar should hold

The tokens of the headers, in order: a token sets a cookie if it has an `=` and its name
is neither empty nor the name of an attribute, in whatever case. The jar should be the
fold of these, so that a name has the value set last and the names stand in the order of
their first appearance (`JarMeaning`).

The comparison with the attributes is limited to the length of the *name*, and so takes
every way a name of an attribute begins for that name: a cookie `S` is dropped for
`SameSite`, and `p` for `Path`. The jar is what it should be exactly if no token has such
a name (`jarMeaning_iff`).
-/

namespace Tr069

/-- A name that is an attribute's, in whatever case. -/
def IsAttributeName (name : CString) : Prop :=
  ∃ attr ∈ cookieAttributes, CString.EqIgnoringCase name attr

instance (name : CString) : Decidable (IsAttributeName name) :=
  inferInstanceAs (Decidable (∃ attr ∈ cookieAttributes, _))

/-- The cookie a token sets. -/
def cookieSet (tok : CString) : Option (CString × CString) :=
  (cookieGiven tok).filter fun c => c.1 ≠ [] ∧ ¬IsAttributeName c.1

/-- The cookies a list of headers sets, in order. -/
def cookiesSet (headers : List CString) : List (CString × CString) :=
  (tokensOf headers).filterMap cookieSet

/-- **What a jar should be** after a list of headers. -/
structure JarMeaning (headers : List CString) (jar : CookieJar) : Prop where
  /-- it is the fold of the cookies set -/
  folded : jar = Table.empty.fill (cookiesSet headers)
  /-- no name stands in it twice -/
  unique : jar.keys.Nodup
  /-- a name has the value that was set last -/
  lastValue : ∀ name, jar.find name =
    ((cookiesSet headers).reverse.find? fun c => c.1 = name).map Prod.snd
  /-- the names stand in the order of their first appearance -/
  firstAppearance : jar.keys = ((cookiesSet headers).map Prod.fst).eraseDups
  /-- no cookie set is missing -/
  noneDropped : ∀ c ∈ cookiesSet headers, c.1 ∈ jar.keys

/-- The fold has all the rest. -/
theorem jarMeaning_fill (headers : List CString) :
    JarMeaning headers (Table.empty.fill (cookiesSet headers)) := by
  have hkeys : (Table.empty.fill (cookiesSet headers)).keys =
      ((cookiesSet headers).map Prod.fst).eraseDups := Table.keys_fill
  refine ⟨rfl, Table.nodup _, fun name => ?_, hkeys, fun c hc => ?_⟩
  · rw [Table.find_fill]
    exact Option.or_none
  · rw [hkeys, List.mem_eraseDups]
    exact List.mem_map_of_mem hc

/-- A name that begins like an attribute's and is not one. -/
def MerelyResembles (name : CString) : Prop :=
  name ≠ [] ∧ TakenForAttribute name ∧ ¬IsAttributeName name

/-- Every name of an attribute is taken for one. -/
theorem IsAttributeName.taken {name : CString} (h : IsAttributeName name) :
    TakenForAttribute name := by
  obtain ⟨attr, hattr, heq⟩ := h
  exact ⟨attr, hattr, heq.prefix⟩

/-- A token is stored as it should be if its name does not merely resemble an attribute. -/
theorem cookieStored_eq {tok : CString}
    (h : ∀ c, cookieGiven tok = some c → ¬MerelyResembles c.1) :
    cookieStored tok = cookieSet tok := by
  rw [cookieStored, cookieSet]
  rcases hgiven : cookieGiven tok with - | c
  · rfl
  · have hiff : (c.1 ≠ [] ∧ ¬TakenForAttribute c.1) ↔ (c.1 ≠ [] ∧ ¬IsAttributeName c.1) := by
      refine and_congr_right fun hne => not_congr ⟨fun htaken => ?_, IsAttributeName.taken⟩
      by_contra hattr
      exact h c hgiven ⟨hne, htaken, hattr⟩
    rw [Option.filter_some, Option.filter_some, decide_eq_decide.mpr hiff]

/-- A name that merely resembles an attribute never comes into the jar. -/
theorem not_mem_jar {headers : List CString} {name : CString} (h : MerelyResembles name) :
    name ∉ (Table.empty.fill ((tokensOf headers).filterMap cookieStored)).keys := by
  intro hmem
  rw [Table.keys_fill, List.mem_eraseDups] at hmem
  obtain ⟨c, hc, rfl⟩ := List.mem_map.mp hmem
  obtain ⟨tok, -, hstored⟩ := List.mem_filterMap.mp hc
  have hfilter := (Option.filter_eq_some_iff.mp hstored).2
  exact (of_decide_eq_true hfilter).2 h.2.1

/-- **The jar is what it should be exactly if no token has a name that merely resembles an
attribute's**, for every sequence of headers. -/
theorem jarMeaning_iff (headers : List CString) :
    (∃ jar, jarAfter headers = some jar ∧ JarMeaning headers jar) ↔
      ∀ tok ∈ tokensOf headers, ∀ c, cookieGiven tok = some c → ¬MerelyResembles c.1 := by
  rw [jarAfter_eq]
  constructor
  · rintro ⟨jar, hjar, hmeaning⟩ tok htok c hgiven hres
    obtain rfl := Option.some.inj hjar
    -- the cookie is set, and so should be in the jar
    have hset : cookieSet tok = some c := by
      rw [cookieSet, hgiven, Option.filter_some, if_pos (decide_eq_true ⟨hres.1, hres.2.2⟩)]
    have hmem : c ∈ cookiesSet headers := List.mem_filterMap.mpr ⟨tok, htok, hset⟩
    exact not_mem_jar hres (hmeaning.noneDropped c hmem)
  · intro h
    have hsame : (tokensOf headers).filterMap cookieStored = cookiesSet headers :=
      List.filterMap_congr fun tok htok => cookieStored_eq (h tok htok)
    refine ⟨_, rfl, ?_⟩
    rw [hsame]
    exact jarMeaning_fill headers

/-- A session cookie named `S` is dropped: its name is how `SameSite` begins. -/
theorem sessionCookie_dropped :
    ¬∀ headers : List CString, ∃ jar, jarAfter headers = some jar ∧ JarMeaning headers jar := by
  intro h
  obtain ⟨jar, hjar, hmeaning⟩ := h ["S=4f2c; Path=/".toList]
  have hmem := hmeaning.noneDropped ("S".toList, "4f2c".toList) (by decide)
  have hempty : (jarAfter ["S=4f2c; Path=/".toList]).map Table.keys = some [] := by decide
  rw [hjar] at hempty
  rw [show jar.keys = [] from Option.some.inj hempty] at hmem
  cases hmem

end Tr069
