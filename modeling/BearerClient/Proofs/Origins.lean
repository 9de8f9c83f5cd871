import BearerClient.Proofs.Passages
import BearerClient.Proofs.Retries
import BearerClient.Proofs.Trimming
import Mathlib

/-!
# Where requests go

The address of a request is joined from a configured base and a path as plain texts, and the joined
text is only then read as a URL, by rules under which much of what stands in a path has a meaning of
its own. The base names a server, in an authority behind two slashes, and none of it gets lost or
moved: the joined text has a slash behind the authority, whatever the path, and the reader neither
drops nor takes anything in front of that slash (`parse?_address`). So no path leads to another
server, and no request is sent to one.

The main statement is `paths_keep_origin`.
-/

namespace BearerClient

/-- A host with an optional port: something, with no character that ends an authority, that divides
it, or that does not count in a URL. -/
structure IsPlainAuthority (authority : String) : Prop where
  /-- There is a host. -/
  nonempty : authority ≠ ""
  /-- All of it belongs to the host or the port. -/
  plain : ∀ c ∈ authority.toList, 0x20 < c.toNat ∧ c ∉ ['/', '\\', '?', '#', '@']

/-- Nothing, or a text that starts with a slash. -/
def IsFolder (folder : String) : Prop := ∀ c ∈ folder.toList.head?, c = '/'

/-- The request that is sent in what a notice is about, if one is. -/
def Notice.sent? : Notice → Option Request
  | .attempt _ _ request | .exchange _ _ request => some request
  | _ => none

namespace Url

/-- The URL asks the server that another one asks, with no credentials of its own. -/
structure StaysAt (u base : Url) : Prop where
  /-- The scheme is the same. -/
  scheme : u.scheme = base.scheme
  /-- The host is the same. -/
  host : u.host = base.host
  /-- The port is the same. -/
  port : u.port = base.port
  /-- There is no user name. -/
  username : u.username = ""
  /-- There is no password. -/
  password : u.password = ""

theorem StaysAt.origin?_eq {u base : Url} (h : u.StaysAt base) : u.origin? = base.origin? := by
  rw [origin?, origin?, h.scheme, h.host, h.port]

theorem StaysAt.withoutCredentials {u base : Url} (h : u.StaysAt base) :
    u.withoutCredentials.StaysAt base := by
  unfold Url.withoutCredentials
  split
  · exact ⟨h.scheme, h.host, h.port, rfl, rfl⟩
  · exact h

/-! ## The characters that count -/

/-- Of a text that starts with visible characters, only what follows them is shortened, and not at
its start. -/
theorem significantChars_append {front tail : List Char} (hfront : ∀ c ∈ front, 0x20 < c.toNat)
    (hne : front ≠ []) (htail : ∀ c ∈ tail.head?, c = '/') :
    ∃ counted, significantChars (.ofList (front ++ tail)) = front ++ counted ∧
      ∀ c ∈ counted.head?, c = '/' := by
  have hstart : (front ++ tail).dropWhile (fun c => c.toNat ≤ 0x20) = front ++ tail := by
    obtain ⟨first, rest, rfl⟩ := List.exists_cons_of_ne_nil hne
    have hfirst := hfront first List.mem_cons_self
    exact List.dropWhile_cons_of_neg (by simpa using hfirst)
  have hlast : ∀ hne : front ≠ [], ¬ decide ((front.getLast hne).toNat ≤ 0x20) = true :=
    fun hne => by simpa using hfront _ (List.getLast_mem hne)
  have hend := Text.rdropWhile_append (p := fun c => c.toNat ≤ 0x20) hlast tail
  have hkept : front.filter (fun c => !(c = '\t' || c = '\n' || c = '\r')) = front := by
    refine List.filter_eq_self.mpr fun c hmem => ?_
    have hother : c ≠ '\t' ∧ c ≠ '\n' ∧ c ≠ '\r' := by
      refine ⟨?_, ?_, ?_⟩ <;> rintro rfl <;> exact absurd (hfront _ hmem) (by decide)
    simp [hother]
  refine ⟨(tail.rdropWhile fun c => c.toNat ≤ 0x20).filter
    fun c => !(c = '\t' || c = '\n' || c = '\r'), ?_, ?_⟩
  · simp only [significantChars, String.toList_ofList, hstart]
    rw [← List.rdropWhile, hend, List.filter_append, hkept]
  · intro c hc
    cases hrest : tail.rdropWhile fun c => c.toNat ≤ 0x20 with
    | nil => simp [hrest] at hc
    | cons first rest =>
      have hfirst : first ∈ (tail.rdropWhile fun c => c.toNat ≤ 0x20).head? := by simp [hrest]
      obtain rfl := htail first (Text.mem_head?_of_rdropWhile hfirst)
      simpa [hrest, eq_comm] using hc

/-! ## The authority -/

/-- The two schemes that a base can have. -/
def IsWeb (scheme : String) : Prop := scheme = "http" ∨ scheme = "https"

theorem isSpecial_of_isWeb {scheme : String} (h : IsWeb scheme) : isSpecial scheme = true := by
  rcases h with rfl | rfl
  · decide
  · decide

theorem scheme?_of_isWeb {scheme : String} (h : IsWeb scheme) (rest : List Char) :
    scheme? (scheme.toList ++ ':' :: rest) = some (scheme, rest) := by
  rcases h with rfl | rfl
  · simp [scheme?]
  · simp [scheme?]

section Authority

variable {scheme authority : String} {tail : List Char}

theorem splitUserinfo_of_plain (h : IsPlainAuthority authority) :
    splitUserinfo authority.toList = (none, authority.toList) := by
  have hsign : '@' ∉ authority.toList := fun hmem => (h.plain _ hmem).2 (by decide)
  simp [splitUserinfo, hsign]

/-- All of a plain authority is read as the authority, and what follows it as what follows. -/
theorem splitAuthority_of_plain (hscheme : IsWeb scheme) (h : IsPlainAuthority authority)
    (htail : ∀ c ∈ tail.head?, c = '/') :
    splitAuthority scheme (authority.toList ++ tail) = (authority.toList, tail) := by
  have hin : ∀ c ∈ authority.toList, (!(isSlash true c || endsPath c)) = true := by
    intro c hmem
    have hplain := (h.plain c hmem).2
    simp only [List.mem_cons, List.not_mem_nil, or_false, not_or] at hplain
    simp [isSlash, endsPath, hplain]
  have hout : tail.takeWhile (fun c => !(isSlash true c || endsPath c)) = [] ∧
      tail.dropWhile (fun c => !(isSlash true c || endsPath c)) = tail := by
    cases tail with
    | nil => exact ⟨rfl, rfl⟩
    | cons first rest =>
      obtain rfl : first = '/' := htail first rfl
      exact ⟨rfl, rfl⟩
  have hport : ∀ n, (authority.toList.drop n).dropWhile (fun c => c ≠ '\\') = [] := by
    intro n
    refine List.dropWhile_eq_nil_iff.mpr fun c hmem => decide_eq_true ?_
    rintro rfl
    exact (h.plain _ (List.mem_of_mem_drop hmem)).2 (by decide)
  simp only [splitAuthority, isSpecial_of_isWeb hscheme, List.takeWhile_append_of_pos hin,
    List.dropWhile_append_of_pos hin, hout, List.append_nil, splitUserinfo_of_plain h, hport,
    List.length_nil, Nat.sub_zero, List.take_length, List.nil_append]

/-- A plain authority is read in the same way whatever follows it, and names no user. -/
theorem authority?_of_plain (hscheme : IsWeb scheme) (h : IsPlainAuthority authority) :
    (∀ after, authority? scheme authority.toList after = authority? scheme authority.toList []) ∧
      ∀ a, authority? scheme authority.toList [] = some a → a.username = "" ∧ a.password = "" := by
  constructor
  · intro after
    simp [authority?, splitUserinfo_of_plain h]
  · intro a ha
    simp only [authority?, splitUserinfo_of_plain h, isSpecial_of_isWeb hscheme, if_true] at ha
    split at ha
    · cases ha
    · simp only [Option.bind_eq_bind, Option.bind_eq_some_iff] at ha
      obtain ⟨host, -, port, -, hsame⟩ := ha
      obtain rfl := Option.some.inj hsame
      exact ⟨rfl, rfl⟩

theorem afterSlashes?_of_plain (hscheme : IsWeb scheme) (h : IsPlainAuthority authority)
    (htail : ∀ c ∈ tail.head?, c = '/') :
    ∃ path rest, afterSlashes? scheme (authority.toList ++ tail) =
      (authority? scheme authority.toList []).map fun a => finish scheme (some a) path rest := by
  simp only [afterSlashes?, splitAuthority_of_plain hscheme h htail,
    (authority?_of_plain hscheme h).1]
  cases authority? scheme authority.toList [] with
  | none => exact ⟨.segments [], [], rfl⟩
  | some a => exact ⟨_, _, rfl⟩

/-- The scheme and the authority of a text are what they look like, whatever follows the
authority. -/
theorem parse?_address (hscheme : IsWeb scheme) (h : IsPlainAuthority authority)
    (htail : ∀ c ∈ tail.head?, c = '/') :
    ∃ path rest, parse? (.ofList (scheme.toList ++ "://".toList ++ authority.toList ++ tail)) =
      (authority? scheme authority.toList []).map fun a => finish scheme (some a) path rest := by
  have hmarks : ∀ c ∈ scheme.toList ++ "://".toList, 0x20 < c.toNat := by
    rcases hscheme with rfl | rfl
    · simp
    · simp
  have hfront : ∀ c ∈ scheme.toList ++ "://".toList ++ authority.toList, 0x20 < c.toNat := by
    intro c hmem
    rcases List.mem_append.mp hmem with hmem | hmem
    · exact hmarks c hmem
    · exact (h.plain c hmem).1
  -- all characters up to the end of the authority are visible, so none of them is dropped
  obtain ⟨counted, hcounted, hhead⟩ := significantChars_append hfront (by simp) htail
  have hscheme? : scheme? (scheme.toList ++ "://".toList ++ authority.toList ++ counted) =
      some (scheme, '/' :: '/' :: (authority.toList ++ counted)) := by
    simpa using scheme?_of_isWeb hscheme ('/' :: '/' :: (authority.toList ++ counted))
  -- the two slashes end where the authority starts, which is no slash of either kind
  have hslashes : ('/' :: '/' :: (authority.toList ++ counted)).dropWhile (isSlash true) =
      authority.toList ++ counted := by
    obtain ⟨first, rest, hfirst⟩ := List.exists_cons_of_ne_nil (l := authority.toList)
      (by simpa using h.nonempty)
    have hplain := (h.plain first (hfirst ▸ List.mem_cons_self)).2
    simp only [List.mem_cons, List.not_mem_nil, or_false, not_or] at hplain
    rw [hfirst]
    simp [isSlash, hplain]
  have hfile : (scheme == "file") = false := by
    rcases hscheme with rfl | rfl <;> decide
  have hparse : parse? (.ofList (scheme.toList ++ "://".toList ++ authority.toList ++ tail)) =
      afterSlashes? scheme (authority.toList ++ counted) := by
    simp only [parse?, hcounted, hscheme?, Option.bind_eq_bind, Option.bind_some, afterScheme?,
      hfile, isSpecial_of_isWeb hscheme, hslashes, if_true, Bool.false_eq_true, if_false]
  rw [hparse]
  exact afterSlashes?_of_plain hscheme h hhead

end Authority

/-- What the reader makes of two texts that differ only behind a plain authority. -/
theorem staysAt_of_parse? {scheme authority : String} (hscheme : IsWeb scheme)
    (h : IsPlainAuthority authority) {tail tail' : List Char} (htail : ∀ c ∈ tail.head?, c = '/')
    (htail' : ∀ c ∈ tail'.head?, c = '/') :
    let front := scheme.toList ++ "://".toList ++ authority.toList
    ((parse? (.ofList (front ++ tail))).isSome = (parse? (.ofList (front ++ tail'))).isSome) ∧
      ∀ u base, parse? (.ofList (front ++ tail)) = some u →
        parse? (.ofList (front ++ tail')) = some base →
        u.StaysAt base ∧ base.scheme = scheme ∧ base.origin?.isSome = true := by
  obtain ⟨path, rest, hparse⟩ := parse?_address hscheme h htail
  obtain ⟨path', rest', hparse'⟩ := parse?_address hscheme h htail'
  simp only [hparse, hparse', Option.isSome_map, true_and]
  intro u base hu hbase
  obtain ⟨a, ha, rfl⟩ := Option.map_eq_some_iff.mp hu
  obtain ⟨a', ha', rfl⟩ := Option.map_eq_some_iff.mp hbase
  obtain rfl : a = a' := Option.some.inj (ha.symm.trans ha')
  obtain ⟨husername, hpassword⟩ := (authority?_of_plain hscheme h).2 a ha
  exact ⟨⟨rfl, rfl, rfl, husername, hpassword⟩, rfl, rfl⟩

end Url

/-! ## Joined texts -/

namespace ApiRoot

/-- Behind the authority of the base, a joined text has a slash. -/
theorem urlText_eq {authority folder : String} (h : IsPlainAuthority authority)
    (hfolder : IsFolder folder) (scheme path : String) :
    ∃ tail : List Char, (∀ c ∈ tail.head?, c = '/') ∧
      (ofBase (scheme ++ "://" ++ authority ++ folder)).urlText path =
        .ofList (scheme.toList ++ "://".toList ++ authority.toList ++ tail) := by
  have hlast : ∀ hne, ¬ ((scheme.toList ++ "://".toList ++ authority.toList).getLast hne == '/') =
      true := by
    intro hne
    have hauthority : authority.toList ≠ [] := by simpa using h.nonempty
    rw [List.getLast_append_of_ne_nil hne hauthority]
    intro hslash
    refine (h.plain _ (List.getLast_mem hauthority)).2 ?_
    simp [eq_of_beq hslash]
  -- trimming the base stops at the authority
  have htrim := Text.rdropWhile_append (p := (· == '/')) hlast folder.toList
  refine ⟨folder.toList.rdropWhile (· == '/') ++ '/' :: path.toList.dropWhile (· == '/'), ?_, ?_⟩
  · intro c hc
    cases hrest : folder.toList.rdropWhile (· == '/') with
    | nil => simpa [hrest, eq_comm] using hc
    | cons first rest =>
      obtain rfl : first = c := by simpa [hrest] using hc
      exact hfolder first (Text.mem_head?_of_rdropWhile (p := (· == '/')) (by simp [hrest]))
  · refine String.toList_injective ?_
    simp only [urlText, ofBase, Text.trimEndChar, Text.trimStartChar, String.toList_append,
      String.toList_ofList]
    rw [← List.rdropWhile, htrim]
    simp

theorem exists_of_url? {root : ApiRoot} {path : String} {url : Url} (h : root.url? path = some url) :
    ∃ u, Url.parse? (root.urlText path) = some u ∧ url = u.withoutCredentials := by
  simp only [url?, Option.bind_eq_bind, Option.bind_eq_some_iff] at h
  obtain ⟨u, hparse, h⟩ := h
  split at h
  · exact ⟨u, hparse, (Option.some.inj h).symm⟩
  · cases h

theorem parse?_of_refreshUrl {root : ApiRoot} {url : Url} (h : root.refreshUrl = .ok url) :
    Url.parse? (root.urlText refreshPath) = some url := by
  unfold refreshUrl at h
  split at h
  · cases h
  · rename_i u hparse
    split at h
    · rw [hparse, Except.ok.inj h]
    · cases h

end ApiRoot

/-! ## Runs -/

namespace Gateway

variable {σ : Type} [Store σ]

/-- Every attempt that is sent was built under the root. -/
theorem attempt_built {root : ApiRoot} {store : σ} {actions : List (Action σ)} {id : CallId}
    {token : String} {request : Request}
    (hmem : .attempt id token request ∈ ((Gateway.new root store).run actions).log) :
    ∃ d, Request.build root d token = .ok request := by
  induction actions using List.reverseRecOn with
  | nil => exact absurd hmem List.not_mem_nil
  | append_singleton before a ih =>
    rw [run_concat] at hmem
    rcases (move_step _ a).attempt_cases hmem with hsent | ⟨d, shape, phase, -, hbuild, -⟩
    · exact ih hsent
    · rw [root_run] at hbuild
      exact ⟨d, hbuild⟩

/-- Every request that is sent goes where some path below the root leads. -/
theorem sent?_addressed {root : ApiRoot} {store : σ} {actions : List (Action σ)} {notice : Notice}
    {request : Request} (hmem : notice ∈ ((Gateway.new root store).run actions).log)
    (hsent : notice.sent? = some request) :
    ∃ path u, Url.parse? (root.urlText path) = some u ∧ request.url = u.withoutCredentials := by
  cases notice with
  | attempt id token built =>
    obtain rfl := Option.some.inj hsent
    obtain ⟨d, hbuild⟩ := attempt_built hmem
    obtain ⟨headers, url, -, hurl, rfl⟩ := Request.build_eq_ok hbuild
    exact ⟨d.path, ApiRoot.exists_of_url? hurl⟩
  | exchange cycle refreshToken built =>
    obtain rfl := Option.some.inj hsent
    have hsends := (sound_run root store actions).sends.requests cycle refreshToken built hmem
    rw [root_run] at hsends
    obtain ⟨url, hurl, rfl⟩ := hsends
    exact ⟨refreshPath, url, ApiRoot.parse?_of_refreshUrl hurl, rfl⟩
  | _ => cases hsent

end Gateway

/-- No path moves a token to another server. With a base that is `http://` or `https://`, a plain
authority, and nothing or a folder:

* whatever the path, the joined text is a URL exactly if the base is one;
* it then has the scheme, the host and the port of the base, and no user name or password;
* so has every request that a gateway sends, whoever comes to it with whatever path and whatever
  happens to its store, and so has every request of a refresh. -/
theorem paths_keep_origin {scheme authority folder : String} (hscheme : Url.IsWeb scheme)
    (hauthority : IsPlainAuthority authority) (hfolder : IsFolder folder) :
    let base := scheme ++ "://" ++ authority ++ folder
    let root := ApiRoot.ofBase base
    (∀ path, (Url.parse? (root.urlText path)).isSome = (Url.parse? base).isSome) ∧
    (∀ path u b, Url.parse? (root.urlText path) = some u → Url.parse? base = some b →
      u.StaysAt b ∧ b.scheme = scheme ∧ ∃ origin, b.origin? = some origin ∧ u.origin? = some origin) ∧
    ∀ (σ : Type) [Store σ] (store : σ) (actions : List (Gateway.Action σ)),
      ∀ notice ∈ ((Gateway.new root store).run actions).log, ∀ request,
        notice.sent? = some request →
          ∃ b origin, Url.parse? base = some b ∧ request.url.StaysAt b ∧
            b.origin? = some origin ∧ request.url.origin? = some origin := by
  intro base root
  have hbase : base = .ofList (scheme.toList ++ "://".toList ++ authority.toList ++ folder.toList) :=
    String.toList_injective (by simp [base])
  have hsame : ∀ path, (Url.parse? (root.urlText path)).isSome = (Url.parse? base).isSome ∧
      ∀ u b, Url.parse? (root.urlText path) = some u → Url.parse? base = some b →
        u.StaysAt b ∧ b.scheme = scheme ∧ b.origin?.isSome = true := by
    intro path
    obtain ⟨tail, htail, htext⟩ := ApiRoot.urlText_eq hauthority hfolder scheme path
    rw [htext, hbase]
    exact Url.staysAt_of_parse? hscheme hauthority htail hfolder
  refine ⟨fun path => (hsame path).1, ?_, ?_⟩
  · intro path u b hu hb
    obtain ⟨hstays, hscheme', horigin⟩ := (hsame path).2 u b hu hb
    obtain ⟨origin, horigin⟩ := Option.isSome_iff_exists.mp horigin
    exact ⟨hstays, hscheme', origin, horigin, hstays.origin?_eq.trans horigin⟩
  · intro σ _ store actions notice hmem request hsent
    obtain ⟨path, u, hu, hurl⟩ := Gateway.sent?_addressed hmem hsent
    have hsome : (Url.parse? base).isSome = true := by rw [← (hsame path).1, hu]; rfl
    obtain ⟨b, hb⟩ := Option.isSome_iff_exists.mp hsome
    obtain ⟨hstays, -, horigin⟩ := (hsame path).2 u b hu hb
    obtain ⟨origin, horigin⟩ := Option.isSome_iff_exists.mp horigin
    have hstays' : request.url.StaysAt b := hurl ▸ hstays.withoutCredentials
    exact ⟨b, origin, hb, hstays', horigin, hstays'.origin?_eq.trans horigin⟩

/-- A path full of signs that have a meaning in a URL: only the path, the query and the fragment of
the URL are other ones. -/
theorem paths_keep_origin_of_signs :
    let root := ApiRoot.ofBase "http://[::1]:8000/api/v1"
    let path := "//\\user@[::2]:9\t/..\\../../?@#:"
    ∃ u b, Url.parse? (root.urlText path) = some u ∧
      Url.parse? "http://[::1]:8000/api/v1" = some b ∧ u.StaysAt b ∧
      u.path = .segments ["api", ""] ∧ b.path = .segments ["api", "v1"] := by
  intro root path
  have hplain : IsPlainAuthority "[::1]:8000" := ⟨by decide, by simp⟩
  have hfolder : IsFolder "/api/v1" := by simp [IsFolder]
  have hu : Url.parse? (root.urlText path) = some ⟨"http", "", "",
      some (.ipv6 [0, 0, 0, 0, 0, 0, 0, 1]), some 8000, .segments ["api", ""], some "@",
      some ":"⟩ := by
    decide +kernel
  have hb : Url.parse? "http://[::1]:8000/api/v1" = some ⟨"http", "", "",
      some (.ipv6 [0, 0, 0, 0, 0, 0, 0, 1]), some 8000, .segments ["api", "v1"], none, none⟩ := by
    decide +kernel
  have hstays := (paths_keep_origin (.inl rfl) hplain hfolder).2.1 path _ _ hu hb
  exact ⟨_, _, hu, hb, hstays.1, rfl, rfl⟩

end BearerClient
