import BearerClient.Proofs.Retries
import Mathlib

/-!
# The headers of a request

A request carries one header for each name that the caller gives or that has a default, and names
are the same if they differ only in case. `expectedHeader?` says which value each of them has: the
last one that the caller gives, or else the default. The access token is in one of the defaults and
nowhere else, which is why a request may be built again under another token. A header that HTTP does
not allow, wherever it stands in the list, keeps the request from being built at all.

The main statement is `header_assembly`.
-/

namespace BearerClient

/-- A header name in lower case. -/
def lowerName (name : String) : String := .ofList (name.toList.map Char.toLower)

/-- A name and a value that HTTP allows for a header. -/
structure IsHeader (header : String × String) : Prop where
  /-- The name is a token. -/
  token : isToken header.1 = true
  /-- The name is not too long. -/
  length : header.1.utf8ByteSize ≤ maxHeaderNameLength
  /-- The value holds no controls. -/
  value : isHeaderValue header.2 = true

/-- The value of the last header with a name that a caller gives. -/
def lastGiven? (given : List (String × String)) (name : String) : Option String :=
  ((given.filter fun header => lowerName header.1 = lowerName name).getLast?).map Prod.snd

/-- The value that a header has under an access token if the caller does not give it. -/
def defaultHeader? (token name : String) : Option String :=
  if lowerName name = "content-type" then some "application/json"
  else if lowerName name = "authorization" then some (Request.bearer token)
  else none

/-- The value that a header of a request is to have, if the request is to have the header. -/
def expectedHeader? (d : Descriptor) (token name : String) : Option String :=
  (lastGiven? d.headers name).or (defaultHeader? token name)

theorem lowerName_lowerName (name : String) : lowerName (lowerName name) = lowerName name := by
  have hlower : Char.toLower ∘ Char.toLower = Char.toLower :=
    funext Char.toLower_toLower_eq_toLower
  simp only [lowerName, String.toList_ofList, List.map_map, hlower]

theorem headerName?_eq (name : String) : headerName? name =
    if isToken name = true ∧ name.utf8ByteSize ≤ maxHeaderNameLength then some (lowerName name)
    else none := by
  simp [headerName?, lowerName]

theorem lastGiven?_cons (first : String × String) (rest : List (String × String)) (name : String) :
    lastGiven? (first :: rest) name = (lastGiven? rest name).or
      (if lowerName first.1 = lowerName name then some first.2 else none) := by
  unfold lastGiven?
  by_cases hname : lowerName first.1 = lowerName name
  · rw [List.filter_cons_of_pos (by simpa using hname), List.getLast?_cons, if_pos hname]
    cases (rest.filter fun header => lowerName header.1 = lowerName name).getLast? with
    | none => rfl
    | some last => rfl
  · rw [List.filter_cons_of_neg (by simpa using hname), if_neg hname, Option.or_none]

namespace Headers

variable {headers after : Headers} {given : List (String × String)}

/-! ## One header -/

/-- A header takes the place of the one with its name, or comes at the end. -/
theorem map_fst_insert (headers : Headers) (name value : String) :
    (headers.insert name value).map Prod.fst =
      if name ∈ headers.map Prod.fst then headers.map Prod.fst
      else headers.map Prod.fst ++ [name] := by
  induction headers with
  | nil => simp [insert]
  | cons first rest ih =>
    obtain ⟨n, v⟩ := first
    by_cases hname : n = name
    · simp [insert, hname]
    · have hne : ¬ name = n := fun h => hname h.symm
      by_cases hmem : name ∈ rest.map Prod.fst
      · rw [if_pos hmem] at ih
        simp [insert, hname, ih, hmem]
      · rw [if_neg hmem] at ih
        simp [insert, hname, ih, hne, hmem]

theorem nodup_insert (h : (headers.map Prod.fst).Nodup) (name value : String) :
    ((headers.insert name value).map Prod.fst).Nodup := by
  rw [map_fst_insert]
  by_cases hmem : name ∈ headers.map Prod.fst
  · rw [if_pos hmem]
    exact h
  · rw [if_neg hmem, ← List.concat_eq_append]
    exact h.concat hmem

/-- Where each name has one value, that is the value which is found under it. -/
theorem mem_iff_get? (h : (headers.map Prod.fst).Nodup) {name value : String} :
    (name, value) ∈ headers ↔ headers.get? name = some value := by
  unfold get?
  induction headers with
  | nil => simp
  | cons first rest ih =>
    obtain ⟨n, v⟩ := first
    obtain ⟨hfirst, hrest⟩ := List.nodup_cons.mp h
    by_cases hname : name = n
    · subst hname
      have hnone : (name, value) ∉ rest := fun hmem =>
        hfirst (List.mem_map.mpr ⟨_, hmem, rfl⟩)
      simp [hnone, eq_comm]
    · have hne : (name == n) = false := beq_eq_false_iff_ne.mpr hname
      simp [List.lookup_cons, hne, hname, ih hrest]

/-! ## The headers of a caller -/

/-- The headers of a caller are added exactly if all of them are allowed. -/
theorem insertAll_ok_iff :
    (∃ after, headers.insertAll given = .ok after) ↔ ∀ header ∈ given, IsHeader header := by
  induction given generalizing headers with
  | nil => simp [insertAll]
  | cons first rest ih =>
    obtain ⟨name, value⟩ := first
    simp only [insertAll, headerName?_eq]
    rw [List.forall_mem_cons]
    by_cases hname : isToken name = true ∧ name.utf8ByteSize ≤ maxHeaderNameLength
    · rw [if_pos hname]
      by_cases hvalue : isHeaderValue value = true
      · have hfirst : IsHeader (name, value) := ⟨hname.1, hname.2, hvalue⟩
        simp only [hvalue, if_true, ih, hfirst, true_and]
      · have hfirst : ¬ IsHeader (name, value) := fun h => hvalue h.value
        simp [hvalue, hfirst]
    · have hfirst : ¬ IsHeader (name, value) := fun h => hname ⟨h.token, h.length⟩
      simp [hname, hfirst]

theorem insertAll_cons {first : String × String} {rest : List (String × String)}
    (h : headers.insertAll (first :: rest) = .ok after) :
    (headers.insert (lowerName first.1) first.2).insertAll rest = .ok after := by
  obtain ⟨name, value⟩ := first
  simp only [insertAll, headerName?_eq] at h
  by_cases hname : isToken name = true ∧ name.utf8ByteSize ≤ maxHeaderNameLength
  · rw [if_pos hname] at h
    by_cases hvalue : isHeaderValue value = true
    · simpa [hvalue] using h
    · simp [hvalue] at h
  · simp [hname] at h

theorem nodup_insertAll (h : headers.insertAll given = .ok after)
    (hnodup : (headers.map Prod.fst).Nodup) : (after.map Prod.fst).Nodup := by
  induction given generalizing headers with
  | nil =>
    obtain rfl := Except.ok.inj h
    exact hnodup
  | cons first rest ih => exact ih (insertAll_cons h) (nodup_insert hnodup _ _)

theorem lowerName_insertAll (h : headers.insertAll given = .ok after)
    (hlower : ∀ name ∈ headers.map Prod.fst, lowerName name = name) :
    ∀ name ∈ after.map Prod.fst, lowerName name = name := by
  induction given generalizing headers with
  | nil =>
    obtain rfl := Except.ok.inj h
    exact hlower
  | cons first rest ih =>
    refine ih (insertAll_cons h) ?_
    intro name hmem
    rw [map_fst_insert] at hmem
    by_cases hthere : lowerName first.1 ∈ headers.map Prod.fst
    · rw [if_pos hthere] at hmem
      exact hlower name hmem
    · rw [if_neg hthere, List.mem_append, List.mem_singleton] at hmem
      rcases hmem with hmem | rfl
      · exact hlower name hmem
      · exact lowerName_lowerName first.1

/-- The value that the caller gives last counts, or else the one that was there. -/
theorem get?_of_insertAll (h : headers.insertAll given = .ok after) (name : String) :
    after.get? (lowerName name) =
      (lastGiven? given name).or (headers.get? (lowerName name)) := by
  induction given generalizing headers with
  | nil =>
    obtain rfl := Except.ok.inj h
    rfl
  | cons first rest ih =>
    rw [ih (insertAll_cons h), get?_insert, lastGiven?_cons, Option.or_assoc]
    by_cases hname : lowerName first.1 = lowerName name
    · rw [if_pos hname.symm, if_pos hname, Option.some_or]
    · have hne : ¬ lowerName name = lowerName first.1 := fun h => hname h.symm
      rw [if_neg hne, if_neg hname, Option.none_or]

/-- Headers that differ in the value of one name are the same apart from it. -/
theorem filter_insert (headers : Headers) (name value : String) :
    (headers.insert name value).filter (fun header => header.1 ≠ name) =
      headers.filter fun header => header.1 ≠ name := by
  induction headers with
  | nil => simp [insert]
  | cons first rest ih =>
    obtain ⟨n, v⟩ := first
    by_cases hname : n = name
    · simp [insert, hname]
    · rw [insert, if_neg hname, List.filter_cons_of_pos (by simpa using hname),
        List.filter_cons_of_pos (by simpa using hname), ih]

end Headers

namespace Request

theorem get?_defaultHeaders (token name : String) :
    Headers.get? (defaultHeaders token) (lowerName name) = defaultHeader? token name := by
  unfold Headers.get? defaultHeaders defaultHeader?
  by_cases htype : lowerName name = "content-type"
  · simp [htype]
  · by_cases hauth : lowerName name = "authorization"
    · simp [hauth, List.lookup_cons]
    · have hne : (lowerName name == "content-type") = false := beq_eq_false_iff_ne.mpr htype
      have hne' : (lowerName name == "authorization") = false := beq_eq_false_iff_ne.mpr hauth
      simp [List.lookup_cons, htype, hauth, hne, hne']

/-- A request is built if the token and the caller's headers are allowed and there is an address;
without one of them it is not. -/
theorem build_ok_iff {root : ApiRoot} {d : Descriptor} {token : String} :
    (∃ request, Request.build root d token = .ok request) ↔
      isHeaderValue (bearer token) = true ∧ (∀ header ∈ d.headers, IsHeader header) ∧
        (root.url? d.path).isSome = true := by
  have hgiven : (∃ headers, (defaultHeaders token).insertAll d.headers = .ok headers) ↔
      ∀ header ∈ d.headers, IsHeader header := Headers.insertAll_ok_iff
  rw [← hgiven]
  simp only [build, bind, Except.bind]
  by_cases htoken : isHeaderValue (bearer token) = true
  · cases hheaders : (defaultHeaders token).insertAll d.headers with
    | error message => simp [htoken]
    | ok headers =>
      cases hurl : root.url? d.path with
      | none => simp [htoken, throw, throwThe, MonadExceptOf.throw]
      | some url => simp [htoken, pure, Except.pure]
  · simp [htoken, throw, throwThe, MonadExceptOf.throw]

end Request

/-- Under every access token, with every list of headers of the caller:

* a token or a header that HTTP does not allow, wherever it stands, keeps the request from being
  built, and the call ends as an internal failure with nothing sent;
* otherwise a request with an address is built, in which each name occurs once, whatever its case,
  with the last value that the caller gives or else the default one, and no other name occurs;
* the same request under another token differs from it at most in the header that carries the
  token. -/
theorem header_assembly (root : ApiRoot) (d : Descriptor) (token : String) :
    ((isHeaderValue (Request.bearer token) = false ∨ ∃ header ∈ d.headers, ¬ IsHeader header) →
      ∃ message, Request.build root d token = .error message ∧
        ∀ (σ : Type) (g : Gateway σ) (id : CallId) (next : Request → Phase), g.root = root →
          g.attempt id d token next = g.fail id (.internal message) ∧
          (g.attempt id d token next).log =
            .finished id (.payload (.error (.internal message))) :: g.log) ∧
    (isHeaderValue (Request.bearer token) = true → (∀ header ∈ d.headers, IsHeader header) →
      ∀ url, root.url? d.path = some url →
        ∃ request, Request.build root d token = .ok request ∧ request.method = d.method ∧
          request.url = url ∧ request.body = d.body.map Json.compact ∧
          (request.headers.map fun header => lowerName header.1).Nodup ∧
          (∀ name value, expectedHeader? d token name = some value ↔
            ∃ written, lowerName written = lowerName name ∧ (written, value) ∈ request.headers) ∧
          ∀ other, isHeaderValue (Request.bearer other) = true →
            ∃ request', Request.build root d other = .ok request' ∧
              request'.method = request.method ∧ request'.url = request.url ∧
              request'.body = request.body ∧
              request'.headers.filter (fun header => header.1 ≠ "authorization") =
                request.headers.filter fun header => header.1 ≠ "authorization") := by
  constructor
  · intro hbad
    have hfails : ¬ ∃ request, Request.build root d token = .ok request := by
      rw [Request.build_ok_iff]
      rintro ⟨htoken, hheaders, -⟩
      rcases hbad with hbad | ⟨header, hmem, hbad⟩
      · rw [hbad] at htoken
        cases htoken
      · exact hbad (hheaders header hmem)
    cases hbuild : Request.build root d token with
    | ok request => exact absurd ⟨request, hbuild⟩ hfails
    | error message =>
      refine ⟨message, rfl, ?_⟩
      rintro σ g id next rfl
      have hattempt : g.attempt id d token next = g.fail id (.internal message) := by
        simp only [Gateway.attempt, hbuild]
      exact ⟨hattempt, by rw [hattempt]; rfl⟩
  · intro htoken hgiven url hurl
    have hsome : (root.url? d.path).isSome = true := by rw [hurl]; rfl
    obtain ⟨request, hbuild⟩ := Request.build_ok_iff.mpr ⟨htoken, hgiven, hsome⟩
    obtain ⟨headers, url', hheaders, hurl', rfl⟩ := Request.build_eq_ok hbuild
    obtain rfl : url = url' := Option.some.inj (hurl.symm.trans hurl')
    have hnodup := Headers.nodup_insertAll hheaders
      (show (["content-type", "authorization"] : List String).Nodup by decide)
    have hlower := Headers.lowerName_insertAll hheaders
      (show ∀ name ∈ (["content-type", "authorization"] : List String), lowerName name = name by
        decide)
    -- the names are in lower case already, so none of them differ in case alone
    have hfold : headers.map (fun header => lowerName header.1) = headers.map Prod.fst :=
      List.map_congr_left fun header hmem => hlower _ (List.mem_map_of_mem hmem)
    refine ⟨_, hbuild, rfl, rfl, rfl, hfold ▸ hnodup, ?_, ?_⟩
    · intro name value
      have hget : headers.get? (lowerName name) = expectedHeader? d token name := by
        rw [Headers.get?_of_insertAll hheaders, Request.get?_defaultHeaders]
        rfl
      rw [← hget, ← Headers.mem_iff_get? hnodup]
      constructor
      · intro hmem
        exact ⟨lowerName name, lowerName_lowerName name, hmem⟩
      · rintro ⟨written, hname, hmem⟩
        rwa [← hname, hlower written (List.mem_map_of_mem hmem)]
    · intro other hother
      obtain ⟨request', hbuild'⟩ := Request.build_ok_iff.mpr ⟨hother, hgiven, hsome⟩
      -- a caller who gives the header overrides either token, and then nothing differs at all
      have hsame := Request.sameBut_build hbuild hbuild'
      refine ⟨request', hbuild', hsame.method, hsame.url, hsame.body, ?_⟩
      by_cases hleaves : d.LeavesAuthorization
      · rw [hsame.headers hleaves, Headers.filter_insert]
      · rw [hsame.overridden hleaves]

/-- The caller overrides a default, and itself. -/
example :
    let d : Descriptor :=
      ⟨.get, "/orders", [("Content-Type", "text/csv"), ("x-trace", "1"), ("X-Trace", "2")], none, 1⟩
    (Request.build ⟨"http://[::1]"⟩ d "A1").toOption.map Request.headers =
      some [("content-type", "text/csv"), ("authorization", "Bearer A1"), ("x-trace", "2")] := by
  decide +kernel

end BearerClient
