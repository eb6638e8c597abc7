import LongPoll.Proofs.Http.Service
/-!
# Who is let through to administration

A request for administration shows a token if its first `authorization` header is text, and this
text is `Bearer `, white space, the token, and white space (`Http.ShowsToken`). It is let through if
and only if it shows a configured token (`Http.admission_eq_granted_iff`): secrets are compared by
the octets in which they differ, all of which are accumulated, and the comparison goes over all
configured tokens without stopping.

The operations of administration stand at paths without parameters, two at each path with a method
of their own. A request for one of them is therefore carried out as that very operation, or answered
with a failure before anything but the log has changed (`administration_requires_token`).
-/

namespace LongPoll

namespace Http

/-! ### Secrets -/

/-- Octets are read one after the other onto what has been read before. -/
theorem toList_loop_eq (octets : ByteArray) (i : Nat) (read : List UInt8) :
    ByteArray.toList.loop octets i read = read.reverse ++ octets.data.toList.drop i := by
  fun_induction ByteArray.toList.loop octets i read with
  | case1 i read hlt ih =>
    have hlen : i < octets.data.toList.length := by simpa using hlt
    have hget : octets.get! i = octets.data.toList[i] := by
      rw [ByteArray.get!, Array.getElem_toList, getElem!_pos]
    rw [ih, List.drop_eq_getElem_cons hlen, List.reverse_cons, List.append_assoc, hget]
    rfl
  | case2 i read hge =>
    rw [List.drop_eq_nil_of_le (by simpa using hge), List.append_nil]

theorem toList_eq (octets : ByteArray) : octets.toList = octets.data.toList := by
  rw [ByteArray.toList, toList_loop_eq, List.reverse_nil, List.nil_append, List.drop_zero]

/-- Octets at the same place differ in no bit only if they are the same. -/
theorem differingBits_eq_zero_iff {as bs : List UInt8} (h : as.length = bs.length) :
    differingBits as bs = 0 ↔ as = bs := by
  induction as generalizing bs with
  | nil =>
    cases bs with
    | nil => simp [differingBits]
    | cons b bs => exact absurd h nofun
  | cons a as ih =>
    cases bs with
    | nil => exact absurd h nofun
    | cons b bs =>
      rw [differingBits, UInt8.or_eq_zero_iff, UInt8.xor_eq_zero_iff, ih (Nat.succ.inj h),
        List.cons.injEq]

/-- Secrets are the same if they have the same size and do not differ in any bit. -/
theorem sameSecret_iff {a b : ByteArray} : sameSecret a b = true ↔ a = b := by
  unfold sameSecret
  rw [Bool.and_eq_true, beq_iff_eq, beq_iff_eq, toList_eq, toList_eq]
  constructor
  · rintro ⟨hsize, hbits⟩
    have hlength : a.data.toList.length = b.data.toList.length := by simpa using hsize
    exact ByteArray.ext (Array.toList_inj.mp ((differingBits_eq_zero_iff hlength).mp hbits))
  · rintro rfl
    exact ⟨rfl, (differingBits_eq_zero_iff rfl).mpr rfl⟩

/-- It does not matter at which place of the list the token stands. -/
theorem isKnownToken_iff {tokens : List String} {shown : String} :
    isKnownToken tokens shown = true ↔ shown ∈ tokens := by
  suffices hfold : ∀ found, tokens.foldl
      (fun found t => sameSecret t.toUTF8 shown.toUTF8 || found) found = true ↔
        found = true ∨ shown ∈ tokens by
    rw [isKnownToken, hfold]
    simp
  intro found
  induction tokens generalizing found with
  | nil => simp
  | cons t tokens ih =>
    rw [List.foldl_cons, ih, Bool.or_eq_true, sameSecret_iff, String.toUTF8, String.toUTF8,
      String.toByteArray_inj, List.mem_cons]
    tauto

/-! ### Tokens -/

/-- The headers show a token: the value of the first `authorization` header consists of visible
ASCII characters, spaces and tabs, and it is the name of the scheme, white space, one of the tokens,
and white space. The token itself neither begins nor ends with white space. -/
def ShowsToken (tokens : List String) (headers : List (String × String)) : Prop :=
  ∃ header, headers.find? (fun header => lowerCase header.1 == "authorization") = some header ∧
    (∀ c ∈ header.2.toList, (' ' ≤ c ∧ c ≤ '~') ∨ c = '\t') ∧
    ∃ token ∈ tokens, ∃ lead trail : List Char,
      header.2.toList = "Bearer ".toList ++ (lead ++ (token.toList ++ trail)) ∧
      (∀ c ∈ lead, Text.isBlank c = true) ∧ (∀ c ∈ trail, Text.isBlank c = true) ∧
      (∀ c ∈ token.toList.head?, Text.isBlank c = false) ∧
      ∀ c ∈ token.toList.getLast?, Text.isBlank c = false

/-- Headers are text if they consist of visible ASCII characters, spaces and tabs. -/
theorem isHeaderChar_iff {c : Char} :
    isHeaderChar c = true ↔ (' ' ≤ c ∧ c ≤ '~') ∨ c = '\t' := by
  simp [isHeaderChar]

/-- The text of a header is the value of the first header of the name, if that is text. -/
theorem headerText?_eq_some_iff {name value : String} {headers : List (String × String)} :
    headerText? name headers = some value ↔
      ∃ header, headers.find? (fun header => lowerCase header.1 == name) = some header ∧
        (∀ c ∈ header.2.toList, (' ' ≤ c ∧ c ≤ '~') ∨ c = '\t') ∧ header.2 = value := by
  unfold headerText?
  -- only the first header of the name counts, even if a later one could be read
  cases hfind : headers.find? (fun header => lowerCase header.1 == name) with
  | none => simp
  | some header =>
    obtain ⟨n, v⟩ := header
    have hall : v.toList.all isHeaderChar = true ↔
        ∀ c ∈ v.toList, (' ' ≤ c ∧ c ≤ '~') ∨ c = '\t' := by
      simp only [List.all_eq_true, isHeaderChar_iff]
    dsimp only
    split
    next htext =>
      constructor
      · exact fun heq => ⟨(n, v), rfl, hall.mp htext, Option.some.inj heq⟩
      · rintro ⟨header, heq, -, rfl⟩
        exact congrArg (Option.map Prod.snd) heq
    next htext =>
      refine ⟨nofun, ?_⟩
      rintro ⟨header, heq, hchars, -⟩
      obtain rfl := Option.some.inj heq
      exact absurd (hall.mpr hchars) htext

/-- The token of a request is what the first header of its name holds after the name of the scheme,
without the white space around it. -/
theorem bearerToken?_eq_some_iff {headers : List (String × String)} {token : String} :
    bearerToken? headers = some token ↔
      ∃ value rest, headerText? "authorization" headers = some value ∧
        value.toList = "Bearer ".toList ++ rest ∧ Text.trim rest = token.toList := by
  unfold bearerToken?
  cases headerText? "authorization" headers with
  | none => simp
  | some value =>
    dsimp only
    split
    next hscheme =>
      -- the scheme is matched to the letter, and the white space after the token's name goes
      obtain ⟨rest, hrest⟩ := List.isPrefixOf_iff_prefix.mp hscheme
      have hdrop : value.toList.drop bearerScheme.length = rest := by
        rw [← hrest, ← String.length_toList, List.drop_left]
      rw [hdrop, Option.some.injEq]
      constructor
      · rintro rfl
        exact ⟨value, rest, rfl, hrest.symm, String.toList_ofList.symm⟩
      · rintro ⟨value', rest', heq, hrest', htoken⟩
        obtain rfl := Option.some.inj heq
        obtain rfl := List.append_cancel_left (hrest.trans hrest')
        rw [htoken, String.ofList_toList]
    next hscheme =>
      refine ⟨nofun, ?_⟩
      rintro ⟨value', rest, heq, hrest, -⟩
      obtain rfl := Option.some.inj heq
      exact absurd (List.isPrefixOf_iff_prefix.mpr ⟨rest, hrest.symm⟩) hscheme

/-- Headers show a token if and only if the one that is read from them is a configured one. -/
theorem showsToken_iff {tokens : List String} {headers : List (String × String)} :
    ShowsToken tokens headers ↔ ∃ token ∈ tokens, bearerToken? headers = some token := by
  simp only [bearerToken?_eq_some_iff, headerText?_eq_some_iff]
  constructor
  · rintro ⟨header, hfind, htext, token, htoken, lead, trail, hvalue, hlead, htrail, hhead, hlast⟩
    exact ⟨token, htoken, header.2, _, ⟨header, hfind, htext, rfl⟩, hvalue,
      Text.trim_append hlead htrail hhead hlast⟩
  · rintro ⟨token, htoken, value, rest, ⟨header, hfind, htext, rfl⟩, hvalue, htrim⟩
    -- what is trimmed stands between white space, and neither begins nor ends with any
    obtain ⟨lead, trail, hrest, hlead, htrail⟩ := Text.append_trim rest
    rw [htrim] at hrest
    exact ⟨header, hfind, htext, token, htoken, lead, trail, hrest ▸ hvalue, hlead, htrail,
      fun c hc => Text.head?_trim (htrim ▸ hc), fun c hc => Text.getLast?_trim (htrim ▸ hc)⟩

/-- A request for administration is let through if and only if there are tokens at all and it shows
one of them. -/
theorem admission_eq_granted_iff {tokens : List String} {headers : List (String × String)} :
    admission tokens headers = .granted ↔ tokens ≠ [] ∧ ShowsToken tokens headers := by
  have hknown : (bearerToken? headers).any (isKnownToken tokens) = true ↔
      ShowsToken tokens headers := by
    simp only [Option.any_eq_true, isKnownToken_iff, showsToken_iff]
    exact ⟨fun ⟨token, hget, hmem⟩ => ⟨token, hmem, hget⟩,
      fun ⟨token, hmem, hget⟩ => ⟨token, hget, hmem⟩⟩
  unfold admission
  split
  next hempty => simp [List.isEmpty_iff.mp hempty]
  next hempty =>
    have hne : tokens ≠ [] := fun h => hempty (List.isEmpty_iff.mpr h)
    split
    next hshown => simp [hne, hknown.mp hshown]
    next hshown => simp [mt hknown.mpr hshown]

/-! ### Routes -/

/-- A path without parameters is the path of what stands there word by word. -/
theorem Segment.bind?_literals (texts : List String) {given arguments : List String} :
    bind? (texts.map .literal) given = some arguments ↔ given = texts ∧ arguments = [] := by
  induction texts generalizing given with
  | nil =>
    cases given with
    | nil => simp [bind?, eq_comm]
    | cons s given => simp [bind?]
  | cons t texts ih =>
    cases given with
    | nil => simp [bind?]
    | cons s given =>
      rw [List.map_cons, bind?]
      split
      next heq => rw [ih, List.cons.injEq, and_iff_right heq]
      next hne => simp [hne]

/-- A request has the method of one kind of operation at most. -/
theorem Method.eq_of_serves {m m' : Method} {name : String} (h : m.serves name = true)
    (h' : m'.serves name = true) : m = m' := by
  cases m <;> cases m' <;> simp_all [serves, word]

namespace Operation

variable {o : Operation} {given arguments : List String} {name : String}

/-- An operation stands at a path if and only if its own path fits there. -/
theorem mem_atPath_iff : (o, arguments) ∈ atPath given ↔
    Segment.bind? o.path given = some arguments := by
  have hall : o ∈ all := by cases o <;> decide
  simp [atPath, hall]

/-- The operations of administration stand at two paths, two at each of them. -/
theorem atPath_admin (hadmin : o.group = .admin) (hat : (o, arguments) ∈ atPath given) :
    arguments = [] ∧ (atPath given = [(.revoke, []), (.isRevoked, [])] ∨
      atPath given = [(.showFilter, []), (.setFilter, [])]) := by
  rw [mem_atPath_iff] at hat
  cases o with
  | revoke | isRevoked =>
    obtain ⟨rfl, rfl⟩ := (Segment.bind?_literals ["admin", "jwt", "revoke"]).mp hat
    exact ⟨rfl, Or.inl (by decide)⟩
  | showFilter | setFilter =>
    obtain ⟨rfl, rfl⟩ := (Segment.bind?_literals ["admin", "logging", "filter"]).mp hat
    exact ⟨rfl, Or.inr (by decide)⟩
  | _ => exact absurd hadmin (by decide)

/-- What a request finds at the path of an operation of administration if it has the method of that
operation. -/
theorem find?_atPath_admin (hadmin : o.group = .admin) (hat : (o, arguments) ∈ atPath given)
    (hmethod : o.method.serves name = true) :
    (atPath given).find? (fun found => found.1.method.serves name) = some (o, []) := by
  obtain ⟨rfl, hpair⟩ := atPath_admin hadmin hat
  cases hfind : (atPath given).find? fun found => found.1.method.serves name with
  | none =>
    have hnot := List.find?_eq_none.mp hfind _ hat
    exact absurd hmethod hnot
  | some found =>
    have hmem := List.mem_of_find?_eq_some hfind
    have hserves : found.1.method.serves name = true := by
      simpa using List.find?_some hfind
    -- the two operations at one path have different methods
    have hunique : ∀ x ∈ atPath given, ∀ y ∈ atPath given, x.1.method = y.1.method → x = y := by
      rcases hpair with hpair | hpair <;> rw [hpair] <;> decide
    rw [hunique found hmem (o, []) hat (Method.eq_of_serves hserves hmethod)]

end Operation

namespace Server

variable {s : Server} {r : Request} {o : Operation} {arguments : List String}

/-- Who is let through goes on. -/
theorem guarded_of_granted (h : admission s.adminTokens r.headers = .granted)
    (next : World → World × Job Response) : s.guarded r next = next := by
  funext w
  rw [guarded, h]

/-- Who is not let through gets the same answer wherever the way would lead, and nothing but the log
has changed. -/
theorem guarded_of_not_granted (h : admission s.adminTokens r.headers ≠ .granted) (w : World) :
    ∃ events text, ∀ next, s.guarded r next w =
      ({ w with events := events }, .done (failureResponse (.unauthorized text))) := by
  cases hadmission : admission s.adminTokens r.headers with
  | granted => exact absurd hadmission h
  | closed =>
    refine ⟨w.events, "admin API is disabled", fun next => ?_⟩
    rw [guarded, hadmission]
    rfl
  | rejected =>
    obtain ⟨events, heq⟩ := w.logs_report [] (.adminRejected (s.adminTarget r))
    refine ⟨events, "invalid admin token", fun next => ?_⟩
    rw [guarded, hadmission]
    dsimp only
    rw [heq]
    rfl

/-- A request for an operation of administration is carried out as that operation, if it is let
through. -/
theorem answer_admin (hadmin : o.group = .admin) (hat : (o, arguments) ∈ s.operationsAt r.path)
    (hmethod : o.method.serves r.method = true) :
    s.answer r = s.guarded r (s.perform o arguments r) := by
  have hfound : ∃ given, s.operationsAt r.path = Operation.atPath given := by
    unfold operationsAt at hat ⊢
    split at hat
    next given _ => exact ⟨given, rfl⟩
    next => exact absurd hat List.not_mem_nil
  obtain ⟨given, hgiven⟩ := hfound
  rw [hgiven] at hat
  have hchoose : s.choose (Operation.atPath given) r = s.perform o arguments r := by
    obtain ⟨rfl, -⟩ := Operation.atPath_admin hadmin hat
    rw [choose, Operation.find?_atPath_admin hadmin hat hmethod]
    rfl
  -- the guard stands before the choice of the operation, so the path alone decides whether it is
  -- met
  have hguarded : (Operation.atPath given).any (·.1.group = .admin) = true :=
    List.any_eq_true.mpr ⟨_, hat, decide_eq_true hadmin⟩
  unfold answer
  rw [hgiven]
  cases hpath : Operation.atPath given with
  | nil => exact absurd (hpath ▸ hat) List.not_mem_nil
  | cons found others =>
    dsimp only
    rw [← hpath, if_pos hguarded, hchoose]

/-- The answer to a request that was answered at once. -/
theorem receive_of_answer_done {w w' : World} {response : Response}
    (h : s.answer r w = (w', .done response)) :
    s.receive r w = (w', .ended (finish r response) w'.time) := by
  rw [receive, handle_eq, h]
  rfl

end Server

end Http

open Http Http.Server in
/-- A request for an operation of administration is let through to it, whatever the operation does,
if and only if there are tokens and the request shows one of them. If it is let through, it is
carried out; if not, it is answered with a failure of authorization, and nothing but the log has
changed. -/
theorem administration_requires_token {s : Http.Server} {r : Request} {o : Operation}
    {arguments : List String} (hadmin : o.group = .admin)
    (hat : (o, arguments) ∈ s.operationsAt r.path) (hmethod : o.method.serves r.method = true)
    (w : World) :
    ((∀ next, s.guarded r next w = next w) ↔
        s.adminTokens ≠ [] ∧ ShowsToken s.adminTokens r.headers) ∧
      (s.adminTokens ≠ [] ∧ ShowsToken s.adminTokens r.headers →
        s.answer r w = s.perform o arguments r w) ∧
      (¬(s.adminTokens ≠ [] ∧ ShowsToken s.adminTokens r.headers) → ∃ events text,
        s.receive r w = ({ w with events := events },
          .ended (finish r (.json 401 (.object
            [("error", .text ("Unauthorized: " ++ text)), ("code", .text "UNAUTHORIZED")])))
            w.time)) := by
  simp only [← admission_eq_granted_iff]
  have hanswer := answer_admin hadmin hat hmethod
  refine ⟨⟨fun hpasses => ?_, fun hgranted next => ?_⟩, fun hgranted => ?_, fun hnot => ?_⟩
  · by_contra hnot
    obtain ⟨events, text, hrefused⟩ := guarded_of_not_granted hnot w
    -- an operation that would be answered otherwise tells that it was not reached
    have hreached := (hrefused (answered (.bare 200))).symm.trans (hpasses _)
    exact absurd (congrArg (fun p => (p.2.conclude (.ok .done) w).2.status) hreached)
      (by decide : ¬401 = 200)
  · rw [guarded_of_granted hgranted]
  · rw [hanswer, guarded_of_granted hgranted]
  · obtain ⟨events, text, hrefused⟩ := guarded_of_not_granted hnot w
    refine ⟨events, text, receive_of_answer_done ?_⟩
    rw [hanswer, hrefused]
    rfl

namespace Sample

/-- A server with two administrators. -/
def office : Http.Server := ⟨⟨duo⟩, ["first secret", "second"], .seconds 10, "/pubpoll"⟩

/-- The filter is asked for with the token of the second administrator; another header of the name
comes too late. -/
def getFilter : Http.Request :=
  ⟨"GET", "/pubpoll/admin/logging/filter", none,
    [("Accept", "*/*"), ("Authorization", "Bearer \t second "), ("authorization", "Bearer third")],
    .empty⟩

/-- A token is revoked by someone whose token is almost the first one. -/
def putRevocation : Http.Request :=
  ⟨"PUT", "/pubpoll/admin/jwt/revoke", some "jti=token&exp=1700000000",
    [("AUTHORIZATION", "Bearer first secreé"), ("authorization", "Bearer second")], .empty⟩

end Sample

open Sample Http Http.Server in
/-- The second administrator is let through by the first header of the name, and almost a token is
none. -/
theorem administration_requires_token_office :
    office.answer getFilter freshWorld = showFilter freshWorld ∧
      ∃ events text, office.receive putRevocation freshWorld =
        ({ freshWorld with events := events },
          .ended (.json 401 (.object
            [("error", .text ("Unauthorized: " ++ text)), ("code", .text "UNAUTHORIZED")])) 0) := by
  have hfilter : (.showFilter, []) ∈ office.operationsAt getFilter.path := by decide +kernel
  have hrevoke : (.revoke, []) ∈ office.operationsAt putRevocation.path := by decide +kernel
  have hshown := administration_requires_token (r := getFilter) (o := .showFilter) rfl hfilter
    (by decide +kernel) freshWorld
  have hrejected := administration_requires_token (r := putRevocation) (o := .revoke) rfl hrevoke
    (by decide +kernel) freshWorld
  refine ⟨hshown.2.1 (admission_eq_granted_iff.mp (by decide +kernel)), ?_⟩
  exact hrejected.2.2 (mt admission_eq_granted_iff.mpr (by decide +kernel))

end LongPoll
