import AuditReports.Proofs.Api.Calls
import AuditReports.Proofs.Text.Forms

/-!
# Queries of the targets

Two calls have parameters, which go into the query of the target. They are encoded when they are
added, so nothing in them ends the query or a pair, and reading the query gives them back. What
comes before is the target of the address: unless the base or the prefix has a query or a fragment,
it has no query of its own, and no question mark is left in its path. So the first question mark of
the target is where the parameters begin.
-/

namespace AuditReports

namespace HttpRequest

/-- The query of the target: what follows its first question mark. -/
def query? (request : HttpRequest) : Option (List Char) :=
  (Text.cutFirst '?' request.target.toList).2

/-- The query reads as these pairs. Without any pair there is no query. -/
def Carries (request : HttpRequest) (pairs : List (String × String)) : Prop :=
  request.query?.map Text.Form.decode = if pairs = [] then none else some pairs

end HttpRequest

namespace Target

/-! ## What is left in a path -/

theorem escapesInPath_of_escaped {character : Char} {segment : List Char}
    (listed : character ∈ segment.flatMap (escapeIf escapesInPath)) :
    escapesInPath character = false := by
  rcases List.mem_flatMap.mp listed with ⟨given, _, written⟩
  rw [escapeIf] at written
  split at written
  · rcases List.mem_flatMap.mp written with ⟨byte, _, escaped⟩
    exact (Mount.shown_of_plain (Text.Percent.escape_subset_plain byte escaped)).2.2.2.1
  · rename_i kept
    rw [List.mem_singleton.mp written]
    exact Bool.eq_false_iff.mpr kept

theorem escapesInPath_of_resolve {before segments : List (List Char)}
    (earlier : ∀ segment ∈ before, ∀ character ∈ segment, escapesInPath character = false) :
    ∀ segment ∈ resolve before segments, ∀ character ∈ segment,
      escapesInPath character = false := by
  have empty : ∀ character ∈ ([] : List Char), escapesInPath character = false :=
    fun _ none => by cases none
  induction segments generalizing before with
  | nil => simpa [resolve] using earlier
  | cons segment rest ih =>
      rw [resolve]
      split
      · have dropped : ∀ segment ∈ before.drop 1, ∀ character ∈ segment,
            escapesInPath character = false :=
          fun segment listed => earlier segment (List.mem_of_mem_drop listed)
        apply ih
        split
        · exact List.forall_mem_cons.mpr ⟨empty, dropped⟩
        · exact dropped
      · split
        · apply ih
          split
          · exact List.forall_mem_cons.mpr ⟨empty, earlier⟩
          · exact earlier
        · exact ih (List.forall_mem_cons.mpr ⟨fun _ => escapesInPath_of_escaped, earlier⟩)

/-- A question mark in a path is escaped. -/
theorem not_mem_pathOf (characters : List Char) : '?' ∉ pathOf characters := by
  intro listed
  rcases List.mem_flatMap.mp listed with ⟨segment, resolved, within⟩
  rcases List.mem_cons.mp within with slash | within
  · cases slash
  · have kept := escapesInPath_of_resolve (fun _ none => by cases none) segment resolved _ within
    cases kept

/-! ## Targets without a query -/

theorem clean_subset (characters : List Char) : clean characters ⊆ characters := by
  intro character listed
  have trimmed := List.mem_reverse.mp (List.mem_filter.mp listed).1
  have inner := List.mem_reverse.mp ((List.dropWhile_suffix _).subset trimmed)
  exact (List.dropWhile_suffix _).subset inner

theorem afterHost?_subset {characters rest : List Char}
    (found : afterHost? characters = some rest) : rest ⊆ characters := by
  simp only [afterHost?, bind, Option.bind_eq_some_iff, Option.ite_none_right_eq_some,
    Option.some.injEq] at found
  rcases found with ⟨named, scheme, _, rfl⟩
  rcases eq_of_afterScheme? scheme with ⟨taken, rfl, _⟩
  intro character listed
  have inner := (List.dropWhile_suffix _).subset listed
  exact List.mem_append_right _ ((List.dropWhile_suffix _).subset inner)

/-- Where nothing begins a query or a fragment, there is only a path. -/
theorem eq_of_ofUrl? {url : String} {target : Target} (found : ofUrl? url = some target)
    (unmarked : ∀ mark ∈ ['?', '#'], mark ∉ url.toList) :
    ∃ path, target = ⟨path, none⟩ ∧ '?' ∉ path := by
  rw [ofUrl?_eq] at found
  rcases Option.map_eq_some_iff.mp found with ⟨rest, host, rfl⟩
  have within : ∀ character ∈ rest, isOfPath character = true := by
    intro character listed
    rw [← Bool.not_eq_false]
    intro ends
    have given := clean_subset _ (afterHost?_subset host listed)
    refine unmarked character ?_ given
    rcases isOfPath_eq_false_iff.mp ends with rfl | rfl <;> simp
  exact ⟨pathOf rest, ofRest_of_path within, not_mem_pathOf rest⟩

theorem withPairs_of_path (path : List Char) (pairs : List (String × String)) :
    (⟨path, none⟩ : Target).withPairs pairs =
      ⟨path, if pairs = [] then none else some (Text.Form.encode pairs)⟩ := by
  by_cases none : pairs = []
  · simp [withPairs, none, Text.Form.encode]
  · simp [withPairs, none, Text.Form.encode_eq_nil_iff]

/-- What is added to a path can be read off the text of the target. -/
theorem carries_get {path : List Char} (unmarked : '?' ∉ path) (pairs : List (String × String))
    (accept : String) :
    (Client.get ((⟨path, none⟩ : Target).withPairs pairs) accept).Carries pairs := by
  rw [HttpRequest.Carries, HttpRequest.query?, withPairs_of_path]
  by_cases none : pairs = []
  · simp [Client.get, text, none, Text.cutFirst_of_not_mem unmarked]
  · simp [Client.get, text, none, Text.cutFirst_append_cons unmarked, Text.Form.decode_encode]

end Target

/-! ## Parameters -/

/-- The parameters that have a value, in their order. -/
def given (parameters : List (String × Option String)) : List (String × String) :=
  parameters.filterMap fun (name, value) => value.map (name, ·)

theorem given_append (first second : List (String × Option String)) :
    given (first ++ second) = given first ++ given second :=
  List.filterMap_append

theorem LocationQuery.positive_eq (name : String) (number : Option Nat) :
    positive name number = given [(name, (number.filter (0 < ·)).map toString)] := by
  rcases number with _ | _ | number <;> rfl

theorem LocationQuery.pairs_eq (query : LocationQuery) :
    query.pairs = given [("page", (query.page.filter (0 < ·)).map toString),
      ("page_size", (query.pageSize.filter (0 < ·)).map toString),
      ("search", (query.search.map Text.trim).filter (· ≠ ""))] := by
  have search : query.search.bind Text.content? =
      (query.search.map Text.trim).filter (· ≠ "") := by
    rcases query.search with _ | search
    · rfl
    · by_cases blank : Text.trim search = "" <;> simp [Text.content?, Option.filter, blank]
  calc query.pairs
      = given [("page", (query.page.filter (0 < ·)).map toString)] ++
          given [("page_size", (query.pageSize.filter (0 < ·)).map toString)] ++
          given [("search", query.search.bind Text.content?)] := by
        rw [pairs, positive_eq, positive_eq]
        congr 1
        rcases query.search.bind Text.content? with _ | search <;> rfl
    _ = given [("page", (query.page.filter (0 < ·)).map toString),
          ("page_size", (query.pageSize.filter (0 < ·)).map toString),
          ("search", query.search.bind Text.content?)] := by
        rw [← given_append, ← given_append]
        rfl
    _ = _ := by rw [search]

theorem LocationKey.pairs_eq (key : LocationKey) :
    key.pairs = given [("address", (some key.address).filter (· ≠ "")),
      ("location_id", key.locationId.map toString)] := by
  rcases key with ⟨address, _ | locationId⟩ <;> by_cases empty : address = "" <;>
    simp [pairs, given, Option.filter, empty]

namespace Call

variable {τ : Type} {transport : Transport τ} {state : τ} {mount : Mount}

/-- What a call sends is its request. -/
theorem request?_of_sent {call : Call} (sendable : call.IsSendable) {sent : HttpRequest × Delivery}
    (listed : sent ∈ (call.perform transport.recorded mount (state, [])).2.2) :
    call.request? mount = some sent.1 := by
  cases found : call.request? mount with
  | none =>
      rw [perform_eq_call transport.recorded sendable, found] at listed
      cases listed
  | some request =>
      rw [perform_eq transport.recorded sendable found] at listed
      rw [List.mem_singleton.mp listed]

/-- Parameters are added to a path without a question mark. -/
theorem carries_of_sent
    (unmarked : ∀ mark ∈ ['?', '#'], mark ∉ mount.base.toList ∧ mark ∉ mount.apiPath.toList)
    {call : Call} {sent : HttpRequest × Delivery}
    (listed : sent ∈ (call.perform transport.recorded mount (state, [])).2.2)
    (sendable : call.IsSendable) (path : call.path = "/locations")
    {pairs : List (String × String)} (added : ∀ target,
      call.requestTo target = Client.get (target.withPairs pairs) Client.acceptJson) :
    sent.1.Carries pairs := by
  have found := request?_of_sent sendable listed
  rw [request?, path] at found
  rcases Option.map_eq_some_iff.mp found with ⟨target, reached, requested⟩
  have absent : ∀ mark ∈ ['?', '#'], mark ∉ (mount.address "/locations").toList := by
    intro mark isMark listed
    have other : mark ≠ '/' := by
      rintro rfl
      exact absurd isMark (by decide)
    have outside : ∀ mark ∈ ['?', '#'], mark ∉ "/locations".toList :=
      List.all_iff_forall_prop.mp (by decide)
    rw [Mount.address, String.toList_ofList, Mount.collapse, Mount.mem_collapseFrom_iff other,
      List.mem_append, List.mem_append] at listed
    rcases listed with (base | prefixed) | path
    · exact (unmarked mark isMark).1 base
    · exact (unmarked mark isMark).2 prefixed
    · exact outside mark isMark path
  rcases Target.eq_of_ofUrl? reached absent with ⟨path, rfl, unmarkedPath⟩
  rw [← requested, added]
  exact Target.carries_get unmarkedPath pairs _

/-- Parameters survive the wire. If neither the base nor the prefix has a query or a fragment, then
whatever is sent to list locations has a query that reads as the parameters that are set, in this
order: the page and the size of a page, if they are positive, and the trimmed text to search for, if
it is not blank. What is sent to show a location has one that reads as the address as it is, if it
is not empty, and the number of the location. Without any of them there is no query. If the base is
an absolute address of the web, exactly one request is sent. -/
theorem parameters_survive (base mounted : String) {τ : Type} (transport : Transport τ)
    (state : τ) :
    let mount := (Mount.ofBase base).under mounted
    let traffic := fun call : Call => (call.perform transport.recorded mount (state, [])).2.2
    (∀ mark ∈ ['?', '#'], mark ∉ mount.base.toList ∧ mark ∉ mount.apiPath.toList) →
    (∀ page pageSize search, ∀ sent ∈ traffic (locations ⟨page, pageSize, search⟩),
      sent.1.Carries (given [("page", (page.filter (0 < ·)).map toString),
        ("page_size", (pageSize.filter (0 < ·)).map toString),
        ("search", (search.map Text.trim).filter (· ≠ ""))])) ∧
    (∀ address locationId, ∀ sent ∈ traffic (location ⟨address, locationId⟩),
      sent.1.Carries (given [("address", (some address).filter (· ≠ "")),
        ("location_id", locationId.map toString)])) ∧
    ((Mount.ofBase base).IsAbsolute → ∀ call, call.IsSendable →
      ∃ sent, traffic call = [sent]) := by
  intro mount traffic unmarked
  refine ⟨?_, ?_, ?_⟩
  · intro page pageSize search sent listed
    rw [← LocationQuery.pairs_eq ⟨page, pageSize, search⟩]
    exact carries_of_sent unmarked listed trivial rfl fun _ => rfl
  · intro address locationId sent listed
    rw [← LocationKey.pairs_eq ⟨address, locationId⟩]
    exact carries_of_sent unmarked listed trivial rfl fun _ => rfl
  · intro absolute call sendable
    rcases exists_request? absolute mounted call with ⟨request, found⟩
    exact ⟨_, congrArg (·.2.2) (perform_eq transport.recorded sendable found (state, []))⟩

/-- A text full of what means something in a query. -/
theorem crowded_search_survives :
    (∀ mark ∈ ['?', '#'],
        mark ∉ ((Mount.ofBase "http://localhost:8080").under "/webhook").base.toList ∧
          mark ∉ ((Mount.ofBase "http://localhost:8080").under "/webhook").apiPath.toList) ∧
      ∃ sent, ((locations ⟨some 2, some 0, some " a&b=c+d%20#?ä\t"⟩).perform
          Transport.offline.recorded ((Mount.ofBase "http://localhost:8080").under "/webhook")
            ((), [])).2.2 = [sent] ∧
        sent.1.query?.map Text.Form.decode =
          some [("page", "2"), ("search", "a&b=c+d%20#?ä")] := by
  have unmarked : ∀ mark ∈ ['?', '#'],
      mark ∉ ((Mount.ofBase "http://localhost:8080").under "/webhook").base.toList ∧
        mark ∉ ((Mount.ofBase "http://localhost:8080").under "/webhook").apiPath.toList :=
    List.all_iff_forall_prop.mp (by decide)
  have absolute : (Mount.ofBase "http://localhost:8080").IsAbsolute := by decide +kernel
  have trimmed : Text.trim " a&b=c+d%20#?ä\t" = "a&b=c+d%20#?ä" := by decide +kernel
  rcases parameters_survive "http://localhost:8080" "/webhook" Transport.offline () unmarked with
    ⟨listing, _, single⟩
  rcases single absolute (locations ⟨some 2, some 0, some " a&b=c+d%20#?ä\t"⟩) trivial with
    ⟨sent, traffic⟩
  have carried := listing (some 2) (some 0) (some " a&b=c+d%20#?ä\t") sent
    (by rw [traffic]; exact List.mem_singleton_self _)
  rw [HttpRequest.Carries, Option.map_some, trimmed] at carried
  exact ⟨unmarked, sent, traffic, carried.trans (by decide +kernel)⟩

end Call

end AuditReports
