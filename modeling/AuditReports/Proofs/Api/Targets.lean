import Mathlib.Data.List.TakeWhile
import AuditReports.Api.Client
import AuditReports.Proofs.Api.Endpoints

/-!
# Targets by their parts

What is sent is not the address but what the rules of the URL standard make of it. They read it from
the left: the scheme, the host, the path, the query. In an address that has a host, the slash with
which the path of a call begins comes after the host. So everything up to that slash is read without
regard to what follows it, and whether there is a target is a matter of the client alone.

What follows the slash goes on with the path, or with the query if a question mark comes before it.
If there is a number sign before it, it is dropped. Where it goes on with the path, the segments
before it have been resolved when it is reached, and it is taken as it is if none of its segments
consists of dots and none of its characters has to be escaped.
-/

namespace AuditReports

namespace Text

section While

variable {holds : Char → Bool} {stop : Char}

/-- Where the test fails, what follows does not matter. -/
theorem takeWhile_append_cons (fails : holds stop = false) (first second : List Char) :
    (first ++ stop :: second).takeWhile holds = first.takeWhile holds := by
  induction first with
  | nil => simp [fails]
  | cons character first ih => simp only [List.cons_append, List.takeWhile_cons, ih]

theorem dropWhile_append_cons (fails : holds stop = false) (first second : List Char) :
    (first ++ stop :: second).dropWhile holds = first.dropWhile holds ++ stop :: second := by
  induction first with
  | nil => simp [fails]
  | cons character first ih =>
      simp only [List.cons_append, List.dropWhile_cons, ih]
      split <;> rfl

theorem drop_length_takeWhile (characters : List Char) :
    characters.drop (characters.takeWhile holds).length = characters.dropWhile holds := by
  conv => lhs; arg 2; rw [← characters.takeWhile_append_dropWhile (p := holds)]
  exact List.drop_left

/-- A text in which the test fails has a first place where it does. -/
theorem exists_first {characters : List Char} (listed : stop ∈ characters)
    (fails : holds stop = false) :
    ∃ before first after, characters = before ++ first :: after ∧
      (∀ character ∈ before, holds character = true) ∧ holds first = false := by
  induction characters with
  | nil => cases listed
  | cons character rest ih =>
      cases holding : holds character with
      | false => exact ⟨[], character, rest, rfl, by simp, holding⟩
      | true =>
          have later : stop ∈ rest := by
            rcases List.mem_cons.mp listed with rfl | later
            · rw [fails] at holding
              cases holding
            · exact later
          rcases ih later with ⟨before, first, after, rfl, within, failing⟩
          exact ⟨character :: before, first, after, rfl, List.forall_mem_cons.mpr ⟨holding, within⟩,
            failing⟩

end While

theorem cutFirst_append (separator : Char) (first second : List Char) :
    cutFirst separator (first ++ second) =
      match cutFirst separator first with
      | (before, some after) => (before, some (after ++ second))
      | (before, none) =>
          (before ++ (cutFirst separator second).1, (cutFirst separator second).2) := by
  induction first with
  | nil => rfl
  | cons character first ih =>
      simp only [List.cons_append, cutFirst]
      split
      · rfl
      · rw [ih]
        rcases cutFirst separator first with ⟨before, _ | after⟩ <;> rfl

theorem eq_of_cutFirst {separator : Char} {characters before after : List Char}
    (cut : cutFirst separator characters = (before, some after)) :
    characters = before ++ separator :: after := by
  induction characters generalizing before with
  | nil => cases cut
  | cons character characters ih =>
      rw [cutFirst] at cut
      split at cut
      · rename_i same
        cases cut
        rw [beq_iff_eq.mp same]
        rfl
      · rcases rest : cutFirst separator characters with ⟨first, second⟩
        rw [rest] at cut
        cases cut
        rw [ih rest]
        rfl

end Text

namespace Target

/-! ## Up to the slash -/

def isKept (character : Char) : Bool :=
  character != '\t' && character != '\n' && character != '\r'

/-- What cleaning leaves of the text before a slash. -/
def cleanBefore (front : List Char) : List Char :=
  (front.dropWhile isControlOrSpace).filter isKept

/-- What cleaning leaves of the text after a slash. -/
def cleanAfter (rest : List Char) : List Char :=
  (rest.reverse.dropWhile isControlOrSpace).reverse.filter isKept

theorem mem_cleanBefore_iff {front : List Char} {character : Char}
    (shown : isControlOrSpace character = false) (kept : isKept character = true) :
    character ∈ cleanBefore front ↔ character ∈ front := by
  constructor
  · intro listed
    exact (List.dropWhile_suffix _).subset (List.mem_filter.mp listed).1
  · intro listed
    rw [← front.takeWhile_append_dropWhile (p := isControlOrSpace)] at listed
    rcases List.mem_append.mp listed with hidden | later
    · rw [List.mem_takeWhile_imp hidden] at shown
      cases shown
    · exact List.mem_filter.mpr ⟨later, kept⟩

theorem clean_append_cons (front rest : List Char) :
    clean (front ++ '/' :: rest) = cleanBefore front ++ '/' :: cleanAfter rest := by
  have slash : isControlOrSpace '/' = false := rfl
  have turned : (front.dropWhile isControlOrSpace ++ '/' :: rest).reverse =
      rest.reverse ++ '/' :: (front.dropWhile isControlOrSpace).reverse := by simp
  have kept : isKept '/' = true := rfl
  rw [clean, Text.dropWhile_append_cons slash, turned, Text.dropWhile_append_cons slash]
  simp only [List.reverse_append, List.reverse_cons, List.reverse_reverse, List.append_assoc,
    List.singleton_append]
  exact (List.filter_append _ _).trans (congrArg _ (List.filter_cons_of_pos kept))

theorem isKept_of_visible {character : Char} (shown : isControlOrSpace character = false) :
    isKept character = true := by
  have other : ∀ stop, isControlOrSpace stop = true → character ≠ stop := by
    rintro stop hidden rfl
    rw [shown] at hidden
    cases hidden
  simp [isKept, other '\t' rfl, other '\n' rfl, other '\r' rfl]

section Visible

variable {rest : List Char} (visible : ∀ character ∈ rest, isControlOrSpace character = false)

include visible

theorem filter_isKept_of_visible : rest.filter isKept = rest :=
  List.filter_eq_self.mpr fun _ listed => isKept_of_visible (visible _ listed)

theorem cleanBefore_append_cons (front : List Char) :
    cleanBefore (front ++ '/' :: rest) = cleanBefore front ++ '/' :: rest := by
  have slash : isControlOrSpace '/' = false := rfl
  rw [cleanBefore, Text.dropWhile_append_cons slash, List.filter_append,
    List.filter_cons_of_pos (isKept_of_visible slash), filter_isKept_of_visible visible]
  rfl

theorem cleanAfter_of_visible : cleanAfter rest = rest := by
  have all : rest.reverse.dropWhile isControlOrSpace = rest.reverse := by
    rw [List.dropWhile_eq_self_iff]
    intro some
    rw [visible _ (List.mem_reverse.mp (List.getElem_mem some))]
    decide
  rw [cleanAfter, all, List.reverse_reverse, filter_isKept_of_visible visible]

end Visible

theorem afterScheme?_append_cons (front rest : List Char) :
    afterScheme? (front ++ '/' :: rest) = (afterScheme? front).map (· ++ '/' :: rest) := by
  rw [afterScheme?, afterScheme?, Text.cutFirst_append]
  rcases Text.cutFirst ':' front with ⟨scheme, _ | after⟩
  · have slash : Text.cutFirst ':' ('/' :: rest) =
        ('/' :: (Text.cutFirst ':' rest).1, (Text.cutFirst ':' rest).2) := rfl
    rw [slash]
    rcases Text.cutFirst ':' rest with ⟨more, _ | after⟩
    · rfl
    · have other : ∀ name, '/' ∉ name → (scheme ++ '/' :: more).map Char.toLower ≠ name := by
        rintro name absent rfl
        exact absent (List.mem_map.mpr ⟨'/', by simp, rfl⟩)
      have http := other "http".toList (by decide)
      have https := other "https".toList (by decide)
      simp only [beq_eq_false_iff_ne.mpr http, beq_eq_false_iff_ne.mpr https]
      rfl
  · dsimp only
    split <;> rfl

/-- May stand before the query and the fragment. -/
def isOfPath (character : Char) : Bool :=
  character != '?' && character != '#'

theorem isOfPath_eq_false_iff {character : Char} :
    isOfPath character = false ↔ character = '?' ∨ character = '#' := by
  by_cases mark : character = '?' <;> simp [isOfPath, mark]

/-- The scheme and its colon are before the query and the fragment. -/
theorem eq_of_afterScheme? {characters rest : List Char}
    (found : afterScheme? characters = some rest) :
    ∃ taken, characters = taken ++ rest ∧ ∀ character ∈ taken, isOfPath character = true := by
  rw [afterScheme?] at found
  rcases cut : Text.cutFirst ':' characters with ⟨scheme, _ | after⟩
  · rw [cut] at found
    cases found
  rw [cut] at found
  dsimp only at found
  split at found
  · rename_i named
    cases found
    have letters : ∀ character ∈ scheme, character.toLower ∈ "https".toList := by
      intro character listed
      have lowered : character.toLower ∈ scheme.map Char.toLower := List.mem_map_of_mem listed
      rcases (Bool.or_eq_true _ _).mp named with http | https
      · rw [beq_iff_eq.mp http] at lowered
        exact (show "http".toList ⊆ "https".toList by decide) lowered
      · rwa [beq_iff_eq.mp https] at lowered
    refine ⟨scheme ++ [':'], by simp [Text.eq_of_cutFirst cut], ?_⟩
    intro character listed
    rcases List.mem_append.mp listed with listed | listed
    · have letter := letters character listed
      have mark : character ≠ '?' := by
        rintro rfl
        exact absurd letter (by decide)
      have sign : character ≠ '#' := by
        rintro rfl
        exact absurd letter (by decide)
      simp [isOfPath, mark, sign]
    · rw [List.mem_singleton.mp listed]
      rfl
  · cases found

def isOfHost (character : Char) : Bool :=
  !endsAuthority character

/-- What follows the host, if there is one. -/
def afterHost? (characters : List Char) : Option (List Char) := do
  let rest ← afterScheme? characters
  let rest := rest.dropWhile isSlash
  if validAuthority (rest.takeWhile isOfHost) then
    some (rest.dropWhile isOfHost)
  else none

/-- The path and the query that follow the host. -/
def ofRest (rest : List Char) : Target :=
  ⟨pathOf (rest.takeWhile isOfPath), queryOf (rest.dropWhile isOfPath)⟩

theorem ofUrl?_eq (url : String) :
    ofUrl? url = (afterHost? (clean url.toList)).map ofRest := by
  rw [ofUrl?, afterHost?]
  cases afterScheme? (clean url.toList) with
  | none => rfl
  | some rest =>
      simp only [bind, Option.bind_some, Text.drop_length_takeWhile]
      rw [apply_ite (Option.map ofRest)]
      rfl

theorem dropWhile_isSlash_append {named : List Char} (some : named.dropWhile isSlash ≠ [])
    (rest : List Char) :
    (named ++ '/' :: rest).dropWhile isSlash = named.dropWhile isSlash ++ '/' :: rest := by
  rw [List.dropWhile_append, if_neg (by simpa using some)]

/-- If there is a host before a slash, then what follows the slash has no part in that. -/
theorem afterHost?_append_cons {front found : List Char}
    (reached : afterHost? (front ++ ['/']) = some found) :
    ∃ taken mounted, front = taken ++ mounted ∧ (∀ character ∈ taken, isOfPath character = true) ∧
      ∀ rest, afterHost? (front ++ '/' :: rest) = some (mounted ++ '/' :: rest) := by
  have slash : isOfHost '/' = false := rfl
  rw [afterHost?, afterScheme?_append_cons] at reached
  cases scheme : afterScheme? front with
  | none =>
      rw [scheme] at reached
      cases reached
  | some named =>
      rw [scheme] at reached
      simp only [Option.map_some, bind, Option.bind_some] at reached
      rcases eq_of_afterScheme? scheme with ⟨taken, rfl, ofPath⟩
      -- Otherwise the slash would belong to the run before the host, which would be empty.
      have some : named.dropWhile isSlash ≠ [] := by
        intro none
        have empty : (named ++ ['/']).dropWhile isSlash = [] := by
          rw [List.dropWhile_append, none]
          rfl
        rw [empty] at reached
        cases reached
      have skipped := dropWhile_isSlash_append some
      refine ⟨taken ++ named.takeWhile isSlash ++
        (named.dropWhile isSlash).takeWhile isOfHost,
        (named.dropWhile isSlash).dropWhile isOfHost, ?_, ?_, ?_⟩
      · simp [List.takeWhile_append_dropWhile]
      · have slashes : ∀ character, isSlash character = true → isOfPath character = true := by
          intro character slash
          rcases (Bool.or_eq_true _ _).mp slash with same | same <;> rw [beq_iff_eq.mp same] <;> rfl
        have host : ∀ character, isOfHost character = true → isOfPath character = true := by
          intro character ofHost
          simp only [isOfHost, endsAuthority, Bool.not_eq_true', Bool.or_eq_false_iff] at ofHost
          simp [isOfPath, bne, ofHost]
        intro character listed
        rcases List.mem_append.mp listed with listed | listed
        · rcases List.mem_append.mp listed with listed | listed
          · exact ofPath character listed
          · exact slashes character (List.mem_takeWhile_imp listed)
        · exact host character (List.mem_takeWhile_imp listed)
      · intro rest
        rw [skipped, Text.takeWhile_append_cons slash] at reached
        rw [afterHost?, afterScheme?_append_cons, scheme]
        simp only [Option.map_some, bind, Option.bind_some, skipped,
          Text.takeWhile_append_cons slash, Text.dropWhile_append_cons slash]
        split
        · rfl
        · rename_i invalid
          rw [if_neg invalid] at reached
          cases reached

/-- What has a host keeps it when something is added behind a slash. -/
theorem afterHost?_append {front found : List Char} (reached : afterHost? front = some found)
    (rest : List Char) : afterHost? (front ++ '/' :: rest) = some (found ++ '/' :: rest) := by
  have slash : isOfHost '/' = false := rfl
  rw [afterHost?] at reached
  rw [afterHost?, afterScheme?_append_cons]
  cases scheme : afterScheme? front with
  | none =>
      rw [scheme] at reached
      cases reached
  | some named =>
      rw [scheme] at reached
      simp only [Option.map_some, bind, Option.bind_some] at reached ⊢
      split at reached
      · rename_i valid
        rcases Option.some.inj reached with rfl
        have some : named.dropWhile isSlash ≠ [] := by
          intro none
          rw [none] at valid
          exact absurd valid (by decide)
        rw [dropWhile_isSlash_append some, Text.takeWhile_append_cons slash,
          Text.dropWhile_append_cons slash, if_pos valid]
      · cases reached

/-! ## From the slash on -/

/-- A question mark or a number sign ends the path. -/
theorem ofRest_append_cons {before : List Char} {stop : Char}
    (within : ∀ character ∈ before, isOfPath character = true) (stops : isOfPath stop = false)
    (rest : List Char) :
    ofRest (before ++ stop :: rest) = ⟨pathOf before, queryOf (stop :: rest)⟩ := by
  rw [ofRest, List.takeWhile_append_of_pos within, List.dropWhile_append_of_pos within]
  simp [stops]

/-- Behind a number sign nothing counts. -/
theorem ofRest_append_of_fragment {mounted : List Char} (sign : '#' ∈ mounted)
    (first second : List Char) : ofRest (mounted ++ first) = ofRest (mounted ++ second) := by
  have query : ∀ {given}, '#' ∈ given → ∀ rest,
      queryOf ('?' :: (given ++ rest)) = queryOf ('?' :: given) := by
    intro given listed rest
    rcases List.append_of_mem listed with ⟨before, after, rfl⟩
    have ends : ∀ rest,
        (before ++ '#' :: rest).takeWhile (· != '#') = before.takeWhile (· != '#') :=
      fun rest => Text.takeWhile_append_cons rfl before rest
    simp only [queryOf, List.append_assoc, List.cons_append, ends]
  rcases Text.exists_first sign (show isOfPath '#' = false from rfl) with
    ⟨before, stop, after, rfl, within, stops⟩
  simp only [List.append_assoc, List.cons_append, ofRest_append_cons within stops]
  by_cases mark : stop = '?'
  · subst mark
    have later : '#' ∈ after := by
      rcases List.mem_append.mp sign with before | after
      · cases within _ before
      · simpa using after
    rw [query later, query later]
  · simp [queryOf, mark]

/-- A query goes on to the end. -/
theorem ofRest_append_of_query {mounted : List Char} (mark : '?' ∈ mounted) (sign : '#' ∉ mounted) :
    ∃ path given, ∀ rest, '#' ∉ rest →
      ofRest (mounted ++ rest) =
        ⟨path, some ((given ++ rest).flatMap (escapeIf escapesInQuery))⟩ := by
  rcases Text.exists_first mark (show isOfPath '?' = false from rfl) with
    ⟨before, stop, after, rfl, within, stops⟩
  have other : stop ≠ '#' := by
    rintro rfl
    exact sign (by simp)
  rcases (isOfPath_eq_false_iff.mp stops).resolve_right other with rfl
  refine ⟨pathOf before, after, ?_⟩
  intro rest absent
  have whole : (after ++ rest).takeWhile (· != '#') = after ++ rest := by
    rw [List.takeWhile_eq_self_iff]
    intro character listed
    rw [bne_iff_ne]
    rintro rfl
    rcases List.mem_append.mp listed with after | rest
    · exact sign (by simp [after])
    · exact absent rest
  rw [List.append_assoc, List.cons_append, ofRest_append_cons within stops, queryOf, whole]

/-- Without a question mark and a number sign everything is the path. -/
theorem ofRest_of_path {rest : List Char} (within : ∀ character ∈ rest, isOfPath character = true) :
    ofRest rest = ⟨pathOf rest, none⟩ := by
  rw [ofRest, List.takeWhile_eq_self_iff.mpr within, List.dropWhile_eq_nil_iff.mpr within, queryOf]
  rintro _ ⟨⟩

/-! ## Segments -/

/-- The segments in front have been resolved when the ones that follow are reached. -/
theorem resolve_append (before early : List (List Char)) :
    ∃ kept, ∀ later, later ≠ [] → resolve before (early ++ later) = resolve kept later := by
  induction early generalizing before with
  | nil => exact ⟨before, fun _ _ => rfl⟩
  | cons segment early ih =>
      have more : ∀ later, later ≠ [] → (early ++ later).isEmpty = false := by
        intro later some
        simp [some]
      simp only [List.cons_append, resolve]
      split
      · rcases ih (before.drop 1) with ⟨kept, same⟩
        exact ⟨kept, fun later some => by rw [more later some]; exact same later some⟩
      · split
        · rcases ih before with ⟨kept, same⟩
          exact ⟨kept, fun later some => by rw [more later some]; exact same later some⟩
        · exact ih _

theorem flatMap_escapeIf {escapes : Char → Bool} {characters : List Char}
    (within : ∀ character ∈ characters, escapes character = false) :
    characters.flatMap (escapeIf escapes) = characters := by
  induction characters with
  | nil => rfl
  | cons character rest ih =>
      rw [List.flatMap_cons, ih fun _ listed => within _ (List.mem_cons_of_mem _ listed), escapeIf,
        within character List.mem_cons_self]
      rfl

/-- Is no dot segment and has nothing in it to be escaped. -/
def IsFirm (segment : List Char) : Prop :=
  isDoubleDot segment = false ∧ isSingleDot segment = false ∧
    ∀ character ∈ segment, escapesInPath character = false

instance (segment : List Char) : Decidable (IsFirm segment) :=
  decidable_of_iff (isDoubleDot segment = false ∧ isSingleDot segment = false ∧
      (segment.all fun character => escapesInPath character = false) = true)
    (by rw [IsFirm, List.all_iff_forall_prop])

theorem resolve_cons_of_firm {segment : List Char} (firm : IsFirm segment)
    (before rest : List (List Char)) :
    resolve before (segment :: rest) = resolve (segment :: before) rest := by
  rcases firm with ⟨notDouble, notSingle, within⟩
  rw [resolve, notDouble, notSingle, if_neg (by decide), if_neg (by decide),
    flatMap_escapeIf within]

theorem resolve_of_firm {segments : List (List Char)} (firm : ∀ segment ∈ segments, IsFirm segment)
    (before : List (List Char)) : resolve before segments = before.reverse ++ segments := by
  induction segments generalizing before with
  | nil => simp [resolve]
  | cons segment segments ih =>
      rw [resolve_cons_of_firm (firm segment List.mem_cons_self),
        ih fun _ listed => firm _ (List.mem_cons_of_mem _ listed)]
      simp

/-- The path up to a slash is the same whatever follows. -/
theorem pathOf_append_cons (mounted : List Char) :
    ∃ kept, ∀ rest, pathOf (mounted ++ '/' :: rest) =
      (resolve kept (Text.fieldsBy isSlash rest)).flatMap ('/' :: ·) := by
  have slash : isSlash '/' = true := rfl
  cases mounted with
  | nil => exact ⟨[], fun _ => rfl⟩
  | cons character mounted =>
      rcases resolve_append [] (Text.fieldsBy isSlash mounted) with ⟨kept, same⟩
      refine ⟨kept, fun rest => ?_⟩
      rw [← same _ (Text.fieldsBy_ne_nil rest), ← Text.fieldsBy_append_cons slash]
      rfl

end Target

namespace Mount

open Target

/-! ## Targets of a client -/

/-- The base is an absolute address of the web: if the service were not mounted under a prefix, its
root would have a target. -/
def IsAbsolute (mount : Mount) : Prop :=
  (Client.target? { mount with apiPath := "" } "/").isSome = true

instance (mount : Mount) : Decidable mount.IsAbsolute :=
  inferInstanceAs (Decidable ((Client.target? { mount with apiPath := "" } "/").isSome = true))

variable {mount : Mount} {root : Target}

/-- If the root has a target, then so has everything below it. -/
theorem exists_mounted (reached : Client.target? mount "/" = some root) :
    ∃ mounted, (∀ character, isOfPath character = false →
        (character ∈ mounted ↔ character ∈ mount.front)) ∧
      ∀ url rest, url.toList = mount.front ++ '/' :: rest →
        ofUrl? url = some (ofRest (mounted ++ '/' :: cleanAfter rest)) := by
  rw [Client.target?, ofUrl?_eq, mount.toList_address_root, clean_append_cons] at reached
  rcases Option.map_eq_some_iff.mp reached with ⟨found, host, _⟩
  rcases afterHost?_append_cons host with ⟨taken, mounted, cleaned, within, every⟩
  refine ⟨mounted, ?_, ?_⟩
  · intro character mark
    have shown : isControlOrSpace character = false ∧ isKept character = true := by
      rcases isOfPath_eq_false_iff.mp mark with rfl | rfl <;> exact ⟨rfl, rfl⟩
    have kept : character ∈ cleanBefore mount.front ↔ character ∈ mount.front :=
      mem_cleanBefore_iff shown.1 shown.2
    rw [← kept, cleaned, List.mem_append, or_iff_right]
    intro listed
    rw [within character listed] at mark
    cases mark
  · intro url rest written
    rw [ofUrl?_eq, written, clean_append_cons, every, Option.map_some]

theorem canonicalPath_eq (path : String) :
    canonicalPath path = "" ∨ ∃ rest, (canonicalPath path).toList = '/' :: rest := by
  have led : ∀ given, ∃ rest, withLeadingSlash given = '/' :: rest := by
    intro given
    unfold withLeadingSlash
    split
    · exact ⟨_, rfl⟩
    · exact ⟨_, rfl⟩
  rw [canonicalPath]
  generalize (if (Text.trimList path.toList).isEmpty then standardPath.toList
    else Text.trimList path.toList) = given
  rcases led given with ⟨rest, slash⟩
  rw [slash, withoutTrailingSlash]
  cases rest with
  | nil => exact Or.inl rfl
  | cons character rest =>
      right
      split
      · exact ⟨(character :: rest).dropLast, by simp⟩
      · exact ⟨character :: rest, by simp⟩

/-- What has a target without a prefix has one under every prefix. -/
theorem isSome_target? (absolute : mount.IsAbsolute) (mounted path : String)
    (slash : ∃ rest, path.toList = '/' :: rest) :
    (Client.target? (mount.under mounted) path).isSome = true := by
  rcases slash with ⟨rest, slash⟩
  rcases Option.isSome_iff_exists.mp absolute with ⟨root, reached⟩
  rcases exists_mounted reached with ⟨_, _, every⟩
  have joined : (mount.under mounted).address path =
      { mount with apiPath := "" }.address (canonicalPath mounted ++ path) := by
    simp [address, under]
  have written : ∃ rest, (canonicalPath mounted ++ path).toList = '/' :: rest := by
    rcases canonicalPath_eq mounted with none | ⟨before, leading⟩
    · exact ⟨rest, by rw [none, String.empty_append, slash]⟩
    · exact ⟨before ++ '/' :: rest, by rw [String.toList_append, leading, slash]; rfl⟩
  rcases written with ⟨rest, written⟩
  rw [Client.target?, joined, every _ _ (toList_address _ written)]
  rfl

theorem shown_of_plain {character : Char} (listed : character ∈ Text.Percent.plain) :
    isControlOrSpace character = false ∧ isOfPath character = true ∧ isSlash character = false ∧
      escapesInPath character = false ∧ escapesInQuery character = false := by
  have all : ∀ character ∈ Text.Percent.plain,
      isControlOrSpace character = false ∧ isOfPath character = true ∧ isSlash character = false ∧
        escapesInPath character = false ∧ escapesInQuery character = false :=
    List.all_iff_forall_prop.mp (by decide +kernel)
  exact all character listed

/-- What is below a path that has a target has one, too. -/
theorem isSome_target?_below {path below : String} {field rest : List Char} (nonempty : field ≠ [])
    (plain : field ⊆ Text.Percent.plain) (slash : path.toList = '/' :: field)
    (deeper : below.toList = path.toList ++ '/' :: rest)
    (reached : (Client.target? mount path).isSome = true) :
    (Client.target? mount below).isSome = true := by
  have solid : ∀ character ∈ field, character ≠ '/' ∧ character ≠ ':' :=
    fun _ listed => Endpoint.solid_of_plain _ (plain listed)
  have visible : ∀ character ∈ field, isControlOrSpace character = false :=
    fun _ listed => (shown_of_plain (plain listed)).1
  have written : (mount.address path).toList = mount.front ++ '/' :: field := by
    rw [mount.toList_address slash, collapseFrom_of_no_slash _ fun _ listed => (solid _ listed).1]
  have continued : ∃ rest, (mount.address below).toList =
      (mount.front ++ '/' :: field) ++ '/' :: rest := by
    rw [slash, List.cons_append] at deeper
    refine ⟨collapseFrom 0 rest, ?_⟩
    rw [mount.toList_address deeper, collapseFrom_append,
      collapseFrom_of_no_slash _ fun _ listed => (solid _ listed).1, allowance_of_solid _ solid,
      if_neg nonempty, List.append_assoc]
    rfl
  rcases continued with ⟨rest, continued⟩
  rw [Client.target?, ofUrl?_eq, Option.isSome_map, written] at reached
  rw [Client.target?, ofUrl?_eq, Option.isSome_map, continued, clean_append_cons]
  rw [clean_append_cons, cleanAfter_of_visible visible,
    ← cleanBefore_append_cons visible] at reached
  rcases Option.isSome_iff_exists.mp reached with ⟨found, host⟩
  rw [afterHost?_append host]
  rfl

/-! ## Segments below a root -/

section Segments

variable {url : String} {field : List Char} {others : List (List Char)}

theorem mem_joined (plain : ∀ segment ∈ field :: others, segment ⊆ Text.Percent.plain)
    {character : Char} (listed : character ∈ field ++ others.flatMap ('/' :: ·)) :
    character = '/' ∨ character ∈ Text.Percent.plain := by
  rcases List.mem_append.mp listed with first | later
  · exact Or.inr (plain field List.mem_cons_self first)
  · rcases List.mem_flatMap.mp later with ⟨segment, within, listed⟩
    rcases List.mem_cons.mp listed with slash | listed
    · exact Or.inl slash
    · exact Or.inr (plain segment (List.mem_cons_of_mem _ within) listed)

variable (reached : Client.target? mount "/" = some root)
  (written : url.toList = mount.front ++ '/' :: (field ++ others.flatMap ('/' :: ·)))
  (plain : ∀ segment ∈ field :: others, segment ⊆ Text.Percent.plain)

include reached written plain

/-- The root and what is below it go on from the same place. -/
theorem exists_ofRest :
    ∃ mounted, (∀ character, isOfPath character = false →
        (character ∈ mounted ↔ character ∈ mount.front)) ∧
      root = ofRest (mounted ++ ['/']) ∧
      ofUrl? url = some (ofRest (mounted ++ '/' :: (field ++ others.flatMap ('/' :: ·)))) := by
  rcases exists_mounted reached with ⟨mounted, marks, every⟩
  refine ⟨mounted, marks, ?_, ?_⟩
  · have same := every (mount.address "/") [] mount.toList_address_root
    exact Option.some.inj (reached.symm.trans same)
  · rw [every url _ written, cleanAfter_of_visible]
    intro character listed
    rcases mem_joined plain listed with rfl | listed
    · rfl
    · exact (shown_of_plain listed).1

/-- Behind a number sign, everything has the target of the root. -/
theorem ofUrl?_of_fragment (sign : '#' ∈ mount.front) : ofUrl? url = some root := by
  rcases exists_ofRest reached written plain with ⟨mounted, marks, rfl, below⟩
  rw [below, ofRest_append_of_fragment ((marks '#' rfl).mpr sign) _ ['/']]

/-- Behind a question mark, segments are added to the query. -/
theorem ofUrl?_of_query (sign : '#' ∉ mount.front) (mark : '?' ∈ mount.front) :
    ∃ front target, root.text.toList = front ++ ['/'] ∧ ofUrl? url = some target ∧
      target.text.toList = front ++ '/' :: (field ++ others.flatMap ('/' :: ·)) := by
  rcases exists_ofRest reached written plain with ⟨mounted, marks, rfl, below⟩
  rcases ofRest_append_of_query ((marks '?' rfl).mpr mark) (mt (marks '#' rfl).mp sign) with
    ⟨path, given, query⟩
  have absent : '#' ∉ '/' :: (field ++ others.flatMap ('/' :: ·)) := by
    intro listed
    rcases List.mem_cons.mp listed with same | listed
    · cases same
    rcases mem_joined plain listed with same | listed
    · cases same
    · cases (shown_of_plain listed).2.1
  have escaped : (field ++ others.flatMap ('/' :: ·)).flatMap (escapeIf escapesInQuery) =
      field ++ others.flatMap ('/' :: ·) := by
    apply flatMap_escapeIf
    intro character listed
    rcases mem_joined plain listed with rfl | listed
    · rfl
    · exact (shown_of_plain listed).2.2.2.2
  have slash : escapeIf escapesInQuery '/' = ['/'] := rfl
  refine ⟨path ++ '?' :: given.flatMap (escapeIf escapesInQuery), _, ?_, below, ?_⟩
  · rw [query ['/'] (by decide)]
    simp [text, slash]
  · rw [query _ absent]
    simp only [text, Option.elim, List.flatMap_append, List.flatMap_cons, slash, escaped]
    simp

/-- Otherwise they are added to the path, as it is once what is in front has been resolved. -/
theorem ofUrl?_of_path (sign : '#' ∉ mount.front) (mark : '?' ∉ mount.front) :
    ∃ kept, root = ⟨kept.reverse.flatMap ('/' :: ·) ++ ['/'], none⟩ ∧
      ofUrl? url = some ⟨(resolve kept (field :: others)).flatMap ('/' :: ·), none⟩ := by
  rcases exists_ofRest reached written plain with ⟨mounted, marks, rfl, below⟩
  rcases pathOf_append_cons mounted with ⟨kept, path⟩
  have ofPath : ∀ rest, (∀ character ∈ rest, isOfPath character = true) →
      ∀ character ∈ mounted ++ '/' :: rest, isOfPath character = true := by
    intro rest within character listed
    rcases List.mem_append.mp listed with front | listed
    · rw [← Bool.not_eq_false]
      intro ends
      have given := (marks character ends).mp front
      rcases isOfPath_eq_false_iff.mp ends with rfl | rfl
      · exact mark given
      · exact sign given
    · rcases List.mem_cons.mp listed with rfl | listed
      · rfl
      · exact within character listed
  have unmarked : ∀ character ∈ field ++ others.flatMap ('/' :: ·), isOfPath character = true := by
    intro character listed
    rcases mem_joined plain listed with rfl | listed
    · rfl
    · exact (shown_of_plain listed).2.1
  have continued := ofRest_of_path (ofPath _ unmarked)
  have cut : Text.fieldsBy isSlash (field ++ others.flatMap ('/' :: ·)) = field :: others := by
    apply Text.fieldsBy_append_flatMap rfl
    intro segment listed character within
    exact (shown_of_plain (plain segment listed within)).2.2.1
  refine ⟨kept, ?_, ?_⟩
  · have firm : ∀ segment ∈ [([] : List Char)], IsFirm segment := by
      intro segment listed
      rcases List.mem_singleton.mp listed with rfl
      exact ⟨by decide, by decide, fun _ none => by cases none⟩
    rw [ofRest_of_path (ofPath [] fun _ none => by cases none), path]
    have empty : Text.fieldsBy isSlash [] = [[]] := rfl
    rw [empty, resolve_of_firm firm, List.flatMap_append]
    rfl
  · rw [below, continued, path, cut]

end Segments

end Mount

end AuditReports
