import Mathlib.Data.List.Sections
import AuditReports.Proofs.Api.Calls

/-!
# Ids as segments of the target

An id is encoded so that it stays one segment of the address. But a segment that is a dot or two
means something to whoever reads the address, and a dot is not encoded, as it may stand in a
segment. So the ids `.` and `..` are the exception: their segment is resolved, and the request goes
to another path. Nothing else can be taken for them. What a dot segment spells, its dots escaped or
not, is one dot or two, and an encoded id spells the id.

Every other id is a segment of the target as it is of the address. Which part of the target it is in
depends on the client alone, since all that its addresses begin with is read before.
-/

namespace AuditReports

namespace Target

open Text

/-! ## Dot segments -/

/-- The ways to write two dots, in small letters. -/
def doubleDots : List (List Char) :=
  ["..", ".%2e", "%2e.", "%2e%2e"].map String.toList

/-- The ways to write a dot, in small letters. -/
def singleDots : List (List Char) :=
  [".", "%2e"].map String.toList

theorem isDoubleDot_iff {segment : List Char} :
    isDoubleDot segment = true ↔ segment.map Char.toLower ∈ doubleDots := by
  simp [isDoubleDot, doubleDots, or_assoc]

theorem isSingleDot_iff {segment : List Char} :
    isSingleDot segment = true ↔ segment.map Char.toLower ∈ singleDots := by
  simp [isSingleDot, singleDots]

section Firm

variable {segment : List Char} (plain : segment ⊆ Percent.plain)

include plain

theorem isFirm_of_plain (double : segment.map Char.toLower ∉ doubleDots)
    (single : segment.map Char.toLower ∉ singleDots) : IsFirm segment :=
  ⟨Bool.eq_false_iff.mpr (mt isDoubleDot_iff.mp double),
    Bool.eq_false_iff.mpr (mt isSingleDot_iff.mp single),
    fun _ listed => (Mount.shown_of_plain (plain listed)).2.2.2.1⟩

/-- The characters that become a given one in small letters. -/
def spellings (character : Char) : List Char :=
  Percent.plain.filter (·.toLower == character)

theorem mem_sections_spellings : segment ∈ ((segment.map Char.toLower).map spellings).sections := by
  rw [List.mem_sections, List.map_map, List.forall₂_map_right_iff, List.forall₂_same]
  intro character listed
  exact List.mem_filter.mpr ⟨plain listed, beq_self_eq_true _⟩

/-- However it is written, a double dot spells two dots. -/
theorem decodeBytes_of_doubleDots (double : segment.map Char.toLower ∈ doubleDots) :
    Percent.decodeBytes (Utf8.encode segment) = Utf8.encode "..".toList := by
  have spelled : ∀ word ∈ doubleDots, ∀ segment ∈ (word.map spellings).sections,
      Percent.decodeBytes (Utf8.encode segment) = Utf8.encode "..".toList := by
    decide +kernel
  exact spelled _ double segment (mem_sections_spellings plain)

theorem decodeBytes_of_singleDots (single : segment.map Char.toLower ∈ singleDots) :
    Percent.decodeBytes (Utf8.encode segment) = Utf8.encode ".".toList := by
  have spelled : ∀ word ∈ singleDots, ∀ segment ∈ (word.map spellings).sections,
      Percent.decodeBytes (Utf8.encode segment) = Utf8.encode ".".toList := by
    decide +kernel
  exact spelled _ single segment (mem_sections_spellings plain)

end Firm

/-- An encoded id is no dot segment unless the id is one. -/
theorem isFirm_encodeList {characters : List Char} (double : characters ≠ "..".toList)
    (single : characters ≠ ".".toList) : IsFirm (Percent.encodeList characters) := by
  have plain := Percent.encodeList_subset_plain characters
  have spelled := Percent.decodeBytes_encodeList characters
  apply isFirm_of_plain plain
  · intro dots
    exact double (Utf8.encode_injective (spelled.symm.trans (decodeBytes_of_doubleDots plain dots)))
  · intro dot
    exact single (Utf8.encode_injective (spelled.symm.trans (decodeBytes_of_singleDots plain dot)))

/-- A number has neither a dot nor a percent sign, and so it is no dot segment. -/
theorem isFirm_toString (number : Int) : IsFirm (toString number).toList := by
  have unmarked : ∀ word, '.' ∈ word ∨ '%' ∈ word →
      (toString number).toList.map Char.toLower ≠ word := by
    have lowered : ∀ character ∈ decimal, character.toLower ≠ '.' ∧ character.toLower ≠ '%' :=
      List.all_iff_forall_prop.mp (by decide)
    rintro word (dot | percent) rfl
    · rcases List.mem_map.mp dot with ⟨character, within, same⟩
      exact (lowered character (toString_subset_decimal number within)).1 same
    · rcases List.mem_map.mp percent with ⟨character, within, same⟩
      exact (lowered character (toString_subset_decimal number within)).2 same
  have double : ∀ word ∈ doubleDots, '.' ∈ word ∨ '%' ∈ word := by decide
  have single : ∀ word ∈ singleDots, '.' ∈ word ∨ '%' ∈ word := by decide
  apply isFirm_of_plain (toString_subset_plain number)
  · exact fun dots => unmarked _ (double _ dots) rfl
  · exact fun dot => unmarked _ (single _ dot) rfl

end Target

namespace Endpoint

variable {endpoint : Endpoint}

theorem isFirm_collection : Target.IsFirm endpoint.collection.toList := by
  have words : ∀ word ∈ ["reports", "audits"], Target.IsFirm word.toList := by decide +kernel
  cases endpoint <;> exact words _ (by simp [collection])

theorem isFirm_of_mem_trailing {word : String} (listed : word ∈ endpoint.trailing) :
    Target.IsFirm word.toList := by
  have words : ∀ word ∈ ["download", "deficiencies"], Target.IsFirm word.toList := by
    decide +kernel
  cases endpoint with
  | status jobId => cases listed
  | download jobId => exact words word (by simpa [trailing] using Or.inl listed)
  | audit auditId => cases listed
  | deficiency auditId deficiencyId =>
      rcases List.mem_cons.mp listed with rfl | number
      · exact words _ (by simp)
      · rw [List.mem_singleton.mp number]
        exact Target.isFirm_toString deficiencyId

theorem isFirm_of_mem_segments (double : endpoint.id ≠ "..") (single : endpoint.id ≠ ".")
    {segment : List Char} (listed : segment ∈ endpoint.segments) : Target.IsFirm segment := by
  rcases List.mem_cons.mp listed with rfl | listed
  · exact isFirm_collection
  rcases List.mem_cons.mp listed with rfl | listed
  · exact Target.isFirm_encodeList (mt String.toList_inj.mp double) (mt String.toList_inj.mp single)
  rcases List.mem_map.mp listed with ⟨word, after, rfl⟩
  exact isFirm_of_mem_trailing after

/-- What is left after an id of dots: a path that ends in dots ends in a slash once they are
resolved. -/
def remaining (endpoint : Endpoint) : List (List Char) :=
  if endpoint.trailing = [] then [[]] else endpoint.trailing.map String.toList

theorem resolve_trailing (before : List (List Char)) :
    Target.resolve (if (endpoint.trailing.map String.toList).isEmpty then [] :: before else before)
      (endpoint.trailing.map String.toList) = before.reverse ++ endpoint.remaining := by
  by_cases last : endpoint.trailing = []
  · simp [remaining, last, Target.resolve]
  · have firm : ∀ segment ∈ endpoint.trailing.map String.toList, Target.IsFirm segment := by
      intro segment listed
      rcases List.mem_map.mp listed with ⟨word, after, rfl⟩
      exact isFirm_of_mem_trailing after
    have some : (endpoint.trailing.map String.toList).isEmpty = false := by simpa using last
    rw [some, if_neg (by decide), Target.resolve_of_firm firm, remaining, if_neg last]

/-! ## Targets of what has an id -/

theorem toList_address_eq (mount : Mount) (named : endpoint.id ≠ "") :
    (mount.address endpoint.path).toList = mount.front ++ '/' ::
      (endpoint.collection.toList ++ endpoint.segments.tail.flatMap ('/' :: ·)) := by
  rw [toList_address mount named, toList_path]
  rfl

section Target

variable {mount : Mount} {root : Target}
  (reached : Client.target? mount "/" = some root) (named : endpoint.id ≠ "")

include reached named

/-- Behind a number sign, the root is asked for instead. -/
theorem target?_of_fragment (sign : '#' ∈ mount.front) :
    Client.target? mount endpoint.path = some root := by
  have written := toList_address_eq mount named
  exact Mount.ofUrl?_of_fragment reached written (fun _ listed => subset_plain listed) sign

/-- Elsewhere, the segments go on from where the root is. -/
theorem target?_of_firm (double : endpoint.id ≠ "..") (single : endpoint.id ≠ ".")
    (sign : '#' ∉ mount.front) :
    ∃ front target, root.text.toList = front ++ ['/'] ∧
      Client.target? mount endpoint.path = some target ∧
      target.text.toList = front ++ endpoint.segments.flatMap ('/' :: ·) ∧
      ('?' ∉ mount.front → root.query = none ∧ target.query = none) := by
  have written := toList_address_eq mount named
  have plain : ∀ segment ∈ endpoint.segments, segment ⊆ Text.Percent.plain :=
    fun _ listed => subset_plain listed
  by_cases mark : '?' ∈ mount.front
  · rcases Mount.ofUrl?_of_query reached written plain sign mark with
      ⟨front, target, rooted, below, continued⟩
    exact ⟨front, target, rooted, below, continued, absurd mark⟩
  · rcases Mount.ofUrl?_of_path reached written plain sign mark with ⟨kept, rfl, below⟩
    have firm : ∀ segment ∈ endpoint.segments, Target.IsFirm segment :=
      fun _ listed => isFirm_of_mem_segments double single listed
    refine ⟨kept.reverse.flatMap ('/' :: ·), _, ?_, below, ?_, fun _ => ⟨rfl, rfl⟩⟩
    · simp [Target.text]
    · have resolved := Target.resolve_of_firm firm kept
      simp only [Target.text, Option.elim, List.append_nil, String.toList_ofList]
      rw [← List.flatMap_append, ← resolved]
      rfl

/-- An id of dots is resolved. With one dot the segment is left out, with two dots the one before it
is left out as well, and so another path is asked for. -/
theorem target?_of_dots (sign : '#' ∉ mount.front) (mark : '?' ∉ mount.front) :
    ∃ front, root = ⟨front ++ ['/'], none⟩ ∧
      (endpoint.id = "." → Client.target? mount endpoint.path = some
        ⟨front ++ (endpoint.collection.toList :: endpoint.remaining).flatMap ('/' :: ·), none⟩) ∧
      (endpoint.id = ".." → Client.target? mount endpoint.path = some
        ⟨front ++ endpoint.remaining.flatMap ('/' :: ·), none⟩) := by
  have written := toList_address_eq mount named
  have plain : ∀ segment ∈ endpoint.segments, segment ⊆ Text.Percent.plain :=
    fun _ listed => subset_plain listed
  rcases Mount.ofUrl?_of_path reached written plain sign mark with ⟨kept, rfl, below⟩
  have resolved : ∀ encoded, Text.Percent.encodeList endpoint.id.toList = encoded →
      Target.resolve kept (endpoint.collection.toList :: endpoint.segments.tail) =
        Target.resolve (endpoint.collection.toList :: kept)
          (encoded :: endpoint.trailing.map String.toList) := by
    rintro _ rfl
    exact Target.resolve_cons_of_firm isFirm_collection kept _
  refine ⟨kept.reverse.flatMap ('/' :: ·), rfl, ?_, ?_⟩
  · intro single
    have encoded : Text.Percent.encodeList endpoint.id.toList = ".".toList := by
      rw [single]
      decide
    have passed : Target.isDoubleDot ".".toList = false ∧ Target.isSingleDot ".".toList = true := by
      decide
    rw [Client.target?, below, resolved _ encoded, Target.resolve, passed.1, passed.2,
      if_neg (by decide), if_pos rfl, resolve_trailing]
    simp
  · intro double
    have encoded : Text.Percent.encodeList endpoint.id.toList = "..".toList := by
      rw [double]
      decide
    have passed : Target.isDoubleDot "..".toList = true := by decide
    rw [Client.target?, below, resolved _ encoded, Target.resolve, passed, if_pos rfl,
      List.drop_succ_cons, List.drop_zero, resolve_trailing, List.flatMap_append]

end Target

end Endpoint

namespace Call

/-- What a call names by an id, if it does. -/
def endpoint? : Call → Option Endpoint
  | job jobId => some (.status jobId)
  | report jobId => some (.download jobId)
  | audit auditId => some (.audit auditId)
  | changeDeficiency auditId deficiencyId _ => some (.deficiency auditId deficiencyId)
  | _ => none

section

variable {call : Call} {endpoint : Endpoint} (about : call.endpoint? = some endpoint)

include about

theorem path_of_endpoint? : call.path = endpoint.path := by
  cases call <;> cases about <;> rfl

theorem target_requestTo_of_endpoint? (target : Target) :
    (call.requestTo target).target = target.text := by
  cases call <;> cases about <;> rfl

theorem isSendable_of_endpoint? : call.IsSendable := by
  cases call <;> trivial

end

/-- Ids stay segments on the wire. Over a base that is an absolute address of the web, whatever the
prefix, a call that names something by an id sends one request. Its target is what the client has in
front, the same for all calls, then the collection, then one segment that reads as the id, then what
the call has after it. If nothing in the base and the prefix begins a query, it is all in the path.
If something in them begins a fragment, everything is dropped from there on and all calls have the
target of the root; so the id cannot lead elsewhere then either. The id is any that is not empty and
neither of the two that are dot segments. -/
theorem ids_stay_segments {base : String} (absolute : (Mount.ofBase base).IsAbsolute)
    (mounted : String) {call : Call} {endpoint : Endpoint}
    (about : call.endpoint? = some endpoint) (id : endpoint.id ∉ ["", ".", ".."])
    {τ : Type} (transport : Transport τ) (state : τ) :
    let mount := (Mount.ofBase base).under mounted
    ∃ root target request delivery,
      Client.target? mount "/" = some root ∧ Client.target? mount call.path = some target ∧
      (call.perform transport.recorded mount (state, [])).2.2 = [(request, delivery)] ∧
      request.target = target.text ∧
      ('#' ∈ mount.base.toList ∨ '#' ∈ mount.apiPath.toList → target = root) ∧
      ('#' ∉ mount.base.toList → '#' ∉ mount.apiPath.toList →
        ∃ front segment, root.text.toList = front ++ ['/'] ∧
          request.target.toList = front ++ '/' :: endpoint.collection.toList ++ '/' :: segment ++
            endpoint.trailing.flatMap (fun word => '/' :: word.toList) ∧
          '/' ∉ segment ∧ Text.Percent.decode? segment = some endpoint.id.toList ∧
          ('?' ∉ mount.base.toList → '?' ∉ mount.apiPath.toList →
            root.query = none ∧ target.query = none)) := by
  intro mount
  rcases Option.isSome_iff_exists.mp (Mount.isSome_target? absolute mounted "/" ⟨[], rfl⟩) with
    ⟨root, reached⟩
  rcases exists_request? absolute mounted call with ⟨request, found⟩
  have performed := perform_eq transport.recorded (isSendable_of_endpoint? about) found (state, [])
  rcases Option.map_eq_some_iff.mp found with ⟨target, hit, rfl⟩
  have text := target_requestTo_of_endpoint? about target
  have path := path_of_endpoint? about
  simp only [List.mem_cons, List.not_mem_nil, or_false, not_or] at id
  rcases id with ⟨named, single, double⟩
  have marks : ∀ character, character ≠ '/' → (character ∈ mount.front ↔
      character ∈ mount.base.toList ∨ character ∈ mount.apiPath.toList) :=
    fun _ other => mount.mem_front_iff other
  refine ⟨root, target, call.requestTo target, _, reached, hit, congrArg (·.2.2) performed, text,
    ?_, ?_⟩
  · intro sign
    have dropped := Endpoint.target?_of_fragment reached named ((marks '#' (by decide)).mpr sign)
    rw [← path, hit] at dropped
    exact Option.some.inj dropped
  · intro base prefixed
    have sign : '#' ∉ mount.front := fun listed =>
      ((marks '#' (by decide)).mp listed).elim base prefixed
    rcases Endpoint.target?_of_firm reached named double single sign with
      ⟨front, continued, rooted, below, joined, query⟩
    rw [← path, hit] at below
    rcases Option.some.inj below with rfl
    refine ⟨front, Text.Percent.encodeList endpoint.id.toList, rooted, ?_, ?_,
      Text.Percent.decode?_encodeList _, ?_⟩
    · rw [text, joined]
      simp [Endpoint.segments, List.flatMap_map]
    · intro slash
      exact absurd (Text.Percent.encodeList_subset_plain _ slash) (by decide)
    · intro base prefixed
      exact query fun listed => ((marks '?' (by decide)).mp listed).elim base prefixed

/-- An id full of what means something in an address. -/
theorem crowded_id_stays_segment :
    (Mount.ofBase "http://localhost:8080").IsAbsolute ∧
      (report "a/../b?c#d%2e").endpoint? = some (.download "a/../b?c#d%2e") ∧
      "a/../b?c#d%2e" ∉ ["", ".", ".."] ∧
      ∃ front segment request delivery,
        ((report "a/../b?c#d%2e").perform Transport.offline.recorded
          ((Mount.ofBase "http://localhost:8080").under "/webhook") ((), [])).2.2 =
            [(request, delivery)] ∧
        request.target.toList = front ++ "/reports/".toList ++ segment ++ "/download".toList ∧
        '/' ∉ segment ∧ Text.Percent.decode? segment = some "a/../b?c#d%2e".toList := by
  have absolute : (Mount.ofBase "http://localhost:8080").IsAbsolute := by decide +kernel
  have about : (report "a/../b?c#d%2e").endpoint? = some (.download "a/../b?c#d%2e") := rfl
  have id : "a/../b?c#d%2e" ∉ ["", ".", ".."] := by decide
  refine ⟨absolute, about, id, ?_⟩
  rcases ids_stay_segments absolute "/webhook" about id Transport.offline () with
    ⟨root, target, request, delivery, _, _, sent, _, _, within⟩
  rcases within (by decide) (by decide) with ⟨front, segment, _, joined, solid, read, _⟩
  refine ⟨front, segment, request, delivery, sent, ?_, solid, read⟩
  rw [joined]
  simp [Endpoint.collection, Endpoint.trailing]

/-- The download of the job `..` is asked for at another path, with no segment for the id. -/
theorem dots_are_no_segment :
    let mount := (Mount.ofBase "http://localhost:8080").under "/webhook"
    mount.IsAbsolute ∧
      ((report "..").perform Transport.offline.recorded mount ((), [])).2.2.map (·.1.target) =
        ["/webhook/download"] ∧
      ¬∃ segment, '/' ∉ segment ∧ Text.Percent.decode? segment = some "..".toList ∧
        "/webhook/download".toList =
          "/webhook/reports/".toList ++ segment ++ "/download".toList := by
  intro mount
  refine ⟨by decide +kernel, by decide +kernel, ?_⟩
  rintro ⟨segment, _, _, same⟩
  have begins : "/webhook/reports/".toList <+: "/webhook/download".toList :=
    ⟨segment ++ "/download".toList, by rw [same, List.append_assoc]⟩
  exact absurd begins (by decide)

end Call

end AuditReports
