import Mathlib.Data.List.Nodup
import Mathlib.Data.List.Perm.Basic
import Mathlib.Data.List.ReduceOption
import AuditReports.Proofs.Text.Emails
import AuditReports.Proofs.Text.Trimming
import AuditReports.Report.Request

/-!
# Checked requests

The checks on a request come one after the other, and the first one that fails decides. What they
amount to is said here without that order: a request is valid if its address and all seven fields of
the cover page hold more than white space, the contact address has the form of an email address, and
a selection of visits names at least one. Exactly the valid requests pass, and each of the others is
turned down for the first thing that is wrong with it.

The payload of a valid request has the texts of the request, trimmed, less those that are blank. It
is in a normal form: a request that is filled in with what stands in a payload has that payload
again.
-/

namespace AuditReports

open Text

/-! ## What is asked of a request -/

namespace CoverPage

/-- The names of the fields, in the order in which they are declared. -/
def labels : List String :=
  ["building owner", "street", "city", "state", "zip", "contact name", "contact email"]

/-- What is filled in, in the same order. -/
def texts (cover : CoverPage) : List String :=
  [cover.buildingOwner, cover.street, cover.city, cover.state, cover.zip, cover.contactName,
    cover.contactEmail]

end CoverPage

namespace VisitSelection

/-- The ids that a selection names: those that are not blank, trimmed. -/
def sent : VisitSelection → Option (List String)
  | .all => none
  | .selected ids => some ((ids.map trim).filter (· ≠ ""))

/-- All visits, or at least one. -/
def IsNonempty : VisitSelection → Prop
  | .all => True
  | .selected ids => ∃ id ∈ ids, trim id ≠ ""

/-- The ids as they were given. -/
def ids : VisitSelection → List String
  | .all => []
  | .selected ids => ids

end VisitSelection

namespace ReportRequest

structure IsValid (request : ReportRequest) : Prop where
  address : trim request.address ≠ ""
  cover : ∀ text ∈ request.cover.texts, trim text ≠ ""
  email : Email.Matches (trim request.cover.contactEmail).toList
  visits : request.visits.IsNonempty

/-- What is wrong with a request: the first check that fails, where those before it do not. -/
inductive Fails (request : ReportRequest) : Rejection → Prop
  | address (empty : trim request.address = "") : request.Fails .missingAddress
  | cover {missing : List String} (address : trim request.address ≠ "") (incomplete : missing ≠ [])
      (ordered : missing.Sublist CoverPage.labels)
      (blank : ∀ label text, (label, text) ∈ CoverPage.labels.zip request.cover.texts →
        (label ∈ missing ↔ trim text = "")) :
      request.Fails (.incompleteCoverPage missing)
  | email (address : trim request.address ≠ "")
      (cover : ∀ text ∈ request.cover.texts, trim text ≠ "")
      (malformed : ¬ Email.Matches (trim request.cover.contactEmail).toList) :
      request.Fails .invalidEmail
  | visits (address : trim request.address ≠ "")
      (cover : ∀ text ∈ request.cover.texts, trim text ≠ "")
      (email : Email.Matches (trim request.cover.contactEmail).toList)
      (empty : ¬ request.visits.IsNonempty) : request.Fails .noVisitsSelected

/-- All that is typed in: the address, the cover page, the remarks and the ids of the visits. -/
def texts (request : ReportRequest) : List String :=
  request.address :: request.cover.texts ++ request.notes.toList ++
    request.recommendations.toList ++ request.visits.ids

end ReportRequest

namespace Payload

/-- All texts of a payload, in the order of its fields. -/
def texts (payload : Payload) : List String :=
  payload.address ::
    [payload.coverBuildingOwner, payload.coverStreet, payload.coverCity, payload.coverState,
      payload.coverZip, payload.coverContactName, payload.coverContactEmail].reduceOption ++
    payload.notes.toList ++ payload.recommendations.toList ++ payload.visitIds.getD []

/-- A request that is filled in with what stands in a payload. -/
def request (payload : Payload) : ReportRequest where
  address := payload.address
  locationId := payload.locationId
  cover :=
    { buildingOwner := payload.coverBuildingOwner.getD ""
      street := payload.coverStreet.getD ""
      city := payload.coverCity.getD ""
      state := payload.coverState.getD ""
      zip := payload.coverZip.getD ""
      contactName := payload.coverContactName.getD ""
      contactEmail := payload.coverContactEmail.getD "" }
  notes := payload.notes
  recommendations := payload.recommendations
  deficiencyOnly := payload.deficiencyOnly.getD false
  visits := payload.visitIds.elim .all .selected

end Payload

/-! ## Each check by itself -/

namespace CoverPage

variable {cover : CoverPage}

theorem nodup_labels : labels.Nodup := by
  decide

theorem missing_sublist (cover : CoverPage) : cover.missing.Sublist labels := by
  have kept : (cover.fields.filter fun field => blank field.2).Sublist cover.fields :=
    List.filter_sublist
  exact kept.map (·.1)

/-- No two fields have the same name, so a name is listed for its own field only. -/
theorem mem_missing_iff {label text : String} (field : (label, text) ∈ labels.zip cover.texts) :
    label ∈ cover.missing ↔ trim text = "" := by
  rw [missing, List.mem_map]
  constructor
  · rintro ⟨other, listed, named⟩
    rw [List.mem_filter] at listed
    have distinct : (cover.fields.map (·.1)).Nodup := nodup_labels
    have same : other = (label, text) :=
      List.inj_on_of_nodup_map distinct listed.1 field named
    simpa [same, blank] using listed.2
  · intro empty
    exact ⟨(label, text), List.mem_filter.mpr ⟨field, blank_iff.mpr empty⟩, rfl⟩

/-- A list of names is determined by the fields that are blank. -/
theorem eq_missing {missing : List String} (ordered : missing.Sublist labels)
    (blank : ∀ label text, (label, text) ∈ labels.zip cover.texts →
      (label ∈ missing ↔ trim text = "")) : missing = cover.missing := by
  have listed : ∀ label ∈ labels, (label ∈ missing ↔ label ∈ cover.missing) := by
    intro label declared
    rcases List.mem_map.mp (show label ∈ cover.fields.map (·.1) from declared) with
      ⟨⟨_, text⟩, field, rfl⟩
    rw [blank _ text field, mem_missing_iff field]
  rw [← List.Nodup.perm_iff_eq_of_sublist nodup_labels ordered cover.missing_sublist,
    List.perm_ext_iff_of_nodup (nodup_labels.sublist ordered)
      (nodup_labels.sublist cover.missing_sublist)]
  intro label
  constructor
  · exact fun inside => (listed label (ordered.subset inside)).mp inside
  · exact fun inside => (listed label (cover.missing_sublist.subset inside)).mpr inside

theorem missing_eq_nil_iff : cover.missing = [] ↔ ∀ text ∈ cover.texts, trim text ≠ "" := by
  rw [missing, List.map_eq_nil_iff, List.filter_eq_nil_iff]
  simp only [blank_iff]
  constructor
  · intro shown text listed
    rcases List.mem_map.mp (show text ∈ cover.fields.map (·.2) from listed) with
      ⟨field, inside, rfl⟩
    exact shown field inside
  · intro shown field listed
    exact shown field.2 (show field.2 ∈ cover.fields.map (·.2) from List.mem_map_of_mem listed)

end CoverPage

namespace VisitSelection

theorem getD_sent (visits : VisitSelection) :
    visits.sent.getD [] = (visits.ids.map trim).filter (· ≠ "") := by
  cases visits <;> rfl

theorem mem_kept {ids : List String} {id : String} (listed : id ∈ ids) (shown : trim id ≠ "") :
    trim id ∈ (ids.map trim).filter (· ≠ "") :=
  List.mem_filter.mpr ⟨List.mem_map_of_mem listed, decide_eq_true shown⟩

/-- Ids that have been sent are sent again as they are. -/
theorem sent_elim_sent (visits : VisitSelection) :
    (visits.sent.elim all selected).sent = visits.sent := by
  cases visits with
  | all => rfl
  | selected ids =>
      have stays : ((ids.map trim).filter (· ≠ "")).map trim = (ids.map trim).filter (· ≠ "") := by
        refine List.map_congr_left (g := id) (fun text listed => ?_) |>.trans (List.map_id _)
        rcases List.mem_map.mp (List.mem_of_mem_filter listed) with ⟨id, _, rfl⟩
        exact trim_trim id
      rw [sent, Option.elim_some, sent, stays, List.filter_filter]
      simp

theorem IsNonempty.elim_sent {visits : VisitSelection} (chosen : visits.IsNonempty) :
    (visits.sent.elim all selected).IsNonempty := by
  cases visits with
  | all => trivial
  | selected ids =>
      rcases chosen with ⟨id, listed, shown⟩
      exact ⟨trim id, mem_kept listed shown, by rwa [trim_trim]⟩

theorem IsNonempty.sent_ne {visits : VisitSelection} (chosen : visits.IsNonempty) :
    visits.sent ≠ some [] := by
  cases visits with
  | all => exact fun none => by cases none
  | selected ids =>
      rcases chosen with ⟨id, listed, shown⟩
      intro nothing
      have kept := mem_kept listed shown
      rw [Option.some.inj nothing] at kept
      cases kept

end VisitSelection

theorem filterMap_content? (ids : List String) :
    ids.filterMap content? = (ids.map trim).filter (· ≠ "") := by
  induction ids with
  | nil => rfl
  | cons id ids ih =>
      by_cases empty : trim id = "" <;> simp [content?, empty, ih]

namespace ReportRequest

variable {request : ReportRequest}

theorem visitIds_of_isNonempty (chosen : request.visits.IsNonempty) :
    request.visitIds = .ok request.visits.sent := by
  rw [visitIds]
  generalize request.visits = visits at chosen
  cases visits with
  | all => rfl
  | selected ids =>
      rcases chosen with ⟨id, listed, shown⟩
      have kept := VisitSelection.mem_kept listed shown
      rw [← filterMap_content?] at kept
      rw [VisitSelection.sent, ← filterMap_content?]
      cases sent : ids.filterMap content? with
      | nil => simp [sent] at kept
      | cons first others => simp only [sent]

theorem visitIds_of_not_isNonempty (none : ¬ request.visits.IsNonempty) :
    request.visitIds = .error .noVisitsSelected := by
  rw [visitIds]
  generalize request.visits = visits at none
  cases visits with
  | all => exact absurd trivial none
  | selected ids =>
      have nothing : ids.filterMap content? = [] := by
        rw [List.filterMap_eq_nil_iff]
        intro id listed
        by_contra shown
        rcases Option.ne_none_iff_exists'.mp shown with ⟨kept, content⟩
        exact none ⟨id, listed, (content?_eq_some_iff.mp content).2⟩
      simp only [nothing]

theorem IsValid.check_eq (valid : request.IsValid) :
    request.check = .ok (request.payload request.visits.sent) := by
  rw [check, not_blank_iff.mpr valid.address, if_neg Bool.false_ne_true,
    CoverPage.missing_eq_nil_iff.mpr valid.cover, Email.wellFormed_iff.mpr valid.email,
    visitIds_of_isNonempty valid.visits]
  rfl

theorem Fails.check_eq {rejection : Rejection} (fails : request.Fails rejection) :
    request.check = .error rejection := by
  cases fails with
  | address empty => rw [check, blank_iff.mpr empty, if_pos rfl]
  | cover address incomplete ordered blank =>
      have same := CoverPage.eq_missing ordered blank
      rw [check, not_blank_iff.mpr address, if_neg Bool.false_ne_true, ← same,
        if_pos (by simpa using incomplete)]
  | email address cover malformed =>
      have refused := Bool.eq_false_iff.mpr (mt Email.wellFormed_iff.mp malformed)
      rw [check, not_blank_iff.mpr address, if_neg Bool.false_ne_true,
        CoverPage.missing_eq_nil_iff.mpr cover, refused]
      rfl
  | visits address cover email empty =>
      rw [check, not_blank_iff.mpr address, if_neg Bool.false_ne_true,
        CoverPage.missing_eq_nil_iff.mpr cover, Email.wellFormed_iff.mpr email,
        visitIds_of_not_isNonempty empty]
      rfl

/-- Whatever is not valid fails one of the checks. -/
theorem isValid_or_fails (request : ReportRequest) :
    request.IsValid ∨ ∃ rejection, request.Fails rejection := by
  by_cases address : trim request.address = ""
  · exact .inr ⟨_, .address address⟩
  by_cases cover : ∀ text ∈ request.cover.texts, trim text ≠ ""
  case neg =>
    exact .inr ⟨_, .cover address (mt CoverPage.missing_eq_nil_iff.mp cover)
      request.cover.missing_sublist fun _ _ => CoverPage.mem_missing_iff⟩
  by_cases email : Email.Matches (trim request.cover.contactEmail).toList
  case neg => exact .inr ⟨_, .email address cover email⟩
  by_cases visits : request.visits.IsNonempty
  · exact .inl ⟨address, cover, email, visits⟩
  · exact .inr ⟨_, .visits address cover email visits⟩

theorem check_eq_ok_iff {payload : Payload} :
    request.check = .ok payload ↔
      request.IsValid ∧ payload = request.payload request.visits.sent := by
  constructor
  · intro passes
    rcases request.isValid_or_fails with valid | ⟨rejection, fails⟩
    · rw [valid.check_eq] at passes
      exact ⟨valid, (Except.ok.inj passes).symm⟩
    · rw [fails.check_eq] at passes
      cases passes
  · rintro ⟨valid, rfl⟩
    exact valid.check_eq

theorem check_eq_error_iff {rejection : Rejection} :
    request.check = .error rejection ↔ request.Fails rejection := by
  refine ⟨fun refused => ?_, Fails.check_eq⟩
  rcases request.isValid_or_fails with valid | ⟨first, fails⟩
  · rw [valid.check_eq] at refused
    cases refused
  · rw [fails.check_eq] at refused
    exact Except.error.inj refused ▸ fails

theorem toList_bind_content? (text : Option String) :
    (text.bind content?).toList = (text.toList.map trim).filter (· ≠ "") := by
  cases text with
  | none => rfl
  | some text => by_cases empty : trim text = "" <;> simp [content?, empty]

theorem bind_content?_bind_content? (text : Option String) :
    (text.bind content?).bind content? = text.bind content? := by
  cases text with
  | none => rfl
  | some text => by_cases empty : trim text = "" <;> simp [content?, empty]

/-- The payload has the texts of the request, trimmed, less those that are blank. -/
theorem IsValid.texts_payload (valid : request.IsValid) :
    (request.payload request.visits.sent).texts =
      (request.texts.map trim).filter (· ≠ "") := by
  have cover : (request.cover.texts.map trim).filter (· ≠ "") = request.cover.texts.map trim := by
    rw [List.filter_eq_self]
    intro text listed
    rcases List.mem_map.mp listed with ⟨given, inside, rfl⟩
    exact decide_eq_true (valid.cover given inside)
  simp only [texts, List.map_append, List.map_cons, List.filter_append, ← toList_bind_content?,
    ← VisitSelection.getD_sent]
  have address : decide (trim request.address ≠ "") = true := decide_eq_true valid.address
  rw [List.filter_cons, if_pos address, cover]
  rfl

/-- No text is sent with white space around it, and none that is blank. -/
theorem IsValid.trimmed (valid : request.IsValid) {text : String}
    (listed : text ∈ (request.payload request.visits.sent).texts) :
    trim text = text ∧ text ≠ "" := by
  rw [valid.texts_payload, List.mem_filter] at listed
  rcases List.mem_map.mp listed.1 with ⟨given, _, rfl⟩
  exact ⟨trim_trim given, of_decide_eq_true listed.2⟩

/-- What is rebuilt from a payload is valid again. -/
theorem IsValid.request_payload (valid : request.IsValid) :
    (request.payload request.visits.sent).request.IsValid where
  address := (trim_trim request.address).symm ▸ valid.address
  cover := by
    intro text listed
    rcases List.mem_map.mp (show text ∈ request.cover.texts.map trim from listed) with
      ⟨given, inside, rfl⟩
    exact (trim_trim given).symm ▸ valid.cover given inside
  email := (trim_trim request.cover.contactEmail).symm ▸ valid.email
  visits := valid.visits.elim_sent

/-- Trimming once more changes nothing. -/
theorem payload_request_payload (request : ReportRequest) (visits : Option (List String)) :
    (request.payload visits).request.payload visits = request.payload visits := by
  rcases request with ⟨address, locationId, cover, notes, recommendations, flag, selection⟩
  cases flag <;>
    simp only [payload, Payload.request, Option.getD_some, trim_trim,
      bind_content?_bind_content?] <;> rfl

theorem IsValid.check_request_payload (valid : request.IsValid) :
    (request.payload request.visits.sent).request.check =
      .ok (request.payload request.visits.sent) := by
  refine check_eq_ok_iff.mpr ⟨valid.request_payload, ?_⟩
  have sent : (request.payload request.visits.sent).request.visits.sent = request.visits.sent :=
    request.visits.sent_elim_sent
  rw [sent, payload_request_payload]

/-- The check tells the valid requests from the others, and names the first thing that is wrong.
The payload of a request that passes has the texts that were filled in, trimmed and none of them
empty; it names visits exactly if a selection was made, and then at least one; and a request that is
filled in with what stands in it has the same payload. -/
theorem check_accepts_valid (request : ReportRequest) :
    ((∃ payload, request.check = .ok payload) ↔ request.IsValid) ∧
      (∀ rejection, request.check = .error rejection ↔ request.Fails rejection) ∧
      ∀ payload, request.check = .ok payload →
        (∀ text ∈ payload.texts, trim text = text ∧ text ≠ "") ∧
        payload.texts = (request.texts.map trim).filter (· ≠ "") ∧
        payload.visitIds = request.visits.sent ∧ payload.visitIds ≠ some [] ∧
        payload.deficiencyOnly = (if request.deficiencyOnly then some true else none) ∧
        payload.request.check = .ok payload := by
  refine ⟨?_, fun rejection => check_eq_error_iff, ?_⟩
  · simp only [check_eq_ok_iff, exists_and_left, exists_eq, and_true]
  · intro payload passes
    rcases check_eq_ok_iff.mp passes with ⟨valid, rfl⟩
    exact ⟨fun _ => valid.trimmed, valid.texts_payload, rfl, valid.visits.sent_ne, rfl,
      valid.check_request_payload⟩

/-- A request with white space around everything, of whose three visits two are named. -/
def crowded : ReportRequest where
  address := " 12 Elm Street\n"
  locationId := some 7
  cover :=
    { buildingOwner := "Acme ", street := "12 Elm Street", city := "\tSpringfield", state := "IL"
      zip := " 62701 ", contactName := "Dana Reyes", contactEmail := " dana@acme.example " }
  notes := some "  "
  recommendations := some " Replace the restrictor "
  deficiencyOnly := true
  visits := .selected [" v-2", "", "v-1 "]

/-- The names of the visits keep their order, and the remark that is blank is left out. -/
theorem check_crowded : ∃ payload, crowded.check = .ok payload ∧
    payload.texts = ["12 Elm Street", "Acme", "12 Elm Street", "Springfield", "IL", "62701",
      "Dana Reyes", "dana@acme.example", "Replace the restrictor", "v-2", "v-1"] ∧
    payload.visitIds = some ["v-2", "v-1"] ∧ payload.deficiencyOnly = some true ∧
    payload.request.check = .ok payload := by
  have passes : crowded.check = .ok (crowded.payload (some ["v-2", "v-1"])) := by decide +kernel
  rcases crowded.check_accepts_valid.2.2 _ passes with ⟨_, texts, visits, _, flag, again⟩
  refine ⟨_, passes, texts.trans ?_, visits.trans ?_, flag, again⟩
  · decide +kernel
  · decide +kernel

end ReportRequest

end AuditReports
