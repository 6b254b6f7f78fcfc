import AdmissionGate.Proofs.Report.Counter
import AdmissionGate.Proofs.Screening.Demands
import AdmissionGate.Proofs.Screening.Names
import AdmissionGate.Proofs.Text.Utf8
import AdmissionGate.Report.Notice

/-!
# What lenient mode leaves a trace of

In lenient mode a suspicious value does not stop a request, and all that is left of it is an entry in
the log and one more in a counter. The screen makes these on its way, in four checks and a walk through
the body. What they come to can be said without the screen: the texts that are looked through stand in
a list (`Candidate`), and each of them is matched or not whatever becomes of the others.

* `Json.candidates`: the texts of a JSON value, the name of a member before what stands under it.
* `trail`: the findings of a request.
* `Verdict.Reports`: a check that reports some findings, if it does not refuse the request. It goes
  through sequences of checks (`Verdict.Reports.andThen`) and through values (`reports_json`).
* `lenient_trail`: the log and the counters of a request that lenient mode lets through.
-/

namespace AdmissionGate

/-- A text that is looked through for signatures, where it stands and by what name it goes. -/
structure Candidate where
  place : Place
  name : String
  text : String

/-- What there is to report of a text. -/
def Candidate.finding? (c : Candidate) : Option Finding :=
  (injectionCategory c.text).map fun category => ⟨c.place, c.name, category, c.text⟩

namespace Json

mutual

/-- The names of members and the strings in a value, each before what comes behind it in the text. -/
def candidates : Json → List Candidate
  | .object members => memberCandidates members
  | .array items => itemCandidates items
  | .string text => [⟨.jsonValue, "value", text⟩]
  | .null => []
  | .bool _ => []
  | .number _ => []

/-- Those of the items, one after the other. -/
def itemCandidates : List Json → List Candidate
  | [] => []
  | v :: rest => candidates v ++ itemCandidates rest

/-- Those of the members, each name before what stands under it. -/
def memberCandidates : List (String × Json) → List Candidate
  | [] => []
  | (name, v) :: rest => ⟨.jsonKey, name, name⟩ :: (candidates v ++ memberCandidates rest)

end

end Json

/-! ## The trail of a request -/

namespace Screening

/-- What there is to report of a header. -/
def headerFinding? (f : String × Text.Bytes) : Option Finding :=
  (headerThreat (Text.decodeLossy f.2)).map fun category =>
    ⟨.header, f.1, category, Text.decodeLossy f.2⟩

/-- The parameters without a shape of their own. -/
def paramCandidates (r : Request) : List Candidate :=
  (r.pathParams.filter fun p => ¬ AsksUuid p.1 p.2 ∧ ¬ AsksSlug p.1 p.2).map fun p =>
    ⟨.pathParam, p.1, p.2⟩

/-- The texts of a body, as it is read: of the members of one name the last counts. -/
def bodyCandidates (r : Request) : List Candidate :=
  match BodyKind.of? r.method r.headers, Json.parse? r.body with
  | some .json, some v => v.settle.candidates
  | _, _ => []

/-- The findings of a request, in the order in which they are reported. Of the query and its decoded
keys and values, only the first that is suspicious is reported. -/
def trail (r : Request) : List Finding :=
  r.headers.fields.filterMap headerFinding? ++
    (((r.query.toList.flatMap queryCandidates).filterMap fun text =>
        Candidate.finding? ⟨.query, "query", text⟩).take 1 ++
      ((paramCandidates r).filterMap Candidate.finding? ++
        (bodyCandidates r).filterMap Candidate.finding?))

end Screening

/-! ## Checks and what they report -/

namespace Verdict

/-- A check that reports just these findings, if it does not refuse the request. -/
def Reports (v : Verdict) (fs : List Finding) : Prop := v.refusal? = none → v.findings = fs

namespace Reports

variable {v w : Verdict} {fs gs : List Finding}

theorem pass : pass.Reports [] := fun _ => rfl

theorem refuse (e : Refusal) (fs : List Finding) : (refuse e).Reports fs := by
  intro h
  cases h

/-- Checks one after the other report in that order. -/
theorem andThen (hv : v.Reports fs) (hw : w.Reports gs) : (v.andThen w).Reports (fs ++ gs) := by
  intro h
  obtain ⟨hfirst, hsecond⟩ := refusal?_andThen_eq_none.mp h
  rw [andThen_of_none hfirst]
  show v.findings ++ w.findings = fs ++ gs
  rw [hv hfirst, hw hsecond]

/-- The same check on everything in a list. -/
theorem all_map {α : Type} {f : α → Verdict} {g : α → Option Finding} {as : List α}
    (h : ∀ a ∈ as, (f a).Reports (g a).toList) : (all (as.map f)).Reports (as.filterMap g) := by
  rw [List.filterMap_eq_flatMap_toList]
  induction as with
  | nil => exact pass
  | cons a rest ih =>
    rw [List.map_cons, List.flatMap_cons]
    exact (h a (List.mem_cons_self ..)).andThen (ih fun b hb => h b (List.mem_cons_of_mem _ hb))

end Reports

end Verdict

namespace Screening

open Verdict

variable {s : ScreeningSettings} {r : Request}

/-- In lenient mode a suspicious value is noted, and that is all. -/
theorem suspect_lenient (hlenient : s.strict = false) (e : Refusal) (f : Finding) :
    suspect s e f = note f := by
  rw [suspect, hlenient]
  rfl

/-- A check that notes what is suspicious, and lets everything through. -/
theorem reports_candidate {v : Verdict} {c : Candidate}
    (hclean : injectionCategory c.text = none → v = pass)
    (hfound : ∀ category, injectionCategory c.text = some category →
      v = note ⟨c.place, c.name, category, c.text⟩) :
    v.Reports c.finding?.toList := by
  intro _
  rw [Candidate.finding?]
  cases hcategory : injectionCategory c.text with
  | none => rw [hclean hcategory]; rfl
  | some category => rw [hfound category hcategory]; rfl

/-- **The headers report each value with a threat.** -/
theorem reports_headers (hlenient : s.strict = false) :
    (headers s r).Reports (r.headers.fields.filterMap headerFinding?) := by
  unfold headers
  split
  · exact .refuse _ _
  · refine .all_map ?_
    rintro ⟨name, value⟩ - -
    simp only [headerValue, headerFinding?]
    cases headerThreat (Text.decodeLossy value) with
    | none => rfl
    | some category =>
      show (suspect s _ _).findings = _
      rw [suspect_lenient hlenient]
      rfl

/-- Of some texts, the first that is suspicious. -/
theorem take_one_findings (texts : List String) :
    (texts.filterMap fun text => Candidate.finding? ⟨.query, "query", text⟩).take 1
      = ((firstInjection? texts).map fun found => ⟨.query, "query", found.2, found.1⟩).toList := by
  have hfinding : (fun text => Candidate.finding? ⟨.query, "query", text⟩)
      = Option.map (fun found => ⟨.query, "query", found.2, found.1⟩) ∘
        fun text => (injectionCategory text).map (text, ·) := by
    funext text
    rw [Function.comp_apply, Option.map_map]
    rfl
  rw [List.take_one, List.head?_filterMap, firstInjection?, List.map_findSome?, hfinding]

/-- **The query reports the first of its texts that is suspicious.** -/
theorem reports_query (hlenient : s.strict = false) :
    (query s r).Reports (((r.query.toList.flatMap queryCandidates).filterMap fun text =>
      Candidate.finding? ⟨.query, "query", text⟩).take 1) := by
  rw [take_one_findings]
  unfold query
  cases r.query with
  | none => exact .pass
  | some q =>
    rw [Option.toList_some, List.flatMap_singleton]
    dsimp only
    split
    · next hempty =>
      obtain rfl : q = "" := by simpa using hempty
      rw [firstInjection?_eq_none.mpr clean_candidates_empty]
      exact .pass
    · split
      · exact .refuse _ _
      · cases firstInjection? (queryCandidates q) with
        | none => exact .pass
        | some found =>
          show (suspect s _ _).Reports _
          rw [suspect_lenient hlenient]
          exact fun _ => rfl

/-- A parameter without a shape of its own is reported if it is suspicious. -/
theorem reports_pathParam (hlenient : s.strict = false) (name value : String) :
    (pathParam s name value).Reports (if ¬ AsksUuid name value ∧ ¬ AsksSlug name value
      then Candidate.finding? ⟨.pathParam, name, value⟩ else none).toList := by
  -- a check of a shape has nothing to report
  have hshape : ∀ (ok : Bool) (e : Refusal), (if ok then pass else refuse e).Reports [] := by
    intro ok e
    split
    · exact .pass
    · exact .refuse _ _
  by_cases hasks : AsksUuid name value
  · have hshaped : ¬ (¬ AsksUuid name value ∧ ¬ AsksSlug name value) := fun h => h.1 hasks
    rw [if_neg hshaped, pathParam, if_pos ((asksUuid_iff name value).mpr hasks)]
    exact hshape _ _
  by_cases hslugged : AsksSlug name value
  · have hshaped : ¬ (¬ AsksUuid name value ∧ ¬ AsksSlug name value) := fun h => h.2 hslugged
    rw [if_neg hshaped, pathParam, if_neg fun h => hasks ((asksUuid_iff name value).mp h),
      if_pos ((asksSlug_iff hasks).mpr hslugged)]
    exact hshape _ _
  · rw [if_pos ⟨hasks, hslugged⟩, pathParam,
      if_neg fun h => hasks ((asksUuid_iff name value).mp h),
      if_neg fun h => hslugged ((asksSlug_iff hasks).mp h)]
    refine reports_candidate (fun hclean => ?_) fun category hfound => ?_
    · rw [hclean]
    · rw [hfound]
      exact suspect_lenient hlenient _ _

/-- **The parameters report those that are suspicious and have no shape of their own.** -/
theorem reports_pathParams (hlenient : s.strict = false) :
    (pathParams s r).Reports ((paramCandidates r).filterMap Candidate.finding?) := by
  rw [paramCandidates, List.filterMap_map, List.filterMap_filter]
  refine .all_map ?_
  rintro ⟨name, value⟩ -
  simpa using reports_pathParam hlenient name value

/-! ## Bodies -/

theorem filterMap_cons_finding (c : Candidate) (cs : List Candidate) :
    (c :: cs).filterMap Candidate.finding? = c.finding?.toList ++ cs.filterMap Candidate.finding? := by
  rw [List.filterMap_cons]
  cases c.finding? <;> rfl

/-- A name in a body is reported under its own name. -/
theorem reports_memberName (hlenient : s.strict = false) (name : String) :
    (memberName s name).Reports (Candidate.finding? ⟨.jsonKey, name, name⟩).toList := by
  refine reports_candidate (fun hclean => ?_) fun category hfound => ?_
  · rw [memberName, hclean]
  · rw [memberName, hfound]
    exact suspect_lenient hlenient _ _

/-- A string in a body is reported as a value. -/
theorem reports_jsonString (text : String) :
    (jsonString text).Reports (Candidate.finding? ⟨.jsonValue, "value", text⟩).toList := by
  refine reports_candidate (fun hclean => ?_) fun category hfound => ?_
  · rw [jsonString, hclean]
  · rw [jsonString, hfound]

/-- A value that goes too deep is refused, and one that does not reports what is in it. -/
theorem reports_unlessDeep (depth : ℕ) {v : Verdict} {fs : List Finding} (h : v.Reports fs) :
    (if s.maxJsonDepth < depth then Verdict.refuse .bodyTooDeep else v).Reports fs := by
  split
  · exact .refuse _ _
  · exact h

mutual

/-- The walk through a value reports its texts. -/
theorem reports_json (hlenient : s.strict = false) (depth : ℕ) (v : Json) :
    (json s depth v).Reports (v.candidates.filterMap Candidate.finding?) := by
  cases v with
  | object members =>
    rw [json, Json.candidates]
    exact reports_unlessDeep depth (reports_jsonMembers hlenient (depth + 1) members)
  | array items =>
    rw [json, Json.candidates]
    exact reports_unlessDeep depth (reports_jsonItems hlenient (depth + 1) items)
  | string text =>
    rw [json, Json.candidates, filterMap_cons_finding, List.filterMap_nil, List.append_nil]
    exact reports_unlessDeep depth (reports_jsonString text)
  | null => rw [json, Json.candidates]; exact reports_unlessDeep depth .pass
  | bool b => rw [json, Json.candidates]; exact reports_unlessDeep depth .pass
  | number n => rw [json, Json.candidates]; exact reports_unlessDeep depth .pass

theorem reports_jsonItems (hlenient : s.strict = false) (depth : ℕ) (items : List Json) :
    (jsonItems s depth items).Reports
      ((Json.itemCandidates items).filterMap Candidate.finding?) := by
  cases items with
  | nil => rw [jsonItems, Json.itemCandidates]; exact .pass
  | cons v rest =>
    rw [jsonItems, Json.itemCandidates, List.filterMap_append]
    exact (reports_json hlenient depth v).andThen (reports_jsonItems hlenient depth rest)

theorem reports_jsonMembers (hlenient : s.strict = false) (depth : ℕ)
    (members : List (String × Json)) :
    (jsonMembers s depth members).Reports
      ((Json.memberCandidates members).filterMap Candidate.finding?) := by
  cases members with
  | nil => rw [jsonMembers, Json.memberCandidates]; exact .pass
  | cons member rest =>
    obtain ⟨name, v⟩ := member
    rw [jsonMembers, Json.memberCandidates, filterMap_cons_finding, List.filterMap_append]
    exact (reports_memberName hlenient name).andThen
      ((reports_json hlenient depth v).andThen (reports_jsonMembers hlenient depth rest))

end

/-- **The body reports what is suspicious in it**, if it is JSON. -/
theorem reports_body (hlenient : s.strict = false) :
    (body s r).Reports ((bodyCandidates r).filterMap Candidate.finding?) := by
  unfold body bodyCandidates
  cases hkind : BodyKind.of? r.method r.headers with
  | none => exact .pass
  | some kind =>
    dsimp only
    split
    · exact .refuse _ _
    cases kind with
    | form => exact .pass
    | json =>
      show (jsonBody s r.body).Reports _
      unfold jsonBody
      split
      · exact .refuse _ _
      cases Json.parse? r.body with
      | none => exact .refuse _ _
      | some v => exact reports_json hlenient 0 v.settle

/-- What a request has left in lenient mode, if it is let through. -/
theorem findings_eq_trail (hlenient : s.strict = false) (haccepted : (request s r).refusal? = none) :
    (request s r).findings = trail r :=
  ((reports_headers hlenient).andThen ((reports_query hlenient).andThen
    ((reports_pathParams hlenient).andThen (reports_body hlenient)))) haccepted

/-! ## Reports -/

/-- The entry of the log for a finding. -/
def findingNotice (r : Request) (f : Finding) : Notice :=
  ⟨.warn, "Suspicious input allowed through",
    [("path", .text r.path), ("method", .text r.method.name), ("location", .text f.place.name),
      ("name", .text f.name), ("category", .text f.category.label),
      ("preview", .text (preview f.value))]⟩

/-- Every finding has one notice. -/
theorem notices_report (r : Request) (fs : List Finding) :
    notices (report r fs) = fs.map (findingNotice r) := by
  induction fs with
  | nil => rfl
  | cons f rest ih =>
    rw [List.map_cons, ← ih]
    rfl

/-- A category is counted as often as it is found. -/
theorem count_report (r : Request) (fs : List Finding) (c : Category) :
    (report r fs).count (.findingCounted c) = fs.countP fun f => f.category = c := by
  induction fs with
  | nil => rfl
  | cons f rest ih =>
    rw [List.countP_cons, ← ih]
    simp only [report, List.flatMap_cons, List.cons_append, List.nil_append, List.count_cons]
    simp

/-- **What lenient mode leaves a trace of.** If lenient mode lets a request through, then the log has
an entry for each finding of its trail, in this order, and no other. The counter of each category grows
by the number of these entries. The members of the objects in the body come in the order of the bytes of
their names. -/
theorem lenient_trail (hlenient : s.strict = false) (haccepted : (request s r).refusal? = none) :
    let events := report r (request s r).findings
    notices events = (trail r).map (findingNotice r) ∧
      (∀ (earlier : List Event) (c : Category),
        (Metrics.ofEvents (earlier ++ events)).counter c.counterKey
          = (Metrics.ofEvents earlier).counter c.counterKey
            + (trail r).countP fun f => f.category = c) ∧
      ∀ v, Json.parse? r.body = some v → ∀ depth members, v.settle.Occurs depth (.object members) →
        members.Pairwise fun m m' => Text.encode m.1 < Text.encode m'.1 := by
  intro events
  have hevents : events = report r (trail r) := by
    show report r (request s r).findings = _
    rw [findings_eq_trail hlenient haccepted]
  refine ⟨?_, fun earlier c => ?_, fun v _ depth members hobject => ?_⟩
  · rw [hevents, notices_report]
  · rw [Metrics.counter_eq_count Event.update?_eq_finding,
      Metrics.counter_eq_count Event.update?_eq_finding, List.count_append, hevents, count_report]
  · exact hobject.ascends_of_settle.imp Text.encode_lt

/-- A request with something suspicious in each of its parts. -/
def noisy : Request :=
  { Request.ofPathAndQuery .post "/items?q=1&k=%3b&l=%27" with
    headers := Headers.setText (Headers.setText Table.empty "content-type" "application/json")
      "x-note" "javascript:"
    pathParams := [("slug", "a-b"), ("name", "a;b")]
    body := Text.encode "\x7b\"b\":[\"--\",true],\"a;\":\"#\"\x7d" }

/-- Its trail. Of the query, the first suspicious value is reported and not the one behind it, and of
the body, the member that comes first by its name. -/
def noisyTrail : List Finding :=
  [⟨.header, "x-note", .xss, "javascript:"⟩, ⟨.query, "query", .sqlInjection, ";"⟩,
    ⟨.pathParam, "name", .sqlInjection, "a;b"⟩, ⟨.jsonKey, "a;", .sqlInjection, "a;"⟩,
    ⟨.jsonValue, "value", .sqlInjection, "#"⟩, ⟨.jsonValue, "value", .sqlInjection, "--"⟩]

/-- What the body says once it is read. -/
def noisyValue : Json := .object [("b", .array [.string "--", .bool true]), ("a;", .string "#")]

theorem parse?_noisy : Json.parse? noisy.body = some noisyValue := by
  cbv

theorem ofType?_noisy : BodyKind.of? noisy.method noisy.headers = some .json := by decide +kernel

theorem accepts_noisy : (request .standard noisy).refusal? = none := by
  have hsize : noisy.body.length ≤ ScreeningSettings.standard.maxBodyBytes := by decide +kernel
  have hbody : (body .standard noisy).refusal? = none := by
    rw [body_eq_jsonBody ofType?_noisy hsize, jsonBody, parse?_noisy]
    decide +kernel
  simp only [request, refusal?_andThen_eq_none]
  exact ⟨by decide +kernel, by decide +kernel, by decide +kernel, hbody⟩

/-- What there is to find in the request. -/
theorem trail_noisy : trail noisy = noisyTrail := by
  have hbody : bodyCandidates noisy = noisyValue.settle.candidates := by
    rw [bodyCandidates, ofType?_noisy, parse?_noisy]
  rw [trail, hbody]
  decide +kernel

/-- A request with something to find in each of its parts. -/
theorem lenient_trail_noisy : (request .standard noisy).refusal? = none ∧
    let events := report noisy (request .standard noisy).findings
    notices events = noisyTrail.map (findingNotice noisy) ∧
      (∀ (earlier : List Event) (c : Category),
        (Metrics.ofEvents (earlier ++ events)).counter c.counterKey
          = (Metrics.ofEvents earlier).counter c.counterKey
            + noisyTrail.countP fun f => f.category = c) ∧
      ∀ depth members, noisyValue.settle.Occurs depth (.object members) →
        members.Pairwise fun m m' => Text.encode m.1 < Text.encode m'.1 := by
  obtain ⟨hlog, hcounters, hnames⟩ := lenient_trail (s := .standard) rfl accepts_noisy
  rw [trail_noisy] at hlog hcounters
  exact ⟨accepts_noisy, hlog, hcounters, hnames noisyValue parse?_noisy⟩

end Screening

end AdmissionGate
