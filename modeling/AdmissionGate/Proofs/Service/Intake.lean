import AdmissionGate.Proofs.Admission.Outcome
import AdmissionGate.Proofs.Http.MediaType
import AdmissionGate.Proofs.Screening.Names
import AdmissionGate.Service.Basic

/-!
# What has been screened when an item is made

The endpoint that makes items stands behind the gate, and both look at the content type of a request:
the gate to see whether there is JSON to look into, the endpoint to see whether there is JSON to read.

* `Gate.inspect_of_status`: an answer with a status that no refusal has comes from behind the gate, so
  that its request has passed the screen.
* `Endpoint.announcesJson_of_created`: an item is only made if JSON is announced.
* `Service.created_screened`: the body of an item that is made has been screened as JSON, or its content
  type is one of JSON by its suffix alone. The latter happens (`Service.created_unscreened`).
-/

namespace AdmissionGate

/-! ## Statuses -/

theorem Refusal.status_response (e : Refusal) : e.response.status = e.status := by
  cases e <;> rfl

/-- No refusal tells the client that something was made. -/
theorem Refusal.status_ne_created (e : Refusal) : e.status ≠ 201 := by
  cases e <;> exact Nat.ne_of_beq_eq_false rfl

theorem IntakeError.status_ne_created (e : IntakeError) : e.status ≠ 201 := by
  cases e <;> decide

/-- What is done to a response on its way out leaves its status. -/
theorem Response.status_outgoing (r : Response) (m : Method) : (r.outgoing m).status = r.status := by
  rw [Response.outgoing]
  split <;> rfl

theorem Endpoint.status_outgoing (e : Endpoint) (m : Method) (r : Response) :
    (e.outgoing m r).status = r.status := by
  rw [Endpoint.outgoing]
  split <;> rw [Response.status_outgoing]

variable {τ σ : Type} [Instant τ] [SharedStore σ τ]

/-! ## The gate -/

namespace Gate

/-- An answer from behind the gate is marked on its way out. -/
theorem result_release {ε : Type} (quota : Option Decision) (screened : Bool) {s : Served ε}
    {made : Response} (h : s.result = .ok made) :
    (release quota screened s).result = .ok (made.marked quota screened) := by
  rw [release, h]

theorem exists_of_release {ε : Type} {quota : Option Decision} {screened : Bool} {s : Served ε}
    {response : Response} (h : (release quota screened s).result = .ok response) :
    ∃ made, s.result = .ok made ∧ made.status = response.status := by
  cases hmade : s.result with
  | error e =>
    rw [release, hmade] at h
    cases h
  | ok made =>
    rw [result_release quota screened hmade] at h
    cases h
    exact ⟨made, rfl, rfl⟩

/-- An answer with a status that no refusal has comes from behind the gate, and its request has passed
the screen. -/
theorem inspect_of_status {ε : Type} {g : Gate} {l : Limiter τ σ} {now : τ} {r : Request}
    {next : Limiter τ σ → Request → Id (Served ε)} {meanwhile : Limiter.Change τ σ}
    {response : Response} (hscreens : g.settings.screens r.path = true)
    (hresult : (g.handle l now r next meanwhile).run.2.result = .ok response)
    (hstatus : ∀ e : Refusal, e.status ≠ response.status) :
    (∃ taken, (g.inspect r).2 = .ok taken) ∧
      ∃ l' made, (next l' r).run.result = .ok made ∧ made.status = response.status := by
  have hruled := g.ruled_rule l now r meanwhile
  unfold handle at hresult
  generalize g.rule l now r meanwhile = ruled at hruled hresult
  cases hruled with
  | bypassed hmeters hscreens' =>
    rw [hscreens] at hscreens'
    cases hscreens'
  | @denied hdenies denial hdenial =>
    cases hresult
    exact absurd (Refusal.status_response _).symm (hstatus _)
  | @refused hdenies hscreens' refusal hrefusal =>
    cases hresult
    exact absurd (Refusal.status_response refusal).symm (hstatus refusal)
  | admitted hdenies happlies htaken =>
    rw [if_pos hscreens] at htaken
    have hpassed := rebuilt_of_inspect htaken
    obtain ⟨made, hmade, hsame⟩ := exists_of_release hresult
    exact ⟨⟨_, htaken⟩, _, made, hpassed ▸ hmade, hsame⟩

/-- A request that costs no quota and passes the screen is answered from behind the gate. -/
theorem result_of_inspect {ε : Type} {g : Gate} (l : Limiter τ σ) (now : τ) {r : Request}
    {next : Limiter τ σ → Request → Id (Served ε)} (meanwhile : Limiter.Change τ σ)
    {made : Response} (hfree : g.settings.meters r.path = false)
    (hscreens : g.settings.screens r.path = true) {taken : Option Text.Bytes}
    (hinspect : (g.inspect r).2 = .ok taken)
    (hnext : ∀ l', (next l' r).run.result = .ok made) :
    ∃ response, (g.handle l now r next meanwhile).run.2.result = .ok response ∧
      response.status = made.status := by
  have hruled := g.ruled_rule l now r meanwhile
  unfold handle
  generalize g.rule l now r meanwhile = ruled at hruled
  cases hruled with
  | bypassed hmeters hscreens' =>
    rw [hscreens] at hscreens'
    cases hscreens'
  | denied hdenies hdenial =>
    have hmeters := hdenies.1
    rw [hfree] at hmeters
    cases hmeters
  | refused hdenies hscreens' hrefusal =>
    rw [hinspect] at hrefusal
    cases hrefusal
  | @admitted hdenies happlies took htaken =>
    rw [if_pos hscreens] at htaken
    have hpassed := rebuilt_of_inspect htaken
    exact ⟨_, result_release _ _ (hpassed.symm ▸ hnext _), rfl⟩

/-- What has passed the screen has no body that is refused. -/
theorem body_of_inspect {g : Gate} {r : Request} {taken : Option Text.Bytes}
    (h : (g.inspect r).2 = .ok taken) : (Screening.body g.screen r).refusal? = none := by
  have hscreen := (inspect_eq_ok_iff.mp h).2
  simp only [Screening.request, Verdict.refusal?_andThen_eq_none] at hscreen
  exact hscreen.2.2.2

end Gate

/-! ## The endpoint -/

namespace Draft

/-- A draft is taken in from a request that announces JSON and whose body is within the limit and
whole. -/
theorem ofRequest_of_parse {max : Nat} {r : Request} {d : Draft}
    (hannounced : announcesJson r.headers = true) (hsize : r.body.length ≤ max)
    (hwhole : r.bodyFault = none) (hparse : parse r.body = .ok d) : ofRequest max r = .ok d := by
  rw [ofRequest, hannounced, if_neg (by decide),
    Request.readBody_eq_ok_iff.mpr ⟨hsize, hwhole, rfl⟩]
  show (parse r.body).mapError _ = _
  rw [hparse]
  rfl

/-- The first member of an object, and what follows it. -/
theorem membersFrom_first {f f' : Fields} {bs rest tail : Text.Bytes} {name : String}
    (hnext : Json.Token.next? .full bs = some (.string name, rest))
    (hmember : memberAfter f name rest = .ok (f', tail)) :
    membersFrom .first f bs = membersFrom .separator f' tail := by
  rw [membersFrom]
  split
  · next hnone =>
    rw [hnext] at hnone
    cases hnone
  · next t tail' hsome =>
    obtain ⟨rfl, rfl⟩ : Json.Token.string name = t ∧ rest = tail' := by
      rw [hnext] at hsome
      simpa using hsome
    dsimp only
    split
    · next hm =>
      rw [hmember] at hm
      cases hm
    · next hm =>
      rw [hmember] at hm
      cases hm
      rfl

end Draft

namespace Endpoint

variable {s : Settings} {l : Limiter τ σ} {m : Moment} {params : Option (List (String × String))}
  {r : Request}

omit [Instant τ] in
theorem answer_items (hmethod : r.method = .post) : items.answer s l m params r = create s m r := by
  have htakes : items.methods.contains r.method = true := by
    rw [hmethod]
    decide
  rw [answer, if_pos htakes]
  rfl

omit [Instant τ] in
/-- **An item is only made if JSON is announced.** -/
theorem announcesJson_of_created {made : Response} (hmethod : r.method = .post)
    (h : (items.answer s l m params r).result = .ok made) (hstatus : made.status = 201) :
    announcesJson r.headers = true := by
  rw [answer_items hmethod, create, Draft.ofRequest] at h
  cases hannounced : announcesJson r.headers with
  | true => rfl
  | false =>
    rw [hannounced] at h
    cases h
    exact absurd hstatus (IntakeError.status_ne_created .unannounced)

omit [Instant τ] in
/-- A draft that is taken in is made into an item. -/
theorem created_of_draft {d : Draft} (hmethod : r.method = .post)
    (hdraft : Draft.ofRequest s.maxBodyBytes r = .ok d) :
    (items.answer s l m params r).result
      = .ok (.json 201 (KnowledgeItem.ofDraft d m.freshId m.time).json) := by
  rw [answer_items hmethod, create, hdraft]

end Endpoint

/-! ## The body by itself -/

/-- A request with JSON for its content type. -/
def Request.asJson (r : Request) : Request :=
  { r with headers := r.headers.setText "content-type" "application/json" }

/-- A header that was set to a visible text reads as this text. -/
theorem Headers.text?_setText {h : Headers} {name value : String}
    (hvalue : visibleText? (Text.encode value) = some value) :
    (h.setText name value).text? name = some value := by
  rw [text?, first?, values, setText, set, Table.get?_put, if_pos rfl]
  exact hvalue

/-- For posted bodies, the content type tells what they are looked into as. -/
theorem BodyKind.of?_post (h : Headers) :
    BodyKind.of? .post h = BodyKind.ofContentType? ((h.text? "content-type").getD "") :=
  if_pos (by decide)

namespace Screening

/-- A body that is said to be JSON is looked into as JSON. -/
theorem of?_asJson {r : Request} (hmethod : r.method = .post) :
    BodyKind.of? r.asJson.method r.asJson.headers = some .json := by
  have htext : r.asJson.headers.text? "content-type" = some "application/json" :=
    Headers.text?_setText (by decide +kernel)
  rw [show r.asJson.method = .post from hmethod, BodyKind.of?_post, htext]
  decide +kernel

/-- Of bodies that are looked into as JSON, nothing else of the request matters. -/
theorem body_congr (s : ScreeningSettings) {r r' : Request}
    (h : BodyKind.of? r.method r.headers = some .json)
    (h' : BodyKind.of? r'.method r'.headers = some .json) (hbody : r.body = r'.body) :
    body s r = body s r' := by
  rw [body, body, h, h', hbody]

end Screening

/-! ## The service -/

namespace Service

/-- What the gate and an endpoint make of a request. -/
def handled (s : Service τ σ) (now : τ) (m : Moment) (e : Endpoint)
    (params : Option (List (String × String))) (r : Request) : Limiter τ σ × Served Empty :=
  Id.run (s.gate.handle s.limiter now { r with pathParams := params.getD [] }
    (fun l r => e.answer s.settings l m params r) (s.upkeep.duringWait now s.settings.storeTimeout))

/-- The answer of an endpoint goes out as it has left the gate. -/
theorem visit_of_handled {s : Service τ σ} {now : τ} {m : Moment} {e : Endpoint}
    {params : Option (List (String × String))} {r : Request} {made : Response}
    (h : (s.handled now m e params r).2.result = .ok made) :
    (s.visit now m e params r).2.1 = e.outgoing r.method made := by
  rw [handled] at h
  simp only [visit, h]

theorem locate?_items : locate? "/api/v1/knowledge" = some (.items, some []) := by
  decide +kernel

/-- The answer to a request has the status that the gate let out. -/
theorem status_respond (s : Service τ σ) (now : τ) (m : Moment) {r : Request}
    (hmethod : r.method = .post) (hpath : r.path = "/api/v1/knowledge") :
    ∃ made, (s.handled now m .items (some []) r).2.result = .ok made ∧
      (s.respond now m r).2.1.status = made.status := by
  have hnot : ¬ r.method = Method.options := by
    rw [hmethod]
    decide
  cases hresult : (s.handled now m .items (some []) r).2.result with
  | error impossible => cases impossible
  | ok made =>
    refine ⟨made, rfl, ?_⟩
    rw [respond, if_neg hnot, hpath, locate?_items]
    show (s.visit now m .items (some []) r).2.1.status = made.status
    rw [visit_of_handled hresult, Endpoint.status_outgoing]

/-- A draft that is announced as JSON and gets past the gate is taken in. -/
theorem status_respond_of_draft {s : Service τ σ} {now : τ} {m : Moment} {r : Request}
    (hmethod : r.method = .post) (hpath : r.path = "/api/v1/knowledge")
    (hfree : s.settings.admission.meters r.path = false)
    (hscreens : s.settings.admission.screens r.path = true)
    {taken : Option Text.Bytes} (hinspect : (s.gate.inspect { r with pathParams := [] }).2 = .ok taken)
    {d : Draft} (hdraft : Draft.ofRequest s.settings.maxBodyBytes r = .ok d) :
    (s.respond now m r).2.1.status = 201 := by
  obtain ⟨made, hmade, hstatus⟩ := status_respond s now m hmethod hpath
  have hnext : ∀ l' : Limiter τ σ, (Id.run (Endpoint.items.answer s.settings l' m (some [])
      { r with pathParams := [] })).result
        = .ok (.json 201 (KnowledgeItem.ofDraft d m.freshId m.time).json) :=
    fun _ => Endpoint.created_of_draft (r := { r with pathParams := [] }) hmethod hdraft
  obtain ⟨response, hresponse, hsame⟩ := Gate.result_of_inspect s.limiter now
    (s.upkeep.duringWait now s.settings.storeTimeout) hfree hscreens hinspect hnext
  have heq : made = response := by
    have h := hmade.symm.trans hresponse
    exact Except.ok.inj h
  rw [hstatus, heq, hsame]
  rfl

/-- **What is taken in has been screened, unless its content type only ends in `+json`.** With screening
on, and the path of items among those that are screened, a request to make an item is answered with 201
only if its body passes as a body of JSON, or if its content type is one of JSON by its suffix and does
not have the name that the gate looks for. -/
theorem created_screened {s : Service τ σ} {now : τ} {m : Moment} {r : Request}
    (hscreening : s.settings.screening = true)
    (hguarded : s.settings.admission.isUnscreened "/api/v1/knowledge" = false)
    (hmethod : r.method = .post) (hpath : r.path = "/api/v1/knowledge")
    (hcreated : (s.respond now m r).2.1.status = 201) :
    (Screening.body s.settings.screeningSettings r.asJson).refusal? = none ∨
      ∃ text type, r.header? "content-type" = some text ∧ MediaType.read? text = some type ∧
        type.type = "application" ∧ type.suffix = some "json" ∧
          Text.hasText "application/json" (Text.lowerAscii text) = false := by
  have hscreens : s.settings.admission.screens r.path = true := by
    rw [AdmissionSettings.screens, hpath, hguarded, Bool.not_false, Bool.and_true]
    exact hscreening
  obtain ⟨response, hresponse, hstatus⟩ := status_respond s now m hmethod hpath
  rw [hcreated] at hstatus
  have hnone : ∀ e : Refusal, e.status ≠ response.status := fun e => hstatus ▸ e.status_ne_created
  obtain ⟨⟨taken, hinspect⟩, l', made, hmade, hsame⟩ :=
    Gate.inspect_of_status hscreens hresponse hnone
  have hbody := Gate.body_of_inspect hinspect
  have hannounced : announcesJson r.headers = true :=
    Endpoint.announcesJson_of_created (l := l') (r := { r with pathParams := [] }) hmethod hmade
      (hsame.trans hstatus.symm)
  rw [announcesJson, Option.any_eq_true] at hannounced
  obtain ⟨type, htype, hjson⟩ := hannounced
  obtain ⟨text, htext, hread⟩ := Option.bind_eq_some_iff.mp htype
  rcases MediaType.ofContentType?_of_isJson hread hjson with hkind | ⟨hname, hsuffix, hunseen⟩
  · have hkind' : BodyKind.of? r.method r.headers = some .json := by
      rw [hmethod, BodyKind.of?_post, htext, Option.getD_some, hkind]
    have hkindAlone := Screening.of?_asJson hmethod
    rw [Screening.body_congr s.settings.screeningSettings hkindAlone hkind' rfl]
    exact .inl hbody
  · exact .inr ⟨text, type, htext, hread, hname, hsuffix, hunseen⟩

/-! ## Two drafts -/

/-- A service without limits that screens strictly or not. -/
def unlimited (strict : Bool) : Service ℚ (ScriptedStore ℚ) :=
  (start { Settings.standard with rateLimiting := false, strict } none).1

def noon : Moment := ⟨⟨0, 0⟩, 0, "item"⟩

/-- A request to make an item. -/
def bringing (contentType body : String) : Request :=
  { Request.ofPathAndQuery .post "/api/v1/knowledge" with
    headers := Headers.setText Table.empty "content-type" contentType
    body := Text.encode body }

/-- A draft that is announced as what it is. -/
def plainDraft : Request :=
  bringing "Application/JSON; charset=utf-8" "\x7b\"title\":\"t\",\"content\":\"c\"\x7d"

theorem inspect_plainDraft :
    ((unlimited false).gate.inspect plainDraft).2 = .ok (some plainDraft.body) := by
  have hparse : Json.parse? plainDraft.body
      = some (.object [("title", .string "t"), ("content", .string "c")]) := by cbv
  have hkind : BodyKind.of? plainDraft.method plainDraft.headers = some .json := by decide +kernel
  have hsize : plainDraft.body.length ≤ ScreeningSettings.standard.maxBodyBytes := by decide +kernel
  have hheaders : (Screening.headers .standard plainDraft).refusal? = none := by decide +kernel
  have hbody : (Screening.body .standard plainDraft).refusal? = none := by
    rw [Screening.body_eq_jsonBody hkind hsize, Screening.jsonBody_refusal? rfl hparse]
    decide
  have hscreen : (Screening.request .standard plainDraft).refusal? = none := by
    simp only [Screening.request, Verdict.refusal?_andThen_eq_none]
    exact ⟨hheaders, by decide +kernel, by decide +kernel, hbody⟩
  exact Gate.inspect_eq_ok_iff.mpr ⟨by decide +kernel, hscreen⟩

/-- The draft is made into an item, and its body passes the screen. -/
theorem created_screened_plainDraft :
    ((unlimited false).respond 0 noon plainDraft).2.1.status = 201 ∧
      (Screening.body .standard plainDraft.asJson).refusal? = none := by
  have hparse : Draft.parse plainDraft.body = .ok ⟨"t", "c", none, []⟩ := by cbv
  have hdraft : Draft.ofRequest (unlimited false).settings.maxBodyBytes plainDraft
      = .ok ⟨"t", "c", none, []⟩ :=
    Draft.ofRequest_of_parse (by decide +kernel) (by decide +kernel) rfl hparse
  have hcreated : ((unlimited false).respond 0 noon plainDraft).2.1.status = 201 :=
    status_respond_of_draft rfl (by decide +kernel) (by decide +kernel) (by decide +kernel)
      inspect_plainDraft hdraft
  refine ⟨hcreated, ?_⟩
  rcases created_screened rfl (by decide +kernel) rfl (by decide +kernel) hcreated with
    hbody | ⟨text, type, htext, -, -, -, hunseen⟩
  · exact hbody
  · -- the name that the gate looks for stands there, though in other letters
    have hheader : plainDraft.header? "content-type" = some "Application/JSON; charset=utf-8" := by
      decide +kernel
    obtain rfl := Option.some.inj (hheader.symm.trans htext)
    have hseen : Text.hasText "application/json"
        (Text.lowerAscii "Application/JSON; charset=utf-8") = true := by
      decide +kernel
    rw [hseen] at hunseen
    cases hunseen

/-- A draft with a member that has a semicolon in its name, of a content type that ends in `+json`. -/
def vendorDraft : Request :=
  bringing "application/vnd.api+json" "\x7b\"x; drop\":true,\"title\":\"t\",\"content\":\"c\"\x7d"

theorem parse_vendorDraft : Draft.parse vendorDraft.body = .ok ⟨"t", "c", none, []⟩ := by
  have hopen : Json.Token.next? .full vendorDraft.body
      = some (.openObject, Text.encode "\"x; drop\":true,\"title\":\"t\",\"content\":\"c\"\x7d") := by
    cbv
  have hname : Json.Token.next? .full
      (Text.encode "\"x; drop\":true,\"title\":\"t\",\"content\":\"c\"\x7d")
        = some (.string "x; drop", Text.encode ":true,\"title\":\"t\",\"content\":\"c\"\x7d") := by
    cbv
  have hmember : Draft.memberAfter .none "x; drop"
      (Text.encode ":true,\"title\":\"t\",\"content\":\"c\"\x7d")
        = .ok (.none, Text.encode ",\"title\":\"t\",\"content\":\"c\"\x7d") := by
    cbv
  have hothers : Draft.membersFrom .separator .none
      (Text.encode ",\"title\":\"t\",\"content\":\"c\"\x7d") = .ok (⟨"t", "c", none, []⟩, []) := by
    cbv
  rw [Draft.parse, hopen]
  dsimp only
  rw [Draft.membersFrom_first hname hmember, hothers]
  rfl

/-- **An item whose body the screen would have refused**: its content type is JSON by its suffix
alone. -/
theorem created_unscreened :
    (unlimited true).settings.screening = true ∧
      (unlimited true).settings.admission.isUnscreened "/api/v1/knowledge" = false ∧
      vendorDraft.method = .post ∧ vendorDraft.path = "/api/v1/knowledge" ∧
      ((unlimited true).respond 0 noon vendorDraft).2.1.status = 201 ∧
      (Screening.body (unlimited true).settings.screeningSettings vendorDraft.asJson).refusal?
        ≠ none := by
  have hpath : vendorDraft.path = "/api/v1/knowledge" := by decide +kernel
  refine ⟨rfl, by decide +kernel, rfl, hpath, ?_, ?_⟩
  · have hdraft : Draft.ofRequest (unlimited true).settings.maxBodyBytes vendorDraft
        = .ok ⟨"t", "c", none, []⟩ :=
      Draft.ofRequest_of_parse (by decide +kernel) (by decide +kernel) rfl parse_vendorDraft
    have hinspect : ((unlimited true).gate.inspect vendorDraft).2 = .ok none := by decide +kernel
    exact status_respond_of_draft rfl hpath (by decide +kernel) (by decide +kernel) hinspect hdraft
  · have hparse : Json.parse? vendorDraft.asJson.body = some (.object [("x; drop", .bool true),
        ("title", .string "t"), ("content", .string "c")]) := by
      cbv
    have hsize : vendorDraft.asJson.body.length
        ≤ (unlimited true).settings.screeningSettings.maxBodyBytes := by
      decide +kernel
    rw [Screening.body_eq_jsonBody (Screening.of?_asJson rfl) hsize]
    intro haccepted
    have hkept := ((Screening.jsonBody_accepts_iff rfl hparse).mp haccepted).2.2 "x; drop"
      (.here (List.mem_cons_self ..))
    rw [← isInjection_iff] at hkept
    exact hkept (by decide +kernel)

end Service

end AdmissionGate
