import AdmissionGate.Proofs.Admission.Outcome
import AdmissionGate.Proofs.Screening.Demands

/-!
# The body at the gate and at the screen

The length of a body is looked at three times: as it is declared, while the body is taken in, and once
more by the screen. The first two come before everything else that a request can be refused for, and a
body that is not looked into does not get to the screen at all. Where the declared length is right,
this makes a difference to the refusal that a request gets, and none to whether it gets one.

* `Gate.takeBody_of_tooLong`, `Gate.exists_taken`: what is refused before the screen.
* `Gate.not_tooLong_viewed`: the screen finds no body that is too long.
* `Gate.inspect_eq_error_iff_screen`: the gate refuses what the screen refuses by itself.
* `Gate.handle_buffered`: what this means for a request.
-/

namespace AdmissionGate

/-- A body that is looked into and is longer than the limit. -/
def BodyTooLong (s : ScreeningSettings) (r : Request) : Prop :=
  (BodyKind.of? r.method r.headers).isSome = true ∧ s.maxBodyBytes < r.body.length

instance (s : ScreeningSettings) (r : Request) : Decidable (BodyTooLong s r) :=
  inferInstanceAs (Decidable (_ ∧ _))

namespace Screening

open Verdict

variable {s : ScreeningSettings} {r : Request}

/-- A body that is too long is refused for that. -/
theorem refusal?_body_of_tooLong (h : BodyTooLong s r) :
    (body s r).refusal? = some .bodyTooLarge := by
  obtain ⟨hkind, hlength⟩ := h
  obtain ⟨kind, hkind⟩ := Option.isSome_iff_exists.mp hkind
  simp only [body, hkind, if_pos hlength]
  rfl

/-- A body that is not too long is refused for something else, if for anything. -/
theorem refusesOn_body (h : ¬ BodyTooLong s r) : (body s r).RefusesOn (· ≠ .bodyTooLarge) := by
  unfold body
  cases hkind : BodyKind.of? r.method r.headers with
  | none => exact .of_none rfl
  | some kind =>
    have hlength : ¬ s.maxBodyBytes < r.body.length := fun hlt => h ⟨by rw [hkind]; rfl, hlt⟩
    show RefusesOn _ (if s.maxBodyBytes < r.body.length then _ else _)
    rw [if_neg hlength]
    cases kind with
    | form => exact .of_none rfl
    | json => exact refusesOn_jsonBody s (fun h => by cases h) (fun _ h => by cases h) r.body

/-- No demand but that of the body is about the length of the body. -/
theorem refusal_ne_of_mem_demands {d : Demand} (hd : d ∈ demands s r) :
    d.refusal ≠ .bodyTooLarge := by
  simp only [demands, headerDemands, queryDemands, List.mem_append, List.mem_cons, List.mem_flatMap,
    List.not_mem_nil, or_false] at hd
  rcases hd with (rfl | ⟨f, -, rfl⟩) | (rfl | rfl) | ⟨p, -, hd⟩
  · simp
  · simp [headerDemand]
  · simp
  · simp
  · simp only [paramDemands, List.mem_cons, List.not_mem_nil, or_false] at hd
    rcases hd with rfl | rfl | rfl <;> simp

/-- A body that is not too long is never refused for being so. -/
theorem refusesOn_request (h : ¬ BodyTooLong s r) :
    (request s r).RefusesOn (· ≠ .bodyTooLarge) := by
  intro e he
  rw [refusal?_request, Option.or_eq_some_iff] at he
  rcases he with he | ⟨-, he⟩
  · obtain ⟨d, hfind, rfl⟩ := Option.map_eq_some_iff.mp he
    exact refusal_ne_of_mem_demands (List.mem_of_find?_eq_some hfind)
  · exact refusesOn_body h e he

/-- A request with a body that is too long does not get through. -/
theorem refusal?_request_ne_none (h : BodyTooLong s r) : (request s r).refusal? ≠ none := by
  rw [refusal?_request, refusal?_body_of_tooLong h]
  exact fun hnone => Option.some_ne_none _ (Option.or_eq_none_iff.mp hnone).2

end Screening

namespace Gate

variable {g : Gate} {r : Request}

/-! ## Before the screen -/

/-- A body that is too long is refused before the screen, whatever length is declared. -/
theorem takeBody_of_tooLong (h : BodyTooLong g.screen r) :
    (g.takeBody r).2 = .error .bodyTooLarge := by
  have hkind : BodyKind.of? r.method r.headers ≠ none := Option.isSome_iff_ne_none.mp h.1
  rw [result_takeBody, if_neg hkind, if_pos (.overlong h.2)]

/-- A whole body whose declared length is right is taken in, unless it is too long. -/
theorem exists_taken (hwhole : r.bodyFault = none)
    (hlength : ∀ n, declaredLength? r.headers = some n → n = r.body.length)
    (h : ¬ BodyTooLong g.screen r) : ∃ taken, (g.takeBody r).2 = .ok taken := by
  rw [result_takeBody]
  by_cases hkind : BodyKind.of? r.method r.headers = none
  · exact ⟨none, if_pos hkind⟩
  · have hfits : ¬ g.screen.maxBodyBytes < r.body.length :=
      fun hlong => h ⟨Option.isSome_iff_ne_none.mpr hkind, hlong⟩
    have hread : ¬ r.Unreadable g.screen.maxBodyBytes := by
      rintro (⟨htext, hn, hlong⟩ | hlong | hfault)
      · rw [hlength _ (declaredLength?_eq_some_iff.mpr ⟨_, htext, hn⟩)] at hlong
        exact hfits hlong
      · exact hfits hlong
      · rw [hwhole] at hfault
        cases hfault
    exact ⟨some r.body, by rw [if_neg hkind, if_neg hread]⟩

/-- The screen finds no body that is too long, whatever length is declared. -/
theorem not_tooLong_viewed {taken : Option Text.Bytes} (h : (g.takeBody r).2 = .ok taken) :
    ¬ BodyTooLong g.screen (r.viewed taken) := by
  rintro ⟨hkind, hlong⟩
  rcases taken_cases h with ⟨-, rfl⟩ | ⟨hread, rfl⟩
  · exact Nat.not_lt_zero _ hlong
  · exact Nat.not_lt.mpr (Request.length_of_readable hread) hlong

/-- The gate refuses just what the screen refuses by itself. A body that is too long takes precedence
over all else. -/
theorem inspect_eq_error_iff_screen (hwhole : r.bodyFault = none)
    (hlength : ∀ n, declaredLength? r.headers = some n → n = r.body.length) {told : Refusal} :
    (g.inspect r).2 = .error told ↔ ∃ e, (Screening.request g.screen r).refusal? = some e ∧
      told = if BodyTooLong g.screen r then .bodyTooLarge else e := by
  rw [inspect_eq_error_iff]
  by_cases hlong : BodyTooLong g.screen r
  · obtain ⟨e, he⟩ := Option.ne_none_iff_exists'.mp (Screening.refusal?_request_ne_none hlong)
    simp [takeBody_of_tooLong hlong, he, hlong, eq_comm]
  · obtain ⟨taken, htaken⟩ := exists_taken hwhole hlength hlong
    simp [htaken, hlong]

/-! ## Requests -/

variable {τ σ : Type} [Instant τ] [SharedStore σ τ]

/-- What becomes of a request that is refused. -/
theorem handle_of_refused (ε : Type) {l l' : Limiter τ σ} {now : τ}
    (serve : Limiter τ σ → Request → Response × List Event) {meanwhile : Limiter.Change τ σ}
    {quota : Option Decision} {refusal : Refusal} {events : List Event}
    (h : g.rule l now r meanwhile = (l', .refused quota refusal, events)) :
    (g.handle l now r (recorded ε serve) meanwhile).run []
      = ((l', ⟨.ok (refusal.response.marked quota true), events ++ g.reportRefusal r refusal⟩),
        []) := by
  unfold handle
  rw [h]
  rfl

/-- **The gate refuses a request if the screen does.** Take a request that is screened and not denied,
whose body comes in whole, and whose declared length, if it is a number, is that of its body. The gate
rejects it if and only if the screen refuses it with all of its body, and otherwise passes it on. The
client and the log are told that the body is too long if it is looked into and exceeds the limit,
whatever else is wrong with the request, and otherwise exactly what the screen says. Whatever is
declared, a body that is too long never gets to the screen. -/
theorem handle_buffered (ε : Type) (g : Gate) (l : Limiter τ σ) (now : τ) (r : Request)
    (serve : Limiter τ σ → Request → Response × List Event) (meanwhile : Limiter.Change τ σ)
    (hscreens : g.settings.screens r.path = true)
    (hdenies : ¬ (g.settings.meters r.path = true ∧
      (l.requestQuota now (r.identifiers g.settings.identity) meanwhile).2.1.allowed = false))
    (hwhole : r.bodyFault = none)
    (hlength : ∀ n, declaredLength? r.headers = some n → n = r.body.length) :
    let refusal? := (Screening.request g.screen r).refusal?
    let handled := (g.handle l now r (recorded ε serve) meanwhile).run []
    ((g.rule l now r meanwhile).2.1.outcome = .rejected ↔ refusal?.isSome = true) ∧
    handled.2 = (if refusal?.isSome then [] else [(handled.1.1, r)]) ∧
    (∀ e, refusal? = some e →
      let told := if BodyTooLong g.screen r then .bodyTooLarge else e
      handled.1.2.result = .ok (told.response.marked (g.meter l now r meanwhile).2.1 true) ∧
        ∃ events, handled.1.2.events = events ++ g.reportRefusal r told) ∧
    (∀ taken, (g.takeBody r).2 = .ok taken → ¬ BodyTooLong g.screen (r.viewed taken) ∧
      (Screening.request g.screen (r.viewed taken)).refusal? ≠ some .bodyTooLarge) := by
  intro refusal? handled
  have hinspect : ∀ told, (g.inspect r).2 = .error told ↔ _ :=
    fun _ => inspect_eq_error_iff_screen hwhole hlength
  have hruled := ruled_rule g l now r meanwhile
  obtain ⟨hafter, hcalls⟩ := calls_handled ε g l now r serve meanwhile
  refine and_assoc.mp (and_assoc.mp ⟨?_, fun taken htaken => ?_⟩)
  · change handled.2 = _ at hcalls
    rw [hcalls, show handled.1.1 = (g.rule l now r meanwhile).1 from hafter]
    generalize hrule : g.rule l now r meanwhile = ruled at hruled
    cases hruled with
    | bypassed hmeters hnot => simp [hscreens] at hnot
    | denied h hdenial => exact absurd h hdenies
    | refused h hscreened hrefusal =>
      obtain ⟨e, he, rfl⟩ := (hinspect _).mp hrefusal
      rw [show refusal? = some e from he]
      refine ⟨⟨⟨fun _ => rfl, fun _ => rfl⟩, rfl⟩, fun e' he' => ?_⟩
      obtain rfl : e = e' := Option.some.inj he'
      rw [show handled = _ from handle_of_refused ε serve hrule]
      exact ⟨rfl, _, rfl⟩
    | admitted h happlies htaken =>
      have hnone : refusal? = none := by
        rw [if_pos hscreens] at htaken
        exact (inspect_eq_ok_iff.mp htaken).2
      rw [hnone]
      exact ⟨⟨⟨nofun, nofun⟩, rfl⟩, nofun⟩
  · have hlong := not_tooLong_viewed htaken
    exact ⟨hlong, fun he => Screening.refusesOn_request hlong _ he rfl⟩

/-- A draft of six octets, where four are the limit, for a query that is too long as well. -/
def overlong : Request :=
  { Request.ofPathAndQuery .post "/items?name=a" with
    headers := ((Headers.setText Table.empty "content-type" "application/json").setText
      "content-length" "6")
    body := Text.encode "[true]" }

/-- A body that is longer than it says, and than the gate takes in. -/
theorem handle_buffered_overlong :
    let g : Gate :=
      ⟨.standard, { ScreeningSettings.standard with maxQueryBytes := 3, maxBodyBytes := 4 }⟩
    let handled := (g.handle spent 63 overlong
      (recorded Unit fun _ _ => (.ofStatus 201, []))).run []
    let quota := (g.meter spent 63 overlong Limiter.unchanged).2.1
    (Screening.request g.screen overlong).refusal? = some .queryTooLong ∧
      handled.1.2.result = .ok (Refusal.bodyTooLarge.response.marked quota true) ∧
      handled.2 = [] := by
  intro g handled quota
  have hscreen : (Screening.request g.screen overlong).refusal? = some .queryTooLong := by
    decide +kernel
  obtain ⟨-, hcalls, htold, -⟩ := handle_buffered Unit g spent 63 overlong
    (fun _ _ => (.ofStatus 201, [])) Limiter.unchanged (by decide +kernel) (by decide +kernel) rfl
    (by decide +kernel)
  have hlong : BodyTooLong g.screen overlong := by decide +kernel
  rw [hscreen] at hcalls
  have hresult := (htold .queryTooLong hscreen).1
  rw [if_pos hlong] at hresult
  exact ⟨hscreen, hresult, hcalls⟩

end Gate

end AdmissionGate
