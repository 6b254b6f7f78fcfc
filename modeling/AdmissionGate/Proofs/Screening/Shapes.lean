import AdmissionGate.Proofs.Screening.Demands

/-!
# The shapes of parameters

What the shapes are that parameters are held to, and what becomes of a parameter that has to be a UUID and
holds a character above ASCII (`Screening.shapes_exact`).
-/

namespace AdmissionGate

open Text (kelvinSign lowerChars)

namespace Screening

open Verdict

/-! ## Parameters -/

variable {s : ScreeningSettings} {r : Request} {name value : String}

/-- A parameter without the shape that is asked for is refused, unless something else was before. -/
theorem refusal?_of_not_uuid (hparam : (name, value) ∈ r.pathParams) (hasks : AsksUuid name value)
    (hshape : ¬ HasUuidShape 0x2D IsHexOctet (Text.encode value)) :
    (pathParams s r).refusal? ≠ none ∧ (request s r).refusal? ≠ none := by
  have hunmet : ¬ ∀ d ∈ r.pathParams.flatMap fun p => paramDemands s p.1 p.2, d.met := fun hmet =>
    hshape (hmet _ (List.mem_flatMap.mpr ⟨_, hparam, List.mem_cons_self ..⟩) hasks)
  constructor
  · rw [enforces_pathParams, ne_eq, Demand.firstUnmet?_eq_none]
    exact hunmet
  · rw [refusal?_request, ne_eq, Option.or_eq_none_iff, Demand.firstUnmet?_eq_none]
    exact fun h => hunmet fun d hd =>
      h.1 d (List.mem_append_right _ (List.mem_append_right _ hd))

/-- **The shapes are exact.** A slug is a chain of words of small letters and digits once it is lowered,
and so it is spelled with letters of either case, digits and the sign of the kelvin, which is the one
character above ASCII that is lowered to a slug. A UUID is 36 octets, hexadecimal digits of either case
and hyphens in their places, so no other value of 36 characters gets through where one is asked for. -/
theorem shapes_exact (value : String) :
    (isSlug value = true ↔ (Text.lower value).toList ∈ slug) ∧
      (isSlug value = true ↔ value.toList ∈ slugSpelling) ∧
      (∀ c : Char, 0x80 ≤ c.toNat →
        ((Text.lower (String.ofList [c])).toList ∈ slug ↔ c = kelvinSign)) ∧
      (isUuid value = true ↔ HasUuidShape 0x2D IsHexOctet (Text.encode value)) ∧
      ∀ (s : ScreeningSettings) (r : Request) (name : String), (name, value) ∈ r.pathParams →
        AsksUuid name value → (∃ c ∈ value.toList, 0x80 ≤ c.toNat) →
          pathParam s name value = refuse (.pathParamInvalid name .uuid) ∧
            (pathParams s r).refusal? ≠ none ∧ (request s r).refusal? ≠ none := by
  have hlower : ∀ v : String, (Text.lower v).toList = lowerChars v.toList := fun v => by
    rw [Text.lower, String.toList_ofList]
  refine ⟨?_, isSlug_iff_spelling value, fun c hc => ?_, isUuid_iff value,
    fun s r name hparam hasks habove => ?_⟩
  · rw [hlower, isSlug_iff]
  · rw [hlower]
    constructor
    · intro h
      rw [String.toList_ofList] at h
      exact (lowersToAscii_of_mem_slug h c (List.mem_singleton_self c)).resolve_left
        (Nat.not_lt.mpr hc)
    · rintro rfl
      exact (isSlug_iff _).mp (by decide +kernel)
  · have hshape : ¬ HasUuidShape 0x2D IsHexOctet (Text.encode value) := by
      obtain ⟨c, hc, hle⟩ := habove
      exact fun h => absurd (h.isAscii_of_encode c hc) (Nat.not_lt.mpr hle)
    refine ⟨?_, refusal?_of_not_uuid hparam hasks hshape⟩
    rw [pathParam, if_pos ((asksUuid_iff name value).mpr hasks),
      if_neg fun huuid => hshape ((isUuid_iff value).mp huuid)]

/-- A request with a parameter that has the length of a UUID in characters, but not in octets. -/
def accented : Request :=
  { Request.ofPathAndQuery .get "/users" with
    pathParams := [("slug", "a-b"), ("userId", "550e8400-e29b-41d4-a716-44665544000é")] }

/-- A path with an accented letter under an identifier, and a slug that becomes one by lowering. -/
theorem shapes_exact_accented :
    (("userId", "550e8400-e29b-41d4-a716-44665544000é") ∈ accented.pathParams ∧
        AsksUuid "userId" "550e8400-e29b-41d4-a716-44665544000é" ∧
          ∃ c ∈ "550e8400-e29b-41d4-a716-44665544000é".toList, 0x80 ≤ c.toNat) ∧
      pathParam .standard "userId" "550e8400-e29b-41d4-a716-44665544000é"
        = refuse (.pathParamInvalid "userId" .uuid) ∧
      (request .standard accented).refusal? ≠ none ∧
      (Text.lower (String.ofList [kelvinSign])).toList ∈ slug := by
  have hasks : AsksUuid "userId" "550e8400-e29b-41d4-a716-44665544000é" := by decide +kernel
  have habove : ∃ c ∈ "550e8400-e29b-41d4-a716-44665544000é".toList, 0x80 ≤ c.toNat :=
    ⟨'é', by decide +kernel, by decide⟩
  have hparam : ("userId", "550e8400-e29b-41d4-a716-44665544000é") ∈ accented.pathParams :=
    List.mem_cons_of_mem _ (List.mem_cons_self ..)
  obtain ⟨-, -, hsign, -, hrefused⟩ := shapes_exact "550e8400-e29b-41d4-a716-44665544000é"
  obtain ⟨hrefusal, -, hrequest⟩ := hrefused .standard accented "userId" hparam hasks habove
  exact ⟨⟨hparam, hasks, habove⟩, hrefusal, hrequest, (hsign kelvinSign (by decide)).mpr rfl⟩

end Screening

end AdmissionGate
