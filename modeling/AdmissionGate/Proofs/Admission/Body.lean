import AdmissionGate.Admission.Gate

/-!
# The body of a request on its way through the gate

A body that is looked into is read whole before the request is screened, and what is passed on is put
together again from the parts of the request and what was read. A body that is not looked into stays
outside, and is passed on as it comes.

* `Request.Unreadable`: the bodies that cannot be read to their end within a limit.
* `Gate.result_bufferBody`, `Gate.result_takeBody`: reading gives all octets of a body, or an error.
* `Gate.rebuilt_of_takeBody`: the request that is passed on is the one that came in.
* `Gate.inspect_eq_ok_iff`, `Gate.inspect_eq_error_iff`: screening what was taken in is screening the
  request as it came.
-/

namespace AdmissionGate

open Text (Bytes)

namespace Request

/-- A body that cannot be read to its end within a limit: a longer one is announced, more octets come
in, or the connection fails. -/
inductive Unreadable (max : Nat) (r : Request) : Prop where
  | announced {text : String} {n : Nat} (htext : r.header? "content-length" = some text)
      (hlength : Decimal.read Decimal.max64 text = .ok n) (hlong : max < n)
  | overlong (hlong : max < r.body.length)
  | broken {error : String} (hfault : r.bodyFault = some error)

/-- The connection of a body that can be read does not fail. -/
theorem bodyFault_of_readable {max : Nat} {r : Request} (h : ¬ r.Unreadable max) :
    r.bodyFault = none :=
  Option.eq_none_iff_forall_ne_some.mpr fun _ hfault => h (.broken hfault)

theorem length_of_readable {max : Nat} {r : Request} (h : ¬ r.Unreadable max) :
    r.body.length ≤ max :=
  Nat.not_lt.mp fun hlong => h (.overlong hlong)

/-- Reading gives all octets of a body that ends within the limit, and nothing of any other. -/
theorem readBody_eq_ok_iff {max : Nat} {r : Request} {bytes : Bytes} :
    r.readBody max = .ok bytes ↔
      r.body.length ≤ max ∧ r.bodyFault = none ∧ bytes = r.body := by
  unfold readBody
  split
  next hlong => exact iff_of_false nofun fun h => Nat.not_lt.mpr h.1 hlong
  next hfits =>
    cases r.bodyFault with
    | some error => exact iff_of_false nofun fun h => Option.some_ne_none _ h.2.1
    | none =>
      constructor
      · intro h
        exact ⟨Nat.not_lt.mp hfits, rfl, (Except.ok.inj h).symm⟩
      · rintro ⟨-, -, rfl⟩
        rfl

/-- A request whose body has been read whole is put together again as it was. -/
theorem rebuilt_whole {r : Request} (h : r.bodyFault = none) : r.rebuilt (some r.body) = r := by
  obtain ⟨_, _, _, _, _, _, _, _⟩ := r
  subst h
  rfl

/-- With its whole body, a request is screened as it is. -/
theorem viewed_whole {r : Request} (h : r.bodyFault = none) : r.viewed (some r.body) = r := by
  obtain ⟨_, _, _, _, _, _, _, _⟩ := r
  subst h
  rfl

end Request

namespace Screening

variable (s : ScreeningSettings) {r : Request}

/-- The screen does not miss a body that it would not look into. -/
theorem request_viewed_none (h : BodyKind.of? r.method r.headers = none) :
    request s (r.viewed none) = request s r := by
  have hbody : body s (r.viewed none) = body s r := by
    simp only [body, Request.viewed, h]
  show (headers s r).andThen ((query s r).andThen ((pathParams s r).andThen
    (body s (r.viewed none)))) = _
  rw [hbody]
  rfl

end Screening

namespace Gate

/-! ## Reading a body -/

/-- The declared length is that of the header, if it is a number of 64 bits. -/
theorem declaredLength?_eq_some_iff {r : Request} {n : Nat} :
    declaredLength? r.headers = some n ↔ ∃ text, r.header? "content-length" = some text ∧
      Decimal.read Decimal.max64 text = .ok n := by
  rw [declaredLength?, Option.bind_eq_some_iff]
  refine exists_congr fun text => and_congr_right fun _ => ?_
  cases Decimal.read Decimal.max64 text with
  | error e => exact iff_of_false nofun nofun
  | ok m => exact ⟨fun h => congrArg _ (Option.some.inj h), fun h => congrArg _ (Except.ok.inj h)⟩

/-- What is looked at to tell whether a body can be read. -/
theorem unreadable_iff {max : Nat} {r : Request} : r.Unreadable max ↔
    (declaredLength? r.headers).any (max < ·) = true ∨ max < r.body.length ∨
      r.bodyFault.isSome = true := by
  constructor
  · rintro (⟨htext, hlength, hlong⟩ | hlong | hfault)
    · rw [declaredLength?_eq_some_iff.mpr ⟨_, htext, hlength⟩]
      exact .inl (decide_eq_true hlong)
    · exact .inr (.inl hlong)
    · exact .inr (.inr (by rw [hfault]; rfl))
  · rintro (hdeclared | hlong | hfault)
    · cases hn : declaredLength? r.headers with
      | none =>
        rw [hn] at hdeclared
        cases hdeclared
      | some n =>
        rw [hn] at hdeclared
        obtain ⟨text, htext, hlength⟩ := declaredLength?_eq_some_iff.mp hn
        exact .announced htext hlength (of_decide_eq_true hdeclared)
    · exact .overlong hlong
    · obtain ⟨error, hfault⟩ := Option.isSome_iff_exists.mp hfault
      exact .broken hfault

instance (max : Nat) (r : Request) : Decidable (r.Unreadable max) :=
  decidable_of_iff _ unreadable_iff.symm

/-- All of a body is read, or there is one error for all that can be wrong with it. -/
theorem result_bufferBody (max : Nat) (r : Request) : (bufferBody max r).2
    = if r.Unreadable max then .error .bodyTooLarge else .ok r.body := by
  unfold bufferBody
  by_cases hdeclared : (declaredLength? r.headers).any (max < ·) = true
  · rw [if_pos hdeclared, if_pos (unreadable_iff.mpr (.inl hdeclared))]
  rw [if_neg hdeclared]
  by_cases hunreadable : r.Unreadable max
  · -- what cannot be read for another reason gives an error when it is read
    rw [if_pos hunreadable]
    have hrest := (unreadable_iff.mp hunreadable).resolve_left hdeclared
    cases hread : r.readBody max with
    | error e => rfl
    | ok bytes =>
      obtain ⟨hfits, hwhole, -⟩ := Request.readBody_eq_ok_iff.mp hread
      simp [hwhole, Nat.not_lt.mpr hfits] at hrest
  · rw [if_neg hunreadable]
    rw [Request.readBody_eq_ok_iff.mpr ⟨Request.length_of_readable hunreadable,
      Request.bodyFault_of_readable hunreadable, rfl⟩]

/-- What comes of taking in a body. -/
theorem result_takeBody (g : Gate) (r : Request) : (g.takeBody r).2
    = if BodyKind.of? r.method r.headers = none then .ok none
      else if r.Unreadable g.screen.maxBodyBytes then .error .bodyTooLarge
      else .ok (some r.body) := by
  unfold takeBody
  cases hkind : BodyKind.of? r.method r.headers with
  | none => rfl
  | some kind =>
    have hread := result_bufferBody g.screen.maxBodyBytes r
    simp only [reduceCtorEq, if_false]
    generalize bufferBody g.screen.maxBodyBytes r = read at hread
    obtain ⟨events, result⟩ := read
    by_cases hunreadable : r.Unreadable g.screen.maxBodyBytes
    · rw [if_pos hunreadable] at hread ⊢
      obtain rfl : result = _ := hread
      rfl
    · rw [if_neg hunreadable] at hread ⊢
      obtain rfl : result = _ := hread
      rfl

/-- What is taken in of a body: nothing if it is not looked into, and all of it otherwise. -/
theorem taken_cases {g : Gate} {r : Request} {taken : Option Bytes}
    (h : (g.takeBody r).2 = .ok taken) :
    (BodyKind.of? r.method r.headers = none ∧ taken = none) ∨
      (¬ r.Unreadable g.screen.maxBodyBytes ∧ taken = some r.body) := by
  rw [result_takeBody] at h
  split at h
  next hkind => exact .inl ⟨hkind, (Except.ok.inj h).symm⟩
  next =>
    split at h
    next => cases h
    next hread => exact .inr ⟨hread, (Except.ok.inj h).symm⟩

/-- **The request that is passed on is the one that came in.** -/
theorem rebuilt_of_takeBody {g : Gate} {r : Request} {taken : Option Bytes}
    (h : (g.takeBody r).2 = .ok taken) : r.rebuilt taken = r := by
  rcases taken_cases h with ⟨-, rfl⟩ | ⟨hread, rfl⟩
  · rfl
  · exact Request.rebuilt_whole (Request.bodyFault_of_readable hread)

/-- What was taken in is screened as the request itself would be. -/
theorem request_of_takeBody {g : Gate} {r : Request} {taken : Option Bytes}
    (h : (g.takeBody r).2 = .ok taken) :
    Screening.request g.screen (r.viewed taken) = Screening.request g.screen r := by
  rcases taken_cases h with ⟨hkind, rfl⟩ | ⟨hread, rfl⟩
  · exact Screening.request_viewed_none g.screen hkind
  · rw [Request.viewed_whole (Request.bodyFault_of_readable hread)]

/-! ## Screening what was taken in -/

/-- A request passes if its body can be taken in and nothing in it is refused. -/
theorem inspect_eq_ok_iff {g : Gate} {r : Request} {taken : Option Bytes} :
    (g.inspect r).2 = .ok taken ↔
      (g.takeBody r).2 = .ok taken ∧ (Screening.request g.screen r).refusal? = none := by
  have hview : ∀ taken, (g.takeBody r).2 = .ok taken →
      Screening.request g.screen (r.viewed taken) = Screening.request g.screen r :=
    fun _ => request_of_takeBody
  unfold inspect
  generalize g.takeBody r = read at hview
  obtain ⟨events, _ | took⟩ := read
  · exact iff_of_false nofun nofun
  · simp only [hview took rfl]
    cases (Screening.request g.screen r).refusal? with
    | some refusal => exact iff_of_false nofun nofun
    | none => exact (and_iff_left rfl).symm

/-- A request that has passed the screen is put together again as it was. -/
theorem rebuilt_of_inspect {g : Gate} {r : Request} {taken : Option Bytes}
    (h : (g.inspect r).2 = .ok taken) : r.rebuilt taken = r :=
  rebuilt_of_takeBody (inspect_eq_ok_iff.mp h).1

/-- A request is refused for its body as it is read, or else by the screen. -/
theorem inspect_eq_error_iff {g : Gate} {r : Request} {e : Refusal} :
    (g.inspect r).2 = .error e ↔
      (g.takeBody r).2 = .error e ∨
        (∃ taken, (g.takeBody r).2 = .ok taken) ∧ (Screening.request g.screen r).refusal? = some e := by
  have hview : ∀ taken, (g.takeBody r).2 = .ok taken →
      Screening.request g.screen (r.viewed taken) = Screening.request g.screen r :=
    fun _ => request_of_takeBody
  unfold inspect
  generalize g.takeBody r = read at hview
  obtain ⟨events, _ | took⟩ := read
  · simp
  · simp only [hview took rfl]
    cases (Screening.request g.screen r).refusal? <;> simp

end Gate

end AdmissionGate
