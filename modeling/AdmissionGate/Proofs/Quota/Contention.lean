import AdmissionGate.Proofs.Quota.Traffic

/-!
# Requests that compete for the same windows

Any number of requests with the same identifiers are under way at one instant. A request that is denied
late has by then taken room in the windows before, so it matters who gets where first; still the number
of those that are admitted is the same for every interleaving.

Every request goes through the same windows in the same order, and is told apart from the others only
by how many of them it has passed (`Progress`). What one move can change is bounded by `Flow`, which
holds throughout: a window has as many new events as requests have passed it, these are no more than it
had room for, and whoever was refused found it full.

* `Flow.call`, `Flow.sweep`, `Flow.run`: one move, and any interleaving.
* `Flow.reached_succ`: once all requests have ended, those that got past a window are as many as had got
  to it, or as many as it had room for, whichever is less.
* `allowed_eq_min_room`: so the admitted ones are as many as there are requests, or as the least room.
-/

namespace AdmissionGate

open Instant

variable {τ : Type} [Instant τ]

/-! ## Windows at one instant -/

section Windows

variable {limits : Limits} {now : τ} {w : WindowStore τ} {x y : Identifier × Tier}

/-- How many more events a window takes in. -/
def freeIn (limits : Limits) (now : τ) (w : WindowStore τ) (x : Identifier × Tier) : ℕ :=
  (limits.tier x.2).limit.toNat - (liveIn limits now w x).length

variable [LawfulInstant τ]

/-- What is live in a window stays so at the same instant. -/
theorem filter_liveIn (hnow : IsTime now) :
    (liveIn limits now w x).filter (Bucket.isLive (limits.tier x.2).window now)
      = liveIn limits now w x :=
  Bucket.filter_isLive_filter_isLive hnow _

/-- A sweep at the instant takes away nothing that is live. -/
theorem liveIn_sweep (hreach : Reachable limits w) (hnow : IsTime now) :
    liveIn limits now (w.sweep now).1 x = liveIn limits now w x := by
  rw [liveIn, WindowStore.live, hreach.held_sweep]
  exact filter_liveIn hnow

/-- Counting a window changes nothing that is live in any. -/
theorem liveIn_counted (hw : w.Ordered) (hnow : IsTime now) (i : Identifier) :
    liveIn limits now (w.current (windowKey .sustained i) limits.sustained.window now).1 x
      = liveIn limits now w x := by
  refine Plan.liveIn_current hw hnow (i, .sustained) x fun heq => ?_
  rw [tier_eq_of_keyOf_eq heq]

section Consumed

variable (hw : w.Ordered) (hnow : IsTime now)
  (hself : ∀ tier, Bucket.isLive (limits.tier tier).window now now = true)

include hw hnow

include hself

/-- A window that is asked for room holds one more event, unless it is full. -/
theorem liveIn_consumed_self (x : Identifier × Tier) :
    (liveIn limits now (consumed limits now w x) x).Perm
      (if isFull limits now w x then liveIn limits now w x else now :: liveIn limits now w x) := by
  have hlive : (liveIn limits now w x).filter (Bucket.isLive (limits.tier x.2).window now)
      = liveIn limits now w x := filter_liveIn hnow
  cases hfull : isFull limits now w x with
  | true =>
    rw [liveIn, WindowStore.live, held_consumed_full hw hfull, hlive]
    exact List.Perm.refl _
  | false =>
    rw [liveIn, WindowStore.live, held_consumed_self hw hfull]
    have hperm := (place_perm now (liveIn limits now w x)).filter
      (Bucket.isLive (limits.tier x.2).window now)
    rw [List.filter_cons_of_pos (hself x.2), hlive] at hperm
    exact hperm

/-- A window without room takes in nothing, and no other does. -/
theorem liveIn_consumed_full (hfull : isFull limits now w x = true) :
    (liveIn limits now (consumed limits now w x) y).Perm (liveIn limits now w y) := by
  by_cases hkey : keyOf x = keyOf y
  · have hperm := liveIn_consumed_self hw hnow hself x
    rw [hfull, if_pos rfl, liveIn_congr hkey, liveIn_congr hkey] at hperm
    exact hperm
  · rw [liveIn_consumed hkey]

end Consumed

end Windows

namespace Traffic

variable {limits : Limits} {now : τ} {t : Traffic τ} {place : ℕ} {x : Identifier × Tier}
  {rest : List (Identifier × Tier)} {next : Plan τ}

/-- The next call of a request that asks for room in a window. -/
theorem call_ask {o : WindowOutcome τ}
    (ho : (t.windows.consume (keyOf x) (limits.tier x.2).limit (limits.tier x.2).window now).2 = o)
    (hget : t.pending[place]? = some ⟨now, .consumeAll limits now next (x :: rest)⟩) :
    t.call place
      = ⟨consumed limits now t.windows x,
        t.pending.set place ⟨now, if o.allowed then .consumeAll limits now next rest
          else .denial limits now x.2 x.1 o⟩,
        if o.allowed then t.granted ++ [(keyOf x, now)] else t.granted⟩ := by
  rw [call_consume hget, ← ho]
  rfl

variable [LawfulInstant τ] (hw : t.windows.Ordered) (hnow : IsTime now)
  (hget : t.pending[place]? = some ⟨now, .consumeAll limits now next (x :: rest)⟩)

include hw hnow hget

/-- Without room, the request is denied by the window, and nothing is granted. -/
theorem call_full (hfull : isFull limits now t.windows x = true) :
    ∃ o, t.call place
      = ⟨consumed limits now t.windows x,
        t.pending.set place ⟨now, .denial limits now x.2 x.1 o⟩, t.granted⟩ := by
  have hallowed := allowed_consume hw hnow limits x
  generalize ho : (t.windows.consume (keyOf x) _ _ now).2 = o at hallowed
  rw [hfull, Bool.not_true] at hallowed
  refine ⟨o, ?_⟩
  rw [call_ask ho hget, hallowed, if_neg Bool.false_ne_true, if_neg Bool.false_ne_true]

/-- With room, the request goes on to the next window, and the event is granted. -/
theorem call_room (hroom : isFull limits now t.windows x = false) :
    t.call place
      = ⟨consumed limits now t.windows x,
        t.pending.set place ⟨now, .consumeAll limits now next rest⟩,
        t.granted ++ [(keyOf x, now)]⟩ := by
  have hallowed := allowed_consume hw hnow limits x
  rw [hroom, Bool.not_false] at hallowed
  rw [call_ask rfl hget, hallowed, if_pos rfl, if_pos rfl]

end Traffic

/-! ## Progress -/

/-- How far a request has got: how many windows have had room for it, and whether the next had none. -/
structure Progress where
  passed : ℕ
  refused : Bool

/-- What is left of the plan of a request, by its progress. -/
inductive Stands (limits : Limits) (now : τ) (ids : List Identifier) : Progress → Plan τ → Prop where
  | asking {m : ℕ} (h : m < (Plan.windows ids).length) :
      Stands limits now ids ⟨m, false⟩
        (.consumeAll limits now (.countAll limits now limits.sustained.limit ids)
          ((Plan.windows ids).drop m))
  | counting (remaining : UInt64) (rest : List Identifier) :
      Stands limits now ids ⟨(Plan.windows ids).length, false⟩
        (.countAll limits now remaining rest)
  | refused {m : ℕ} (h : m < (Plan.windows ids).length) (tier : Tier) (i : Identifier)
      (o : WindowOutcome τ) :
      Stands limits now ids ⟨m, true⟩ (.denial limits now tier i o)

namespace Stands

variable {limits : Limits} {now : τ} {ids : List Identifier}

/-- A request that all of the first `m` windows had room for. -/
theorem ofPassed {m : ℕ} (h : m ≤ (Plan.windows ids).length) :
    Stands limits now ids ⟨m, false⟩
      (.consumeAll limits now (.countAll limits now limits.sustained.limit ids)
        ((Plan.windows ids).drop m)) := by
  rcases Nat.lt_or_eq_of_le h with hlt | rfl
  · exact .asking hlt
  · rw [List.drop_length]
    exact .counting _ ids

/-- A request that has ended is allowed if it has passed all windows. -/
theorem of_decision? {p : Progress} {plan : Plan τ} (h : Stands limits now ids p plan)
    {d : Decision} (hd : plan.decision? = some d) :
    (d.allowed = true ↔ (Plan.windows ids).length ≤ p.passed) ∧
      (p.passed < (Plan.windows ids).length → p.refused = true) := by
  cases h with
  | asking h =>
    -- there are windows left, so the plan has not ended
    rw [List.drop_eq_getElem_cons h] at hd
    cases hd
  | counting remaining rest =>
    cases rest with
    | nil =>
      cases hd
      exact ⟨⟨fun _ => le_rfl, fun _ => rfl⟩, fun hlt => absurd hlt (lt_irrefl _)⟩
    | cons i rest => cases hd
  | refused h tier i o =>
    cases hd
    exact ⟨⟨nofun, fun hle => absurd h (Nat.not_lt.mpr hle)⟩, fun _ => rfl⟩

end Stands

/-- The requests with their progress. -/
abbrev Standings (τ : Type) := List (Progress × Pending τ)

/-- How many requests have got to the window in a place, and hence past all that come before it. -/
def reached (standings : Standings τ) (j : ℕ) : ℕ :=
  standings.countP fun z => decide (j ≤ z.1.passed)

omit [Instant τ] in
/-- How many have got to a window, after one request has gone on. -/
theorem reached_set {standings : Standings τ} {place : ℕ} {p : Progress} {q : Pending τ}
    (hget : standings[place]? = some (p, q)) (p' : Progress) (q' : Pending τ) (j : ℕ) :
    reached (standings.set place (p', q')) j + (if j ≤ p.passed then 1 else 0)
      = reached standings j + if j ≤ p'.passed then 1 else 0 := by
  obtain ⟨hlt, heq⟩ := List.getElem?_eq_some_iff.mp hget
  have hmem : (p, q) ∈ standings := List.mem_of_getElem? hget
  have hcount := List.countP_set (p := fun z : Progress × Pending τ => decide (j ≤ z.1.passed))
    (a := (p', q')) hlt
  simp only [heq, decide_eq_true_eq] at hcount
  have hpos : j ≤ p.passed → 0 < reached standings j := fun hle =>
    List.countP_pos_iff.mpr ⟨(p, q), hmem, decide_eq_true hle⟩
  unfold reached at hpos ⊢
  rw [hcount]
  split
  · next hle =>
    have := hpos hle
    omega
  · omega

omit [Instant τ] in
/-- A request that passes a window gets to the one after it, and to no other. -/
theorem reached_pass {standings : Standings τ} {place m : ℕ} {q : Pending τ}
    (hget : standings[place]? = some (⟨m, false⟩, q)) (q' : Pending τ) (j : ℕ) :
    reached (standings.set place (⟨m + 1, false⟩, q')) (j + 1)
      = reached standings (j + 1) + if j = m then 1 else 0 := by
  have hset := reached_set hget ⟨m + 1, false⟩ q' (j + 1)
  simp only [Nat.succ_le_succ_iff] at hset
  split at hset <;> split at hset <;> split <;> omega

omit [Instant τ] in
/-- The windows of a request have different keys. -/
theorem keyOf_windows_ne {ids : List Identifier} (hkeys : ((Plan.windows ids).map keyOf).Nodup)
    {i j : ℕ} (hi : i < (Plan.windows ids).length) (hj : j < (Plan.windows ids).length)
    (hne : i ≠ j) : keyOf (Plan.windows ids)[i] ≠ keyOf (Plan.windows ids)[j] := by
  intro heq
  have hi' : i < ((Plan.windows ids).map keyOf).length := by rwa [List.length_map]
  have hj' : j < ((Plan.windows ids).map keyOf).length := by rwa [List.length_map]
  have hmap : ((Plan.windows ids).map keyOf)[i] = ((Plan.windows ids).map keyOf)[j] := by
    rw [List.getElem_map, List.getElem_map, heq]
  exact hne (hkeys.getElem_inj_iff.mp hmap)

/-- What holds of requests that compete for windows which began as `w`. -/
structure Flow (limits : Limits) (now : τ) (ids : List Identifier) (w : WindowStore τ)
    (t : Traffic τ) (standings : Standings τ) : Prop where
  pending : t.pending = standings.map Prod.snd
  stands : ∀ z ∈ standings, z.2.now = now ∧ Stands limits now ids z.1 z.2.plan
  live : ∀ x, (liveIn limits now t.windows x).Perm
    (List.replicate (t.grants (keyOf x)) now ++ liveIn limits now w x)
  grants : ∀ (j : ℕ) (hj : j < (Plan.windows ids).length),
    t.grants (keyOf (Plan.windows ids)[j]) = reached standings (j + 1)
  elsewhere : ∀ key ∉ (Plan.windows ids).map keyOf, t.grants key = 0
  -- nobody gets past a window without room, and nobody is refused by one that has some
  room : ∀ (j : ℕ) (hj : j < (Plan.windows ids).length),
    reached standings (j + 1) ≤ freeIn limits now w (Plan.windows ids)[j]
  full : ∀ z ∈ standings, z.1.refused = true → ∀ hj : z.1.passed < (Plan.windows ids).length,
    freeIn limits now w (Plan.windows ids)[z.1.passed] ≤ reached standings (z.1.passed + 1)

namespace Flow

variable {limits : Limits} {now : τ} {ids : List Identifier} {w w' : WindowStore τ} {t : Traffic τ}
  {standings : Standings τ} {place : ℕ} {p p' : Progress} {q : Pending τ} {plan : Plan τ}

/-- Requests that have made no calls have got to the first window, all of them. -/
theorem start (k : ℕ) :
    Flow limits now ids w
      (.start w (List.replicate k ⟨now, .ofIdentifiers limits now ids⟩))
      (List.replicate k (⟨0, false⟩, ⟨now, .ofIdentifiers limits now ids⟩)) where
  pending := by
    rw [List.map_replicate]
    rfl
  stands z hz := by
    rw [List.eq_of_mem_replicate hz]
    exact ⟨rfl, .ofPassed (Nat.zero_le _)⟩
  live x := List.Perm.refl _
  grants j hj := by
    rw [reached, List.countP_replicate]
    rfl
  elsewhere key hkey := rfl
  room j hj := by
    rw [reached, List.countP_replicate]
    exact Nat.zero_le _
  full z hz hrefused := by
    rw [List.eq_of_mem_replicate hz] at hrefused
    cases hrefused

theorem stands_set (h : Flow limits now ids w t standings)
    (hstands : Stands limits now ids p' plan) :
    ∀ z ∈ standings.set place (p', ⟨now, plan⟩),
      z.2.now = now ∧ Stands limits now ids z.1 z.2.plan := by
  intro z hz
  rcases List.mem_or_eq_of_mem_set hz with hz | rfl
  · exact h.stands z hz
  · exact ⟨rfl, hstands⟩

/-- The plans that are left are those of the requests, one of which has gone on. -/
theorem pending_set (h : Flow limits now ids w t standings) :
    t.pending.set place ⟨now, plan⟩ = (standings.set place (p', ⟨now, plan⟩)).map Prod.snd := by
  rw [List.map_set, ← h.pending]

/-- A request goes on without having passed another window, and no window has a new event. -/
theorem stay (h : Flow limits now ids w t standings) (hget : standings[place]? = some (p, q))
    (p' : Progress) (hpassed : p'.passed = p.passed) (hstands : Stands limits now ids p' plan)
    (hlive : ∀ x, (liveIn limits now w' x).Perm (liveIn limits now t.windows x))
    (hfull : p'.refused = true → ∀ hj : p'.passed < (Plan.windows ids).length,
      freeIn limits now w (Plan.windows ids)[p'.passed] ≤ reached standings (p'.passed + 1)) :
    Flow limits now ids w ⟨w', t.pending.set place ⟨now, plan⟩, t.granted⟩
      (standings.set place (p', ⟨now, plan⟩)) := by
  have hsame : ∀ j, reached (standings.set place (p', ⟨now, plan⟩)) j = reached standings j := by
    intro j
    have hset := reached_set hget p' ⟨now, plan⟩ j
    rw [hpassed] at hset
    exact Nat.add_right_cancel hset
  refine
    { pending := h.pending_set
      stands := h.stands_set hstands
      live := fun x => (hlive x).trans (h.live x)
      grants := fun j hj => ?grants
      elsewhere := h.elsewhere
      room := fun j hj => ?room
      full := fun z hz hrefused hj => ?full }
  case grants =>
    rw [hsame]
    exact h.grants j hj
  case room =>
    rw [hsame]
    exact h.room j hj
  case full =>
    rw [hsame]
    rcases List.mem_or_eq_of_mem_set hz with hz | rfl
    · exact h.full z hz hrefused hj
    · exact hfull hrefused hj

/-- The room that is left in a window, by the requests that have passed it. -/
theorem isFull_iff (h : Flow limits now ids w t standings) {j : ℕ}
    (hj : j < (Plan.windows ids).length) :
    isFull limits now t.windows (Plan.windows ids)[j] = true
      ↔ freeIn limits now w (Plan.windows ids)[j] ≤ reached standings (j + 1) := by
  have hlength := (h.live (Plan.windows ids)[j]).length_eq
  rw [List.length_append, List.length_replicate, h.grants j hj] at hlength
  rw [isFull, decide_eq_true_eq, hlength, freeIn]
  omega

/-- No window takes in more new events than it has room for. -/
theorem length_liveIn_le (h : Flow limits now ids w t standings) {x : Identifier × Tier}
    (hle : (liveIn limits now w x).length ≤ (limits.tier x.2).limit.toNat) :
    (liveIn limits now t.windows x).length ≤ (limits.tier x.2).limit.toNat := by
  have hlength := (h.live x).length_eq
  rw [List.length_append, List.length_replicate] at hlength
  by_cases hkey : keyOf x ∈ (Plan.windows ids).map keyOf
  · obtain ⟨j, hj, heq⟩ := List.getElem_of_mem hkey
    rw [List.getElem_map] at heq
    rw [List.length_map] at hj
    have hroom := h.room j hj
    rw [← h.grants j hj, freeIn, heq, liveIn_congr heq, tier_eq_of_keyOf_eq heq] at hroom
    omega
  · rw [h.elsewhere _ hkey] at hlength
    omega

variable [LawfulInstant τ]

/-- A sweep at the instant goes unnoticed. -/
theorem sweep (h : Flow limits now ids w t standings) (hreach : Reachable limits t.windows)
    (hnow : IsTime now) :
    Flow limits now ids w { t with windows := (t.windows.sweep now).1 } standings where
  pending := h.pending
  stands := h.stands
  live x := by
    rw [liveIn_sweep hreach hnow]
    exact h.live x
  grants := h.grants
  elsewhere := h.elsewhere
  room := h.room
  full := h.full

section Calls

variable (hnow : IsTime now)
  (hself : ∀ tier, Bucket.isLive (limits.tier tier).window now now = true)
  (hkeys : ((Plan.windows ids).map keyOf).Nodup)

include hnow hself hkeys

/-- A request finds room in a window, and passes it. -/
theorem pass (h : Flow limits now ids w t standings) (hw : t.windows.Ordered) {m : ℕ}
    (hget : standings[place]? = some (⟨m, false⟩, q)) (hm : m < (Plan.windows ids).length)
    (hroom : isFull limits now t.windows (Plan.windows ids)[m] = false)
    (hstands : Stands limits now ids ⟨m + 1, false⟩ plan) :
    Flow limits now ids w
      ⟨consumed limits now t.windows (Plan.windows ids)[m], t.pending.set place ⟨now, plan⟩,
        t.granted ++ [(keyOf (Plan.windows ids)[m], now)]⟩
      (standings.set place (⟨m + 1, false⟩, ⟨now, plan⟩)) := by
  have hpassed : ∀ j, reached (standings.set place (⟨m + 1, false⟩, ⟨now, plan⟩)) (j + 1)
      = reached standings (j + 1) + if j = m then 1 else 0 := reached_pass hget _
  have hgrants : ∀ key, Traffic.grants
      ⟨consumed limits now t.windows (Plan.windows ids)[m], t.pending.set place ⟨now, plan⟩,
        t.granted ++ [(keyOf (Plan.windows ids)[m], now)]⟩ key
      = t.grants key + if keyOf (Plan.windows ids)[m] = key then 1 else 0 := by
    intro key
    rw [Traffic.grants, List.countP_append, List.countP_singleton]
    simp only [decide_eq_true_eq]
    rfl
  refine
    { pending := h.pending_set
      stands := h.stands_set hstands
      live := fun x => ?live
      grants := fun j hj => ?grants
      elsewhere := fun key hkey => ?elsewhere
      room := fun j hj => ?room
      full := fun z hz hrefused hj => ?full }
  case live =>
    have hlive := h.live x
    rw [hgrants]
    by_cases hkey : keyOf (Plan.windows ids)[m] = keyOf x
    · have hperm := liveIn_consumed_self hw hnow hself (Plan.windows ids)[m]
      rw [hroom, if_neg Bool.false_ne_true, liveIn_congr hkey, liveIn_congr hkey] at hperm
      rw [if_pos hkey, List.replicate_succ]
      exact hperm.trans (hlive.cons now)
    · rw [if_neg hkey, liveIn_consumed hkey]
      exact hlive
  case grants =>
    rw [hgrants, hpassed, h.grants j hj]
    by_cases hjm : j = m
    · subst hjm
      rw [if_pos rfl, if_pos rfl]
    · rw [if_neg (keyOf_windows_ne hkeys hm hj (Ne.symm hjm)), if_neg hjm]
  case elsewhere =>
    have hne : keyOf (Plan.windows ids)[m] ≠ key := by
      rintro rfl
      exact hkey (List.mem_map_of_mem (List.getElem_mem hm))
    rw [hgrants, if_neg hne, h.elsewhere key hkey]
  case room =>
    rw [hpassed]
    by_cases hjm : j = m
    · subst hjm
      -- the window was not full, so those that had passed it were fewer than its room
      have hlt := (h.isFull_iff hj).not.mp (by rw [hroom]; exact Bool.false_ne_true)
      rw [if_pos rfl]
      omega
    · rw [if_neg hjm]
      exact h.room j hj
  case full =>
    rcases List.mem_or_eq_of_mem_set hz with hz | rfl
    · have hfull := h.full z hz hrefused hj
      rw [hpassed]
      omega
    · cases hrefused

/-- Whichever request makes its next call. -/
theorem call (h : Flow limits now ids w t standings) (hw : t.windows.Ordered) (place : ℕ) :
    ∃ standings', Flow limits now ids w (t.call place) standings' := by
  have hpending : t.pending[place]? = standings[place]?.map Prod.snd := by
    rw [h.pending, List.getElem?_map]
  cases hget : standings[place]? with
  | none =>
    rw [hget] at hpending
    rw [Traffic.call_of_none hpending]
    exact ⟨standings, h⟩
  | some z =>
    obtain ⟨p, ⟨begun, plan⟩⟩ := z
    rw [hget] at hpending
    obtain ⟨hbegun, hstands⟩ : begun = now ∧ Stands limits now ids p plan :=
      h.stands _ (List.mem_of_getElem? hget)
    subst hbegun
    -- what the request calls next depends on how far it has got; if it has ended, nothing happens
    cases hstands with
    | @asking m hm =>
      rw [List.drop_eq_getElem_cons hm] at hpending
      cases hroom : isFull limits begun t.windows (Plan.windows ids)[m] with
      | true =>
        obtain ⟨o, hcall⟩ := Traffic.call_full hw hnow hpending hroom
        rw [hcall]
        exact ⟨_, h.stay hget ⟨m, true⟩ rfl (.refused hm _ _ o)
          (fun x => liveIn_consumed_full hw hnow hself hroom)
          fun _ _ => (h.isFull_iff hm).mp hroom⟩
      | false =>
        rw [Traffic.call_room hw hnow hpending hroom]
        exact ⟨_, h.pass hnow hself hkeys hw hget hm hroom (.ofPassed hm)⟩
    | counting remaining rest =>
      cases rest with
      | nil =>
        rw [Traffic.call_done hpending]
        exact ⟨standings, h⟩
      | cons i rest =>
        rw [Traffic.call_count hpending]
        exact ⟨_, h.stay hget ⟨_, false⟩ rfl (.counting _ rest)
          (fun x => by rw [liveIn_counted hw hnow]) nofun⟩
    | refused hm tier i o =>
      rw [Traffic.call_done hpending]
      exact ⟨standings, h⟩

/-- Any interleaving of the calls, with sweeps at the instant of the requests. -/
theorem run (h : Flow limits now ids w t standings) (hreach : Reachable limits t.windows)
    (hfits : t.Fits limits) {moves : List (Move τ)}
    (hsweeps : ∀ later, .sweep later ∈ moves → later = now) :
    ∃ standings', Flow limits now ids w (t.run moves) standings' := by
  -- induction on the moves; that the windows are reachable is needed for the sweeps among them
  induction moves generalizing t standings with
  | nil => exact ⟨standings, h⟩
  | cons move rest ih =>
    obtain ⟨hreach', hfits'⟩ := Traffic.leads_step hreach hfits move
    have hrest : ∀ later, .sweep later ∈ rest → later = now :=
      fun later hlater => hsweeps later (List.mem_cons_of_mem _ hlater)
    cases move with
    | call place =>
      obtain ⟨standings', h'⟩ := h.call hnow hself hkeys hreach.ordered place
      exact ih h' hreach' hfits' hrest
    | sweep later =>
      obtain rfl := hsweeps later (List.mem_cons_self ..)
      exact ih (h.sweep hreach hnow) hreach' hfits' hrest

end Calls

end Flow

/-! ## When all have ended -/

namespace Flow

variable {limits : Limits} {now : τ} {ids : List Identifier} {w : WindowStore τ} {t : Traffic τ}
  {standings : Standings τ} (h : Flow limits now ids w t standings)

include h

theorem length_pending : t.pending.length = standings.length := by
  rw [h.pending, List.length_map]

/-- When all is over, every request has been decided, by whether it has passed all windows. -/
theorem exists_decision (hover : t.IsOver) {z : Progress × Pending τ} (hz : z ∈ standings) :
    ∃ d, z.2.plan.decision? = some d ∧ (d.allowed = true ↔ (Plan.windows ids).length ≤ z.1.passed) ∧
      (z.1.passed < (Plan.windows ids).length → z.1.refused = true) := by
  have hmem : z.2 ∈ t.pending := by
    rw [h.pending]
    exact List.mem_map_of_mem hz
  obtain ⟨d, hd⟩ := hover _ hmem
  exact ⟨d, hd, (h.stands z hz).2.of_decision? hd⟩

/-- Those that got past a window are as many as had got to it, or as many as it had room for. -/
theorem reached_succ (hover : t.IsOver) {j : ℕ} (hj : j < (Plan.windows ids).length) :
    reached standings (j + 1)
      = min (reached standings j) (freeIn limits now w (Plan.windows ids)[j]) := by
  have hroom := h.room j hj
  have hle : reached standings (j + 1) ≤ reached standings j := by
    refine List.countP_mono_left fun z _ hz => ?_
    rw [decide_eq_true_eq] at hz ⊢
    omega
  by_cases hstuck : ∃ z ∈ standings, z.1.passed = j
  · -- somebody was refused here, so the window was full
    obtain ⟨z, hz, rfl⟩ := hstuck
    obtain ⟨d, -, -, hrefused⟩ := h.exists_decision hover hz
    have hfull := h.full z hz (hrefused hj) hj
    omega
  · -- nobody was refused here, so all that got here got past
    have hall : reached standings (j + 1) = reached standings j := by
      refine List.countP_congr fun z hz => ?_
      have hne : z.1.passed ≠ j := fun heq => hstuck ⟨z, hz, heq⟩
      rw [decide_eq_true_eq, decide_eq_true_eq]
      omega
    omega

/-- As many get to a window as there are requests, or as the least room before it. -/
theorem reached_eq_foldl (hover : t.IsOver) {j : ℕ} (hj : j ≤ (Plan.windows ids).length) :
    reached standings j
      = (((Plan.windows ids).take j).map (freeIn limits now w)).foldl min standings.length := by
  induction j with
  | zero => exact List.countP_eq_length.mpr fun z _ => decide_eq_true (Nat.zero_le _)
  | succ j ih =>
    rw [h.reached_succ hover hj, ih (Nat.le_of_lt hj), List.take_succ_eq_append_getElem hj,
      List.map_append, List.foldl_append]
    rfl

/-- Those that were allowed got past all windows. -/
theorem countP_allowed (hover : t.IsOver) :
    t.decisions.countP (·.allowed) = reached standings (Plan.windows ids).length := by
  rw [Traffic.decisions, h.pending, List.countP_filterMap, List.countP_map]
  refine List.countP_congr fun z hz => ?_
  obtain ⟨d, hd, hallowed, -⟩ := h.exists_decision hover hz
  rw [Function.comp_apply, hd, Option.map_some, Option.getD_some, hallowed, decide_eq_true_eq]

theorem length_decisions (hover : t.IsOver) : t.decisions.length = standings.length := by
  rw [Traffic.decisions, List.length_filterMap_eq_countP, ← h.length_pending]
  refine List.countP_eq_length.mpr fun p hp => ?_
  obtain ⟨d, hd⟩ := hover p hp
  rw [hd]
  rfl

end Flow

namespace Traffic

variable {K : Type} [Field K] [LinearOrder K] [FloorRing K] [IsStrictOrderedRing K]

/-- **Who gets where first does not matter.** Take any windows that a limiter in memory can hold, with
exact time, and any number of requests for the same identifiers at one instant. However their calls
come in between each other, and whatever sweeps come at that instant, all of them end if each goes on to
make its calls; and then those that are admitted are as many as there are requests, or as the least room
of a window, whichever is less. At any time every window has as many new events as it has said yes, and
none holds more events than its limit if it did not at first. -/
theorem allowed_eq_min_room (limits : Limits) (hwindow : ∀ tier, 1 ≤ (limits.tier tier).window.toNat)
    {w : WindowStore K} (hreach : Reachable limits w) (now : K) {ids : List Identifier}
    (hsome : ids ≠ []) (hkeys : (ids.map Identifier.render).Nodup) (k : ℕ) (moves : List (Move K))
    (hsweeps : ∀ later, .sweep later ∈ moves → later = now) :
    let t := start w (List.replicate k ⟨now, .ofIdentifiers limits now ids⟩)
    ((∀ place < k, 3 * ids.length ≤ moves.countP (·.isCall place)) → (t.run moves).IsOver) ∧
    ((t.run moves).IsOver → (t.run moves).decisions.length = k ∧
      ∃ r, ((Plan.windows ids).map (freeIn limits now w)).min? = some r ∧
        (t.run moves).decisions.countP (·.allowed) = min k r) ∧
      (∀ x, (liveIn limits now (t.run moves).windows x).Perm
        (List.replicate ((t.run moves).grants (keyOf x)) now ++ liveIn limits now w x)) ∧
      ∀ x, ((w.held (keyOf x)).length ≤ (limits.tier x.2).limit.toNat →
          ((t.run moves).windows.held (keyOf x)).length ≤ (limits.tier x.2).limit.toNat) ∧
        ((liveIn limits now w x).length ≤ (limits.tier x.2).limit.toNat →
          (liveIn limits now (t.run moves).windows x).length ≤ (limits.tier x.2).limit.toNat) := by
  intro t
  have htime := isTime_exact now
  have hself : ∀ tier, Bucket.isLive (limits.tier tier).window now now = true := by
    intro tier
    have hpos : (0 : K) < (limits.tier tier).window.toNat := by exact_mod_cast hwindow tier
    rw [isLive_iff_lt]
    exact sub_lt_self now hpos
  have hfits : t.Fits limits := by
    intro p hp
    rw [List.eq_of_mem_replicate hp]
    exact ⟨htime, Plan.fits_ofIdentifiers limits now ids⟩
  obtain ⟨standings, h⟩ :=
    (Flow.start k).run htime hself (nodup_keyOf_windows hkeys) hreach hfits hsweeps
  have hlive := h.live
  refine ⟨fun hcalls => isOver_run fun place p hget => ?_, fun hover => ?_, hlive,
    fun x => ⟨fun hle => ?_, fun hle => ?_⟩⟩
  · obtain ⟨hplace, rfl⟩ := List.getElem?_eq_some_iff.mp hget
    have hk : place < k := List.length_replicate (n := k) ▸ hplace
    rw [List.eq_of_mem_replicate (List.getElem_mem hplace)]
    exact (Plan.endsWithin_ofIdentifiers limits now ids).mono (hcalls place hk)
  · have hlength : standings.length = k := by
      rw [← h.length_pending, length_pending_run]
      exact List.length_replicate
    refine ⟨(h.length_decisions hover).trans hlength, ?_⟩
    have hne : (Plan.windows ids).map (freeIn limits now w) ≠ [] := by
      rw [Ne, List.map_eq_nil_iff, ← List.length_eq_zero_iff, Plan.length_windows]
      have hpos := List.length_pos_iff.mpr hsome
      omega
    obtain ⟨r, hr⟩ := Option.isSome_iff_exists.mp (List.isSome_min?_of_ne_nil hne)
    refine ⟨r, hr, ?_⟩
    rw [h.countP_allowed hover, h.reached_eq_foldl hover le_rfl, List.take_length, hlength,
      List.foldl_min, hr, Option.getD_some]
  · exact (leads_run .refl hfits moves).1.length_held_le hreach.ordered hle
  · exact h.length_liveIn_le hle

/-- Two requests of a user, the second from another address, when the first is already old. -/
def earlier : List (Limiter.Step ℚ) := [.request 4 [.user "b"], .request 5 [.ip "a", .user "b"]]

/-- Three requests in turns, with a sweep in every turn. -/
def turns : List (Move ℚ) :=
  (List.replicate 6 [.call 1, .call 0, .sweep 6, .call 2]).flatten

/-- Three requests in turns, of which two get through the first window and one through all. -/
theorem allowed_eq_min_room_turns :
    let limits : Limits := ⟨⟨3, 60⟩, ⟨2, 1⟩, .ofMillis 250⟩
    let w := ((Limiter.start limits (none : Option (ScriptedStore ℚ))).after earlier).fallback
    let t := (start w
      (List.replicate 3 ⟨6, .ofIdentifiers limits 6 [.ip "a", .user "b"]⟩)).run turns
    t.decisions.countP (·.allowed) = 1 ∧ t.grants (windowKey .burst (.ip "a")) = 2 ∧
      (t.windows.held (windowKey .sustained (.user "b"))).length ≤ 3 := by
  intro limits w t
  have hreach : Reachable limits w :=
    Limiter.reachable_after (l := .start limits none) rfl .refl fun t _ => isTime_exact t
  have h := allowed_eq_min_room limits (fun tier => by cases tier <;> decide) hreach 6
    (List.cons_ne_nil (.ip "a") [.user "b"]) (by decide +kernel) 3 turns (by simp [turns])
  obtain ⟨hends, hcount, -, hheld⟩ := h
  have hover : t.IsOver := hends (by decide +kernel)
  obtain ⟨-, r, hr, hallowed⟩ := hcount hover
  have hroom : ((Plan.windows [.ip "a", .user "b"]).map (freeIn limits 6 w)).min? = some 1 := by
    decide +kernel
  rw [hroom, Option.some.injEq] at hr
  subst hr
  exact ⟨hallowed, by decide +kernel, (hheld (.user "b", .sustained)).1 (by decide +kernel)⟩

end Traffic

end AdmissionGate
