import AdmissionGate.Proofs.Quota.Routing
import AdmissionGate.Proofs.Settings.Exact
import AdmissionGate.Proofs.Shared.Lifecycle
import AdmissionGate.Proofs.Time.Exact

/-!
# Sums of words

A request for quota adds words in three places: the expiry of a window on a server is a second more than
its length, a window in memory counts one event more where it has room, and the second at which a quota is
whole again lies some seconds ahead. The last sum saturates, the second one stays within the limit, and the
first one is in range unless the window is as long as the greatest word (`additions_in_range`). If it is,
the expiry is zero (`expiry_of_longest_period`). No window is that long unless the sustained period is,
because settings are refused whose burst lasts longer.

Sums out of range wrap here, as they do in a build that does not check them. In a build that does, the sum
that would wrap ends the call instead. Sums in range are the same in both.
-/

namespace AdmissionGate

/-! ## Calls of a request -/

namespace Plan

variable {τ : Type} {limits : Limits} {now : τ} {ids : List Identifier} {calls : List (StoreCall τ)}
  {answers : List (StoreAnswer τ)} {d : Decision}

/-- Whatever the answers, what is asked is asked of the windows of the request. -/
theorem mem_callsGiven {ws : List (Identifier × Tier)} {c : StoreCall τ}
    (h : c ∈ callsGiven limits now ids ws answers) :
    c ∈ asks limits now ws ∨ c ∈ counts limits now ids := by
  unfold callsGiven at h
  split at h
  · exact .inl (List.mem_of_mem_take h)
  · exact List.mem_append.mp h

variable [Instant τ]

/-- Room is asked for in the windows of the identifiers alone, with the limits of their tiers. -/
theorem Path.exists_window {key : String} {limit window : UInt64} {t : τ}
    (h : Path now (ofIdentifiers limits now ids) calls answers d)
    (hcall : .consume key limit window t ∈ calls) :
    t = now ∧ ∃ i ∈ ids, ∃ tier, key = windowKey tier i ∧ limits.tier tier = ⟨limit, window⟩ := by
  obtain ⟨rfl, -⟩ := path_consumeAll h
  rcases mem_callsGiven hcall with hask | hcount
  · obtain ⟨⟨i, tier⟩, hmem, heq⟩ := List.mem_map.mp hask
    injection heq with hkey hlimit hwindow hnow
    subst hkey hlimit hwindow hnow
    exact ⟨rfl, i, mem_windows.mp hmem, tier, rfl, rfl⟩
  · obtain ⟨i, -, heq⟩ := List.mem_map.mp hcount
    cases heq

/-- A request that is admitted names the end of a sustained window that begins with it. -/
theorem Path.resetEpoch_countAll {remaining : UInt64}
    (h : Path now (countAll limits now remaining ids) calls answers d) :
    d.allowed = true ∧
      d.resetEpoch = addSaturating (Instant.wholeSeconds now) limits.sustained.window := by
  induction ids generalizing remaining calls answers with
  | nil =>
    rw [countAll] at h
    cases h
    exact ⟨rfl, rfl⟩
  | cons i rest ih =>
    rw [countAll] at h
    cases h with
    | count h => exact ih h

/-- The quota is reported to reset when a window has passed, or the wait that a denial asks for. -/
theorem Path.resetEpoch_consumeAll {remaining : UInt64} {ws : List (Identifier × Tier)}
    (h : Path now (consumeAll limits now (countAll limits now remaining ids) ws) calls answers d) :
    d.resetEpoch = addSaturating (Instant.wholeSeconds now)
      (if d.allowed then limits.sustained.window else d.retryAfter) := by
  induction ws generalizing calls answers with
  | nil =>
    obtain ⟨hallowed, hreset⟩ := Path.resetEpoch_countAll h
    rw [hallowed, hreset, if_pos rfl]
  | cons x rest ih =>
    rw [consumeAll] at h
    cases h with
    | @consume _ _ _ o calls answers _ h =>
      beta_reduce at h
      split at h
      · exact ih h
      · rw [denial] at h
        cases h
        rfl

end Plan

/-! ## Windows in memory -/

/-- An event is recorded only where the count stays within the limit. -/
theorem WindowStore.count_le_of_allowed {τ : Type} [Instant τ] {w : WindowStore τ} {key : String}
    {limit window : UInt64} {now : τ} (h : (w.consume key limit window now).2.allowed = true) :
    (w.consume key limit window now).2.count ≤ limit.toNat := by
  unfold WindowStore.consume at h ⊢
  dsimp only at h ⊢
  split at h
  · cases h
  · next hroom =>
    rw [if_neg hroom]
    dsimp only
    omega

/-! ## Windows on a server -/

/-- The seconds after which a window expires that a command asks for, if it does. -/
def ServerCommand.expiry? : ServerCommand → Option UInt64
  | .ping => none
  | .runScript _ _ _ _ _ expiry => some expiry
  | .loadScript => none
  | .begin => none
  | .dropThrough _ _ => none
  | .countEntries _ => none
  | .commit => none

namespace NetworkedStore

section Sent

variable {α : Type} {st : NetworkedStore} {c : Contact} {talk : Talk} {read : ServerValue → Option α}

/-- A store that finds its server sends what it does in view of some answers. -/
theorem sent_call (hopen : st.closed = false) (hfinds : c.finds = true) :
    ∃ values, (st.call c talk read).sent = (talk values).1 := by
  cases c with
  | absent => cases hfinds
  | refused reason => cases hfinds
  | silent => exact ⟨[], by simp [call, hopen]⟩
  | answers values => exact ⟨values, sent_call_answers hopen values⟩

/-- Nothing is sent by a store that is closed or finds no server. -/
theorem sent_call_eq_nil (h : st.closed = true ∨ c.finds = false) :
    (st.call c talk read).sent = [] := by
  cases hclosed : st.closed with
  | true => rw [call_of_closed hclosed]
  | false =>
    have hlost : c.finds = false := h.resolve_left (by rw [hclosed]; decide)
    cases c with
    | absent => simp [call, hclosed]
    | refused reason => rw [call_refused hclosed]
    | silent => cases hlost
    | answers values => cases hlost

end Sent

/-- To record an event is to run one script, which has to be made known if the server does not know it.
The script asks for an expiry a second after the length of the window, in the arithmetic of words. -/
theorem sent_consume (st : NetworkedStore) (c : Contact) (key : String) (limit window : UInt64)
    (now : Double) (id : String) :
    ∃ script : ServerCommand, script.expiry? = some (window + 1) ∧
      (∀ command ∈ (st.consume c key limit window now id).sent,
        command = script ∨ command = .loadScript) ∧
      (st.closed = false → c.finds = true →
        script ∈ (st.consume c key limit window now id).sent) := by
  refine ⟨.runScript (st.serverKey key) (score now) (score (Bucket.cutoff now window)) limit
    (score now ++ "-" ++ id) (window + 1), rfl, ?_⟩
  rw [consume]
  by_cases hsends : st.closed = false ∧ c.finds = true
  · obtain ⟨values, hsent⟩ := sent_call hsends.1 hsends.2
    rw [hsent, Talk.withScript_eq]
    split
    · simp
    · simp
  · have hnone : st.closed = true ∨ c.finds = false := by
      cases hclosed : st.closed with
      | true => exact .inl rfl
      | false => exact .inr (Bool.eq_false_iff.mpr fun hfinds => hsends ⟨hclosed, hfinds⟩)
    rw [sent_call_eq_nil hnone]
    constructor
    · intro command hmem
      cases hmem
    · intro hopen hfinds
      exact absurd ⟨hopen, hfinds⟩ hsends

end NetworkedStore

namespace Settings

variable {env : Environment} {s : Settings}

/-- No window is longer than the sustained one. -/
theorem window_le_sustained (hs : ofEnvironment env = .ok s) (tier : Tier) :
    (s.limits.tier tier).window ≤ s.sustained.window := by
  obtain ⟨t, -, h⟩ := bind_eq_ok_iff.mp hs
  obtain ⟨_, hcheck, h⟩ := bind_eq_ok_iff.mp h
  obtain rfl := Except.ok.inj h
  cases tier with
  | burst => exact (sound_of_check hcheck).2.1
  | sustained => exact UInt64.le_refl _

theorem toNat_add_one_of_ne {window : UInt64} (h : window ≠ maxWord) :
    (window + 1).toNat = window.toNat + 1 := by
  have hgreatest : maxWord.toNat = 2 ^ 64 - 1 := by decide
  have hne : window.toNat ≠ maxWord.toNat := fun heq => h (UInt64.toNat_inj.mp heq)
  have hlt := window.toNat_lt
  have hone : (1 : UInt64).toNat = 1 := rfl
  rw [UInt64.toNat_add, hone, Nat.mod_eq_of_lt (by omega)]

/-- **Sums of words stay in range, but for one.** Take settings that an environment spells, and any way
through a request for quota, wherever the answers come from. Room is asked for in the windows of the
identifiers, with the limits of their tiers, and none of these is longer than the sustained period. A store
on a server that is asked so sends an expiry whenever it finds its server, and each that it sends is one
more than the length of the window, as numbers, unless that is the greatest word. A store in memory that
records the event counts no more than the limit. The second that the decision names is the exact sum, or
the greatest word if that is out of range. Nothing is said of the expiry of a window as long as the greatest
word: a build without checks sends zero for it (`expiry_of_longest_period`), and one with checks fails before
it sends anything. -/
theorem additions_in_range (hs : ofEnvironment env = .ok s) (now : Double) (ids : List Identifier)
    (calls : List (StoreCall Double)) (answers : List (StoreAnswer Double)) (d : Decision)
    (hpath : (Plan.ofIdentifiers s.limits now ids).Path now calls answers d) :
    (∀ key limit window t, .consume key limit window t ∈ calls →
      (t = now ∧ ∃ i ∈ ids, ∃ tier, key = windowKey tier i ∧ s.limits.tier tier = ⟨limit, window⟩) ∧
      window ≤ s.sustained.window ∧
      (∀ (st : NetworkedStore) (c : Contact) (id : String),
        (st.closed = false → c.finds = true →
          ∃ command ∈ (st.consume c key limit window t id).sent, command.expiry?.isSome) ∧
        ∀ command ∈ (st.consume c key limit window t id).sent, ∀ expiry,
          command.expiry? = some expiry → window ≠ maxWord →
            window < expiry ∧ expiry.toNat = window.toNat + 1) ∧
      ∀ w : WindowStore Double, (w.consume key limit window t).2.allowed = true →
        (w.consume key limit window t).2.count ≤ limit.toNat) ∧
    d.resetEpoch.toNat = min ((Instant.wholeSeconds now).toNat
      + (if d.allowed then s.sustained.window else d.retryAfter).toNat) (2 ^ 64 - 1) := by
  constructor
  · intro key limit window t hcall
    obtain ⟨rfl, i, hi, tier, rfl, htier⟩ := hpath.exists_window hcall
    have hle : window ≤ s.sustained.window := by
      have htierLe := window_le_sustained hs tier
      rwa [htier] at htierLe
    refine ⟨⟨rfl, i, hi, tier, rfl, htier⟩, hle, ?_, fun w => WindowStore.count_le_of_allowed⟩
    intro st c id
    obtain ⟨script, hscript, hsent, hruns⟩ := st.sent_consume c (windowKey tier i) limit window t id
    constructor
    · intro hopen hfinds
      exact ⟨script, hruns hopen hfinds, by rw [hscript]; rfl⟩
    · intro command hmem expiry hexpiry hne
      rcases hsent command hmem with rfl | rfl
      · obtain rfl : window + 1 = expiry := Option.some.inj (hscript.symm.trans hexpiry)
        have hsum := toNat_add_one_of_ne hne
        refine ⟨?_, hsum⟩
        rw [UInt64.lt_iff_toNat_lt, hsum]
        omega
      · cases hexpiry
  · rw [Plan.Path.resetEpoch_consumeAll hpath, toNat_addSaturating]
    rfl

/-- The longest period that leaves a second of room. -/
def longPeriod : Environment := ⟨[("RATE_LIMIT_PERIOD_SECS", "18446744073709551614")], by decide⟩

/-- A period of all the seconds that a word can count. -/
def longestPeriod : Environment :=
  ⟨[("RATE_LIMIT_PERIOD_SECS", "18446744073709551615")], by decide⟩

/-- The thousandth second. -/
def thousand : Double := ⟨0x408F400000000000⟩

/-- At second 1000 a client uses the long period for the first time. Its window is sent with the greatest
word as the expiry, and the greatest word stands for the second at which its quota is whole again. -/
theorem additions_in_range_long_period :
    ∃ s, ofEnvironment longPeriod = .ok s ∧ s.sustained = ⟨100, 18446744073709551614⟩ ∧
      (∃ calls answers d,
        (Plan.ofIdentifiers s.limits thousand [.ip "a"]).Path thousand
          calls answers d ∧ d.allowed = true ∧ d.resetEpoch.toNat = 18446744073709551615) ∧
      ∀ command ∈ ((NetworkedStore.fresh s.keyStart).consume .silent
          (windowKey .sustained (.ip "a")) 100 18446744073709551614 thousand "1").sent,
        ∀ expiry, command.expiry? = some expiry → expiry.toNat = 18446744073709551615 := by
  have hvalue : (ofEnvironment longPeriod).toOption.map (·.sustained)
      = some ⟨100, 18446744073709551614⟩ := by decide +kernel
  cases hs : ofEnvironment longPeriod with
  | error e => rw [hs] at hvalue; cases hvalue
  | ok s =>
    rw [hs] at hvalue
    have hsustained : s.sustained = ⟨100, 18446744073709551614⟩ := Option.some.inj hvalue
    have hpath : (Plan.ofIdentifiers s.limits thousand [.ip "a"]).Path
        thousand
        [.consume "burst:ip:a" s.burst.limit s.burst.window thousand,
          .consume "sustained:ip:a" s.sustained.limit s.sustained.window thousand,
          .count "sustained:ip:a" s.sustained.window thousand]
        [.outcome ⟨true, 1, none⟩, .outcome ⟨true, 1, none⟩, .count 1]
        (.allow (min s.sustained.limit (Plan.room s.sustained.limit 1)) s.sustained.limit
          (addSaturating (Instant.wholeSeconds thousand)
            s.sustained.window)) :=
      .consume (.consume (.count (.done _ _)))
    obtain ⟨hcalls, hreset⟩ := additions_in_range hs _ _ _ _ _ hpath
    have hseconds : (Instant.wholeSeconds thousand).toNat = 1000 := by
      decide +kernel
    refine ⟨s, rfl, hsustained, ⟨_, _, _, hpath, rfl, ?_⟩, ?_⟩
    · rw [hreset, hseconds, hsustained]
      decide
    · obtain ⟨-, -, hsent, -⟩ := hcalls "sustained:ip:a" s.sustained.limit s.sustained.window
        thousand (by simp)
      rw [hsustained] at hsent
      intro command hmem expiry hexpiry
      exact ((hsent _ _ _).2 command hmem expiry hexpiry (by decide)).2

/-- With the longest period, the window of a client expires on the server at once, if sums are not
checked. -/
theorem expiry_of_longest_period :
    ∃ s, ofEnvironment longestPeriod = .ok s ∧
      ∃ command ∈ ((NetworkedStore.fresh s.keyStart).consume
          (.answers [.list [.integer 1, .integer 1, .text "1000.000000"]])
          (windowKey .sustained (.ip "a")) s.sustained.limit s.sustained.window
          thousand "1").sent,
        command.expiry? = some 0 ∧ ¬ s.sustained.window < 0 := by
  have hvalue : (ofEnvironment longestPeriod).toOption.map (·.sustained.window)
      = some 18446744073709551615 := by decide +kernel
  cases hs : ofEnvironment longestPeriod with
  | error e => rw [hs] at hvalue; cases hvalue
  | ok s =>
    rw [hs] at hvalue
    have hwindow : s.sustained.window = 18446744073709551615 := Option.some.inj hvalue
    obtain ⟨script, hscript, -, hruns⟩ := (NetworkedStore.fresh s.keyStart).sent_consume
      (.answers [.list [.integer 1, .integer 1, .text "1000.000000"]])
      (windowKey .sustained (.ip "a")) s.sustained.limit s.sustained.window
      thousand "1"
    refine ⟨s, rfl, script, hruns rfl rfl, ?_, ?_⟩
    · rw [hscript, hwindow]
      decide
    · rw [hwindow]
      decide

end Settings

end AdmissionGate
