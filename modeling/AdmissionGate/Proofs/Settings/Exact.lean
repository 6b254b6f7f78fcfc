import AdmissionGate.Proofs.Settings.Spelling
import AdmissionGate.Settings.Reader

/-!
# Settings are what the environment spells

An environment has settings exactly when each of its numbers, truth values and formats can be read, no
amount is zero, and a burst window is no longer than a sustained one. They are then the only settings whose
every field is given by its own variable. Otherwise there is an error, and it blames a variable that is at
fault; no field falls back on its default because its text cannot be read (`Settings.ofEnvironment_exact`).

The reading is a sequence of steps that may fail. One lemma takes a successful sequence apart
(`bind_eq_ok_iff`), one says that a sequence fails for the reasons of its steps alone (`FailsFor.bind`), and
the variables come in as one step each.
-/

namespace AdmissionGate

/-! ## Sequences of steps that may fail -/

section Steps

variable {ε α β : Type} {P : ε → Prop}

/-- A sequence succeeds if each of its steps does, with what the one before it has come to. -/
theorem bind_eq_ok_iff {x : Except ε α} {f : α → Except ε β} {b : β} :
    (x >>= f) = .ok b ↔ ∃ a, x = .ok a ∧ f a = .ok b := by
  cases x with
  | error e => exact iff_of_false nofun nofun
  | ok a =>
    constructor
    · intro h
      exact ⟨a, rfl, h⟩
    · rintro ⟨a', ha, h⟩
      obtain rfl := Except.ok.inj ha
      exact h

/-- All failures are for a reason. -/
def FailsFor (P : ε → Prop) (x : Except ε α) : Prop := ∀ e, x = .error e → P e

/-- A sequence fails for the reasons of its steps alone. -/
theorem FailsFor.bind {x : Except ε α} {f : α → Except ε β} (hx : FailsFor P x)
    (hf : ∀ a, x = .ok a → FailsFor P (f a)) : FailsFor P (x >>= f) := by
  intro e he
  cases x with
  | error e' =>
    obtain rfl : e' = e := Except.error.inj he
    exact hx e' rfl
  | ok a => exact hf a rfl e he

theorem FailsFor.ok (a : α) : FailsFor P (.ok a : Except ε α) := nofun

/-- The same step for everything in a list succeeds if it does for each. -/
theorem forM_eq_ok_iff {f : α → Except ε Unit} {xs : List α} :
    xs.forM f = .ok () ↔ ∀ a ∈ xs, f a = .ok () := by
  induction xs with
  | nil => exact iff_of_true rfl nofun
  | cons x xs ih =>
    have hstep : (x :: xs).forM f = (f x >>= fun _ => xs.forM f) := rfl
    rw [hstep, bind_eq_ok_iff, List.forall_mem_cons]
    constructor
    · rintro ⟨_, hx, hxs⟩
      exact ⟨hx, ih.mp hxs⟩
    · rintro ⟨hx, hxs⟩
      exact ⟨(), hx, ih.mpr hxs⟩

/-- The same step for everything in a list fails for the reasons that it has for each. -/
theorem FailsFor.forM {f : α → Except ε Unit} {xs : List α} (h : ∀ a ∈ xs, FailsFor P (f a)) :
    FailsFor P (xs.forM f) := by
  induction xs with
  | nil => exact .ok ()
  | cons x xs ih =>
    rw [List.forall_mem_cons] at h
    exact h.1.bind fun _ _ => ih h.2

end Steps

namespace Settings

open Environment

variable {env : Environment} {s : Settings}

/-! ## What is read -/

/-- The name of production is looked for without regard to ASCII case. -/
theorem isProductionName_eq (name : String) : isProductionName name
    = decide (name.toList.map Char.toLower = "production".toList) := by
  have hword : Text.lowerAscii "production" = String.ofList "production".toList := by decide
  rw [isProductionName, Text.eqIgnoringAsciiCase, hword, Text.lowerAscii, Bool.eq_iff_iff,
    beq_iff_eq, decide_eq_true_iff, String.ofList_inj]

/-- **What is read is what is spelled**, field by field. -/
theorem spelledBy_of_read (h : read env = .ok s) : s.SpelledBy env := by
  unfold read at h
  -- one value and one fact for each step, in the order of the steps
  simp only [bind_eq_ok_iff, word_eq_ok_iff, port_eq_ok_iff, flag_eq_ok_iff, format_eq_ok_iff] at h
  obtain ⟨port, hport, rateLimiting, hrateLimiting, sustainedLimit, hsustainedLimit,
    sustainedWindow, hsustainedWindow, burstLimit, hburstLimit, burstWindow, hburstWindow,
    byIp, hbyIp, byUser, hbyUser, byEndpoint, hbyEndpoint, useSharedStore, huseSharedStore,
    storeTimeout, hstoreTimeout, sweepInterval, hsweepInterval, screening, hscreening,
    strict, hstrict, maxHeaderBytes, hmaxHeaderBytes, maxQueryBytes, hmaxQueryBytes,
    maxBodyBytes, hmaxBodyBytes, maxJsonDepth, hmaxJsonDepth, logFormat, hlogFormat,
    metricsPort, hmetricsPort, hs⟩ := h
  obtain rfl := Except.ok.inj hs
  -- the only default that depends on another variable
  have hplace : ∀ place, env.Gives "APP_ENV" "development" Eq place →
      env.Gives "VALIDATION_STRICT_MODE"
        (decide (place.toList.map Char.toLower = "production".toList)) SpellsFlag strict := by
    intro place hplace
    rw [hplace.text_unique gives_text, ← isProductionName_eq]
    exact hstrict
  exact {
    host := gives_text
    port := hport
    environmentName := gives_text
    rateLimiting := hrateLimiting
    sustainedLimit := hsustainedLimit
    sustainedWindow := hsustainedWindow
    burstLimit := hburstLimit
    burstWindow := hburstWindow
    byIp := hbyIp
    byUser := hbyUser
    byEndpoint := hbyEndpoint
    freePaths := gives_paths
    useSharedStore := huseSharedStore
    sharedStoreUrl := gives_text
    keyStart := gives_text
    storeTimeout := ⟨_, hstoreTimeout, rfl⟩
    sweepInterval := ⟨_, hsweepInterval, rfl⟩
    screening := hscreening
    strict := hplace
    maxHeaderBytes := hmaxHeaderBytes
    maxQueryBytes := hmaxQueryBytes
    maxBodyBytes := hmaxBodyBytes
    maxJsonDepth := hmaxJsonDepth
    unscreenedPaths := gives_paths
    allowedOrigins := gives_origins
    logLevel := gives_text
    logFormat := hlogFormat
    metricsPort := hmetricsPort }

section Failures

variable {name : String}

theorem word_failsFor {default : UInt64} (h : ∃ v ∈ amountVariables, v.1 = name) :
    FailsFor (SettingsError.Blames env) (env.word name default) := by
  intro e he
  obtain ⟨⟨cause, rfl⟩, hreads⟩ := word_eq_error he
  exact .inl ⟨h, hreads⟩

theorem port_failsFor {default : UInt16} (h : name ∈ portVariables) :
    FailsFor (SettingsError.Blames env) (env.port name default) := by
  intro e he
  obtain ⟨⟨cause, rfl⟩, hreads⟩ := port_eq_error he
  exact .inr ⟨h, hreads⟩

theorem flag_failsFor {default : Bool} (h : name ∈ flagVariables) :
    FailsFor (SettingsError.Blames env) (env.flag name default) := by
  intro e he
  obtain ⟨⟨text, htext, rfl⟩, hreads⟩ := flag_eq_error he
  exact ⟨h, htext, hreads⟩

theorem format_failsFor {default : LogFormat} :
    FailsFor (SettingsError.Blames env) (env.format "LOG_FORMAT" default) := by
  intro e he
  obtain ⟨⟨word, rfl⟩, hreads⟩ := format_eq_error he
  exact ⟨rfl, hreads⟩

/-- Each step of the reading fails for its own variable. -/
theorem read_failsFor : FailsFor (SettingsError.Blames env) (read env) := by
  unfold read
  refine (port_failsFor (by decide)).bind fun port _ => ?_
  refine (flag_failsFor (by decide)).bind fun rateLimiting _ => ?_
  refine (word_failsFor (by decide)).bind fun sustainedLimit _ => ?_
  refine (word_failsFor (by decide)).bind fun sustainedWindow _ => ?_
  refine (word_failsFor (by decide)).bind fun burstLimit _ => ?_
  refine (word_failsFor (by decide)).bind fun burstWindow _ => ?_
  refine (flag_failsFor (by decide)).bind fun byIp _ => ?_
  refine (flag_failsFor (by decide)).bind fun byUser _ => ?_
  refine (flag_failsFor (by decide)).bind fun byEndpoint _ => ?_
  refine (flag_failsFor (by decide)).bind fun useSharedStore _ => ?_
  refine (word_failsFor (by decide)).bind fun storeTimeout _ => ?_
  refine (word_failsFor (by decide)).bind fun sweepInterval _ => ?_
  refine (flag_failsFor (by decide)).bind fun screening _ => ?_
  refine (flag_failsFor (by decide)).bind fun strict _ => ?_
  refine (word_failsFor (by decide)).bind fun maxHeaderBytes _ => ?_
  refine (word_failsFor (by decide)).bind fun maxQueryBytes _ => ?_
  refine (word_failsFor (by decide)).bind fun maxBodyBytes _ => ?_
  refine (word_failsFor (by decide)).bind fun maxJsonDepth _ => ?_
  refine format_failsFor.bind fun logFormat _ => ?_
  refine (port_failsFor (by decide)).bind fun metricsPort _ => ?_
  exact .ok _

end Failures

/-! ## What is checked -/

theorem requirePositive_eq_ok_iff {name : String} {n : Nat} :
    requirePositive name n = .ok () ↔ 1 ≤ n := by
  unfold requirePositive
  split
  next hzero => exact iff_of_false nofun (by omega)
  next hpos => exact iff_of_true rfl (by omega)

/-- One that is zero fails under the name of its variable. -/
theorem requirePositive_eq_error {name : String} {n : Nat} {e : SettingsError}
    (h : requirePositive name n = .error e) : n = 0 ∧ e = .notPositive name := by
  unfold requirePositive at h
  split at h
  next hzero => exact ⟨hzero, (Except.error.inj h).symm⟩
  next => cases h

/-- What passes the check: amounts that are not zero, and a burst no longer than a period. -/
theorem sound_of_check (h : s.check = .ok ()) :
    (∀ v ∈ s.positives, 1 ≤ v.2) ∧ s.burst.window ≤ s.sustained.window ∧
      1 ≤ s.storeTimeout.nanos ∧ 1 ≤ s.sweepInterval.nanos := by
  unfold check at h
  obtain ⟨_, hpositives, h⟩ := bind_eq_ok_iff.mp h
  rw [forM_eq_ok_iff] at hpositives
  split at h
  · obtain ⟨_, hthrow, -⟩ := bind_eq_ok_iff.mp h
    cases hthrow
  next hnested =>
    obtain ⟨_, htimeout, hinterval⟩ := bind_eq_ok_iff.mp h
    refine ⟨?_, UInt64.not_lt.mp hnested, requirePositive_eq_ok_iff.mp htimeout,
      requirePositive_eq_ok_iff.mp hinterval⟩
    intro v hv
    exact requirePositive_eq_ok_iff.mp (hpositives v hv)

/-- Each number that has to be positive is the amount of the variable that it is named after. -/
theorem SpelledBy.positives (h : s.SpelledBy env) :
    ∀ v ∈ s.positives, ∃ d, (v.1, d) ∈ amountVariables ∧ env.Amount v.1 d v.2 := by
  unfold Settings.positives
  simp only [List.forall_mem_cons]
  exact ⟨⟨100, by decide, h.sustainedLimit⟩, ⟨60, by decide, h.sustainedWindow⟩,
    ⟨10, by decide, h.burstLimit⟩, ⟨1, by decide, h.burstWindow⟩,
    ⟨8000, by decide, h.maxHeaderBytes⟩, ⟨2000, by decide, h.maxQueryBytes⟩,
    ⟨10485760, by decide, h.maxBodyBytes⟩, ⟨10, by decide, h.maxJsonDepth⟩, nofun⟩

theorem SpelledBy.nanos_storeTimeout (h : s.SpelledBy env) :
    ∃ n, env.Amount "STORE_TIMEOUT_MS" 250 n ∧ s.storeTimeout.nanos = n * 1000000 := by
  obtain ⟨n, hn, htimeout⟩ := h.storeTimeout
  exact ⟨n, hn, congrArg Duration.nanos htimeout⟩

theorem SpelledBy.nanos_sweepInterval (h : s.SpelledBy env) :
    ∃ n, env.Amount "SWEEP_INTERVAL_SECS" 60 n ∧ s.sweepInterval.nanos = n * 1000000000 := by
  obtain ⟨n, hn, hinterval⟩ := h.sweepInterval
  exact ⟨n, hn, congrArg Duration.nanos hinterval⟩

theorem requirePositive_failsFor {name : String} {n d : Nat} (hname : (name, d) ∈ amountVariables)
    (hn : n = 0 → env.Amount name d 0) :
    FailsFor (SettingsError.Blames env) (requirePositive name n) := by
  intro e he
  obtain ⟨hzero, rfl⟩ := requirePositive_eq_error he
  exact ⟨(name, d), hname, rfl, hn hzero⟩

/-- The check fails for an amount that is zero or for windows that are not nested. -/
theorem check_failsFor (h : s.SpelledBy env) : FailsFor (SettingsError.Blames env) s.check := by
  unfold check
  refine FailsFor.bind (FailsFor.forM fun v hv => ?_) fun _ _ => ?_
  · obtain ⟨d, hname, hamount⟩ := h.positives v hv
    refine requirePositive_failsFor hname fun hzero => ?_
    rwa [hzero] at hamount
  split
  next hlt =>
    intro e he
    obtain rfl := Except.error.inj he
    exact ⟨h.burstWindow, h.sustainedWindow, hlt⟩
  next =>
    -- a length of time is checked in nanoseconds, and is zero only if what is spelled is
    obtain ⟨millis, hmillis, htimeout⟩ := h.nanos_storeTimeout
    obtain ⟨secs, hsecs, hinterval⟩ := h.nanos_sweepInterval
    refine FailsFor.bind (requirePositive_failsFor (d := 250) (by decide) fun hzero => ?_)
      fun _ _ => requirePositive_failsFor (d := 60) (by decide) fun hzero => ?_
    · have hnone : millis = 0 := by omega
      rwa [hnone] at hmillis
    · have hnone : secs = 0 := by omega
      rwa [hnone] at hsecs

/-- Settings that pass the check have spelled no amount of zero. -/
theorem exists_amount (h : s.SpelledBy env) (hcheck : s.check = .ok ()) :
    ∀ v ∈ amountVariables, ∃ n, env.Amount v.1 v.2 n ∧ 1 ≤ n := by
  obtain ⟨hpositives, -, htimeout, hinterval⟩ := sound_of_check hcheck
  simp only [Settings.positives, List.forall_mem_cons] at hpositives
  obtain ⟨hsustainedLimit, hsustainedWindow, hburstLimit, hburstWindow, hheader, hquery, hbody,
    hdepth, -⟩ := hpositives
  obtain ⟨millis, hmillis, htimeout'⟩ := h.nanos_storeTimeout
  obtain ⟨secs, hsecs, hinterval'⟩ := h.nanos_sweepInterval
  have hmillis' : 1 ≤ millis := by omega
  have hsecs' : 1 ≤ secs := by omega
  unfold amountVariables
  simp only [List.forall_mem_cons]
  exact ⟨⟨_, h.sustainedLimit, hsustainedLimit⟩,
    ⟨_, h.sustainedWindow, hsustainedWindow⟩, ⟨_, h.burstLimit, hburstLimit⟩,
    ⟨_, h.burstWindow, hburstWindow⟩, ⟨_, hmillis, hmillis'⟩, ⟨_, hsecs, hsecs'⟩,
    ⟨_, h.maxHeaderBytes, hheader⟩, ⟨_, h.maxQueryBytes, hquery⟩,
    ⟨_, h.maxBodyBytes, hbody⟩, ⟨_, h.maxJsonDepth, hdepth⟩, nofun⟩

/-- An environment that spells settings can be read. -/
theorem readable_of_spelledBy (h : s.SpelledBy env) (hcheck : s.check = .ok ()) :
    env.Readable where
  amounts := by
    intro v hv
    obtain ⟨n, hn, -⟩ := exists_amount h hcheck v hv
    exact hn.reads
  ports := by
    unfold portVariables
    simp only [List.forall_mem_cons]
    exact ⟨h.port.reads, h.metricsPort.reads, nofun⟩
  flags := by
    unfold flagVariables
    simp only [List.forall_mem_cons]
    exact ⟨h.rateLimiting.reads, h.byIp.reads, h.byUser.reads,
      h.byEndpoint.reads, h.useSharedStore.reads, h.screening.reads,
      (h.strict _ h.environmentName).reads, nofun⟩
  format := h.logFormat.reads

/-- An environment whose settings pass the check fits together. -/
theorem coherent_of_spelledBy (h : s.SpelledBy env) (hcheck : s.check = .ok ()) :
    env.Coherent where
  positive := by
    intro v hv n hn
    obtain ⟨m, hm, hpos⟩ := exists_amount h hcheck v hv
    rwa [hn.unique hm]
  nested := by
    intro burst sustained hburst hsustained
    rw [hburst.unique h.burstWindow, hsustained.unique h.sustainedWindow]
    exact UInt64.le_iff_toNat_le.mp (sound_of_check hcheck).2.1

end Settings

/-! ## Settings of an environment -/

/-- The paths that a variable gives start with a slash. -/
theorem forall_paths_of_gives {env : Environment} {name : String} {default paths : List String}
    (h : env.Gives name default SpellsPaths paths)
    (hdefault : ∀ p ∈ default, p.toList.head? = some '/') : ∀ p ∈ paths, p.toList.head? = some '/' := by
  cases htext : env.get? name with
  | none => rwa [(Environment.gives_of_none htext).mp h]
  | some text =>
    obtain ⟨listed, -, rfl⟩ := (Environment.gives_of_some htext).mp h
    intro p hp
    exact eq_of_beq (List.mem_filter.mp hp).2

/-- The origins that a variable gives are not empty and have no blanks at their ends. -/
theorem forall_origins_of_gives {env : Environment} {name : String} {default origins : List String}
    (h : env.Gives name default SpellsOrigins origins)
    (hdefault : ∀ o ∈ default, o ≠ "" ∧ Text.Tight o.toList) :
    ∀ o ∈ origins, o ≠ "" ∧ Text.Tight o.toList := by
  cases htext : env.get? name with
  | none => rwa [(Environment.gives_of_none htext).mp h]
  | some text =>
    rw [(spellsOrigins_iff.mp ((Environment.gives_of_some htext).mp h))]
    intro o ho
    obtain ⟨hitem, hnonempty⟩ := List.mem_filter.mp ho
    obtain ⟨stretch, -, rfl⟩ := List.mem_map.mp hitem
    constructor
    · intro hempty
      rw [hempty] at hnonempty
      exact absurd hnonempty (by decide)
    · rw [Text.toList_trim]
      exact Text.tight_trimChars _

namespace Settings

/-- An environment has settings exactly when everything in it can be read and fits together. They
are the one settings that it spells, and what they hold for the limits, the screen and the stages is
what it spells for these. Otherwise an error tells what is at fault. -/
theorem ofEnvironment_exact (env : Environment) :
    ((∃ s, ofEnvironment env = .ok s) ↔ env.Readable ∧ env.Coherent) ∧
    (∀ s, ofEnvironment env = .ok s →
      (∀ t : Settings, t.SpelledBy env ↔ t = s) ∧
      (∀ p ∈ s.freePaths ++ s.unscreenedPaths, p.toList.head? = some '/') ∧
      (∀ o ∈ s.allowedOrigins, o ≠ "" ∧ Text.Tight o.toList) ∧
      s.limits.SpelledBy env ∧ s.screeningSettings.SpelledBy env ∧ s.admission.SpelledBy env) ∧
    (¬ (env.Readable ∧ env.Coherent) → ∃ e, ofEnvironment env = .error e ∧ e.Blames env) := by
  have hspelled : ∀ s, ofEnvironment env = .ok s → s.SpelledBy env ∧ s.check = .ok () := by
    intro s h
    obtain ⟨t, hread, h⟩ := bind_eq_ok_iff.mp h
    obtain ⟨_, hcheck, h⟩ := bind_eq_ok_iff.mp h
    obtain rfl := Except.ok.inj h
    exact ⟨spelledBy_of_read hread, hcheck⟩
  have hsound : ∀ s, ofEnvironment env = .ok s → env.Readable ∧ env.Coherent := by
    intro s h
    obtain ⟨hs, hcheck⟩ := hspelled s h
    exact ⟨readable_of_spelledBy hs hcheck, coherent_of_spelledBy hs hcheck⟩
  have hfails : FailsFor (SettingsError.Blames env) (ofEnvironment env) := by
    refine read_failsFor.bind fun s hread => ?_
    exact (check_failsFor (spelledBy_of_read hread)).bind fun _ _ => .ok s
  refine ⟨⟨?_, ?_⟩, ?_, ?_⟩
  · rintro ⟨s, h⟩
    exact hsound s h
  · -- an error would blame something, and there is nothing to blame
    intro hfine
    cases h : ofEnvironment env with
    | ok s => exact ⟨s, rfl⟩
    | error e => exact absurd hfine (hfails e h).not_sound
  · intro s h
    obtain ⟨hs, -⟩ := hspelled s h
    refine ⟨?_, ?_, ?_, hs.limits, hs.screeningSettings, hs.admission⟩
    · intro t
      constructor
      · intro ht
        exact ht.unique hs
      · rintro rfl
        exact hs
    · intro p hp
      rcases List.mem_append.mp hp with hp | hp
      · exact forall_paths_of_gives hs.freePaths (by decide) p hp
      · exact forall_paths_of_gives hs.unscreenedPaths (by decide) p hp
    · refine forall_origins_of_gives hs.allowedOrigins ?_
      intro o ho
      obtain rfl := List.mem_singleton.mp ho
      refine ⟨by decide, .of_forall ?_⟩
      intro c hc
      obtain rfl := List.mem_singleton.mp hc
      decide
  · intro hfault
    cases h : ofEnvironment env with
    | ok s => exact absurd (hsound s h) hfault
    | error e => exact ⟨e, rfl, hfails e h⟩

/-- Values that are spelled in unusual ways. -/
def unusualEnvironment : Environment :=
  ⟨[("APP_ENV", "Production"), ("RATE_LIMIT_REQUESTS", " +0250"), ("RATE_LIMIT_USE_REDIS", "OFF "),
    ("RATE_LIMIT_SKIP_PATHS", "/a, b ,, /c"), ("CORS_ALLOWED_ORIGINS", " , https://a.example ")],
    by decide⟩

/-- A burst that lasts longer than the period that is set beside it. -/
def reversedEnvironment : Environment :=
  ⟨[("RATE_LIMIT_PERIOD_SECS", "30"), ("RATE_LIMIT_BURST_PERIOD_SECS", "31")], by decide⟩

/-- An environment with unusual spellings, and one that does not fit together. -/
theorem ofEnvironment_exact_instances :
    (∃ s, ofEnvironment unusualEnvironment = .ok s ∧ s.SpelledBy unusualEnvironment ∧
      s.screeningSettings.strict = true ∧ s.limits.sustained = ⟨250, 60⟩ ∧ s.useSharedStore = false ∧
      s.admission.freePaths = ["/a", "/c"] ∧ s.allowedOrigins = ["https://a.example"]) ∧
    ∃ e, ofEnvironment reversedEnvironment = .error e ∧ e.Blames reversedEnvironment := by
  constructor
  · have hvalues : (ofEnvironment unusualEnvironment).toOption.map
        (fun s => (s.screeningSettings.strict, s.limits.sustained, s.useSharedStore,
          s.admission.freePaths, s.allowedOrigins))
        = some (true, ⟨250, 60⟩, false, ["/a", "/c"], ["https://a.example"]) := by decide +kernel
    cases h : ofEnvironment unusualEnvironment with
    | error e => rw [h] at hvalues; cases hvalues
    | ok s =>
      rw [h] at hvalues
      injection hvalues with hvalues
      simp only [Prod.mk.injEq] at hvalues
      exact ⟨s, rfl, (((ofEnvironment_exact unusualEnvironment).2.1 s h).1 s).mpr rfl, hvalues⟩
  · apply (ofEnvironment_exact reversedEnvironment).2.2
    intro hfine
    obtain ⟨s, hs⟩ := (ofEnvironment_exact reversedEnvironment).1.mpr hfine
    have herror : (ofEnvironment reversedEnvironment).toOption = none := by decide +kernel
    rw [hs] at herror
    cases herror

/-- Nothing is set. -/
example : ofEnvironment Table.empty = .ok { standard with useSharedStore := true } := by rfl

end Settings

end AdmissionGate
