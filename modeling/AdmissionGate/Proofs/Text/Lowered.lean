import AdmissionGate.Proofs.Text.Case

/-!
# What is lowered to ASCII

A text that is ASCII when it is lowered was ASCII before, but for signs of the kelvin, which become
letters of ASCII (`lowersToAscii_of_lowerFrom`). No other character above ASCII gets lost: each leaves
one above ASCII behind (`exists_mem_lowerImage`). On the texts that remain, lowering is a map of
characters, whatever the context (`lowerFrom_eq_map`).
-/

namespace AdmissionGate.Text

/-- The sign of the kelvin, which has the small letter of ASCII for its lower case. -/
def kelvinSign : Char := Char.ofNat 0x212A

/-- The characters whose lower case is in ASCII: those of ASCII, and the Kelvin sign. -/
def LowersToAscii (c : Char) : Prop := c.toNat < 0x80 ∨ c = kelvinSign

instance (c : Char) : Decidable (LowersToAscii c) := inferInstanceAs (Decidable (_ ∨ _))

/-- The lower case of a character that is lowered to ASCII. -/
def lowered (c : Char) : Char := if c = kelvinSign then 'k' else c.toLower

/-! ## One character -/

/-- A run that leads to code points above ASCII, and not into the gap of the surrogates. -/
def CaseRun.StaysAbove (r : CaseRun) : Prop :=
  0x80 ≤ r.first + r.shift ∧
    (r.last + r.shift < 0xD800 ∨ (0xDFFF < r.first + r.shift ∧ r.last + r.shift < 0x110000))

instance (r : CaseRun) : Decidable r.StaysAbove := inferInstanceAs (Decidable (_ ∧ _))

/-- Every run of the table but that of the Kelvin sign leads beyond ASCII only. -/
theorem staysAbove_of_mem_lowerRuns :
    ∀ r ∈ lowerRuns, r.StaysAbove ∨ (r.first = 0x212A ∧ r.last = 0x212A) := by
  decide +kernel

theorem toNat_ofNat {n : Nat} (h : n.isValidChar) : (Char.ofNat n).toNat = n := by
  rw [Char.ofNat, dif_pos h]
  rfl

/-- What the table makes of any character but the Kelvin sign lies beyond ASCII. -/
theorem le_toNat_of_shiftBy {n m : Nat} (hn : n ≠ 0x212A) (h : shiftBy lowerRuns n = some m) :
    0x80 ≤ (Char.ofNat m).toNat := by
  obtain ⟨r, hr, rfl⟩ := Option.map_eq_some_iff.mp h
  have hin := List.find?_some hr
  simp only [Bool.and_eq_true, decide_eq_true_eq] at hin
  rcases staysAbove_of_mem_lowerRuns r (List.mem_of_find?_eq_some hr) with ⟨hlow, hvalid⟩ | hkelvin
  · rw [toNat_ofNat (hvalid.imp (by omega) (by omega))]
    omega
  · omega

/-- Any other character leaves one beyond ASCII in its lower case. -/
theorem exists_mem_lowerImage {c : Char} (h : ¬ LowersToAscii c) :
    ∃ d ∈ lowerImage c, 0x80 ≤ d.toNat := by
  obtain ⟨habove, hkelvin⟩ := not_or.mp h
  rw [lowerImage, if_neg habove, imageBy]
  split
  · next codes hcodes =>
    -- the one longer image starts with a letter of ASCII, but the mark on the letter is none
    obtain ⟨before, behind, htable, -⟩ := List.lookup_eq_some_iff.mp hcodes
    have hmem : (c.toNat, codes) ∈ lowerExpansions := by simp [htable]
    obtain ⟨-, rfl⟩ := Prod.mk.inj (List.mem_singleton.mp hmem)
    exact ⟨Char.ofNat 0x307, by simp, by decide⟩
  · refine ⟨_, List.mem_singleton_self _, ?_⟩
    have hcode : c.toNat ≠ 0x212A := fun heq => hkelvin (Char.toNat_inj.mp heq)
    cases hshift : shiftBy lowerRuns c.toNat with
    | none => exact Nat.le_of_not_lt habove
    | some m => exact le_toNat_of_shiftBy hcode hshift

/-- Such a character has a single one as its lower case. -/
theorem lowerImage_of_lowersToAscii {c : Char} (h : LowersToAscii c) : lowerImage c = [lowered c] := by
  rcases h with h | rfl
  · have hne : c ≠ kelvinSign := by
      rintro rfl
      exact absurd h (by decide)
    rw [lowerImage, if_pos h, lowered, if_neg hne]
  · decide +kernel

/-- The lower case of a character is in ASCII for no others. -/
theorem lowersToAscii_of_lowered {c : Char} (h : (lowered c).toNat < 0x80) : LowersToAscii c := by
  by_cases hkelvin : c = kelvinSign
  · exact .inr hkelvin
  · rw [lowered, if_neg hkelvin] at h
    exact .inl (toNat_lt_of_toLower h)

/-! ## Texts -/

/-- A text of such characters is lowered character by character, wherever it stands. -/
theorem lowerFrom_eq_map {cs : List Char} (h : ∀ c ∈ cs, LowersToAscii c) (before : List Char) :
    lowerFrom before cs = cs.map lowered := by
  induction cs generalizing before with
  | nil => rfl
  | cons c rest ih =>
    obtain ⟨hc, hrest⟩ := List.forall_mem_cons.mp h
    have hsigma : c ≠ capitalSigma := by
      rintro rfl
      exact absurd hc (by decide)
    rw [lowerFrom, if_neg fun hcontext => hsigma hcontext.1, lowerImage_of_lowersToAscii hc, ih hrest]
    rfl

/-- A text whose lower case is in ASCII has such characters only. -/
theorem lowersToAscii_of_lowerFrom {cs before : List Char} (h : IsAscii (lowerFrom before cs)) :
    ∀ c ∈ cs, LowersToAscii c := by
  induction cs generalizing before with
  | nil => exact nofun
  | cons c rest ih =>
    rw [lowerFrom] at h
    split at h
    · exact absurd (h finalSigma (List.mem_cons_self ..)) (by decide)
    · obtain ⟨himage, hrest⟩ := List.forall_mem_append.mp h
      refine List.forall_mem_cons.mpr ⟨?_, ih hrest⟩
      refine Classical.byContradiction fun hnot => ?_
      obtain ⟨d, hd, habove⟩ := exists_mem_lowerImage hnot
      exact absurd (himage d hd) (Nat.not_lt.mpr habove)

end AdmissionGate.Text
