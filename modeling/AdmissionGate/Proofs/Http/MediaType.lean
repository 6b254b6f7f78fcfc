import AdmissionGate.Http.MediaType
import AdmissionGate.Proofs.Text.Split
import AdmissionGate.Screening.Settings
import Mathlib.Data.List.TakeDrop

/-!
# Content types of JSON

Two parts of the service read content types. The gate looks for a name anywhere in the text, and an
endpoint reads the text as a media type. What is read is what is written, up to the case of letters
(`lowerAscii_of_read?`), so that the gate sees whatever is read as `application/json`; a type that only
ends in `+json` need not have this name in it (`ofContentType?_of_isJson`).
-/

namespace AdmissionGate.MediaType

open Text (lowerAscii hasText)

/-! ## Spelling -/

/-- A suffix and the plus sign before it. -/
def suffixed (suffix : Option (List Char)) : List Char := (suffix.map ('+' :: ·)).getD []

/-- A subtype is put together again from what stands before its suffix and the suffix. -/
theorem append_splitSuffix (cs : List Char) :
    (splitSuffix cs).1 ++ suffixed (splitSuffix cs).2 = cs := by
  cases cs with
  | nil => rfl
  | cons c rest =>
    rw [splitSuffix]
    generalize hback : rest.reverse.takeWhile (· != '+') = back
    split
    · next hshort =>
      -- what is left of the text, read backwards, begins with the plus sign
      have hwhole := rest.reverse.takeWhile_append_dropWhile (p := (· != '+'))
      have hplus := rest.reverse.head?_dropWhile_not (· != '+')
      rw [hback] at hwhole
      generalize rest.reverse.dropWhile (· != '+') = front at hwhole hplus
      cases front with
      | nil =>
        have hlength := congrArg List.length hwhole
        rw [List.append_nil, List.length_reverse] at hlength
        rw [List.length_reverse] at hshort
        omega
      | cons x front =>
        obtain rfl : x = '+' := by simpa using hplus
        have hrest : rest = front.reverse ++ '+' :: back.reverse := by
          rw [← List.reverse_inj, ← hwhole]
          simp
        have hcount : rest.length - back.reverse.length - 1 = front.reverse.length := by
          rw [hrest, List.length_append, List.length_cons]
          omega
        rw [hcount, suffixed, hrest]
        simp
    · exact List.append_nil _

/-- A media type as it is written, without parameters. -/
def spelling (m : MediaType) : List Char :=
  m.type.toList ++ '/' :: (m.subtype.toList ++ suffixed (m.suffix.map String.toList))

theorem spelling_ofList (type subtype : List Char) (suffix : Option (List Char)) :
    spelling ⟨String.ofList type, String.ofList subtype, suffix.map String.ofList⟩
      = type ++ '/' :: (subtype ++ suffixed suffix) := by
  simp [spelling, Option.map_map, Function.comp_def]

/-- What is read stands at the head of the text. -/
theorem lowerAscii_of_read? {s : String} {m : MediaType} (h : read? s = some m) :
    ∃ params, (lowerAscii s).toList = m.spelling ++ params := by
  rw [read?, List.span_eq_takeWhile_dropWhile] at h
  obtain ⟨-, -, h⟩ := Option.bind_eq_some_iff.mp h
  split at h
  · next rest hrest =>
    rw [List.span_eq_takeWhile_dropWhile] at h
    obtain ⟨-, -, h⟩ := Option.bind_eq_some_iff.mp h
    obtain ⟨-, -, h⟩ := Option.bind_eq_some_iff.mp h
    have hparts := append_splitSuffix (rest.takeWhile isTokenChar)
    generalize splitSuffix (rest.takeWhile isTokenChar) = parts at h hparts
    obtain rfl := Option.some.inj h
    refine ⟨rest.dropWhile isTokenChar, ?_⟩
    calc (lowerAscii s).toList
        = (lowerAscii s).toList.takeWhile isTokenChar ++ '/' :: rest := by
          rw [← hrest, List.takeWhile_append_dropWhile]
      _ = (lowerAscii s).toList.takeWhile isTokenChar
            ++ '/' :: (rest.takeWhile isTokenChar ++ rest.dropWhile isTokenChar) := by
          rw [List.takeWhile_append_dropWhile]
      _ = _ := by
          rw [spelling_ofList, hparts, List.append_assoc, List.cons_append]
  · cases h

/-! ## What the gate sees -/

/-- A media type that is JSON is looked into as JSON, unless only its suffix says so. -/
theorem ofContentType?_of_isJson {s : String} {m : MediaType} (h : read? s = some m)
    (hjson : m.isJson = true) : BodyKind.ofContentType? s = some .json ∨
      m.type = "application" ∧ m.suffix = some "json" ∧
        hasText "application/json" (lowerAscii s) = false := by
  obtain ⟨params, hspelled⟩ := lowerAscii_of_read? h
  rw [isJson, Bool.and_eq_true, Bool.or_eq_true, beq_iff_eq, beq_iff_eq, beq_iff_eq] at hjson
  obtain ⟨htype, hjson⟩ := hjson
  cases hseen : hasText "application/json" (lowerAscii s) with
  | true =>
    rw [BodyKind.ofContentType?, hseen]
    exact .inl rfl
  | false =>
    rcases hjson with hsubtype | hsuffix
    · -- the name stands at the head of the text
      have hhead : hasText "application/json" (lowerAscii s) = true := by
        have hname : "application/json".toList = "application".toList ++ '/' :: "json".toList := rfl
        have happend : (lowerAscii s).toList = [] ++ "application/json".toList
            ++ (suffixed (m.suffix.map String.toList) ++ params) := by
          rw [hspelled, spelling, htype, hsubtype, hname]
          simp
        rw [hasText, happend]
        exact Text.occursIn_append _ _ _
      rw [hseen] at hhead
      cases hhead
    · exact .inr ⟨htype, hsuffix, rfl⟩

end AdmissionGate.MediaType
