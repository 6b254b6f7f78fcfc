import AdmissionGate.Proofs.Json.Outline
import AdmissionGate.Proofs.Screening.Modes
import Mathlib

/-!
# Strings inside of JSON

Strings in the place of values are free text: they are looked through, but nothing is refused for what
they say. So the verdict on a body is that on its outline, but for the findings inside of its strings
(`json_outline`), and two bodies whose tokens differ in such strings only fare the same
(`body_outline`), whatever brackets, quotes and backslashes the strings hold.
-/

namespace AdmissionGate

namespace Verdict

/-- A verdict without what was found inside of strings. -/
def outsideStrings (v : Verdict) : Verdict :=
  ⟨v.findings.filter fun f => f.place ≠ .jsonValue, v.refusal?⟩

/-- The findings outside of strings are those of each check in turn. -/
theorem outsideStrings_andThen (v w : Verdict) :
    (v.andThen w).outsideStrings = v.outsideStrings.andThen w.outsideStrings := by
  obtain ⟨findings, refusal?⟩ := v
  cases refusal? with
  | some e => rfl
  | none => simp only [andThen, outsideStrings, List.filter_append]

end Verdict

namespace Screening

open Json Verdict

variable (s : ScreeningSettings)

/-- A string in the place of a value is not looked at outside of strings. -/
theorem outsideStrings_jsonString (text : String) : (jsonString text).outsideStrings = pass := by
  rw [jsonString]
  cases injectionCategory text with
  | none => rfl
  | some category => rfl

/-- Depth is looked at in the same way, whatever is inside of a value. -/
theorem outsideStrings_of_depth {depth : Nat} {v w : Verdict}
    (h : v.outsideStrings = w.outsideStrings) :
    (if s.maxJsonDepth < depth then refuse .bodyTooDeep else v).outsideStrings
      = (if s.maxJsonDepth < depth then refuse .bodyTooDeep else w).outsideStrings := by
  split
  · rfl
  · exact h

mutual

/-- **The verdict on a value is that on its outline**, but for the findings inside of strings. -/
theorem json_outline (depth : Nat) : ∀ v : Json,
    (json s depth v.outline).outsideStrings = (json s depth v).outsideStrings
  | .null => rfl
  | .bool _ => rfl
  | .number _ => rfl
  | .string text =>
    outsideStrings_of_depth s
      ((outsideStrings_jsonString "").trans (outsideStrings_jsonString text).symm)
  | .array items => outsideStrings_of_depth s (jsonItems_outline (depth + 1) items)
  | .object members => outsideStrings_of_depth s (jsonMembers_outline (depth + 1) members)

theorem jsonItems_outline (depth : Nat) : ∀ items : List Json,
    (jsonItems s depth (outlineItems items)).outsideStrings
      = (jsonItems s depth items).outsideStrings
  | [] => rfl
  | v :: rest => by
    rw [outlineItems, jsonItems, jsonItems, outsideStrings_andThen, outsideStrings_andThen,
      json_outline depth v, jsonItems_outline depth rest]

theorem jsonMembers_outline (depth : Nat) : ∀ members : List (String × Json),
    (jsonMembers s depth (outlineMembers members)).outsideStrings
      = (jsonMembers s depth members).outsideStrings
  | [] => rfl
  | (name, v) :: rest => by
    simp only [outlineMembers, jsonMembers, outsideStrings_andThen]
    rw [json_outline depth v, jsonMembers_outline depth rest]

end

/-! ## Bodies -/

variable {bs bs' : Text.Bytes} {ts ts' : List Token}

/-- The verdict on a text that can be cut into tokens is told by their outline. -/
theorem jsonBody_outline (hts : Token.stream? .full bs = some ts) :
    (jsonBody s bs).outsideStrings
      = (if Token.exceedsFrom (s.maxJsonDepth + 1) 0 (Token.outline ts) then refuse .bodyTooDeep
        else match ofTokens? (Option.some maxOpen) (Token.outline ts) with
          | none => refuse (.bodyMalformed "Invalid JSON in request body")
          | some v => json s 0 v.settle).outsideStrings := by
  have hnesting : exceedsNesting bs (s.maxJsonDepth + 1)
      = Token.exceedsFrom (s.maxJsonDepth + 1) 0 (Token.outline ts) :=
    (exceedsNestingFrom_stream? hts _ 0).trans (exceedsFrom_outline _ 0 ts).symm
  have hparse : parse? bs = ofTokens? (Option.some maxOpen) ts := by rw [parse?, hts, Option.bind_some]
  rw [jsonBody, hnesting, hparse, ofTokens?_outline]
  split
  · rfl
  · cases ofTokens? (Option.some maxOpen) ts with
    | none => rfl
    | some v =>
      show (json s 0 v.settle).outsideStrings = (json s 0 v.outline.settle).outsideStrings
      rw [settle_outline, json_outline]

/-- **What strings say never decides a body.** If the tokens of two bodies are the same but for the
contents of strings in the place of values, the bodies have the same result in either mode, and what is
found in them is the same but for what is found in such strings. -/
theorem body_outline (r : Request) (hts : Token.stream? .full bs = some ts)
    (hts' : Token.stream? .full bs' = some ts') (hsame : Token.outline ts = Token.outline ts')
    (hsize : bs.length ≤ s.maxBodyBytes) (hsize' : bs'.length ≤ s.maxBodyBytes) :
    let v := body s { r with body := bs }
    let v' := body s { r with body := bs' }
    v.refusal? = v'.refusal? ∧
      v.findings.filter (fun f => f.place ≠ .jsonValue)
        = v'.findings.filter fun f => f.place ≠ .jsonValue := by
  intro v v'
  suffices hverdict : v.outsideStrings = v'.outsideStrings from (Verdict.mk.inj hverdict).symm
  show (body s _).outsideStrings = (body s _).outsideStrings
  simp only [body, if_neg (Nat.not_lt.mpr hsize), if_neg (Nat.not_lt.mpr hsize')]
  -- bodies of other kinds are not looked into
  cases BodyKind.of? r.method r.headers with
  | none => rfl
  | some kind =>
    cases kind with
    | form => rfl
    | json => exact (jsonBody_outline s hts).trans (hsame ▸ (jsonBody_outline s hts').symm)

/-- A body with brackets, quotes and a signature in its strings. -/
def crowdedBody : Text.Bytes :=
  Text.encode "\x7b\"a\":\"]\x7d\\\" [[[\",\"b\":[\"\\\\\",\"1; DROP TABLE t\",true]\x7d"

/-- The same body with other strings, and other blanks. -/
def plainBody : Text.Bytes :=
  Text.encode "\x7b \"a\": \"x\", \"b\": [\"\", \"\\u005b\", true] \x7d"

/-- The tokens of a body with three strings in it. -/
def bodyTokens (first second third : String) : List Token :=
  [.openObject, .string "a", .colon, .string first, .comma, .string "b", .colon, .openArray,
    .string second, .comma, .string third, .comma, .bool true, .closeArray, .closeObject]

/-- Two bodies that differ in their strings only, of which one holds signatures. -/
theorem body_outline_crowded :
    let r := { Request.ofPathAndQuery .post "/items" with
      headers := Headers.setText Table.empty "content-type" "application/json" }
    let v := body .standard { r with body := crowdedBody }
    let v' := body .standard { r with body := plainBody }
    crowdedBody.length ≤ ScreeningSettings.standard.maxBodyBytes ∧
      Token.stream? .full crowdedBody = some (bodyTokens "]\x7d\" [[[" "\\" "1; DROP TABLE t") ∧
        Token.stream? .full plainBody = some (bodyTokens "x" "" "[") ∧
          v.refusal? = v'.refusal? ∧
            v.findings.filter (fun f => f.place ≠ .jsonValue)
              = v'.findings.filter fun f => f.place ≠ .jsonValue := by
  intro r v v'
  have hsize : crowdedBody.length ≤ ScreeningSettings.standard.maxBodyBytes := by decide +kernel
  have hts : Token.stream? .full crowdedBody
      = Option.some (bodyTokens "]\x7d\" [[[" "\\" "1; DROP TABLE t") := by cbv
  have hts' : Token.stream? .full plainBody = Option.some (bodyTokens "x" "" "[") := by cbv
  have hsame : Token.outline (bodyTokens "]\x7d\" [[[" "\\" "1; DROP TABLE t")
      = Token.outline (bodyTokens "x" "" "[") := rfl
  have hsize' : plainBody.length ≤ ScreeningSettings.standard.maxBodyBytes := by decide +kernel
  exact ⟨hsize, hts, hts', body_outline .standard r hts hts' hsame hsize hsize'⟩

end Screening

end AdmissionGate
