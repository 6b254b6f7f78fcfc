import AdmissionGate.Proofs.Text.Split
import AdmissionGate.Quota.Tier

/-!
# Keys of windows

A key spells out its tier, so it tells which window it stands for (`windowOf`). It also spells out the
identifier, with colons between the parts and nothing to tell these from colons in the parts. A reader
still knows where each part ends, since the tier and the dimension have no colons: keys are told apart
as long as no method has one (`windowKey_inj`). A method is a token, so the keys of requests are told
apart (`windowKey_eq_iff`), whatever stands in their headers and paths.
-/

namespace AdmissionGate

/-- The window of a key, which begins with the name of its tier. -/
def windowOf (limits : Limits) (key : String) : UInt64 :=
  if key.toList.head? = some 'b' then limits.burst.window else limits.sustained.window

/-- A key is the name of the tier, a colon and the identifier. -/
theorem toList_windowKey (t : Tier) (i : Identifier) :
    (windowKey t i).toList = t.name.toList ++ ':' :: i.render.toList := by
  rw [windowKey, String.toList_append, String.toList_append, List.append_assoc]
  rfl

@[simp] theorem windowOf_windowKey (limits : Limits) (t : Tier) (i : Identifier) :
    windowOf limits (windowKey t i) = (limits.tier t).window := by
  rw [windowOf, toList_windowKey]
  cases t <;> rfl

/-- An identifier without a colon in the method of an endpoint. -/
def Identifier.HasPlainMethod : Identifier → Prop
  | .endpoint method _ => ':' ∉ method.toList
  | _ => True

/-! ## Parts of keys -/

/-- The first colon of a text tells what is before it from what is behind it. -/
theorem append_colon_inj {xs ys us vs : List Char} (hx : ':' ∉ xs) (hy : ':' ∉ ys)
    (h : xs ++ ':' :: us = ys ++ ':' :: vs) : xs = ys ∧ us = vs := by
  have hsplit := congrArg (Text.splitFirst ':') h
  rw [Text.splitFirst_append_cons hx, Text.splitFirst_append_cons hy] at hsplit
  obtain ⟨hbefore, hbehind⟩ := Prod.mk.inj hsplit
  exact ⟨hbefore, Option.some.inj hbehind⟩

theorem Tier.colon_notMem_name (t : Tier) : ':' ∉ t.name.toList := by
  cases t <;> decide

/-- Tiers have different names. -/
theorem Tier.name_inj {t u : Tier} (h : t.name = u.name) : t = u := by
  revert h
  cases t <;> cases u <;> decide

namespace Identifier

variable {i j : Identifier}

/-- What stands behind the dimension. -/
def parts : Identifier → List Char
  | .ip address => address.toList
  | .user hash => hash.toList
  | .endpoint method path => method.toList ++ ':' :: path.toList

/-- An identifier is written as its dimension, a colon and its parts. -/
theorem toList_render (i : Identifier) : i.render.toList = i.dimension.toList ++ ':' :: i.parts := by
  cases i <;> simp [render, dimension, parts]

/-- No dimension has a colon in its name. -/
theorem colon_notMem_dimension (i : Identifier) : ':' ∉ i.dimension.toList := by
  cases i <;> (rw [dimension]; decide)

/-- An address and a hash may hold any text, since nothing stands behind them. -/
theorem parts_inj (hi : i.HasPlainMethod) (hj : j.HasPlainMethod)
    (hdimension : i.dimension = j.dimension) (h : i.parts = j.parts) : i = j := by
  cases i with
  | ip a =>
    cases j with
    | ip b => exact congrArg ip (String.toList_inj.mp h)
    | user b => exact absurd hdimension (by simp [dimension])
    | endpoint n q => exact absurd hdimension (by simp [dimension])
  | user a =>
    cases j with
    | ip b => exact absurd hdimension (by simp [dimension])
    | user b => exact congrArg user (String.toList_inj.mp h)
    | endpoint n q => exact absurd hdimension (by simp [dimension])
  | endpoint m p =>
    cases j with
    | ip b => exact absurd hdimension (by simp [dimension])
    | user b => exact absurd hdimension (by simp [dimension])
    | endpoint n q =>
      obtain ⟨hmethod, hpath⟩ := append_colon_inj hi hj h
      rw [String.toList_inj.mp hmethod, String.toList_inj.mp hpath]

end Identifier

/-! ## Keys -/

/-- Rendered identifiers without colons in methods are told apart. -/
theorem render_inj {i j : Identifier} (hi : i.HasPlainMethod) (hj : j.HasPlainMethod)
    (h : i.render = j.render) : i = j := by
  have hlist := congrArg String.toList h
  rw [i.toList_render, j.toList_render] at hlist
  obtain ⟨hdimension, hparts⟩ :=
    append_colon_inj i.colon_notMem_dimension j.colon_notMem_dimension hlist
  exact Identifier.parts_inj hi hj (String.toList_inj.mp hdimension) hparts

/-- Keys are told apart by tier and identifier. -/
theorem windowKey_inj {t u : Tier} {i j : Identifier} (hi : i.HasPlainMethod)
    (hj : j.HasPlainMethod) (h : windowKey t i = windowKey u j) : t = u ∧ i = j := by
  have hlist := congrArg String.toList h
  rw [toList_windowKey, toList_windowKey] at hlist
  obtain ⟨hname, hrender⟩ := append_colon_inj t.colon_notMem_name u.colon_notMem_name hlist
  exact ⟨Tier.name_inj (String.toList_inj.mp hname), render_inj hi hj (String.toList_inj.mp hrender)⟩

/-! ## Requests -/

theorem Method.colon_notMem (m : Method) : ':' ∉ m.name.toList := by
  intro hmem
  have hall := (Bool.and_eq_true_iff.mp m.isToken).2
  exact absurd (List.all_eq_true.mp hall ':' hmem) (by decide)

/-- Whatever a request says about itself, there is no colon in its method. -/
theorem Request.hasPlainMethod {r : Request} {s : IdentitySettings} {i : Identifier}
    (h : i ∈ r.identifiers s) : i.HasPlainMethod := by
  rw [Request.identifiers, List.mem_append, List.mem_append] at h
  rcases h with (haddress | hbearer) | hendpoint
  · split at haddress
    · obtain rfl := List.mem_singleton.mp haddress
      trivial
    · cases haddress
  · split at hbearer
    · obtain ⟨hash, -, rfl⟩ := List.mem_map.mp hbearer
      trivial
    · cases hbearer
  · split at hendpoint
    · obtain rfl := List.mem_singleton.mp hendpoint
      exact r.method.colon_notMem
    · cases hendpoint

/-- **No two windows share a key.** Identifiers that requests count against have the same key only if
they are the same and so are the tiers, whatever text the headers and the paths of the requests hold. -/
theorem windowKey_eq_iff {r r' : Request} {s s' : IdentitySettings} {i j : Identifier}
    (hi : i ∈ r.identifiers s) (hj : j ∈ r'.identifiers s') (t u : Tier) :
    windowKey t i = windowKey u j ↔ t = u ∧ i = j := by
  constructor
  · exact windowKey_inj (Request.hasPlainMethod hi) (Request.hasPlainMethod hj)
  · rintro ⟨rfl, rfl⟩
    rfl

/-- A request with an address that is made up to be read as an endpoint. -/
def disguised : Request :=
  { Request.ofPathAndQuery .get "/a:ip:b" with
    headers := Headers.setText Table.empty "x-forwarded-for" " endpoint:GET:/a:ip:b , 10.0.0.1" }

/-- A client whose address is made to look like an endpoint, under a key of its own. -/
theorem windowKey_eq_iff_disguised :
    (Identifier.ip "endpoint:GET:/a:ip:b" ∈ disguised.identifiers ⟨true, true, true⟩ ∧
        Identifier.endpoint "GET" "/a:ip:b" ∈ disguised.identifiers ⟨true, true, true⟩) ∧
      windowKey .burst (.ip "endpoint:GET:/a:ip:b") ≠ windowKey .burst (.endpoint "GET" "/a:ip:b") := by
  have hmem : Identifier.ip "endpoint:GET:/a:ip:b" ∈ disguised.identifiers ⟨true, true, true⟩ ∧
      Identifier.endpoint "GET" "/a:ip:b" ∈ disguised.identifiers ⟨true, true, true⟩ := by
    decide +kernel
  refine ⟨hmem, fun heq => ?_⟩
  obtain ⟨-, hsame⟩ := (windowKey_eq_iff hmem.1 hmem.2 .burst .burst).mp heq
  cases hsame

end AdmissionGate
