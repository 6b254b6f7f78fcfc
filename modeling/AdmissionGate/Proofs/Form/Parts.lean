import AdmissionGate.Proofs.Form.Spelling
import AdmissionGate.Proofs.Pattern.Stretch

/-!
# A form and its parts

A form can be decoded as a whole, or cut into keys and values that are decoded one by one. The signs
at which it is cut stay as they are in the former (`read_cut`), so that the decoded whole is made of
the decoded parts with these signs between them. A stretch of the whole need not lie within one of
the parts, but it does if it holds none of the signs (`within_of_uncut`).
-/

namespace AdmissionGate.Form

open Text (Bytes LeadsPiece FollowsPiece)

/-! ## Keys and values -/

/-- A key or a value of a form, with what stands before it and what stands behind it. -/
inductive IsPart : (left part right : Bytes) → Prop where
  | key {left key right : Bytes} (hleft : LeadsPiece 0x26 left) (hand : 0x26 ∉ key)
      (hequals : 0x3D ∉ key) (hright : FollowsPiece 0x26 right ∨ ∃ behind, right = 0x3D :: behind) :
      IsPart left key right
  | value {left key value right : Bytes} (hleft : LeadsPiece 0x26 left) (hand : 0x26 ∉ key)
      (hequals : 0x3D ∉ key) (hvalue : 0x26 ∉ value) (hright : FollowsPiece 0x26 right) :
      IsPart (left ++ key ++ [0x3D]) value right

/-- The characters that form-encoded octets stand for. -/
def read (bs : Bytes) : List Char := (component bs).toList

/-- A stretch of a decoded form lies within one of its keys or values. -/
def Within (bs : Bytes) (pre mid post : List Char) : Prop :=
  ∃ left part right before behind, bs = left ++ part ++ right ∧ IsPart left part right ∧
    pre = read left ++ before ∧ read part = before ++ mid ++ behind ∧ post = behind ++ read right

/-- The octets of the signs at which a form is cut. -/
def IsCut (b : UInt8) : Prop := b = 0x26 ∨ b = 0x3D

/-- Nothing, or octets that end with a sign at which a form is cut. -/
def Leads (left : Bytes) : Prop := left = [] ∨ ∃ before b, IsCut b ∧ left = before ++ [b]

/-- Nothing, or octets that begin with a sign at which a form is cut. -/
def Follows (right : Bytes) : Prop := right = [] ∨ ∃ b behind, IsCut b ∧ right = b :: behind

/-- What leads up to a pair leads up to a part. -/
theorem leads_of_leadsPiece {left : Bytes} (h : LeadsPiece 0x26 left) : Leads left :=
  h.imp_right fun ⟨before, hleft⟩ => ⟨before, 0x26, .inl rfl, hleft⟩

theorem follows_of_followsPiece {right : Bytes} (h : FollowsPiece 0x26 right) : Follows right :=
  h.imp_right fun ⟨behind, hright⟩ => ⟨0x26, behind, .inl rfl, hright⟩

/-- A part starts the form or comes after a sign at which it is cut. -/
theorem IsPart.leads {left part right : Bytes} (h : IsPart left part right) : Leads left := by
  cases h with
  | key hleft => exact leads_of_leadsPiece hleft
  | @value left key => exact .inr ⟨left ++ key, 0x3D, .inr rfl, rfl⟩

/-- A part ends the form or comes before a sign at which it is cut. -/
theorem IsPart.follows {left part right : Bytes} (h : IsPart left part right) : Follows right := by
  cases h with
  | key _ _ _ hright =>
    rcases hright with hright | ⟨behind, rfl⟩
    · exact follows_of_followsPiece hright
    · exact .inr ⟨0x3D, behind, .inr rfl, rfl⟩
  | value _ _ _ _ hright => exact follows_of_followsPiece hright

/-! ## Parts and pairs -/

/-- Every piece that is not empty is read as a pair. -/
theorem mem_pairs {bs piece : Bytes} (hpiece : piece ∈ Text.splitAll 0x26 bs) (hne : piece ≠ []) :
    pair piece ∈ pairs bs :=
  List.mem_map_of_mem (List.mem_filter.mpr ⟨hpiece, by simpa using hne⟩)

/-- The first equals sign parts a key from its value. -/
theorem pair_cut {key : Bytes} (h : 0x3D ∉ key) (value : Bytes) :
    pair (key ++ 0x3D :: value) = (component key, component value) := by
  rw [pair, Text.splitFirst_append_cons h]
  rfl

/-- A piece without an equals sign is a key with an empty value. -/
theorem pair_uncut {piece : Bytes} (h : 0x3D ∉ piece) : pair piece = (component piece, "") := by
  rw [pair, Text.splitFirst_of_notMem h]
  rfl

theorem notMem_cut {key value : Bytes} (hkey : 0x26 ∉ key) (hvalue : 0x26 ∉ value) :
    (0x26 : UInt8) ∉ key ++ 0x3D :: value := by
  simp [hkey, hvalue]

/-- A part that is not empty is one of the texts that the form is read as. -/
theorem IsPart.exists_mem_pairs {left part right : Bytes} (h : IsPart left part right)
    (hne : part ≠ []) :
    ∃ p ∈ pairs (left ++ part ++ right), component part = p.1 ∨ component part = p.2 := by
  cases h with
  | key hleft hand hequals hright =>
    rcases hright with hright | ⟨behind, rfl⟩
    · have hpiece := Text.mem_splitAll hand hleft hright
      refine ⟨pair part, mem_pairs hpiece hne, .inl ?_⟩
      rw [pair_uncut hequals]
    · -- the key of a piece that goes on with a value
      obtain ⟨value, rest, hbehind, hvalue, hrest⟩ := Text.exists_firstPiece 0x26 behind
      have hpiece := Text.mem_splitAll (notMem_cut hand hvalue) hleft hrest
      refine ⟨pair (part ++ 0x3D :: value), ?_, .inl ?_⟩
      · have hmem := mem_pairs hpiece (by simp)
        simpa [hbehind] using hmem
      · rw [pair_cut hequals]
  | @value left key _ _ hleft hand hequals hvalue hright =>
    have hpiece := Text.mem_splitAll (notMem_cut hand hvalue) hleft hright
    refine ⟨pair (key ++ 0x3D :: part), ?_, .inr ?_⟩
    · have hmem := mem_pairs hpiece (by simp)
      simpa using hmem
    · rw [pair_cut hequals]

/-- The texts that a form is read as are its parts, but for the values of pieces that have none. -/
theorem exists_isPart_of_mem_pairs {bs : Bytes} {p : String × String} (h : p ∈ pairs bs) {t : String}
    (ht : t = p.1 ∨ t = p.2) (hne : t ≠ "") :
    ∃ left part right, bs = left ++ part ++ right ∧ IsPart left part right ∧ component part = t := by
  obtain ⟨piece, hpiece, rfl⟩ := List.mem_map.mp h
  obtain ⟨hand, left, right, rfl, hleft, hright⟩ :=
    Text.exists_of_mem_splitAll (List.mem_filter.mp hpiece).1
  by_cases hequals : 0x3D ∈ piece
  · obtain ⟨key, value, rfl, hkey⟩ := List.eq_append_cons_of_mem hequals
    simp only [List.mem_append, List.mem_cons, not_or] at hand
    obtain ⟨handKey, -, handValue⟩ := hand
    rw [pair_cut hkey] at ht
    rcases ht with rfl | rfl
    · exact ⟨left, key, 0x3D :: value ++ right, by simp, .key hleft handKey hkey (.inr ⟨_, rfl⟩), rfl⟩
    · exact ⟨left ++ key ++ [0x3D], value, right, by simp,
        .value hleft handKey hkey handValue hright, rfl⟩
  · rw [pair_uncut hequals] at ht
    rcases ht with rfl | rfl
    · exact ⟨left, piece, right, rfl, .key hleft hand hequals (.inl hright), rfl⟩
    · exact absurd rfl hne

/-! ## Decoding at a cut -/

/-- An octet that is no part of an escape cuts the decoding in two. -/
theorem percentDecode_cut {b : UInt8} (hpercent : b ≠ 0x25) (hdigit : hexValue? b = none)
    (xs ys : Bytes) : percentDecode (xs ++ b :: ys) = percentDecode xs ++ b :: percentDecode ys := by
  have hfirst : ∀ low, hexPair? b low = none := fun low => by rw [hexPair?, hdigit]
  have hsecond : ∀ high, hexPair? high b = none := fun high => by
    rw [hexPair?, hdigit]
    cases hexValue? high <;> rfl
  fun_induction percentDecode xs with
  | case1 high low rest c hpair ih =>
    rw [List.cons_append, List.cons_append, List.cons_append, percentDecode_escape hpair, ih]
    rfl
  | case2 high low rest hpair ih =>
    rw [List.cons_append, percentDecode_cons, ih]
    · rfl
    · intro _ high' low' tail heq
      simp only [List.cons_append, List.cons.injEq] at heq
      rw [← heq.1, ← heq.2.1, hpair]
  | case3 c rest hnot ih =>
    rw [List.cons_append, percentDecode_cons, ih]
    · rfl
    · -- a percent sign with too little behind it does not reach across the cut
      intro hc high low tail heq
      rcases rest with _ | ⟨x, _ | ⟨y, rest⟩⟩
      · simp only [List.nil_append, List.cons.injEq] at heq
        rw [← heq.1, hfirst]
      · simp only [List.cons_append, List.nil_append, List.cons.injEq] at heq
        rw [← heq.2.1, hsecond]
      · exact absurd rfl (hnot x y rest hc)
  | case4 => exact percentDecode_cons_of_ne hpercent ys

/-- **A sign at which a form is cut stays as it is**, and both sides are decoded by themselves. -/
theorem read_cut {b : UInt8} (hb : IsCut b) (xs ys : Bytes) :
    read (xs ++ b :: ys) = read xs ++ Char.ofNat b.toNat :: read ys := by
  have hspaced : plusToSpace b = b := by
    rcases hb with rfl | rfl <;> rfl
  have hdecode := percentDecode_cut (b := b) (by rcases hb with rfl | rfl <;> decide)
    (by rcases hb with rfl | rfl <;> decide) (xs.map plusToSpace) (ys.map plusToSpace)
  rw [read, component, List.map_append, List.map_cons, hspaced, hdecode]
  exact Text.decodeLossy_cut (by rcases hb with rfl | rfl <;> decide) _ _

theorem read_nil : read [] = [] := by
  rw [read, component, List.map_nil, percentDecode]
  rfl

theorem read_cons {b : UInt8} (hb : IsCut b) (ys : Bytes) :
    read (b :: ys) = Char.ofNat b.toNat :: read ys := by
  have h := read_cut hb [] ys
  rwa [List.nil_append, read_nil, List.nil_append] at h

/-- Decoding does not reach across the edges of a part. -/
theorem read_append {xs ys : Bytes} (h : Leads xs ∨ Follows ys) :
    read (xs ++ ys) = read xs ++ read ys := by
  rcases h with (rfl | ⟨before, b, hb, rfl⟩) | rfl | ⟨b, behind, hb, rfl⟩
  · rw [List.nil_append, read_nil, List.nil_append]
  · rw [List.append_assoc, List.singleton_append, read_cut hb, read_cut hb, read_nil]
    simp
  · rw [List.append_nil, read_nil, List.append_nil]
  · rw [read_cut hb, read_cons hb]

/-- A part is decoded in the whole form as it is by itself. -/
theorem IsPart.read_eq {left part right : Bytes} (h : IsPart left part right) :
    read (left ++ part ++ right) = read left ++ read part ++ read right := by
  rw [read_append (.inr h.follows), read_append (.inl h.leads)]

/-- A stretch within a part is a stretch of the decoded form. -/
theorem Within.read_eq {bs : Bytes} {pre mid post : List Char} (h : Within bs pre mid post) :
    read bs = pre ++ mid ++ post := by
  obtain ⟨left, part, right, before, behind, rfl, hpart, rfl, hsplit, rfl⟩ := h
  rw [hpart.read_eq, hsplit]
  simp

/-! ## Stretches without a sign -/

/-- What does not hold the sign between two texts lies within one of them. -/
theorem exists_side {α : Type} {sep : α} {xs ys pre mid post : List α}
    (h : xs ++ sep :: ys = pre ++ mid ++ post) (hmid : sep ∉ mid) :
    (∃ behind, xs = pre ++ mid ++ behind ∧ post = behind ++ sep :: ys) ∨
      ∃ before, pre = xs ++ sep :: before ∧ ys = before ++ mid ++ post := by
  rw [List.append_assoc] at h
  rcases List.append_eq_append_iff.mp h with ⟨rest, rfl, hrest⟩ | ⟨rest, rfl, hrest⟩
  · cases rest with
    | nil =>
      cases mid with
      | nil => exact .inl ⟨[], by simp, hrest.symm⟩
      | cons c mid =>
        obtain ⟨rfl, -⟩ := List.cons_eq_cons.mp hrest
        exact absurd (List.mem_cons_self ..) hmid
    | cons c rest =>
      obtain ⟨rfl, rfl⟩ := List.cons_eq_cons.mp hrest
      exact .inr ⟨rest, rfl, by simp⟩
  · rcases List.append_eq_append_iff.mp hrest with ⟨more, rfl, rfl⟩ | ⟨more, rfl, hmore⟩
    · exact .inl ⟨more, by simp, rfl⟩
    · cases more with
      | nil => exact .inl ⟨[], by simp, hmore.symm⟩
      | cons c more =>
        obtain ⟨rfl, -⟩ := List.cons_eq_cons.mp hmore
        exact absurd (by simp) hmid

/-- A stretch of a piece that has no equals sign lies within the key or within the value. -/
theorem within_piece {left piece right : Bytes} {before mid behind : List Char}
    (hleft : LeadsPiece 0x26 left) (hand : 0x26 ∉ piece) (hright : FollowsPiece 0x26 right)
    (hread : read piece = before ++ mid ++ behind) (hmid : '=' ∉ mid) :
    Within (left ++ piece ++ right) (read left ++ before) mid (behind ++ read right) := by
  by_cases hequals : 0x3D ∈ piece
  · obtain ⟨key, value, rfl, hkey⟩ := List.eq_append_cons_of_mem hequals
    simp only [List.mem_append, List.mem_cons, not_or] at hand
    obtain ⟨handKey, -, handValue⟩ := hand
    have isKey : IsPart left key (0x3D :: (value ++ right)) := .key hleft handKey hkey (.inr ⟨_, rfl⟩)
    have isValue : IsPart (left ++ key ++ [0x3D]) value right :=
      .value hleft handKey hkey handValue hright
    rw [read_cut (.inr rfl)] at hread
    rcases exists_side hread hmid with ⟨rest, hkeyRead, rfl⟩ | ⟨rest, rfl, hvalueRead⟩
    · refine ⟨left, key, _, before, rest, by simp, isKey, rfl, hkeyRead, ?_⟩
      rw [read_cons (.inr rfl), read_append (.inr isValue.follows)]
      simp
    · refine ⟨left ++ key ++ [0x3D], value, right, rest, behind, by simp, isValue, ?_, hvalueRead, rfl⟩
      rw [read_cut (.inr rfl), read_nil, read_append (.inl isKey.leads)]
      simp
  · have isKey : IsPart left piece right := .key hleft hand hequals (.inl hright)
    exact ⟨left, piece, right, before, behind, rfl, isKey, rfl, hread, rfl⟩

/-- A stretch that has neither sign lies within one key or one value. -/
theorem within_rest {left rest : Bytes} {before mid post : List Char}
    (hleft : LeadsPiece 0x26 left) (hread : read rest = before ++ mid ++ post)
    (hand : '&' ∉ mid) (hequals : '=' ∉ mid) :
    Within (left ++ rest) (read left ++ before) mid post := by
  by_cases hmem : 0x26 ∈ rest
  · obtain ⟨piece, others, hrest, hpiece⟩ := List.eq_append_cons_of_mem hmem
    have hshorter : others.length < rest.length := by
      rw [hrest, List.length_append, List.length_cons]
      omega
    rw [hrest, read_cut (.inl rfl)] at hread
    rw [hrest]
    rcases exists_side hread hand with ⟨behind, hpieceRead, rfl⟩ | ⟨behind, rfl, hothersRead⟩
    · have h := within_piece hleft hpiece (.inr ⟨others, rfl⟩) hpieceRead hequals
      rwa [read_cons (.inl rfl), List.append_assoc] at h
    · have hleft' : LeadsPiece 0x26 (left ++ piece ++ [0x26]) := .inr ⟨_, rfl⟩
      have h := within_rest hleft' hothersRead hand hequals
      rw [read_cut (.inl rfl), read_nil, read_append (.inl (leads_of_leadsPiece hleft))] at h
      simpa using h
  · have h := within_piece hleft hmem (.inl rfl) hread hequals
    rwa [List.append_nil, read_nil, List.append_nil] at h
termination_by rest.length

/-- **What holds none of the signs at which a form is cut lies within one of its parts.** -/
theorem within_of_uncut {bs : Bytes} {pre mid post : List Char}
    (hread : read bs = pre ++ mid ++ post) (hand : '&' ∉ mid) (hequals : '=' ∉ mid) :
    Within bs pre mid post := by
  have h := within_rest (.inl rfl) hread hand hequals
  rwa [List.nil_append, read_nil, List.nil_append] at h

end AdmissionGate.Form
