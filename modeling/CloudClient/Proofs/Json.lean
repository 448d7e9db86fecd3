import CloudClient.Json

/-!
# Equality of JSON values

The program compares JSON values part by part, numbers of one kind as numbers, so that the two zeros
of binary64 are equal. This is an equivalence.
-/

namespace CloudClient


theorem Binary64.same_symm {x y : Binary64} (h : x.same y = true) : y.same x = true := by
  simp only [same, Bool.or_eq_true, Bool.and_eq_true, beq_iff_eq] at h ⊢
  exact h.imp And.symm Eq.symm

theorem Binary64.same_trans {x y z : Binary64} (h : x.same y = true) (h' : y.same z = true) :
    x.same z = true := by
  simp only [same, Bool.or_eq_true, Bool.and_eq_true, beq_iff_eq] at h h' ⊢
  rcases h with h | rfl
  · rcases h' with h' | rfl
    · exact .inl ⟨h.1, h'.2⟩
    · exact .inl h
  · exact h'

theorem Number.same_symm {m n : Number} (h : m.same n = true) : n.same m = true := by
  cases m with
  | int a =>
    cases n with
    | int b => exact beq_iff_eq.mpr (beq_iff_eq.mp h).symm
    | float y => cases h
  | float x =>
    cases n with
    | int b => cases h
    | float y => exact Binary64.same_symm h

theorem Number.same_trans {k m n : Number} (h : k.same m = true) (h' : m.same n = true) :
    k.same n = true := by
  cases k with
  | int a =>
    cases m with
    | int b =>
      obtain rfl := beq_iff_eq.mp h
      exact h'
    | float y => cases h
  | float x =>
    cases m with
    | int b => cases h
    | float y =>
      cases n with
      | int c => cases h'
      | float z => exact Binary64.same_trans h h'

namespace Json

mutual
theorem same_symm : {v w : Json} → v.same w = true → w.same v = true
  | .null, .null, _ => rfl
  | .bool _, .bool _, h => beq_iff_eq.mpr (beq_iff_eq.mp h).symm
  | .num _, .num _, h => Number.same_symm h
  | .str _, .str _, h => beq_iff_eq.mpr (beq_iff_eq.mp h).symm
  | .arr _, .arr _, h => sameItems_symm h
  | .obj _, .obj _, h => sameFields_symm h
theorem sameItems_symm : {vs ws : List Json} → sameItems vs ws = true → sameItems ws vs = true
  | [], [], _ => rfl
  | _ :: _, _ :: _, h => by
    obtain ⟨hv, hrest⟩ := Bool.and_eq_true_iff.mp h
    exact Bool.and_eq_true_iff.mpr ⟨same_symm hv, sameItems_symm hrest⟩
theorem sameFields_symm : {vs ws : List (String × Json)} → sameFields vs ws = true →
    sameFields ws vs = true
  | [], [], _ => rfl
  | (_, _) :: _, (_, _) :: _, h => by
    obtain ⟨hkv, hrest⟩ := Bool.and_eq_true_iff.mp h
    obtain ⟨hk, hv⟩ := Bool.and_eq_true_iff.mp hkv
    have hkey := beq_iff_eq.mpr (beq_iff_eq.mp hk).symm
    exact Bool.and_eq_true_iff.mpr ⟨Bool.and_eq_true_iff.mpr ⟨hkey, same_symm hv⟩,
      sameFields_symm hrest⟩
end

mutual
theorem same_trans : {u v w : Json} → u.same v = true → v.same w = true → u.same w = true
  | .null, .null, .null, _, _ => rfl
  | .bool _, .bool _, .bool _, h, h' => beq_iff_eq.mpr ((beq_iff_eq.mp h).trans (beq_iff_eq.mp h'))
  | .num _, .num _, .num _, h, h' => Number.same_trans h h'
  | .str _, .str _, .str _, h, h' => beq_iff_eq.mpr ((beq_iff_eq.mp h).trans (beq_iff_eq.mp h'))
  | .arr _, .arr _, .arr _, h, h' => sameItems_trans h h'
  | .obj _, .obj _, .obj _, h, h' => sameFields_trans h h'
theorem sameItems_trans : {us vs ws : List Json} → sameItems us vs = true → sameItems vs ws = true →
    sameItems us ws = true
  | [], [], [], _, _ => rfl
  | _ :: _, _ :: _, _ :: _, h, h' => by
    obtain ⟨hv, hrest⟩ := Bool.and_eq_true_iff.mp h
    obtain ⟨hv', hrest'⟩ := Bool.and_eq_true_iff.mp h'
    exact Bool.and_eq_true_iff.mpr ⟨same_trans hv hv', sameItems_trans hrest hrest'⟩
theorem sameFields_trans : {us vs ws : List (String × Json)} → sameFields us vs = true →
    sameFields vs ws = true → sameFields us ws = true
  | [], [], [], _, _ => rfl
  | (_, _) :: _, (_, _) :: _, (_, _) :: _, h, h' => by
    obtain ⟨hkv, hrest⟩ := Bool.and_eq_true_iff.mp h
    obtain ⟨hkv', hrest'⟩ := Bool.and_eq_true_iff.mp h'
    obtain ⟨hk, hv⟩ := Bool.and_eq_true_iff.mp hkv
    obtain ⟨hk', hv'⟩ := Bool.and_eq_true_iff.mp hkv'
    have hkey := (beq_iff_eq.mp hk).trans (beq_iff_eq.mp hk')
    exact Bool.and_eq_true_iff.mpr ⟨Bool.and_eq_true_iff.mpr ⟨beq_iff_eq.mpr hkey,
      same_trans hv hv'⟩, sameFields_trans hrest hrest'⟩
end

/-! ## Entries -/

section Entries
variable {xs ys : List (String × Json)} {key : String} {v w : Json}

theorem sameFields_get? (h : sameFields xs ys = true) (key : String) :
    Option.Rel (fun v w => v.same w = true) (Dict.get? xs key) (Dict.get? ys key) := by
  induction xs generalizing ys with
  | nil =>
    cases ys with
    | nil => exact .none
    | cons entry rest => cases h
  | cons entry rest ih =>
    cases ys with
    | nil => cases h
    | cons entry' rest' =>
      simp only [sameFields, Bool.and_eq_true, beq_iff_eq] at h
      obtain ⟨⟨hkey, hvalue⟩, hrest⟩ := h
      simp only [Dict.get?, hkey]
      split
      · exact .some hvalue
      · exact ih hrest

theorem sameFields_insert (h : sameFields xs ys = true) (hvalue : v.same w = true) (key : String) :
    sameFields (Dict.insert xs key v) (Dict.insert ys key w) = true := by
  induction xs generalizing ys with
  | nil =>
    cases ys with
    | nil => simp [Dict.insert, sameFields, hvalue]
    | cons entry rest => cases h
  | cons entry rest ih =>
    cases ys with
    | nil => cases h
    | cons entry' rest' =>
      simp only [sameFields, Bool.and_eq_true, beq_iff_eq] at h
      obtain ⟨⟨hkey, hentry⟩, hrest⟩ := h
      simp only [Dict.insert, hkey]
      split
      · simp [sameFields, hvalue, hrest]
      · split
        · simp [sameFields, hvalue, hentry, hrest]
        · simp [sameFields, hentry, ih hrest]

theorem sameFields_filter (h : sameFields xs ys = true) (p : String → Bool) :
    sameFields (xs.filter fun entry => p entry.1) (ys.filter fun entry => p entry.1) = true := by
  induction xs generalizing ys with
  | nil =>
    cases ys with
    | nil => rfl
    | cons entry rest => cases h
  | cons entry rest ih =>
    cases ys with
    | nil => cases h
    | cons entry' rest' =>
      simp only [sameFields, Bool.and_eq_true, beq_iff_eq] at h
      obtain ⟨⟨hkey, hentry⟩, hrest⟩ := h
      simp only [List.filter_cons, hkey]
      split
      · simp [sameFields, hkey, hentry, ih hrest]
      · exact ih hrest

end Entries

end Json

end CloudClient
