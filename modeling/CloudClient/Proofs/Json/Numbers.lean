import CloudClient.Proofs.Json.Reading

/-!
# Numbers of a value that was read

A numeral that no integer of the library can hold is read as a binary64 number or refused, so every
integer of a value that was read is one that the library can hold, however deep it stands.
-/

namespace CloudClient.Json
variable {fuel depth : Nat} {s rest : List Char} {v : Json} {items : List Json}
  {fields : List (String × Json)}

mutual
def Held : Json → Prop
  | .num (.int n) => Holdable n
  | .arr items => HeldItems items
  | .obj fields => HeldFields fields
  | .null | .bool _ | .num (.float _) | .str _ => True
termination_by structural v => v
def HeldItems : List Json → Prop
  | [] => True
  | v :: rest => Held v ∧ HeldItems rest
termination_by structural items => items
def HeldFields : List (String × Json) → Prop
  | [] => True
  | (_, v) :: rest => Held v ∧ HeldFields rest
termination_by structural fields => fields
end

theorem heldFields_iff : HeldFields fields ↔ ∀ entry ∈ fields, entry.2.Held := by
  induction fields with
  | nil => simp [HeldFields]
  | cons entry rest ih => simp [HeldFields, ih]

/-! ## Reading -/

theorem holdable_of_value? {n : Numeral} {k : Int} (h : n.value? = some (.int k)) : Holdable k := by
  have hsize : UInt64.size = 18446744073709551616 := rfl
  have hfloat : n.float?.map Number.float ≠ some (.int k) := by
    cases n.float? <;> simp
  unfold Numeral.value? at h
  dsimp only at h
  split at h
  · split at h
    · rename_i hwhole
      cases h
      simp only [Bool.and_eq_true, decide_eq_true_eq] at hwhole
      exact ⟨by omega, by omega⟩
    · split at h
      · rename_i hwhole
        cases h
        simp only [Bool.and_eq_true, decide_eq_true_eq] at hwhole
        exact ⟨by omega, by omega⟩
      · exact absurd h hfloat
  · exact absurd h hfloat

theorem held_of_readNumber? {n : Number} (h : readNumber? s = some (n, rest)) :
    (Json.num n).Held := by
  obtain ⟨⟨numeral, s'⟩, -, h⟩ := Option.bind_eq_some_iff.mp h
  obtain ⟨n', hvalue, h⟩ := Option.bind_eq_some_iff.mp h
  cases h
  cases n with
  | int k => exact holdable_of_value? hvalue
  | float x => trivial

structure ReadsHeld (fuel : Nat) : Prop where
  value : ∀ depth s v rest, readValue? fuel depth s = some (v, rest) → v.Held
  items : ∀ depth s items rest, readItems? fuel depth s = some (items, rest) → HeldItems items
  fields : ∀ depth s fields rest, readFields? fuel depth s = some (fields, rest) →
    HeldFields fields

theorem readsHeld_zero : ReadsHeld 0 where
  value _ _ _ _ h := by cases h
  items _ _ _ _ h := by cases h
  fields _ _ _ _ h := by cases h

theorem ReadsHeld.value_succ (h : ReadsHeld fuel)
    (hread : readValue? (fuel + 1) depth s = some (v, rest)) : v.Held := by
  unfold readValue? at hread
  split at hread
  · cases hread
    trivial
  · cases hread
    trivial
  · cases hread
    trivial
  · obtain ⟨⟨t, rest'⟩, -, hv⟩ := Option.map_eq_some_iff.mp hread
    cases hv
    trivial
  · cases depth with
    | zero => cases hread
    | succ depth =>
      dsimp only at hread
      split at hread
      · cases hread
        trivial
      · obtain ⟨⟨items, rest'⟩, hitems, hv⟩ := Option.map_eq_some_iff.mp hread
        cases hv
        exact h.items _ _ _ _ hitems
  · cases depth with
    | zero => cases hread
    | succ depth =>
      dsimp only at hread
      split at hread
      · cases hread
        trivial
      · obtain ⟨⟨fields, rest'⟩, hfields, hv⟩ := Option.map_eq_some_iff.mp hread
        cases hv
        exact h.fields _ _ _ _ hfields
  · obtain ⟨⟨n, rest'⟩, hn, hv⟩ := Option.map_eq_some_iff.mp hread
    cases hv
    exact held_of_readNumber? hn

theorem ReadsHeld.items_succ (h : ReadsHeld fuel)
    (hread : readItems? (fuel + 1) depth s = some (items, rest)) : HeldItems items := by
  unfold readItems? at hread
  obtain ⟨⟨item, rest'⟩, hitem, hread⟩ := Option.bind_eq_some_iff.mp hread
  have hfirst := h.value _ _ _ _ hitem
  dsimp only at hread
  split at hread
  · cases hread
    exact ⟨hfirst, trivial⟩
  · obtain ⟨⟨others, rest''⟩, hothers, hitems⟩ := Option.bind_eq_some_iff.mp hread
    cases hitems
    exact ⟨hfirst, h.items _ _ _ _ hothers⟩
  · cases hread

theorem ReadsHeld.fields_succ (h : ReadsHeld fuel)
    (hread : readFields? (fuel + 1) depth s = some (fields, rest)) : HeldFields fields := by
  unfold readFields? at hread
  split at hread
  · obtain ⟨⟨key, rest'⟩, -, hread⟩ := Option.bind_eq_some_iff.mp hread
    dsimp only at hread
    split at hread
    · obtain ⟨⟨value, rest''⟩, hvalue, hread⟩ := Option.bind_eq_some_iff.mp hread
      have hfirst := h.value _ _ _ _ hvalue
      dsimp only at hread
      split at hread
      · cases hread
        exact ⟨hfirst, trivial⟩
      · obtain ⟨⟨others, rest'''⟩, hothers, hfields⟩ := Option.bind_eq_some_iff.mp hread
        cases hfields
        exact ⟨hfirst, h.fields _ _ _ _ hothers⟩
      · cases hread
    · cases hread
  · cases hread

theorem readsHeld (fuel : Nat) : ReadsHeld fuel := by
  induction fuel with
  | zero => exact readsHeld_zero
  | succ fuel ih =>
    exact ⟨fun _ _ _ _ => ih.value_succ, fun _ _ _ _ => ih.items_succ,
      fun _ _ _ _ => ih.fields_succ⟩

/-! ## Sorting -/

mutual
theorem held_normalize : {v : Json} → v.Held → v.normalize.Held
  | .null, _ | .bool _, _ | .str _, _ | .num (.float _), _ => trivial
  | .num (.int _), h => h
  | .arr _, h => heldItems_normalize h
  | .obj _, h =>
    heldFields_iff.mpr (Dict.forall_mem_ofList (heldFields_iff.mp (heldFields_normalize h)))
theorem heldItems_normalize : {items : List Json} → HeldItems items →
    HeldItems (normalizeItems items)
  | [], _ => trivial
  | _ :: _, h => ⟨held_normalize h.1, heldItems_normalize h.2⟩
theorem heldFields_normalize : {fields : List (String × Json)} → HeldFields fields →
    HeldFields (normalizeFields fields)
  | [], _ => trivial
  | _ :: _, h => ⟨held_normalize h.1, heldFields_normalize h.2⟩
end

theorem held_of_read? {text : String} (h : read? text = some v) : v.Held := by
  obtain ⟨v', hread, rfl⟩ := Option.map_eq_some_iff.mp h
  unfold readEntries? readEntriesWithin? at hread
  split at hread
  · rename_i hvalue
    obtain ⟨-, hv⟩ := Option.ite_none_right_eq_some.mp hread
    cases hv
    exact held_normalize ((readsHeld _).value _ _ _ _ hvalue)
  · cases hread

theorem Held.get? (h : v.Held) {key : String} {w : Json} (hw : v.get? key = some w) : w.Held := by
  cases v with
  | obj fields => exact heldFields_iff.mp h _ (Dict.mem_of_get? hw)
  | _ => cases hw

end CloudClient.Json
