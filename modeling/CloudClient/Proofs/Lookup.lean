import CloudClient.Dict

/-!
# Look-ups and results

A look-up that succeeds finds an entry. A dictionary that is built by insertion is in key order, so
no key occurs twice and membership and look-up agree. A sequence of results succeeds exactly if each
of them does.
-/

namespace CloudClient

namespace Dict
variable {α : Type} {d : Dict α} {key : String} {value : α}

theorem mem_of_get? (h : get? d key = some value) : (key, value) ∈ d := by
  induction d with
  | nil => cases h
  | cons entry rest ih =>
    obtain ⟨k, v⟩ := entry
    simp only [get?] at h
    split at h
    · rename_i hk
      cases h
      exact hk ▸ List.mem_cons_self
    · exact List.mem_cons_of_mem _ (ih h)

def Sorted (d : Dict α) : Prop := d.Pairwise fun a b => a.1 < b.1

theorem mem_insert {entry : String × α} (h : entry ∈ insert d key value) :
    entry = (key, value) ∨ entry ∈ d := by
  induction d with
  | nil => exact .inl (List.mem_singleton.mp h)
  | cons head rest ih =>
    obtain ⟨k, v⟩ := head
    simp only [insert] at h
    split at h
    · rcases List.mem_cons.mp h with h | h
      · exact .inl h
      · exact .inr (List.mem_cons_of_mem _ h)
    · split at h
      · exact List.mem_cons.mp h
      · rcases List.mem_cons.mp h with rfl | h
        · exact .inr List.mem_cons_self
        · exact (ih h).imp_right (List.mem_cons_of_mem _)

theorem forall_mem_ofList {P : String × α → Prop} {entries : List (String × α)}
    (h : ∀ entry ∈ entries, P entry) : ∀ entry ∈ ofList entries, P entry := by
  unfold ofList
  refine List.foldlRecOn (motive := fun d => ∀ entry ∈ d, P entry) _ _ (fun _ he => by cases he) ?_
  intro d hd entry hentry other hother
  rcases mem_insert hother with rfl | hother
  · exact h entry hentry
  · exact hd other hother

theorem ne_of_get?_eq_none (h : get? d key = none) :
    ∀ entry ∈ d, entry.1 ≠ key := by
  induction d with
  | nil =>
    intro entry he
    cases he
  | cons head rest ih =>
    obtain ⟨k, v⟩ := head
    simp only [get?] at h
    split at h
    · cases h
    · rename_i hne
      exact List.forall_mem_cons.mpr ⟨hne, ih h⟩

theorem filter_insert (d : Dict α) (value : α) {p : String → Bool} (hkey : p key = false) :
    (insert d key value).filter (fun entry => p entry.1) = d.filter fun entry => p entry.1 := by
  induction d with
  | nil => simp [insert, hkey]
  | cons entry rest ih =>
    simp only [insert]
    split
    · rename_i hk
      simp [hk, hkey]
    · split
      · simp [List.filter_cons, hkey]
      · simp only [List.filter_cons, ih]

theorem filter_key (hkeys : (keys d).Nodup) (key : String) :
    d.filter (fun (k, _) => k == key) = (get? d key).toList.map fun v => (key, v) := by
  induction d with
  | nil => rfl
  | cons entry rest ih =>
    obtain ⟨k, v⟩ := entry
    obtain ⟨hk, hrest⟩ := List.nodup_cons.mp hkeys
    by_cases heq : k = key
    · subst heq
      have hnone : rest.filter (fun (l, _) => l == k) = [] := by
        refine List.filter_eq_nil_iff.mpr fun entry he => ?_
        have hne : entry.1 ≠ k := fun heq => hk (List.mem_map.mpr ⟨entry, he, heq⟩)
        simpa using hne
      simp [get?, hnone]
    · simp [get?, heq, ih hrest]

namespace Sorted

theorem keys_nodup (h : Sorted d) : (keys d).Nodup := by
  refine List.pairwise_map.mpr (h.imp fun {a b} hlt heq => ?_)
  exact String.lt_irrefl b.1 (heq ▸ hlt)

theorem insert (h : Sorted d) (key : String) (value : α) : Sorted (Dict.insert d key value) := by
  induction d with
  | nil => exact List.pairwise_singleton _ _
  | cons head rest ih =>
    obtain ⟨k, v⟩ := head
    obtain ⟨hhead, hrest⟩ := List.pairwise_cons.mp h
    simp only [Dict.insert]
    split
    · rename_i hk
      exact List.pairwise_cons.mpr ⟨fun entry he => hk ▸ hhead entry he, hrest⟩
    · rename_i hne
      split
      · rename_i hlt
        refine List.pairwise_cons.mpr ⟨fun entry he => ?_, h⟩
        rcases List.mem_cons.mp he with rfl | he
        · exact hlt
        · exact String.lt_trans hlt (hhead entry he)
      · rename_i hnot
        refine List.pairwise_cons.mpr ⟨fun entry he => ?_, ih hrest⟩
        rcases mem_insert he with rfl | he
        · exact Std.lt_of_le_of_ne (String.not_lt.mp hnot) hne
        · exact hhead entry he

theorem ofList (entries : List (String × α)) : Sorted (Dict.ofList entries) := by
  unfold Dict.ofList
  exact List.foldlRecOn (motive := Sorted) _ _ List.Pairwise.nil fun d hd entry _ =>
    hd.insert entry.1 entry.2

theorem insert_eq_concat (h : ∀ entry ∈ d, entry.1 < key) (value : α) :
    Dict.insert d key value = d ++ [(key, value)] := by
  induction d with
  | nil => rfl
  | cons head rest ih =>
    obtain ⟨hhead, hrest⟩ := List.forall_mem_cons.mp h
    have hne : head.1 ≠ key := fun he => String.lt_irrefl key (he ▸ hhead)
    have hnot : ¬ key < head.1 := String.lt_asymm hhead
    simp only [Dict.insert, hne, hnot, if_false, ih hrest, List.cons_append]

theorem ofList_eq (h : Sorted d) : Dict.ofList d = d := by
  have hfold : ∀ front rest : Dict α, Sorted (front ++ rest) →
      rest.foldl (fun d entry => Dict.insert d entry.1 entry.2) front = front ++ rest := by
    intro front rest
    induction rest generalizing front with
    | nil => exact fun _ => (List.append_nil front).symm
    | cons entry rest ih =>
      intro hsorted
      have hlast : ∀ e ∈ front, e.1 < entry.1 := fun e he =>
        (List.pairwise_append.mp hsorted).2.2 e he entry List.mem_cons_self
      rw [List.foldl_cons, insert_eq_concat hlast, ih _ (by simpa using hsorted)]
      simp
  exact hfold [] d h

theorem get?_of_mem (h : Sorted d) (hmem : (key, value) ∈ d) : get? d key = some value := by
  induction d with
  | nil => cases hmem
  | cons head rest ih =>
    obtain ⟨k, v⟩ := head
    obtain ⟨hhead, hrest⟩ := List.pairwise_cons.mp h
    simp only [get?]
    rcases List.mem_cons.mp hmem with heq | hmem
    · cases heq
      exact if_pos rfl
    · have hne : k ≠ key := by
        intro hk
        subst hk
        exact String.lt_irrefl k (hhead _ hmem)
      rw [if_neg hne]
      exact ih hrest hmem

end Sorted
end Dict

/-! ## Results -/

theorem Except.bind_eq_ok {ε β : Type} {x : Except ε α} {f : α → Except ε β} {b : β} :
    (x >>= f) = .ok b ↔ ∃ a, x = .ok a ∧ f a = .ok b := by
  cases x with
  | error e => exact ⟨fun h => (by cases h), fun ⟨_, h, _⟩ => (by cases h)⟩
  | ok a =>
    refine ⟨fun h => ⟨a, rfl, h⟩, ?_⟩
    intro h
    obtain ⟨_, ha, h⟩ := h
    cases ha
    exact h

theorem Except.guard_eq_ok {ε β : Type} {c : Prop} [Decidable c] {e : ε}
    {f : Unit → Except ε β} {b : β} :
    (if c then Except.error e >>= f else f ()) = .ok b ↔ ¬ c ∧ f () = .ok b := by
  by_cases hc : c
  · rw [if_pos hc]
    exact ⟨fun h => (by cases h), fun h => absurd hc h.1⟩
  · rw [if_neg hc]
    exact ⟨fun h => ⟨hc, h⟩, fun h => h.2⟩

theorem Except.ite_eq_ok {ε β : Type} {c : Prop} [Decidable c] {e : ε} {x : Except ε β} {b : β} :
    (if c then .error e else x) = .ok b ↔ ¬ c ∧ x = .ok b := by
  split <;> simp [*]

end CloudClient
