import CloudClient.Proofs.Listing.Feed

/-!
# Pages asked for

From the opening of a list on, every request that brought a page leaves that page in the table, and
a page is asked for only if it is not there. So no request that brought a page is ever sent again.
-/

namespace CloudClient.Feed
variable {f : Feed} {start : Nat} {list list' : Listing} {sent : List Request} {r : Request}

def Received (f : Feed) (sent : List Request) (i : Nat) (r : Request) : Prop :=
  sent[i]? = some r ∧ (f.server (sent.take i) r).json?.isSome = true

structure Trace (f : Feed) (start : Nat) (list : Listing) (sent : List Request) : Prop where
  opened : start ≤ sent.length
  known : ∀ i r, start ≤ i → f.Received sent i r →
    ∃ page, f.request page = .ok r ∧ (list.page? page).isSome = true
  once : ∀ i j r, start ≤ i → i < j → f.Received sent i r → sent[j]? ≠ some r

theorem Received.lt_length {i : Nat} (h : f.Received sent i r) : i < sent.length :=
  (List.getElem?_eq_some_iff.mp h.1).1

theorem received_append_iff {s : Request} {i : Nat} (hi : i < sent.length) :
    f.Received (sent ++ [s]) i r ↔ f.Received sent i r := by
  unfold Received
  rw [List.getElem?_append_left hi, List.take_append_of_le_length (Nat.le_of_lt hi)]

theorem Received.append_cases {s : Request} {i : Nat} (h : f.Received (sent ++ [s]) i r) :
    f.Received sent i r ∨ i = sent.length ∧ r = s ∧ (f.server sent r).json?.isSome = true := by
  have hi := h.lt_length
  rw [List.length_append, List.length_singleton] at hi
  rcases Nat.lt_succ_iff_lt_or_eq.mp hi with hi | rfl
  · exact .inl ((received_append_iff hi).mp h)
  · obtain ⟨hr, haccepted⟩ := h
    rw [List.getElem?_concat_length] at hr
    rw [List.take_left' rfl] at haccepted
    exact .inr ⟨rfl, (Option.some.inj hr).symm, haccepted⟩

theorem Trace.mono (h : Trace f start list sent)
    (hmore : ∀ page, (list.page? page).isSome = true → (list'.page? page).isSome = true) :
    Trace f start list' sent := by
  refine ⟨h.opened, fun i r hi hr => ?_, h.once⟩
  obtain ⟨page, hpage, hthere⟩ := h.known i r hi hr
  exact ⟨page, hpage, hmore page hthere⟩

theorem request_injective {page other : Nat} (h : f.request page = .ok r)
    (hother : f.request other = .ok r) : page = other :=
  Nat.succ.inj (Client.pageRequest_injective h hother rfl)

theorem Trace.append (h : Trace f start list sent) {page : Nat} (hr : f.request page = .ok r)
    (hnew : list.page? page = none)
    (hmore : ∀ page, (list.page? page).isSome = true → (list'.page? page).isSome = true)
    (hthere : (f.server sent r).json?.isSome = true → (list'.page? page).isSome = true) :
    Trace f start list' (sent ++ [r]) := by
  refine ⟨?_, fun i s hi hs => ?_, fun i j s hi hij hs hj => ?_⟩
  · rw [List.length_append]
    exact Nat.le_add_right_of_le h.opened
  · rcases hs.append_cases with hs | ⟨-, rfl, haccepted⟩
    · obtain ⟨other, hother, hpage⟩ := h.known i s hi hs
      exact ⟨other, hother, hmore other hpage⟩
    · exact ⟨page, hr, hthere haccepted⟩
  · have hlength : j < sent.length + 1 := by simpa using (List.getElem?_eq_some_iff.mp hj).1
    have hold : f.Received sent i s := (received_append_iff (by omega)).mp hs
    rcases Nat.lt_succ_iff_lt_or_eq.mp hlength with hjlt | rfl
    · rw [List.getElem?_append_left hjlt] at hj
      exact h.once i j s hi hij hold hj
    · rw [List.getElem?_concat_length] at hj
      cases hj
      obtain ⟨other, hother, hpage⟩ := h.known i r hi hold
      cases request_injective hr hother
      simp [hnew] at hpage

end CloudClient.Feed
