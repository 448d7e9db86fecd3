import CloudClient.Proofs.Exchange

/-!
# Requests for pages

The request for a page carries its number in the query, between texts that do not depend on it. So
requests for different pages differ, and all of them can be sent if one can.
-/

namespace CloudClient

def Client.pageRequest (c : Client) (path : String) (page : Nat) (filter? : Option Filter) :
    Except Error Request := do
  let url ← c.url path
  let paged := (url.addPair "page" page).addPair "page_size" c.pageSize
  return { c.request .get paged with filter? := Client.filterHeader? filter? }

namespace Client
variable {c : Client} {path : String} {filter? : Option Filter} {page other : Nat} {r : Request}

theorem getPage_eq (c : Client) (path : String) (page : Nat) (filter? : Option Filter) :
    c.getPage path page filter? =
      (Step.ofExcept (c.pageRequest path page filter?) >>= Exchange.send) := by
  unfold getPage pageRequest
  cases c.url path with
  | error e => rfl
  | ok url => rfl

theorem query?_addPairs (url : Url) (size : Nat) : ∃ before after, ∀ page,
    ((url.addPair "page" page).addPair "page_size" size).query? =
      some (before ++ (Nat.toDigits 10 page ++ after)) := by
  let after := '&' :: ("page_size".toList ++ '=' :: Nat.toDigits 10 size)
  rcases hquery : url.query? with _ | _ | ⟨c, rest⟩
  · exact ⟨['p', 'a', 'g', 'e', '='], after, fun page => by simp [Url.addPair, hquery, after]⟩
  · exact ⟨['p', 'a', 'g', 'e', '='], after, fun page => by simp [Url.addPair, hquery, after]⟩
  · exact ⟨c :: rest ++ ['&', 'p', 'a', 'g', 'e', '='], after,
      fun page => by simp [Url.addPair, hquery, after]⟩

theorem toDigits_injective {a b : Nat} (h : Nat.toDigits 10 a = Nat.toDigits 10 b) : a = b := by
  have hvalue := congrArg (Nat.ofDigitChars 10 · 0) h
  simpa only [Nat.ofDigitChars_ten_toDigits] using hvalue

theorem pageRequest_eq_ok (h : c.pageRequest path page filter? = .ok r) :
    ∃ url, c.url path = .ok url ∧
      r = { c.request .get ((url.addPair "page" page).addPair "page_size" c.pageSize) with
        filter? := filterHeader? filter? } := by
  unfold pageRequest at h
  cases hurl : c.url path with
  | error e =>
    rw [hurl] at h
    cases h
  | ok url =>
    rw [hurl] at h
    cases h
    exact ⟨url, rfl, rfl⟩

theorem pageRequest_injective {s : Request} (h : c.pageRequest path page filter? = .ok r)
    (hother : c.pageRequest path other filter? = .ok s) (hquery : r.url.query? = s.url.query?) :
    page = other := by
  obtain ⟨url, hurl, rfl⟩ := pageRequest_eq_ok h
  obtain ⟨url', hurl', rfl⟩ := pageRequest_eq_ok hother
  cases hurl.symm.trans hurl'
  obtain ⟨before, after, hsame⟩ := query?_addPairs url c.pageSize
  simp only [request, hsame, Option.some.injEq, List.append_cancel_left_eq,
    List.append_cancel_right_eq] at hquery
  exact toDigits_injective hquery

theorem pageRequest_sendable (h : c.pageRequest path page filter? = .ok r)
    (hfault : Exchange.fault? r = none) (other : Nat) :
    ∃ s, c.pageRequest path other filter? = .ok s ∧ Exchange.fault? s = none := by
  obtain ⟨url, hurl, rfl⟩ := pageRequest_eq_ok h
  refine ⟨_, by rw [pageRequest, hurl]; rfl, ?_⟩
  -- the query is no part of what a fault depends on
  obtain ⟨hhost, htext, hhttp⟩ := Exchange.fault?_eq_none.mp hfault
  exact Exchange.fault?_eq_none.mpr ⟨hhost, htext, hhttp⟩

end Client

end CloudClient
