import CloudClient.Proofs.Listing.Trace

/-!
# Lists over a feed

A list that was opened on a feed knows how many items there are and on which page each of them is,
and its table holds only pages as the server keeps them. Every call keeps this, whether or not it
succeeds, so what a call returns is decided by the items of the feed alone.
-/

namespace CloudClient.Feed
variable {f : Feed} {start : Nat} {s t u : Listing × World}

/-- The list asks for this feed, and its counts lead to every item. -/
structure Shape (f : Feed) (list : Listing) : Prop where
  type : list.type = f.type
  path : list.path = f.path
  parent : list.parent? = f.parent?
  filter : list.filter? = f.filter?
  total : list.total = f.items.length
  placed : ∀ index < f.items.length, index / list.perPage < list.pageCount ∧
    (f.chunk (index / list.perPage))[index % list.perPage]? = f.items[index]?
  whole : (List.range list.pageCount).flatMap f.chunk = f.items

/-- What every call keeps, of requests that were sent from a place on. -/
structure Faithful (f : Feed) (start : Nat) (t : Listing × World) : Prop where
  shape : f.Shape t.1
  pages : ∀ page rs, t.1.page? page = some rs → List.Forall₂ f.Reads (f.chunk page) rs
  table : t.1.table.length ≤ t.1.pageCount
  network : f.Carries t.2.network
  trace : f.Trace start t.1 t.2.sent

structure Ready (f : Feed) : Prop where
  serves : f.Serves
  size : f.items.length < UInt64.size
  sendable : ∀ page, ∃ r, f.request page = .ok r ∧ Exchange.fault? r = none

/-! ## Calls -/

structure Leaves (f : Feed) (start : Nat) (s t : Listing × World) : Prop where
  faithful : f.Faithful start t
  rest : t.1 = { s.1 with table := t.1.table }
  pages : ∀ page rs, s.1.page? page = some rs → t.1.page? page = some rs
  network : t.2.network = s.2.network
  sent : s.2.sent <+: t.2.sent

theorem Leaves.refl (h : f.Faithful start s) : f.Leaves start s s :=
  ⟨h, rfl, fun _ _ h => h, rfl, List.prefix_rfl⟩

theorem Leaves.trans (h : f.Leaves start s t) (h' : f.Leaves start t u) : f.Leaves start s u := by
  refine ⟨h'.faithful, ?_, fun page rs hpage => h'.pages page rs (h.pages page rs hpage),
    h'.network.trans h.network, h.sent.trans h'.sent⟩
  have ht := h.rest
  have hu := h'.rest
  rw [ht] at hu
  exact hu

/-- The server failed the last request of a call, if it arrived at all. It was for a page that was
not there. -/
def Refused (f : Feed) (s t : Listing × World) : Prop :=
  ∃ page r earlier, s.1.page? page = none ∧ f.request page = .ok r ∧
    (s.2.network earlier r).json? = none ∧ s.2.sent <+: earlier ∧
      (t.2.sent = earlier ∨ t.2.sent = earlier ++ [r])

def Calls {α : Type} (f : Feed) (start : Nat) (s : Listing × World) (Q : α → Listing → Prop) :
    Except Error α → Listing × World → Prop
  | .ok a, t => f.Leaves start s t ∧ Q a t.1
  | .error _, t => f.Leaves start s t ∧ f.Refused s t

theorem Refused.of_leaves (h : f.Refused t u) (ht : f.Leaves start s t) : f.Refused s u := by
  obtain ⟨page, r, earlier, hmissing, hr, hrefused, hearlier, hsent⟩ := h
  refine ⟨page, r, earlier, ?_, hr, ht.network ▸ hrefused, ht.sent.trans hearlier, hsent⟩
  refine Option.eq_none_iff_forall_ne_some.mpr fun rs hrs => ?_
  cases hmissing.symm.trans (ht.pages page rs hrs)

theorem Calls.bind {α β : Type} {x : Paging α} {g : α → Paging β} {Q : α → Listing → Prop}
    {R : β → Listing → Prop} (hx : x.Yields s (f.Calls start s Q))
    (hg : ∀ a t, f.Leaves start s t → Q a t.1 → (g a).Yields t (f.Calls start t R)) :
    (x >>= g).Yields s (f.Calls start s R) := by
  refine Step.Yields.bind hx (fun a t ht => ?_) fun e t ht => ht
  refine (hg a t ht.1 ht.2).mono fun result u hu => ?_
  cases result with
  | ok b => exact ⟨ht.1.trans hu.1, hu.2⟩
  | error e => exact ⟨ht.1.trans hu.1, hu.2.of_leaves ht.1⟩

theorem Calls.pure {α : Type} {a : α} {Q : α → Listing → Prop} (hs : f.Faithful start s)
    (h : Q a s.1) : (Pure.pure a : Paging α).Yields s (f.Calls start s Q) := ⟨.refl hs, h⟩

theorem Calls.mono {α : Type} {Q R : α → Listing → Prop} {result : Except Error α}
    (h : f.Calls start s Q result t) (hQR : ∀ a list, Q a list → R a list) :
    f.Calls start s R result t := by
  cases result with
  | ok a => exact ⟨h.1, hQR a _ h.2⟩
  | error e => exact h

/-! ## Fetching pages -/

section Pages
variable {list : Listing} {w w' : World} {page : Nat}

theorem Shape.withTable (h : f.Shape list) (table : List (Option (List Resource))) :
    f.Shape { list with table } :=
  ⟨h.type, h.path, h.parent, h.filter, h.total, h.placed, h.whole⟩

theorem Shape.fetch_eq (h : f.Shape list) (page : Nat) :
    Page.fetch f.client list.type list.path list.parent? list.filter? (page + 1) = f.fetch page := by
  rw [h.type, h.path, h.parent, h.filter]
  rfl

theorem Faithful.grownTo (hs : f.Faithful start (list, w)) (hpage : page < list.pageCount)
    (hnetwork : w'.network = w.network) (hsent : w.sent <+: w'.sent)
    (htrace : f.Trace start (list.grownTo page) w'.sent) :
    f.Leaves start (list, w) (list.grownTo page, w') := by
  have hgrown := Listing.page?_grownTo list page
  refine ⟨⟨hs.shape.withTable _, fun other rs hrs => ?_, ?_, ?_, htrace⟩, rfl, ?_, hnetwork, hsent⟩
  · exact hs.pages other rs (hgrown other ▸ hrs)
  · have htable : list.table.length ≤ list.pageCount := hs.table
    rw [Listing.length_grownTo]
    exact Nat.max_le.mpr ⟨htable, hpage⟩
  · have hcarries : f.Carries w.network := hs.network
    rwa [← hnetwork] at hcarries
  · exact fun other rs hrs => (hgrown other).trans hrs

theorem Faithful.withPage (hs : f.Faithful start (list, w)) (hpage : page < list.table.length)
    (hnew : list.page? page = none) {rs : List Resource}
    (hrs : List.Forall₂ f.Reads (f.chunk page) rs) (hnetwork : w'.network = w.network)
    (hsent : w.sent <+: w'.sent) (htrace : f.Trace start (list.withPage page rs) w'.sent) :
    f.Leaves start (list, w) (list.withPage page rs, w') := by
  refine ⟨⟨hs.shape.withTable _, fun other rs' hother => ?_, ?_, ?_, htrace⟩, rfl, ?_, hnetwork,
    hsent⟩
  · by_cases ho : other = page
    · subst ho
      rw [Listing.page?_withPage_self hpage] at hother
      cases hother
      exact hrs
    · exact hs.pages other rs' (Listing.page?_withPage_of_ne ho rs ▸ hother)
  · have htable : list.table.length ≤ list.pageCount := hs.table
    simpa [Listing.withPage] using htable
  · have hcarries : f.Carries w.network := hs.network
    rwa [← hnetwork] at hcarries
  · intro other rs' hother
    have ho : other ≠ page := by
      intro hsame
      subst hsame
      cases hnew.symm.trans hother
    exact (Listing.page?_withPage_of_ne ho rs).trans hother

theorem ensurePage_calls (hf : f.Ready) (hs : f.Faithful start (list, w))
    (hpage : page < list.pageCount) :
    (Listing.ensurePage f.client page).Yields (list, w)
      (f.Calls start (list, w) fun _ list => (list.page? page).isSome = true) := by
  have hgrown := Listing.page?_grownTo list page
  have hmore : ∀ other, (list.page? other).isSome = true →
      ((list.grownTo page).page? other).isSome = true := fun other ho => by rwa [hgrown other]
  obtain ⟨r, hr, hfault⟩ := hf.sendable page
  have hfetch : (f.fetch page).Yields w (f.Fetched page w) :=
    fetch_fetched hf.serves hf.size hr hfault hs.network
  rw [← hs.shape.fetch_eq] at hfetch
  refine (Listing.ensurePage_outcome f.client list w page).mono fun result t ht => ?_
  cases ht with
  | there h =>
    exact ⟨hs.grownTo hpage rfl List.prefix_rfl (hs.trace.mono hmore), hmore page h⟩
  | failed h hfailed =>
    cases hfetch.of_eq hfailed with
    | refused hr' hrefused hnetwork hsent =>
      cases hr.symm.trans hr'
      have hrefusal : f.Refused (list, w) (list.grownTo page, _) :=
        ⟨page, r, w.sent, h, hr, hrefused, List.prefix_rfl, hsent.imp_right And.left⟩
      rcases hsent with hsent | ⟨hsent, hserver⟩
      · have htrace := hs.trace.mono hmore
        exact ⟨hs.grownTo hpage hnetwork (hsent ▸ List.prefix_rfl) (hsent ▸ htrace), hrefusal⟩
      · have htrace : f.Trace start (list.grownTo page) (w.sent ++ [r]) :=
          hs.trace.append hr h hmore fun hreceived => by simp [hserver] at hreceived
        exact ⟨hs.grownTo hpage hnetwork (hsent ▸ List.prefix_append _ _) (hsent ▸ htrace), hrefusal⟩
  | @fetched p _ h hfetched =>
    cases hfetch.of_eq hfetched with
    | received hr' haccepted hp =>
      cases hr.symm.trans hr'
      have hplace := hs.grownTo hpage rfl List.prefix_rfl (hs.trace.mono hmore)
      have hnew : (list.grownTo page).page? page = none := (hgrown page).trans h
      have hthere := Listing.page?_withPage_self (Listing.lt_length_grownTo list page) p.items
      have htrace : f.Trace start ((list.grownTo page).withPage page p.items) (w.sent ++ [r]) := by
        refine hplace.faithful.trace.append hr hnew (fun other ho => ?_) fun _ =>
          Option.isSome_of_eq_some hthere
        by_cases hother : other = page
        · rw [hother]
          exact Option.isSome_of_eq_some hthere
        · rwa [Listing.page?_withPage_of_ne hother]
      refine ⟨hplace.trans ?_, Option.isSome_of_eq_some hthere⟩
      exact hplace.faithful.withPage (Listing.lt_length_grownTo list page) hnew hp.items rfl
        (List.prefix_append _ _) htrace

end Pages

/-! ## Reading items -/

theorem rel_getElem? {α β : Type} {R : α → β → Prop} {as : List α} {bs : List β}
    (h : List.Forall₂ R as bs) (index : Nat) : Option.Rel R as[index]? bs[index]? := by
  induction h generalizing index with
  | nil => exact .none
  | cons hab _ ih =>
    cases index with
    | zero => exact .some hab
    | succ index => simpa using ih index

theorem get?_calls (hf : f.Ready) (hs : f.Faithful start s) (index : Nat) :
    (Listing.get? f.client index).Yields s
      (f.Calls start s fun r? _ => Option.Rel f.Reads f.items[index]? r?) := by
  obtain ⟨list, w⟩ := s
  have htotal : list.total = f.items.length := hs.shape.total
  unfold Listing.get?
  apply Step.yields_read_bind.mpr
  dsimp only
  split
  · rename_i hout
    have hnone : f.items[index]? = none := by
      refine List.getElem?_eq_none (Nat.le_of_not_lt fun hindex => ?_)
      have hplaced : index / list.perPage < list.pageCount := (hs.shape.placed index hindex).1
      simp only [Bool.or_eq_true, decide_eq_true_eq] at hout
      omega
    rw [hnone]
    exact Calls.pure hs .none
  · rename_i hin
    simp only [Bool.or_eq_true, decide_eq_true_eq, not_or, Nat.not_le] at hin
    have hindex : index < f.items.length := htotal ▸ hin.1
    have hplaced := hs.shape.placed index hindex
    refine Calls.bind (ensurePage_calls hf hs hin.2) fun _ t ht hpage => ?_
    refine Step.yields_read_bind.mpr (Calls.pure ht.faithful ?_)
    obtain ⟨rs, hrs⟩ := Option.isSome_iff_exists.mp hpage
    have hitems := ht.faithful.pages _ rs hrs
    have hperPage : t.1.perPage = list.perPage := by rw [ht.rest]
    rw [hrs, hperPage, ← hplaced.2]
    exact rel_getElem? hitems _

theorem walk_calls (hf : f.Ready) (hs : f.Faithful start s) (count index : Nat) :
    (Listing.walk f.client count index).Yields s
      (f.Calls start s fun rs _ => List.Forall₂ f.Reads ((f.items.drop index).take count) rs) := by
  induction count generalizing s index with
  | zero => exact Calls.pure hs (by simp)
  | succ count ih =>
    refine Calls.bind (get?_calls hf hs index) fun r? t ht hr => ?_
    generalize hitem : f.items[index]? = item? at hr
    cases hr with
    | none =>
      have hdone : f.items.drop index = [] := List.drop_eq_nil_of_le (List.getElem?_eq_none_iff.mp hitem)
      exact Calls.pure ht.faithful (by simp [hdone])
    | @some item r hread =>
      obtain ⟨hindex, rfl⟩ := List.getElem?_eq_some_iff.mp hitem
      refine Calls.bind (ih ht.faithful (index + 1)) fun rs u hu hrs => ?_
      refine Calls.pure hu.faithful ?_
      rw [List.drop_eq_getElem_cons hindex, List.take_succ_cons]
      exact .cons hread hrs

theorem ensurePages_calls (hf : f.Ready) (hs : f.Faithful start s) (count page : Nat)
    (hcount : page + count ≤ s.1.pageCount) :
    (Listing.ensurePages f.client count page).Yields s (f.Calls start s fun _ list =>
      ∀ other, page ≤ other → other < page + count → (list.page? other).isSome = true) := by
  induction count generalizing s page with
  | zero => exact Calls.pure hs fun other hle hlt => by omega
  | succ count ih =>
    have hpage : page < s.1.pageCount := by omega
    refine Calls.bind (ensurePage_calls hf hs hpage) fun _ t ht hthere => ?_
    have hsame : t.1.pageCount = s.1.pageCount := by rw [ht.rest]
    refine (ih ht.faithful (page + 1) (by omega)).mono fun result u hu => ?_
    cases result with
    | error e => exact hu
    | ok _ =>
      refine ⟨hu.1, fun other hle hlt => ?_⟩
      by_cases ho : other = page
      · obtain ⟨rs, hrs⟩ := Option.isSome_iff_exists.mp hthere
        exact Option.isSome_of_eq_some (ho ▸ hu.1.pages page rs hrs)
      · exact hu.2 other (by omega) (by omega)

theorem Faithful.items (hs : f.Faithful start s)
    (hthere : ∀ page < s.1.pageCount, (s.1.page? page).isSome = true) :
    List.Forall₂ f.Reads f.items s.1.items := by
  have hall := Listing.whole_of_there hs.table hthere
  generalize s.1.table.map (fun rs? => rs?.getD []) = pages at hall
  have hpages : List.Forall₂ (fun page rs => List.Forall₂ f.Reads (f.chunk page) rs)
      (List.range s.1.pageCount) pages := by
    refine List.forall₂_iff_get.mpr ⟨by rw [List.length_range, hall.count], fun page h₁ h₂ => ?_⟩
    have hpage : s.1.page? page = some pages[page] := by
      rw [hall.page?_eq, List.getElem?_eq_getElem h₂]
    simpa using hs.pages page _ hpage
  have hwhole := hs.shape.whole
  rw [← hwhole, hall.items_eq, ← List.flatMap_id]
  exact List.rel_flatMap hpages fun _ _ h => h

theorem collect_calls (hf : f.Ready) (hs : f.Faithful start s) :
    (Listing.collect f.client).Yields s
      (f.Calls start s fun rs _ => List.Forall₂ f.Reads f.items rs) := by
  apply Step.yields_read_bind.mpr
  refine Calls.bind (ensurePages_calls hf hs s.1.pageCount 0 (by omega)) fun _ t ht hthere => ?_
  have hsame : t.1.pageCount = s.1.pageCount := by rw [ht.rest]
  refine ⟨.refl ht.faithful, ht.faithful.items fun page hpage => ?_⟩
  exact hthere page (Nat.zero_le _) (by omega)

/-! ## Every call -/

end CloudClient.Feed

namespace CloudClient.Listing

inductive Answer.Rel {α β : Type} (R : α → β → Prop) : Answer α → Answer β → Prop
  | item {a? : Option α} {b? : Option β} (h : Option.Rel R a? b?) : Rel R (.item a?) (.item b?)
  | items {as : List α} {bs : List β} (h : List.Forall₂ R as bs) : Rel R (.items as) (.items bs)

/-- The answer of a plain list; none where exactly one item is demanded and there is not one. -/
def Call.answer? {α : Type} (items : List α) : Call → Option (Answer α)
  | .get index => some (.item items[index]?)
  | .first => some (.item items.head?)
  | .last => some (.item items.getLast?)
  | .only => if items.length = 1 then some (.item items.head?) else none
  | .stream none => some (.items items)
  | .stream (some limit) => some (.items (items.take limit))
  | .collect => some (.items items)

end CloudClient.Listing

namespace CloudClient.Feed
variable {f : Feed} {start : Nat} {s t : Listing × World}

/-- What a call may return of a feed: the answer of its items, read from their payloads, or an error
where there is no answer or the server failed the last request. -/
def Answers (f : Feed) (call : Listing.Call) (s t : Listing × World) :
    Except Error (Listing.Answer Resource) → Prop
  | .ok answer => ∃ expected, call.answer? f.items = some expected ∧ expected.Rel f.Reads answer
  | .error _ => call.answer? f.items = none ∨ f.Refused s t

theorem Calls.answers {call : Listing.Call} {result : Except Error (Listing.Answer Resource)}
    {expected : Listing.Answer Json} (hexpected : call.answer? f.items = some expected)
    (h : f.Calls start s (fun answer _ => expected.Rel f.Reads answer) result t) :
    f.Leaves start s t ∧ f.Answers call s t result := by
  cases result with
  | ok answer => exact ⟨h.1, expected, hexpected, h.2⟩
  | error e => exact ⟨h.1, .inr h.2⟩

theorem last?_calls (hf : f.Ready) (hs : f.Faithful start s) :
    (Listing.last? f.client).Yields s
      (f.Calls start s fun r? _ => Option.Rel f.Reads f.items.getLast? r?) := by
  have htotal := hs.shape.total
  unfold Listing.last?
  apply Step.yields_read_bind.mpr
  split
  · rename_i hempty
    have hnone : f.items = [] := by
      refine List.eq_nil_of_length_eq_zero ?_
      simpa [Listing.isEmpty, htotal] using hempty
    exact Calls.pure hs (by simp [hnone])
  · rw [List.getLast?_eq_getElem?, ← htotal]
    exact get?_calls hf hs _

theorem only_calls (hf : f.Ready) (hs : f.Faithful start s) :
    (Listing.only f.client).Yields s fun result t =>
      f.items.length ≠ 1 ∧ t = s ∧ (∃ e, result = .error e) ∨
        f.items.length = 1 ∧
          f.Calls start s (fun r _ => Option.Rel f.Reads f.items.head? (some r)) result t := by
  have htotal := hs.shape.total
  unfold Listing.only
  apply Step.yields_read_bind.mpr
  split
  · rename_i hmany
    exact .inl ⟨htotal ▸ hmany, rfl, _, rfl⟩
  · rename_i hone
    have hlength : f.items.length = 1 := by
      rw [← htotal]
      exact Decidable.not_not.mp hone
    refine Step.Yields.mono (Q := f.Calls start s fun r _ => Option.Rel f.Reads f.items.head? (some r))
      (Calls.bind (get?_calls hf hs 0) fun r? t ht hr => ?_) fun _ _ h => .inr ⟨hlength, h⟩
    rw [← List.head?_eq_getElem?] at hr
    cases r? with
    | some r => exact Calls.pure ht.faithful hr
    | none =>
      obtain ⟨item, hitems⟩ := List.length_eq_one_iff.mp hlength
      rw [hitems] at hr
      cases hr

theorem stream_calls (hf : f.Ready) (hs : f.Faithful start s) (limit? : Option Nat) :
    (Listing.stream f.client limit?).Yields s (f.Calls start s fun rs _ =>
      List.Forall₂ f.Reads (f.items.take (limit?.getD f.items.length)) rs) := by
  have htotal := hs.shape.total
  have hwalk := fun count => walk_calls hf hs count 0
  apply Step.yields_read_bind.mpr
  cases limit? with
  | none => simpa [htotal] using hwalk s.1.total
  | some limit =>
    refine (hwalk (min limit s.1.total)).mono fun _ _ h => h.mono fun rs _ hrs => ?_
    rw [List.drop_zero, htotal, ← List.take_take, List.take_length] at hrs
    exact hrs

theorem perform_answers (hf : f.Ready) (hs : f.Faithful start s) (call : Listing.Call) :
    (call.perform f.client).Yields s fun result t =>
      f.Leaves start s t ∧ f.Answers call s t result := by
  cases call with
  | get index =>
    refine (Calls.bind (get?_calls hf hs index) fun r? t ht hr =>
      Calls.pure ht.faithful (.item hr)).mono fun _ _ h => h.answers rfl
  | first =>
    refine (Calls.bind (get?_calls hf hs 0) fun r? t ht hr =>
      Calls.pure ht.faithful (.item hr)).mono fun _ _ h => h.answers ?_
    simp [Listing.Call.answer?, List.head?_eq_getElem?]
  | last =>
    refine (Calls.bind (last?_calls hf hs) fun r? t ht hr =>
      Calls.pure ht.faithful (.item hr)).mono fun _ _ h => h.answers rfl
  | only =>
    refine (only_calls hf hs).bind ?_ ?_
    · intro r t h
      rcases h with ⟨-, -, e, he⟩ | ⟨hlength, ht, hr⟩
      · cases he
      · exact ⟨ht, _, by rw [Listing.Call.answer?, if_pos hlength], .item hr⟩
    · intro e t h
      rcases h with ⟨hlength, rfl, -⟩ | ⟨-, ht, hrefused⟩
      · exact ⟨.refl hs, .inl (by rw [Listing.Call.answer?, if_neg hlength])⟩
      · exact ⟨ht, .inr hrefused⟩
  | stream limit? =>
    refine (Calls.bind (stream_calls hf hs limit?) fun rs t ht hrs =>
      Calls.pure ht.faithful (.items hrs)).mono fun _ _ h => h.answers ?_
    cases limit? with
    | none => simp [Listing.Call.answer?]
    | some limit => rfl
  | collect =>
    refine (Calls.bind (collect_calls hf hs) fun rs t ht hrs =>
      Calls.pure ht.faithful (.items hrs)).mono fun _ _ h => h.answers rfl

end CloudClient.Feed
