import CloudClient.Proofs.Listing.Faithful
import CloudClient.Proofs.Resource.Reachable

/-!
# Lists from their opening on

The first page of a feed tells either that it is the only one or how long all others are, so the
list that it opens leads to every item. From there calls follow one another in any order, time
passing between them, and the server may fail any of the requests.
-/

namespace CloudClient.Feed
variable {f : Feed} {list : Listing} {w w' : World} {s s₀ : Listing × World} {first : Page}

def openedBy (f : Feed) (first : Page) : Listing :=
  .ofFirst f.client f.type f.path f.parent? f.filter? first

/-! ## The first page -/

theorem Counts.le_one_iff (hf : f.Serves) {pages : Nat} (h : f.Counts pages) :
    pages ≤ 1 ↔ f.items.length ≤ f.length := by
  have hone : Listing.chunkCount f.items.length f.length ≤ 1 ↔ f.items.length ≤ f.length := by
    rw [Listing.chunkCount_le_iff hf.positive, Nat.one_mul]
  rcases h with rfl | ⟨hempty, hle⟩
  · exact hone
  · refine ⟨fun _ => ?_, fun _ => hle⟩
    rw [hempty]
    exact Nat.zero_le _

theorem Delivers.length_eq (h : f.Delivers 0 first) :
    first.items.length = min f.length f.items.length := by
  rw [← h.items.length_eq, chunk, Listing.length_chunk, Nat.zero_mul, Nat.sub_zero]

theorem shape_of_single (hf : f.Serves) (h : f.Delivers 0 first) (hsingle : first.pages ≤ 1) :
    f.Shape (f.openedBy first) := by
  have hfits : f.items.length ≤ f.length := (h.pages.le_one_iff hf).mp hsingle
  have hheld : first.items.length = f.items.length := h.length_eq.trans (Nat.min_eq_right hfits)
  have hall : f.chunk 0 = f.items := Listing.chunk_zero_of_le hfits
  have hmany : ¬ 1 < first.pages := Nat.not_lt.mpr hsingle
  have hcount : (f.openedBy first).pageCount = 1 := Nat.max_eq_right hsingle
  refine ⟨rfl, rfl, rfl, rfl, ?_, fun index hindex => ?_, ?_⟩
  · exact (if_neg hmany).trans hheld
  · have hsize : index < (f.openedBy first).perPage := by
      simp only [openedBy, Listing.ofFirst, if_neg hmany]
      omega
    rw [hcount, Nat.div_eq_of_lt hsize, Nat.mod_eq_of_lt hsize, hall]
    exact ⟨Nat.zero_lt_one, rfl⟩
  · rw [hcount]
    simpa using hall

theorem Delivers.perPage_of_several (h : f.Delivers 0 first) (hf : f.Serves)
    (hmany : 1 < first.pages) : (f.openedBy first).perPage = f.length := by
  have hfull : f.length < f.items.length :=
    Nat.lt_of_not_le fun hle => Nat.not_le.mpr hmany ((h.pages.le_one_iff hf).mpr hle)
  have hheld : first.items.length = f.length :=
    h.length_eq.trans (Nat.min_eq_left (Nat.le_of_lt hfull))
  simp only [openedBy, Listing.ofFirst, if_pos hmany, hheld]
  exact Nat.max_eq_left hf.positive

theorem shape_of_several (hf : f.Serves) (h : f.Delivers 0 first) (hmany : 1 < first.pages) :
    f.Shape (f.openedBy first) := by
  have hpages : first.pages = Listing.chunkCount f.items.length f.length := by
    rcases h.pages with hpages | ⟨-, hle⟩
    · exact hpages
    · omega
  have hperPage := h.perPage_of_several hf hmany
  have hcount : (f.openedBy first).pageCount = Listing.chunkCount f.items.length f.length :=
    (Nat.max_eq_left (Nat.le_of_lt hmany)).trans hpages
  refine ⟨rfl, rfl, rfl, rfl, ?_, fun index hindex => ?_, ?_⟩
  · exact (if_pos hmany).trans h.results
  · rw [hcount, hperPage]
    exact ⟨Listing.div_lt_chunkCount hf.positive hindex, Listing.getElem?_chunk hf.positive index⟩
  · rw [hcount]
    exact Listing.flatMap_chunk (Listing.le_chunkCount_mul _ hf.positive)

theorem Delivers.shape (h : f.Delivers 0 first) (hf : f.Serves) : f.Shape (f.openedBy first) := by
  rcases Nat.lt_or_ge 1 first.pages with hmany | hsingle
  · exact shape_of_several hf h hmany
  · exact shape_of_single hf h hsingle

theorem page?_openedBy {page : Nat} {rs : List Resource}
    (h : (f.openedBy first).page? page = some rs) : page = 0 ∧ rs = first.items := by
  cases page with
  | zero => exact ⟨rfl, (Option.some.inj h).symm⟩
  | succ page => cases h

theorem trace_openedBy {sent : List Request} {r : Request} (hr : f.request 0 = .ok r) :
    f.Trace sent.length (f.openedBy first) (sent ++ [r]) := by
  have hempty : f.Trace sent.length { f.openedBy first with table := [] } sent := by
    refine ⟨Nat.le_refl _, fun i _ hi hreceived => ?_, fun i _ _ hi _ hreceived => ?_⟩
    · exact absurd hreceived.lt_length (Nat.not_lt.mpr hi)
    · exact absurd hreceived.lt_length (Nat.not_lt.mpr hi)
  exact hempty.append hr rfl (fun page hpage => by cases hpage) fun _ => rfl

theorem opened_faithful (hf : f.Serves) (hnetwork : f.Carries w.network)
    (h : Listing.opened f.client f.type f.path f.parent? f.filter? w = (.ok list, w')) :
    f.Ready ∧ f.Faithful w.sent.length (list, w') := by
  obtain ⟨first, w₁, hfetch, rfl, hw'⟩ := Listing.opened_ok h
  have hfetched := (Page.fetch_fetched f.client f.type f.path f.parent? f.filter? 1 w).of_eq hfetch
  generalize hresult : (.ok first : Except Error Page) = result at hfetched
  cases hfetched with
  | unasked => cases hresult
  | failed => cases hresult
  | @answered r answer _ _ _ hr hfault hanswer hdecode =>
    subst hresult
    have hreceived : (f.server w.sent r).json? = some answer := hnetwork.of_json hanswer
    have hasked : f.request 0 = .ok r := hr
    obtain ⟨hfirst, hsize⟩ := hf.delivers hasked hreceived (Page.decode_ok hdecode)
    refine ⟨⟨hf, hsize, fun page => Client.pageRequest_sendable hr hfault (page + 1)⟩, ?_⟩
    rw [hw']
    refine ⟨hfirst.shape hf, fun page rs hrs => ?_, ?_, hnetwork, trace_openedBy hr⟩
    · obtain ⟨rfl, rfl⟩ := page?_openedBy hrs
      exact hfirst.items
    · exact Nat.le_max_right first.pages 1

/-! ## Two nodes -/

def nodeAnswer (id : Nat) : Json :=
  .obj [("data", .arr [.obj [("id", .nat id)]]), ("pages", .nat 2), ("results", .nat 2)]

def pageQuery (page : Nat) : List Char :=
  "page=".toList ++ Nat.toDigits 10 page ++ "&page_size=100".toList

def nodes : Feed where
  client := Resource.clientOf .nodeRegistry
  type := Registry.nodeType
  path := "/nodes"
  parent? := none
  filter? := none
  items := [.obj [("id", .nat 1)], .obj [("id", .nat 2)]]
  length := 1
  server := fun earlier r =>
    if earlier.length = 1 then .dropped
    else if r.url.query? = some (pageQuery 1) then .ofJson (nodeAnswer 1)
    else if r.url.query? = some (pageQuery 2) then .ofJson (nodeAnswer 2)
    else .dropped

theorem page_of_query (other : Nat) {page : Nat} {r : Request} {query : List Char}
    (hr : f.request page = .ok r) (hquery : r.url.query? = some query)
    (hother : (f.request other).toOption.bind (fun s => s.url.query?) = some query) :
    page = other := by
  cases hs : f.request other with
  | error e =>
    rw [hs] at hother
    cases hother
  | ok s =>
    rw [hs] at hother
    exact Nat.succ.inj (Client.pageRequest_injective hr hs (hquery.trans hother.symm))

theorem nodes_serves : nodes.Serves := by
  refine ⟨Nat.zero_lt_one, fun item hitem => ?_, ?_⟩
  · rcases List.mem_cons.mp hitem with rfl | hitem
    · exact ⟨_, 0, [], _, rfl⟩
    · obtain rfl := List.mem_singleton.mp hitem
      exact ⟨_, 0, [], _, rfl⟩
  · intro page r earlier answer hr hanswer
    have hfirst : (Delivery.ofJson (nodeAnswer 1)).json? = some (nodeAnswer 1) := by decide +kernel
    have hsecond : (Delivery.ofJson (nodeAnswer 2)).json? = some (nodeAnswer 2) := by decide +kernel
    have hpages : nodes.Counts 2 := .inl rfl
    dsimp only [nodes] at hanswer
    split at hanswer
    · cases hanswer
    split at hanswer
    · rename_i hquery
      cases page_of_query 0 hr hquery (by decide +kernel)
      cases hfirst.symm.trans hanswer
      exact ⟨rfl, rfl, 2, rfl, hpages⟩
    split at hanswer
    · rename_i hquery
      cases page_of_query 1 hr hquery (by decide +kernel)
      cases hsecond.symm.trans hanswer
      exact ⟨rfl, rfl, 2, rfl, hpages⟩
    · cases hanswer

/-! ## Any calls in any order -/

/-- What a list can come to: calls one after another, whether or not they succeed, and waiting, after
which the network may lose other requests. -/
inductive Visits (f : Feed) (s₀ : Listing × World) : Listing × World → Prop
  | opened : Visits f s₀ s₀
  | waited {s : Listing × World} (now : Nat) {network : Network} (hnetwork : f.Carries network)
      (h : Visits f s₀ s) : Visits f s₀ (s.1, { s.2 with now, network })
  | called {s t : Listing × World} {result : Except Error (Listing.Answer Resource)}
      (call : Listing.Call) (h : Visits f s₀ s) (hcall : call.perform f.client s = (result, t)) :
      Visits f s₀ t

theorem visits_faithful (hf : f.Ready) (hs : f.Faithful start s₀)
    (h : f.Visits s₀ s) : f.Faithful start s := by
  induction h with
  | opened => exact hs
  | waited now hnetwork _ ih => exact ⟨ih.shape, ih.pages, ih.table, hnetwork, ih.trace⟩
  | called call _ hcall ih => exact ((perform_answers hf ih call).of_eq hcall).1.faithful

/-- A list over a feed loses nothing: however it was used since it was opened, it counts all items,
every call answers from the items or fails with the server, and no request that brought a page is
sent again. -/
theorem visits_answer {kind : String} (hf : f.Serves) (htype : f.client.registry.get kind = .ok f.type)
    (hpath : Endpoint.collection f.type f.parent? = .ok f.path) (hnetwork : f.Carries w.network)
    (hopened : f.client.list kind f.parent? f.filter? w = (.ok list, w'))
    (h : f.Visits (list, w') s) :
    s.1.total = f.items.length ∧
      (∀ call result t, Listing.Call.perform f.client call s = (result, t) →
        f.Answers call s t result) ∧
      ∀ i j r, w.sent.length ≤ i → i < j → f.Received s.2.sent i r → s.2.sent[j]? ≠ some r := by
  obtain ⟨type, path, htype', hpath', hlist⟩ := Listing.list_ok hopened
  cases htype.symm.trans htype'
  cases hpath.symm.trans hpath'
  obtain ⟨hready, hfaithful⟩ := opened_faithful hf hnetwork hlist
  have hs : f.Faithful w.sent.length s := visits_faithful hready hfaithful h
  refine ⟨hs.shape.total, fun call result t hcall => ?_, hs.trace.once⟩
  exact ((perform_answers hready hs call).of_eq hcall).2

/-- Asking for the second node fails the first time, and changes nothing that is asked later. -/
theorem visits_answer_nodes : ∃ list w' e s,
    nodes.client.list "node" none none { network := nodes.server } = (.ok list, w') ∧
      Listing.Call.perform nodes.client (.get 1) (list, w') = (.error e, s) ∧
      s.1.total = 2 ∧
      (∀ call result t, Listing.Call.perform nodes.client call s = (result, t) →
        nodes.Answers call s t result) ∧
      ∀ i j r, 0 ≤ i → i < j → nodes.Received s.2.sent i r → s.2.sent[j]? ≠ some r := by
  have hfails : (match nodes.client.list "node" none none { network := nodes.server } with
      | (.ok list, w') => (Listing.Call.perform nodes.client (.get 1) (list, w')).1.toOption.isNone
      | _ => false) = true := by decide +kernel
  generalize hopened : nodes.client.list "node" none none { network := nodes.server } = outcome
    at hfails
  obtain ⟨_ | list, w'⟩ := outcome
  · cases hfails
  dsimp only at hfails
  generalize hget : Listing.Call.perform nodes.client (.get 1) (list, w') = outcome at hfails
  obtain ⟨e | answer, s⟩ := outcome
  · exact ⟨list, w', e, s, rfl, hget,
      visits_answer nodes_serves rfl rfl (fun _ _ => .inr rfl) hopened (.called _ .opened hget)⟩
  · cases hfails

end CloudClient.Feed
