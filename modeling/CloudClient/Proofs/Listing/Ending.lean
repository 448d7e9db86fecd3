import CloudClient.Proofs.Exchange.Ending

/-!
# Exchanges of lists

A list is opened with its first page and collected page by page, each asked for once and in order.
The first exchange that fails ends this, so a list that was collected was asked for as a whole.
-/

namespace CloudClient
open Step (Asks AsksOnce Ends Silent)
variable {σ α β : Type} {s : σ} {w : World}

/-! ## Pages -/

theorem Page.decoding_silent (c : Client) (type : ResourceType) (parent? : Option ParentKey)
    (answer : Json) : Silent (Step.second (do
      let now ← Step.read World.now
      World.logged (decode c.registry now type parent? answer)) : Step (σ × World) Page) := by
  rw [Step.second_bind]
  exact (Silent.second fun _ => ⟨rfl, rfl, rfl⟩).bind fun _ => .second fun _ => ⟨rfl, rfl, rfl⟩

section Fetching
variable (c : Client) (type : ResourceType) (path : String) (parent? : Option ParentKey)
  (filter? : Option Filter) (page : Nat)

theorem Page.fetch_ends :
    Ends (Step.second (Page.fetch c type path parent? filter? page) : Step (σ × World) Page) := by
  unfold Page.fetch
  rw [Client.getPage_eq]
  exact (Exchange.ask_ends _).second_bind fun answer => (decoding_silent c type parent? answer).ends

theorem Page.fetch_asks (s : σ) (w : World) :
    AsksOnce (Step.second (Page.fetch c type path parent? filter? page) : Step (σ × World) Page)
      (c.pageRequest path page filter?) s w := by
  unfold Page.fetch
  rw [Client.getPage_eq, Step.second_bind]
  exact (Exchange.ask_asks _ s w).bind (Exchange.ask_ends _) (decoding_silent c type parent?)

end Fetching

/-- These are the requests for the pages from one on, each once and in order. -/
def AskedInOrder (request : Nat → Except Error Request) (page : Nat) (rs : List Request) : Prop :=
  ∀ i r, rs[i]? = some r → request (page + i) = .ok r

section Order
variable {request : Nat → Except Error Request} {page : Nat} {r : Request} {rs : List Request}

theorem AskedInOrder.nil : AskedInOrder request page [] := fun _ _ h => by cases h

theorem AskedInOrder.cons (hr : request page = .ok r) (h : AskedInOrder request (page + 1) rs) :
    AskedInOrder request page (r :: rs) := by
  intro i q hq
  cases i with
  | zero =>
    cases hq
    exact hr
  | succ i =>
    rw [← Nat.add_assoc, Nat.add_right_comm]
    exact h i q hq

theorem AskedInOrder.of_one (h : rs = [] ∨ ∃ r, request page = .ok r ∧ rs = [r]) :
    AskedInOrder request page rs := by
  rcases h with rfl | ⟨r, hr, rfl⟩
  · exact .nil
  · exact .cons hr .nil

end Order

namespace Listing
variable {c : Client} {list : Listing} {page : Nat}

theorem opened_eq (c : Client) (type : ResourceType) (path : String) (parent? : Option ParentKey)
    (filter? : Option Filter) : ∃ rest : Page → Step World Listing,
      opened c type path parent? filter? = (Page.fetch c type path parent? filter? 1 >>= rest) ∧
        ∀ first, Silent (Step.second (rest first) : Step (σ × World) Listing) := by
  refine ⟨_, rfl, fun first => ?_⟩
  have hnoted : Silent (Step.second (do
      let list := ofFirst c type path parent? filter? first
      World.note .debug ("Listed " ++ type.key ++ ": " ++ toString list.total ++ " item(s) over " ++
        toString list.pageCount ++ " page(s)")
      return list) : Step (σ × World) Listing) := by
    rw [Step.second_bind]
    exact (Silent.note _ _).bind fun _ => .second fun _ => ⟨rfl, rfl, rfl⟩
  dsimp only
  split
  · rw [Step.second_bind]
    exact (Silent.note _ _).bind fun _ => hnoted
  · exact hnoted

theorem opened_ends (c : Client) (type : ResourceType) (path : String)
    (parent? : Option ParentKey) (filter? : Option Filter) :
    Ends (Step.second (opened c type path parent? filter?) : Step (σ × World) Listing) := by
  obtain ⟨rest, heq, hrest⟩ := opened_eq (σ := σ) c type path parent? filter?
  rw [heq]
  exact (Page.fetch_ends c type path parent? filter? 1).second_bind fun first => (hrest first).ends

theorem opened_asks (c : Client) (type : ResourceType) (path : String)
    (parent? : Option ParentKey) (filter? : Option Filter) (s : σ) (w : World) :
    AsksOnce (Step.second (opened c type path parent? filter?) : Step (σ × World) Listing)
      (c.pageRequest path 1 filter?) s w := by
  obtain ⟨rest, heq, hrest⟩ := opened_eq (σ := σ) c type path parent? filter?
  rw [heq, Step.second_bind]
  exact (Page.fetch_asks c type path parent? filter? 1 s w).bind (Page.fetch_ends _ _ _ _ _ _) hrest

theorem ensurePage_ends (c : Client) (page : Nat) : Ends (ensurePage c page) := by
  refine (Silent.modify fun list : Listing => list.grownTo page).ends.bind fun _ => ?_
  refine (Silent.read (fun list _ => list) fun _ _ => rfl).ends.bind fun list => ?_
  split
  · refine (Page.fetch_ends c _ _ _ _ _).bind fun fetched => ?_
    exact (Silent.modify fun list : Listing => list.withPage page fetched.items).ends
  · exact (Silent.pure _).ends

theorem ensurePages_ends (c : Client) (count page : Nat) : Ends (ensurePages c count page) := by
  induction count generalizing page with
  | zero => exact (Silent.pure _).ends
  | succ count ih => exact (ensurePage_ends c page).bind fun _ => ih (page + 1)

theorem collect_ends (c : Client) : Ends (collect c) := by
  refine (Silent.read (fun list _ => list) fun _ _ => rfl).ends.bind fun list => ?_
  refine (ensurePages_ends c _ _).bind fun _ => ?_
  exact (Silent.read (fun (list : Listing) _ => list.items) fun _ _ => rfl).ends

theorem ensurePage_tried (hnew : list.page? page = none) (w : World) :
    ((ensurePage c page).tried list w = [] ∧ ∃ e, (ensurePage c page (list, w)).1 = .error e) ∨
      ∃ r, c.pageRequest list.path (page + 1) list.filter? = .ok r ∧
        (ensurePage c page).tried list w = [r] := by
  let fetching : Paging Unit :=
    Step.second (Page.fetch c list.type list.path list.parent? list.filter? (page + 1)) >>=
      fun fetched => Step.modify fun t => (t.1.withPage page fetched.items, t.2)
  have hrun : ∀ v, ensurePage c page (list, v) = fetching (list.grownTo page, v) := by
    intro v
    rw [ensurePage_eq, hnew]
  have htried : (ensurePage c page).tried list w = fetching.tried (list.grownTo page) w := by
    rw [Step.tried, hrun, Step.tried]
  have hasks : AsksOnce fetching (c.pageRequest list.path (page + 1) list.filter?)
      (list.grownTo page) w :=
    (Page.fetch_asks c _ _ _ _ _ _ w).bind (Page.fetch_ends c _ _ _ _ _) fun fetched =>
      .modify fun list : Listing => list.withPage page fetched.items
  rw [htried, hrun]
  exact hasks.cases

theorem ensurePage_next {list' : Listing} {w' : World} (hlength : list.table.length = page)
    (h : ensurePage c page (list, w) = (.ok (), list', w')) :
    list'.table.length = page + 1 ∧ list'.path = list.path ∧ list'.filter? = list.filter? := by
  have htable := ((ensurePage_outcome c list w page).of_eq h).length_table
  obtain ⟨table, rfl⟩ := ((ensurePage_ensured c (list, w) page).of_eq h).later.rest
  rw [hlength, Nat.max_eq_right (Nat.le_succ page)] at htable
  exact ⟨htable, rfl, rfl⟩

theorem ensurePages_tried (c : Client) (count : Nat) {page : Nat} {list : Listing}
    (hlength : list.table.length = page) (w : World) :
    AskedInOrder (fun page => c.pageRequest list.path (page + 1) list.filter?) page
        ((ensurePages c count page).tried list w) ∧
      ((ensurePages c count page (list, w)).1 = .ok () →
        ((ensurePages c count page).tried list w).length = count) := by
  induction count generalizing page list w with
  | zero =>
    have htried : (ensurePages c 0 page).tried list w = [] := (Silent.pure ()).tried_eq_nil list w
    rw [htried]
    exact ⟨.nil, fun _ => rfl⟩
  | succ count ih =>
    have hnew : list.page? page = none := by simp [page?, ← hlength]
    have hends := ensurePage_ends c page list w
    have hfirst := ensurePage_tried (c := c) hnew w
    cases hresult : ensurePage c page (list, w) with
    | mk result t =>
      cases result with
      | error e =>
        obtain ⟨-, htried⟩ := hends.run_of_error (f := fun _ => ensurePages c count (page + 1))
          (congrArg Prod.fst hresult)
        rw [ensurePages, htried, Step.bind_of_error hresult]
        exact ⟨.of_one (hfirst.imp_left And.left), fun h => by cases h⟩
      | ok u =>
        obtain ⟨-, -, htried⟩ := hends.run_of_ok (f := fun _ => ensurePages c count (page + 1))
          (congrArg Prod.fst hresult) (ensurePages_ends c count (page + 1) _ _)
        obtain ⟨hnext, hpath, hfilter⟩ := ensurePage_next hlength hresult
        obtain ⟨hin, hcount⟩ := ih hnext t.2
        rw [hpath, hfilter] at hin
        rw [ensurePages, htried, Step.bind_of_ok hresult, hresult]
        rcases hfirst with ⟨-, e, herror⟩ | ⟨r, hr, hone⟩
        · rw [hresult] at herror
          cases herror
        · rw [hone]
          exact ⟨.cons hr hin, fun h => congrArg (· + 1) (hcount h)⟩

theorem collect_tried (c : Client) (type : ResourceType) (path : String)
    (parent? : Option ParentKey) (filter? : Option Filter) (first : Page) (w : World) :
    AskedInOrder (fun page => c.pageRequest path (page + 1) filter?) 1
        ((collect c).tried (ofFirst c type path parent? filter? first) w) ∧
      ∀ rs, (collect c (ofFirst c type path parent? filter? first, w)).1 = .ok rs →
        ((collect c).tried (ofFirst c type path parent? filter? first) w).length + 1 =
          max first.pages 1 := by
  obtain ⟨count, hcount⟩ := Nat.exists_eq_add_one.mpr (Nat.le_max_right first.pages 1)
  have hcollect : ∀ v, collect c (ofFirst c type path parent? filter? first, v) =
      (ensurePages c count 1 >>= fun _ => Step.read fun t => t.1.items)
        (ofFirst c type path parent? filter? first, v) := by
    intro v
    unfold collect
    rw [Step.bind_of_ok (Step.read_apply _ _)]
    dsimp only [ofFirst]
    rw [hcount]
    rfl
  have hread : ∀ u : Unit, Silent (Step.read fun t : Listing × World => t.1.items) :=
    fun _ => .read (fun (list : Listing) _ => list.items) fun _ _ => rfl
  have htried : (collect c).tried (ofFirst c type path parent? filter? first) w =
      (ensurePages c count 1).tried (ofFirst c type path parent? filter? first) w := by
    rw [← (ensurePages_ends c count 1).tried_bind hread, Step.tried, hcollect, Step.tried]
  obtain ⟨hin, hall⟩ :=
    @ensurePages_tried c count 1 (ofFirst c type path parent? filter? first) rfl w
  rw [htried]
  refine ⟨hin, fun rs hrs => ?_⟩
  obtain ⟨u, t, hpages, -⟩ := Step.bind_eq_ok.mp (Prod.ext ((hcollect w).symm ▸ hrs) rfl)
  rw [hall (congrArg Prod.fst hpages), hcount]

/-- Collecting a list that only the run itself holds. -/
def collecting (c : Client) (list : Listing) : Step World (List Resource) := fun w =>
  ((collect c (list, w)).1, (collect c (list, w)).2.2)

theorem collecting_ends (c : Client) (list : Listing) :
    Ends (Step.second (collecting c list) : Step (σ × World) (List Resource)) := by
  intro s w
  have h := collect_ends c list w
  exact ⟨h.network, h.result, rfl, h.world, h.sent, h.arrived, h.last⟩

end Listing

/-! ## Whole lists -/

namespace Client
variable {c : Client} {kind : String} {parent? : Option ParentKey}

def listRequest (c : Client) (kind : String) (parent? : Option ParentKey) (page : Nat) :
    Except Error Request := do
  let type ← c.registry.get kind
  let path ← Endpoint.collection type parent?
  c.pageRequest path (page + 1) none

theorem listRequest_eq {type : ResourceType} {path : String} (htype : c.registry.get kind = .ok type)
    (hpath : Endpoint.collection type parent? = .ok path) :
    c.listRequest kind parent? = fun page => c.pageRequest path (page + 1) none := by
  funext page
  rw [listRequest, htype]
  change (Endpoint.collection type parent? >>= _) = _
  rw [hpath]
  rfl

theorem list_ends (c : Client) (kind : String) (parent? : Option ParentKey) :
    Ends (Step.second (c.list kind parent? none) : Step (σ × World) Listing) := by
  refine (Silent.second fun _ => ⟨rfl, rfl, rfl⟩).ends.second_bind fun type => ?_
  refine (Silent.second fun _ => ⟨rfl, rfl, rfl⟩).ends.second_bind fun path => ?_
  exact Listing.opened_ends c type path parent? none

theorem list_asks (c : Client) (kind : String) (parent? : Option ParentKey) (s : σ) (w : World) :
    AsksOnce (Step.second (c.list kind parent? none) : Step (σ × World) Listing)
      (c.listRequest kind parent? 0) s w := by
  cases htype : c.registry.get kind with
  | error e =>
    have hnone : c.listRequest kind parent? 0 = .error e := by
      rw [listRequest, htype]
      rfl
    rw [hnone]
    exact .of_error fun v => by rw [Step.second_apply, list, htype]; rfl
  | ok type =>
    cases hpath : Endpoint.collection type parent? with
    | error e =>
      have hnone : c.listRequest kind parent? 0 = .error e := by
        rw [listRequest, htype]
        change (Endpoint.collection type parent? >>= _) = _
        rw [hpath]
        rfl
      have hrun : c.list kind parent? none = Step.ofExcept (.error e) := by
        rw [list, htype]
        change (Step.ofExcept (Endpoint.collection type parent?) >>= _) = _
        rw [hpath]
        rfl
      rw [hnone, hrun]
      exact .of_error fun _ => rfl
    | ok path =>
      rw [listRequest_eq htype hpath, Listing.list_eq_opened htype hpath]
      exact Listing.opened_asks c type path parent? none s w

theorem listAll_eq (c : Client) (kind : String) (parent? : Option ParentKey) :
    (Step.second (c.listAll kind parent?) : Step (σ × World) (List Resource)) =
      Step.second (c.list kind parent? none) >>= fun list => Step.second (Listing.collecting c list) :=
  Step.second_bind _ _

theorem listAll_ends (c : Client) (kind : String) (parent? : Option ParentKey) :
    Ends (Step.second (c.listAll kind parent?) : Step (σ × World) (List Resource)) := by
  rw [listAll_eq]
  exact (c.list_ends kind parent?).bind fun list => Listing.collecting_ends c list

theorem list_answered {list : Listing} {w' : World}
    (h : c.list kind parent? none w = (.ok list, w')) :
    ∃ type path r answer first, c.registry.get kind = .ok type ∧
      Endpoint.collection type parent? = .ok path ∧ c.pageRequest path 1 none = .ok r ∧
      (w.network w.sent r).json? = some answer ∧
      Page.DecodedFrom c.registry type parent? answer first ∧
      list = .ofFirst c type path parent? none first := by
  obtain ⟨type, path, htype, hpath, hopened⟩ := Listing.list_ok h
  obtain ⟨first, w₁, hfetch, hlist, -⟩ := Listing.opened_ok hopened
  have hfetched := (Page.fetch_fetched c type path parent? none 1 w).of_eq hfetch
  generalize hresult : (.ok first : Except Error Page) = result at hfetched
  cases hfetched with
  | unasked => cases hresult
  | failed => cases hresult
  | answered hr _ hanswer hdecode =>
    subst hresult
    exact ⟨type, path, _, _, first, htype, hpath, hr, hanswer, Page.decode_ok hdecode, hlist⟩

end Client

/-- The pages of a whole list are asked for in order, and if the operation succeeds, as many as the
first answer reports. -/
structure AsksPages (x : Step (σ × World) α) (c : Client) (kind : String)
    (parent? : Option ParentKey) (s : σ) (w : World) : Prop
    extends Asks x (c.listRequest kind parent? 0) s w where
  inOrder : AskedInOrder (c.listRequest kind parent?) 0 (x.tried s w)
  whole : ∀ a, (x (s, w)).1 = .ok a → ∃ type r answer first, c.registry.get kind = .ok type ∧
    c.listRequest kind parent? 0 = .ok r ∧ (w.network w.sent r).json? = some answer ∧
    Page.DecodedFrom c.registry type parent? answer first ∧
      (x.tried s w).length = max first.pages 1

section AsksPages
variable {x y : Step (σ × World) α} {f : α → Step (σ × World) β} {c : Client} {kind : String}
  {parent? : Option ParentKey}

theorem AsksPages.bind (h : AsksPages x c kind parent? s w) (hx : Ends x) (hf : ∀ a, Silent (f a)) :
    AsksPages (x >>= f) c kind parent? s w := by
  have htried := hx.tried_bind hf s w
  refine ⟨h.toAsks.bind (hx s w) fun a _ => (hf a).ends _ _, htried ▸ h.inOrder, fun b hb => ?_⟩
  obtain ⟨a, t, ha, -⟩ := Step.bind_eq_ok.mp (Prod.ext hb rfl)
  rw [htried]
  exact h.whole a (congrArg Prod.fst ha)

theorem AsksPages.of_eq (h : AsksPages y c kind parent? s w) (heq : x (s, w) = y (s, w))
    (heq' : x (s, w.recording) = y (s, w.recording)) : AsksPages x c kind parent? s w := by
  have htried : x.tried s w = y.tried s w := by rw [Step.tried, heq', Step.tried]
  obtain ⟨hasks, hin, hwhole⟩ := h
  rw [← htried] at hin hwhole
  rw [← heq] at hwhole
  exact ⟨hasks.of_eq heq heq' rfl, hin, hwhole⟩

end AsksPages

theorem Client.listAll_asks (c : Client) (kind : String) (parent? : Option ParentKey) (s : σ)
    (w : World) : AsksPages (Step.second (c.listAll kind parent?) : Step (σ × World) (List Resource))
      c kind parent? s w := by
  have hasks := c.list_asks kind parent? s w
  have hends := c.list_ends kind parent? s w
  have hrest := fun list => Listing.collecting_ends (σ := σ) c list
  have hfirst := hasks.toAsks.bind hends fun list _ => hrest list _ _
  rw [listAll_eq]
  cases hrun : c.list kind parent? none w with
  | mk result w' =>
    have hlist : Step.second (c.list kind parent? none) (s, w) = (result, s, w') := by
      rw [Step.second_apply, hrun]
    cases result with
    | error e =>
      obtain ⟨-, htried⟩ := hends.run_of_error
        (f := fun list => Step.second (Listing.collecting c list)) (congrArg Prod.fst hlist)
      refine ⟨hfirst, ?_, fun a ha => ?_⟩
      · rw [htried]
        exact .of_one (hasks.cases.imp_left And.left)
      · rw [Step.bind_of_error hlist] at ha
        cases ha
    | ok list =>
      obtain ⟨type, path, r, answer, first, htype, hpath, hr, hanswer, hdecoded, rfl⟩ :=
        list_answered hrun
      have hrequest := listRequest_eq htype hpath
      obtain ⟨hin, hall⟩ := Listing.collect_tried c type path parent? none first w'
      obtain ⟨-, -, htried⟩ := hends.run_of_ok
        (f := fun list => Step.second (Listing.collecting c list)) (congrArg Prod.fst hlist)
        (hrest _ _ _)
      rw [hlist] at htried
      rcases hasks.cases with ⟨-, e, herror⟩ | ⟨q, hq, hone⟩
      · rw [hlist] at herror
        cases herror
      · rw [hone] at htried
        refine ⟨hfirst, ?_, fun rs hrs => ⟨type, r, answer, first, htype, ?_, hanswer, hdecoded, ?_⟩⟩
        · rw [htried, List.singleton_append]
          refine .cons hq ?_
          rw [hrequest]
          exact hin
        · rw [hrequest]
          exact hr
        · rw [Step.bind_of_ok hlist] at hrs
          rw [htried, ← hall rs hrs]
          rfl

end CloudClient
