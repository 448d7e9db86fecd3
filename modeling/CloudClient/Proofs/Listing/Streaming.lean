import CloudClient.Proofs.Listing.Readout
import CloudClient.Proofs.Listing.Source
import CloudClient.Proofs.Resource.Requests

/-!
# Streaming and collecting

A list is streamed item by item under growing indexes, and collected page by page. Both ask for
missing pages in the same order, so what can be collected can be streamed. Collecting gives all
that the pages hold, streaming what is read of them by index.
-/

namespace CloudClient.Listing
variable {client : Client} {list list' : Listing} {s t u : Listing × World}
  {pages : List (List Resource)} {rs cs : List Resource} {index count page : Nat}

def Agreeing (list list' : Listing) : Prop :=
  ∀ page rs rs', list.page? page = some rs → list'.page? page = some rs' → rs = rs'

theorem Later.agreeing (h : Later list list') : Agreeing list list' := by
  intro page rs rs' hrs hrs'
  cases (h.pages page rs hrs).symm.trans hrs'
  rfl

theorem Later.pageCount_eq (h : Later list list') : list'.pageCount = list.pageCount := by
  obtain ⟨table, rfl⟩ := h.rest
  rfl

theorem Later.perPage_eq (h : Later list list') : list'.perPage = list.perPage := by
  obtain ⟨table, rfl⟩ := h.rest
  rfl

theorem Later.total_eq (h : Later list list') : list'.total = list.total := by
  obtain ⟨table, rfl⟩ := h.rest
  rfl

theorem later_keeps (list : Listing) (page : Nat) :
    Keeps (fun t => Later list t.1) (ensurePage client page) := fun s hs =>
  (ensurePage_ensured client s page).mono fun _ _ ht => hs.trans ht.later

theorem lt_length_of_page? (h : list.page? page = some rs) : page < list.table.length :=
  Nat.lt_of_not_le fun hle => by simp [page?, List.getElem?_eq_none hle] at h

/-! ## Collecting -/

theorem ensurePages_ok (h : ensurePages client count page s = (.ok (), t)) :
    Later s.1 t.1 ∧ ∀ other, page ≤ other → other < page + count →
      (t.1.page? other).isSome = true := by
  induction count generalizing s page with
  | zero =>
    cases h
    exact ⟨.refl _, fun other hle hlt => by omega⟩
  | succ count ih =>
    obtain ⟨_, s₁, hpage, h⟩ := Step.bind_eq_ok.mp h
    have hensured := (ensurePage_ensured client s page).of_eq hpage
    obtain ⟨hlater, hthere⟩ := ih h
    refine ⟨hensured.later.trans hlater, fun other hle hlt => ?_⟩
    by_cases ho : other = page
    · obtain ⟨rs, hrs⟩ := Option.isSome_iff_exists.mp (hensured.there rfl)
      exact Option.isSome_of_eq_some (ho ▸ hlater.pages page rs hrs)
    · exact hthere other (by omega) (by omega)

theorem collect_eq_ok (h : collect client s = (.ok cs, u)) :
    ensurePages client s.1.pageCount 0 s = (.ok (), u) ∧ cs = u.1.items := by
  obtain ⟨_, _, hread, h⟩ := Step.bind_eq_ok.mp h
  cases hread
  obtain ⟨_, _, hpages, h⟩ := Step.bind_eq_ok.mp h
  cases h
  exact ⟨hpages, rfl⟩

theorem collect_whole (h : collect client s = (.ok cs, u))
    (htable : u.1.table.length ≤ u.1.pageCount) :
    ∃ pages, Whole u.1 pages ∧ cs = pages.flatten := by
  obtain ⟨hpages, rfl⟩ := collect_eq_ok h
  obtain ⟨hlater, hthere⟩ := ensurePages_ok hpages
  have hwhole := whole_of_there htable fun page hpage =>
    hthere page (Nat.zero_le _) (by rw [Nat.zero_add, ← hlater.pageCount_eq]; exact hpage)
  exact ⟨_, hwhole, hwhole.items_eq⟩

/-! ## Streaming -/

def Among (list : Listing) (pages : List (List Resource)) : Prop :=
  ∀ page rs, list.page? page = some rs → pages[page]? = some rs

theorem Among.of_later (h : Among list' pages) (hlater : Later list list') : Among list pages :=
  fun page rs hrs => h page rs (hlater.pages page rs hrs)

theorem get?_ok {r? : Option Resource} (h : get? client index s = (.ok r?, t))
    (hindex : index < s.1.total) (hcount : pages.length = s.1.pageCount)
    (hamong : Among t.1 pages) :
    Later s.1 t.1 ∧ r? = look s.1.perPage pages index := by
  obtain ⟨_, _, hread, h⟩ := Step.bind_eq_ok.mp h
  cases hread
  split at h
  · rename_i hout
    cases h
    have hpage : pages.length ≤ index / s.1.perPage := by simp at hout; omega
    exact ⟨.refl _, by simp [look, List.getElem?_eq_none hpage]⟩
  · obtain ⟨_, s₁, hpage, h⟩ := Step.bind_eq_ok.mp h
    obtain ⟨_, _, hread, h⟩ := Step.bind_eq_ok.mp h
    cases hread
    cases h
    have hensured := (ensurePage_ensured client s _).of_eq hpage
    obtain ⟨rs, hrs⟩ := Option.isSome_iff_exists.mp (hensured.there rfl)
    refine ⟨hensured.later, ?_⟩
    rw [look, hamong _ rs hrs, hrs, hensured.later.perPage_eq]

theorem walk_later (client : Client) (s : Listing × World) (count index : Nat) :
    (walk client count index).Yields s fun _ t => Later s.1 t.1 :=
  walk_keeps (fun page _ => later_keeps s.1 page) count index s (.refl _)

theorem walk_ok (hpos : 0 < s.1.perPage) (h : walk client count index s = (.ok rs, t))
    (htotal : index + count ≤ s.1.total) (hcount : pages.length = s.1.pageCount)
    (hamong : Among t.1 pages) (hindex : index ≤ (readout s.1.perPage pages).length) :
    rs = ((readout s.1.perPage pages).drop index).take count := by
  induction count generalizing s index rs with
  | zero =>
    cases h
    simp
  | succ count ih =>
    obtain ⟨r?, s₁, hget, h⟩ := Step.bind_eq_ok.mp h
    have hlater : Later s₁.1 t.1 := by
      cases r? with
      | none =>
        cases h
        exact .refl _
      | some r =>
        obtain ⟨_, _, hwalk, h⟩ := Step.bind_eq_ok.mp h
        cases h
        exact (walk_later client s₁ _ _).of_eq hwalk
    obtain ⟨hfirst, hlook⟩ := get?_ok hget (by omega) hcount (hamong.of_later hlater)
    rw [look_eq_getElem? hpos hindex] at hlook
    cases r? with
    | none =>
      cases h
      rw [List.drop_eq_nil_of_le (List.getElem?_eq_none_iff.mp hlook.symm), List.take_nil]
    | some r =>
      obtain ⟨rest, _, hwalk, h⟩ := Step.bind_eq_ok.mp h
      cases h
      obtain ⟨hlt, hr⟩ := List.getElem?_eq_some_iff.mp hlook.symm
      have hrest := ih (by rw [hfirst.perPage_eq]; exact hpos) hwalk
        (by rw [hfirst.total_eq]; omega) (by rw [hcount, hfirst.pageCount_eq])
        (by rw [hfirst.perPage_eq]; exact hlt)
      rw [hrest, hfirst.perPage_eq, List.drop_eq_getElem_cons hlt, List.take_succ_cons, hr]

theorem stream_ok (hpos : 0 < s.1.perPage) (h : stream client none s = (.ok rs, t))
    (hcount : pages.length = s.1.pageCount) (hamong : Among t.1 pages) :
    rs = (readout s.1.perPage pages).take s.1.total := by
  have hwalk : walk client s.1.total 0 s = (.ok rs, t) := h
  simpa using walk_ok hpos hwalk (by omega) hcount hamong (Nat.zero_le _)

/-! ## One after the other -/

/-- The list has its first pages, and making sure of the others one after another succeeds. -/
structure Ahead (client : Client) (u : Listing × World) (next : Nat) (s : Listing × World) :
    Prop where
  le : next ≤ s.1.pageCount
  there : ∀ page < next, (s.1.page? page).isSome = true
  rest : ensurePages client (s.1.pageCount - next) next s = (.ok (), u)

theorem Ahead.later {next : Nat} (h : Ahead client u next s) : Later s.1 u.1 :=
  (ensurePages_ok h.rest).1

theorem grownTo_of_lt (h : page < list.table.length) : list.grownTo page = list := by
  have hnone : page + 1 - list.table.length = 0 := by omega
  simp [grownTo, tableFor, hnone]

theorem Ahead.ensurePage {next : Nat} (h : Ahead client u next s) (hle : page ≤ next)
    (hlt : page < s.1.pageCount) :
    ∃ t next', ensurePage client page s = (.ok (), t) ∧ Later s.1 t.1 ∧ Ahead client u next' t ∧
      page < next' := by
  rcases Nat.lt_or_eq_of_le hle with hfirst | rfl
  · have hthere := h.there page hfirst
    obtain ⟨rs, hrs⟩ := Option.isSome_iff_exists.mp hthere
    refine ⟨s, next, ?_, .refl _, h, hfirst⟩
    have hsame := grownTo_of_lt (lt_length_of_page? hrs)
    have houtcome := ensurePage_outcome client s.1 s.2 page
    unfold Step.Yields at houtcome
    generalize hrun : Listing.ensurePage client page (s.1, s.2) = outcome at houtcome
    obtain ⟨result, t⟩ := outcome
    cases houtcome with
    | there => rw [hsame]
    | fetched hnone => simp [hnone] at hthere
    | failed hnone => simp [hnone] at hthere
  · obtain ⟨left, hleft⟩ := Nat.exists_eq_add_of_lt hlt
    have hcount : s.1.pageCount - page = left + 1 := by omega
    have hrest := h.rest
    rw [hcount] at hrest
    obtain ⟨_, t, hpage, hrest⟩ := Step.bind_eq_ok.mp hrest
    have hensured := (ensurePage_ensured client s page).of_eq hpage
    have hsame := hensured.later.pageCount_eq
    refine ⟨t, page + 1, hpage, hensured.later, ⟨by omega, fun other ho => ?_, ?_⟩, by omega⟩
    · rcases Nat.lt_succ_iff_lt_or_eq.mp ho with ho | rfl
      · obtain ⟨rs, hrs⟩ := Option.isSome_iff_exists.mp (h.there other ho)
        exact Option.isSome_of_eq_some (hensured.later.pages other rs hrs)
      · exact hensured.there rfl
    · have hleft : t.1.pageCount - (page + 1) = left := by omega
      rw [hleft]
      exact hrest

theorem Ahead.walk {next : Nat} (h : Ahead client u next s) (hpos : 0 < s.1.perPage)
    (hindex : index / s.1.perPage ≤ next) :
    ∃ rs t, walk client count index s = (.ok rs, t) ∧ Later t.1 u.1 := by
  induction count generalizing s index next with
  | zero => exact ⟨[], s, rfl, h.later⟩
  | succ count ih =>
    by_cases hout : s.1.total ≤ index ∨ s.1.pageCount ≤ index / s.1.perPage
    · have hget : get? client index s = (.ok none, s) := by
        unfold get?
        rw [Step.bind_of_ok (Step.read_apply _ _)]
        simp [hout]
      exact ⟨[], s, by rw [Listing.walk, Step.bind_of_ok hget]; rfl, h.later⟩
    · obtain ⟨t, next', hpage, hlater, hahead, hnext⟩ := h.ensurePage hindex (by omega)
      have hget : get? client index s = (.ok ((t.1.page? (index / s.1.perPage)).bind fun items =>
          items[index % t.1.perPage]?), t) := by
        unfold get?
        rw [Step.bind_of_ok (Step.read_apply _ _), if_neg (by simpa using hout),
          Step.bind_of_ok hpage]
        rfl
      generalize ((t.1.page? (index / s.1.perPage)).bind fun items =>
        items[index % t.1.perPage]?) = r? at hget
      cases r? with
      | none => exact ⟨[], t, by rw [Listing.walk, Step.bind_of_ok hget]; rfl, hahead.later⟩
      | some r =>
        have hstep : (index + 1) / s.1.perPage ≤ index / s.1.perPage + 1 := by
          rw [← Nat.add_div_right _ hpos]
          exact Nat.div_le_div_right (by omega)
        have hindex' : (index + 1) / t.1.perPage ≤ next' := by
          rw [hlater.perPage_eq]
          omega
        obtain ⟨rs, t', hwalk, hlast⟩ := ih hahead (by rw [hlater.perPage_eq]; exact hpos) hindex'
        refine ⟨r :: rs, t', ?_, hlast⟩
        rw [Listing.walk, Step.bind_of_ok hget]
        change (Listing.walk client count (index + 1) >>= fun rest => Pure.pure (r :: rest)) t = _
        rw [Step.bind_of_ok hwalk]
        rfl

theorem stream_of_collect (hpos : 0 < s.1.perPage) (h : collect client s = (.ok cs, u)) :
    ∃ rs t, stream client none s = (.ok rs, t) ∧ Later t.1 u.1 := by
  have hahead : Ahead client u 0 s :=
    ⟨Nat.zero_le _, fun page hpage => absurd hpage (Nat.not_lt_zero page), (collect_eq_ok h).1⟩
  exact hahead.walk hpos (by simp)

/-! ## Over any server -/

namespace Source
variable {o : Source} {w w' : World} {s' : Listing × World}

theorem visits_of_stream (hs : o.Visits (list, w') s)
    (hstream : stream o.client none s = (.ok rs, t)) : o.Visits (list, w') t :=
  .called (.stream none) hs (by rw [Call.perform, Step.bind_of_ok hstream]; rfl)

theorem visits_of_collect (hs : o.Visits (list, w') s)
    (hcollect : collect o.client s = (.ok cs, u)) : o.Visits (list, w') u :=
  .called .collect hs (by rw [Call.perform, Step.bind_of_ok hcollect]; rfl)

/-- Whatever a server answers and whatever was cached: what is collected are all items of all pages,
a list that can be collected can be streamed, and streaming it on the same pages gives what is read
of them by index. That is all of them exactly if the pages are regular and the total does not cut
them. -/
theorem visits_stream (hnetwork : o.Carries w.network)
    (hopened : opened o.client o.type o.path o.parent? o.filter? w = (.ok list, w'))
    (hs : o.Visits (list, w') s) (hs' : o.Visits (list, w') s')
    (hcollect : collect o.client s' = (.ok cs, u)) :
    (∃ rs t, stream o.client none s' = (.ok rs, t) ∧ Agreeing t.1 u.1) ∧
      ∃ pages, Whole u.1 pages ∧ cs = pages.flatten ∧
        ∀ rs t, stream o.client none s = (.ok rs, t) → Agreeing t.1 u.1 →
          rs = (readout u.1.perPage pages).take u.1.total ∧ rs.Sublist cs ∧
            (rs = cs ↔ cs.length ≤ u.1.total ∧ Regular u.1.perPage pages) := by
  obtain ⟨_, first, -, -, hgrown⟩ := opened_grown hnetwork hopened
  have hgrowns : ∀ {x}, o.Visits (list, w') x → Grown o first w.sent.length x :=
    fun hx => visits_grown hgrown hx
  have hu := hgrowns (visits_of_collect hs' hcollect)
  obtain ⟨pages, hwhole, hpages⟩ := collect_whole hcollect hu.table
  obtain ⟨rs', t', hstream', hlater⟩ := stream_of_collect (hgrowns hs').perPage_pos hcollect
  refine ⟨⟨rs', t', hstream', hlater.agreeing⟩, pages, hwhole, hpages, ?_⟩
  intro rs t hstream hagree
  have ht := hgrowns (visits_of_stream hs hstream)
  have hsame := (hgrowns hs).counts_eq hu
  have hamong : Among t.1 pages := by
    intro page rs hrs
    have hlt : page < pages.length := by
      rw [hwhole.count, ← (ht.counts_eq hu).1]
      exact Nat.lt_of_lt_of_le (lt_length_of_page? hrs) ht.table
    have hpage : u.1.page? page = some pages[page] := by
      rw [hwhole.page?_eq, List.getElem?_eq_getElem hlt]
    rw [List.getElem?_eq_getElem hlt, hagree page rs _ hrs hpage]
  have hread := stream_ok (hgrowns hs).perPage_pos hstream (hwhole.count.trans hsame.1.symm) hamong
  rw [hsame.2.1, hsame.2.2] at hread
  refine ⟨hread, ?_, ?_⟩
  · rw [hread, hpages]
    exact (List.take_sublist _ _).trans (readout_sublist _ _)
  · rw [hread, hpages]
    exact take_readout_eq_flatten_iff

/-! ## Uneven pages -/

/-- Four nodes on three pages: the first page has two of them, each of the others has one. -/
def uneven : Source where
  client := Resource.clientOf .nodeRegistry
  type := Registry.nodeType
  path := "/nodes"
  parent? := none
  filter? := none
  server := fun earlier _ => .ofJson <| .obj [
    ("data", .arr <| match earlier.length with
      | 0 => [.obj [("id", .nat 1)], .obj [("id", .nat 2)]]
      | 1 => [.obj [("id", .nat 3)]]
      | _ => [.obj [("id", .nat 4)]]),
    ("pages", .nat 3), ("results", .nat 4)]

theorem uneven_runs : ∃ list w' rs t cs u,
    opened uneven.client uneven.type uneven.path none none { network := uneven.server } =
        (.ok list, w') ∧
      stream uneven.client none (list, w') = (.ok rs, t) ∧
      collect uneven.client t = (.ok cs, u) ∧ rs.length = 3 ∧ cs.length = 4 := by
  have hruns : (match opened uneven.client uneven.type uneven.path none none
        { network := uneven.server } with
      | (.ok list, w') =>
        match stream uneven.client none (list, w') with
        | (.ok rs, t) =>
          match collect uneven.client t with
          | (.ok cs, _) => (rs.length, cs.length)
          | _ => (0, 0)
        | _ => (0, 0)
      | _ => (0, 0)) = (3, 4) := by decide +kernel
  generalize hopened : opened uneven.client uneven.type uneven.path none none
    { network := uneven.server } = outcome at hruns
  obtain ⟨_ | list, w'⟩ := outcome
  · cases hruns
  dsimp only at hruns
  generalize hstream : stream uneven.client none (list, w') = outcome at hruns
  obtain ⟨_ | rs, t⟩ := outcome
  · cases hruns
  dsimp only at hruns
  generalize hcollect : collect uneven.client t = outcome at hruns
  obtain ⟨_ | cs, u⟩ := outcome
  · cases hruns
  · obtain ⟨hrs, hcs⟩ := Prod.mk.inj hruns
    exact ⟨list, w', rs, t, cs, u, rfl, hstream, hcollect, hrs, hcs⟩

theorem visits_stream_uneven : ∃ list w' rs t cs u pages,
    opened uneven.client uneven.type uneven.path none none { network := uneven.server } =
        (.ok list, w') ∧
      stream uneven.client none (list, w') = (.ok rs, t) ∧
      collect uneven.client t = (.ok cs, u) ∧ Whole u.1 pages ∧ cs = pages.flatten ∧
      rs = (readout u.1.perPage pages).take u.1.total ∧ rs.Sublist cs ∧
      rs.length = 3 ∧ cs.length = 4 := by
  obtain ⟨list, w', rs, t, cs, u, hopened, hstream, hcollect, hrs, hcs⟩ := uneven_runs
  have hagree : Agreeing t.1 u.1 := (ensurePages_ok (collect_eq_ok hcollect).1).1.agreeing
  have hvisits : uneven.Visits (list, w') t := visits_of_stream .opened hstream
  obtain ⟨-, pages, hwhole, hpages, hall⟩ := visits_stream (o := uneven) (fun _ _ => .inr rfl)
    hopened .opened hvisits hcollect
  obtain ⟨hread, hsublist, -⟩ := hall rs t hstream hagree
  exact ⟨list, w', rs, t, cs, u, pages, hopened, hstream, hcollect, hwhole, hpages, hread, hsublist,
    hrs, hcs⟩

/-- A list that is streamed without an error may be more than what was streamed. -/
theorem not_stream_eq_collect : ¬ ∀ (o : Source) (w w' : World) (list : Listing)
    (s s' t u : Listing × World) (rs cs : List Resource), o.Carries w.network →
    opened o.client o.type o.path o.parent? o.filter? w = (.ok list, w') →
    o.Visits (list, w') s → o.Visits (list, w') s' → stream o.client none s = (.ok rs, t) →
    collect o.client s' = (.ok cs, u) → Agreeing t.1 u.1 → rs = cs := by
  intro hclaim
  obtain ⟨list, w', rs, t, cs, u, hopened, hstream, hcollect, hrs, hcs⟩ := uneven_runs
  have hagree : Agreeing t.1 u.1 := (ensurePages_ok (collect_eq_ok hcollect).1).1.agreeing
  have hsame := hclaim uneven _ w' list (list, w') t t u rs cs (fun _ _ => .inr rfl) hopened .opened
    (visits_of_stream .opened hstream) hstream hcollect hagree
  rw [hsame] at hrs
  omega

end Source

end CloudClient.Listing
