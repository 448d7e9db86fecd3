import CloudClient.Proofs.Listing.Page
import CloudClient.Resource.Lifecycle

/-!
# Calls on a list

Whatever is asked of a list goes through fetching single pages, so a condition that fetching a page
keeps is kept by every call. Such a condition is that all items in the table were read from payloads
for a type of the registry; it holds of a list as it is opened.
-/

namespace CloudClient
namespace Listing

inductive Call
  | get (index : Nat)
  | first
  | last
  | only
  | stream (limit? : Option Nat)
  | collect

inductive Answer (α : Type)
  | item (a? : Option α)
  | items (as : List α)

def Keeps {α : Type} (I : Listing × World → Prop) (x : Paging α) : Prop :=
  ∀ s, I s → x.Yields s fun _ t => I t

namespace Call

def perform (client : Client) : Call → Paging (Answer Resource)
  | .get index => return .item (← get? client index)
  | .first => return .item (← first? client)
  | .last => return .item (← last? client)
  | .only => return .item (some (← Listing.only client))
  | .stream limit? => return .items (← Listing.stream client limit?)
  | .collect => return .items (← Listing.collect client)

end Call

section Keeping
variable {α β : Type} {I : Listing × World → Prop}

theorem Keeps.pure (a : α) : Keeps I (Pure.pure a : Paging α) := fun _ hs => hs

theorem Keeps.fail (e : Error) : Keeps I (Step.fail e : Paging α) := fun _ hs => hs

theorem Keeps.read (f : Listing × World → α) : Keeps I (Step.read f) := fun _ hs => hs

theorem Keeps.bind {x : Paging α} {f : α → Paging β} (hx : Keeps I x) (hf : ∀ a, Keeps I (f a)) :
    Keeps I (x >>= f) :=
  fun s hs => (hx s hs).bind (fun a t ht => hf a t ht) fun _ _ ht => ht

variable {client : Client}

/-- A page that a list under the condition has; no other page is ever made sure of. -/
def Pageable (I : Listing × World → Prop) (page : Nat) : Prop := ∃ s, I s ∧ page < s.1.pageCount

theorem get?_keeps (hpage : ∀ page, Pageable I page → Keeps I (ensurePage client page))
    (index : Nat) : Keeps I (get? client index) := by
  intro s hs
  refine Step.yields_read_bind.mpr ?_
  dsimp only
  split
  · exact Keeps.pure _ s hs
  · rename_i hin
    have hlt : index / s.1.perPage < s.1.pageCount := by simp at hin; omega
    exact (hpage _ ⟨s, hs, hlt⟩).bind (fun _ => (Keeps.read _).bind fun _ => .pure _) s hs

theorem walk_keeps (hpage : ∀ page, Pageable I page → Keeps I (ensurePage client page))
    (count index : Nat) : Keeps I (walk client count index) := by
  induction count generalizing index with
  | zero => exact .pure _
  | succ count ih =>
    refine (get?_keeps hpage index).bind fun r? => ?_
    cases r? with
    | none => exact .pure _
    | some r => exact (ih (index + 1)).bind fun _ => .pure _

theorem ensurePages_keeps {count page : Nat}
    (hpage : ∀ other < page + count, Keeps I (ensurePage client other)) :
    Keeps I (ensurePages client count page) := by
  induction count generalizing page with
  | zero => exact .pure _
  | succ count ih =>
    exact (hpage page (by omega)).bind fun _ => ih fun other ho => hpage other (by omega)

theorem collect_keeps (hpage : ∀ page, Pageable I page → Keeps I (ensurePage client page)) :
    Keeps I (collect client) := by
  intro s hs
  have hpages : Keeps I (ensurePages client s.1.pageCount 0) :=
    ensurePages_keeps fun other ho => hpage other ⟨s, hs, by omega⟩
  exact Step.yields_read_bind.mpr (hpages.bind (fun _ => .read _) s hs)

theorem Call.perform_keeps (hpage : ∀ page, Pageable I page → Keeps I (ensurePage client page))
    (call : Call) : Keeps I (call.perform client) := by
  have hget := fun index => get?_keeps hpage index
  cases call with
  | get index => exact (hget index).bind fun _ => .pure _
  | first => exact (hget 0).bind fun _ => .pure _
  | last =>
    refine Keeps.bind ((Keeps.read _).bind fun list => ?_) fun _ => .pure _
    split
    · exact .pure _
    · exact hget _
  | only =>
    refine Keeps.bind ((Keeps.read _).bind fun list => ?_) fun _ => .pure _
    split
    · exact .fail _
    · refine (hget 0).bind fun r? => ?_
      cases r? with
      | none => exact .fail _
      | some r => exact .pure _
  | stream limit? =>
    exact Keeps.bind ((Keeps.read _).bind fun _ => walk_keeps hpage _ 0) fun _ => .pure _
  | collect => exact (collect_keeps hpage).bind fun _ => .pure _

end Keeping

/-! ## The table -/

def grownTo (list : Listing) (page : Nat) : Listing := { list with table := list.tableFor page }

def withPage (list : Listing) (page : Nat) (rs : List Resource) : Listing :=
  { list with table := list.table.set page (some rs) }

section Table
variable {client : Client} {list : Listing} {page other : Nat}

theorem page?_grownTo (list : Listing) (page other : Nat) :
    (list.grownTo page).page? other = list.page? other := by
  simp only [page?, grownTo, tableFor]
  by_cases h : other < list.table.length
  · rw [List.getElem?_append_left h]
  · have hlength := Nat.le_of_not_lt h
    rw [List.getElem?_append_right hlength, List.getElem?_eq_none hlength]
    by_cases hr : other - list.table.length < page + 1 - list.table.length
    · rw [List.getElem?_replicate, if_pos hr]
      rfl
    · rw [List.getElem?_replicate, if_neg hr]

theorem length_grownTo (list : Listing) (page : Nat) :
    (list.grownTo page).table.length = max list.table.length (page + 1) := by
  simp only [grownTo, tableFor, List.length_append, List.length_replicate]
  omega

theorem lt_length_grownTo (list : Listing) (page : Nat) :
    page < (list.grownTo page).table.length := by
  rw [length_grownTo]
  omega

theorem page?_withPage_self (h : page < list.table.length) (rs : List Resource) :
    (list.withPage page rs).page? page = some rs := by
  simp [page?, withPage, List.getElem?_set_self h]

theorem page?_withPage_of_ne (h : other ≠ page) (rs : List Resource) :
    (list.withPage page rs).page? other = list.page? other := by
  simp [page?, withPage, List.getElem?_set_ne (Ne.symm h)]

/-- What making sure of a page can do: grow the table, and put the page in its place if it was not
there and could be fetched. -/
inductive PageOutcome (client : Client) (list : Listing) (w : World) (page : Nat) :
    Except Error Unit → Listing × World → Prop
  | there (h : (list.page? page).isSome = true) :
      PageOutcome client list w page (.ok ()) (list.grownTo page, w)
  | fetched {p : Page} {w' : World} (h : list.page? page = none)
      (hfetch : Page.fetch client list.type list.path list.parent? list.filter? (page + 1) w =
        (.ok p, w')) :
      PageOutcome client list w page (.ok ()) ((list.grownTo page).withPage page p.items, w')
  | failed {e : Error} {w' : World} (h : list.page? page = none)
      (hfetch : Page.fetch client list.type list.path list.parent? list.filter? (page + 1) w =
        (.error e, w')) :
      PageOutcome client list w page (.error e) (list.grownTo page, w')

theorem ensurePage_eq (client : Client) (list : Listing) (w : World) (page : Nat) :
    ensurePage client page (list, w) =
      match list.page? page with
      | some _ => (.ok (), list.grownTo page, w)
      | none => (Step.second (Page.fetch client list.type list.path list.parent? list.filter?
          (page + 1)) >>= fun fetched => Step.modify fun (list, w) =>
            (list.withPage page fetched.items, w)) (list.grownTo page, w) := by
  have hsame : ((list.grownTo page).page? page).isNone = (list.page? page).isNone := by
    rw [page?_grownTo]
  unfold ensurePage
  rw [Step.bind_of_ok (Step.modify_apply _ _), Step.bind_of_ok (Step.read_apply _ _)]
  change (if ((list.grownTo page).page? page).isNone then _ else _ : Paging Unit)
    (list.grownTo page, w) = _
  rw [hsame]
  cases list.page? page <;> rfl

theorem ensurePage_outcome (client : Client) (list : Listing) (w : World) (page : Nat) :
    (ensurePage client page).Yields (list, w) fun result t =>
      PageOutcome client list w page result t := by
  unfold Step.Yields
  rw [ensurePage_eq]
  cases hpage : list.page? page with
  | some rs => exact .there (by simp [hpage])
  | none =>
    refine Step.Yields.second_bind (fun p w' hfetch => ?_) fun e w' hfetch => ?_
    · exact .fetched hpage hfetch
    · exact .failed hpage hfetch

theorem PageOutcome.length_table {s : Listing × World} {w : World} {result : Except Error Unit}
    (h : PageOutcome client list w page result s) :
    s.1.table.length = max list.table.length (page + 1) := by
  rw [← length_grownTo]
  cases h with
  | there => rfl
  | failed => rfl
  | fetched => exact List.length_set

structure Later (list list' : Listing) : Prop where
  rest : ∃ table, list' = { list with table }
  pages : ∀ page rs, list.page? page = some rs → list'.page? page = some rs

theorem Later.refl (list : Listing) : Later list list := ⟨⟨_, rfl⟩, fun _ _ h => h⟩

theorem Later.trans {list' list'' : Listing} (h : Later list list') (h' : Later list' list'') :
    Later list list'' := by
  obtain ⟨table, rfl⟩ := h.rest
  obtain ⟨table', rfl⟩ := h'.rest
  exact ⟨⟨table', rfl⟩, fun page rs hrs => h'.pages page rs (h.pages page rs hrs)⟩

theorem later_grownTo (list : Listing) (page : Nat) : Later list (list.grownTo page) :=
  ⟨⟨_, rfl⟩, fun other _ h => (page?_grownTo list page other).trans h⟩

theorem later_withPage (hnew : list.page? page = none) (rs : List Resource) :
    Later list (list.withPage page rs) := by
  refine ⟨⟨_, rfl⟩, fun other rs' hother => ?_⟩
  have ho : other ≠ page := fun heq => by simp [heq, hnew] at hother
  exact (page?_withPage_of_ne ho rs).trans hother

structure Ensured (list : Listing) (page : Nat) (result : Except Error Unit) (list' : Listing) :
    Prop where
  later : Later list list'
  slot : page < list'.table.length
  there : result = .ok () → (list'.page? page).isSome = true

theorem ensurePage_ensured (client : Client) (s : Listing × World) (page : Nat) :
    (ensurePage client page).Yields s fun result t => Ensured s.1 page result t.1 := by
  obtain ⟨list, w⟩ := s
  have hgrown := later_grownTo list page
  have hslot := lt_length_grownTo list page
  refine (ensurePage_outcome client list w page).mono fun result t ht => ?_
  cases ht with
  | there h => exact ⟨hgrown, hslot, fun _ => (page?_grownTo list page page).symm ▸ h⟩
  | failed h => exact ⟨hgrown, hslot, fun hok => by cases hok⟩
  | @fetched p _ h =>
    have hnew : (list.grownTo page).page? page = none := (page?_grownTo list page page).trans h
    exact ⟨hgrown.trans (later_withPage hnew p.items), by simpa [withPage] using hslot,
      fun _ => by simp [page?_withPage_self hslot]⟩

/-! ## Whole lists -/

structure Whole (list : Listing) (pages : List (List Resource)) : Prop where
  table : list.table = pages.map some
  count : pages.length = list.pageCount

theorem whole_of_there (htable : list.table.length ≤ list.pageCount)
    (hthere : ∀ page < list.pageCount, (list.page? page).isSome = true) :
    Whole list (list.table.map fun rs? => rs?.getD []) := by
  have hlength : list.table.length = list.pageCount := by
    refine Nat.le_antisymm htable (Nat.le_of_not_lt fun hlt => ?_)
    simpa [page?] using hthere list.table.length hlt
  refine ⟨?_, by rw [List.length_map, hlength]⟩
  refine List.ext_getElem (by simp) fun page hpage _ => ?_
  obtain ⟨rs, hrs⟩ := Option.isSome_iff_exists.mp (hthere page (hlength ▸ hpage))
  have hplace : list.table[page] = some rs := by
    simpa [page?, List.getElem?_eq_getElem hpage] using hrs
  simp [hplace]

theorem Whole.items_eq {pages : List (List Resource)} (h : Whole list pages) :
    list.items = pages.flatten := by
  rw [items, h.table, List.flatMap_map]
  simp [List.flatMap_def]

theorem Whole.page?_eq {pages : List (List Resource)} (h : Whole list pages) (page : Nat) :
    list.page? page = pages[page]? := by
  rw [page?, h.table, List.getElem?_map]
  cases pages[page]? <;> rfl

/-! ## Items in the table -/

structure ReadOver (client : Client) (list : Listing) : Prop where
  registered : ∃ key, client.registry.get key = .ok list.type
  items : ∀ page rs, list.page? page = some rs → ∀ r ∈ rs,
    ∃ item, Resource.ReadFrom client.registry list.type list.parent? item r

theorem ReadOver.grownTo (h : ReadOver client list) (page : Nat) :
    ReadOver client (list.grownTo page) :=
  ⟨h.registered, fun other rs hrs => h.items other rs (page?_grownTo list page other ▸ hrs)⟩

theorem ReadOver.withPage (h : ReadOver client list) (hpage : page < list.table.length)
    {rs : List Resource} (hrs : ∀ r ∈ rs,
      ∃ item, Resource.ReadFrom client.registry list.type list.parent? item r) :
    ReadOver client (list.withPage page rs) := by
  refine ⟨h.registered, fun other rs' hother => ?_⟩
  by_cases ho : other = page
  · subst ho
    rw [page?_withPage_self hpage] at hother
    cases hother
    exact hrs
  · exact h.items other rs' (page?_withPage_of_ne ho rs ▸ hother)

end Table

theorem opened_ok {client : Client} {type : ResourceType} {path : String}
    {parent? : Option ParentKey} {filter? : Option Filter} {w w' : World} {list : Listing}
    (h : opened client type path parent? filter? w = (.ok list, w')) :
    ∃ first w₁, Page.fetch client type path parent? filter? 1 w = (.ok first, w₁) ∧
      list = ofFirst client type path parent? filter? first ∧
      w' = { w₁ with log := w'.log } := by
  unfold opened at h
  obtain ⟨first, w₁, hfirst, h⟩ := Step.bind_eq_ok.mp h
  refine ⟨first, w₁, hfirst, ?_⟩
  split at h
  · obtain ⟨_, w₂, hwarn, h⟩ := Step.bind_eq_ok.mp h
    obtain ⟨_, w₃, hnote, h⟩ := Step.bind_eq_ok.mp h
    cases hwarn
    cases hnote
    cases h
    exact ⟨rfl, rfl⟩
  · obtain ⟨_, w₃, hnote, h⟩ := Step.bind_eq_ok.mp h
    cases hnote
    cases h
    exact ⟨rfl, rfl⟩

theorem ensurePage_readOver (client : Client) (page : Nat) :
    Keeps (fun t => ReadOver client t.1) (ensurePage client page) := by
  intro s h
  obtain ⟨list, w⟩ := s
  refine (ensurePage_outcome client list w page).mono fun result t ht => ?_
  have hgrown := h.grownTo page
  cases ht with
  | there => exact hgrown
  | failed => exact hgrown
  | fetched _ hfetch =>
    obtain ⟨answer, hdecoded⟩ := Page.fetch_ok hfetch
    exact hgrown.withPage (lt_length_grownTo list page) hdecoded.read

theorem list_ok {client : Client} {kind : String} {parent? : Option ParentKey}
    {filter? : Option Filter} {w w' : World} {list : Listing}
    (h : client.list kind parent? filter? w = (.ok list, w')) :
    ∃ type path, client.registry.get kind = .ok type ∧
      Endpoint.collection type parent? = .ok path ∧
      opened client type path parent? filter? w = (.ok list, w') := by
  obtain ⟨type, w₁, hget, h⟩ := Step.bind_eq_ok.mp h
  obtain ⟨path, w₂, hcollection, h⟩ := Step.bind_eq_ok.mp h
  obtain ⟨htype, rfl⟩ := Prod.mk.inj hget
  obtain ⟨hpath, rfl⟩ := Prod.mk.inj hcollection
  exact ⟨type, path, htype, hpath, h⟩

theorem list_eq_opened {client : Client} {kind : String} {type : ResourceType}
    {parent? : Option ParentKey} (htype : client.registry.get kind = .ok type) {path : String}
    (hpath : Endpoint.collection type parent? = .ok path) (filter? : Option Filter) :
    client.list kind parent? filter? = opened client type path parent? filter? := by
  unfold Client.list
  rw [htype]
  change (Step.ofExcept (Endpoint.collection type parent?) >>= fun path =>
    opened client type path parent? filter?) = _
  rw [hpath]
  rfl

theorem list_readOver {client : Client} {kind : String} {parent? : Option ParentKey}
    {filter? : Option Filter} {w w' : World} {list : Listing}
    (h : client.list kind parent? filter? w = (.ok list, w')) : ReadOver client list := by
  obtain ⟨type, path, htype, -, h⟩ := list_ok h
  obtain ⟨first, _, hfirst, rfl, -⟩ := opened_ok h
  refine ⟨⟨kind, htype⟩, fun page rs hrs => ?_⟩
  obtain ⟨answer, hdecoded⟩ := Page.fetch_ok hfirst
  cases page with
  | zero =>
    cases hrs
    exact hdecoded.read
  | succ page => cases hrs

theorem mem_items {list : Listing} {r : Resource} :
    r ∈ list.items ↔ ∃ page rs, list.page? page = some rs ∧ r ∈ rs := by
  unfold items
  refine List.mem_flatMap.trans ⟨?_, ?_⟩
  · intro h
    obtain ⟨rs?, hmem, hr⟩ := h
    obtain ⟨page, hpage⟩ := List.mem_iff_getElem?.mp hmem
    cases rs? with
    | none => cases hr
    | some rs => exact ⟨page, rs, by simp [page?, hpage], hr⟩
  · intro h
    obtain ⟨page, rs, hpage, hr⟩ := h
    exact ⟨some rs, List.mem_of_getElem? (Option.join_eq_some_iff.mp hpage), hr⟩

theorem collect_readOver {client : Client} {list list' : Listing} {w w' : World}
    {rs : List Resource} (hread : ReadOver client list)
    (h : collect client (list, w) = (.ok rs, list', w')) :
    ReadOver client list' ∧ rs = list'.items := by
  have hkeeps := collect_keeps (fun page _ => ensurePage_readOver client page) (list, w) hread
  refine ⟨hkeeps.of_eq h, ?_⟩
  obtain ⟨_, t, hread, h⟩ := Step.bind_eq_ok.mp h
  obtain ⟨_, t', -, h⟩ := Step.bind_eq_ok.mp h
  cases h
  rfl

end Listing

theorem Client.listAll_read {client : Client} {kind : String} {parent? : Option ParentKey}
    {w w' : World} {rs : List Resource} (h : client.listAll kind parent? w = (.ok rs, w')) :
    ∀ r ∈ rs, ∃ key type parent? item, client.registry.get key = .ok type ∧
      Resource.ReadFrom client.registry type parent? item r := by
  unfold listAll at h
  obtain ⟨list, w₁, hlist, h⟩ := Step.bind_eq_ok.mp h
  have hread := Listing.list_readOver hlist
  generalize hc : Listing.collect client (list, w₁) = outcome at h
  obtain ⟨result, list', w₂⟩ := outcome
  cases h
  obtain ⟨hread', rfl⟩ := Listing.collect_readOver hread hc
  intro r hr
  obtain ⟨page, rs, hpage, hr⟩ := Listing.mem_items.mp hr
  obtain ⟨key, htype⟩ := hread'.registered
  obtain ⟨item, hitem⟩ := hread'.items page rs hpage r hr
  exact ⟨key, _, _, item, htype, hitem⟩

end CloudClient
