import CloudClient.Proofs.Listing.Call
import Mathlib.Algebra.Order.Floor.Div

/-!
# Lists in 64-bit arithmetic

The operations on a list once more, with every number in 64 bits: they stop where a number would
leave these, where a divisor is zero, where a slot of the table is not there and where a page is
asked for that the list does not have. On a list whose counts fit they never stop, and do what they
do with unbounded numbers.
-/

namespace CloudClient

/-! ## Numbers -/

namespace Word

def add? (a b : Nat) : Option Nat := if a + b < UInt64.size then some (a + b) else none

def saturatingAdd (a b : Nat) : Nat := min (a + b) (UInt64.size - 1)

def div? (a b : Nat) : Option Nat := if b = 0 then none else some (a / b)

def mod? (a b : Nat) : Option Nat := if b = 0 then none else some (a % b)

def ceilDiv? (a b : Nat) : Option Nat := do
  let quotient ← div? a b
  let rest ← mod? a b
  if 0 < rest then add? quotient 1 else return quotient

theorem add?_of_lt {a b : Nat} (h : a + b < UInt64.size) : add? a b = some (a + b) := if_pos h

theorem div?_of_pos {a b : Nat} (h : 0 < b) : div? a b = some (a / b) := if_neg (Nat.ne_of_gt h)

theorem mod?_of_pos {a b : Nat} (h : 0 < b) : mod? a b = some (a % b) := if_neg (Nat.ne_of_gt h)

theorem ceilDiv_eq (a : Nat) {b : Nat} (hb : 0 < b) :
    a ⌈/⌉ b = if 0 < a % b then a / b + 1 else a / b := by
  have hdiv := Nat.div_add_mod a b
  have hmod := Nat.mod_lt a hb
  change (a + b - 1) / b = _
  split
  · have hsum : a + b - 1 = (a % b - 1) + b * (a / b + 1) := by
      rw [Nat.mul_add]
      omega
    rw [hsum, Nat.add_mul_div_left _ _ hb, Nat.div_eq_of_lt (by omega), Nat.zero_add]
  · have hsum : a + b - 1 = (b - 1) + b * (a / b) := by omega
    rw [hsum, Nat.add_mul_div_left _ _ hb, Nat.div_eq_of_lt (by omega), Nat.zero_add]

theorem ceilDiv?_eq {a b : Nat} (hb : 0 < b) (h : a < UInt64.size ∨ a ≤ b) :
    ceilDiv? a b = some (a ⌈/⌉ b) := by
  have hdiv := Nat.div_add_mod a b
  have hmod := Nat.mod_lt a hb
  simp only [ceilDiv?, div?_of_pos hb, mod?_of_pos hb, ceilDiv_eq a hb]
  change (if 0 < a % b then add? (a / b) 1 else some (a / b)) = _
  split
  · have hfits : a / b + 1 < UInt64.size := by
      rcases h with h | h
      · have htwice : 2 * (a / b) ≤ b * (a / b) := Nat.mul_le_mul_right _ (by omega)
        omega
      · have hzero : a / b = 0 := by
          refine Nat.div_eq_of_lt (Nat.lt_of_le_of_ne h fun heq => ?_)
          simp_all
        simp [hzero, UInt64.size]
    exact add?_of_lt hfits
  · rfl

end Word

/-! ## Operations that may stop -/

/-- An operation that stops with nothing where a program would be stopped. -/
def Checked (σ α : Type) : Type := σ → Option (Except Error α × σ)

namespace Checked
variable {σ τ α β : Type} {s : σ}

protected def bind (x : Checked σ α) (f : α → Checked σ β) : Checked σ β := fun s =>
  match x s with
  | none => none
  | some (.ok a, t) => f a t
  | some (.error e, t) => some (.error e, t)

instance : Monad (Checked σ) where
  pure a := fun s => some (.ok a, s)
  bind := Checked.bind

def lift (x : Step σ α) : Checked σ α := fun s => some (x s)

def need (a? : Option α) : Checked σ α := fun s => a?.map fun a => (.ok a, s)

def demand (p : Prop) [Decidable p] : Checked σ Unit := need (if p then some () else none)

def second (x : Checked τ α) : Checked (σ × τ) α := fun (s, t) =>
  (x t).map fun (result, t) => (result, s, t)

def logged (x : Checked Log α) : Checked World α := fun w =>
  (x w.log).map fun (result, log) => (result, { w with log })

def Runs (m : Checked σ α) (x : Step σ α) (s : σ) : Prop := m s = some (x s)

theorem Runs.lift (x : Step σ α) (s : σ) : (Checked.lift x).Runs x s := rfl

theorem Runs.pure (a : α) (s : σ) : (Pure.pure a : Checked σ α).Runs (Pure.pure a) s := rfl

theorem Runs.bind {m : Checked σ α} {x : Step σ α} {f : α → Checked σ β} {g : α → Step σ β}
    (hm : m.Runs x s) (hf : ∀ a t, x s = (.ok a, t) → (f a).Runs (g a) t) :
    (m >>= f).Runs (x >>= g) s := by
  change Checked.bind m f s = some ((x >>= g) s)
  unfold Checked.bind
  rw [hm, Step.bind_apply]
  rcases hx : x s with ⟨e | a, t⟩
  · rfl
  · exact hf a t hx

theorem Runs.need_bind {a? : Option α} {a : α} {f : α → Checked σ β} {x : Step σ β}
    (ha : a? = some a) (hf : (f a).Runs x s) : (need a? >>= f).Runs x s := by
  subst ha
  exact hf

theorem Runs.second {m : Checked τ α} {x : Step τ α} {t : τ} (h : m.Runs x t) (s : σ) :
    (Checked.second m).Runs (Step.second x) (s, t) := by
  unfold Runs Checked.second Step.second at *
  dsimp only
  rw [h]
  rfl

theorem Runs.logged {m : Checked Log α} {x : Step Log α} {w : World} (h : m.Runs x w.log) :
    (Checked.logged m).Runs (World.logged x) w := by
  unfold Runs Checked.logged World.logged at *
  rw [h]
  rfl

/-! ## Pages -/

def maxPages? (results items : Nat) : Option Nat :=
  (Word.ceilDiv? results (max items 1)).map (Word.saturatingAdd · 1)

def decode (registry : Registry) (now : Nat) (type : ResourceType) (parent? : Option ParentKey)
    (answer : Json) : Checked Log Page :=
  match (answer.get? "data").bind Json.asArr? with
  | none => lift (.fail (.unexpectedResponse "list response has no 'data' array" answer))
  | some data => do
    let items ← lift (Page.decodeItems registry now type parent? data)
    let results? ← lift (.ofExcept (Page.count? answer "results"))
    let pages? ← lift (.ofExcept (Page.count? answer "pages"))
    let most ← need (maxPages? (results?.getD items.length) items.length)
    if most < pages?.getD 1 then
      lift (.fail (.unexpectedResponse "list response has inconsistent 'pages'" answer))
    else return ⟨items, pages?.getD 1, results?.getD items.length⟩

def fetch (client : Client) (type : ResourceType) (path : String) (parent? : Option ParentKey)
    (filter? : Option Filter) (number : Nat) : Checked World Page := do
  let answer ← lift (client.getPage path number filter?)
  let now ← lift (Step.read World.now)
  logged (decode client.registry now type parent? answer)

/-- The bound on a page count saturates, which no count tells from the bound itself. -/
theorem maxPages?_eq {results items : Nat} (h : results < UInt64.size ∨ results = items) :
    maxPages? results items = some (min (Page.maxPages results items) (UInt64.size - 1)) := by
  have hpos : 0 < max items 1 := by omega
  rw [maxPages?, Word.ceilDiv?_eq hpos (by omega)]
  rfl

theorem count?_lt {answer : Json} {key : String} {n : Nat}
    (h : Page.count? answer key = .ok (some n)) : n < UInt64.size := by
  unfold Page.count? at h
  split at h
  · cases h
  · split at h
    · rename_i v _ _ hn
      cases h
      unfold Json.asNatBelow? at hn
      split at hn
      · split at hn
        · cases hn
          rename_i hrange
          exact hrange.2
        · cases hn
      · cases hn
    · cases h

theorem decode_runs (registry : Registry) (now : Nat) (type : ResourceType)
    (parent? : Option ParentKey) (answer : Json) (log : Log) :
    (decode registry now type parent? answer).Runs
      (Page.decode registry now type parent? answer) log := by
  unfold decode Page.decode
  cases (answer.get? "data").bind Json.asArr? with
  | none => rfl
  | some data =>
    refine Runs.bind (.lift _ _) fun items log₁ _ => ?_
    refine Runs.bind (.lift _ _) fun results? log₂ hresults => ?_
    refine Runs.bind (.lift _ _) fun pages? log₃ hpages => ?_
    have hresults : Page.count? answer "results" = .ok results? := (Prod.mk.inj hresults).1
    have hpages : Page.count? answer "pages" = .ok pages? := (Prod.mk.inj hpages).1
    have hfits : results?.getD items.length < UInt64.size ∨
        results?.getD items.length = items.length := by
      cases results? with
      | none => exact .inr rfl
      | some n => exact .inl (count?_lt hresults)
    have hcount : pages?.getD 1 < UInt64.size := by
      cases pages? with
      | none => decide
      | some n => exact count?_lt hpages
    refine Runs.need_bind (maxPages?_eq hfits) ?_
    dsimp only
    by_cases hbound : Page.maxPages (results?.getD items.length) items.length < pages?.getD 1
    · rw [if_pos hbound, if_pos (by omega)]
      rfl
    · rw [if_neg hbound, if_neg (by omega)]
      rfl

theorem fetch_runs (client : Client) (type : ResourceType) (path : String)
    (parent? : Option ParentKey) (filter? : Option Filter) (number : Nat) (w : World) :
    (fetch client type path parent? filter? number).Runs
      (Page.fetch client type path parent? filter? number) w :=
  Runs.bind (.lift _ _) fun answer _ _ => Runs.bind (.lift _ _) fun now _ _ =>
    (decode_runs client.registry now type parent? answer _).logged

/-! ## Lists -/

abbrev Paging (α : Type) := Checked (Listing × World) α

def makeRoom (page : Nat) : Paging Unit := do
  let list ← lift (Step.read Prod.fst)
  if list.table.length ≤ page then
    let size ← need (Word.add? page 1)
    lift (.modify fun (list, w) => ({ list with
      table := list.table ++ List.replicate (size - list.table.length) none }, w))
  else return ()

def slot (page : Nat) : Paging (Option (List Resource)) := do
  let list ← lift (Step.read Prod.fst)
  need list.table[page]?

def store (page : Nat) (items : List Resource) : Paging Unit := do
  let _ ← slot page
  lift (.modify fun (list, w) => ({ list with table := list.table.set page (some items) }, w))

def ensurePage (client : Client) (page : Nat) : Paging Unit := do
  let list ← lift (Step.read Prod.fst)
  demand (page < list.pageCount)
  makeRoom page
  match ← slot page with
  | some _ => return ()
  | none =>
    let number ← need (Word.add? page 1)
    let fetched ← second (fetch client list.type list.path list.parent? list.filter? number)
    store page fetched.items

def get? (client : Client) (index : Nat) : Paging (Option Resource) := do
  let list ← lift (Step.read Prod.fst)
  if list.total ≤ index then return none
  else
    let page ← need (Word.div? index list.perPage)
    if list.pageCount ≤ page then return none
    else
      ensurePage client page
      match ← slot page with
      | none => return none
      | some items =>
        let place ← need (Word.mod? index list.perPage)
        return items[place]?

def last? (client : Client) : Paging (Option Resource) := do
  let list ← lift (Step.read Prod.fst)
  if list.isEmpty then return none else get? client (list.total - 1)

def only (client : Client) : Paging Resource := do
  let list ← lift (Step.read Prod.fst)
  if list.total ≠ 1 then
    lift (.fail (.invalidInput ("expected exactly one " ++ list.type.displayName ++ ", found " ++
      toString list.total)))
  else
    match ← get? client 0 with
    | some r => return r
    | none => lift (.fail (.invalidInput (list.type.displayName ++ " list is empty")))

def walk (client : Client) : Nat → Nat → Paging (List Resource)
  | 0, _ => return []
  | count + 1, index => do
    match ← get? client index with
    | none => return []
    | some r =>
      let next ← need (Word.add? index 1)
      let rest ← walk client count next
      return r :: rest

def stream (client : Client) (limit? : Option Nat) : Paging (List Resource) := do
  let list ← lift (Step.read Prod.fst)
  walk client (match limit? with | none => list.total | some n => min n list.total) 0

def ensurePages (client : Client) : Nat → Nat → Paging Unit
  | 0, _ => return ()
  | count + 1, page => do
    ensurePage client page
    ensurePages client count (page + 1)

def collect (client : Client) : Paging (List Resource) := do
  let list ← lift (Step.read Prod.fst)
  ensurePages client list.pageCount 0
  lift (Step.read fun (list, _) => list.items)

def perform (client : Client) : Listing.Call → Paging (Listing.Answer Resource)
  | .get index => return .item (← get? client index)
  | .first => return .item (← get? client 0)
  | .last => return .item (← last? client)
  | .only => return .item (some (← only client))
  | .stream limit? => return .items (← stream client limit?)
  | .collect => return .items (← collect client)

/-! ## Lists whose counts fit -/

structure Fitting (list : Listing) : Prop where
  perPage : 0 < list.perPage
  pageCount : list.pageCount < UInt64.size
  total : list.total < UInt64.size

section Runs
variable {client : Client} {list : Listing} {w : World} {t : Listing × World}
  {s : Listing × World} {page : Nat}

theorem bind_of_ok {x : Checked σ α} {f : α → Checked σ β} {s t : σ} {a : α}
    (h : x s = some (.ok a, t)) : (x >>= f) s = f a t := by
  change Checked.bind x f s = _
  rw [Checked.bind, h]

theorem Fitting.later {list' : Listing} (h : Fitting list) (hlater : Listing.Later list list') :
    Fitting list' := by
  obtain ⟨table, rfl⟩ := hlater.rest
  exact ⟨h.perPage, h.pageCount, h.total⟩

theorem Fitting.keeps (page : Nat) :
    Listing.Keeps (fun s => Fitting s.1) (Listing.ensurePage client page) := fun s hs =>
  (Listing.ensurePage_ensured client s page).mono fun _ _ ht => hs.later ht.later

theorem slot_eq (h : page < list.table.length) (w : World) :
    slot page (list, w) = some (.ok (list.page? page), list, w) := by
  change (list.table[page]?).map _ = _
  simp [Listing.page?, List.getElem?_eq_getElem h]

theorem Runs.bind_of_slot {f : Option (List Resource) → Paging α} {x : CloudClient.Paging α}
    (h : page < s.1.table.length) (hf : (f (s.1.page? page)).Runs x s) :
    (slot page >>= f).Runs x s := by
  obtain ⟨list, w⟩ := s
  unfold Runs
  rw [bind_of_ok (slot_eq h w)]
  exact hf

theorem makeRoom_eq (list : Listing) (w : World) (h : page + 1 < UInt64.size) :
    makeRoom page (list, w) = some (.ok (), list.grownTo page, w) := by
  unfold makeRoom
  rw [bind_of_ok (show lift (Step.read Prod.fst) (list, w) = some (.ok list, list, w) from rfl)]
  by_cases hroom : list.table.length ≤ page
  · rw [if_pos hroom, Word.add?_of_lt h]
    rfl
  · have hnone : page + 1 - list.table.length = 0 := by omega
    simp only [if_neg hroom, Listing.grownTo, Listing.tableFor, hnone, List.replicate_zero,
      List.append_nil]
    rfl

theorem ensurePage_runs (hpage : page < s.1.pageCount) (hcount : s.1.pageCount < UInt64.size) :
    (ensurePage client page).Runs (Listing.ensurePage client page) s := by
  obtain ⟨list, w⟩ := s
  have hfits : page + 1 < UInt64.size := Nat.lt_of_le_of_lt hpage hcount
  have hlength := Listing.lt_length_grownTo list page
  have hread : lift (Step.read Prod.fst) (list, w) = some (.ok list, list, w) := rfl
  have hdemand : demand (page < list.pageCount) (list, w) = some (.ok (), list, w) := by
    simp only [demand, if_pos hpage]
    rfl
  unfold Runs ensurePage
  rw [bind_of_ok hread, bind_of_ok hdemand, bind_of_ok (makeRoom_eq list w hfits),
    bind_of_ok (slot_eq hlength w), Listing.ensurePage_eq, Listing.page?_grownTo]
  cases list.page? page with
  | some items => rfl
  | none =>
    change Runs (need _ >>= fun _ => _ >>= _) (Step.second _ >>= _) _
    refine Runs.need_bind (Word.add?_of_lt hfits) ?_
    refine (fetch_runs client list.type list.path list.parent? list.filter? (page + 1) w
      |>.second (list.grownTo page)).bind fun fetched t ht => ?_
    have hlist : t.1 = list.grownTo page := by
      rw [Step.second_apply] at ht
      exact congrArg (fun outcome => outcome.2.1) ht.symm
    exact Runs.bind_of_slot (hlist ▸ hlength) (.lift _ _)

theorem get?_runs (hs : Fitting s.1) (index : Nat) :
    (get? client index).Runs (Listing.get? client index) s := by
  refine Runs.bind (.lift _ _) fun list t ht => ?_
  cases ht
  dsimp only
  by_cases hindex : s.1.total ≤ index
  · simpa [hindex] using Runs.pure none s
  · rw [if_neg hindex]
    refine Runs.need_bind (Word.div?_of_pos hs.perPage) ?_
    by_cases hpage : s.1.pageCount ≤ index / s.1.perPage
    · simpa [hpage] using Runs.pure none s
    · rw [if_neg hpage, if_neg (by simp [hindex, hpage])]
      refine Runs.bind (ensurePage_runs (Nat.lt_of_not_le hpage) hs.pageCount) fun _ t ht => ?_
      have hensured := (Listing.ensurePage_ensured client s _).of_eq ht
      obtain ⟨table, hrest⟩ := hensured.later.rest
      have hperPage : t.1.perPage = s.1.perPage := by rw [hrest]
      refine Runs.bind_of_slot hensured.slot ?_
      change Runs _ (Pure.pure ((t.1.page? (index / s.1.perPage)).bind fun items =>
        items[index % t.1.perPage]?)) t
      cases t.1.page? (index / s.1.perPage) with
      | none => exact .pure none t
      | some items =>
        rw [hperPage]
        exact Runs.need_bind (Word.mod?_of_pos hs.perPage) (.pure _ t)

theorem get?_some_lt {index : Nat} {r : Resource}
    (h : Listing.get? client index s = (.ok (some r), t)) : index < s.1.total := by
  obtain ⟨list, _, hlist, h⟩ := Step.bind_eq_ok.mp h
  cases hlist
  refine Nat.lt_of_not_le fun hout => ?_
  simp [hout] at h

theorem walk_runs (hs : Fitting s.1) (count index : Nat) :
    (walk client count index).Runs (Listing.walk client count index) s := by
  induction count generalizing s index with
  | zero => exact .pure [] s
  | succ count ih =>
    refine (get?_runs hs index).bind fun r? t ht => ?_
    have hkept : Fitting t.1 :=
      (Listing.get?_keeps (fun page _ => Fitting.keeps page) index s hs).of_eq ht
    cases r? with
    | none => exact .pure [] t
    | some r =>
      have hnext : index + 1 < UInt64.size := Nat.lt_of_le_of_lt (get?_some_lt ht) hs.total
      refine Runs.need_bind (Word.add?_of_lt hnext) ?_
      exact (ih hkept (index + 1)).bind fun rest u _ => .pure _ u

theorem ensurePages_runs (hs : Fitting s.1) {count page : Nat} (h : page + count ≤ s.1.pageCount) :
    (ensurePages client count page).Runs (Listing.ensurePages client count page) s := by
  induction count generalizing s page with
  | zero => exact .pure () s
  | succ count ih =>
    refine (ensurePage_runs (by omega) hs.pageCount).bind fun _ t ht => ?_
    have hlater := ((Listing.ensurePage_ensured client s page).of_eq ht).later
    have hcount : t.1.pageCount = s.1.pageCount := by
      obtain ⟨table, hrest⟩ := hlater.rest
      rw [hrest]
    exact ih (hs.later hlater) (by omega)

theorem perform_runs (hs : Fitting s.1) (call : Listing.Call) :
    (perform client call).Runs (call.perform client) s := by
  have hget : ∀ index, (get? client index).Runs (Listing.get? client index) s := get?_runs hs
  cases call with
  | get index => exact (hget index).bind fun r? t _ => .pure _ t
  | first => exact (hget 0).bind fun r? t _ => .pure _ t
  | last =>
    refine Runs.bind (Runs.bind (.lift _ _) fun list t ht => ?_) fun r? t _ => .pure _ t
    cases ht
    split
    · exact .pure none s
    · exact hget _
  | only =>
    refine Runs.bind (Runs.bind (.lift _ _) fun list t ht => ?_) fun r t _ => .pure _ t
    cases ht
    split
    · exact .lift _ s
    · refine (hget 0).bind fun r? t _ => ?_
      cases r? with
      | none => exact .lift _ t
      | some r => exact .pure r t
  | stream limit? =>
    refine Runs.bind (Runs.bind (.lift _ _) fun list t ht => ?_) fun rs t _ => .pure _ t
    cases ht
    exact walk_runs hs _ 0
  | collect =>
    refine Runs.bind (Runs.bind (.lift _ _) fun list t ht => ?_) fun rs t _ => .pure _ t
    cases ht
    exact (ensurePages_runs hs (by omega)).bind fun _ t _ => .lift _ t

end Runs

end Checked
end CloudClient
