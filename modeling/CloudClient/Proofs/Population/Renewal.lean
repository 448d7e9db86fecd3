import CloudClient.Proofs.Population.Overlay
import Mathlib.Data.List.Perm.Subperm

/-!
# Renewed lists

Populating a list of related resources takes former members out of it one after another, each for an
item of its id, and makes a new resource where none is left. So the new list stands for the items in
their order, a former member is used once at most, and as many of an id are used as there are items
for. What an item does not fill stays as it was.
-/

namespace CloudClient

namespace Resource
open Filling (Answers)

/-! ## Taking by id -/

theorem swapRemove_concat (rs : List Resource) (last : Resource) (index : Nat) :
    swapRemove (rs ++ [last]) index = ((rs ++ [last]).set index last).dropLast := by
  simp [swapRemove]

theorem swapRemove_perm {rs : List Resource} {index : Nat} {r : Resource}
    (h : rs[index]? = some r) : rs.Perm (r :: swapRemove rs index) := by
  rcases List.eq_nil_or_concat rs with rfl | ⟨front, last, rfl⟩
  · cases h
  rw [List.concat_eq_append] at h ⊢
  rw [swapRemove_concat]
  rcases Nat.lt_or_ge index front.length with hlt | hge
  · rw [List.getElem?_append_left hlt, List.getElem?_eq_getElem hlt] at h
    obtain rfl := Option.some.inj h
    rw [List.set_append_left index last hlt, List.dropLast_concat]
    calc List.Perm (front ++ [last]) (last :: front) := List.perm_append_singleton last front
      List.Perm _ (last :: front[index] :: front.eraseIdx index) :=
        (List.getElem_cons_eraseIdx_perm hlt).symm.cons last
      List.Perm _ (front[index] :: last :: front.eraseIdx index) := List.Perm.swap _ _ _
      List.Perm _ (front[index] :: front.set index last) :=
        (List.set_perm_cons_eraseIdx hlt last).symm.cons front[index]
  · have hindex : index = front.length := by
      have hlt := (List.getElem?_eq_some_iff.mp h).1
      simp only [List.length_append, List.length_singleton] at hlt
      omega
    subst hindex
    rw [List.getElem?_concat_length] at h
    obtain rfl := Option.some.inj h
    rw [List.set_append_right _ _ (Nat.le_refl _), Nat.sub_self, List.set_cons_zero,
      List.dropLast_concat]
    exact List.perm_append_singleton last front

theorem takeById_some {id : Json} {rs others : List Resource} {r : Resource}
    (h : takeById id rs = (some r, others)) : rs.Perm (r :: others) := by
  unfold takeById at h
  split at h
  · obtain ⟨hr, rfl⟩ := Prod.mk.inj h
    exact swapRemove_perm hr
  · cases h

theorem takeById_none {id : Json} {rs others : List Resource} (h : takeById id rs = (none, others)) :
    others = rs ∧ ∀ r ∈ rs, r.id.same id = false := by
  unfold takeById at h
  split at h
  · rename_i index hindex
    obtain ⟨hnone, -⟩ := Prod.mk.inj h
    obtain ⟨hlt, -⟩ := List.findIdx?_eq_some_iff_getElem.mp hindex
    rw [List.getElem?_eq_getElem hlt] at hnone
    cases hnone
  · rename_i hindex
    obtain ⟨-, rfl⟩ := Prod.mk.inj h
    exact ⟨rfl, by simpa using hindex⟩

/-! ## Renewals -/

/-- One member of a renewed list: the item that it stands for with the id of that, the former member
that was taken for it, and what it is now. -/
structure Renewal where
  item : Json
  id : Json
  former? : Option Resource
  resource : Resource

def Refilled (registry : Registry) (now : Nat) (target : ResourceType) (base : Resource)
    (item : Json) (r : Resource) : Prop :=
  if hasContent target item = true then
    ∃ log log', fillObject registry now item (base, log) = (.ok (), r, log')
  else r = base

structure Renewal.Sound (registry : Registry) (now : Nat) (target : ResourceType) (n : Renewal) :
    Prop where
  refers : referredId? target n.item = some n.id
  id : n.resource.id.same n.id = true
  former : ∀ r, n.former? = some r →
    r.id.same n.id = true ∧ Refilled registry now target r n.item n.resource
  fresh : n.former? = none → n.resource.populated = hasContent target n.item ∧
    ∃ r, handle target n.id none = .ok r ∧ Refilled registry now target r n.item n.resource

structure Renews (registry : Registry) (now : Nat) (target : ResourceType) (held : List Resource)
    (items : List Json) (renewals : List Renewal) : Prop where
  covers : renewals.map Renewal.item = items.filter fun v => (referredId? target v).isSome
  sound : ∀ n ∈ renewals, n.Sound registry now target
  once : (renewals.filterMap Renewal.former?).Subperm held
  count : ∀ id, (renewals.countP fun n => n.former?.isSome && n.id.same id) =
    min (held.countP fun r => r.id.same id)
      ((items.filterMap (referredId? target)).countP fun other => other.same id)

section Renewing
variable {registry : Registry} {now : Nat} {target : ResourceType} {held others : List Resource}
  {item id : Json} {items : List Json} {renewals : List Renewal} {r t : Resource}

theorem renews_nil : Renews registry now target held [] [] :=
  ⟨rfl, fun _ h => (by cases h), List.nil_subperm, fun _ => by simp⟩

theorem Renews.skip (hitem : referredId? target item = none)
    (h : Renews registry now target held items renewals) :
    Renews registry now target held (item :: items) renewals := by
  refine ⟨?_, h.sound, h.once, fun other => ?_⟩
  · simp [hitem, h.covers]
  · simp [hitem, h.count]

theorem same_iff_of_same {a b : Json} (h : a.same b = true) (c : Json) : a.same c = b.same c := by
  rw [Bool.eq_iff_iff]
  exact ⟨Json.same_trans (Json.same_symm h), Json.same_trans h⟩

theorem Renews.reuse (hitem : referredId? target item = some id) (hheld : held.Perm (r :: others))
    (hid : r.id.same id = true)
    (hsound : (⟨item, id, some r, t⟩ : Renewal).Sound registry now target)
    (h : Renews registry now target others items renewals) :
    Renews registry now target held (item :: items) (⟨item, id, some r, t⟩ :: renewals) := by
  refine ⟨?_, List.forall_mem_cons.mpr ⟨hsound, h.sound⟩, ?_, fun other => ?_⟩
  · simp [hitem, h.covers]
  · rw [hheld.subperm_left]
    exact (List.subperm_cons r).mpr h.once
  · rw [hheld.countP_eq, List.countP_cons, h.count, List.filterMap_cons_some hitem,
      List.countP_cons, List.countP_cons, same_iff_of_same hid]
    simp only [Option.isSome_some, Bool.true_and]
    split <;> omega

theorem Renews.replace (hitem : referredId? target item = some id)
    (hnone : ∀ r ∈ held, r.id.same id = false)
    (hsound : (⟨item, id, none, t⟩ : Renewal).Sound registry now target)
    (h : Renews registry now target held items renewals) :
    Renews registry now target held (item :: items) (⟨item, id, none, t⟩ :: renewals) := by
  refine ⟨?_, List.forall_mem_cons.mpr ⟨hsound, h.sound⟩, ?_, fun other => ?_⟩
  · simp [hitem, h.covers]
  · exact h.once
  · rw [List.countP_cons, h.count, List.filterMap_cons_some hitem, List.countP_cons]
    simp only [Option.isSome_none, Bool.false_and, Bool.false_eq_true, if_false, Nat.add_zero]
    by_cases hsame : id.same other = true
    · -- no former member is left for this id
      have hzero : held.countP (fun r => r.id.same other) = 0 := by
        refine List.countP_eq_zero.mpr fun r hr hother => ?_
        have := Json.same_trans hother (Json.same_symm hsame)
        rw [hnone r hr] at this
        cases this
      rw [hzero, Nat.zero_min, Nat.zero_min]
    · rw [if_neg hsame, Nat.add_zero]

end Renewing

/-! ## Relations -/

section Relations
variable {registry : Registry} {now : Nat} {target : ResourceType} {id item : Json}
  {r t : Resource}

theorem Refilled.populated (h : Refilled registry now target r item t)
    (hnew : r.populated = false) : t.populated = hasContent target item := by
  unfold Refilled at h
  split at h
  · rename_i hcontent
    obtain ⟨log, log', hfill⟩ := h
    cases item with
    | obj fields =>
      have hfill : fill registry now (.obj fields) (r, log) = (.ok (), t, log') := hfill
      obtain ⟨_, m, -, -, rfl⟩ := fill_eq_ok.mp hfill
      exact hcontent.symm
    | _ => cases hcontent
  · rename_i hcontent
    rw [h, hnew]
    exact (Bool.eq_false_iff.mpr hcontent).symm

theorem relateOne_refilled (held? : Option Resource) :
    Answers (relateOne target held? id item (fillObject registry now item)) fun t =>
      ∃ r, (∀ s, held? = some s → r = s) ∧ (held? = none → handle target id none = .ok r) ∧
        Refilled registry now target r item t := by
  have hrest : ∀ r, Answers (if hasContent target item then
      Filling.on r (fillObject registry now item) else Pure.pure r) fun t =>
        Refilled registry now target r item t := by
    intro r
    unfold Refilled
    split
    · exact .on fun log hok => ⟨log, _, Prod.ext hok rfl⟩
    · exact .pure rfl
  cases held? with
  | some s =>
    refine (Answers.pure (Q := fun r => r = s) rfl).bind fun r hr => (hrest r).mono fun t ht => ?_
    exact ⟨r, fun _ hs => hr.trans (Option.some.inj hs), fun hnone => (by cases hnone), ht⟩
  | none =>
    refine (Answers.ofExcept (Q := fun r => handle target id none = .ok r) fun _ h => h).bind ?_
    exact fun r hr => (hrest r).mono fun t ht => ⟨r, fun _ hs => (by cases hs), fun _ => hr, ht⟩

theorem relateOne_sound {held? : Option Resource} (hitem : referredId? target item = some id)
    (hheld : ∀ s, held? = some s → s.id.same id = true) :
    Answers (relateOne target held? id item (fillObject registry now item)) fun t =>
      (⟨item, id, held?, t⟩ : Renewal).Sound registry now target := by
  refine ((relateOne_same hheld).and (relateOne_refilled held?)).mono fun t ht => ?_
  obtain ⟨hid, r, hformer, hfresh, hrefilled⟩ := ht
  refine ⟨hitem, hid, fun s hs => ⟨hheld s hs, ?_⟩, fun hnone => ?_⟩
  · exact hformer s hs ▸ hrefilled
  · have hr := hfresh hnone
    exact ⟨hrefilled.populated (by rw [handle_eq hr]; rfl), r, hr, hrefilled⟩

/-- By induction over the items: each takes out of what the earlier ones left. -/
theorem relateItems_renews (items : List Json) (held : List Resource) :
    Answers (relateItems target held (fillItems registry now (.arr items))) fun ts =>
      ∃ renewals, ts = renewals.map Renewal.resource ∧
        Renews registry now target held items renewals := by
  rw [fillItems_arr]
  induction items generalizing held with
  | nil => exact .pure ⟨[], rfl, renews_nil⟩
  | cons item rest ih =>
    simp only [List.map_cons, relateItems]
    cases hitem : referredId? target item with
    | none =>
      refine Answers.read.bind fun _ _ => Answers.note.bind fun _ _ => ?_
      refine (ih held).mono fun ts hts => ?_
      obtain ⟨renewals, hts, hrenews⟩ := hts
      exact ⟨renewals, hts, hrenews.skip hitem⟩
    | some id =>
      have hsame : ∀ s, (takeById id held).1 = some s → s.id.same id = true :=
        fun s => same_of_takeById
      refine (relateOne_sound hitem hsame).bind fun t hsound => ?_
      refine (ih (takeById id held).2).bind fun ts hts => .pure ?_
      obtain ⟨renewals, rfl, hrenews⟩ := hts
      generalize htake : takeById id held = taken at hsame hsound hrenews
      obtain ⟨_ | r, others⟩ := taken
      · obtain ⟨rfl, hnone⟩ := takeById_none htake
        exact ⟨⟨item, id, none, t⟩ :: renewals, rfl, hrenews.replace hitem hnone hsound⟩
      · exact ⟨⟨item, id, some r, t⟩ :: renewals, rfl,
          hrenews.reuse hitem (takeById_some htake) (hsame r rfl) hsound⟩

theorem relate_renews {key : String} (held : FieldValue) (items : List Json) :
    Answers (relate registry key held (.arr items) (fillObject registry now (.arr items))
      (fillItems registry now (.arr items))) fun v => ∃ type renewals,
        registry.get key = .ok type ∧ v = .resources (renewals.map Renewal.resource) ∧
        Renews registry now type (held.asResources?.getD []) items renewals := by
  unfold relate
  refine (Answers.ofExcept (Q := fun t => registry.get key = .ok t) fun _ h => h).bind ?_
  intro type htype
  refine (relateItems_renews items _).bind fun ts hts => .pure ?_
  obtain ⟨renewals, rfl, hrenews⟩ := hts
  exact ⟨type, renewals, htype, rfl, hrenews⟩

end Relations

/-! ## Populations -/

section Populations
variable {client : Client} {r s : Resource} {key slot target : String} {payload : Json}
  {before after : List (String × Json)} {items : List Json} {w w' : World}

theorem fills_of_refers {t : ResourceType} (h : t.Refers key slot target) : t.Fills key slot := by
  obtain ⟨p, ⟨hp, hid⟩, ⟨hlink, hslot⟩ | ⟨hlink, halias⟩⟩ := h.declared
  · exact ⟨p, hp, hid, by rw [hlink]; rfl, .inl hslot⟩
  · exact ⟨p, hp, hid, by rw [hlink]; rfl, .inr ⟨by rw [hlink]; rfl, halias⟩⟩

theorem not_fills_of_sorted {t : ResourceType} (hunshared : t.Unshared) (h : t.Fills key slot)
    (hsorted : Dict.Sorted (before ++ (key, payload) :: after)) :
    ∀ entry ∈ before ++ after, ¬ t.Fills entry.1 slot := by
  intro entry hentry hfills
  have hkey := fills_unique hunshared hfills h
  obtain ⟨-, hrest, hcross⟩ := List.pairwise_append.mp hsorted
  rcases List.mem_append.mp hentry with hentry | hentry
  · exact String.ne_of_lt (hcross entry hentry _ List.mem_cons_self) hkey
  · exact String.ne_of_lt ((List.pairwise_cons.mp hrest).1 entry hentry) hkey.symm

theorem populate_of_append
    (h : populate client (.obj (before ++ after)) (r, w) = (.ok (), s, w')) :
    ∃ m w₁, populate client (.obj before) (r, w) = (.ok (), m, w₁) := by
  obtain ⟨_, s₀, log, hobj, hall, -⟩ := populate_eq_ok.mp h
  cases hobj
  rw [fillFields_append] at hall
  obtain ⟨_, ⟨m, log₁⟩, hbefore, -⟩ := Step.bind_eq_ok.mp hall
  exact ⟨_, _, populate_eq_ok.mpr ⟨before, m, log₁, rfl, hbefore, rfl, rfl⟩⟩

theorem populate_kept {m : Resource} {w₁ : World}
    (h : populate client (.obj before) (r, w) = (.ok (), m, w₁))
    (hnone : ∀ entry ∈ before, ¬ r.type.Fills entry.1 slot) : m.peek slot = r.peek slot := by
  obtain ⟨_, m₀, log, hobj, hfields, rfl, -⟩ := populate_eq_ok.mp h
  cases hobj
  refine ((fillFields_frame before r w.log).of_eq hfields).kept slot fun hfilled => ?_
  obtain ⟨entry, hentry, hfills⟩ := hfilled
  exact hnone entry hentry hfills

/-- Populating a list of related resources makes one of each item that has an id, in their order. Of
each id, as many former members are used as there are and as there are items for, each of them once,
and all others are new. What has no more to it than its id leaves a former member as it was, and a
new one unpopulated. The former members are those that the entries before have left, which are the
ones of the resource itself where no other entry fills the field. -/
theorem list_renewed (h : r.type.Refers key slot target)
    (hpopulate : populate client (.obj (before ++ (key, .arr items) :: after)) (r, w) =
      (.ok (), s, w')) :
    (r.type.Unshared → Dict.Sorted (before ++ (key, .arr items) :: after) →
      ∀ entry ∈ before ++ after, ¬ r.type.Fills entry.1 slot) ∧
    ∃ m w₁, populate client (.obj before) (r, w) = (.ok (), m, w₁) ∧
      ((∀ entry ∈ before, ¬ r.type.Fills entry.1 slot) → m.peek slot = r.peek slot) ∧
      ((∀ entry ∈ after, ¬ r.type.Fills entry.1 slot) →
        ∃ type renewals, client.registry.get target = .ok type ∧
          s.peek slot = .resources (renewals.map Renewal.resource) ∧
          Renews client.registry w.now type ((m.peek slot).asResources?.getD []) items
            renewals) := by
  obtain ⟨m, w₁, hbefore⟩ := populate_of_append hpopulate
  refine ⟨fun hunshared => not_fills_of_sorted hunshared (fills_of_refers h), m, w₁, hbefore,
    populate_kept hbefore, fun hafter => ?_⟩
  exact populate_refers h rfl hbefore hpopulate hafter (relate_renews _ items)

end Populations

/-! ## A task -/

def formerOwners : List Json := [.obj [("id", .int 7), ("label", .str "db")], .int 8, .int 7]

def crowdedTask : Resource :=
  (populate (clientOf taskRegistry) (.obj [("owner", .arr formerOwners)]) (task, offline)).2.1

def owners : List Json :=
  [.int 8, .obj [("id", .int 7)], .null, .obj [("id", .int 7), ("label", .str "web")], .int 7,
    .obj [("id", .int 9), ("label", .null)]]

/-- The first of the owners of one id keeps its label, the second one is given another, and the third
is new, as the last one is. -/
theorem list_renewed_owners :
    crowdedTask.type.Refers "owner" "owner" "task" ∧ crowdedTask.type.Unshared ∧
      populate (clientOf taskRegistry) (.obj [("owner", .arr formerOwners)]) (task, offline) =
        (.ok (), crowdedTask, offline) ∧
      ∃ s w' held ts renewals,
        populate (clientOf taskRegistry) (.obj [("label", .null), ("owner", .arr owners)])
          (crowdedTask, offline) = (.ok (), s, w') ∧
        crowdedTask.peek "owner" = .resources held ∧ s.peek "owner" = .resources ts ∧
        ts = renewals.map Renewal.resource ∧
        Renews taskRegistry offline.now taskType held owners renewals ∧
        ts.map (fun t => (t.id, t.peek "label", t.populated)) =
          [(.int 8, .unset, false), (.int 7, .scalar (.str "db"), true),
            (.int 7, .scalar (.str "web"), true), (.int 7, .unset, false),
            (.int 9, .scalar .null, true)] := by
  have hrefers : crowdedTask.type.Refers "owner" "owner" "task" := ⟨_, ⟨rfl, rfl⟩, .inl ⟨rfl, rfl⟩⟩
  have hunshared : crowdedTask.type.Unshared := taskType_unshared
  have hsorted : Dict.Sorted [("label", .null), ("owner", Json.arr owners)] := by
    unfold Dict.Sorted
    decide +kernel
  have hpopulate : populate (clientOf taskRegistry)
      (.obj ([("label", .null)] ++ ("owner", .arr owners) :: [])) (crowdedTask, offline) =
        (.ok (), _, _) := rfl
  obtain ⟨halone, m, w₁, hbefore, hkept, hrenewed⟩ := list_renewed hrefers hpopulate
  obtain ⟨type, renewals, htype, hpeek, hrenews⟩ := hrenewed nofun
  have hm : m.peek "owner" = crowdedTask.peek "owner" :=
    hkept fun entry hentry => halone hunshared hsorted entry (List.mem_append_left _ hentry)
  cases htype
  rw [hm] at hrenews
  exact ⟨hrefers, hunshared, rfl, _, _, _, _, renewals, hpopulate, rfl, hpeek, rfl, hrenews, by
    injection hpeek with hts
    rw [← hts]
    rfl⟩

end Resource
end CloudClient
