import CloudClient.Proofs.Population.Identity
import Mathlib.Data.List.Forall2

/-!
# Populating at another time

The clock is read only to note when a resource was populated. So two runs of a payload, at any times
and over any logs, on resources that differ in nothing but such notes, both succeed or both fail, and
leave resources that differ in nothing else.
-/

namespace CloudClient

namespace Dict
variable {α β : Type} {f : α → β}

theorem mapValues_insert (f : α → β) (d : Dict α) (key : String) (value : α) :
    mapValues f (insert d key value) = insert (mapValues f d) key (f value) := by
  induction d with
  | nil => rfl
  | cons entry rest ih =>
    obtain ⟨k, v⟩ := entry
    by_cases hk : k = key
    · simp [mapValues, insert, hk]
    · by_cases hlt : key < k
      · simp [mapValues, insert, hk, hlt]
      · simpa [mapValues, insert, hk, hlt] using ih

theorem mapValues_erase (f : α → β) (d : Dict α) (key : String) :
    mapValues f (erase d key) = erase (mapValues f d) key := by
  simp only [mapValues, erase, List.filter_map]
  rfl

end Dict

mutual
def FieldValue.undated : FieldValue → FieldValue
  | .resource r => .resource r.undated
  | .resources rs => .resources (undatedAll rs)
  -- a list stands for an array, whose items are plain values
  | v => v
termination_by structural v => v
def Resource.undated : Resource → Resource
  | ⟨type, id, parent?, fields, populated, _, raw?, changed⟩ =>
    ⟨type, id, parent?, undatedFields fields, populated, none, raw?, changed⟩
termination_by structural r => r
def undatedAll : List Resource → List Resource
  | [] => []
  | r :: rest => r.undated :: undatedAll rest
termination_by structural rs => rs
def undatedFields : List (String × FieldValue) → List (String × FieldValue)
  | [] => []
  | (name, v) :: rest => (name, v.undated) :: undatedFields rest
termination_by structural fields => fields
end

def FieldValue.SameUndated (v w : FieldValue) : Prop := v.undated = w.undated

def Resource.SameUndated (r s : Resource) : Prop := r.undated = s.undated

theorem undatedAll_eq (rs : List Resource) : undatedAll rs = rs.map Resource.undated := by
  induction rs with
  | nil => rfl
  | cons r rest ih => simp [undatedAll, ih]

theorem undatedFields_eq (fields : List (String × FieldValue)) :
    undatedFields fields = Dict.mapValues FieldValue.undated fields := by
  induction fields with
  | nil => rfl
  | cons entry rest ih => simp [undatedFields, Dict.mapValues, ih]

namespace Resource
variable {r s : Resource}

@[simp] theorem type_undated (r : Resource) : r.undated.type = r.type := by
  cases r
  rfl

@[simp] theorem id_undated (r : Resource) : r.undated.id = r.id := by
  cases r
  rfl

theorem fields_undated (r : Resource) :
    r.undated.fields = Dict.mapValues FieldValue.undated r.fields := by
  cases r
  exact undatedFields_eq _

theorem undated_eq (r : Resource) : r.undated =
    { r with fields := Dict.mapValues FieldValue.undated r.fields, updated? := none } := by
  cases r
  simp [undated, undatedFields_eq]

theorem peek_undated (r : Resource) (name : String) : r.undated.peek name = (r.peek name).undated := by
  rw [peek, fields_undated, Dict.get?_mapValues, peek]
  cases Dict.get? r.fields name <;> rfl

theorem undated_put (r : Resource) (name : String) (v : FieldValue) :
    (r.put name v).undated = r.undated.put name v.undated := by
  simp [undated_eq, put, Dict.mapValues_insert]

theorem undated_remove (r : Resource) (name : String) :
    (r.remove name).undated = r.undated.remove name := by
  simp [undated_eq, remove, Dict.mapValues_erase]

theorem heldById?_undated (id : Json) (v : FieldValue) :
    heldById? id v.undated = (heldById? id v).map undated := by
  cases v with
  | resource r =>
    simp only [FieldValue.undated, heldById?, id_undated]
    split <;> rfl
  | _ => rfl

theorem asResources?_undated (v : FieldValue) :
    v.undated.asResources?.getD [] = (v.asResources?.getD []).map undated := by
  cases v with
  | resources rs => exact undatedAll_eq rs
  | _ => rfl

theorem takeById_map (id : Json) (rs : List Resource) :
    takeById id (rs.map undated) =
      ((takeById id rs).1.map undated, (takeById id rs).2.map undated) := by
  have hfind : (rs.map undated).findIdx? (fun r => r.id.same id) =
      rs.findIdx? fun r => r.id.same id := by
    simp [List.findIdx?_map, Function.comp_def]
  unfold takeById
  rw [hfind]
  cases rs.findIdx? fun r => r.id.same id with
  | none => rfl
  | some index =>
    simp only [List.getElem?_map, swapRemove, List.getLast?_map]
    cases rs.getLast? with
    | none => rfl
    | some last => simp [List.map_set, List.map_dropLast]

end Resource

/-! ## Two runs -/

namespace Filling
variable {α β : Type} {R : α → α → Prop} {S : β → β → Prop}

/-- Two outcomes that differ in nothing but times, as far as the resources tell. -/
inductive Matched (R : α → α → Prop) :
    Except Error α × Resource × Log → Except Error α × Resource × Log → Prop
  | ok {a b : α} {r s : Resource} {log log' : Log} (h : R a b) (hr : r.undated = s.undated) :
      Matched R (.ok a, r, log) (.ok b, s, log')
  | error {e e' : Error} {t t' : Resource × Log} : Matched R (.error e, t) (.error e', t')

def Alike (R : α → α → Prop) (x y : Filling α) : Prop :=
  ∀ r s log log', r.undated = s.undated → Matched R (x (r, log)) (y (s, log'))

theorem Alike.bind {x y : Filling α} {f g : α → Filling β} (hx : Alike R x y)
    (hf : ∀ a b, R a b → Alike S (f a) (g b)) : Alike S (x >>= f) (y >>= g) := by
  intro r s log log' h
  have hxy := hx r s log log' h
  rw [Step.bind_apply, Step.bind_apply]
  generalize x (r, log) = p at hxy ⊢
  generalize y (s, log') = q at hxy ⊢
  cases hxy with
  | ok hab hrs => exact hf _ _ hab _ _ _ _ hrs
  | error => exact .error

theorem Alike.pure {a b : α} (h : R a b) : Alike R (Pure.pure a) (Pure.pure b) :=
  fun _ _ _ _ hrs => .ok h hrs

theorem Alike.fail (e e' : Error) : Alike R (Step.fail e) (Step.fail e') := fun _ _ _ _ _ => .error

theorem Alike.ofExcept (result : Except Error α) (h : ∀ a, R a a) :
    Alike R (Step.ofExcept result) (Step.ofExcept result) := by
  intro r s log log' hrs
  cases result with
  | ok a => exact .ok (h a) hrs
  | error e => exact .error

theorem Alike.read (f : Resource × Log → α) : Alike (fun _ _ => True) (Step.read f) (Step.read f) :=
  fun _ _ _ _ hrs => .ok trivial hrs

theorem Alike.note {level level' : Level} {message message' : String} :
    Alike (fun _ _ => True) (note level message) (note level' message') :=
  fun _ _ _ _ hrs => .ok trivial hrs

theorem Alike.put (name : String) {v w : FieldValue} (h : v.undated = w.undated) :
    Alike (fun _ _ => True) (put name v) (put name w) := by
  intro r s log log' hrs
  refine .ok trivial ?_
  rw [Resource.undated_put, Resource.undated_put, hrs, h]

theorem Alike.take (name : String) :
    Alike FieldValue.SameUndated (take name) (take name) := by
  intro r s log log' hrs
  refine .ok ?_ ?_
  · rw [FieldValue.SameUndated, ← Resource.peek_undated, ← Resource.peek_undated, hrs]
  · rw [Resource.undated_remove, Resource.undated_remove, hrs]

theorem Alike.on {x y : Filling Unit} {held held' : Resource} (hx : Alike (fun _ _ => True) x y)
    (hheld : held.SameUndated held') : Alike Resource.SameUndated (on held x) (on held' y) := by
  intro r s log log' hrs
  have hxy := hx held held' log log' hheld
  unfold Filling.on
  dsimp only
  generalize x (held, log) = p at hxy ⊢
  generalize y (held', log') = q at hxy ⊢
  cases hxy with
  | ok _ hsame => exact .ok hsame hrs
  | error => exact .error

end Filling

namespace Resource
open Filling (Alike)

def FillsAlike (fill fill' : Filling Unit) : Prop := Alike (fun _ _ => True) fill fill'

def ItemsAlike : List (Json × Filling Unit) → List (Json × Filling Unit) → Prop :=
  List.Forall₂ fun item item' => item.1 = item'.1 ∧ FillsAlike item.2 item'.2

section Relations
variable {fill fill' : Filling Unit}

theorem relateOne_alike (target : ResourceType) {held? held'? : Option Resource}
    (hheld : held?.map undated = held'?.map undated) (hfill : FillsAlike fill fill')
    (id payload : Json) :
    Alike SameUndated (relateOne target held? id payload fill)
      (relateOne target held'? id payload fill') := by
  have hrest : ∀ r s, SameUndated r s → Alike SameUndated
      (if hasContent target payload then Filling.on r fill else Pure.pure r)
      (if hasContent target payload then Filling.on s fill' else Pure.pure s) := by
    intro r s hrs
    by_cases hcontent : hasContent target payload = true
    · rw [if_pos hcontent, if_pos hcontent]
      exact hfill.on hrs
    · rw [if_neg hcontent, if_neg hcontent]
      exact .pure hrs
  cases held? with
  | none =>
    cases held'? with
    | none => exact (Alike.ofExcept (R := SameUndated) _ fun _ => rfl).bind hrest
    | some s => cases hheld
  | some r =>
    cases held'? with
    | none => cases hheld
    | some s => exact (Alike.pure (R := SameUndated) (Option.some.inj hheld)).bind hrest

theorem relateItems_alike (target : ResourceType) {items items' : List (Json × Filling Unit)}
    (hitems : ItemsAlike items items') {held held' : List Resource}
    (hheld : held.map undated = held'.map undated) :
    Alike (fun rs ss => rs.map undated = ss.map undated) (relateItems target held items)
      (relateItems target held' items') := by
  induction hitems generalizing held held' with
  | nil => exact .pure rfl
  | @cons item item' rest rest' hitem _ ih =>
    obtain ⟨payload, fill⟩ := item
    obtain ⟨payload', fill'⟩ := item'
    obtain ⟨rfl, hfill⟩ := hitem
    simp only [relateItems]
    cases referredId? target payload with
    | none =>
      exact (Alike.read _).bind fun _ _ _ => Alike.note.bind fun _ _ _ => ih hheld
    | some id =>
      have htake : takeById id (held.map undated) = takeById id (held'.map undated) := by rw [hheld]
      rw [takeById_map, takeById_map] at htake
      obtain ⟨hfirst, hothers⟩ := Prod.mk.inj htake
      refine (relateOne_alike target hfirst hfill id payload).bind fun r s hrs => ?_
      exact (ih hothers).bind fun rs ss hrest => .pure (congrArg₂ List.cons hrs hrest)

theorem relate_alike (registry : Registry) (key : String) {held held' : FieldValue}
    (hheld : held.SameUndated held') (payload : Json) (hfill : FillsAlike fill fill')
    {items items' : List (Json × Filling Unit)} (hitems : ItemsAlike items items') :
    Alike FieldValue.SameUndated (relate registry key held payload fill items)
      (relate registry key held' payload fill' items') := by
  unfold relate
  refine (Alike.ofExcept (R := Eq) _ fun _ => rfl).bind ?_
  intro target _ htarget
  subst htarget
  have hone : ∀ id, Alike FieldValue.SameUndated
      (relateOne target (heldById? id held) id payload fill >>= fun r => Pure.pure (.resource r))
      (relateOne target (heldById? id held') id payload fill' >>= fun r =>
        Pure.pure (.resource r)) := by
    intro id
    have hbyId : (heldById? id held).map undated = (heldById? id held').map undated := by
      rw [← heldById?_undated, ← heldById?_undated, hheld]
    refine (relateOne_alike target hbyId hfill id payload).bind fun r s hrs => .pure ?_
    exact congrArg FieldValue.resource hrs
  cases payload with
  | arr values =>
    have hmany : (held.asResources?.getD []).map undated = (held'.asResources?.getD []).map undated := by
      rw [← asResources?_undated, ← asResources?_undated, hheld]
    refine (relateItems_alike target hitems hmany).bind fun rs ss hrs => .pure ?_
    rw [FieldValue.SameUndated, FieldValue.undated, FieldValue.undated, undatedAll_eq, undatedAll_eq,
      hrs]
  | _ =>
    dsimp only
    split
    · exact .fail _ _
    · exact hone _

theorem plainValue_alike (name : String) (p : Property) (payload : Json) :
    Alike Eq (plainValue name p payload) (plainValue name p payload) := by
  cases payload with
  | str text =>
    simp only [plainValue]
    split
    · split
      · exact .pure rfl
      · exact Alike.note.bind fun _ _ _ => .pure rfl
    · exact .pure rfl
  | _ => exact .pure rfl

theorem property_alike (name : String) :
    Alike Eq (Step.read fun (r, _) => r.type.property? name)
      (Step.read fun (r, _) => r.type.property? name) := by
  intro r s log log' hrs
  refine .ok ?_ hrs
  change r.type.property? name = s.type.property? name
  rw [← type_undated r, ← type_undated s, hrs]

theorem fillField_alike (registry : Registry) (name : String) (payload : Json)
    (hfill : FillsAlike fill fill') {items items' : List (Json × Filling Unit)}
    (hitems : ItemsAlike items items') :
    FillsAlike (fillField registry name payload fill items)
      (fillField registry name payload fill' items') := by
  have hput : ∀ field v, FillsAlike (Filling.put field v) (Filling.put field v) :=
    fun field v => .put field rfl
  have hrelation : ∀ field target (f : FieldValue → Filling Unit),
      (∀ v w, v.SameUndated w → FillsAlike (f v) (f w)) → FillsAlike
        (Filling.take field >>= fun held => relate registry target held payload fill items >>= f)
        (Filling.take field >>= fun held => relate registry target held payload fill' items' >>= f) := by
    intro field target f hf
    refine (Alike.take field).bind fun held held' hheld => ?_
    exact (relate_alike registry target hheld payload hfill hitems).bind hf
  unfold fillField
  refine (property_alike name).bind ?_
  intro property? _ hproperty
  subst hproperty
  cases property? with
  | none => exact .pure trivial
  | some p =>
    dsimp only
    split
    · exact .pure trivial
    cases p.link with
    | derived target => exact .pure trivial
    | plain =>
      refine (plainValue_alike name p payload).bind ?_
      intro v _ hv
      subst hv
      exact hput name v
    | nested target =>
      dsimp only
      split
      · exact hput name _
      · exact hrelation name target _ fun v w hv => .put name hv
    | slug target =>
      dsimp only
      split
      · exact hput name _
      · refine (Alike.ofExcept (R := Eq) _ fun _ => rfl).bind ?_
        intro type _ htype
        subst htype
        refine (Alike.ofExcept (R := Eq) _ fun _ => rfl).bind ?_
        intro s _ hs
        subst hs
        exact hput name _
    | byId target =>
      dsimp only
      cases ResourceType.aliasOf? name with
      | none => exact hput name _
      | some exposed =>
        dsimp only
        split
        · exact (hput exposed _).bind fun _ _ _ => hput name _
        · refine hrelation exposed target _ fun v w hv => ?_
          exact (Alike.put exposed hv).bind fun _ _ _ => hput name _

end Relations

section Populating
variable {registry : Registry} {now : Nat} {payload : Json} {log : Log} {r : Resource}

/-- By induction over the payload, as what an entry fills is filled first. -/
theorem fillObject_alike (registry : Registry) (now now' : Nat) (payload : Json) :
    FillsAlike (fillObject registry now payload) (fillObject registry now' payload) := by
  induction payload using fillObject.induct
    (motive_1 := fun fields => FillsAlike (fillFields registry now fields)
      (fillFields registry now' fields))
    (motive_2 := fun v => ItemsAlike (fillItems registry now v) (fillItems registry now' v))
    (motive_3 := fun vs => ItemsAlike (fillList registry now vs) (fillList registry now' vs)) with
  | case1 items ih => exact ih
  | case2 v hv =>
    cases v with
    | arr items => exact absurd rfl (hv items)
    | _ => exact .nil
  | case3 fields ih =>
    refine ih.bind fun _ _ _ r s log log' hrs => .ok trivial ?_
    rw [undated_eq, undated_eq] at hrs ⊢
    simp only [populatedFrom, mk.injEq] at hrs ⊢
    tauto
  | case4 v hv =>
    cases v with
    | obj fields => exact absurd rfl (hv fields)
    | _ => exact .pure trivial
  | case5 => exact .nil
  | case6 v rest ihv ihrest => exact .cons ⟨rfl, ihv⟩ ihrest
  | case7 => exact .pure trivial
  | case8 name payload rest ihobj ihitems ihrest =>
    exact (fillField_alike registry name payload ihobj ihitems).bind fun _ _ _ => ihrest

theorem fill_any_time {t : Resource} {log₁ : Log}
    (h : fill registry now payload (r, log) = (.ok (), t, log₁)) (now' : Nat) (log' : Log) :
    ∃ t' log₂, fill registry now' payload (r, log') = (.ok (), t', log₂) ∧ t'.SameUndated t := by
  have halike := fillObject_alike registry now now' payload r r log log' rfl
  unfold fill at h ⊢
  split at h
  · rename_i hobject
    rw [if_pos hobject]
    rw [h] at halike
    generalize fillObject registry now' payload (r, log') = outcome at halike ⊢
    cases halike with
    | ok _ hsame => exact ⟨_, _, rfl, hsame.symm⟩
  · cases h

theorem ofItem_any_time {type : ResourceType} {parent? : Option ParentKey} {log₁ : Log}
    (h : ofItem registry now type parent? payload log = (.ok r, log₁)) (now' : Nat) (log' : Log) :
    ∃ s log₂, ofItem registry now' type parent? payload log' = (.ok s, log₂) ∧ s.SameUndated r := by
  obtain ⟨id, hid, h⟩ := ofItem_eq_ok.mp h
  obtain ⟨t, hhandle, hfill⟩ := ofPayload_eq_ok.mp h
  obtain ⟨s, log₂, hfill', hsame⟩ := fill_any_time hfill now' log'
  exact ⟨s, log₂, ofItem_eq_ok.mpr ⟨id, hid, ofPayload_eq_ok.mpr ⟨t, hhandle, hfill'⟩⟩, hsame⟩

end Populating

end Resource
end CloudClient
