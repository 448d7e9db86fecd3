import CloudClient.Proofs.Datetime
import CloudClient.Proofs.Mapped
import CloudClient.Proofs.Population.Identity
import CloudClient.Proofs.Registry.Order

/-!
# What an entry puts into its field

A value that was read from a payload is written back as it was: plain values at every depth, the
timestamp of a datetime field in its canonical form, and a relation as the ids that it refers to.
Other entries leave the field alone where no id relation exposes its resource under that name.
-/

namespace CloudClient

def Datetime.canonical : Json → Json
  | .str s =>
    match parse? s.toList with
    | some t => .str (String.ofList t.text)
    | none => .str s
  | v => v

namespace Resource
open Filling (Answers)

/-- What a relation stands for: the id that its value refers to, and for an array the ids of the
items that have one. -/
def relatedIds (target : ResourceType) : Json → Json
  | .arr items => .arr (items.filterMap (referredId? target))
  | v => (referredId? target v).getD .null

theorem relatedIds_of_referred {target : ResourceType} {payload id : Json}
    (hnot : ∀ values, payload = .arr values → False) (hid : referredId? target payload = some id) :
    relatedIds target payload = id := by
  cases payload with
  | arr values => exact absurd rfl (hnot values)
  | _ => simp [relatedIds, hid]

def reproduced (registry : Registry) (p : Property) (payload : Json) : Json :=
  match p.link with
  | .plain => if p.datetime then Datetime.canonical payload else payload
  | .nested target =>
    match registry.get target with
    | .ok type => relatedIds type payload
    | .error _ => payload
  | _ => payload

theorem reproduced_null (registry : Registry) (p : Property) :
    reproduced registry p .null = .null := by
  unfold reproduced
  cases p.link with
  | plain => exact ite_self _
  | nested target =>
    dsimp only
    cases registry.get target <;> rfl
  | _ => rfl

theorem reproduced_of_raw {registry : Registry} {p : Property} {payload : Json}
    (h : payload.isNull = true ∨ p.link.isById = true) : reproduced registry p payload = payload := by
  rcases h with hnull | hbyId
  · cases payload with
    | null => exact reproduced_null registry p
    | _ => cases hnull
  · unfold reproduced
    cases hl : p.link with
    | byId target => rfl
    | _ => simp [hl, Link.isById] at hbyId

/-- A field holds what stands for a value of a payload, and holds nothing only for null. -/
structure Reproduces (json payload : Json) (v : FieldValue) : Prop where
  json : v.toJson = json
  unset : v.isUnset = false
  null : v.isNull = payload.isNull

theorem reproduces_scalar (payload : Json) : Reproduces payload payload (.scalar payload) := by
  refine ⟨rfl, rfl, ?_⟩
  cases payload <;> rfl

theorem reproduces_ofJson (payload : Json) : Reproduces payload payload (.ofJson payload) := by
  refine ⟨FieldValue.toJson_ofJson payload, ?_, ?_⟩ <;> cases payload <;> rfl

section Values
variable {registry : Registry} {target : ResourceType} {fill : Filling Unit}
  {items : List (Json × Filling Unit)}

theorem plainValue_reproduces (name : String) (p : Property) (payload : Json) :
    Answers (plainValue name p payload)
      (Reproduces (if p.datetime then Datetime.canonical payload else payload) payload) := by
  cases payload with
  | str s =>
    simp only [plainValue, Datetime.canonical]
    split
    · cases Datetime.parse? s.toList with
      | some t => exact .pure ⟨rfl, rfl, rfl⟩
      | none => exact Answers.note.bind fun _ _ => .pure (reproduces_scalar (.str s))
    · exact .pure (reproduces_scalar (.str s))
  | obj fields =>
    simp only [Datetime.canonical, ite_self]
    exact .pure (reproduces_ofJson (.obj fields))
  | arr items =>
    simp only [Datetime.canonical, ite_self]
    exact .pure (reproduces_ofJson (.arr items))
  | null | bool _ | num _ =>
    simp only [Datetime.canonical, ite_self]
    exact .pure (reproduces_scalar _)

def KeepsId (fill : Filling Unit) : Prop := ∀ id, FillKeeps (fun s => s.id = id) fill

theorem relateOne_id (hfill : KeepsId fill) (id payload : Json) :
    Answers (relateOne target none id payload fill) fun s => s.id = id := by
  refine relateOne_answers (fun _ s hs => ?_) (hfill id) (fun _ hs => by cases hs) payload
  rw [handle_eq hs]
  rfl

theorem relateItems_ids (hitems : ∀ item ∈ items, KeepsId item.2) :
    Answers (relateItems target [] items) fun rs =>
      rs.map Resource.id = (items.map Prod.fst).filterMap (referredId? target) := by
  induction items with
  | nil => exact .pure rfl
  | cons item rest ih =>
    obtain ⟨payload, fill⟩ := item
    obtain ⟨hfill, hrest⟩ := List.forall_mem_cons.mp hitems
    simp only [relateItems, List.map_cons, List.filterMap_cons]
    cases hid : referredId? target payload with
    | none => exact Answers.read.bind fun _ _ => Answers.note.bind fun _ _ => ih hrest
    | some id =>
      refine (relateOne_id hfill id payload).bind fun s hs => ?_
      refine (ih hrest).bind fun rs hrs => .pure ?_
      rw [List.map_cons, hs, hrs]

theorem referredId?_ne_null {payload id : Json} (h : referredId? target payload = some id) :
    payload.isNull = false := by
  cases payload with
  | null => cases h
  | _ => rfl

theorem relate_reproduces {key : String} (hfill : KeepsId fill)
    (hitems : ∀ item ∈ items, KeepsId item.2) {payload : Json}
    (hpayload : ∀ values, payload = .arr values → items.map Prod.fst = values) :
    Answers (relate registry key .unset payload fill items) fun v =>
      ∃ type, registry.get key = .ok type ∧ Reproduces (relatedIds type payload) payload v := by
  unfold relate
  refine (Answers.ofExcept (Q := fun t => registry.get key = .ok t) fun _ h => h).bind ?_
  intro type htype
  split
  · rename_i values
    refine (relateItems_ids hitems).bind fun rs hrs => .pure ⟨type, htype, ?_, rfl, rfl⟩
    rw [FieldValue.toJson, hrs, hpayload values rfl]
    rfl
  · rename_i hnot
    cases hid : referredId? type payload with
    | none => exact .fail
    | some id =>
      refine (relateOne_id hfill id payload).bind fun s hs => .pure ⟨type, htype, ?_, rfl, ?_⟩
      · rw [relatedIds_of_referred hnot hid]
        exact hs
      · exact (referredId?_ne_null hid).symm

/-! ## Entries -/

theorem put_yields (name : String) (v : FieldValue) {P : FieldValue → Prop} (hv : P v)
    (t : Resource × Log) :
    (Filling.put name v).Yields t fun result u => result = .ok () → P (u.1.peek name) := by
  intro _
  change P ((t.1.put name v).peek name)
  rwa [peek_put_self]

theorem fillField_own {P : FieldValue → Prop} {name : String} {payload : Json} {r : Resource}
    {p : Property} (hp : Declares r.type name p) (hlink : p.link.isDerived = false)
    (hraw : payload.isNull = true ∨ p.link.isById = true → P (.scalar payload))
    (hplain : p.link = .plain → Answers (plainValue name p payload) P)
    (hrelate : ∀ target, p.link = .nested target →
      Answers (relate registry target (r.peek name) payload fill items) P)
    (hslug : ∀ target s, p.link = .slug target → payload.isNull = false → s.id = payload →
      P (.resource s)) (log : Log) :
    (fillField registry name payload fill items).Yields (r, log) fun result t =>
      result = .ok () → P (t.1.peek name) := by
  have herror : ∀ (e : Error) (t : Resource × Log), (.error e : Except Error Unit) = .ok () →
      P (t.1.peek name) := fun e t h => by cases h
  have hnull : ∀ t, payload.isNull = true → (Filling.put name (.scalar .null)).Yields t
      fun result u => result = .ok () → P (u.1.peek name) := by
    intro t h
    cases payload with
    | null => exact put_yields name _ (hraw (.inl rfl)) t
    | _ => cases h
  unfold fillField
  apply Step.yields_read_bind.mpr
  simp only [hp.declared, hp.changes, Bool.false_eq_true, if_false]
  cases hl : p.link with
  | derived target =>
    rw [hl] at hlink
    cases hlink
  | plain =>
    refine (hplain hl r log).bind (fun v t ht => ?_) fun e t _ => herror e t
    exact put_yields name v (ht.2 v rfl) t
  | nested target =>
    dsimp only
    split
    · exact hnull _ ‹_›
    · refine take_then (hrelate target hl) (fun v log hv => ?_) fun e log => herror e _
      exact put_yields name v hv _
  | slug target =>
    dsimp only
    split
    · exact hnull _ ‹_›
    · rename_i hnot
      cases registry.get target with
      | error e => exact herror e _
      | ok type =>
        apply Step.yields_ok_bind.mpr
        cases hs : handle type payload none with
        | error e => exact herror e _
        | ok s =>
          apply Step.yields_ok_bind.mpr
          refine put_yields name _ (hslug target s hl (Bool.eq_false_iff.mpr hnot) ?_) _
          rw [handle_eq hs]
          rfl
  | byId target =>
    have hlast : ∀ t, (Filling.put name (.scalar payload)).Yields t fun result u =>
        result = .ok () → P (u.1.peek name) :=
      put_yields name _ (hraw (.inr (by rw [hl]; rfl)))
    dsimp only
    cases ResourceType.aliasOf? name with
    | none => exact hlast _
    | some exposed =>
      -- the related resource goes elsewhere, and the value itself is put last
      dsimp only
      split
      · exact .after (fun _ t => hlast t) herror
      · refine .after (fun held t => ?_) herror
        refine .after (fun v t => ?_) herror
        exact .after (fun _ t => hlast t) herror

theorem fillField_reproduces (hfill : KeepsId fill) (hitems : ∀ item ∈ items, KeepsId item.2)
    {name : String} {payload : Json}
    (hpayload : ∀ values, payload = .arr values → items.map Prod.fst = values) {r : Resource}
    {p : Property} (hp : Declares r.type name p) (hlink : p.link.isDerived = false)
    (hunset : r.peek name = .unset) (log : Log) :
    (fillField registry name payload fill items).Yields (r, log) fun result t =>
      result = .ok () → Reproduces (reproduced registry p payload) payload (t.1.peek name) := by
  refine fillField_own hp hlink (fun hraw => ?_) (fun hl => ?_) (fun target hl => ?_)
    (fun target s hl hnull hs => ?_) log
  · rw [reproduced_of_raw hraw]
    exact reproduces_scalar payload
  · simpa only [reproduced, hl] using plainValue_reproduces name p payload
  · rw [hunset]
    refine (relate_reproduces hfill hitems hpayload).mono fun v hv => ?_
    obtain ⟨type, htype, hv⟩ := hv
    simpa only [reproduced, hl, htype] using hv
  · have hjson : reproduced registry p payload = payload := by simp only [reproduced, hl]
    exact ⟨hs.trans hjson.symm, rfl, hnull.symm⟩

end Values

/-! ## Payloads -/

section Payloads
variable {registry : Registry} {now : Nat}

theorem fillObject_fillKeeps {Q : Resource → Prop} (hQ : ∀ {r s}, SameIdentity r s → Q r → Q s)
    (payload : Json) : FillKeeps Q (fillObject registry now payload) := by
  intro r log hr
  cases payload with
  | obj fields =>
    refine (fillFields_frame fields r log).bind (fun _ t ht _ => ?_) fun e t _ h => by cases h
    exact hQ (ht.sameIdentity_of_filledBy.trans (populatedFrom_sameIdentity t.1 now _)) hr
  | _ => exact fun _ => hr

theorem fillItems_arr (registry : Registry) (now : Nat) (values : List Json) :
    fillItems registry now (.arr values) =
      values.map fun v => (v, fillObject registry now v) := by
  change fillList registry now values = _
  induction values with
  | nil => rfl
  | cons v rest ih => rw [fillList, ih, List.map_cons]

theorem fillItems_fillKeeps {Q : Resource → Prop} (hQ : ∀ {r s}, SameIdentity r s → Q r → Q s)
    (payload : Json) : ∀ item ∈ fillItems registry now payload, FillKeeps Q item.2 := by
  intro item hitem
  cases payload with
  | arr values =>
    rw [fillItems_arr] at hitem
    obtain ⟨v, -, rfl⟩ := List.mem_map.mp hitem
    exact fillObject_fillKeeps hQ v
  | _ => cases hitem

theorem not_filledBy_of_ne {t : ResourceType} {name : String} {fields : List (String × Json)}
    (hexposed : ¬ t.Exposes name) (hne : ∀ entry ∈ fields, entry.1 ≠ name) :
    ¬ FilledBy t fields name := by
  intro h
  obtain ⟨entry, hentry, p, hp, hchanges, -, hname | ⟨hlink, halias⟩⟩ := h
  · exact hne entry hentry hname.symm
  · exact hexposed ⟨entry.1, p, hp, hchanges, hlink, halias⟩

theorem fillFields_reproduces {fields : Dict Json} (hkeys : (Dict.keys fields).Nodup)
    {r s : Resource} {log log' : Log}
    (h : fillFields registry now fields (r, log) = (.ok (), s, log')) {name : String} {p : Property}
    (hp : Declares r.type name p) (hlink : p.link.isDerived = false)
    (hexposed : ¬ r.type.Exposes name) (hunset : r.peek name = .unset) {payload : Json}
    (hpayload : Dict.get? fields name = some payload) :
    Reproduces (reproduced registry p payload) payload (s.peek name) := by
  obtain ⟨before, after, rfl⟩ := List.append_of_mem (Dict.mem_of_get? hpayload)
  rw [Dict.keys, List.map_append, List.map_cons] at hkeys
  obtain ⟨-, hrest, hdisjoint⟩ := List.nodup_append.mp hkeys
  have hbefore : ∀ entry ∈ before, entry.1 ≠ name := fun entry he =>
    hdisjoint _ (List.mem_map_of_mem he) _ List.mem_cons_self
  have hafter : ∀ entry ∈ after, entry.1 ≠ name := by
    intro entry he hname
    have hmem : entry.1 ∈ after.map Prod.fst := List.mem_map_of_mem he
    rw [hname] at hmem
    exact (List.nodup_cons.mp hrest).1 hmem
  rw [fillFields_append, fillFields_cons] at h
  obtain ⟨_, ⟨m, log₁⟩, hfirst, h⟩ := Step.bind_eq_ok.mp h
  obtain ⟨_, ⟨m', log₂⟩, hentry, hlast⟩ := Step.bind_eq_ok.mp h
  have hm := (fillFields_frame before r log).of_eq hfirst
  have hm' := (fillField_yields registry _ _ m name payload log₁).of_eq hentry
  have hs := (fillFields_frame after m' log₂).of_eq hlast
  have htype : m'.type = r.type := hm'.frame.type.trans hm.type
  rw [hs.kept name (by rw [htype]; exact not_filledBy_of_ne hexposed hafter)]
  have hpeek : m.peek name = .unset := by
    rw [hm.kept name (not_filledBy_of_ne hexposed hbefore), hunset]
  have hid : ∀ id, ∀ {r s : Resource}, SameIdentity r s → r.id = id → s.id = id :=
    fun id r s hsame hr => hsame.id.trans hr
  have hitems : ∀ values, payload = .arr values →
      (fillItems registry now payload).map Prod.fst = values := by
    intro values hvalues
    rw [hvalues, fillItems_arr, List.map_map]
    exact List.map_id values
  have hdeclared : Declares m.type name p := hm.type ▸ hp
  exact (fillField_reproduces (fun id => fillObject_fillKeeps (hid id) payload)
    (fun item hi id => fillItems_fillKeeps (hid id) payload item hi) hitems hdeclared hlink hpeek
    log₁).of_eq hentry rfl

end Payloads

end Resource
end CloudClient
