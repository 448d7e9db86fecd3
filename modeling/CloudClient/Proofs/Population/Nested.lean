import CloudClient.Proofs.Population.Clock
import CloudClient.Proofs.Population.Locality
import CloudClient.Proofs.Resource.Effects
import CloudClient.Proofs.Resource.Update

/-!
# Nested resources

A relation fills a new resource from the object that stands in the payload, as constructing it from
this object does, but does not take the identifiers that a construction takes first. An entry reads
no identifier, so both runs end alike, and the two resources differ in nothing but identifiers that
the object names and that no id relation writes over.
-/

namespace CloudClient

/-- A field that keeps what it refers to in a slot: itself, or the alias of an id relation. -/
structure ResourceType.Refers (t : ResourceType) (key slot target : String) : Prop where
  declared : ∃ p, Resource.Declares t key p ∧ (p.link = .nested target ∧ slot = key ∨
    p.link = .byId target ∧ aliasOf? key = some slot)

namespace Resource
open Filling (Answers)

/-! ## Two runs beside one another -/

structure Beside (r s : Resource) : Prop where
  rest : s = { r with fields := s.fields }
  fields : ∀ name, Interchangeable (r.peek name) (s.peek name)

section Runs
variable {registry : Registry} {now : Nat} {r r' s : Resource} {log log₁ : Log}

theorem Beside.type (h : Beside r s) : s.type = r.type := by rw [h.rest]

theorem Beside.fillField (h : Beside r s) {name : String} {payload : Json}
    (hrun : fillField registry name payload (fillObject registry now payload)
      (fillItems registry now payload) (r, log) = (.ok (), r', log₁)) (log' : Log) :
    ∃ s' log₂, fillField registry name payload (fillObject registry now payload)
        (fillItems registry now payload) (s, log') = (.ok (), s', log₂) ∧ Beside r' s' ∧
      ∀ field, r.type.Fills name field ∨ s.peek field = r.peek field → s'.peek field = r'.peek field := by
  obtain ⟨result, write, hwrites, hdetermined⟩ := entry_determined registry now name payload r
  obtain ⟨_, hr⟩ := hdetermined r log rfl fun _ _ => .inl rfl
  obtain ⟨log₂, hs⟩ := hdetermined s log' h.type fun slot _ => h.fields slot
  cases hr.symm.trans hrun
  have hframe := hwrites.frame r rfl
  have hframe' := hwrites.frame s h.type
  have hrest : write s = { write r with fields := (write s).fields } := by
    have hsource : ∀ fields, { s with fields } = { r with fields } := fun _ => by rw [h.rest]
    have htarget : ∀ fields, { write r with fields } = { r with fields } :=
      fun _ => by rw [hframe.rest]
    rw [htarget, ← hsource]
    exact hframe'.rest
  have hagree : ∀ field, r.type.Fills name field ∨ s.peek field = r.peek field →
      (write s).peek field = (write r).peek field := by
    intro field hfield
    by_cases hfills : r.type.Fills name field
    · exact hwrites.same rfl field hfills s r
    · rw [hframe'.kept field hfills, hframe.kept field hfills]
      exact hfield.resolve_left hfills
  refine ⟨write s, log₂, hs, ⟨hrest, fun field => ?_⟩, hagree⟩
  by_cases hfills : r.type.Fills name field
  · exact .inl (hagree field (.inl hfills)).symm
  · rw [hframe'.kept field hfills, hframe.kept field hfills]
    exact h.fields field

theorem Beside.fillFields {fields : List (String × Json)} (h : Beside r s)
    (hrun : fillFields registry now fields (r, log) = (.ok (), r', log₁)) (log' : Log) :
    ∃ s' log₂, fillFields registry now fields (s, log') = (.ok (), s', log₂) ∧ Beside r' s' ∧
      ∀ field, FilledBy r.type fields field ∨ s.peek field = r.peek field →
        s'.peek field = r'.peek field := by
  induction fields generalizing r s log log' with
  | nil =>
    cases hrun
    refine ⟨s, log', rfl, h, fun field hfield => hfield.resolve_left fun hfilled => ?_⟩
    obtain ⟨entry, hentry, -⟩ := hfilled
    cases hentry
  | cons entry rest ih =>
    obtain ⟨name, payload⟩ := entry
    rw [fillFields_cons] at hrun ⊢
    obtain ⟨_, ⟨m, log₂⟩, hfirst, hrest⟩ := Step.bind_eq_ok.mp hrun
    obtain ⟨m', log₃, hfirst', hbeside, hagree⟩ := h.fillField hfirst log'
    obtain ⟨s', log₄, hrest', hbeside', hagree'⟩ := ih hbeside hrest log₃
    refine ⟨s', log₄, by rw [Step.bind_of_ok hfirst']; exact hrest', hbeside', fun field hfield => ?_⟩
    have htype : m.type = r.type :=
      ((fillField_yields registry _ _ r name payload log).of_eq hfirst).frame.type
    refine hagree' field ?_
    rcases hfield with hfilled | hsame
    · obtain ⟨entry, hentry, hfills⟩ := hfilled
      rcases List.mem_cons.mp hentry with rfl | hentry
      · exact .inr (hagree field (.inl hfills))
      · exact .inl ⟨entry, hentry, htype ▸ hfills⟩
    · exact .inr (hagree field (.inr hsame))

end Runs

/-! ## Identifiers -/

section Identifiers
variable {r : Resource} {payload v : Json} {name : String}

def takeIdentifier (payload : Json) (r : Resource) (entry : String × Property) : Resource :=
  if entry.2.identifier && entry.1 != r.type.idField then
    match payload.get? entry.1 with
    | some v => r.put entry.1 (.scalar v)
    | none => r
  else r

theorem withIdentifiers_eq (r : Resource) (payload : Json) :
    r.withIdentifiers payload = r.type.properties.foldl (takeIdentifier payload) r := rfl

theorem takeIdentifier_type (payload : Json) (r : Resource) (entry : String × Property) :
    (takeIdentifier payload r entry).type = r.type := by
  unfold takeIdentifier
  split
  · split <;> rfl
  · rfl

theorem takeIdentifier_keeps {entry : String × Property} {value : FieldValue}
    (hvalue : r.peek name = value)
    (h : entry.1 = name → entry.2.identifier = true → name ≠ r.type.idField →
      ∀ v, payload.get? name = some v → value = .scalar v) :
    (takeIdentifier payload r entry).peek name = value := by
  unfold takeIdentifier
  split
  · rename_i hid
    obtain ⟨hidentifier, hfield⟩ := Bool.and_eq_true_iff.mp hid
    cases hv : payload.get? entry.1 with
    | none => exact hvalue
    | some v =>
      by_cases hname : entry.1 = name
      · subst hname
        rw [h rfl hidentifier (by simpa using hfield) v hv, peek_put_self]
      · exact (peek_put_of_ne r _ (Ne.symm hname)).trans hvalue
  · exact hvalue

theorem foldl_takeIdentifier {properties : List (String × Property)} {t : ResourceType}
    {value : FieldValue} (ht : r.type = t) (hvalue : r.peek name = value)
    (h : ∀ entry ∈ properties, entry.1 = name → entry.2.identifier = true → name ≠ t.idField →
      ∀ v, payload.get? name = some v → value = .scalar v) :
    (properties.foldl (takeIdentifier payload) r).peek name = value := by
  induction properties generalizing r with
  | nil => exact hvalue
  | cons entry rest ih =>
    obtain ⟨hentry, hrest⟩ := List.forall_mem_cons.mp h
    subst ht
    exact ih (takeIdentifier_type payload r entry) (takeIdentifier_keeps hvalue hentry) hrest

theorem foldl_takeIdentifier_type (properties : List (String × Property)) (payload : Json)
    (r : Resource) : (properties.foldl (takeIdentifier payload) r).type = r.type := by
  induction properties generalizing r with
  | nil => rfl
  | cons entry rest ih => exact (ih _).trans (takeIdentifier_type payload r entry)

theorem peek_withIdentifiers_of_some (hid : isIdentifier r.type name = true)
    (hname : name ≠ r.type.idField) (hv : payload.get? name = some v) :
    (r.withIdentifiers payload).peek name = .scalar v := by
  obtain ⟨p, hp, hidentifier⟩ : ∃ p, r.type.property? name = some p ∧ p.identifier = true := by
    unfold isIdentifier at hid
    cases hp : r.type.property? name with
    | none => simp [hp] at hid
    | some p => exact ⟨p, rfl, by simpa [hp] using hid⟩
  obtain ⟨before, after, hproperties⟩ := List.append_of_mem (Dict.mem_of_get? hp)
  let m := before.foldl (takeIdentifier payload) r
  have hm : m.type = r.type := foldl_takeIdentifier_type before payload r
  have htaken : takeIdentifier payload m (name, p) = m.put name (.scalar v) := by
    simp [takeIdentifier, hidentifier, hm, hname, hv]
  have hlater : (r.withIdentifiers payload) =
      after.foldl (takeIdentifier payload) (m.put name (.scalar v)) := by
    rw [withIdentifiers_eq, hproperties, List.foldl_append, List.foldl_cons, ← htaken]
  rw [hlater]
  refine foldl_takeIdentifier rfl (peek_put_self m name _) fun _ _ _ _ _ v' hv' => ?_
  cases hv.symm.trans hv'
  rfl

theorem peek_withIdentifiers_of_none (hsorted : Dict.Sorted r.type.properties)
    (h : isIdentifier r.type name = true → name ≠ r.type.idField → payload.get? name = none) :
    (r.withIdentifiers payload).peek name = r.peek name := by
  rw [withIdentifiers_eq]
  refine foldl_takeIdentifier rfl rfl fun entry hentry hname hidentifier hfield v hv => ?_
  subst hname
  have hp : r.type.property? entry.1 = some entry.2 := hsorted.get?_of_mem hentry
  have hid : isIdentifier r.type entry.1 = true := by simp [isIdentifier, hp, hidentifier]
  cases (h hid hfield).symm.trans hv

end Identifiers

/-! ## Construction from the same object -/

/-- An identifier other than the id that an object names and that no id relation of it writes over. -/
def Omitted (type : ResourceType) (payload : Json) (name : String) (v : Json) : Prop :=
  isIdentifier type name = true ∧ name ≠ type.idField ∧ payload.get? name = some v ∧
    ∀ fields, payload = .obj fields → ¬ FilledBy type fields name

structure AlikeBut (differs : String → Prop) (t c : Resource) : Prop where
  type : c.type = t.type
  id : c.id = t.id
  parent : c.parent? = t.parent?
  populated : c.populated = t.populated
  raw : c.raw? = t.raw?
  changed : c.changed = t.changed
  fields : ∀ name, ¬ differs name → (c.peek name).SameUndated (t.peek name)

/-- Constructing from the object succeeds at any time and makes the same resource, which has the
omitted identifiers besides. -/
def LikeConstructed (client : Client) (kind : String) (type : ResourceType) (id payload : Json)
    (t : Resource) : Prop :=
  ∀ w, ∃ c w', client.construct kind id none (some payload) w = (.ok c, w') ∧
    AlikeBut (fun name => ∃ v, Omitted type payload name v) t c ∧
    ∀ name v, Omitted type payload name v → t.peek name = .unset ∧ c.peek name = .scalar v

section Constructing
variable {client : Client} {kind : String} {type : ResourceType} {id : Json}
  {fields : List (String × Json)}

theorem beside_withIdentifiers (hsorted : Dict.Sorted type.properties) (id payload : Json) :
    Beside (identified type id none) ((identified type id none).withIdentifiers payload) := by
  refine ⟨(withIdentifiers_spec (Q := fun _ => True) _ payload).1.rest, fun name => ?_⟩
  by_cases htaken : isIdentifier type name = true ∧ name ≠ type.idField ∧
      ∃ v, payload.get? name = some v
  · obtain ⟨hid, hname, v, hv⟩ := htaken
    refine .inr ⟨?_, ?_⟩
    · rw [peek_identified_of_ne type id none hname]
      rfl
    · rw [peek_withIdentifiers_of_some hid hname hv]
      rfl
  · refine .inl (peek_withIdentifiers_of_none hsorted fun hid hname => ?_).symm
    exact Option.eq_none_iff_forall_ne_some.mpr fun v hv => htaken ⟨hid, hname, v, hv⟩

theorem construct_of_fill (htype : client.registry.get kind = .ok type) {h c : Resource}
    (hh : handle type id none = .ok h) {payload : Json} {w : World} {log : Log}
    (hfill : fill client.registry w.now payload (h.withIdentifiers payload, w.log) = (.ok (), c, log)) :
    ∃ w', client.construct kind id none (some payload) w = (.ok c, w') := by
  have hmade := ofPayload_eq_ok.mpr ⟨h, hh, hfill⟩
  refine ⟨{ w with log }, Step.bind_eq_ok.mpr ⟨type, w, by rw [htype]; rfl, ?_⟩⟩
  exact Step.bind_eq_ok.mpr ⟨w.now, w, rfl, World.logged_eq.mpr ⟨log, hmade, rfl⟩⟩

theorem eq_scalar_of_sameUndated {v : FieldValue} {x : Json} (h : v.SameUndated (.scalar x)) :
    v = .scalar x := by
  cases v with
  | resource r => cases h
  | resources rs => cases h
  | _ => exact h

theorem likeConstructed (hsorted : Dict.Sorted type.properties)
    (htype : client.registry.get kind = .ok type) {h t : Resource} {now : Nat} {log log' : Log}
    (hh : handle type id none = .ok h)
    (hfill : fill client.registry now (.obj fields) (h, log) = (.ok (), t, log')) :
    LikeConstructed client kind type id (.obj fields) t := by
  obtain ⟨_, m, hobj, hfields, rfl⟩ := fill_eq_ok.mp hfill
  cases hobj
  obtain rfl := handle_eq hh
  have hbeside := beside_withIdentifiers hsorted id (.obj fields)
  obtain ⟨m', log₂, hfields', hm, hagree⟩ := hbeside.fillFields hfields log
  have hfill' := fill_eq_ok.mpr ⟨fields, m', rfl, hfields', rfl⟩
  have hframe := (fillFields_frame fields _ log).of_eq hfields
  have hframe' := (fillFields_frame fields _ log).of_eq hfields'
  rw [hbeside.type] at hframe'
  intro w
  obtain ⟨c, log₃, hc, hsame⟩ := fill_any_time hfill' w.now w.log
  obtain ⟨w', hconstruct⟩ := construct_of_fill htype hh hc
  have hpeek : ∀ name, (c.peek name).SameUndated (m'.peek name) := by
    intro name
    have hpeeked := congrArg (fun r : Resource => r.peek name) hsame
    rwa [peek_undated, peek_undated] at hpeeked
  have hrest : c.type = m.type ∧ c.id = m.id ∧ c.parent? = m.parent? ∧ c.populated = true ∧
      c.raw? = some (.obj fields) ∧ c.changed = [] := by
    have hundated := hsame
    rw [SameUndated, undated_eq, undated_eq, hm.rest] at hundated
    simp only [populatedFrom, mk.injEq] at hundated
    tauto
  obtain ⟨htype', hid, hparent, hpopulated, hraw, hchanged⟩ := hrest
  refine ⟨c, w', hconstruct, ⟨htype', hid, hparent, hpopulated, hraw, hchanged, ?_⟩, ?_⟩
  · intro name hnot
    suffices m'.peek name = m.peek name from this ▸ hpeek name
    refine hagree name ?_
    by_cases hfilled : FilledBy type fields name
    · exact .inl hfilled
    · refine .inr (peek_withIdentifiers_of_none hsorted fun hidentifier hname => ?_)
      refine Option.eq_none_iff_forall_ne_some.mpr fun v hv => hnot ⟨v, hidentifier, hname, hv, ?_⟩
      intro fields' hobj
      cases hobj
      exact hfilled
  · intro name v homitted
    obtain ⟨hidentifier, hname, hv, hfilled⟩ := homitted
    refine ⟨?_, eq_scalar_of_sameUndated ?_⟩
    · change m.peek name = _
      rw [hframe.kept name (hfilled fields rfl), peek_identified_of_ne type id none hname]
    · have hkept := hframe'.kept name (hfilled fields rfl)
      rw [peek_withIdentifiers_of_some hidentifier hname hv] at hkept
      exact hkept ▸ hpeek name

end Constructing

/-! ## What a relation stores -/

def FilledFrom (registry : Registry) (now : Nat) (target : ResourceType) (id payload : Json)
    (t : Resource) : Prop :=
  ∃ h log log', handle target id none = .ok h ∧
    fillObject registry now payload (h, log) = (.ok (), t, log')

def Made (target : ResourceType) (held : List Resource) (Q : Json → Json → Resource → Prop)
    (payload : Json) (t : Resource) : Prop :=
  ∀ id, referredId? target payload = some id → hasContent target payload = true →
    (∀ s ∈ held, s.id.same id = false) → Q id payload t

/-- A resource for an object, and one for each item of an array that has an id. -/
inductive Stored (target : ResourceType) (R : Json → Resource → Prop) : Json → FieldValue → Prop
  | one {fields : List (String × Json)} {t : Resource} (h : R (.obj fields) t) :
      Stored target R (.obj fields) (.resource t)
  | many {values : List Json} {ts : List Resource}
      (h : List.Forall₂ R (values.filter fun v => (referredId? target v).isSome) ts) :
      Stored target R (.arr values) (.resources ts)

theorem Stored.mono {target : ResourceType} {R S : Json → Resource → Prop} {payload : Json}
    {v : FieldValue} (h : Stored target R payload v) (hRS : ∀ payload t, R payload t → S payload t) :
    Stored target S payload v := by
  cases h with
  | one h => exact .one (hRS _ _ h)
  | many h => exact .many (h.imp hRS)

theorem Stored.of_obj {target : ResourceType} {R : Json → Resource → Prop}
    {fields : List (String × Json)} {v : FieldValue} (h : Stored target R (.obj fields) v) :
    ∃ t, v = .resource t ∧ R (.obj fields) t := by
  cases h with
  | one h => exact ⟨_, rfl, h⟩

section Relations
variable {registry : Registry} {now : Nat} {target : ResourceType}

theorem relateOne_made {held? : Option Resource} {id payload : Json} :
    Answers (relateOne target held? id payload (fillObject registry now payload)) fun t =>
      held? = none → hasContent target payload = true → FilledFrom registry now target id payload t := by
  cases held? with
  | some s =>
    have hany : ∀ x : Filling Resource, Answers x (fun _ => True) → Answers x fun t =>
        some s = none → hasContent target payload = true → FilledFrom registry now target id payload t :=
      fun x hx => hx.mono fun _ _ h => nomatch h
    refine hany _ (relateOne_answers (fun _ _ _ => trivial) (fun _ _ _ _ => trivial)
      (fun _ _ => trivial) payload)
  | none =>
    refine (Answers.ofExcept (Q := fun h => handle target id none = .ok h) fun _ h => h).bind ?_
    intro h hh
    dsimp only
    split
    · exact .on fun log hok _ _ => ⟨h, log, _, hh, Prod.ext hok rfl⟩
    · rename_i hcontent
      exact .pure fun _ h => absurd h hcontent

theorem takeById_of_forall {id : Json} {held : List Resource}
    (h : ∀ s ∈ held, s.id.same id = false) : (takeById id held).1 = none := by
  have hnone : held.findIdx? (fun r => r.id.same id) = none := by
    simpa [List.findIdx?_eq_none_iff] using h
  rw [takeById, hnone]

theorem relateItems_made (values : List Json) {held all : List Resource}
    (hheld : ∀ s ∈ held, s ∈ all) :
    Answers (relateItems target held (fillItems registry now (.arr values))) fun ts =>
      List.Forall₂ (Made target all (FilledFrom registry now target))
        (values.filter fun v => (referredId? target v).isSome) ts := by
  rw [fillItems_arr]
  induction values generalizing held with
  | nil => exact .pure .nil
  | cons v rest ih =>
    simp only [List.map_cons, relateItems]
    cases hid : referredId? target v with
    | none =>
      simp only [List.filter_cons, hid, Option.isSome_none, Bool.false_eq_true, if_false]
      exact Answers.read.bind fun _ _ => Answers.note.bind fun _ _ => ih hheld
    | some id =>
      simp only [List.filter_cons, hid, Option.isSome_some, if_true]
      obtain ⟨-, hothers⟩ := takeById_mem id held
      refine relateOne_made.bind fun t ht => ?_
      refine (ih fun s hs => hheld s (hothers s hs)).bind fun ts hts => .pure (.cons ?_ hts)
      intro id' hid' hcontent hnew
      cases hid.symm.trans hid'
      exact ht (takeById_of_forall fun s hs => hnew s (hheld s hs)) hcontent

theorem heldById?_of_forall {id : Json} {held : FieldValue}
    (h : ∀ s ∈ held.held, s.id.same id = false) : heldById? id held = none := by
  cases held with
  | resource r => simp [heldById?, h r List.mem_cons_self]
  | _ => rfl

theorem relate_made {key : String} {held : FieldValue} {payload : Json}
    (hnested : payload.asObj?.isSome ∨ payload.asArr?.isSome) :
    Answers (relate registry key held payload (fillObject registry now payload)
      (fillItems registry now payload)) fun v => ∃ type, registry.get key = .ok type ∧
        Stored type (Made type held.held (FilledFrom registry now type)) payload v := by
  unfold relate
  refine (Answers.ofExcept (Q := fun t => registry.get key = .ok t) fun _ h => h).bind ?_
  intro type htype
  cases payload with
  | arr values =>
    have hheld : ∀ s ∈ held.asResources?.getD [], s ∈ held.held :=
      fun s hs => FieldValue.mem_held_of_asResources hs
    exact (relateItems_made values hheld).bind fun ts hts => .pure ⟨type, htype, .many hts⟩
  | obj fields =>
    dsimp only
    cases hid : referredId? type (.obj fields) with
    | none => exact .fail
    | some id =>
      refine relateOne_made.bind fun t ht => .pure ⟨type, htype, .one fun id' hid' hcontent hnew => ?_⟩
      cases hid.symm.trans hid'
      exact ht (heldById?_of_forall hnew) hcontent
  | _ => simp [Json.asObj?, Json.asArr?] at hnested

end Relations

/-! ## Entries and payloads -/

section Payloads
variable {registry : Registry} {now : Nat} {r s : Resource} {log log' : Log} {key slot target : String}
  {payload : Json}

theorem fillField_refers (h : r.type.Refers key slot target) (hnull : payload.isNull = false)
    {Q : FieldValue → Prop} (hrelate : Answers (relate registry target (r.peek slot) payload
      (fillObject registry now payload) (fillItems registry now payload)) Q) (log : Log) :
    (fillField registry key payload (fillObject registry now payload)
      (fillItems registry now payload)).Yields (r, log) fun result t =>
        result = .ok () → Q (t.1.peek slot) := by
  obtain ⟨p, hp, hlink⟩ := h.declared
  have hyields : (fillLink registry key p payload (fillObject registry now payload)
      (fillItems registry now payload)).Yields (r, log) fun result t =>
        result = .ok () → Q (t.1.peek slot) := by
    unfold fillLink
    rcases hlink with ⟨hlink, rfl⟩ | ⟨hlink, halias⟩
    · simp only [hlink, hnull, Bool.false_eq_true, if_false]
      refine take_then hrelate (fun v log hv _ => ?_) fun e log h => by cases h
      change Q (((r.remove slot).put slot v).peek slot)
      rwa [peek_put_self]
    · simp only [hlink, halias, hnull, Bool.false_eq_true, if_false]
      refine take_then hrelate (fun v log hv _ => ?_) fun e log h => by cases h
      change Q ((((r.remove slot).put slot v).put key (.scalar payload)).peek slot)
      rwa [peek_put_of_ne _ _ (ResourceType.aliasOf?_ne halias), peek_put_self]
  unfold Step.Yields at hyields ⊢
  rwa [fillField_declared hp]

theorem populate_refers {client : Client} {before after : List (String × Json)} {m : Resource}
    {w w' w₁ : World} (h : r.type.Refers key slot target) (hnull : payload.isNull = false)
    (hbefore : populate client (.obj before) (r, w) = (.ok (), m, w₁))
    (hpopulate : populate client (.obj (before ++ (key, payload) :: after)) (r, w) = (.ok (), s, w'))
    (hafter : ∀ entry ∈ after, ¬ r.type.Fills entry.1 slot) {Q : FieldValue → Prop}
    (hrelate : Answers (relate client.registry target (m.peek slot) payload
      (fillObject client.registry w.now payload) (fillItems client.registry w.now payload)) Q) :
    Q (s.peek slot) := by
  obtain ⟨_, m₀, log₀, hobj, hfirst, rfl, -⟩ := populate_eq_ok.mp hbefore
  cases hobj
  obtain ⟨_, s₀, log₁, hobj, hall, rfl, -⟩ := populate_eq_ok.mp hpopulate
  cases hobj
  rw [fillFields_append, Step.bind_of_ok hfirst, fillFields_cons] at hall
  obtain ⟨_, ⟨m', log₂⟩, hentry, hrest⟩ := Step.bind_eq_ok.mp hall
  have htype : m₀.type = r.type := ((fillFields_frame before r w.log).of_eq hfirst).type
  have htype' : m'.type = r.type :=
    ((fillField_yields client.registry _ _ m₀ key payload log₀).of_eq hentry).frame.type.trans htype
  have hslot : s₀.peek slot = m'.peek slot := by
    refine ((fillFields_frame after m' log₂).of_eq hrest).kept slot fun hfilled => ?_
    obtain ⟨entry, hentry, hfills⟩ := hfilled
    exact hafter entry hentry (htype' ▸ hfills)
  change Q (s₀.peek slot)
  rw [hslot]
  exact (fillField_refers (r := m₀) (htype ▸ h) hnull hrelate log₀).of_eq hentry rfl

/-- What a population makes of an object that stands for a related resource, in a field of its own or
in an array, is what constructing it from this object makes, but for the identifiers that only the
construction takes. -/
theorem nested_constructed {client : Client} {sources : List String}
    (hregistry : Registry.ofSources sources = .ok client.registry)
    {before after : List (String × Json)} {m : Resource} {w w' w₁ : World}
    (h : r.type.Refers key slot target) (hnested : payload.asObj?.isSome ∨ payload.asArr?.isSome)
    (hbefore : populate client (.obj before) (r, w) = (.ok (), m, w₁))
    (hpopulate : populate client (.obj (before ++ (key, payload) :: after)) (r, w) = (.ok (), s, w'))
    (hafter : ∀ entry ∈ after, ¬ r.type.Fills entry.1 slot) :
    ∃ type, client.registry.get target = .ok type ∧ Stored type (Made type (m.peek slot).held
      fun id v t => LikeConstructed client target type id v t) payload (s.peek slot) := by
  have hnull : payload.isNull = false := by
    cases payload with
    | null => simp [Json.asObj?, Json.asArr?] at hnested
    | _ => rfl
  obtain ⟨type, htype, hstored⟩ := populate_refers h hnull hbefore hpopulate hafter
    (relate_made hnested)
  have hsorted := Registry.ofSources_sorted hregistry htype
  refine ⟨type, htype, hstored.mono fun v t hmade id hid hcontent hnew => ?_⟩
  obtain ⟨handled, log, log', hhandle, hfill⟩ := hmade id hid hcontent hnew
  cases v with
  | obj fields => exact likeConstructed hsorted htype hhandle hfill
  | _ => cases hcontent

end Payloads

/-! ## Tasks and nodes -/

def ownerPayload : Json := .obj [("id", .int 7), ("label", .str "web"), ("peer_id", .int 3)]

def task : Resource := identified taskType (.int 1) none

theorem nested_constructed_owner :
    Registry.ofSources [taskSource] = .ok (clientOf taskRegistry).registry ∧
      ∃ s w' t, populate (clientOf taskRegistry) (.obj [("label", .null), ("owner", ownerPayload)])
          (task, offline) = (.ok (), s, w') ∧ s.peek "owner" = .resource t ∧
        LikeConstructed (clientOf taskRegistry) "task" taskType (.int 7) ownerPayload t := by
  have haccepted : Registry.ofSources [taskSource] = .ok (clientOf taskRegistry).registry :=
    taskSource_accepted
  have hrefers : task.type.Refers "owner" "owner" "task" := ⟨_, ⟨rfl, rfl⟩, .inl ⟨rfl, rfl⟩⟩
  have hbefore : populate (clientOf taskRegistry) (.obj [("label", .null)]) (task, offline) =
      (.ok (), _, offline) := rfl
  have hpopulate : populate (clientOf taskRegistry)
      (.obj ([("label", .null)] ++ ("owner", ownerPayload) :: [])) (task, offline) =
        (.ok (), _, offline) := rfl
  obtain ⟨type, htype, hstored⟩ :=
    nested_constructed haccepted hrefers (.inl rfl) hbefore hpopulate nofun
  cases htype
  obtain ⟨t, ht, hmade⟩ := hstored.of_obj
  exact ⟨haccepted, _, _, t, hpopulate, ht, hmade (.int 7) rfl rfl nofun⟩

def NestedConstructed (client : Client) : Prop :=
  ∀ {r s : Resource} {key slot target : String} {type : ResourceType} {fields : List (String × Json)}
    {id : Json} {w w' : World}, r.type.Refers key slot target → client.registry.get target = .ok type →
    (Json.obj fields).getSome? type.idField = some id → hasContent type (.obj fields) = true →
    (∀ h ∈ (r.peek slot).held, h.id.same id = false) →
    populate client (.obj [(key, .obj fields)]) (r, w) = (.ok (), s, w') →
    ∃ t, s.peek slot = .resource t ∧ ∀ u c u',
      client.construct target id none (some (.obj fields)) u = (.ok c, u') →
      ∀ name, (c.peek name).SameUndated (t.peek name)

def peerFields : Dict Json := [("id", .int 2), ("login", .str "bob")]

def peer : Resource := (identified Registry.nodeType (.int 2) none).populatedFrom 0 (.obj peerFields)

/-- A peer is found without its login, which a construction takes. -/
theorem not_nestedConstructed :
    Registry.ofSources [Registry.nodeSource] = .ok (clientOf .nodeRegistry).registry ∧
      ¬ NestedConstructed (clientOf .nodeRegistry) := by
  refine ⟨Registry.nodeSource_accepted, fun h => ?_⟩
  have hrefers : node.type.Refers "peer_id" "peer" "node" :=
    ⟨_, ⟨rfl, rfl⟩, .inr ⟨rfl, aliasOf?_peer_id⟩⟩
  have hpopulate : populate (clientOf .nodeRegistry) (.obj [("peer_id", .obj peerFields)])
      (node, offline) = (.ok (), ((node.put "peer" (.resource peer)).put "peer_id"
        (.scalar (.obj peerFields))).populatedFrom 0 (.obj [("peer_id", .obj peerFields)]), offline) :=
    rfl
  have hconstruct : (clientOf .nodeRegistry).construct "node" (.int 2) none (some (.obj peerFields))
      offline = (.ok (peer.put "login" (.scalar (.str "bob"))), offline) := rfl
  obtain ⟨t, ht, hsame⟩ := h hrefers rfl rfl rfl nofun hpopulate
  cases ht
  cases hsame offline _ _ hconstruct "login"

end Resource
end CloudClient
