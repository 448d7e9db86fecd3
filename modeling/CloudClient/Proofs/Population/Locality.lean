import CloudClient.Proofs.Population.Entry

/-!
# What an entry reads

Of the resource that it fills an entry reads the type and the resources that the slot of its relation
holds, and it does not read the log. So what it ends with, and what it writes, are the same on all
resources of one type whose slots hold the same.
-/

namespace CloudClient

namespace Filling
variable {α β : Type} {t : ResourceType}

/-- The log decides neither what an operation ends with nor what it makes of the resource. -/
def LogFree (x : Filling α) : Prop :=
  ∀ r, ∃ result s, ∀ log, ∃ log', x (r, log) = (result, s, log')

def Detached (t : ResourceType) (x : Filling α) (result : Except Error α) : Prop :=
  ∀ r log, r.type = t → ∃ log', x (r, log) = (result, r, log')

theorem LogFree.bind {x : Filling Unit} {f : Unit → Filling Unit} (hx : LogFree x)
    (hf : LogFree (f ())) : LogFree (x >>= f) := by
  intro r
  obtain ⟨result, s, hrun⟩ := hx r
  cases result with
  | error e =>
    refine ⟨.error e, s, fun log => ?_⟩
    obtain ⟨log', h⟩ := hrun log
    exact ⟨log', Step.bind_of_error h⟩
  | ok _ =>
    obtain ⟨result, u, hrun'⟩ := hf s
    refine ⟨result, u, fun log => ?_⟩
    obtain ⟨log', h⟩ := hrun log
    rw [Step.bind_of_ok h]
    exact hrun' log'

theorem Detached.of_result (result : Except Error α) : Detached t (Step.ofExcept result) result :=
  fun _ log _ => ⟨log, rfl⟩

theorem Detached.note {level : Level} {message : String} : Detached t (note level message) (.ok ()) :=
  fun _ _ _ => ⟨_, rfl⟩

theorem Detached.bind_error {x : Filling α} {f : α → Filling β} {e : Error}
    (h : Detached t x (.error e)) : Detached t (x >>= f) (.error e) := by
  intro r log hr
  obtain ⟨log', hx⟩ := h r log hr
  exact ⟨log', Step.bind_of_error hx⟩

theorem Detached.bind_ok {x : Filling α} {f : α → Filling β} {a : α} {result : Except Error β}
    (h : Detached t x (.ok a)) (hf : Detached t (f a) result) : Detached t (x >>= f) result := by
  intro r log hr
  obtain ⟨log', hx⟩ := h r log hr
  rw [Step.bind_of_ok hx]
  exact hf r log' hr

theorem Detached.bind {x : Filling α} {f : α → Filling β} (hx : ∃ result, Detached t x result)
    (hf : ∀ a, ∃ result, Detached t (f a) result) : ∃ result, Detached t (x >>= f) result := by
  obtain ⟨result, hx⟩ := hx
  cases result with
  | error e => exact ⟨_, hx.bind_error⟩
  | ok a =>
    obtain ⟨result, hf⟩ := hf a
    exact ⟨result, hx.bind_ok hf⟩

theorem Detached.on {x : Filling Unit} (hx : LogFree x) (held : Resource) :
    ∃ result, Detached t (on held x) result := by
  obtain ⟨result, s, hrun⟩ := hx held
  refine ⟨result.map fun _ => s, fun r log _ => ?_⟩
  obtain ⟨log', hx⟩ := hrun log
  unfold Filling.on
  dsimp only
  rw [hx]
  cases result <;> exact ⟨log', rfl⟩

end Filling

namespace Resource
open Filling (Detached LogFree)

/-! ## Relations -/

def Interchangeable (v w : FieldValue) : Prop := v = w ∨ v.held = [] ∧ w.held = []

theorem heldById?_of_held {v : FieldValue} (h : v.held = []) (id : Json) : heldById? id v = none := by
  cases v <;> first | rfl | cases h

theorem asResources_of_held {v : FieldValue} (h : v.held = []) : v.asResources?.getD [] = [] := by
  cases v <;> first | rfl | exact h

section Relations
variable {t target : ResourceType} {fill : Filling Unit} {items : List (Json × Filling Unit)}

theorem Interchangeable.relate_eq {v w : FieldValue} (h : Interchangeable v w) (registry : Registry)
    (key : String) (payload : Json) (fill : Filling Unit) (items : List (Json × Filling Unit)) :
    relate registry key v payload fill items = relate registry key w payload fill items := by
  rcases h with rfl | ⟨hv, hw⟩
  · rfl
  · unfold relate
    simp only [heldById?_of_held hv, heldById?_of_held hw, asResources_of_held hv,
      asResources_of_held hw]

theorem plainValue_detached (name : String) (p : Property) (payload : Json) :
    ∃ v, Detached t (plainValue name p payload) (.ok v) := by
  cases payload with
  | str s =>
    simp only [plainValue]
    split
    · split
      · exact ⟨_, .of_result _⟩
      · exact ⟨_, Detached.note.bind_ok (.of_result _)⟩
    · exact ⟨_, .of_result _⟩
  | _ => exact ⟨_, .of_result _⟩

theorem relateOne_detached (hfill : LogFree fill) (held? : Option Resource) (id payload : Json) :
    ∃ result, Detached t (relateOne target held? id payload fill) result := by
  have hrest : ∀ s, ∃ result, Detached t
      (if hasContent target payload then Filling.on s fill else Pure.pure s) result := by
    intro s
    split
    · exact Detached.on hfill s
    · exact ⟨_, .of_result _⟩
  cases held? with
  | none => exact Detached.bind ⟨_, .of_result _⟩ hrest
  | some s => exact Detached.bind (x := Pure.pure s) ⟨_, .of_result (.ok s)⟩ hrest

theorem relateItems_detached (hitems : ∀ item ∈ items, LogFree item.2) (held : List Resource) :
    ∃ result, Detached t (relateItems target held items) result := by
  induction items generalizing held with
  | nil => exact ⟨_, .of_result _⟩
  | cons item rest ih =>
    obtain ⟨payload, fill⟩ := item
    obtain ⟨hfill, hrest⟩ := List.forall_mem_cons.mp hitems
    simp only [relateItems]
    split
    · have hread : Detached t (Step.read fun s => s.1.kind) (.ok t.key) := by
        intro r log hr
        subst hr
        exact ⟨log, rfl⟩
      exact Detached.bind ⟨_, hread⟩ fun _ => Detached.bind ⟨_, .note⟩ fun _ => ih hrest _
    · refine Detached.bind (relateOne_detached hfill _ _ _) fun r => ?_
      exact Detached.bind (ih hrest _) fun rs => ⟨_, .of_result (.ok _)⟩

theorem relate_detached (hfill : LogFree fill) (hitems : ∀ item ∈ items, LogFree item.2)
    (registry : Registry) (key : String) (held : FieldValue) (payload : Json) :
    ∃ result, Detached t (relate registry key held payload fill items) result := by
  unfold relate
  refine Detached.bind ⟨_, .of_result _⟩ fun target => ?_
  split
  · exact Detached.bind (relateItems_detached hitems _) fun rs => ⟨_, .of_result (.ok _)⟩
  · split
    · exact ⟨_, .of_result (.error _)⟩
    · exact Detached.bind (relateOne_detached hfill _ _ _) fun r => ⟨_, .of_result (.ok _)⟩

end Relations

/-! ## Entries -/

/-- What an entry writes: it touches no more than it may, and where it succeeds, what it leaves in
these fields does not depend on the resource. -/
structure Writes (t : ResourceType) (name : String) (result : Except Error Unit)
    (write : Resource → Resource) : Prop where
  frame : ∀ r, r.type = t → Frame (t.Fills name) r (write r)
  same : result = .ok () → ∀ field, t.Fills name field →
    ∀ r s, (write r).peek field = (write s).peek field

section Entries
variable {registry : Registry} {fill : Filling Unit} {items : List (Json × Filling Unit)}
  {t : ResourceType} {name : String} {payload : Json}

theorem Writes.nothing (h : ∀ field, ¬ t.Fills name field) : Writes t name (.ok ()) fun r => r :=
  ⟨fun r _ => .refl r, fun _ field hfield => absurd hfield (h field)⟩

theorem Writes.failed {e : Error} {write : Resource → Resource}
    (h : ∀ r, r.type = t → Frame (t.Fills name) r (write r)) : Writes t name (.error e) write :=
  ⟨h, nofun⟩

theorem Writes.one {p : Property} (hp : Declares t name p) (hlink : p.link.isDerived = false)
    (hexposes : p.link.isById = true → ResourceType.aliasOf? name = none) {v : FieldValue}
    {before : Resource → Resource}
    (hbefore : ∀ r, r.type = t → Frame (t.Fills name) r (before r)) :
    Writes t name (.ok ()) fun r => (before r).put name v := by
  have hname : t.Fills name name := ⟨p, hp.declared, hp.changes, hlink, .inl rfl⟩
  refine ⟨fun r hr => (hbefore r hr).trans (.put hname), fun _ field hfield r s => ?_⟩
  obtain ⟨q, hq, -, -, rfl | ⟨hbyId, halias⟩⟩ := hfield
  · rw [peek_put_self, peek_put_self]
  · cases hp.declared.symm.trans hq
    cases (hexposes hbyId).symm.trans halias

theorem Writes.two {p : Property} {exposed : String} (hp : Declares t name p)
    (hlink : p.link.isById = true) (halias : ResourceType.aliasOf? name = some exposed)
    {v w : FieldValue} {before : Resource → Resource}
    (hbefore : ∀ r, r.type = t → Frame (t.Fills name) r (before r)) :
    Writes t name (.ok ()) fun r => ((before r).put exposed v).put name w := by
  have hderived : p.link.isDerived = false := by
    cases hl : p.link with
    | byId target => rfl
    | _ => rw [hl] at hlink; cases hlink
  have hname : t.Fills name name := ⟨p, hp.declared, hp.changes, hderived, .inl rfl⟩
  have hexposed : t.Fills name exposed :=
    ⟨p, hp.declared, hp.changes, hderived, .inr ⟨hlink, halias⟩⟩
  refine ⟨fun r hr => ((hbefore r hr).trans (.put hexposed)).trans (.put hname), ?_⟩
  intro _ field hfield r s
  obtain ⟨_, -, -, -, rfl | ⟨-, halias'⟩⟩ := hfield
  · rw [peek_put_self, peek_put_self]
  · cases halias.symm.trans halias'
    have hne := ResourceType.aliasOf?_ne halias
    rw [peek_put_of_ne _ _ hne, peek_put_of_ne _ _ hne, peek_put_self, peek_put_self]

theorem take_related (hfill : LogFree fill) (hitems : ∀ item ∈ items, LogFree item.2)
    (registry : Registry) (key slot : String) (payload : Json) (r : Resource) :
    ∃ result, ∀ (f : FieldValue → Filling Unit) s log, s.type = r.type →
      Interchangeable (r.peek slot) (s.peek slot) → ∃ log',
        (Filling.take slot >>= fun held => relate registry key held payload fill items >>= f) (s, log) =
          (Step.ofExcept result >>= f) (s.remove slot, log') := by
  obtain ⟨result, hrelate⟩ := @relate_detached r.type fill items hfill hitems registry key
    (r.peek slot) payload
  refine ⟨result, fun f s log htype hslot => ?_⟩
  rw [hslot.relate_eq registry key payload fill items] at hrelate
  obtain ⟨log', hrun⟩ := hrelate (s.remove slot) log htype
  refine ⟨log', ?_⟩
  change (relate registry key (s.peek slot) payload fill items >>= f) (s.remove slot, log) = _
  cases result with
  | error e => exact Step.bind_of_error hrun
  | ok v => exact Step.bind_of_ok hrun

def fillLink (registry : Registry) (name : String) (p : Property) (payload : Json)
    (fill : Filling Unit) (items : List (Json × Filling Unit)) : Filling Unit :=
  match p.link with
  | .derived _ => return ()
  | .plain => plainValue name p payload >>= Filling.put name
  | .nested target =>
    if payload.isNull then Filling.put name (.scalar .null)
    else Filling.take name >>= fun held =>
      relate registry target held payload fill items >>= Filling.put name
  | .slug target =>
    if payload.isNull then Filling.put name (.scalar .null)
    else Step.ofExcept (registry.get target >>= fun type => handle type payload none) >>= fun s =>
      Filling.put name (.resource s)
  | .byId target =>
    match ResourceType.aliasOf? name with
    | none => Filling.put name (.scalar payload)
    | some exposed =>
      if payload.isNull then
        Filling.put exposed (.scalar .null) >>= fun _ => Filling.put name (.scalar payload)
      else Filling.take exposed >>= fun held =>
        relate registry target held payload fill items >>= fun v =>
          Filling.put exposed v >>= fun _ => Filling.put name (.scalar payload)

theorem fillField_declared {r : Resource} {p : Property} (hp : Declares r.type name p) (log : Log) :
    fillField registry name payload fill items (r, log) =
      fillLink registry name p payload fill items (r, log) := by
  unfold fillField fillLink
  rw [Step.bind_apply, Step.read_apply]
  simp only [hp.declared, hp.changes, Bool.false_eq_true, if_false]
  cases p.link with
  | slug target =>
    dsimp only
    cases payload.isNull with
    | true => rfl
    | false => cases registry.get target <;> rfl
  | byId target =>
    cases ResourceType.aliasOf? name with
    | none => rfl
    | some exposed => cases payload.isNull <;> rfl
  | _ => rfl

theorem fillField_undeclared {r : Resource} (h : ∀ p, ¬ Declares r.type name p) (log : Log) :
    fillField registry name payload fill items (r, log) = (.ok (), r, log) := by
  unfold fillField
  rw [Step.bind_apply, Step.read_apply]
  dsimp only
  cases hp : r.type.property? name with
  | none => rfl
  | some p =>
    cases hid : p.identifier with
    | true => simp [hid]
    | false => exact absurd ⟨hp, hid⟩ (h p)

def Determined (r : Resource) (name : String) (x : Filling Unit) : Prop :=
  ∃ result write, Writes r.type name result write ∧ ∀ s log, s.type = r.type →
    (∀ slot, r.type.slot? name = some slot → Interchangeable (r.peek slot) (s.peek slot)) →
    ∃ log', x (s, log) = (result, write s, log')

theorem fillLink_determined (hfill : LogFree fill) (hitems : ∀ item ∈ items, LogFree item.2)
    {r : Resource} {p : Property} (hp : Declares r.type name p) (payload : Json) :
    Determined r name (fillLink registry name p payload fill items) := by
  have hkept : ∀ s : Resource, s.type = r.type → Frame (r.type.Fills name) s s := fun s _ => .refl s
  have hremoved : ∀ slot, r.type.Fills name slot → ∀ s : Resource, s.type = r.type →
      Frame (r.type.Fills name) s (s.remove slot) := fun slot hslot s _ => .remove hslot
  have hunexposed : p.link.isById = false → p.link.isById = true → ResourceType.aliasOf? name = none :=
    fun hnot hbyId => by cases hnot.symm.trans hbyId
  have hone : p.link.isDerived = false → p.link.isById = false → ∀ v,
      Determined r name (Filling.put name v) := fun hderived hbyId v =>
    ⟨_, _, .one hp hderived (hunexposed hbyId) hkept, fun s log _ _ => ⟨log, rfl⟩⟩
  cases hl : p.link with
  | derived target =>
    refine ⟨.ok (), fun s => s, .nothing fun field hfills => ?_, fun s log _ _ => ⟨log, ?_⟩⟩
    · obtain ⟨q, hq, -, hderived, -⟩ := hfills
      cases hp.declared.symm.trans hq
      rw [hl] at hderived
      cases hderived
    · simp [fillLink, hl]
  | plain =>
    obtain ⟨v, hv⟩ := @plainValue_detached r.type name p payload
    refine ⟨.ok (), fun s => s.put name v, .one hp (by rw [hl]; rfl)
      (hunexposed (by rw [hl]; rfl)) hkept, ?_⟩
    intro s log hs _
    obtain ⟨log', hrun⟩ := hv s log hs
    simp only [fillLink, hl]
    exact ⟨log', Step.bind_of_ok hrun⟩
  | nested target =>
    have hslot : r.type.slot? name = some name := by simp [ResourceType.slot?, hp.declared, hl]
    simp only [fillLink, hl]
    cases payload.isNull with
    | true => exact hone (by rw [hl]; rfl) (by rw [hl]; rfl) _
    | false =>
      obtain ⟨result, hrun⟩ := take_related hfill hitems registry target name payload r
      cases result with
      | error e =>
        refine ⟨.error e, fun s => s.remove name, .failed (hremoved name (hp.fills_slot hslot)), ?_⟩
        exact fun s log hs hsame => hrun _ s log hs (hsame name hslot)
      | ok v =>
        refine ⟨.ok (), fun s => (s.remove name).put name v, .one hp (by rw [hl]; rfl)
          (hunexposed (by rw [hl]; rfl)) (hremoved name (hp.fills_slot hslot)), ?_⟩
        exact fun s log hs hsame => hrun _ s log hs (hsame name hslot)
  | slug target =>
    simp only [fillLink, hl]
    cases payload.isNull with
    | true => exact hone (by rw [hl]; rfl) (by rw [hl]; rfl) _
    | false =>
      cases registry.get target >>= fun type => handle type payload none with
      | error e => exact ⟨.error e, fun s => s, .failed hkept, fun s log _ _ => ⟨log, rfl⟩⟩
      | ok s => exact hone (by rw [hl]; rfl) (by rw [hl]; rfl) _
  | byId target =>
    have hbyId : p.link.isById = true := by rw [hl]; rfl
    simp only [fillLink, hl]
    cases halias : ResourceType.aliasOf? name with
    | none =>
      exact ⟨_, _, .one hp (by rw [hl]; rfl) (fun _ => halias) hkept, fun s log _ _ => ⟨log, rfl⟩⟩
    | some exposed =>
      have hslot : r.type.slot? name = some exposed := by
        simp [ResourceType.slot?, hp.declared, hl, halias]
      dsimp only
      cases payload.isNull with
      | true => exact ⟨_, _, .two hp hbyId halias hkept, fun s log _ _ => ⟨log, rfl⟩⟩
      | false =>
        obtain ⟨result, hrun⟩ := take_related hfill hitems registry target exposed payload r
        have hframe := hremoved exposed (hp.fills_slot hslot)
        cases result with
        | error e =>
          refine ⟨.error e, fun s => s.remove exposed, .failed hframe, ?_⟩
          exact fun s log hs hsame => hrun _ s log hs (hsame exposed hslot)
        | ok v =>
          refine ⟨.ok (), fun s => ((s.remove exposed).put exposed v).put name (.scalar payload),
            .two hp hbyId halias hframe, ?_⟩
          exact fun s log hs hsame => hrun _ s log hs (hsame exposed hslot)

theorem fillField_determined (hfill : LogFree fill) (hitems : ∀ item ∈ items, LogFree item.2)
    (registry : Registry) (name : String) (payload : Json) (r : Resource) :
    Determined r name (fillField registry name payload fill items) := by
  by_cases hdeclared : ∃ p, Declares r.type name p
  · obtain ⟨p, hp⟩ := hdeclared
    obtain ⟨result, write, hwrites, hrun⟩ : Determined r name
        (fillLink registry name p payload fill items) := fillLink_determined hfill hitems hp payload
    refine ⟨result, write, hwrites, fun s log hs hsame => ?_⟩
    rw [fillField_declared (hs ▸ hp)]
    exact hrun s log hs hsame
  · refine ⟨.ok (), fun s => s, .nothing fun field hfills => ?_, fun s log hs _ => ⟨log, ?_⟩⟩
    · obtain ⟨p, hp, hchanges, -⟩ := hfills
      exact hdeclared ⟨p, hp, hchanges⟩
    · exact fillField_undeclared (fun p hp => hdeclared ⟨p, hs ▸ hp⟩) log

end Entries

/-! ## Payloads -/

section Payloads
variable {registry : Registry} {now : Nat}

theorem Determined.logFree {x : Filling Unit} {name : String} (h : ∀ r, Determined r name x) :
    LogFree x := by
  intro r
  obtain ⟨result, write, -, hrun⟩ := h r
  exact ⟨result, write r, fun log => hrun r log rfl fun _ _ => .inl rfl⟩

theorem fillObject_logFree (registry : Registry) (now : Nat) (payload : Json) :
    LogFree (fillObject registry now payload) := by
  induction payload using fillObject.induct
    (motive_1 := fun fields => LogFree (fillFields registry now fields))
    (motive_2 := fun v => ∀ item ∈ fillItems registry now v, LogFree item.2)
    (motive_3 := fun vs => ∀ item ∈ fillList registry now vs, LogFree item.2) with
  | case1 items ih item hi => exact ih item hi
  | case2 v hv item hi =>
    cases v with
    | arr items => exact absurd rfl (hv items)
    | _ => cases hi
  | case3 fields ih => exact ih.bind fun r => ⟨_, _, fun log => ⟨log, rfl⟩⟩
  | case4 v hv =>
    cases v with
    | obj fields => exact absurd rfl (hv fields)
    | _ => exact fun r => ⟨_, _, fun log => ⟨log, rfl⟩⟩
  | case5 item hi => cases hi
  | case6 v rest ihv ihrest item hi =>
    rcases List.mem_cons.mp hi with rfl | hi
    · exact ihv
    · exact ihrest item hi
  | case7 => exact fun r => ⟨_, _, fun log => ⟨log, rfl⟩⟩
  | case8 name payload rest ihobj ihitems ihrest =>
    have hentry : LogFree (fillField registry name payload _ _) :=
      Determined.logFree fun r => fillField_determined ihobj ihitems registry name payload r
    exact hentry.bind ihrest

theorem fillItems_logFree (payload : Json) :
    ∀ item ∈ fillItems registry now payload, LogFree item.2 := by
  intro item hi
  cases payload with
  | arr values =>
    change item ∈ fillList registry now values at hi
    induction values with
    | nil => cases hi
    | cons v rest ih =>
      rcases List.mem_cons.mp hi with rfl | hi
      · exact fillObject_logFree registry now v
      · exact ih hi
  | _ => cases hi

theorem entry_determined (registry : Registry) (now : Nat) (name : String) (payload : Json)
    (r : Resource) : Determined r name (fillField registry name payload
      (fillObject registry now payload) (fillItems registry now payload)) :=
  fillField_determined (fillObject_logFree registry now payload) (fillItems_logFree payload) registry name
    payload r

end Payloads

end Resource
end CloudClient
