import CloudClient.Proofs.Population.Relation

/-!
# What populating changes

An entry of a payload changes at most the field of its own name and, for an id relation, the field
that exposes the related resource; nothing else of the resource is written until all entries are
done. An entry that fails has dropped what its relation held and changed nothing else.
`EntryOutcome` says all that an entry can do; the rest is derived from it.
-/

namespace CloudClient

namespace ResourceType

def Fills (t : ResourceType) (key field : String) : Prop :=
  ∃ p, t.property? key = some p ∧ p.identifier = false ∧ p.link.isDerived = false ∧
    (field = key ∨ p.link.isById = true ∧ aliasOf? key = some field)

def Exposes (t : ResourceType) (name : String) : Prop :=
  ∃ key p, t.property? key = some p ∧ p.identifier = false ∧ p.link.isById = true ∧
    aliasOf? key = some name

/-- No property has the name under which an id relation exposes its resource. -/
def Unshared (t : ResourceType) : Prop :=
  ∀ name, t.Exposes name → t.property? name = none

/-- The field in which a relation keeps the resources it points at. -/
def slot? (t : ResourceType) (key : String) : Option String :=
  match t.property? key with
  | some p =>
    match p.link with
    | .nested _ => some key
    | .byId _ => aliasOf? key
    | _ => none
  | none => none

end ResourceType

namespace Resource

/-! ## Frames -/

structure Frame (touched : String → Prop) (r s : Resource) : Prop where
  rest : s = { r with fields := s.fields }
  kept : ∀ name, ¬ touched name → s.peek name = r.peek name

namespace Frame
variable {touched : String → Prop} {r s t : Resource}

theorem refl (r : Resource) : Frame touched r r := ⟨by cases r; rfl, fun _ _ => rfl⟩

theorem trans (h : Frame touched r s) (h' : Frame touched s t) : Frame touched r t := by
  refine ⟨?_, fun name hn => (h'.kept name hn).trans (h.kept name hn)⟩
  have hs := h.rest
  have ht := h'.rest
  rw [hs] at ht
  exact ht

theorem mono {touched' : String → Prop} (h : Frame touched r s)
    (hsub : ∀ name, touched name → touched' name) : Frame touched' r s :=
  ⟨h.rest, fun name hn => h.kept name (mt (hsub name) hn)⟩

theorem type (h : Frame touched r s) : s.type = r.type := by rw [h.rest]

theorem changed (h : Frame touched r s) : s.changed = r.changed := by rw [h.rest]

theorem put {name : String} {v : FieldValue} (hn : touched name) : Frame touched r (r.put name v) := by
  refine ⟨rfl, fun other ho => peek_put_of_ne r v ?_⟩
  intro hother
  subst hother
  exact ho hn

theorem remove {name : String} (hn : touched name) : Frame touched r (r.remove name) := by
  refine ⟨rfl, fun other ho => peek_remove_of_ne r ?_⟩
  intro hother
  subst hother
  exact ho hn

end Frame

/-! ## One entry -/

structure Declares (t : ResourceType) (name : String) (p : Property) : Prop where
  declared : t.property? name = some p
  changes : p.identifier = false

/-- What an entry of a payload can do to a resource. Whatever it puts into a field holds only
resources that meet `Q`. -/
inductive EntryOutcome (registry : Registry) (Q : Resource → Prop) (r : Resource) (name : String)
    (payload : Json) : Except Error Unit → Resource → Prop
  | passed : EntryOutcome registry Q r name payload (.ok ()) r
  | filled {p : Property} {v : FieldValue} (hp : Declares r.type name p)
      (hlink : p.link.isDerived = false) (hv : ∀ s ∈ v.held, Q s) :
      EntryOutcome registry Q r name payload (.ok ()) (r.put name v)
  | related {p : Property} {target : String} {v : FieldValue} (hp : Declares r.type name p)
      (hlink : p.link = .nested target) (hv : ∀ s ∈ v.held, Q s) :
      EntryOutcome registry Q r name payload (.ok ()) ((r.remove name).put name v)
  | exposed {p : Property} {target exposed : String} {v : FieldValue} {s : Resource}
      (hp : Declares r.type name p) (hlink : p.link = .byId target)
      (hname : ResourceType.aliasOf? name = some exposed) (hs : s = r ∨ s = r.remove exposed)
      (hv : ∀ s ∈ v.held, Q s) :
      EntryOutcome registry Q r name payload (.ok ()) ((s.put exposed v).put name (.scalar payload))
  | dropped {p : Property} {slot : String} {e : Error} (hp : Declares r.type name p)
      (hslot : r.type.slot? name = some slot) (hnull : payload.isNull = false) :
      EntryOutcome registry Q r name payload (.error e) (r.remove slot)
  | refused {p : Property} {target : String} {e : Error} (hp : Declares r.type name p)
      (hlink : p.link = .slug target)
      (he : ∀ type, registry.get target = .ok type → handle type payload none = .error e) :
      EntryOutcome registry Q r name payload (.error e) r

section Entry
variable {Q : Resource → Prop} {registry : Registry}

theorem take_then {slot : String} {x : FieldValue → Filling FieldValue} {A : FieldValue → Prop}
    {f : FieldValue → Filling Unit} {r : Resource} {log : Log}
    {R : Except Error Unit → Resource × Log → Prop} (hx : Filling.Answers (x (r.peek slot)) A)
    (hok : ∀ v log, A v → Step.Yields (f v) (r.remove slot, log) R)
    (herror : ∀ e log, R (.error e) (r.remove slot, log)) :
    Step.Yields (Filling.take slot >>= fun held => x held >>= f) (r, log) R := by
  change Step.Yields (x (r.peek slot) >>= f) (r.remove slot, log) R
  refine (hx (r.remove slot) log).bind ?_ ?_
  · intro v t ht
    obtain ⟨s, log'⟩ := t
    obtain ⟨hs, hv⟩ := ht
    cases hs
    exact hok v log' (hv v rfl)
  · intro e t ht
    obtain ⟨s, log'⟩ := t
    obtain ⟨hs, -⟩ := ht
    cases hs
    exact herror e log'

theorem fillField_outcome
    (hnew : ∀ key target id s, registry.get key = .ok target → handle target id none = .ok s → Q s)
    {fill : Filling Unit} (hfill : FillKeeps Q fill) {items : List (Json × Filling Unit)}
    (hitems : ∀ item ∈ items, FillKeeps Q item.2) {r : Resource}
    (hheld : ∀ field, ∀ s ∈ (r.peek field).held, Q s) (name : String) (payload : Json) (log : Log) :
    Step.Yields (fillField registry name payload fill items) (r, log)
      fun result t => EntryOutcome registry Q r name payload result t.1 := by
  unfold fillField
  apply Step.yields_read_bind.mpr
  dsimp only
  cases hp : r.type.property? name with
  | none => exact .passed
  | some p =>
    simp only
    split
    · exact .passed
    · rename_i hid
      have hd : Declares r.type name p := ⟨hp, by simpa using hid⟩
      cases hl : p.link with
      | derived target => exact .passed
      | plain =>
        obtain ⟨v, log', hv, hheld⟩ := plainValue_ok name p payload r log
        apply (Step.yields_bind_of_ok hv).mpr
        exact .filled hd (by rw [hl]; rfl) (by simp [hheld])
      | nested target =>
        simp only
        split
        · exact .filled hd (by rw [hl]; rfl) (by simp [FieldValue.held])
        · rename_i hnull
          have hrel := relate_answers (fun t id s => hnew target t id s) hfill hitems (hheld name) payload
          refine take_then hrel ?_ ?_
          · exact fun v _ hv => .related hd hl hv
          · exact fun e _ => .dropped hd (by simp [ResourceType.slot?, hp, hl]) (by simpa using hnull)
      | slug target =>
        simp only
        split
        · exact .filled hd (by rw [hl]; rfl) (by simp [FieldValue.held])
        · cases htype : registry.get target with
          | error e => exact .refused hd hl (by simp [htype])
          | ok type =>
            apply Step.yields_ok_bind.mpr
            cases hs : handle type payload none with
            | error e => exact .refused hd hl (by simp [htype, hs])
            | ok s =>
              apply Step.yields_ok_bind.mpr
              refine .filled hd (by rw [hl]; rfl) ?_
              simpa [FieldValue.held] using hnew target type payload s htype hs
      | byId target =>
        simp only
        cases halias : ResourceType.aliasOf? name with
        | none => exact .filled hd (by rw [hl]; rfl) (by simp [FieldValue.held])
        | some exposed =>
          simp only
          split
          · exact .exposed hd hl halias (.inl rfl) (by simp [FieldValue.held])
          · rename_i hnull
            have hrel :=
              relate_answers (fun t id s => hnew target t id s) hfill hitems (hheld exposed) payload
            refine take_then hrel ?_ ?_
            · exact fun v _ hv => .exposed hd hl halias (.inr rfl) hv
            · exact fun e _ =>
                .dropped hd (by simp [ResourceType.slot?, hp, hl, halias]) (by simpa using hnull)

theorem Declares.fills_slot {t : ResourceType} {name slot : String} {p : Property}
    (hp : Declares t name p) (hslot : t.slot? name = some slot) : t.Fills name slot := by
  simp only [ResourceType.slot?, hp.declared] at hslot
  split at hslot
  · rename_i hl
    cases hslot
    exact ⟨p, hp.declared, hp.changes, by rw [hl]; rfl, .inl rfl⟩
  · rename_i hl
    exact ⟨p, hp.declared, hp.changes, by rw [hl]; rfl, .inr ⟨by rw [hl]; rfl, hslot⟩⟩
  · cases hslot

theorem EntryOutcome.frame {r s : Resource} {name : String} {payload : Json}
    {result : Except Error Unit} (h : EntryOutcome registry Q r name payload result s) :
    Frame (r.type.Fills name) r s := by
  cases h with
  | passed => exact .refl r
  | filled hp hlink _ => exact .put ⟨_, hp.declared, hp.changes, hlink, .inl rfl⟩
  | related hp hlink _ =>
    have hname : r.type.Fills name name :=
      ⟨_, hp.declared, hp.changes, by rw [hlink]; rfl, .inl rfl⟩
    exact (Frame.remove hname).trans (.put hname)
  | exposed hp hlink halias hs _ =>
    have hname : r.type.Fills name name :=
      ⟨_, hp.declared, hp.changes, by rw [hlink]; rfl, .inl rfl⟩
    have hexposed : r.type.Fills name _ :=
      ⟨_, hp.declared, hp.changes, by rw [hlink]; rfl, .inr ⟨by rw [hlink]; rfl, halias⟩⟩
    rcases hs with rfl | rfl
    · exact (Frame.put hexposed).trans (.put hname)
    · exact ((Frame.remove hexposed).trans (.put hexposed)).trans (.put hname)
  | dropped hp hslot _ => exact .remove (hp.fills_slot hslot)
  | refused => exact .refl r

theorem fillKeeps_trivial (fill : Filling Unit) : FillKeeps (fun _ => True) fill :=
  fun _ _ _ _ => trivial

theorem fillField_yields (registry : Registry) (fill : Filling Unit)
    (items : List (Json × Filling Unit)) (r : Resource) (name : String) (payload : Json) (log : Log) :
    Step.Yields (fillField registry name payload fill items) (r, log)
      fun result t => EntryOutcome registry (fun _ => True) r name payload result t.1 :=
  fillField_outcome (fun _ _ _ _ _ _ => trivial) (fillKeeps_trivial fill)
    (fun _ _ => fillKeeps_trivial _) (fun _ _ _ => trivial) name payload log

end Entry

/-! ## All entries -/

section Entries
variable {registry : Registry} {now : Nat}

def FilledBy (t : ResourceType) (fields : List (String × Json)) (field : String) : Prop :=
  ∃ entry ∈ fields, t.Fills entry.1 field

theorem fill_obj (registry : Registry) (now : Nat) (fields : List (String × Json)) :
    fill registry now (.obj fields) =
      (fillFields registry now fields >>= fun _ => markPopulated now (.obj fields)) := rfl

theorem fill_eq_ok {payload : Json} {r s : Resource} {log log' : Log} :
    fill registry now payload (r, log) = (.ok (), s, log') ↔
      ∃ fields m, payload = .obj fields ∧ fillFields registry now fields (r, log) = (.ok (), m, log') ∧
        s = m.populatedFrom now payload := by
  cases payload with
  | obj fields =>
    rw [fill_obj]
    constructor
    · intro h
      obtain ⟨_, ⟨m, log₁⟩, hfields, hmark⟩ := Step.bind_eq_ok.mp h
      cases hmark
      exact ⟨fields, m, rfl, hfields, rfl⟩
    · intro h
      obtain ⟨_, m, hobj, hfields, rfl⟩ := h
      cases hobj
      rw [Step.bind_of_ok hfields]
      rfl
  | _ =>
    constructor
    · intro h
      cases h
    · intro h
      obtain ⟨_, _, hobj, -⟩ := h
      cases hobj

theorem fillFields_cons (registry : Registry) (now : Nat) (name : String) (payload : Json)
    (rest : List (String × Json)) :
    fillFields registry now ((name, payload) :: rest) =
      (fillField registry name payload (fillObject registry now payload)
        (fillItems registry now payload) >>= fun _ => fillFields registry now rest) := rfl

theorem fillFields_frame (fields : List (String × Json)) (r : Resource) (log : Log) :
    Step.Yields (fillFields registry now fields) (r, log)
      fun _ t => Frame (FilledBy r.type fields) r t.1 := by
  induction fields generalizing r log with
  | nil => exact .refl r
  | cons entry rest ih =>
    obtain ⟨name, payload⟩ := entry
    refine (fillField_yields registry _ _ r name payload log).bind ?_ ?_
    · intro _ t ht
      have hfirst : Frame (FilledBy r.type ((name, payload) :: rest)) r t.1 :=
        ht.frame.mono fun field hf => ⟨_, List.mem_cons_self, hf⟩
      refine (ih t.1 t.2).mono fun _ u hu => hfirst.trans (hu.mono ?_)
      intro field hfield
      obtain ⟨entry, he, hf⟩ := hfield
      exact ⟨entry, List.mem_cons_of_mem _ he, hfirst.type ▸ hf⟩
    · intro e t ht
      exact ht.frame.mono fun field hf => ⟨_, List.mem_cons_self, hf⟩

theorem fillFields_append (before after : List (String × Json)) :
    fillFields registry now (before ++ after) =
      (fillFields registry now before >>= fun _ => fillFields registry now after) := by
  induction before with
  | nil => rfl
  | cons entry rest ih =>
    rw [List.cons_append, fillFields_cons, fillFields_cons, ih, bind_assoc]

theorem fillFields_error {fields : List (String × Json)} {r s : Resource} {log log' : Log} {e : Error}
    (h : fillFields registry now fields (r, log) = (.error e, s, log')) :
    ∃ before key value after m log₁, fields = before ++ (key, value) :: after ∧
      fillFields registry now before (r, log) = (.ok (), m, log₁) ∧
      fillField registry key value (fillObject registry now value) (fillItems registry now value)
        (m, log₁) = (.error e, s, log') := by
  induction fields generalizing r log with
  | nil => cases h
  | cons entry rest ih =>
    obtain ⟨name, payload⟩ := entry
    rw [fillFields_cons] at h
    rcases Step.bind_eq_error.mp h with hfirst | ⟨_, ⟨m, log₁⟩, hfirst, hrest⟩
    · exact ⟨[], name, payload, rest, r, log, rfl, rfl, hfirst⟩
    · obtain ⟨before, key, value, after, m', log₂, rfl, hbefore, hentry⟩ := ih hrest
      refine ⟨(name, payload) :: before, key, value, after, m', log₂, rfl, ?_, hentry⟩
      rw [fillFields_cons, Step.bind_of_ok hfirst]
      exact hbefore

end Entries

end Resource

end CloudClient
