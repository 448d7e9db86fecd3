import CloudClient.Proofs.Population.Entry

/-!
# What populating keeps

A resource keeps its type, its ids and every identifier that no id relation exposes its resource
under. A condition that depends on no more than these, and that new resources meet, is kept by
populating in the resource and in all that it holds, at every depth and whether or not the payload
is filled to its end.
-/

namespace CloudClient.Resource

/-- The same type and ids, and the same identifiers but those whose name an id relation takes. -/
structure SameIdentity (r s : Resource) : Prop where
  type : s.type = r.type
  id : s.id = r.id
  parent : s.parent? = r.parent?
  kept : ∀ name, isIdentifier r.type name = true → ¬ r.type.Exposes name → s.peek name = r.peek name

namespace SameIdentity
variable {r s t : Resource}

theorem refl (r : Resource) : SameIdentity r r := ⟨rfl, rfl, rfl, fun _ _ _ => rfl⟩

theorem trans (h : SameIdentity r s) (h' : SameIdentity s t) : SameIdentity r t := by
  refine ⟨h'.type.trans h.type, h'.id.trans h.id, h'.parent.trans h.parent, ?_⟩
  intro name hid hex
  have hs := h.kept name hid hex
  rw [← h.type] at hid hex
  exact (h'.kept name hid hex).trans hs

end SameIdentity

theorem not_fills_of_isIdentifier {t : ResourceType} {key name : String}
    (hid : isIdentifier t name = true) (hex : ¬ t.Exposes name) : ¬ t.Fills key name := by
  intro hfills
  obtain ⟨p, hp, hchanges, -, rfl | ⟨hlink, halias⟩⟩ := hfills
  · simp [isIdentifier, hp, hchanges] at hid
  · exact hex ⟨key, p, hp, hchanges, hlink, halias⟩

theorem Frame.sameIdentity {touched : String → Prop} {r s : Resource} (h : Frame touched r s)
    (htouched : ∀ name, isIdentifier r.type name = true → ¬ r.type.Exposes name → ¬ touched name) :
    SameIdentity r s := by
  have hrest := h.rest
  exact ⟨h.type, by rw [hrest], by rw [hrest], fun name hid hex => h.kept name (htouched name hid hex)⟩

theorem Frame.sameIdentity_of_filledBy {fields : List (String × Json)} {r s : Resource}
    (h : Frame (FilledBy r.type fields) r s) : SameIdentity r s := by
  refine h.sameIdentity fun name hid hex => ?_
  intro hfilled
  obtain ⟨entry, -, hfills⟩ := hfilled
  exact not_fills_of_isIdentifier hid hex hfills

theorem EntryOutcome.sameIdentity {registry : Registry} {Q : Resource → Prop} {r s : Resource}
    {name : String} {payload : Json} {result : Except Error Unit}
    (h : EntryOutcome registry Q r name payload result s) : SameIdentity r s :=
  h.frame.sameIdentity fun _ hid hex => not_fills_of_isIdentifier hid hex

theorem populatedFrom_sameIdentity (r : Resource) (now : Nat) (payload : Json) :
    SameIdentity r (r.populatedFrom now payload) := ⟨rfl, rfl, rfl, fun _ _ _ => rfl⟩

/-! ## Conditions on the identity -/

/-- A condition that every new resource of a registered type meets, with or without identifiers from
a payload, and that nothing but the identity decides. -/
structure Invariant (registry : Registry) (P : Resource → Prop) : Prop where
  made : ∀ {key type id parent? r}, registry.get key = .ok type → handle type id parent? = .ok r → P r
  identified : ∀ {r} payload, P r → P (r.withIdentifiers payload)
  stable : ∀ {r s}, SameIdentity r s → P r → P s

section Populating
variable {registry : Registry} {P : Resource → Prop}

theorem handle_eq {type : ResourceType} {id : Json} {parent? : Option ParentKey} {r : Resource}
    (h : handle type id parent? = .ok r) : r = identified type id parent? := by
  unfold handle at h
  cases hc : Endpoint.checkParent type parent? with
  | error e => rw [hc] at h; cases h
  | ok u => rw [hc] at h; cases h; rfl

theorem identified_held (type : ResourceType) (id : Json) (parent? : Option ParentKey)
    (name : String) : ((identified type id parent?).peek name).held = [] := by
  simp only [peek, identified, Dict.get?]
  split <;> rfl

theorem Everywhere.of_handle {type : ResourceType} {id : Json} {parent? : Option ParentKey}
    {r : Resource} (h : handle type id parent? = .ok r) (hr : P r) : Everywhere P r := by
  refine .intro hr fun name s hs => ?_
  rw [handle_eq h, identified_held] at hs
  cases hs

theorem Invariant.handle_everywhere (hP : Invariant registry P) {key : String} {type : ResourceType}
    {id : Json} {parent? : Option ParentKey} {r : Resource} (htype : registry.get key = .ok type)
    (h : handle type id parent? = .ok r) : Everywhere P r := .of_handle h (hP.made htype h)

theorem EntryOutcome.adds {Q : Resource → Prop} {r s : Resource} {name : String} {payload : Json}
    {result : Except Error Unit} (h : EntryOutcome registry Q r name payload result s) :
    Adds Q r s := by
  cases h with
  | passed => exact .refl r
  | filled _ _ hv => exact .put hv r name
  | related _ _ hv => exact (Adds.remove r name).trans (.put hv _ name)
  | exposed _ _ _ hs hv =>
    have hscalar : ∀ t ∈ (FieldValue.scalar payload).held, Q t := fun t ht => by cases ht
    rcases hs with rfl | rfl
    · exact (Adds.put hv _ _).trans (.put hscalar _ name)
    · exact ((Adds.remove r _).trans (.put hv _ _)).trans (.put hscalar _ name)
  | dropped => exact .remove r _
  | refused => exact .refl r

theorem EntryOutcome.everywhere (hP : Invariant registry P) {r s : Resource} {name : String}
    {payload : Json} {result : Except Error Unit}
    (h : EntryOutcome registry (Everywhere P) r name payload result s) (hr : Everywhere P r) :
    Everywhere P s :=
  hr.of_adds (hP.stable h.sameIdentity hr.here) h.adds

def Keeps (P : Resource → Prop) (x : Filling Unit) : Prop :=
  ∀ r log, P r → Step.Yields x (r, log) fun _ t => P t.1

theorem Keeps.fillKeeps {Q : Resource → Prop} {x : Filling Unit} (h : Keeps Q x) : FillKeeps Q x :=
  fun s log hs => (h s log hs).mono fun _ _ ht _ => ht

theorem fillObject_keeps (hP : Invariant registry P) (now : Nat) (payload : Json) :
    Keeps (Everywhere P) (fillObject registry now payload) := by
  induction payload using fillObject.induct
    (motive_1 := fun fields => Keeps (Everywhere P) (fillFields registry now fields))
    (motive_2 := fun v => ∀ item ∈ fillItems registry now v, Keeps (Everywhere P) item.2)
    (motive_3 := fun vs => ∀ item ∈ fillList registry now vs, Keeps (Everywhere P) item.2) with
  | case1 items ih item hi => exact ih item hi
  | case2 v hv item hi =>
    cases v with
    | arr items => exact absurd rfl (hv items)
    | _ => cases hi
  | case3 fields ih =>
    intro r log hr
    refine (ih r log hr).bind ?_ fun _ _ ht => ht
    intro _ t ht
    have hsame := populatedFrom_sameIdentity t.1 now (.obj fields)
    exact ht.of_adds (hP.stable hsame ht.here) fun _ => .inl rfl
  | case4 v hv =>
    cases v with
    | obj fields => exact absurd rfl (hv fields)
    | _ => exact fun _ _ hr => hr
  | case5 item hi => cases hi
  | case6 v rest ihv ihrest item hi =>
    rcases List.mem_cons.mp hi with rfl | hi
    · exact ihv
    · exact ihrest item hi
  | case7 => exact fun _ _ hr => hr
  | case8 name payload rest ihobj ihitems ihrest =>
    intro r log hr
    have hfield := fillField_outcome (fun _ _ _ _ => hP.handle_everywhere) ihobj.fillKeeps
      (fun item hi => (ihitems item hi).fillKeeps) (fun _ _ hs => hr.of_held hs) name payload log
    refine hfield.bind ?_ ?_
    · exact fun _ t ht => ihrest t.1 t.2 (ht.everywhere hP hr)
    · exact fun e t ht => ht.everywhere hP hr

theorem fill_keeps (hP : Invariant registry P) (now : Nat) (payload : Json) :
    Keeps (Everywhere P) (fill registry now payload) := by
  unfold fill
  split
  · exact fillObject_keeps hP now payload
  · exact fun _ _ hr => hr

theorem ofPayload_eq_ok {now : Nat} {type : ResourceType} {id payload : Json}
    {parent? : Option ParentKey} {log log' : Log} {r : Resource} :
    ofPayload registry now type id parent? payload log = (.ok r, log') ↔
      ∃ s, handle type id parent? = .ok s ∧
        fill registry now payload (s.withIdentifiers payload, log) = (.ok (), r, log') := by
  unfold ofPayload
  constructor
  · intro h
    obtain ⟨s, log₁, hs, hfill⟩ := Step.bind_eq_ok.mp h
    obtain ⟨hhandle, rfl⟩ := Prod.mk.inj hs
    refine ⟨s, hhandle, ?_⟩
    generalize fill registry now payload (s.withIdentifiers payload, log) = outcome at hfill ⊢
    obtain ⟨_ | _, t, log₂⟩ := outcome
    · cases hfill
    · cases hfill
      rfl
  · intro h
    obtain ⟨s, hhandle, hfill⟩ := h
    refine Step.bind_eq_ok.mpr ⟨s, log, by rw [hhandle]; rfl, ?_⟩
    rw [hfill]

theorem ofItem_eq_ok {now : Nat} {type : ResourceType} {payload : Json} {parent? : Option ParentKey}
    {log log' : Log} {r : Resource} :
    ofItem registry now type parent? payload log = (.ok r, log') ↔
      ∃ id, payload.getSome? type.idField = some id ∧
        ofPayload registry now type id parent? payload log = (.ok r, log') := by
  unfold ofItem
  cases payload.getSome? type.idField with
  | none => simp
  | some id => simp

theorem withIdentifiers_spec {Q : Resource → Prop} (r : Resource) (payload : Json) :
    Frame (fun name => name ≠ r.type.idField) r (r.withIdentifiers payload) ∧
      Adds Q r (r.withIdentifiers payload) := by
  unfold withIdentifiers
  refine List.foldlRecOn
    (motive := fun s => Frame (fun name => name ≠ r.type.idField) r s ∧ Adds Q r s) _ _
    ⟨Frame.refl r, Adds.refl r⟩ ?_
  intro s hs entry _
  obtain ⟨hframe, hadds⟩ := hs
  obtain ⟨name, p⟩ := entry
  have hscalar : ∀ v : Json, ∀ t ∈ (FieldValue.scalar v).held, Q t := fun v t ht => by cases ht
  dsimp only
  split
  · rename_i hid
    have hname : name ≠ r.type.idField := by
      rw [hframe.type] at hid
      simpa using (Bool.and_eq_true_iff.mp hid).2
    split
    · rename_i v _
      exact ⟨hframe.trans (.put hname), hadds.trans (.put (hscalar v) s name)⟩
    · exact ⟨hframe, hadds⟩
  · exact ⟨hframe, hadds⟩

structure Initial (registry : Registry) (Q : Resource → Prop) : Prop where
  handled : ∀ {key type id parent? r}, registry.get key = .ok type →
    handle type id parent? = .ok r → Q r
  filled : ∀ {key type id parent? r now payload log log'}, registry.get key = .ok type →
    ofPayload registry now type id parent? payload log = (.ok r, log') → Q r

/-! ## Conditions that a whole payload keeps -/

/-- A condition that every new resource of a registered type meets, with or without identifiers from
a payload, and that a payload filled to its end keeps. -/
structure Completed (registry : Registry) (P : Resource → Prop) : Prop where
  made : ∀ {key type id parent? r}, registry.get key = .ok type → handle type id parent? = .ok r → P r
  identified : ∀ {key type id parent? r} payload, registry.get key = .ok type →
    handle type id parent? = .ok r → P (r.withIdentifiers payload)
  filled : ∀ {now fields r s log log'}, fillFields registry now fields (r, log) = (.ok (), s, log') →
    P r → P (s.populatedFrom now (.obj fields))

theorem Invariant.completed (hP : Invariant registry P) : Completed registry P := by
  refine ⟨hP.made, fun payload htype h => hP.identified payload (hP.made htype h), ?_⟩
  intro now fields r s log log' h hr
  have hframe := (fillFields_frame fields r log).of_eq h
  exact hP.stable (hframe.sameIdentity_of_filledBy.trans (populatedFrom_sameIdentity s now _)) hr

theorem Completed.handle_everywhere (hP : Completed registry P) {key : String} {type : ResourceType}
    {id : Json} {parent? : Option ParentKey} {r : Resource} (htype : registry.get key = .ok type)
    (h : handle type id parent? = .ok r) : Everywhere P r := .of_handle h (hP.made htype h)

/-- By induction over the payload. Between its entries nothing is asked of the resource itself, but
whatever its fields hold has been filled to its own end. -/
theorem Completed.fillObject_keeps (hP : Completed registry P) (now : Nat) (payload : Json) :
    FillKeeps (Everywhere P) (fillObject registry now payload) := by
  induction payload using fillObject.induct
    (motive_1 := fun fields => FillKeeps (Below P) (fillFields registry now fields))
    (motive_2 := fun v => ∀ item ∈ fillItems registry now v, FillKeeps (Everywhere P) item.2)
    (motive_3 := fun vs => ∀ item ∈ fillList registry now vs, FillKeeps (Everywhere P) item.2) with
  | case1 items ih item hi => exact ih item hi
  | case2 v hv item hi =>
    cases v with
    | arr items => exact absurd rfl (hv items)
    | _ => cases hi
  | case3 fields ih =>
    intro r log hr
    have hrun : (fillFields registry now fields).Yields (r, log) fun result t =>
        fillFields registry now fields (r, log) = (result, t) := rfl
    refine hrun.bind (fun _ t ht _ => ?_) fun e t _ h => by cases h
    have hbelow : Below P t.1 := (ih r log hr.toBelow).of_eq ht rfl
    exact .intro (hP.filled ht hr.here) hbelow
  | case4 v hv =>
    cases v with
    | obj fields => exact absurd rfl (hv fields)
    | _ => exact fun _ _ hr _ => hr
  | case5 item hi => cases hi
  | case6 v rest ihv ihrest item hi =>
    rcases List.mem_cons.mp hi with rfl | hi
    · exact ihv
    · exact ihrest item hi
  | case7 => exact fun _ _ hr _ => hr
  | case8 name payload rest ihobj ihitems ihrest =>
    intro r log hr
    have hfield := fillField_outcome (fun _ _ _ _ => hP.handle_everywhere) ihobj ihitems hr name
      payload log
    refine hfield.bind (fun _ t ht => ?_) fun e t _ h => by cases h
    exact ihrest t.1 t.2 (hr.of_adds ht.adds)

theorem Completed.fill_keeps (hP : Completed registry P) (now : Nat) (payload : Json) :
    FillKeeps (Everywhere P) (fill registry now payload) := by
  unfold fill
  split
  · exact hP.fillObject_keeps now payload
  · exact fun _ _ _ h => by cases h

theorem Completed.initial (hP : Completed registry P) : Initial registry (Everywhere P) := by
  refine ⟨hP.handle_everywhere, ?_⟩
  intro key type id parent? r now payload log log' htype h
  obtain ⟨s, hs, hfill⟩ := ofPayload_eq_ok.mp h
  have hidentified : Everywhere P (s.withIdentifiers payload) :=
    (hP.handle_everywhere htype hs).of_adds (hP.identified payload htype hs)
      (withIdentifiers_spec s payload).2
  exact (hP.fill_keeps now payload _ log hidentified).of_eq hfill rfl

end Populating

end CloudClient.Resource
