import CloudClient.Proofs.Resource.Placement

/-!
# Why populating fails

Every type that a payload of a placed resource can lead to is registered and takes no parents, so
neither its look-up nor the handle on a related resource fails, at any depth. What is left is a
payload that is not what it should be.
-/

namespace CloudClient

namespace Error

def Unexpected (e : Error) : Prop := ∃ message json, e = .unexpectedResponse message json

theorem unexpected (message : String) (json : Json) :
    Unexpected (.unexpectedResponse message json) := ⟨message, json, rfl⟩

end Error

namespace Resource
open Step (Meets)

variable {registry : Registry}

def FillsPlaced (registry : Registry) (t : Resource × Log) : Prop :=
  Everywhere (Placed registry) t.1

/-- An operation on placed resources that yields values of one kind, or complains of the payload. -/
abbrev Complains {α : Type} (registry : Registry) (Q : α → Prop) (x : Filling α) : Prop :=
  Meets (FillsPlaced registry) Q Error.Unexpected x

def HoldsPlaced (registry : Registry) (v : FieldValue) : Prop :=
  ∀ s ∈ v.held, Everywhere (Placed registry) s

/-! ## Fields -/

theorem note_complains (level : Level) (message : String) :
    Complains registry (fun _ => True) (Filling.note level message) :=
  .modify fun _ ht => ht

theorem put_complains (name : String) {v : FieldValue} (hv : HoldsPlaced registry v) :
    Complains registry (fun _ => True) (Filling.put name v) := by
  refine .modify fun t ht => ?_
  have hplaced : Placed registry (t.1.put name v) := ⟨ht.here.registered, ht.here.parents⟩
  exact ht.of_adds hplaced (Adds.put hv t.1 name)

theorem take_complains (name : String) :
    Complains registry (HoldsPlaced registry) (Filling.take name) := by
  intro t ht
  have hplaced : Placed registry (t.1.remove name) := ⟨ht.here.registered, ht.here.parents⟩
  exact ⟨ht.of_adds hplaced (Adds.remove t.1 name), fun s hs => ht.of_held hs⟩

theorem plainValue_complains (name : String) (p : Property) (payload : Json) :
    Complains registry (HoldsPlaced registry) (plainValue name p payload) := by
  intro t ht
  obtain ⟨v, log, hv, hheld⟩ := plainValue_ok name p payload t.1 t.2
  unfold Step.Yields
  rw [hv]
  refine ⟨ht, fun s hs => ?_⟩
  rw [hheld] at hs
  cases hs

theorem on_complains {held : Resource} {fill : Filling Unit} (hheld : Everywhere (Placed registry) held)
    (hfill : Complains registry (fun _ => True) fill) :
    Complains registry (Everywhere (Placed registry)) (Filling.on held fill) := by
  intro t ht
  obtain ⟨r, log⟩ := t
  have hrun := hfill (held, log) hheld
  simp only [Step.Yields, Filling.on] at hrun ⊢
  generalize fill (held, log) = outcome at hrun ⊢
  obtain ⟨_ | _, s, log'⟩ := outcome
  · exact ⟨ht, hrun.2⟩
  · exact ⟨ht, hrun.1⟩

/-! ## Relations -/

section Relations
variable {key : String} {target : ResourceType} {fill : Filling Unit}

theorem identified_placed (htarget : registry.get key = .ok target) (hroot : target.parentIds = [])
    (id : Json) : Everywhere (Placed registry) (identified target id none) :=
  (placed_invariant registry).handle_everywhere htarget
    (handle_eq_ok.mpr ⟨by rw [hroot]; rfl, rfl⟩)

theorem handle_fits (htarget : registry.get key = .ok target) (hroot : target.parentIds = [])
    (id : Json) :
    Step.Fits (Everywhere (Placed registry)) Error.Unexpected (handle target id none) := by
  rw [handle_eq_ok.mpr ⟨by rw [hroot]; rfl, rfl⟩]
  exact identified_placed htarget hroot id

theorem relateOne_complains (htarget : registry.get key = .ok target)
    (hroot : target.parentIds = []) {held? : Option Resource}
    (hheld : ∀ s, held? = some s → Everywhere (Placed registry) s)
    (hfill : Complains registry (fun _ => True) fill) (id payload : Json) :
    Complains registry (Everywhere (Placed registry)) (relateOne target held? id payload fill) := by
  have hrest : ∀ s, Everywhere (Placed registry) s → Complains registry (Everywhere (Placed registry))
      (if hasContent target payload then Filling.on s fill else Pure.pure s) := by
    intro s hs
    split
    · exact on_complains hs hfill
    · exact .pure hs
  cases held? with
  | none => exact (Meets.ofExcept (handle_fits htarget hroot id)).bind hrest
  | some s => exact (Meets.pure (hheld s rfl)).bind hrest

theorem relateItems_complains (htarget : registry.get key = .ok target)
    (hroot : target.parentIds = []) {items : List (Json × Filling Unit)}
    (hitems : ∀ item ∈ items, Complains registry (fun _ => True) item.2) {held : List Resource}
    (hheld : ∀ s ∈ held, Everywhere (Placed registry) s) :
    Complains registry (fun rs => ∀ s ∈ rs, Everywhere (Placed registry) s)
      (relateItems target held items) := by
  induction items generalizing held with
  | nil => exact .pure fun s hs => by cases hs
  | cons item rest ih =>
    obtain ⟨payload, fill⟩ := item
    have hrest : ∀ item ∈ rest, Complains registry (fun _ => True) item.2 :=
      fun item hi => hitems item (List.mem_cons_of_mem _ hi)
    simp only [relateItems]
    split
    · refine (Meets.read (Q := fun _ => True) fun _ _ => trivial).bind fun _ _ => ?_
      exact (note_complains _ _).bind fun _ _ => ih hrest hheld
    · rename_i id _
      obtain ⟨hfirst, hothers⟩ := takeById_mem id held
      have hone := relateOne_complains htarget hroot (fun s hs => hheld s (hfirst s hs))
        (hitems _ List.mem_cons_self) id payload
      refine hone.bind fun r hr => ?_
      refine (ih hrest fun s hs => hheld s (hothers s hs)).bind fun rs hrs => ?_
      exact .pure (List.forall_mem_cons.mpr ⟨hr, hrs⟩)

theorem heldById?_mem {id : Json} {v : FieldValue} {s : Resource} (h : heldById? id v = some s) :
    s ∈ v.held := by
  unfold heldById? at h
  split at h
  · split at h
    · cases h
      exact List.mem_cons_self
    · cases h
  · cases h

theorem relate_complains (htarget : registry.get key = .ok target) (hroot : target.parentIds = [])
    {held : FieldValue} (hheld : HoldsPlaced registry held)
    (hfill : Complains registry (fun _ => True) fill) {items : List (Json × Filling Unit)}
    (hitems : ∀ item ∈ items, Complains registry (fun _ => True) item.2) (payload : Json) :
    Complains registry (HoldsPlaced registry) (relate registry key held payload fill items) := by
  have hget : Step.Fits (fun t => t = target) Error.Unexpected (registry.get key) := by
    rw [htarget]
    rfl
  unfold relate
  refine (Meets.ofExcept hget).bind fun t ht => ?_
  subst ht
  split
  · refine (relateItems_complains htarget hroot hitems ?_).bind fun rs hrs => .pure hrs
    exact fun s hs => hheld s (FieldValue.mem_held_of_asResources hs)
  · split
    · exact .fail (Error.unexpected _ _)
    · rename_i id _
      have hsame : ∀ s, heldById? id held = some s → Everywhere (Placed registry) s :=
        fun s hs => hheld s (heldById?_mem hs)
      have hone := relateOne_complains htarget hroot hsame hfill id payload
      exact hone.bind fun r hr => .pure (List.forall_mem_singleton.mpr hr)

end Relations

/-! ## Entries -/

section Entries
variable {fill : Filling Unit} {items : List (Json × Filling Unit)}

theorem Placed.root (hregistry : registry.Sound) {r : Resource} (hr : Placed registry r)
    {name target : String} {p : Property} (hp : r.type.property? name = some p)
    (htarget : p.link.target? = some target) (hlink : p.link.isDerived = false) :
    ∃ type, registry.get target = .ok type ∧ type.parentIds = [] := by
  obtain ⟨type, htype, hlength⟩ := hr.target hregistry hp htarget
  refine ⟨type, htype, List.length_eq_zero_iff.mp ?_⟩
  rw [hlength, Registry.parentsNeeded, hlink]
  rfl

theorem scalar_holdsPlaced (v : Json) : HoldsPlaced registry (.scalar v) := fun s hs => by cases hs

theorem fillField_complains (hregistry : registry.Sound)
    (hfill : Complains registry (fun _ => True) fill)
    (hitems : ∀ item ∈ items, Complains registry (fun _ => True) item.2) (name : String)
    (payload : Json) :
    Complains registry (fun _ => True) (fillField registry name payload fill items) := by
  intro t ht
  -- what the property is is known from the state before the entry
  unfold fillField
  apply Step.yields_read_bind.mpr
  dsimp only
  cases hp : t.1.type.property? name with
  | none => exact ⟨ht, trivial⟩
  | some p =>
    have hroot : ∀ target, p.link.target? = some target → p.link.isDerived = false →
        ∃ type, registry.get target = .ok type ∧ type.parentIds = [] :=
      fun target => ht.here.root hregistry hp
    dsimp only
    split
    · exact ⟨ht, trivial⟩
    cases hl : p.link with
    | derived target => exact ⟨ht, trivial⟩
    | plain =>
      exact ((plainValue_complains name p payload).bind fun v hv => put_complains name hv) t ht
    | nested target =>
      dsimp only
      split
      · exact put_complains name (scalar_holdsPlaced .null) t ht
      · obtain ⟨type, htype, htop⟩ := hroot target (by rw [hl]; rfl) (by rw [hl]; rfl)
        refine ((take_complains name).bind fun held hheld => ?_) t ht
        exact (relate_complains htype htop hheld hfill hitems payload).bind fun v hv =>
          put_complains name hv
    | slug target =>
      dsimp only
      split
      · exact put_complains name (scalar_holdsPlaced .null) t ht
      · obtain ⟨type, htype, htop⟩ := hroot target (by rw [hl]; rfl) (by rw [hl]; rfl)
        have hget : Step.Fits (fun t => t = type) Error.Unexpected (registry.get target) := by
          rw [htype]
          rfl
        refine ((Meets.ofExcept hget).bind fun _ hsame => ?_) t ht
        subst hsame
        exact (Meets.ofExcept (handle_fits htype htop payload)).bind fun s hs =>
          put_complains name (List.forall_mem_singleton.mpr hs)
    | byId target =>
      dsimp only
      cases ResourceType.aliasOf? name with
      | none => exact put_complains name (scalar_holdsPlaced payload) t ht
      | some exposed =>
        dsimp only
        split
        · exact ((put_complains exposed (scalar_holdsPlaced .null)).bind fun _ _ =>
            put_complains name (scalar_holdsPlaced payload)) t ht
        · obtain ⟨type, htype, htop⟩ := hroot target (by rw [hl]; rfl) (by rw [hl]; rfl)
          refine ((take_complains exposed).bind fun held hheld => ?_) t ht
          refine (relate_complains htype htop hheld hfill hitems payload).bind fun v hv => ?_
          exact (put_complains exposed hv).bind fun _ _ =>
            put_complains name (scalar_holdsPlaced payload)

end Entries

/-! ## Payloads -/

theorem markPopulated_complains (now : Nat) (payload : Json) :
    Complains registry (fun _ => True) (markPopulated now payload) := by
  refine .modify fun t ht => ?_
  have hplaced : Placed registry (t.1.populatedFrom now payload) :=
    ⟨ht.here.registered, ht.here.parents⟩
  exact ht.of_adds hplaced fun _ => .inl rfl

theorem fillObject_complains (hregistry : registry.Sound) (now : Nat) (payload : Json) :
    Complains registry (fun _ => True) (fillObject registry now payload) := by
  induction payload using fillObject.induct
    (motive_1 := fun fields => Complains registry (fun _ => True) (fillFields registry now fields))
    (motive_2 := fun v => ∀ item ∈ fillItems registry now v,
      Complains registry (fun _ => True) item.2)
    (motive_3 := fun vs => ∀ item ∈ fillList registry now vs,
      Complains registry (fun _ => True) item.2) with
  | case1 items ih item hi => exact ih item hi
  | case2 v hv item hi =>
    cases v with
    | arr items => exact absurd rfl (hv items)
    | _ => cases hi
  | case3 fields ih => exact ih.bind fun _ _ => markPopulated_complains now _
  | case4 v hv =>
    cases v with
    | obj fields => exact absurd rfl (hv fields)
    | _ => exact .pure trivial
  | case5 item hi => cases hi
  | case6 v rest ihv ihrest item hi =>
    rcases List.mem_cons.mp hi with rfl | hi
    · exact ihv
    · exact ihrest item hi
  | case7 => exact .pure trivial
  | case8 name payload rest ihobj ihitems ihrest =>
    exact (fillField_complains hregistry ihobj ihitems name payload).bind fun _ _ => ihrest

theorem fill_complains (hregistry : registry.Sound) (now : Nat) (payload : Json) :
    Complains registry (fun _ => True) (fill registry now payload) := by
  unfold fill
  split
  · exact fillObject_complains hregistry now payload
  · refine (Meets.read (Q := fun _ => True) fun _ _ => trivial).bind fun name _ => ?_
    exact .fail (Error.unexpected _ _)

theorem populate_unexpected {client : Client} (hregistry : client.registry.Sound) {r s : Resource}
    (hr : Everywhere (Placed client.registry) r) {payload : Json} {w w' : World} {e : Error}
    (h : populate client payload (r, w) = (.error e, s, w')) : e.Unexpected := by
  obtain ⟨log, hfill, -⟩ := populate_eq.mp h
  exact (fill_complains hregistry w.now payload).error (s := (r, w.log)) hr hfill

end Resource
end CloudClient
