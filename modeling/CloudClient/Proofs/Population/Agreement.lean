import CloudClient.Proofs.Population.Value

/-!
# Ids and the resources behind them

The entry of an id relation writes two fields: the id, and under its alias the resource of that id.
In a type that declares nothing under the alias no other entry writes either of them, so the two
agree once a payload has been filled to its end, if they did before or the payload has the entry.
-/

namespace CloudClient

namespace ResourceType

/-- An id relation, the alias that exposes its resource, and the key of the type it points at. -/
structure Relates (t : ResourceType) (name exposed target : String) : Prop where
  declared : ∃ p, t.property? name = some p ∧ p.identifier = false ∧ p.link = .byId target
  named : aliasOf? name = some exposed

namespace Relates
variable {t : ResourceType} {name exposed target : String}

theorem exposes (h : t.Relates name exposed target) : t.Exposes exposed := by
  obtain ⟨p, hp, hid, hlink⟩ := h.declared
  exact ⟨name, p, hp, hid, by rw [hlink]; rfl, h.named⟩

theorem not_exposes (h : t.Relates name exposed target) (hunshared : t.Unshared) :
    ¬ t.Exposes name := by
  obtain ⟨p, hp, -⟩ := h.declared
  intro hexposes
  cases hp.symm.trans (hunshared name hexposes)

theorem ne_of_declared (h : t.Relates name exposed target) (hunshared : t.Unshared) {field : String}
    {p : Property} (hp : t.property? field = some p) : exposed ≠ field := by
  intro hfield
  subst hfield
  cases hp.symm.trans (hunshared _ h.exposes)

theorem not_fills (h : t.Relates name exposed target) (hunshared : t.Unshared) {key : String}
    (hkey : key ≠ name) : ¬ t.Fills key name ∧ ¬ t.Fills key exposed := by
  constructor
  · intro hfills
    obtain ⟨p, hp, hid, -, hname | ⟨hlink, halias⟩⟩ := hfills
    · exact hkey hname.symm
    · exact h.not_exposes hunshared ⟨key, p, hp, hid, hlink, halias⟩
  · intro hfills
    obtain ⟨p, hp, -, -, hexposed | ⟨-, halias⟩⟩ := hfills
    · exact h.ne_of_declared hunshared hp hexposed
    · exact hkey (aliasOf?_inj halias h.named)

theorem not_identifier (h : t.Relates name exposed target) (hunshared : t.Unshared) :
    Resource.isIdentifier t name = false ∧ Resource.isIdentifier t exposed = false := by
  obtain ⟨p, hp, hid, -⟩ := h.declared
  exact ⟨by simp [Resource.isIdentifier, hp, hid],
    by simp [Resource.isIdentifier, hunshared _ h.exposes]⟩

end Relates

end ResourceType

namespace Resource
open Filling (Answers)

/-- Nothing is exposed for an unset id, null for null, and for an id the resource that has it. -/
structure Agrees (registry : Registry) (target : String) (id exposed : FieldValue) : Prop where
  unset : id = .unset → exposed = .unset
  null : id = .scalar .null → exposed = .scalar .null
  resource : ∀ v, id = .scalar v → v.isNull = false → v.asArr? = none → v.asObj? = none →
    ∃ s, exposed = .resource s ∧ registry.get target = .ok s.type ∧ s.id.same v = true

def HoldsOnly (registry : Registry) (target : String) (v : FieldValue) : Prop :=
  ∀ s ∈ v.held, registry.get target = .ok s.type

section Values
variable {registry : Registry} {target : String} {now : Nat} {held : FieldValue} {payload : Json}

theorem agrees_unset : Agrees registry target .unset .unset :=
  ⟨fun _ => rfl, by simp, fun _ h => by cases h⟩

theorem agrees_of_id {v : FieldValue} (hnull : payload.isNull = false)
    (h : payload.asArr? = none → payload.asObj? = none →
      ∃ s, v = .resource s ∧ registry.get target = .ok s.type ∧ s.id.same payload = true) :
    Agrees registry target (.scalar payload) v := by
  refine ⟨by simp, ?_, ?_⟩
  · intro hid
    cases hid
    cases hnull
  · intro id hid _ harr hobj
    cases hid
    exact h harr hobj

theorem holdsOnly_unset : HoldsOnly registry target .unset := fun _ h => by cases h

theorem relate_holdsOnly (hheld : HoldsOnly registry target held) :
    Answers (relate registry target held payload (fillObject registry now payload)
      (fillItems registry now payload)) (HoldsOnly registry target) := by
  have hstable : ∀ {r s : Resource}, SameIdentity r s → registry.get target = .ok r.type →
      registry.get target = .ok s.type := by
    intro r s hsame hr
    rw [hsame.type, hr]
  refine relate_answers ?_ (fillObject_fillKeeps hstable payload)
    (fillItems_fillKeeps hstable payload) hheld payload
  intro type id s htype hs
  rw [handle_eq hs]
  exact htype

theorem same_of_heldById? {id : Json} {s : Resource} (h : heldById? id held = some s) :
    s.id.same id = true := by
  cases held with
  | resource r =>
    obtain ⟨hsame, hr⟩ := Option.ite_none_right_eq_some.mp h
    cases hr
    exact hsame
  | _ => cases h

theorem relateOne_same {target : ResourceType} {id : Json} {held? : Option Resource}
    (hheld : ∀ s, held? = some s → s.id.same id = true) :
    Answers (relateOne target held? id payload (fillObject registry now payload))
      fun s => s.id.same id = true := by
  have hstable : ∀ {r s : Resource}, SameIdentity r s → r.id.same id = true → s.id.same id = true := by
    intro r s hsame hr
    rwa [hsame.id]
  refine relateOne_answers (fun _ s hs => ?_) (fillObject_fillKeeps hstable payload) hheld payload
  rw [handle_eq hs]
  exact id.same_refl

theorem relate_scalar (hnull : payload.isNull = false) (harr : payload.asArr? = none)
    (hobj : payload.asObj? = none) :
    Answers (relate registry target held payload (fillObject registry now payload)
      (fillItems registry now payload)) fun v => ∃ s, v = .resource s ∧ s.id.same payload = true := by
  have hid : ∀ type, referredId? type payload = some payload := by
    intro type
    cases payload with
    | null => cases hnull
    | arr _ => cases harr
    | obj _ => cases hobj
    | _ => rfl
  unfold relate
  refine (Answers.ofExcept (Q := fun _ => True) fun _ _ => trivial).bind fun type _ => ?_
  split
  · cases harr
  · rw [hid]
    exact (relateOne_same fun s hs => same_of_heldById? hs).bind fun s hs => .pure ⟨s, rfl, hs⟩

theorem relate_agrees (hheld : HoldsOnly registry target held) (hnull : payload.isNull = false) :
    Answers (relate registry target held payload (fillObject registry now payload)
      (fillItems registry now payload)) fun v =>
        HoldsOnly registry target v ∧ Agrees registry target (.scalar payload) v := by
  by_cases hscalar : payload.asArr? = none ∧ payload.asObj? = none
  · refine ((relate_holdsOnly hheld).and (relate_scalar hnull hscalar.1 hscalar.2)).mono ?_
    intro v hv
    obtain ⟨honly, s, rfl, hsame⟩ := hv
    exact ⟨honly, agrees_of_id hnull fun _ _ => ⟨s, rfl, honly s List.mem_cons_self, hsame⟩⟩
  · refine (relate_holdsOnly hheld).mono fun v hv => ⟨hv, agrees_of_id hnull fun harr hobj => ?_⟩
    exact absurd ⟨harr, hobj⟩ hscalar

end Values

/-! ## Entries and payloads -/

section Payloads
variable {registry : Registry} {now : Nat} {r s : Resource} {log log' : Log}
  {name exposed target : String}

theorem fillField_agrees (hrel : r.type.Relates name exposed target)
    (hheld : HoldsOnly registry target (r.peek exposed)) (payload : Json) (log : Log) :
    (fillField registry name payload (fillObject registry now payload)
      (fillItems registry now payload)).Yields (r, log) fun result t => result = .ok () →
        HoldsOnly registry target (t.1.peek exposed) ∧
          Agrees registry target (t.1.peek name) (t.1.peek exposed) := by
  obtain ⟨⟨p, hp, hid, hlink⟩, halias⟩ := hrel
  have hne := ResourceType.aliasOf?_ne halias
  have hwritten : ∀ (t : Resource) v, HoldsOnly registry target v →
      Agrees registry target (.scalar payload) v →
      HoldsOnly registry target (((t.put exposed v).put name (.scalar payload)).peek exposed) ∧
        Agrees registry target (((t.put exposed v).put name (.scalar payload)).peek name)
          (((t.put exposed v).put name (.scalar payload)).peek exposed) := by
    intro t v hv hagrees
    rw [peek_put_self, peek_put_of_ne _ _ hne, peek_put_self]
    exact ⟨hv, hagrees⟩
  unfold fillField
  apply Step.yields_read_bind.mpr
  simp only [hp, hid, hlink, halias, Bool.false_eq_true, if_false]
  split
  · rename_i hnull
    intro _
    refine hwritten r _ (fun _ h => by cases h) ⟨by simp, fun _ => rfl, fun v hv hv' => ?_⟩
    cases hv
    cases hnull.symm.trans hv'
  · rename_i hnull
    refine take_then (relate_agrees hheld (Bool.eq_false_iff.mpr hnull)) ?_ ?_
    · exact fun v _ hv _ => hwritten _ v hv.1 hv.2
    · exact fun e _ h => by cases h

/-- By induction over the entries: those of other keys leave both fields as they are. -/
theorem fillFields_agrees {fields : List (String × Json)} (hrel : r.type.Relates name exposed target)
    (hunshared : r.type.Unshared) (hheld : HoldsOnly registry target (r.peek exposed))
    (h : fillFields registry now fields (r, log) = (.ok (), s, log')) :
    HoldsOnly registry target (s.peek exposed) ∧
      (Agrees registry target (r.peek name) (r.peek exposed) ∨ (∃ v, (name, v) ∈ fields) →
        Agrees registry target (s.peek name) (s.peek exposed)) := by
  induction fields generalizing r log with
  | nil =>
    cases h
    refine ⟨hheld, fun hbefore => ?_⟩
    rcases hbefore with hagrees | ⟨_, hmem⟩
    · exact hagrees
    · cases hmem
  | cons entry rest ih =>
    obtain ⟨key, payload⟩ := entry
    rw [fillFields_cons] at h
    obtain ⟨_, ⟨m, log₁⟩, hentry, hrest⟩ := Step.bind_eq_ok.mp h
    have hframe := ((fillField_yields registry _ _ r key payload log).of_eq hentry).frame
    have hrel' : m.type.Relates name exposed target := hframe.type ▸ hrel
    have hunshared' : m.type.Unshared := hframe.type ▸ hunshared
    by_cases hkey : key = name
    · subst hkey
      obtain ⟨hm, hagrees⟩ := (fillField_agrees hrel hheld payload log).of_eq hentry rfl
      obtain ⟨hs, hlater⟩ := ih hrel' hunshared' hm hrest
      exact ⟨hs, fun _ => hlater (.inl hagrees)⟩
    · obtain ⟨hname, hexposed⟩ := hrel.not_fills hunshared hkey
      have hm := ih hrel' hunshared' (by rwa [hframe.kept _ hexposed]) hrest
      rw [hframe.kept _ hname, hframe.kept _ hexposed] at hm
      refine ⟨hm.1, fun hbefore => hm.2 (hbefore.imp_right fun hmem => ?_)⟩
      obtain ⟨v, hmem⟩ := hmem
      rcases List.mem_cons.mp hmem with heq | hmem
      · exact absurd (congrArg Prod.fst heq).symm hkey
      · exact ⟨v, hmem⟩

end Payloads

end Resource
end CloudClient
