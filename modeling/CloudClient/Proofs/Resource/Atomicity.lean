import CloudClient.Proofs.Resource.Reachable

/-!
# What a failed population leaves

Populating is not undone when it fails. It fails before anything is written, on a payload that is no
object, or at a relation whose reference cannot be resolved: then the entries before it are written,
the resources that the relation held are gone, and nothing else has changed, neither another field
nor whether and from what the resource was populated and which names were edited.
-/

namespace CloudClient.Resource
variable {client : Client} {r s : Resource} {w w' : World}

/-- What a payload that was not filled to its end made of a resource. -/
structure Interrupted (client : Client) (r : Resource) (w : World) (payload : Json) (s : Resource) :
    Prop where
  rest : s = { r with fields := s.fields }
  kept : ∀ name, (∀ fields, payload = .obj fields → ¬ FilledBy r.type fields name) →
    s.peek name = r.peek name
  cause : payload.asObj? = none ∧ s = r ∨
    ∃ before key value after slot m w', payload = .obj (before ++ (key, value) :: after) ∧
      populate client (.obj before) (r, w) = (.ok (), m, w') ∧ r.type.slot? key = some slot ∧
      value.isNull = false ∧ s.fields = (m.remove slot).fields

theorem slug_handle (hregistry : client.registry.Sound) (hr : Registered client.registry r)
    {name target : String} {p : Property} (hp : r.type.property? name = some p)
    (hlink : p.link = .slug target) (payload : Json) :
    ∃ type s, client.registry.get target = .ok type ∧ handle type payload none = .ok s := by
  obtain ⟨key, hkey⟩ := hr
  obtain ⟨type, htype, hlength⟩ := hregistry.linked hkey hp (by rw [hlink]; rfl)
  have hzero : 0 = type.parentIds.length := by simpa [hlink, Registry.parentsNeeded, Link.isDerived]
    using hlength.symm
  refine ⟨type, identified type payload none, htype, ?_⟩
  simp [handle, Endpoint.checkParent, Endpoint.parentCount, ← hzero]

theorem EntryOutcome.error_eq (hregistry : client.registry.Sound)
    (hr : Registered client.registry r) {Q : Resource → Prop} {key : String} {value : Json}
    {e : Error} (h : EntryOutcome client.registry Q r key value (.error e) s) :
    ∃ slot, r.type.slot? key = some slot ∧ r.type.Fills key slot ∧ value.isNull = false ∧
      s = r.remove slot := by
  cases h with
  | dropped hp hslot hnull => exact ⟨_, hslot, hp.fills_slot hslot, hnull, rfl⟩
  | refused hp hlink he =>
    obtain ⟨type, s, htype, hs⟩ := slug_handle hregistry hr hp.declared hlink value
    cases (he type htype).symm.trans hs

theorem fillFields_stops (hregistry : client.registry.Sound) (hr : Registered client.registry r)
    {now : Nat} {fields : List (String × Json)} {log log' : Log} {e : Error}
    (h : fillFields client.registry now fields (r, log) = (.error e, s, log')) :
    ∃ before key value after slot m log₁, fields = before ++ (key, value) :: after ∧
      fillFields client.registry now before (r, log) = (.ok (), m, log₁) ∧
      fillField client.registry key value (fillObject client.registry now value)
        (fillItems client.registry now value) (m, log₁) = (.error e, s, log') ∧
      r.type.slot? key = some slot ∧ r.type.Fills key slot ∧ value.isNull = false ∧
      s = m.remove slot := by
  obtain ⟨before, key, value, after, m, log₁, hsplit, hbefore, hentry⟩ := fillFields_error h
  have hm := (fillFields_frame before r log).of_eq hbefore
  have houtcome : EntryOutcome client.registry (fun _ => True) m key value (.error e) s :=
    (fillField_yields client.registry _ _ m key value log₁).of_eq hentry
  have hregistered : Registered client.registry m := by
    obtain ⟨key, hkey⟩ := hr
    exact ⟨key, by rw [hm.type, hkey]⟩
  obtain ⟨slot, hslot, hfills, hnull, hs⟩ := houtcome.error_eq hregistry hregistered
  rw [hm.type] at hslot hfills
  exact ⟨before, key, value, after, slot, m, log₁, hsplit, hbefore, hentry, hslot, hfills, hnull, hs⟩

theorem interrupted_of_populate (hregistry : client.registry.Sound)
    (hr : Registered client.registry r) {payload : Json} {e : Error}
    (h : populate client payload (r, w) = (.error e, s, w')) :
    Interrupted client r w payload s := by
  obtain ⟨log, hfill, rfl⟩ := populate_eq.mp h
  cases payload with
  | obj fields =>
    rw [fill_obj] at hfill
    rcases Step.bind_eq_error.mp hfill with hfields | ⟨_, t, -, hmark⟩
    · have hframe := (fillFields_frame fields r w.log).of_eq hfields
      obtain ⟨before, key, value, after, slot, m, log₁, hsplit, hbefore, -, hslot, -, hnull, hs⟩ :=
        fillFields_stops hregistry hr hfields
      have hpopulate : populate client (.obj before) (r, w) =
          (.ok (), m.populatedFrom w.now (.obj before), { w with log := log₁ }) := by
        refine populate_eq.mpr ⟨log₁, ?_, rfl⟩
        rw [fill_obj, Step.bind_of_ok hbefore]
        rfl
      refine ⟨hframe.rest, fun name hname => hframe.kept name (hname fields rfl), .inr ?_⟩
      refine ⟨before, key, value, after, slot, _, _, by rw [hsplit], hpopulate, hslot, hnull, ?_⟩
      rw [hs]
      rfl
    · cases hmark
  | _ =>
    have hs : s = r := by
      cases hfill
      rfl
    subst hs
    exact ⟨by cases s; rfl, fun _ _ => rfl, .inl ⟨rfl, rfl⟩⟩

/-- What a failed fetch can do to a resource: nothing, or what a failed population from an answer
that was accepted does. -/
def FetchFailed (client : Client) (r : Resource) (w : World) (s : Resource) : Prop :=
  s = r ∨ ∃ path answer w₁, r.endpoint = .ok path ∧
    client.get path none w = (.ok answer, w₁) ∧ Interrupted client r w₁ answer s

theorem Fetched.failed_of_error (hregistry : client.registry.Sound)
    (hr : Registered client.registry r) {e : Error} {t : Resource × World}
    (h : Fetched client r w (.error e) t) : FetchFailed client r w t.1 := by
  cases h with
  | failed => exact .inl rfl
  | answered hpath hget h =>
    exact .inr ⟨_, _, _, hpath, hget, interrupted_of_populate hregistry hr h⟩

def brokenPayload : Json := .obj [("label", .str "web"), ("peer_id", .obj [])]

theorem populate_broken : populate (clientOf .nodeRegistry) brokenPayload (node, offline) =
    (.error (.unexpectedResponse "Node reference has no 'id'" (.obj [])),
      (node.put "label" (.scalar (.str "web"))).remove "peer", offline) := by
  rfl

/-- What a failure leaves, whether a payload is given or fetched by a refresh or a read. -/
theorem failed_population {sources : List String}
    (h : Registry.ofSources sources = .ok client.registry) (hr : Reachable client r) :
    (∀ payload w e s w', populate client payload (r, w) = (.error e, s, w') →
      Interrupted client r w payload s) ∧
    (∀ w e s w', refresh client (r, w) = (.error e, s, w') → FetchFailed client r w s) ∧
    (∀ name w e s w', get client name (r, w) = (.error e, s, w') → FetchFailed client r w s) := by
  have hregistry := Registry.ofSources_sound h
  have hregistered := hr.registered hregistry
  refine ⟨fun payload w e s w' hpopulate => ?_, fun w e s w' hrefresh => ?_,
    fun name w e s w' hget => ?_⟩
  · exact interrupted_of_populate hregistry hregistered hpopulate
  · exact ((refresh_fetched client r w).of_eq hrefresh).failed_of_error hregistry hregistered
  · have hread := (get_read client name r w).of_eq hget
    generalize hresult : (.error e : Except Error FieldValue) = result at hread
    cases hread with
    | refused => exact .inl rfl
    | known => cases hresult
    | listed => cases hresult
    | @fetched _ result _ _ _ _ _ hfetched =>
      cases result with
      | ok _ => cases hresult
      | error e => exact hfetched.failed_of_error hregistry hregistered

theorem failed_population_node :
    Registry.ofSources [Registry.nodeSource] = .ok (clientOf .nodeRegistry).registry ∧
      Interrupted (clientOf .nodeRegistry) node offline brokenPayload
        ((node.put "label" (.scalar (.str "web"))).remove "peer") :=
  ⟨Registry.nodeSource_accepted, (failed_population Registry.nodeSource_accepted node_reachable).1
    brokenPayload offline _ _ _ populate_broken⟩

/-! ## A population that is not undone -/

def AllOrNothing (client : Client) : Prop :=
  ∀ r payload w e s w', Reachable client r →
    populate client payload (r, w) = (.error e, s, w') → s = r

theorem not_allOrNothing :
    Registry.ofSources [Registry.nodeSource] = .ok (clientOf .nodeRegistry).registry ∧
      ¬ AllOrNothing (clientOf .nodeRegistry) := by
  refine ⟨Registry.nodeSource_accepted, fun h => ?_⟩
  have hsame := h node brokenPayload offline _ _ _ node_reachable populate_broken
  have hlabel : node.peek "label" = .scalar (.str "web") := by
    rw [← hsame]
    rfl
  cases hlabel

end CloudClient.Resource
