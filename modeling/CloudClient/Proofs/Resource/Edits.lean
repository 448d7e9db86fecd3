import CloudClient.Proofs.Exchange
import CloudClient.Proofs.Resource.Reachable

/-!
# Unsaved edits

What was set and not yet saved is kept by a read that finds it, or that fetches a payload without an
entry for it. A fetched payload with such an entry replaces it, since populating takes over every
field that the payload names, and listing a derived collection anew replaces what was set there.
-/

namespace CloudClient.Resource
variable {client : Client} {r s t : Resource} {w w' : World}

/-- Reads that succeed, one after another at any times and over any networks, each of which meets a
condition. -/
inductive Reads (client : Client) (C : Resource → World → String → Resource → Prop) (r : Resource) :
    Resource → Prop
  | none : Reads client C r r
  | read {s t : Resource} {name : String} {value : FieldValue} {w w' : World}
      (hs : Reads client C r s) (h : get client name (s, w) = (.ok value, t, w'))
      (hC : C s w name t) : Reads client C r t

/-- Whether a read writes a field: it lists the field anew, or it fetches a payload that has an entry
for the field. -/
def Overwrites (client : Client) (field : String) (s : Resource) (w : World) (name : String)
    (t : Resource) : Prop :=
  ∃ p, s.describe name = .ok p ∧ p.identifier = false ∧
    (p.link.isDerived = true ∧ name = field ∨
      p.link.isDerived = false ∧ s.needsFetch name p client.refreshSeconds w.now = true ∧
        ∃ fields, t.raw? = some (.obj fields) ∧ FilledBy s.type fields field)

/-! ## One read -/

theorem populate_ok {payload : Json} (h : populate client payload (r, w) = (.ok (), s, w')) :
    ∃ fields, payload = .obj fields ∧ s.raw? = some payload ∧ s.type = r.type ∧
      ∀ name, ¬ FilledBy r.type fields name → s.peek name = r.peek name := by
  obtain ⟨log, hfill, -⟩ := populate_eq.mp h
  obtain ⟨fields, m, rfl, hfields, rfl⟩ := fill_eq_ok.mp hfill
  have hframe := (fillFields_frame fields r w.log).of_eq hfields
  exact ⟨fields, rfl, rfl, hframe.type, hframe.kept⟩

theorem get_keeps {name field : String} {value : FieldValue}
    (h : get client name (s, w) = (.ok value, t, w'))
    (hquiet : ¬ Overwrites client field s w name t) :
    t.type = s.type ∧ t.peek field = s.peek field := by
  have hread := (get_read client name s w).of_eq h
  generalize hresult : (.ok value : Except Error FieldValue) = result at hread
  cases hread with
  | refused => cases hresult
  | known => exact ⟨rfl, rfl⟩
  | listed hp hid hlink _ =>
    refine ⟨rfl, peek_put_of_ne s _ ?_⟩
    intro hname
    subst hname
    exact hquiet ⟨_, hp, hid, .inl ⟨by rw [hlink]; rfl, rfl⟩⟩
  | @fetched p result _ hp hid hlink hneeds hfetched =>
    cases hfetched with
    | failed => cases hresult
    | @answered _ _ _ result _ _ _ hpopulate =>
      cases result with
      | error e => cases hresult
      | ok _ =>
        obtain ⟨fields, rfl, hraw, htype, hkept⟩ := populate_ok hpopulate
        refine ⟨htype, hkept field fun hfilled => ?_⟩
        exact hquiet ⟨p, hp, hid, .inr ⟨hlink, hneeds, fields, hraw, hfilled⟩⟩

/-! ## The body of an update -/

theorem key_of_bodyEntry? {name : String} {q : Property} {entry : String × Json}
    (h : bodyEntry? r name q = some entry) : entry.1 = name := by
  simp only [ bodyEntry?] at h
  split at h
  · cases h
    rfl
  · cases h

theorem get?_bodyEntries {field : String} {p : Property} {properties : Dict Property}
    (hp : properties.get? field = some p) (hmutable : p.mutable = true)
    (hsent : isSent p (r.peek field) = true) :
    Dict.get? (properties.filterMap fun (name, q) => bodyEntry? r name q) field =
      some (r.peek field).toJson := by
  induction properties with
  | nil => cases hp
  | cons entry rest ih =>
    obtain ⟨name, q⟩ := entry
    simp only [Dict.get?] at hp
    split at hp
    · rename_i hname
      cases hp
      subst hname
      simp [ bodyEntry?, hmutable, hsent, Dict.get?]
    · rename_i hname
      rw [List.filterMap_cons]
      cases hentry : bodyEntry? r name q with
      | none => simpa only [hentry] using ih hp
      | some entry =>
        obtain ⟨key, body⟩ := entry
        cases key_of_bodyEntry? hentry
        simpa [hentry, Dict.get?, hname] using ih hp

theorem get?_updateBody {field : String} {p : Property} (hp : r.type.property? field = some p)
    (hmutable : p.mutable = true) (hsent : isSent p (r.peek field) = true) :
    r.updateBody.get? field = some (r.peek field).toJson :=
  get?_bodyEntries hp hmutable hsent

def SendsUpdate (r : Resource) (before after : List Request) : Prop :=
  after = before ∨ ∃ request, after = before ++ [request] ∧ request.method = .put ∧
    request.body? = some r.updateBody.compact

theorem put_sends (client : Client) (path : String) (r : Resource) (w : World) :
    (client.put path r.updateBody).Yields w fun _ w' => SendsUpdate r w.sent w'.sent := by
  unfold Client.put
  cases hurl : client.url path with
  | error e => exact .inl rfl
  | ok url =>
    refine Step.yields_ok_bind.mpr ((Exchange.send_sent _ w).mono fun _ _ h => ?_)
    cases h with
    | withheld => exact .inl rfl
    | refused => exact .inr ⟨_, rfl, rfl, rfl⟩
    | accepted => exact .inr ⟨_, rfl, rfl, rfl⟩

/-- Neither the notes around the exchange nor the change that follows it send anything. -/
theorem asking_sends {Q : List Request → Prop} {send : String → Step World Json}
    {change : Resource → Resource} {message refusal : String}
    (hnone : ∀ e, r.endpoint = .error e → Q w.sent)
    (hsend : ∀ path, r.endpoint = .ok path → ∀ log,
      (send path).Yields { w with log } fun _ w₁ => Q w₁.sent) :
    (asking r message refusal send change).Yields (r, w) fun _ u => Q u.2.sent := by
  unfold asking
  cases hpath : r.endpoint with
  | error e => exact hnone e hpath
  | ok path =>
    apply Step.yields_ok_bind.mpr
    refine .second_bind (fun _ w₁ hnote => ?_) fun _ w₁ hnote => by cases hnote
    cases hnote
    have hsent := hsend path hpath (w.log ++ [⟨.info, message⟩])
    refine .second_bind (fun answer w₂ hanswer => ?_) fun e w₂ hanswer => hsent.of_eq hanswer
    have hQ : Q w₂.sent := hsent.of_eq hanswer
    unfold settle
    split
    · refine .second_bind (fun _ w₃ hwarn => ?_) fun _ w₃ hwarn => by cases hwarn
      cases hwarn
      exact hQ
    · exact hQ

theorem save_sends (client : Client) (r : Resource) (w : World) :
    (save client).Yields (r, w) fun _ u => SendsUpdate r w.sent u.2.sent := by
  refine .congr (asking_sends (Q := SendsUpdate r w.sent) ?_ ?_) (save_eq client r w)
  · exact fun _ _ => .inl rfl
  · exact fun path _ log => put_sends client path r { w with log }

/-! ## Edits and reads -/

theorem Reads.keeps {field : String}
    (h : Reads client (fun s w name t => ¬ Overwrites client field s w name t) s t) :
    t.type = s.type ∧ t.peek field = s.peek field := by
  induction h with
  | none => exact ⟨rfl, rfl⟩
  | read _ hget hquiet ih =>
    obtain ⟨htype, hpeek⟩ := get_keeps hget hquiet
    exact ⟨htype.trans ih.1, hpeek.trans ih.2⟩

/-- What was set goes into the update that saving sends, if no read since has written the field. -/
theorem edit_survives_reads {field : String} {value : FieldValue}
    (hset : r.set field value = .ok s) (hunset : value.isUnset = false)
    (hnull : value.isNull = false)
    (hreads : Reads client (fun s w name t => ¬ Overwrites client field s w name t) s t) :
    t.updateBody.get? field = some value.toJson ∧
      ∀ w, (save client).Yields (t, w) fun _ u => SendsUpdate t w.sent u.2.sent := by
  refine ⟨?_, save_sends client t⟩
  obtain ⟨p, hp, hmutable, rfl⟩ := set_eq_ok hset
  obtain ⟨htype, hpeek⟩ := hreads.keeps
  have hvalue : t.peek field = value := hpeek.trans (peek_put_self r field value)
  have hdeclared : t.type.property? field = some p := by rw [htype]; exact hp
  have hsent : isSent p (t.peek field) = true := by simp [isSent, hvalue, hunset, hnull]
  rw [get?_updateBody hdeclared hmutable hsent, hvalue]

def editedNode : Resource :=
  { node.put "label" (.scalar (.str "web")) with changed := ["label"] }

theorem edit_survives_reads_label :
    node.set "label" (.scalar (.str "web")) = .ok editedNode ∧
      Reads (clientOf .nodeRegistry)
        (fun s w name t => ¬ Overwrites (clientOf .nodeRegistry) "label" s w name t)
        editedNode editedNode ∧
      editedNode.updateBody.get? "label" = some (.str "web") := by
  have hread : get (clientOf .nodeRegistry) "label" (editedNode, offline) =
      (.ok (.scalar (.str "web")), editedNode, offline) := rfl
  have hquiet : ¬ Overwrites (clientOf .nodeRegistry) "label" editedNode offline "label" editedNode := by
    intro h
    obtain ⟨p, hp, -, ⟨hlink, -⟩ | ⟨-, -, fields, hraw, -⟩⟩ := h
    · cases hp
      cases hlink
    · cases hraw
  have hreads : Reads (clientOf .nodeRegistry)
      (fun s w name t => ¬ Overwrites (clientOf .nodeRegistry) "label" s w name t)
      editedNode editedNode := .read .none hread hquiet
  have hset : node.set "label" (.scalar (.str "web")) = .ok editedNode := rfl
  exact ⟨hset, hreads, (edit_survives_reads hset rfl rfl hreads).1⟩

/-! ## An edit that a read takes back -/

def EditsKept (client : Client) : Prop :=
  ∀ r s t field value, Reachable client r → r.set field value = .ok s → value.isUnset = false →
    value.isNull = false → Reads client (fun _ _ _ _ => True) s t →
    t.updateBody.get? field = some value.toJson

def labelling : World where
  network := fun _ _ => .ofJson (.obj [("label", .str "api")])

theorem not_editsKept :
    Registry.ofSources [Registry.nodeSource] = .ok (clientOf .nodeRegistry).registry ∧
      ¬ EditsKept (clientOf .nodeRegistry) := by
  refine ⟨Registry.nodeSource_accepted, fun h => ?_⟩
  have hfound : (get (clientOf .nodeRegistry) "status" (editedNode, labelling)).1.toOption.isSome =
      true := by decide +kernel
  have hsent : ((get (clientOf .nodeRegistry) "status" (editedNode, labelling)).2.1.updateBody.get?
      "label").bind Json.asStr? = some "api" := by decide +kernel
  generalize hread : get (clientOf .nodeRegistry) "status" (editedNode, labelling) = outcome
    at hfound hsent
  obtain ⟨result, t, w'⟩ := outcome
  cases result with
  | error e => cases hfound
  | ok value =>
    have hreads : Reads (clientOf .nodeRegistry) (fun _ _ _ _ => True) editedNode t :=
      .read .none hread trivial
    have hkept := h node editedNode t "label" (.scalar (.str "web")) node_reachable rfl rfl rfl hreads
    simp [hkept, FieldValue.toJson, Json.asStr?] at hsent

end CloudClient.Resource
