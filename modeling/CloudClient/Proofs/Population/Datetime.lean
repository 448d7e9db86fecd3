import CloudClient.Proofs.Population.Nested

/-!
# Timestamps in fields

A field of timestamps takes a text that reads as a timestamp for it, and any other text for itself.
Many texts stand for one timestamp, and the one that is written is taken for it by every such field,
so that a field that was sent and received again holds what it held.
-/

namespace CloudClient.Resource

structure TakesDatetimes (t : ResourceType) (name : String) (p : Property) : Prop
    extends Declares t name p where
  plain : p.link = .plain
  dated : p.datetime = true

/-- A field takes a value of a payload for another, whatever the resource holds, and taking it
changes nothing of the resource. -/
def TakenFor (name : String) (p : Property) (payload : Json) (v : FieldValue) : Prop :=
  ∀ r log, ∃ log', plainValue name p payload (r, log) = (.ok v, r, log')

/-- Populating with an entry leaves a value in its field. Alone the entry is always accepted; among
others it counts if none after it fills the field. -/
structure Populates (client : Client) (t : ResourceType) (name : String) (payload : Json)
    (v : FieldValue) : Prop where
  alone : ∀ r w, r.type = t →
    ∃ s w', populate client (.obj [(name, payload)]) (r, w) = (.ok (), s, w')
  held : ∀ (r s : Resource) (before after : List (String × Json)) (w w' : World), r.type = t →
    populate client (.obj (before ++ (name, payload) :: after)) (r, w) = (.ok (), s, w') →
    (∀ entry ∈ after, ¬ t.Fills entry.1 name) → s.peek name = v

variable {client : Client} {t : ResourceType} {name : String} {p : Property} {payload : Json}
  {v v' : FieldValue} {d : Datetime} {s : String}

/-! ## What a field makes of a text -/

theorem TakenFor.unique (h : TakenFor name p payload v) (h' : TakenFor name p payload v') :
    v = v' := by
  obtain ⟨_, hv⟩ := h default []
  obtain ⟨_, hv'⟩ := h' default []
  cases hv.symm.trans hv'
  rfl

theorem takenFor_datetime (name : String) (hdated : p.datetime = true)
    (hread : Datetime.parse? s.toList = some d) : TakenFor name p (.str s) (.datetime d) := by
  intro r log
  refine ⟨log, ?_⟩
  simp only [plainValue, hdated, if_true, hread]
  rfl

theorem takenFor_text (name : String) (hdated : p.datetime = true)
    (hread : Datetime.parse? s.toList = none) : TakenFor name p (.str s) (.scalar (.str s)) := by
  intro r log
  simp only [plainValue, hdated, if_true, hread]
  exact ⟨_, rfl⟩

theorem takenFor_datetime_iff (hdated : p.datetime = true) :
    TakenFor name p (.str s) (.datetime d) ↔ Datetime.parse? s.toList = some d := by
  refine ⟨fun h => ?_, takenFor_datetime name hdated⟩
  cases hread : Datetime.parse? s.toList with
  | none => cases h.unique (takenFor_text name hdated hread)
  | some d' =>
    cases h.unique (takenFor_datetime name hdated hread)
    rfl

theorem takenFor_text_of_isValid (hfield : TakesDatetimes t name p) (hvalid : d.isValid = true) :
    TakenFor name p (.str (String.ofList d.text)) (.datetime d) := by
  refine takenFor_datetime name hfield.dated ?_
  rw [String.toList_ofList]
  exact Datetime.parse?_text hvalid

/-! ## Populating -/

theorem fillField_takenFor {r : Resource} (hp : Declares r.type name p) (hlink : p.link = .plain)
    (h : TakenFor name p payload v) (registry : Registry) (fill : Filling Unit)
    (items : List (Json × Filling Unit)) (log : Log) :
    ∃ log', fillField registry name payload fill items (r, log) = (.ok (), r.put name v, log') := by
  obtain ⟨log', hv⟩ := h r log
  refine ⟨log', ?_⟩
  unfold fillField
  rw [Step.bind_of_ok (Step.read_apply _ _)]
  simp only [hp.declared, hp.changes, hlink]
  exact Step.bind_of_ok hv

theorem populates_of_takenFor (hp : Declares t name p) (hlink : p.link = .plain)
    (h : TakenFor name p payload v) : Populates client t name payload v := by
  refine ⟨fun r w ht => ?_, fun r s before after w w' ht hpopulate hafter => ?_⟩
  · subst ht
    obtain ⟨log, hentry⟩ := fillField_takenFor hp hlink h client.registry
      (fillObject client.registry w.now payload) (fillItems client.registry w.now payload) w.log
    refine ⟨_, _, populate_eq_ok.mpr ⟨_, r.put name v, log, rfl, ?_, rfl, rfl⟩⟩
    rw [fillFields_cons, Step.bind_of_ok hentry]
    rfl
  · subst ht
    obtain ⟨_, s₀, log, hobj, hfields, rfl, -⟩ := populate_eq_ok.mp hpopulate
    cases hobj
    rw [fillFields_append, fillFields_cons] at hfields
    obtain ⟨_, ⟨m, log₁⟩, hbefore, hfields⟩ := Step.bind_eq_ok.mp hfields
    obtain ⟨_, ⟨m', log₂⟩, hentry, hlast⟩ := Step.bind_eq_ok.mp hfields
    have hm : m.type = r.type := ((fillFields_frame before r w.log).of_eq hbefore).type
    obtain ⟨_, hentry'⟩ := fillField_takenFor (hm ▸ hp) hlink h client.registry
      (fillObject client.registry w.now payload) (fillItems client.registry w.now payload) log₁
    cases hentry.symm.trans hentry'
    have hs := (fillFields_frame after _ log₂).of_eq hlast
    refine (hs.kept name fun hfilled => ?_).trans (peek_put_self m name v)
    obtain ⟨entry, hmem, hfills⟩ := hfilled
    exact hafter entry hmem (hm ▸ hfills)

/-- What a field of timestamps reads as a timestamp is sent as a text that every such field takes for
the same timestamp, and sends as the same text. The text of any timestamp, of whatever year and in a
leap second too, populates the field with it, and a text that does not read as one is kept. -/
theorem datetimes_survive (hfield : TakesDatetimes t name p) :
    (∀ payload v, TakenFor name p payload v → Populates client t name payload v) ∧
    (∀ s d, TakenFor name p (.str s) (.datetime d) →
      ∃ text, (FieldValue.datetime d).toJson = .str text ∧
        ∀ t' name' p', TakesDatetimes t' name' p' → TakenFor name' p' (.str text) (.datetime d) ∧
          ∀ v, TakenFor name' p' (.str text) v → v.toJson = .str text) ∧
    (∀ d : Datetime, d.isValid = true →
      Populates client t name (FieldValue.datetime d).toJson (.datetime d)) ∧
    ∀ s, (¬ ∃ d, TakenFor name p (.str s) (.datetime d)) →
      TakenFor name p (.str s) (.scalar (.str s)) ∧ (FieldValue.scalar (.str s)).toJson = .str s := by
  have hpopulates : ∀ payload v, TakenFor name p payload v → Populates client t name payload v :=
    fun _ _ => populates_of_takenFor hfield.toDeclares hfield.plain
  refine ⟨hpopulates, fun s d hs => ?_, fun d hvalid => ?_, fun s hnot => ⟨?_, rfl⟩⟩
  · have hvalid := Datetime.isValid_of_parse? ((takenFor_datetime_iff hfield.dated).mp hs)
    refine ⟨_, rfl, fun t' name' p' hfield' => ?_⟩
    have hsame := takenFor_text_of_isValid hfield' hvalid
    exact ⟨hsame, fun v hv => hsame.unique hv ▸ rfl⟩
  · exact hpopulates _ _ (takenFor_text_of_isValid hfield hvalid)
  · cases hread : Datetime.parse? s.toList with
    | none => exact takenFor_text name hfield.dated hread
    | some d => exact absurd ⟨d, takenFor_datetime name hfield.dated hread⟩ hnot

/-! ## A task -/

theorem takesDatetimes_due :
    TakesDatetimes taskType "due" { mutable := true, datetime := true } :=
  { declared := rfl, changes := rfl, plain := rfl, dated := rfl }

theorem datetimes_survive_due :
    TakesDatetimes taskType "due" { mutable := true, datetime := true } ∧
      TakenFor "due" { mutable := true, datetime := true } (.str " -44-3- 15T7:5:60")
        (.datetime ⟨-44, 3, 15, 7, 5, 60⟩) ∧
      (FieldValue.datetime ⟨-44, 3, 15, 7, 5, 60⟩).toJson = .str "-0044-03-15T07:05:60" ∧
      TakenFor "due" { mutable := true, datetime := true } (.str "-0044-03-15T07:05:60")
        (.datetime ⟨-44, 3, 15, 7, 5, 60⟩) ∧
      (⟨10000, 2, 29, 0, 0, 0⟩ : Datetime).isValid = true ∧
      (∀ w, ∃ s w', populate (clientOf taskRegistry)
        (.obj [("due", .str "+10000-02-29T00:00:00")]) (task, w) = (.ok (), s, w') ∧
          s.peek "due" = .datetime ⟨10000, 2, 29, 0, 0, 0⟩) ∧
      TakenFor "due" { mutable := true, datetime := true } (.str "10000-02-29T00:00:00")
        (.scalar (.str "10000-02-29T00:00:00")) := by
  obtain ⟨-, hsent, hvalid, hkept⟩ :=
    @datetimes_survive (clientOf taskRegistry) _ _ _ takesDatetimes_due
  have hread : TakenFor "due" { mutable := true, datetime := true } (.str " -44-3- 15T7:5:60")
      (.datetime ⟨-44, 3, 15, 7, 5, 60⟩) := takenFor_datetime _ rfl (by decide +kernel)
  obtain ⟨text, htext, hagain⟩ := hsent _ _ hread
  have htext' : (FieldValue.datetime ⟨-44, 3, 15, 7, 5, 60⟩).toJson =
      .str "-0044-03-15T07:05:60" := by
    rw [FieldValue.toJson]
    exact congrArg Json.str (by decide +kernel)
  cases htext.symm.trans htext'
  have hyear : (⟨10000, 2, 29, 0, 0, 0⟩ : Datetime).isValid = true := by decide
  have hpopulates := hvalid _ hyear
  have hlong : (FieldValue.datetime ⟨10000, 2, 29, 0, 0, 0⟩).toJson =
      .str "+10000-02-29T00:00:00" := by
    rw [FieldValue.toJson]
    exact congrArg Json.str (by decide +kernel)
  rw [hlong] at hpopulates
  refine ⟨takesDatetimes_due, hread, htext', (hagain _ _ _ takesDatetimes_due).1, hyear,
    fun w => ?_, (hkept _ fun hdated => ?_).1⟩
  · obtain ⟨s, w', hpopulate⟩ := hpopulates.alone task w rfl
    exact ⟨s, w', hpopulate, hpopulates.held _ _ [] [] _ _ rfl hpopulate nofun⟩
  · obtain ⟨d, hd⟩ := hdated
    have hnone : Datetime.parse? "10000-02-29T00:00:00".toList = none := by decide +kernel
    cases hnone.symm.trans ((takenFor_datetime_iff rfl).mp hd)

end CloudClient.Resource
