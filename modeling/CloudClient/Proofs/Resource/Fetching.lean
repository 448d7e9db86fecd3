import CloudClient.Proofs.Exchange
import CloudClient.Proofs.Population.Clock
import CloudClient.Proofs.Resource.Reachable

/-!
# When reading fetches

A read of one field sends a request exactly when what is known cannot tell: the field is unset on a
resource that was never populated, or it is volatile and its value is older than the refresh window.
The server that is asked then answers with an object, and the resource is populated at that time.
-/

namespace CloudClient.Resource
variable {client : Client} {r s t : Resource} {w w' : World} {name : String} {p : Property}

/-! ## One fetch -/

def address (client : Client) (r : Resource) : Except Error Url := do
  let path ← r.endpoint
  client.url path

def Answered (client : Client) (r : Resource) (w : World) : Prop :=
  ∃ url answer s w', r.address client = .ok url ∧
    Exchange.fault? (client.request .get url) = none ∧
    (w.network w.sent (client.request .get url)).json? = some answer ∧
    populate client answer (r, w) = (.ok (), s, w')

structure Refreshed (r : Resource) (now : Nat) (s : Resource) : Prop where
  type : s.type = r.type
  id : s.id = r.id
  parent : s.parent? = r.parent?
  populated : s.populated = true
  updated : s.updated? = some now

theorem populate_refreshed {payload : Json} (h : populate client payload (r, w) = (.ok (), s, w')) :
    Refreshed r w.now s := by
  have hsame := (populate_sameIdentity client payload r w).of_eq h
  obtain ⟨log, hfill, -⟩ := populate_eq.mp h
  obtain ⟨_, _, -, -, rfl⟩ := fill_eq_ok.mp hfill
  exact ⟨hsame.type, hsame.id, hsame.parent, rfl, rfl⟩

theorem send_answered {request : Request} {answer : Json} (hfault : Exchange.fault? request = none)
    (hanswer : (w.network w.sent request).json? = some answer) :
    ∃ log, Exchange.send request w =
      (.ok answer, { w with sent := w.sent ++ [request], log }) := by
  have hsent := Exchange.send_sent request w
  unfold Step.Yields at hsent
  generalize Exchange.send request w = outcome at hsent
  obtain ⟨result, w'⟩ := outcome
  dsimp only at hsent
  cases hsent with
  | withheld h =>
    rcases h with h | h
    · exact absurd hfault h
    · rw [h] at hanswer
      cases hanswer
  | refused _ h =>
    rw [h] at hanswer
    cases hanswer
  | accepted _ h =>
    cases h.symm.trans hanswer
    exact ⟨_, rfl⟩

theorem refresh_answered (h : Answered client r w) :
    ∃ url s w', r.address client = .ok url ∧ refresh client (r, w) = (.ok (), s, w') ∧
      w'.sent = w.sent ++ [client.request .get url] ∧ Refreshed r w.now s := by
  obtain ⟨url, answer, s, _, haddress, hfault, hanswer, hpopulate⟩ := h
  obtain ⟨path, hpath, hurl⟩ := Except.bind_eq_ok.mp haddress
  obtain ⟨log, hsend⟩ := send_answered hfault hanswer
  have hget : client.get path none w =
      (.ok answer, { w with sent := w.sent ++ [client.request .get url], log }) := by
    unfold Client.get
    rw [hurl]
    exact hsend
  -- the answer fills the resource whatever was logged before it
  obtain ⟨_, hfill, -⟩ := populate_eq.mp hpopulate
  obtain ⟨s', log', hfill', -⟩ := fill_any_time hfill w.now log
  have hpopulated : populate client answer
      (r, { w with sent := w.sent ++ [client.request .get url], log }) =
        (.ok (), s', { w with sent := w.sent ++ [client.request .get url], log := log' }) :=
    populate_eq.mpr ⟨log', hfill', rfl⟩
  have hrefreshed := populate_refreshed hpopulated
  have hrefresh : refresh client (r, w) =
      populate client answer (r, { w with sent := w.sent ++ [client.request .get url], log }) := by
    change (Step.ofExcept r.endpoint >>= fun path => Step.second (client.get path none) >>=
      populate client) (r, w) = _
    rw [hpath, Step.bind_of_ok (Step.ofExcept_apply _ _),
      Step.bind_of_ok (by rw [Step.second_apply, hget])]
  exact ⟨url, s', _, haddress, hrefresh.trans hpopulated, rfl, hrefreshed⟩

/-! ## One read -/

/-- What is known cannot tell what the field holds now. -/
def Due (r : Resource) (name : String) (p : Property) (refreshSeconds now : Nat) : Prop :=
  (r.peek name).isUnset = true ∧ r.populated = false ∨
    p.volatile = true ∧ ∀ last, r.updated? = some last → refreshSeconds * 1000000000 < now - last

theorem needsFetch_iff {refreshSeconds now : Nat} :
    r.needsFetch name p refreshSeconds now = true ↔ r.Due name p refreshSeconds now := by
  have hstale : r.isStale refreshSeconds now = true ↔
      ∀ last, r.updated? = some last → refreshSeconds * 1000000000 < now - last := by
    unfold isStale
    cases r.updated? <;> simp
  simp [needsFetch, Due, hstale]

theorem describe_error {e : Error} (h : r.describe name = .error e) :
    e = .unknownField r.type.displayName name := by
  unfold describe ResourceType.describe at h
  split at h
  · cases h
  · split at h
    · split at h
      · cases h
      · cases h
        rfl
    · cases h
      rfl

theorem get_undeclared {e : Error} (h : r.describe name = .error e) :
    get client name (r, w) = (.error e, r, w) := by
  unfold get
  change (Step.ofExcept (r.describe name) >>= _) (r, w) = _
  rw [h]
  rfl

theorem get_identifier (hp : r.describe name = .ok p) (hid : p.identifier = true) :
    get client name (r, w) = (.ok (r.peek name), r, w) := by
  unfold get
  change (Step.ofExcept (r.describe name) >>= _) (r, w) = _
  rw [hp, Step.bind_of_ok (Step.ofExcept_apply _ _)]
  simp only [hid, if_true]
  rfl

theorem get_plain (hp : r.describe name = .ok p) (hid : p.identifier = false)
    (hlink : p.link.isDerived = false) :
    get client name (r, w) =
      ((if r.needsFetch name p client.refreshSeconds w.now then refresh client else pure ()) >>=
        fun _ => Step.read fun t => t.1.peek name) (r, w) := by
  unfold get
  change (Step.ofExcept (r.describe name) >>= _) (r, w) = _
  rw [hp, Step.bind_of_ok (Step.ofExcept_apply _ _)]
  cases hl : p.link with
  | derived child =>
    rw [hl] at hlink
    cases hlink
  | _ =>
    simp only [hid, Bool.false_eq_true, if_false]
    change (if r.needsFetch name p client.refreshSeconds w.now then _ else _ : Remote FieldValue)
      (r, w) = _
    split <;> rfl

theorem get_known (hp : r.describe name = .ok p) (hid : p.identifier = false)
    (hlink : p.link.isDerived = false) (hdue : ¬ r.Due name p client.refreshSeconds w.now) :
    get client name (r, w) = (.ok (r.peek name), r, w) := by
  rw [get_plain hp hid hlink, if_neg (mt needsFetch_iff.mp hdue)]
  rfl

theorem get_due (hp : r.describe name = .ok p) (hid : p.identifier = false)
    (hlink : p.link.isDerived = false) (hdue : r.Due name p client.refreshSeconds w.now)
    (hanswered : Answered client r w) :
    ∃ url s w', r.address client = .ok url ∧
      get client name (r, w) = (.ok (s.peek name), s, w') ∧
      w'.sent = w.sent ++ [client.request .get url] ∧ Refreshed r w.now s := by
  obtain ⟨url, s, w', haddress, hrefresh, hsent, hs⟩ := refresh_answered hanswered
  refine ⟨url, s, w', haddress, ?_, hsent, hs⟩
  rw [get_plain hp hid hlink, if_pos (needsFetch_iff.mpr hdue), Step.bind_of_ok hrefresh]
  rfl

theorem get_derived (hp : r.describe name = .ok p) (hlink : p.link.isDerived = true) :
    (get client name).Yields (r, w) fun _ u =>
      u.1 = r ∨ ∃ children, u.1 = r.put name (.resources children) := by
  refine (get_read client name r w).mono fun result u hread => ?_
  cases hread with
  | refused => exact .inl rfl
  | known => exact .inl rfl
  | listed => exact .inr ⟨_, rfl⟩
  | fetched hp' _ hlink' _ _ =>
    cases hp.symm.trans hp'
    cases hlink.symm.trans hlink'

end CloudClient.Resource
