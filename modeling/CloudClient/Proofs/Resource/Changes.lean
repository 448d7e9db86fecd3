import CloudClient.Proofs.Listing.Call
import CloudClient.Proofs.Population.Identity
import CloudClient.Proofs.Registry.Validity

/-!
# What operations change

Each operation on a resource has one statement of all that it can do: a fetch populates from an
accepted answer or leaves the resource as it is, a read returns what is known, lists children anew
or fetches, and saving and deleting change what is known only once the server has agreed. None of
them changes the identity of the resource.
-/

namespace CloudClient.Resource
variable {client : Client} {r s : Resource} {w w' : World}

/-! ## Reading -/

theorem populate_eq {payload : Json} {result : Except Error Unit} :
    populate client payload (r, w) = (result, s, w') ↔
      ∃ log, fill client.registry w.now payload (r, w.log) = (result, s, log) ∧
        w' = { w with log } := by
  have happly : populate client payload (r, w) =
      ((fill client.registry w.now payload (r, w.log)).1,
        (fill client.registry w.now payload (r, w.log)).2.1,
        { w with log := (fill client.registry w.now payload (r, w.log)).2.2 }) := rfl
  rw [happly]
  rcases fill client.registry w.now payload (r, w.log) with ⟨result', s', log⟩
  constructor
  · intro h
    cases h
    exact ⟨log, rfl, rfl⟩
  · intro h
    obtain ⟨_, h, rfl⟩ := h
    cases h
    rfl

inductive Fetched (client : Client) (r : Resource) (w : World) :
    Except Error Unit → Resource × World → Prop
  | failed {e : Error} {w' : World} : Fetched client r w (.error e) (r, w')
  | answered {path : String} {answer : Json} {w₁ : World} {result : Except Error Unit}
      {t : Resource × World} (hpath : r.endpoint = .ok path)
      (hget : client.get path none w = (.ok answer, w₁))
      (h : populate client answer (r, w₁) = (result, t)) : Fetched client r w result t

theorem refresh_fetched (client : Client) (r : Resource) (w : World) :
    (refresh client).Yields (r, w) (Fetched client r w) := by
  unfold refresh
  apply Step.yields_read_bind.mpr
  dsimp only
  cases hpath : r.endpoint with
  | error e => exact .failed
  | ok path =>
    apply Step.yields_ok_bind.mpr
    generalize hget : client.get path none w = outcome
    obtain ⟨result, w₁⟩ := outcome
    cases result with
    | error e =>
      apply (Step.yields_bind_of_error (by rw [Step.second_apply, hget])).mpr
      exact .failed
    | ok answer =>
      apply (Step.yields_bind_of_ok (by rw [Step.second_apply, hget])).mpr
      exact .answered hpath hget rfl

inductive Read (client : Client) (name : String) (r : Resource) (w : World) :
    Except Error FieldValue → Resource × World → Prop
  | refused {e : Error} {w' : World} : Read client name r w (.error e) (r, w')
  | known : Read client name r w (.ok (r.peek name)) (r, w)
  | listed {p : Property} {child : String} {children : List Resource} {w' : World}
      (hp : r.describe name = .ok p) (hid : p.identifier = false) (hlink : p.link = .derived child)
      (hlist : client.listAll child (some r.childKey) w = (.ok children, w')) :
      Read client name r w (.ok (.resources children)) (r.put name (.resources children), w')
  | fetched {p : Property} {result : Except Error Unit} {t : Resource × World}
      (hp : r.describe name = .ok p) (hid : p.identifier = false)
      (hlink : p.link.isDerived = false)
      (hneeds : r.needsFetch name p client.refreshSeconds w.now = true)
      (h : Fetched client r w result t) :
      Read client name r w (result.map fun _ => t.1.peek name) t

theorem get_read (client : Client) (name : String) (r : Resource) (w : World) :
    (get client name).Yields (r, w) (Read client name r w) := by
  unfold get
  apply Step.yields_read_bind.mpr
  dsimp only
  cases hp : r.describe name with
  | error e => exact .refused
  | ok p =>
    apply Step.yields_ok_bind.mpr
    split
    · exact .known
    · rename_i hidentifier
      have hid : p.identifier = false := by simpa using hidentifier
      -- a read that is no listing fetches first where what is known cannot tell
      have hfetch : ∀ f : Unit → Remote FieldValue, p.link.isDerived = false →
          (f = fun _ => Step.read fun t => t.1.peek name) →
          (do
            let now ← Step.read fun (t : Resource × World) => t.2.now
            if r.needsFetch name p client.refreshSeconds now then do
              refresh client
              f ()
            else f () : Remote FieldValue).Yields (r, w) (Read client name r w) := by
        intro f hlink hf
        subst hf
        apply Step.yields_read_bind.mpr
        split
        · rename_i hneeds
          refine (refresh_fetched client r w).bind ?_ ?_
          · exact fun _ t ht => .fetched hp hid hlink hneeds ht
          · exact fun e t ht => .fetched hp hid hlink hneeds ht
        · exact .known
      cases hlink : p.link with
      | derived child =>
        dsimp only
        generalize hlist : client.listAll child (some r.childKey) w = outcome
        obtain ⟨result, w₁⟩ := outcome
        cases result with
        | error e =>
          apply (Step.yields_bind_of_error (by rw [Step.second_apply, hlist])).mpr
          exact .refused
        | ok children =>
          apply (Step.yields_bind_of_ok (by rw [Step.second_apply, hlist])).mpr
          have hread : Read client name r w (.ok ((r.put name (.resources children)).peek name))
              (r.put name (.resources children), w₁) := by
            rw [peek_put_self]
            exact .listed hp hid hlink hlist
          exact hread
      | _ => exact hfetch _ (by rw [hlink]; rfl) rfl

/-! ## Saving and deleting -/

def Agreed (change : Resource → Resource) (r : Resource) (result : Except Error Bool)
    (t : Resource × World) : Prop :=
  t.1 = r ∧ result ≠ .ok true ∨ t.1 = change r ∧ result = .ok true

theorem agreed_error (change : Resource → Resource) (r : Resource) (e : Error) (w : World) :
    Agreed change r (.error e) (r, w) := .inl ⟨rfl, nofun⟩

/-- What is done with the answer to a request for a change. -/
def settle (refusal : String) (change : Resource → Resource) (answer : Json) : Remote Bool :=
  if answer.hasErrorMarker then do
    Step.second (World.note .warn refusal)
    return false
  else do
    Step.modify fun (r, w) => (change r, w)
    return true

def asking (r : Resource) (message refusal : String) (send : String → Step World Json)
    (change : Resource → Resource) : Remote Bool := do
  let path ← .ofExcept r.endpoint
  Step.second (World.note .info message)
  let answer ← Step.second (send path)
  settle refusal change answer

theorem save_eq (client : Client) (r : Resource) (w : World) : save client (r, w) =
    asking r ("Saving " ++ r.nameWithId) ("Save of " ++ r.nameWithId ++ " was rejected")
      (fun path => client.put path r.updateBody) saved (r, w) := rfl

theorem delete_eq (client : Client) (r : Resource) (w : World) : delete client (r, w) =
    asking r ("Deleting " ++ r.nameWithId) ("Delete of " ++ r.nameWithId ++ " was rejected")
      client.delete invalidate (r, w) := rfl

theorem asking_agreed (message refusal : String) (send : String → Step World Json)
    (change : Resource → Resource) (r : Resource) (w : World) :
    (asking r message refusal send change).Yields (r, w) (Agreed change r) := by
  unfold asking
  cases hpath : r.endpoint with
  | error e => exact agreed_error change r e w
  | ok path =>
    apply Step.yields_ok_bind.mpr
    refine .second_bind (fun _ w₁ _ => ?_) fun e w₁ _ => agreed_error change r e w₁
    refine .second_bind (fun answer w₂ _ => ?_) fun e w₂ _ => agreed_error change r e w₂
    unfold settle
    split
    · refine .second_bind (fun _ w₃ _ => ?_) fun e w₃ _ => agreed_error change r e w₃
      exact .inl ⟨rfl, nofun⟩
    · exact .inr ⟨rfl, rfl⟩

theorem save_agreed (client : Client) (r : Resource) (w : World) :
    (save client).Yields (r, w) (Agreed saved r) :=
  (asking_agreed _ _ _ saved r w).congr (save_eq client r w)

theorem delete_agreed (client : Client) (r : Resource) (w : World) :
    (delete client).Yields (r, w) (Agreed invalidate r) :=
  (asking_agreed _ _ _ invalidate r w).congr (delete_eq client r w)

/-! ## Identity -/

theorem saved_sameIdentity (r : Resource) : SameIdentity r r.saved := ⟨rfl, rfl, rfl, fun _ _ _ => rfl⟩

theorem get?_filter_of_pos {α : Type} {d : Dict α} {keep : String → Bool} {name : String}
    (h : keep name = true) : Dict.get? (d.filter fun (k, _) => keep k) name = d.get? name := by
  induction d with
  | nil => rfl
  | cons entry rest ih =>
    obtain ⟨k, v⟩ := entry
    by_cases hk : k = name
    · subst hk
      simp [Dict.get?, h]
    · by_cases hkeep : keep k = true <;> simp_all [Dict.get?]

theorem get?_filter_of_neg {α : Type} {d : Dict α} {keep : String → Bool} {name : String}
    (h : keep name = false) : Dict.get? (d.filter fun (k, _) => keep k) name = none := by
  induction d with
  | nil => rfl
  | cons entry rest ih =>
    obtain ⟨k, v⟩ := entry
    by_cases hk : k = name
    · subst hk
      simp [h, ih]
    · by_cases hkeep : keep k = true <;> simp_all [Dict.get?]

theorem peek_invalidate {name : String} (h : isIdentifier r.type name = true) :
    r.invalidate.peek name = r.peek name := by
  simp only [peek, invalidate, get?_filter_of_pos h]

theorem peek_invalidate_unset {name : String} (h : isIdentifier r.type name = false) :
    r.invalidate.peek name = .unset := by
  simp [peek, invalidate, get?_filter_of_neg h]

theorem invalidate_adds {Q : Resource → Prop} (r : Resource) : Adds Q r r.invalidate := by
  intro name
  cases hid : isIdentifier r.type name with
  | true => exact .inl (peek_invalidate hid)
  | false =>
    refine .inr fun t ht => ?_
    rw [peek_invalidate_unset hid] at ht
    cases ht

theorem invalidate_sameIdentity (r : Resource) : SameIdentity r r.invalidate :=
  ⟨rfl, rfl, rfl, fun _ hid _ => peek_invalidate hid⟩

theorem set_eq_ok {name : String} {value : FieldValue} (h : r.set name value = .ok s) :
    ∃ p, r.type.property? name = some p ∧ p.mutable = true ∧
      s = { r.put name value with changed := addName name r.changed } := by
  unfold set at h
  split at h
  · cases h
  · rename_i p hp
    split at h
    · rename_i hmutable
      cases h
      exact ⟨p, hp, hmutable, rfl⟩
    · cases h

theorem set_ok (hsound : r.type.Sound) {name : String} {value : FieldValue}
    (h : r.set name value = .ok s) :
    isIdentifier r.type name = false ∧
      s = { r.put name value with changed := addName name r.changed } := by
  obtain ⟨p, hp, hmutable, hs⟩ := set_eq_ok h
  exact ⟨by simp [isIdentifier, hp, hsound.not_identifier hp hmutable], hs⟩

theorem set_sameIdentity (hsound : r.type.Sound) {name : String} {value : FieldValue}
    (h : r.set name value = .ok s) : SameIdentity r s := by
  obtain ⟨hname, rfl⟩ := set_ok hsound h
  refine ⟨rfl, rfl, rfl, fun other hid _ => ?_⟩
  refine peek_put_of_ne r value ?_
  intro hsame
  subst hsame
  simp [hname] at hid

end CloudClient.Resource
