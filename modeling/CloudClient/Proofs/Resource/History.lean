import CloudClient.Proofs.Resource.Fetching

/-!
# Fetching over a run

Over a run of reads and edits the state that decides whether a read asks the server is the history
itself: the resource is populated once a read has fetched it, what is known is as old as the last
fetch, and until the first one a field is unset unless it was set. `Moves` says all that one access
can do to the resource; what a run does follows by induction over its turns.
-/

namespace CloudClient.Resource
variable {client : Client} {r s t : Resource} {w w' : World} {name : String} {p : Property}

/-! ## Runs -/

inductive Access
  | get (name : String)
  | peek (name : String)
  | set (name : String) (value : FieldValue)

def Access.perform (client : Client) : Access → Remote FieldValue
  | .get name => Resource.get client name
  | .peek name => Step.read fun (r, _) => r.peek name
  | .set name value => fun (r, w) =>
    match r.set name value with
    | .ok s => (.ok value, s, w)
    | .error e => (.error e, r, w)

/-- One access, what came of it, when, and which requests it sent. -/
structure Turn where
  access : Access
  result : Except Error FieldValue
  now : Nat
  sent : List Request

def Served (client : Client) (r : Resource) (access : Access) (w : World) : Prop :=
  ∀ name p, access = .get name → r.describe name = .ok p → p.identifier = false →
    p.link.isDerived = false → r.Due name p client.refreshSeconds w.now → Answered client r w

/-- Accesses to a resource one after another, each at any time and over any network that answers. -/
inductive Run (client : Client) (r : Resource) : List Turn → Resource → Prop
  | start : Run client r [] r
  | turn {turns : List Turn} {s t : Resource} {access : Access}
      {result : Except Error FieldValue} {w w' : World} (hs : Run client r turns s)
      (hvalue : ∀ name value, access = .set name value → value.isUnset = false)
      (hserved : Served client s access w)
      (h : access.perform client (s, w) = (result, t, w')) :
      Run client r (turns ++ [⟨access, result, w.now, w'.sent.drop w.sent.length⟩]) t

inductive Moves (client : Client) (s : Resource) (turn : Turn) : Resource → Prop
  | undeclared {name : String} {e : Error} (haccess : turn.access = .get name)
      (hname : s.describe name = .error e)
      (hresult : turn.result = .error (.unknownField s.type.displayName name))
      (hsent : turn.sent = []) : Moves client s turn s
  | found {name : String} {p : Property} (haccess : turn.access = .get name)
      (hp : s.describe name = .ok p)
      (hknown : p.identifier = true ∨ p.identifier = false ∧ p.link.isDerived = false ∧
        ¬ s.Due name p client.refreshSeconds turn.now)
      (hresult : turn.result = .ok (s.peek name)) (hsent : turn.sent = []) : Moves client s turn s
  | fetched {name : String} {p : Property} {url : Url} {t : Resource}
      (haccess : turn.access = .get name) (hp : s.describe name = .ok p)
      (hid : p.identifier = false) (hlink : p.link.isDerived = false)
      (hdue : s.Due name p client.refreshSeconds turn.now) (hurl : s.address client = .ok url)
      (hresult : turn.result = .ok (t.peek name))
      (hsent : turn.sent = [client.request .get url]) (ht : Refreshed s turn.now t) :
      Moves client s turn t
  | listed {name : String} {p : Property} {t : Resource} (haccess : turn.access = .get name)
      (hp : s.describe name = .ok p) (hid : p.identifier = false)
      (hlink : p.link.isDerived = true)
      (ht : t = s ∨ ∃ children, t = s.put name (.resources children)) : Moves client s turn t
  | peeked {name : String} (haccess : turn.access = .peek name)
      (hresult : turn.result = .ok (s.peek name)) (hsent : turn.sent = []) : Moves client s turn s
  | refused {name : String} {value : FieldValue} {e : Error}
      (haccess : turn.access = .set name value) (hresult : turn.result = .error e)
      (hsent : turn.sent = []) : Moves client s turn s
  | edited {name : String} {value : FieldValue} {t : Resource}
      (haccess : turn.access = .set name value) (hvalue : value.isUnset = false)
      (hset : s.set name value = .ok t) (hresult : turn.result = .ok value)
      (hsent : turn.sent = []) : Moves client s turn t

theorem get_moves {result : Except Error FieldValue} (hserved : Served client s (.get name) w)
    (h : get client name (s, w) = (result, t, w')) :
    Moves client s ⟨.get name, result, w.now, w'.sent.drop w.sent.length⟩ t := by
  cases hp : s.describe name with
  | error e =>
    rw [get_undeclared hp] at h
    cases h
    exact .undeclared rfl hp (by rw [describe_error hp]) List.drop_length
  | ok p =>
    cases hid : p.identifier with
    | true =>
      rw [get_identifier hp hid] at h
      cases h
      exact .found rfl hp (.inl hid) rfl List.drop_length
    | false =>
      cases hlink : p.link.isDerived with
      | true => exact .listed rfl hp hid hlink ((get_derived hp hlink).of_eq h)
      | false =>
        by_cases hdue : s.Due name p client.refreshSeconds w.now
        · have hanswered := hserved name p rfl hp hid hlink hdue
          obtain ⟨url, t', w₁, hurl, hget, hsent, ht⟩ := get_due hp hid hlink hdue hanswered
          rw [hget] at h
          cases h
          exact .fetched rfl hp hid hlink hdue hurl rfl (by simp [hsent]) ht
        · rw [get_known hp hid hlink hdue] at h
          cases h
          exact .found rfl hp (.inr ⟨hid, hlink, hdue⟩) rfl List.drop_length

theorem perform_moves {access : Access} {result : Except Error FieldValue}
    (hvalue : ∀ name value, access = .set name value → value.isUnset = false)
    (hserved : Served client s access w)
    (h : access.perform client (s, w) = (result, t, w')) :
    Moves client s ⟨access, result, w.now, w'.sent.drop w.sent.length⟩ t := by
  cases access with
  | get name => exact get_moves hserved h
  | peek name =>
    cases h
    exact .peeked rfl rfl List.drop_length
  | set name value =>
    unfold Access.perform at h
    cases hset : s.set name value with
    | error e =>
      simp only [hset] at h
      cases h
      exact .refused rfl rfl List.drop_length
    | ok t' =>
      simp only [hset] at h
      cases h
      exact .edited rfl (hvalue name value rfl) hset rfl List.drop_length

/-! ## What a history tells -/

section History
variable {turns earlier : List Turn} {turn : Turn} {type : ResourceType}

def Turn.fetched (type : ResourceType) (turn : Turn) : Bool :=
  match turn.access with
  | .get name =>
    match type.describe name with
    | .ok p => !p.link.isDerived && !turn.sent.isEmpty
    | .error _ => false
  | _ => false

def lastFetch? (type : ResourceType) (turns : List Turn) : Option Nat :=
  ((turns.filter (Turn.fetched type)).getLast?).map Turn.now

def WasSet (name : String) (turns : List Turn) : Prop :=
  ∃ turn ∈ turns, ∃ value, turn.access = .set name value ∧ turn.result.isOk = true

theorem lastFetch?_append_fetched (turns : List Turn) (h : turn.fetched type = true) :
    lastFetch? type (turns ++ [turn]) = some turn.now := by
  simp [lastFetch?, List.filter_append, h]

theorem lastFetch?_append_quiet (turns : List Turn) (h : turn.fetched type = false) :
    lastFetch? type (turns ++ [turn]) = lastFetch? type turns := by
  simp [lastFetch?, List.filter_append, h]

theorem fetched_of_get (haccess : turn.access = .get name) (hp : type.describe name = .ok p) :
    turn.fetched type = (!p.link.isDerived && !turn.sent.isEmpty) := by
  simp only [Turn.fetched, haccess, hp]

theorem fetched_of_silent (type : ResourceType) (h : turn.sent = []) : turn.fetched type = false := by
  unfold Turn.fetched
  split
  · split
    · simp [h]
    · rfl
  · rfl

theorem wasSet_append : WasSet name (turns ++ [turn]) ↔
    WasSet name turns ∨ ∃ value, turn.access = .set name value ∧ turn.result.isOk = true := by
  simp only [WasSet, List.mem_append, List.mem_singleton]
  constructor
  · intro h
    obtain ⟨turn, hturn | rfl, h⟩ := h
    · exact .inl ⟨turn, hturn, h⟩
    · exact .inr h
  · intro h
    rcases h with ⟨turn, hturn, h⟩ | h
    · exact ⟨turn, .inl hturn, h⟩
    · exact ⟨turn, .inr rfl, h⟩

theorem wasSet_append_of_ne {field : String}
    (h : ∀ value, turn.access = .set field value → turn.result.isOk = false) :
    WasSet field (turns ++ [turn]) ↔ WasSet field turns := by
  rw [wasSet_append]
  refine ⟨fun hwas => ?_, .inl⟩
  rcases hwas with hwas | ⟨value, haccess, hok⟩
  · exact hwas
  · rw [h value haccess] at hok
    cases hok

/-- The state after some turns, as far as it decides whether a read asks the server. -/
structure Tracked (r : Resource) (turns : List Turn) (s : Resource) : Prop where
  type : s.type = r.type
  id : s.id = r.id
  parent : s.parent? = r.parent?
  populated : s.populated = (lastFetch? r.type turns).isSome
  updated : s.updated? = lastFetch? r.type turns
  unset : lastFetch? r.type turns = none → ∀ name p, r.describe name = .ok p →
    p.identifier = false → p.link.isDerived = false →
    ((s.peek name).isUnset = true ↔ ¬ WasSet name turns)

namespace Tracked

theorem describe (h : Tracked r turns s) (name : String) : s.describe name = r.describe name := by
  rw [Resource.describe, Resource.describe, h.type]

theorem address (h : Tracked r turns s) : s.address client = r.address client := by
  rw [Resource.address, Resource.address, endpoint, endpoint, h.type, h.id, h.parent]

theorem idle (h : Tracked r turns s) (hsent : turn.sent = [])
    (hset : ∀ name value, turn.access = .set name value → turn.result.isOk = false) :
    Tracked r (turns ++ [turn]) s := by
  have hlast := lastFetch?_append_quiet turns (fetched_of_silent r.type hsent)
  refine ⟨h.type, h.id, h.parent, by rw [hlast, h.populated], by rw [hlast, h.updated], ?_⟩
  rw [hlast]
  intro hnone name p hp hid hlink
  rw [h.unset hnone name p hp hid hlink, wasSet_append_of_ne fun value => hset name value]

theorem put (h : Tracked r turns s) {field : String} {value : FieldValue} {changed : List String}
    (hquiet : turn.fetched r.type = false)
    (hset : ∀ name p, r.describe name = .ok p → p.identifier = false → p.link.isDerived = false →
      (name = field → value.isUnset = false ∧ WasSet name (turns ++ [turn])) ∧
      (name ≠ field → (WasSet name (turns ++ [turn]) ↔ WasSet name turns))) :
    Tracked r (turns ++ [turn]) { s.put field value with changed } := by
  have hlast := lastFetch?_append_quiet turns hquiet
  refine ⟨h.type, h.id, h.parent, hlast ▸ h.populated, hlast ▸ h.updated, ?_⟩
  rw [hlast]
  intro hnone name p hp hid hlink
  obtain ⟨hself, hother⟩ := hset name p hp hid hlink
  by_cases hname : name = field
  · obtain ⟨hvalue, hwas⟩ := hself hname
    have hpeek : Resource.peek { s.put field value with changed } name = value := by
      rw [hname]
      exact peek_put_self s field value
    simp [hpeek, hvalue, hwas]
  · have hpeek : Resource.peek { s.put field value with changed } name = s.peek name :=
      peek_put_of_ne s value hname
    rw [hpeek, h.unset hnone name p hp hid hlink, hother hname]

theorem refreshed (h : Tracked r turns s) (hfetched : turn.fetched r.type = true)
    (ht : Refreshed s turn.now t) : Tracked r (turns ++ [turn]) t := by
  have hlast := lastFetch?_append_fetched turns hfetched
  refine ⟨ht.type.trans h.type, ht.id.trans h.id, ht.parent.trans h.parent, ?_, ?_, ?_⟩
  · rw [hlast, ht.populated]
    rfl
  · rw [hlast, ht.updated]
  · intro hnone
    cases hlast.symm.trans hnone

theorem listed (h : Tracked r turns s) (haccess : turn.access = .get name)
    (hp : r.describe name = .ok p) (hlink : p.link.isDerived = true)
    (ht : t = s ∨ ∃ children, t = s.put name (.resources children)) :
    Tracked r (turns ++ [turn]) t := by
  have hquiet : turn.fetched r.type = false := by
    rw [fetched_of_get haccess hp, hlink]
    rfl
  have hwas : ∀ field, WasSet field (turns ++ [turn]) ↔ WasSet field turns :=
    fun field => wasSet_append_of_ne fun value hset => by cases haccess.symm.trans hset
  rcases ht with rfl | ⟨children, rfl⟩
  · have hlast := lastFetch?_append_quiet turns hquiet
    refine ⟨h.type, h.id, h.parent, hlast ▸ h.populated, hlast ▸ h.updated, ?_⟩
    rw [hlast]
    intro hnone name p hp hid hlink
    rw [h.unset hnone name p hp hid hlink, hwas]
  · have hput : ∀ other q, r.describe other = .ok q → q.identifier = false →
        q.link.isDerived = false →
        (other = name → (FieldValue.resources children).isUnset = false ∧
          WasSet other (turns ++ [turn])) ∧
        (other ≠ name → (WasSet other (turns ++ [turn]) ↔ WasSet other turns)) := by
      refine fun other q hq _ hother => ⟨fun hname => ?_, fun _ => hwas other⟩
      -- the field that lists the children is a derived one
      subst hname
      cases hp.symm.trans hq
      cases hlink.symm.trans hother
    exact h.put hquiet hput

theorem moves (h : Tracked r turns s) (hmoves : Moves client s turn t) :
    Tracked r (turns ++ [turn]) t := by
  cases hmoves with
  | undeclared haccess _ _ hsent => exact h.idle hsent fun _ _ hset => by cases haccess.symm.trans hset
  | found haccess _ _ _ hsent => exact h.idle hsent fun _ _ hset => by cases haccess.symm.trans hset
  | peeked haccess _ hsent => exact h.idle hsent fun _ _ hset => by cases haccess.symm.trans hset
  | refused _ hresult hsent => exact h.idle hsent fun _ _ _ => by rw [hresult]; rfl
  | fetched haccess hp _ hlink _ _ _ hsent ht =>
    refine h.refreshed ?_ ht
    rw [h.describe] at hp
    rw [fetched_of_get haccess hp, hlink, hsent]
    rfl
  | listed haccess hp _ hlink ht =>
    rw [h.describe] at hp
    exact h.listed haccess hp hlink ht
  | edited haccess hvalue hset hresult hsent =>
    obtain ⟨_, -, -, rfl⟩ := set_eq_ok hset
    refine h.put (fetched_of_silent _ hsent) fun name p _ _ _ => ⟨fun hname => ?_, fun hname => ?_⟩
    · subst hname
      exact ⟨hvalue, wasSet_append.mpr (.inr ⟨_, haccess, by rw [hresult]; rfl⟩)⟩
    · refine wasSet_append_of_ne fun value hother => ?_
      cases haccess.symm.trans hother
      exact absurd rfl hname

end Tracked

/-! ## Where a run starts -/

/-- A handle made from ids alone, or a resource that was just invalidated or deleted. -/
inductive Fresh (client : Client) : Resource → Prop
  | constructed {kind : String} {id : Json} {parent? : Option ParentKey} {r : Resource}
      {w w' : World} (h : client.construct kind id parent? none w = (.ok r, w')) : Fresh client r
  | invalidated (s : Resource) : Fresh client s.invalidate
  | deleted {s r : Resource} {w w' : World} (h : delete client (s, w) = (.ok true, r, w')) :
      Fresh client r

theorem not_isIdentifier_of_describe (hp : r.describe name = .ok p) (hid : p.identifier = false) :
    isIdentifier r.type name = false := by
  unfold Resource.describe ResourceType.describe at hp
  unfold isIdentifier
  cases hdeclared : r.type.property? name with
  | none => rfl
  | some q =>
    rw [hdeclared] at hp
    cases hp
    exact hid

theorem invalidate_tracked (s : Resource) : Tracked s.invalidate [] s.invalidate := by
  refine ⟨rfl, rfl, rfl, rfl, rfl, fun _ name p hp hid _ => ?_⟩
  have hname : isIdentifier s.type name = false := not_isIdentifier_of_describe hp hid
  have hpeek : s.invalidate.peek name = .unset := by
    simp only [peek, invalidate, get?_filter_of_neg hname]
    rfl
  simp [hpeek, FieldValue.isUnset, WasSet]

theorem Fresh.tracked (hregistry : client.registry.Sound) (h : Fresh client r) :
    Tracked r [] r := by
  cases h with
  | constructed h =>
    obtain ⟨type, _, hget, h⟩ := Step.bind_eq_ok.mp h
    obtain ⟨htype, rfl⟩ := Prod.mk.inj hget
    obtain rfl := handle_eq (Prod.mk.inj h).1
    refine ⟨rfl, rfl, rfl, rfl, rfl, fun _ name p hp hid _ => ?_⟩
    have hname : isIdentifier type name = false := not_isIdentifier_of_describe hp hid
    have hne : type.idField ≠ name := by
      intro hsame
      obtain ⟨q, hq, hidentifier⟩ := (hregistry.types htype).idDeclared
      simp [isIdentifier, ← hsame, hq, hidentifier] at hname
    simp [peek, identified, Dict.get?, hne, FieldValue.isUnset, WasSet]
  | invalidated s => exact invalidate_tracked s
  | @deleted s _ w _ h =>
    rcases (delete_agreed client s w).of_eq h with ⟨-, hresult⟩ | ⟨hr, -⟩
    · exact absurd rfl hresult
    · cases hr
      exact invalidate_tracked s

/-! ## Runs -/

theorem Run.tracked (hregistry : client.registry.Sound) (hr : Fresh client r)
    (h : Run client r turns s) : Tracked r turns s := by
  induction h with
  | start => exact hr.tracked hregistry
  | turn _ hvalue hserved h ih => exact ih.moves (perform_moves hvalue hserved h)

theorem Run.split {later : List Turn} (h : Run client r turns s)
    (hturns : turns = earlier ++ turn :: later) :
    ∃ m t, Run client r earlier m ∧ Moves client m turn t := by
  induction h generalizing later with
  | start => cases List.append_ne_nil_of_right_ne_nil _ (List.cons_ne_nil _ _) hturns.symm
  | turn hs hvalue hserved h ih =>
    rcases List.eq_nil_or_concat later with rfl | ⟨later, last, rfl⟩
    · obtain ⟨rfl, hlast⟩ := List.append_inj' hturns rfl
      cases hlast
      exact ⟨_, _, hs, perform_moves hvalue hserved h⟩
    · rw [List.concat_eq_append, ← List.cons_append, ← List.append_assoc] at hturns
      exact ih (List.append_inj' hturns rfl).1

/-! ## What each turn sends -/

/-- What one access to a resource sends. A name that is not declared fails without a request and an
identifier is read without one. Any other field that is no collection of children is asked for once
when it is due, and else not at all. Nothing but a read sends anything. -/
def Decided (client : Client) (s : Resource) (turn : Turn) : Prop :=
  match turn.access with
  | .get name =>
    match s.describe name with
    | .error _ =>
      turn.sent = [] ∧ turn.result = .error (.unknownField s.type.displayName name)
    | .ok p =>
      (p.identifier = true → turn.sent = []) ∧
      (p.identifier = false → p.link.isDerived = false →
        (s.Due name p client.refreshSeconds turn.now →
          ∃ url, s.address client = .ok url ∧ turn.sent = [client.request .get url]) ∧
        (¬ s.Due name p client.refreshSeconds turn.now → turn.sent = []))
  | _ => turn.sent = []

theorem Moves.decided (h : Moves client s turn t) : Decided client s turn := by
  unfold Decided
  cases h with
  | undeclared haccess hname hresult hsent =>
    simp only [haccess, hname]
    exact ⟨hsent, hresult⟩
  | found haccess hp hknown _ hsent =>
    simp only [haccess, hp]
    refine ⟨fun _ => hsent, fun hid _ => ⟨fun hdue => ?_, fun _ => hsent⟩⟩
    rcases hknown with h | ⟨-, -, h⟩
    · cases hid.symm.trans h
    · exact absurd hdue h
  | fetched haccess hp hid _ hdue hurl _ hsent _ =>
    simp only [haccess, hp]
    refine ⟨fun h => ?_, fun _ _ => ⟨fun _ => ⟨_, hurl, hsent⟩, fun h => absurd hdue h⟩⟩
    cases hid.symm.trans h
  | listed haccess hp hid hlink _ =>
    simp only [haccess, hp]
    refine ⟨fun h => ?_, fun _ h => ?_⟩
    · cases hid.symm.trans h
    · cases hlink.symm.trans h
  | peeked haccess _ hsent => simpa only [haccess] using hsent
  | refused haccess _ hsent => simpa only [haccess] using hsent
  | edited haccess _ _ _ hsent => simpa only [haccess] using hsent

/-! ## Runs without volatile fields -/

def Steady (type : ResourceType) (turns : List Turn) : Prop :=
  ∀ turn ∈ turns, ∀ name p, turn.access = .get name → type.describe name = .ok p →
    p.volatile = false ∧ p.link.isDerived = false

def Turn.Misses (type : ResourceType) (earlier : List Turn) (turn : Turn) : Prop :=
  ∃ name p, turn.access = .get name ∧ type.describe name = .ok p ∧ p.identifier = false ∧
    ¬ WasSet name earlier

def Missed (type : ResourceType) (turns : List Turn) : Prop :=
  ∃ earlier turn later, turns = earlier ++ turn :: later ∧ turn.Misses type earlier

theorem missed_append : Missed type (turns ++ [turn]) ↔ Missed type turns ∨ turn.Misses type turns := by
  constructor
  · intro h
    obtain ⟨earlier, miss, later, hturns, h⟩ := h
    rcases List.eq_nil_or_concat later with rfl | ⟨later, last, rfl⟩
    · obtain ⟨rfl, hlast⟩ := List.append_inj' hturns rfl
      cases hlast
      exact .inr h
    · rw [List.concat_eq_append, ← List.cons_append, ← List.append_assoc] at hturns
      exact .inl ⟨earlier, miss, later, (List.append_inj' hturns rfl).1, h⟩
  · intro h
    rcases h with ⟨earlier, miss, later, rfl, h⟩ | h
    · exact ⟨earlier, miss, later ++ [turn], by simp, h⟩
    · exact ⟨turns, turn, [], rfl, h⟩

def SentOnce (client : Client) (r : Resource) (turns : List Turn) : Prop :=
  ¬ Missed r.type turns ∧ lastFetch? r.type turns = none ∧ turns.flatMap Turn.sent = [] ∨
    Missed r.type turns ∧ lastFetch? r.type turns ≠ none ∧
      ∃ url, r.address client = .ok url ∧ turns.flatMap Turn.sent = [client.request .get url]

theorem SentOnce.quiet (h : SentOnce client r turns) (hsent : turn.sent = [])
    (hmiss : lastFetch? r.type turns = none → ¬ turn.Misses r.type turns) :
    SentOnce client r (turns ++ [turn]) := by
  have hlast := lastFetch?_append_quiet turns (fetched_of_silent r.type hsent)
  have hall : (turns ++ [turn]).flatMap Turn.sent = turns.flatMap Turn.sent := by simp [hsent]
  rcases h with ⟨hmissed, hnone, hnothing⟩ | ⟨hmissed, hsome, hone⟩
  · refine .inl ⟨?_, hlast.trans hnone, hall.trans hnothing⟩
    rw [missed_append]
    exact not_or.mpr ⟨hmissed, hmiss hnone⟩
  · exact .inr ⟨missed_append.mpr (.inl hmissed), by rwa [hlast], by rwa [hall]⟩

theorem not_misses_of_access {type : ResourceType} (h : ∀ name, turn.access ≠ .get name) :
    ¬ turn.Misses type earlier := by
  intro hmiss
  obtain ⟨name, _, haccess, -⟩ := hmiss
  exact h name haccess

theorem SentOnce.asked {url : Url} (h : SentOnce client r turns)
    (hnone : lastFetch? r.type turns = none) (hfetched : turn.fetched r.type = true)
    (hmiss : turn.Misses r.type turns) (hurl : r.address client = .ok url)
    (hsent : turn.sent = [client.request .get url]) : SentOnce client r (turns ++ [turn]) := by
  rcases h with ⟨-, -, hnothing⟩ | ⟨-, hsome, -⟩
  · refine .inr ⟨missed_append.mpr (.inr hmiss), ?_, url, hurl, ?_⟩
    · rw [lastFetch?_append_fetched turns hfetched]
      exact Option.some_ne_none _
    · simp [hnothing, hsent]
  · exact absurd hnone hsome

theorem Moves.sentOnce (hs : Tracked r turns s) (honce : SentOnce client r turns)
    (hsteady : Steady r.type (turns ++ [turn])) (h : Moves client s turn t) :
    SentOnce client r (turns ++ [turn]) := by
  have hmine : ∀ name p, turn.access = .get name → r.describe name = .ok p →
      p.volatile = false ∧ p.link.isDerived = false :=
    hsteady turn (List.mem_append_right _ List.mem_cons_self)
  cases h with
  | undeclared haccess hname _ hsent =>
    refine honce.quiet hsent fun _ hmiss => ?_
    obtain ⟨name, p, hget, hp, -⟩ := hmiss
    cases haccess.symm.trans hget
    rw [hs.describe] at hname
    cases hname.symm.trans hp
  | @found name p haccess hp hknown _ hsent =>
    refine honce.quiet hsent fun hnone hmiss => ?_
    obtain ⟨_, q, hget, hq, hid, hset⟩ := hmiss
    cases haccess.symm.trans hget
    rw [hs.describe] at hp
    cases hp.symm.trans hq
    rcases hknown with h | ⟨-, hlink, hdue⟩
    · cases hid.symm.trans h
    -- a field that was never set is due as long as nothing was fetched
    · refine hdue (.inl ⟨(hs.unset hnone name p hp hid hlink).mpr hset, ?_⟩)
      rw [hs.populated, hnone]
      rfl
  | @fetched name p url _ haccess hp hid hlink hdue hurl _ hsent _ =>
    rw [hs.describe] at hp
    rw [hs.address] at hurl
    rcases hdue with ⟨hunset, hpopulated⟩ | ⟨hvolatile, -⟩
    · have hnone : lastFetch? r.type turns = none := by
        rw [hs.populated] at hpopulated
        simpa using hpopulated
      have hmiss : turn.Misses r.type turns :=
        ⟨name, p, haccess, hp, hid, (hs.unset hnone name p hp hid hlink).mp hunset⟩
      have hfetched : turn.fetched r.type = true := by
        rw [fetched_of_get haccess hp, hlink, hsent]
        rfl
      exact honce.asked hnone hfetched hmiss hurl hsent
    · cases hvolatile.symm.trans (hmine name p haccess hp).1
  | listed haccess hp _ hlink _ =>
    rw [hs.describe] at hp
    cases hlink.symm.trans (hmine _ _ haccess hp).2
  | peeked haccess _ hsent =>
    exact honce.quiet hsent fun _ => not_misses_of_access fun _ hget => by cases haccess.symm.trans hget
  | refused haccess _ hsent =>
    exact honce.quiet hsent fun _ => not_misses_of_access fun _ hget => by cases haccess.symm.trans hget
  | edited haccess _ _ _ hsent =>
    exact honce.quiet hsent fun _ => not_misses_of_access fun _ hget => by cases haccess.symm.trans hget

theorem Run.sentOnce (hregistry : client.registry.Sound) (hr : Fresh client r)
    (h : Run client r turns s) (hsteady : Steady r.type turns) : SentOnce client r turns := by
  induction h with
  | start =>
    refine .inl ⟨fun hmissed => ?_, rfl, rfl⟩
    obtain ⟨earlier, turn, later, hturns, -⟩ := hmissed
    exact List.append_ne_nil_of_right_ne_nil _ (List.cons_ne_nil _ _) hturns.symm
  | turn hs hvalue hserved h ih =>
    have hbefore := ih fun turn hturn => hsteady turn (List.mem_append_left _ hturn)
    exact (perform_moves hvalue hserved h).sentOnce (hs.tracked hregistry hr) hbefore hsteady

/-! ## Every run -/

/-- Over every run from a fresh resource, the history tells the state, every turn sends what is due,
and a run that reads no volatile field and no children asks for the item once, if it reads a field
that was not set before, and else never. -/
theorem fetches_when_due {sources : List String}
    (h : Registry.ofSources sources = .ok client.registry) (hr : Fresh client r)
    (hrun : Run client r turns s) :
    Tracked r turns s ∧
    (∀ earlier turn later, turns = earlier ++ turn :: later →
      ∃ m, Run client r earlier m ∧ Tracked r earlier m ∧ Decided client m turn) ∧
    (Steady r.type turns →
      (Missed r.type turns →
        ∃ url, r.address client = .ok url ∧ turns.flatMap Turn.sent = [client.request .get url]) ∧
      (¬ Missed r.type turns → turns.flatMap Turn.sent = [])) := by
  have hregistry := Registry.ofSources_sound h
  refine ⟨hrun.tracked hregistry hr, fun earlier turn later hturns => ?_, fun hsteady => ?_⟩
  · obtain ⟨m, _, hm, hmoves⟩ := hrun.split hturns
    exact ⟨m, hm, hm.tracked hregistry hr, hmoves.decided⟩
  · rcases hrun.sentOnce hregistry hr hsteady with ⟨hmissed, -, hnothing⟩ | ⟨hmissed, -, hone⟩
    · exact ⟨fun h => absurd h hmissed, fun _ => hnothing⟩
    · exact ⟨fun _ => hone, fun h => absurd hmissed h⟩

end History

/-! ## An answer that leaves the field unset -/

def blank : World where
  network := fun _ _ => .ofJson (.obj [])

theorem node_answered : Answered (clientOf .nodeRegistry) node blank := by
  have hsendable : (match node.address (clientOf .nodeRegistry) with
      | .ok url => (Exchange.fault? ((clientOf .nodeRegistry).request .get url)).isNone
      | .error _ => false) = true := by decide +kernel
  have hanswer : (Delivery.ofJson (.obj [])).json? = some (.obj []) := by decide +kernel
  cases hurl : node.address (clientOf .nodeRegistry) with
  | error e =>
    rw [hurl] at hsendable
    cases hsendable
  | ok url =>
    rw [hurl] at hsendable
    exact ⟨url, .obj [], _, _, hurl, Option.isNone_iff_eq_none.mp hsendable, hanswer, rfl⟩

/-- A status that the answer leaves unset is not asked for again. -/
theorem fetches_when_due_node : ∃ turns s url, Run (clientOf .nodeRegistry) node turns s ∧
    turns.map Turn.access = [.get "status", .get "status"] ∧
    node.address (clientOf .nodeRegistry) = .ok url ∧
    turns.flatMap Turn.sent = [(clientOf .nodeRegistry).request .get url] := by
  have hconstruct : (clientOf .nodeRegistry).construct "node" (.int 1) none none offline =
      (.ok node, offline) := rfl
  have hstatus : node.describe "status" = .ok {} := rfl
  have hdue : node.Due "status" {} (clientOf .nodeRegistry).refreshSeconds blank.now :=
    .inl ⟨rfl, rfl⟩
  obtain ⟨_, s, w', -, hget, -, hs⟩ := get_due hstatus rfl rfl hdue node_answered
  have hknown : s.describe "status" = .ok {} := by
    rw [describe, hs.type]
    rfl
  have hnot : ¬ s.Due "status" {} (clientOf .nodeRegistry).refreshSeconds blank.now := by
    intro h
    rcases h with ⟨-, h⟩ | ⟨h, -⟩
    · cases hs.populated.symm.trans h
    · cases h
  have hagain : get (clientOf .nodeRegistry) "status" (s, blank) = (.ok (s.peek "status"), s, blank) :=
    get_known hknown rfl rfl hnot
  have hserved : Served (clientOf .nodeRegistry) s (.get "status") blank := by
    intro name p hget hp _ _ h
    cases hget
    cases hknown.symm.trans hp
    exact absurd h hnot
  have hread : ∀ name value, Access.get "status" = .set name value → value.isUnset = false := by
    intro _ _ h
    cases h
  let first : Turn := ⟨.get "status", .ok (s.peek "status"), 0, w'.sent.drop 0⟩
  let second : Turn := ⟨.get "status", .ok (s.peek "status"), 0, []⟩
  have honce : Run (clientOf .nodeRegistry) node [first] s :=
    .turn .start hread (fun _ _ _ _ _ _ _ => node_answered) hget
  have hrun : Run (clientOf .nodeRegistry) node [first, second] s :=
    .turn honce hread hserved hagain
  have hsteady : Steady node.type [first, second] := by
    intro turn hturn name p hread hp
    have haccess : turn.access = .get "status" := by
      rcases List.mem_pair.mp hturn with rfl | rfl <;> rfl
    cases haccess.symm.trans hread
    cases hp
    exact ⟨rfl, rfl⟩
  have hmissed : Missed node.type [first, second] := by
    refine ⟨[], first, [second], rfl, "status", {}, rfl, rfl, rfl, fun hset => ?_⟩
    obtain ⟨_, hnone, -⟩ := hset
    cases hnone
  obtain ⟨-, -, hsent⟩ :=
    fetches_when_due Registry.nodeSource_accepted (.constructed hconstruct) hrun
  obtain ⟨url, hurl, hone⟩ := (hsent hsteady).1 hmissed
  exact ⟨[first, second], s, url, hrun, rfl, hurl, hone⟩

end CloudClient.Resource
