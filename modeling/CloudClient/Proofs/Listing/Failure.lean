import CloudClient.Proofs.Population.Failure

/-!
# Why listing fails

A list of a registered type under the parents that it takes fails only by the address of the list,
by an exchange that brings no answer, or by an answer that is no page of such items.
-/

namespace CloudClient
open Step (Meets)

namespace Error

inductive Unanswered : Error → Prop
  | transport (cause : TransportError) : Unanswered (.transport cause)
  | json : Unanswered .json
  | api (refusal : ApiError) : Unanswered (.api refusal)

end Error

/-! ## Exchanges -/

namespace Exchange

theorem deliver_unanswered (r : Request) :
    Meets (fun _ => True) (fun _ => True) Error.Unanswered (deliver r) := by
  intro w _
  unfold Step.Yields deliver
  split
  · exact ⟨trivial, .transport _⟩
  · dsimp only
    split
    · exact ⟨trivial, .transport _⟩
    · exact ⟨trivial, .transport _⟩
    · exact ⟨trivial, trivial⟩

theorem note_unanswered (level : Level) (message : String) :
    Meets (fun _ => True) (fun _ => True) Error.Unanswered (World.note level message) :=
  .modify fun _ _ => trivial

theorem accept_unanswered (status : Nat) (body : String) :
    Meets (fun _ => True) (fun _ => True) Error.Unanswered (accept status body) := by
  unfold accept
  split
  · split
    · exact .pure trivial
    · split
      · exact .pure trivial
      · exact .fail .json
  · exact (note_unanswered _ _).bind fun _ _ => .fail (.api _)

theorem send_unanswered (r : Request) :
    Meets (fun _ => True) (fun _ => True) Error.Unanswered (send r) := by
  have hanswer := (deliver_unanswered r).bind fun response _ =>
    accept_unanswered response.status (bodyOf response)
  unfold send
  refine (note_unanswered _ _).bind fun _ _ => ?_
  split
  · exact (note_unanswered _ _).bind fun _ _ => hanswer
  · exact hanswer

end Exchange

/-! ## Items -/

namespace Resource
variable {registry : Registry} {key : String} {type : ResourceType} {parent? : Option ParentKey}

theorem ofPayload_unexpected (hregistry : registry.Sound) (htype : registry.get key = .ok type)
    (hparent : Endpoint.checkParent type parent? = .ok ()) (now : Nat) (id payload : Json) :
    Meets (fun _ => True) (fun _ => True) Error.Unexpected
      (ofPayload registry now type id parent? payload) := by
  have hhandle : handle type id parent? = .ok (identified type id parent?) :=
    handle_eq_ok.mpr ⟨checkParent_eq_ok.mp hparent, rfl⟩
  have hplaced := (placed_invariant registry).handle_everywhere htype hhandle
  have hidentified : Everywhere (Placed registry)
      ((identified type id parent?).withIdentifiers payload) :=
    hplaced.of_adds ((placed_invariant registry).identified payload hplaced.here)
      (withIdentifiers_spec _ payload).2
  intro log _
  have hfill := fill_complains hregistry now payload
    ((identified type id parent?).withIdentifiers payload, log) hidentified
  unfold ofPayload
  rw [hhandle]
  apply Step.yields_ok_bind.mpr
  simp only [Step.Yields] at hfill ⊢
  generalize fill registry now payload
    ((identified type id parent?).withIdentifiers payload, log) = outcome at hfill ⊢
  obtain ⟨_ | _, s, log'⟩ := outcome
  · exact ⟨trivial, hfill.2⟩
  · exact ⟨trivial, trivial⟩

theorem ofItem_unexpected (hregistry : registry.Sound) (htype : registry.get key = .ok type)
    (hparent : Endpoint.checkParent type parent? = .ok ()) (now : Nat) (payload : Json) :
    Meets (fun _ => True) (fun _ => True) Error.Unexpected
      (ofItem registry now type parent? payload) := by
  unfold ofItem
  split
  · exact ofPayload_unexpected hregistry htype hparent now _ payload
  · exact .fail (Error.unexpected _ _)

end Resource

/-! ## Pages -/

namespace Page
variable {registry : Registry} {key : String} {type : ResourceType} {parent? : Option ParentKey}

theorem decodeItems_unexpected (hregistry : registry.Sound) (htype : registry.get key = .ok type)
    (hparent : Endpoint.checkParent type parent? = .ok ()) (now : Nat) (data : List Json) :
    Meets (fun _ => True) (fun _ => True) Error.Unexpected
      (decodeItems registry now type parent? data) := by
  induction data with
  | nil => exact .pure trivial
  | cons item rest ih =>
    refine (Resource.ofItem_unexpected hregistry htype hparent now item).bind fun _ _ => ?_
    exact ih.bind fun _ _ => .pure trivial

theorem count?_fits (answer : Json) (name : String) :
    Step.Fits (fun _ => True) Error.Unexpected (count? answer name) := by
  unfold count?
  split
  · exact trivial
  · split
    · exact trivial
    · exact Error.unexpected _ _

theorem decode_unexpected (hregistry : registry.Sound) (htype : registry.get key = .ok type)
    (hparent : Endpoint.checkParent type parent? = .ok ()) (now : Nat) (answer : Json) :
    Meets (fun _ => True) (fun _ => True) Error.Unexpected
      (decode registry now type parent? answer) := by
  unfold decode
  split
  · exact .fail (Error.unexpected _ _)
  · rename_i data _
    refine (decodeItems_unexpected hregistry htype hparent now data).bind fun items _ => ?_
    refine (Meets.ofExcept (count?_fits answer "results")).bind fun results? _ => ?_
    refine (Meets.ofExcept (count?_fits answer "pages")).bind fun pages? _ => ?_
    dsimp only
    split
    · exact .fail (Error.unexpected _ _)
    · exact .pure trivial

end Page

/-! ## Lists -/

namespace Listing

inductive Fault (client : Client) (path : String) : Error → Prop
  | address {e : Error} (h : client.url path = .error e) : Fault client path e
  | exchange {e : Error} (h : e.Unanswered) : Fault client path e
  | answer {e : Error} (h : e.Unexpected) : Fault client path e

section Faults
variable {client : Client} {key : String} {type : ResourceType} {parent? : Option ParentKey}

theorem fetch_faults (hregistry : client.registry.Sound)
    (htype : client.registry.get key = .ok type)
    (hparent : Endpoint.checkParent type parent? = .ok ()) (path : String)
    (filter? : Option Filter) (page : Nat) :
    Meets (fun _ => True) (fun _ => True) (Fault client path)
      (Page.fetch client type path parent? filter? page) := by
  have hurl : Step.Fits (fun _ => True) (Fault client path) (client.url path) := by
    cases hurl : client.url path with
    | ok url => exact trivial
    | error e => exact .address hurl
  have hsend : ∀ r, Meets (fun _ => True) (fun _ => True) (Fault client path) (Exchange.send r) :=
    fun r => (Exchange.send_unanswered r).mono (fun _ h => h) fun _ => .exchange
  unfold Page.fetch Client.getPage
  refine ((Meets.ofExcept hurl).bind fun url _ => hsend _).bind fun answer _ => ?_
  refine (Meets.read (Q := fun _ => True) fun _ _ => trivial).bind fun now _ => ?_
  intro w _
  have hdecode := Page.decode_unexpected hregistry htype hparent now answer
  exact ⟨trivial, ((hdecode.mono (fun _ h => h) fun _ => .answer) w.log trivial).2⟩

def Over (type : ResourceType) (path : String) (parent? : Option ParentKey) (list : Listing) : Prop :=
  list.type = type ∧ list.path = path ∧ list.parent? = parent?

theorem opened_faults (hregistry : client.registry.Sound)
    (htype : client.registry.get key = .ok type)
    (hparent : Endpoint.checkParent type parent? = .ok ()) (path : String)
    (filter? : Option Filter) :
    Meets (fun _ => True) (Over type path parent?) (Fault client path)
      (opened client type path parent? filter?) := by
  have hnote : ∀ level message, Meets (fun _ => True) (fun _ => True) (Fault client path)
      (World.note level message) := fun _ _ => .modify fun _ _ => trivial
  unfold opened
  refine (fetch_faults hregistry htype hparent path filter? 1).bind fun first _ => ?_
  have hrest := (hnote .debug ("Listed " ++ type.key ++ ": " ++
    toString (ofFirst client type path parent? filter? first).total ++ " item(s) over " ++
      toString (ofFirst client type path parent? filter? first).pageCount ++ " page(s)")).bind
    (R := Over type path parent?) fun _ _ =>
      .pure (a := ofFirst client type path parent? filter? first) ⟨rfl, rfl, rfl⟩
  dsimp only
  split
  · exact (hnote _ _).bind fun _ _ => hrest
  · exact hrest

theorem ensurePage_faults (hregistry : client.registry.Sound)
    (htype : client.registry.get key = .ok type)
    (hparent : Endpoint.checkParent type parent? = .ok ()) (path : String) (page : Nat) :
    Meets (fun t => Over type path parent? t.1) (fun _ => True) (Fault client path)
      (ensurePage client page) := by
  intro t ht
  obtain ⟨list, w⟩ := t
  obtain ⟨rfl, rfl, rfl⟩ := ht
  refine (ensurePage_outcome client list w page).mono fun result t houtcome => ?_
  cases houtcome with
  | there => exact ⟨⟨rfl, rfl, rfl⟩, trivial⟩
  | fetched => exact ⟨⟨rfl, rfl, rfl⟩, trivial⟩
  | failed _ hfetch =>
    exact ⟨⟨rfl, rfl, rfl⟩, (fetch_faults hregistry htype hparent _ _ _).error trivial hfetch⟩

theorem ensurePages_faults {path : String}
    (hpage : ∀ page, Meets (fun t => Over type path parent? t.1) (fun _ => True)
      (Fault client path) (ensurePage client page)) (count page : Nat) :
    Meets (fun t => Over type path parent? t.1) (fun _ => True) (Fault client path)
      (ensurePages client count page) := by
  induction count generalizing page with
  | zero => exact .pure trivial
  | succ count ih => exact (hpage page).bind fun _ _ => ih (page + 1)

theorem collect_faults {path : String}
    (hpage : ∀ page, Meets (fun t => Over type path parent? t.1) (fun _ => True)
      (Fault client path) (ensurePage client page)) :
    Meets (fun t => Over type path parent? t.1) (fun _ => True) (Fault client path)
      (collect client) := by
  refine (Meets.read (Q := fun _ => True) fun _ _ => trivial).bind fun list _ => ?_
  exact (ensurePages_faults hpage _ 0).bind fun _ _ => .read fun _ _ => trivial

theorem collection_exists (hparent : Endpoint.checkParent type parent? = .ok ()) :
    ∃ path, Endpoint.collection type parent? = .ok path := by
  rw [Endpoint.collection, Endpoint.format, hparent]
  exact ⟨_, rfl⟩

theorem list_faults (hregistry : client.registry.Sound)
    (htype : client.registry.get key = .ok type)
    (hparent : Endpoint.checkParent type parent? = .ok ()) {filter? : Option Filter} {w w' : World}
    {e : Error} (h : client.list key parent? filter? w = (.error e, w')) :
    ∃ path, Endpoint.collection type parent? = .ok path ∧ Fault client path e := by
  obtain ⟨path, hpath⟩ := collection_exists hparent
  rw [list_eq_opened htype hpath] at h
  exact ⟨path, hpath, (opened_faults hregistry htype hparent path filter?).error trivial h⟩

theorem listAll_faults (hregistry : client.registry.Sound)
    (htype : client.registry.get key = .ok type)
    (hparent : Endpoint.checkParent type parent? = .ok ()) {w w' : World} {e : Error}
    (h : client.listAll key parent? w = (.error e, w')) :
    ∃ path, Endpoint.collection type parent? = .ok path ∧ Fault client path e := by
  unfold Client.listAll at h
  rcases Step.bind_eq_error.mp h with h | ⟨list, w₁, hlist, h⟩
  · exact list_faults hregistry htype hparent h
  · obtain ⟨path, hpath⟩ := collection_exists hparent
    rw [list_eq_opened htype hpath] at hlist
    have hover := ((opened_faults hregistry htype hparent path none w trivial).of_eq hlist).2
    have hcollect := collect_faults (ensurePage_faults hregistry htype hparent path)
    generalize hrun : collect client (list, w₁) = outcome at h
    obtain ⟨result, list', w₂⟩ := outcome
    cases h
    exact ⟨path, hpath, hcollect.error (s := (list, w₁)) hover hrun⟩

end Faults

/-! ## What listing does not fail with -/

theorem url_eq_error {client : Client} {path : String} {e : Error} (h : client.url path = .error e) :
    ∃ reason fault, e = .invalidInput (reason ++ UrlError.message fault) := by
  unfold Client.url at h
  dsimp only at h
  split at h
  · cases h
  · rename_i fault _
    cases h
    exact ⟨_, fault, rfl⟩

theorem checkParent_eq_error {type : ResourceType} {parent? : Option ParentKey} {e : Error}
    (h : Endpoint.checkParent type parent? = .error e) :
    ∃ reason count, e = .invalidInput (reason ++ Nat.repr count) := by
  unfold Endpoint.checkParent at h
  dsimp only at h
  split at h
  · cases h
  · cases h
    exact ⟨_, Endpoint.parentCount parent?, rfl⟩

def endsInDigit (s : String) : Bool := (s.toList.getLast?.map Char.isDigit).getD false

theorem endsInDigit_repr (reason : String) (n : Nat) : endsInDigit (reason ++ Nat.repr n) = true := by
  have hlast : ((Nat.toDigits 10 n).getLast Nat.toDigits_ne_nil).isDigit = true :=
    Nat.isDigit_of_mem_toDigits (by decide) (by decide) (List.getLast_mem _)
  rw [endsInDigit, String.toList_append, Nat.toList_repr, List.getLast?_append_of_ne_nil _
    Nat.toDigits_ne_nil, List.getLast?_eq_some_getLast Nat.toDigits_ne_nil]
  exact hlast

theorem endsInDigit_message (reason : String) (fault : UrlError) :
    endsInDigit (reason ++ fault.message) = false := by
  have hne : fault.message.toList ≠ [] := by cases fault <;> decide +kernel
  have hlast : (fault.message.toList.getLast?.map Char.isDigit).getD false = false := by
    cases fault <;> decide +kernel
  rw [endsInDigit, String.toList_append, List.getLast?_append_of_ne_nil _ hne]
  exact hlast

/-- The complaint about parents ends in a number, that about an address does not. -/
theorem url_error_ne_checkParent {client : Client} {path : String} {e : Error}
    (h : client.url path = .error e) (type : ResourceType) (parent? : Option ParentKey) :
    Endpoint.checkParent type parent? ≠ .error e := by
  intro hparent
  obtain ⟨reason, fault, rfl⟩ := url_eq_error h
  obtain ⟨reason', count, hsame⟩ := checkParent_eq_error hparent
  have htext := congrArg endsInDigit (Error.invalidInput.inj hsame)
  rw [endsInDigit_message, endsInDigit_repr] at htext
  cases htext

theorem Fault.ne_unknownType {client : Client} {path : String} {e : Error} (h : Fault client path e)
    (key : String) : e ≠ .unknownType key := by
  intro he
  subst he
  cases h with
  | address h =>
    obtain ⟨_, _, h⟩ := url_eq_error h
    cases h
  | exchange h => cases h
  | answer h =>
    obtain ⟨_, _, h⟩ := h
    cases h

theorem Fault.ne_checkParent {client : Client} {path : String} {e : Error}
    (h : Fault client path e) (type : ResourceType) (parent? : Option ParentKey) :
    Endpoint.checkParent type parent? ≠ .error e := by
  intro hparent
  obtain ⟨_, _, hinput⟩ := checkParent_eq_error hparent
  cases h with
  | address h => exact url_error_ne_checkParent h type parent? hparent
  | exchange h =>
    subst hinput
    cases h
  | answer h =>
    obtain ⟨_, _, rfl⟩ := h
    cases hinput

end Listing
end CloudClient
