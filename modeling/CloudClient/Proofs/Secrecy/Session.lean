import CloudClient.PaymentCard
import CloudClient.Proofs.Resource.Changes
import CloudClient.Proofs.Secrecy.Twins
import CloudClient.Tagging

/-!
# Sessions under different tokens

Every operation on resources and lists and every call of a client is built from raw calls and from
what needs no client at all, so two runs of it with different tokens cannot be told apart. A session
is a sequence of operations of which each may depend on what the earlier ones returned. Its two runs
return the same and log the same, and they send the same requests but for the authorization.
-/

namespace CloudClient
open Step (Agree)

section Operations
variable {before : List Request} {token token' : String} {S α : Type}

abbrev World.AlikeBeside (before : List Request) (token token' : String)
    (x y : Step (S × World) α) : Prop :=
  Agree (Agree.Beside (Twins before token token')) x y

theorem World.AlikeBeside.fst :
    World.AlikeBeside before token token' (Step.read (Prod.fst : S × World → S)) (Step.read Prod.fst) :=
  Agree.read fun _ _ h => h.1

theorem World.AlikeBeside.read (f : S → α) :
    World.AlikeBeside before token token' (Step.read fun s => f s.1) (Step.read fun s => f s.1) :=
  Agree.read fun _ _ h => congrArg f h.1

theorem World.AlikeBeside.modify (f : S → S) :
    World.AlikeBeside before token token' (Step.modify fun s => (f s.1, s.2))
      (Step.modify fun s => (f s.1, s.2)) :=
  Agree.modify fun _ _ h => ⟨congrArg f h.1, h.2⟩

def Step.handing (x : Step (S × World) α) (s : S) : Step World (Except Error α × S) :=
  fun w => (.ok ((x (s, w)).1, (x (s, w)).2.1), (x (s, w)).2.2)

theorem Step.Agree.handing {x y : Step (S × World) α}
    (h : World.AlikeBeside before token token' x y) (s : S) :
    World.Alike before token token' (x.handing s) (y.handing s) := by
  intro w w' hw
  obtain ⟨hresult, hs, hworld⟩ := h (s, w) (s, w') ⟨rfl, hw⟩
  exact ⟨congrArg Except.ok (Prod.ext hresult hs), hworld⟩

theorem World.logged_alike (x : Step Log α) :
    World.Alike before token token' (World.logged x) (World.logged x) := by
  intro w w' h
  unfold World.logged
  rw [h.log]
  exact ⟨rfl, h.withLog _⟩

variable (htoken : Exchange.isHeaderText token = true)
  (htoken' : Exchange.isHeaderText token' = true) (c : Client)
include htoken htoken'

/-! ## Lists -/

theorem Page.fetch_alike (type : ResourceType) (path : String) (parent? : Option ParentKey)
    (filter? : Option Filter) (page : Nat) :
    World.Alike before token token'
      (Page.fetch (c.bearing token) type path parent? filter? page)
      (Page.fetch (c.bearing token') type path parent? filter? page) :=
  (Client.getPage_alike htoken htoken' c path page filter?).bind fun _ =>
    World.now_alike.bind fun _ => World.logged_alike _

namespace Listing

theorem opened_alike (type : ResourceType) (path : String) (parent? : Option ParentKey)
    (filter? : Option Filter) :
    World.Alike before token token' (opened (c.bearing token) type path parent? filter?)
      (opened (c.bearing token') type path parent? filter?) := by
  refine (Page.fetch_alike htoken htoken' c type path parent? filter? 1).bind fun first => ?_
  dsimp only
  split
  · exact (World.note_alike _ _).bind fun _ => (World.note_alike _ _).bind fun _ => .pure _
  · exact (World.note_alike _ _).bind fun _ => .pure _

theorem ensurePage_alike (page : Nat) :
    World.AlikeBeside before token token' (ensurePage (c.bearing token) page)
      (ensurePage (c.bearing token') page) := by
  refine (World.AlikeBeside.modify fun list : Listing => list.grownTo page).bind fun _ => ?_
  refine World.AlikeBeside.fst.bind fun list => ?_
  split
  · refine (Agree.second (Page.fetch_alike htoken htoken' c _ _ _ _ _)).bind fun fetched => ?_
    exact World.AlikeBeside.modify fun list : Listing => list.withPage page fetched.items
  · exact .pure _

theorem get?_alike (index : Nat) :
    World.AlikeBeside before token token' (get? (c.bearing token) index)
      (get? (c.bearing token') index) := by
  refine World.AlikeBeside.fst.bind fun list => ?_
  dsimp only
  split
  · exact .pure _
  · refine (ensurePage_alike htoken htoken' c _).bind fun _ => ?_
    exact World.AlikeBeside.fst.bind fun _ => .pure _

theorem walk_alike (count index : Nat) :
    World.AlikeBeside before token token' (walk (c.bearing token) count index)
      (walk (c.bearing token') count index) := by
  induction count generalizing index with
  | zero => exact .pure _
  | succ count ih =>
    refine (get?_alike htoken htoken' c index).bind fun r? => ?_
    cases r? with
    | none => exact .pure _
    | some r => exact (ih (index + 1)).bind fun _ => .pure _

theorem ensurePages_alike (count page : Nat) :
    World.AlikeBeside before token token' (ensurePages (c.bearing token) count page)
      (ensurePages (c.bearing token') count page) := by
  induction count generalizing page with
  | zero => exact .pure _
  | succ count ih => exact (ensurePage_alike htoken htoken' c page).bind fun _ => ih (page + 1)

theorem collect_alike :
    World.AlikeBeside before token token' (collect (c.bearing token)) (collect (c.bearing token')) := by
  refine World.AlikeBeside.fst.bind fun list => ?_
  exact (ensurePages_alike htoken htoken' c _ 0).bind fun _ => World.AlikeBeside.read items

theorem Call.perform_alike (call : Call) :
    World.AlikeBeside before token token' (call.perform (c.bearing token))
      (call.perform (c.bearing token')) := by
  have hget : ∀ index, World.AlikeBeside before token token' (get? (c.bearing token) index)
      (get? (c.bearing token') index) := get?_alike htoken htoken' c
  cases call with
  | get index => exact (hget index).bind fun _ => .pure _
  | first => exact (hget 0).bind fun _ => .pure _
  | last =>
    refine Agree.bind (World.AlikeBeside.fst.bind fun list => ?_) fun _ => .pure _
    split
    · exact .pure _
    · exact hget _
  | only =>
    refine Agree.bind (World.AlikeBeside.fst.bind fun list => ?_) fun _ => .pure _
    split
    · exact .fail _
    · refine (hget 0).bind fun r? => ?_
      cases r? with
      | none => exact .fail _
      | some r => exact .pure _
  | stream limit? =>
    refine Agree.bind (World.AlikeBeside.fst.bind fun list => ?_) fun _ => .pure _
    exact walk_alike htoken htoken' c _ 0
  | collect => exact (collect_alike htoken htoken' c).bind fun _ => .pure _

end Listing

theorem Client.list_alike (kind : String) (parent? : Option ParentKey) (filter? : Option Filter) :
    World.Alike before token token' ((c.bearing token).list kind parent? filter?)
      ((c.bearing token').list kind parent? filter?) :=
  (Agree.ofExcept _).bind fun type => (Agree.ofExcept _).bind fun path =>
    Listing.opened_alike htoken htoken' c type path parent? filter?

theorem Client.listAll_alike (kind : String) (parent? : Option ParentKey) :
    World.Alike before token token' ((c.bearing token).listAll kind parent?)
      ((c.bearing token').listAll kind parent?) := by
  refine (Client.list_alike htoken htoken' c kind parent? none).bind fun list => ?_
  intro w w' h
  obtain ⟨hresult, -, hworld⟩ :=
    Listing.collect_alike htoken htoken' c (list, w) (list, w') ⟨rfl, h⟩
  exact ⟨hresult, hworld⟩

/-! ## Resources -/

namespace Resource

omit htoken htoken' in
theorem populate_alike (payload : Json) :
    World.AlikeBeside before token token' (populate (c.bearing token) payload)
      (populate (c.bearing token') payload) := by
  intro p q h
  obtain ⟨r, network, now, sent, log⟩ := p
  obtain ⟨_, _, _, sent', _⟩ := q
  obtain ⟨hr, hw⟩ := h
  obtain ⟨hblind, hnetwork, hnow, hlog, hsent⟩ := hw
  cases hr
  cases hnetwork
  cases hnow
  cases hlog
  exact ⟨rfl, rfl, hblind, rfl, rfl, rfl, hsent⟩

theorem refresh_alike :
    World.AlikeBeside before token token' (refresh (c.bearing token))
      (refresh (c.bearing token')) := by
  refine World.AlikeBeside.fst.bind fun r => ?_
  refine (Agree.ofExcept _).bind fun path => ?_
  refine (Agree.second (Client.get_alike htoken htoken' c path none)).bind fun answer => ?_
  exact populate_alike c answer

theorem get_alike (name : String) :
    World.AlikeBeside before token token' (get (c.bearing token) name)
      (get (c.bearing token') name) := by
  have hpeek : World.AlikeBeside before token token'
      (Step.read fun s : Resource × World => s.1.peek name) (Step.read fun s => s.1.peek name) :=
    .read fun r : Resource => r.peek name
  refine World.AlikeBeside.fst.bind fun r => ?_
  refine (Agree.ofExcept _).bind fun p => ?_
  split
  · exact .pure _
  · have hfetch : World.AlikeBeside before token token'
        (do
          let now ← Step.read fun (t : Resource × World) => t.2.now
          if r.needsFetch name p (c.bearing token).refreshSeconds now then refresh (c.bearing token)
          Step.read fun t => t.1.peek name)
        (do
          let now ← Step.read fun (t : Resource × World) => t.2.now
          if r.needsFetch name p (c.bearing token').refreshSeconds now then
            refresh (c.bearing token')
          Step.read fun t => t.1.peek name) := by
      refine Agree.bind (.read fun _ _ h => h.2.now.symm) fun now => ?_
      change World.AlikeBeside before token token'
        (if r.needsFetch name p c.refreshSeconds now then _ else _)
        (if r.needsFetch name p c.refreshSeconds now then _ else _)
      split
      · exact (refresh_alike htoken htoken' c).bind fun _ => hpeek
      · exact hpeek
    cases p.link with
    | derived child =>
      refine (Agree.second (Client.listAll_alike htoken htoken' c child _)).bind fun children => ?_
      exact (World.AlikeBeside.modify fun r => r.put name (.resources children)).bind fun _ => hpeek
    | _ => exact hfetch

omit htoken htoken' in
theorem asking_alike {x y : String → Step World Json}
    (h : ∀ path, World.Alike before token token' (x path) (y path)) (r : Resource)
    (message refusal : String) (change : Resource → Resource) :
    World.AlikeBeside before token token' (asking r message refusal x change)
      (asking r message refusal y change) := by
  refine (Agree.ofExcept _).bind fun path => ?_
  refine (Agree.second (World.note_alike _ _)).bind fun _ => ?_
  refine (Agree.second (h path)).bind fun answer => ?_
  unfold settle
  split
  · exact (Agree.second (World.note_alike _ _)).bind fun _ => .pure _
  · exact (World.AlikeBeside.modify change).bind fun _ => .pure _

theorem save_alike :
    World.AlikeBeside before token token' (save (c.bearing token)) (save (c.bearing token')) :=
  World.AlikeBeside.fst.bind fun r => asking_alike
    (fun path => Client.put_alike htoken htoken' c path r.updateBody) r _ _ saved

theorem delete_alike :
    World.AlikeBeside before token token' (delete (c.bearing token)) (delete (c.bearing token')) :=
  World.AlikeBeside.fst.bind fun r =>
    asking_alike (Client.delete_alike htoken htoken' c) r _ _ invalidate

end Resource

/-! ## Obtaining resources -/

namespace Client

omit htoken htoken' in
theorem construct_alike (kind : String) (id : Json) (parent? : Option ParentKey)
    (payload? : Option Json) :
    World.Alike before token token' ((c.bearing token).construct kind id parent? payload?)
      ((c.bearing token').construct kind id parent? payload?) := by
  refine (Agree.ofExcept _).bind fun type => ?_
  cases payload? with
  | none => exact .ofExcept _
  | some payload => exact World.now_alike.bind fun now => World.logged_alike _

theorem load_alike (kind : String) (id : Json) (parent? : Option ParentKey) :
    World.Alike before token token' ((c.bearing token).load kind id parent?)
      ((c.bearing token').load kind id parent?) := by
  refine (construct_alike c kind id parent? none).bind fun r => ?_
  intro w w' h
  have hrefresh := Resource.refresh_alike htoken htoken' c (r, w) (r, w') ⟨rfl, h⟩
  dsimp only
  generalize Resource.refresh (c.bearing token) (r, w) = p at hrefresh ⊢
  generalize Resource.refresh (c.bearing token') (r, w') = q at hrefresh ⊢
  obtain ⟨result, s, u⟩ := p
  obtain ⟨_, _, u'⟩ := q
  obtain ⟨hresult, hs, hworld⟩ := hrefresh
  cases hresult
  cases hs
  cases result with
  | ok _ => exact ⟨rfl, hworld⟩
  | error e => exact ⟨rfl, hworld⟩

theorem create_alike (kind : String) (parent? : Option ParentKey) (body : Json) :
    World.Alike before token token' ((c.bearing token).create kind parent? body)
      ((c.bearing token').create kind parent? body) := by
  refine (Agree.ofExcept _).bind fun type => (Agree.ofExcept _).bind fun path => ?_
  refine (World.note_alike _ _).bind fun _ => ?_
  refine (post_alike htoken htoken' c path body).bind fun answer => ?_
  split
  · exact .fail _
  · exact World.now_alike.bind fun now => World.logged_alike _

omit htoken htoken' in
theorem resolve_alike (payload : Json) :
    World.Alike before token token' ((c.bearing token).resolve payload)
      ((c.bearing token').resolve payload) := by
  have hunknown : ∀ tag wrapped, World.Alike before token token'
      (World.note .warn ("Unknown entity type '" ++ tag ++ "'") >>= fun _ =>
        Pure.pure (TaggedEntity.unknown tag wrapped))
      (World.note .warn ("Unknown entity type '" ++ tag ++ "'") >>= fun _ =>
        Pure.pure (TaggedEntity.unknown tag wrapped)) :=
    fun tag wrapped => (World.note_alike _ _).bind fun _ => .pure _
  unfold resolve
  split
  · exact .fail _
  · split
    · exact .fail _
    · simp only [registry_bearing]
      split
      · exact hunknown _ _
      · split
        · exact .fail _
        · exact (Agree.ofExcept _).bind fun _ => .pure _

theorem createTag_alike (label : String) (entities : List Resource) :
    World.Alike before token token' ((c.bearing token).createTag label entities)
      ((c.bearing token').createTag label entities) :=
  (Agree.ofExcept _).bind fun body => create_alike htoken htoken' c "tags" none body

theorem addPaymentCard_alike (card : Json) (isDefault : Bool) :
    World.Alike before token token' ((c.bearing token).addPaymentCard card isDefault)
      ((c.bearing token').addPaymentCard card isDefault) :=
  (Agree.ofExcept _).bind fun _ => (World.note_alike _ _).bind fun _ =>
    (post_alike htoken htoken' c _ _).bind fun _ => .pure _

end Client

theorem Resource.getEntity_alike (name : String) :
    World.AlikeBeside before token token' (Resource.getEntity (c.bearing token) name)
      (Resource.getEntity (c.bearing token') name) :=
  (Resource.get_alike htoken htoken' c name).bind fun value =>
    Agree.second (Client.resolve_alike c value.toJson)

theorem Resource.getAs_alike (name : String) (read? : Json → Option α) :
    World.AlikeBeside before token token' (Resource.getAs (c.bearing token) name read?)
      (Resource.getAs (c.bearing token') name read?) := by
  refine (Resource.get_alike htoken htoken' c name).bind fun value => ?_
  cases read? value.toJson with
  | some a => exact .pure _
  | none => exact .fail _

end Operations

/-! ## Sessions -/

inductive Resource.Task : Type → Type 1
  | get (name : String) : Task FieldValue
  | getAs {α : Type} (name : String) (read? : Json → Option α) : Task α
  | getEntity (name : String) : Task TaggedEntity
  | refresh : Task Unit
  | populate (payload : Json) : Task Unit
  | save : Task Bool
  | delete : Task Bool

def Resource.Task.perform {α : Type} (c : Client) : Resource.Task α → Remote α
  | .get name => Resource.get c name
  | .getAs name read? => Resource.getAs c name read?
  | .getEntity name => Resource.getEntity c name
  | .refresh => Resource.refresh c
  | .populate payload => Resource.populate c payload
  | .save => Resource.save c
  | .delete => Resource.delete c

/-- A call of a client. A resource or a list is handed over as it is, and what an operation makes of
it is handed back, also when the operation fails. -/
inductive Client.Task : Type → Type 1
  | connect : Task Unit
  | describe : Task String
  | url (path : String) : Task Url
  | get (path : String) (filter? : Option Filter) : Task Json
  | getPage (path : String) (page : Nat) (filter? : Option Filter) : Task Json
  | post (path : String) (body : Json) : Task Json
  | put (path : String) (body : Json) : Task Json
  | delete (path : String) : Task Json
  | construct (kind : String) (id : Json) (parent? : Option ParentKey) (payload? : Option Json) :
      Task Resource
  | load (kind : String) (id : Json) (parent? : Option ParentKey) : Task Resource
  | create (kind : String) (parent? : Option ParentKey) (body : Json) : Task Resource
  | resolve (payload : Json) : Task TaggedEntity
  | list (kind : String) (parent? : Option ParentKey) (filter? : Option Filter) : Task Listing
  | onList (listing : Listing) (call : Listing.Call) :
      Task (Except Error (Listing.Answer Resource) × Listing)
  | onResource {α : Type} (r : Resource) (task : Resource.Task α) : Task (Except Error α × Resource)
  | createTag (label : String) (entities : List Resource) : Task Resource
  | addPaymentCard (card : Json) (isDefault : Bool) : Task Bool

def Client.Task.perform {α : Type} (c : Client) : Client.Task α → Step World α
  | .connect => return ()
  | .describe => return c.description
  | .url path => .ofExcept (c.url path)
  | .get path filter? => c.get path filter?
  | .getPage path page filter? => c.getPage path page filter?
  | .post path body => c.post path body
  | .put path body => c.put path body
  | .delete path => c.delete path
  | .construct kind id parent? payload? => c.construct kind id parent? payload?
  | .load kind id parent? => c.load kind id parent?
  | .create kind parent? body => c.create kind parent? body
  | .resolve payload => c.resolve payload
  | .list kind parent? filter? => c.list kind parent? filter?
  | .onList listing call => (call.perform c).handing listing
  | .onResource r task => (task.perform c).handing r
  | .createTag label entities => c.createTag label entities
  | .addPaymentCard card isDefault => c.addPaymentCard card isDefault

structure Account where
  config : Config
  registry : Registry

def Account.client (account : Account) (token : String) : Except Error Client :=
  Client.ofConfig { account.config with token? := some token } account.registry

/-- Calls one after another at any times, for any accounts; what is called next may depend on
everything that was returned. A client never changes, so it is named by the account that it is made
for. -/
inductive Session (α : Type) : Type 1
  | done (a : α)
  | wait (nanoseconds : Nat) (next : Session α)
  | call {β : Type} (account : Account) (task : Client.Task β)
      (next : Except Error β → Session α)

def Session.run {α : Type} (token : String) : Session α → World → α × World
  | .done a, w => (a, w)
  | .wait nanoseconds next, w => next.run token { w with now := w.now + nanoseconds }
  | .call account task next, w =>
    let (result, w) := (Step.ofExcept (account.client token) >>= fun c => task.perform c) w
    (next result).run token w

section Sessions
variable {before : List Request} {token token' : String} {α β : Type}

theorem Account.client_eq (account : Account) : ∃ result : Except Error Client,
    ∀ token, account.client token = result.map (Client.bearing token) := by
  refine ⟨Client.ofConfig { account.config with token? := none } account.registry, fun token => ?_⟩
  unfold Account.client Client.ofConfig
  cases hurl : Config.parsedBaseUrl { account.config with token? := none } with
  | error e =>
    have hurl' : Config.parsedBaseUrl { account.config with token? := some token } = .error e := hurl
    rw [hurl']
    rfl
  | ok url =>
    have hurl' : Config.parsedBaseUrl { account.config with token? := some token } = .ok url := hurl
    rw [hurl']
    cases hagent : Exchange.isHeaderText account.config.userAgent <;> rfl

variable (htoken : Exchange.isHeaderText token = true)
  (htoken' : Exchange.isHeaderText token' = true)
include htoken htoken'

theorem Resource.Task.perform_alike (c : Client) (task : Resource.Task α) :
    World.AlikeBeside before token token' (task.perform (c.bearing token))
      (task.perform (c.bearing token')) := by
  cases task with
  | get name => exact Resource.get_alike htoken htoken' c name
  | getAs name read? => exact Resource.getAs_alike htoken htoken' c name read?
  | getEntity name => exact Resource.getEntity_alike htoken htoken' c name
  | refresh => exact Resource.refresh_alike htoken htoken' c
  | populate payload => exact Resource.populate_alike c payload
  | save => exact Resource.save_alike htoken htoken' c
  | delete => exact Resource.delete_alike htoken htoken' c

theorem Client.Task.perform_alike (c : Client) (task : Client.Task α) :
    World.Alike before token token' (task.perform (c.bearing token))
      (task.perform (c.bearing token')) := by
  cases task with
  | connect => exact .pure _
  | describe => exact .pure _
  | url path => exact .ofExcept _
  | get path filter? => exact get_alike htoken htoken' c path filter?
  | getPage path page filter? => exact getPage_alike htoken htoken' c path page filter?
  | post path body => exact post_alike htoken htoken' c path body
  | put path body => exact put_alike htoken htoken' c path body
  | delete path => exact delete_alike htoken htoken' c path
  | construct kind id parent? payload? => exact construct_alike c kind id parent? payload?
  | load kind id parent? => exact load_alike htoken htoken' c kind id parent?
  | create kind parent? body => exact create_alike htoken htoken' c kind parent? body
  | resolve payload => exact resolve_alike c payload
  | list kind parent? filter? => exact list_alike htoken htoken' c kind parent? filter?
  | onList listing call => exact (Listing.Call.perform_alike htoken htoken' c call).handing listing
  | onResource r task => exact (task.perform_alike htoken htoken' c).handing r
  | createTag label entities => exact createTag_alike htoken htoken' c label entities
  | addPaymentCard card isDefault => exact addPaymentCard_alike htoken htoken' c card isDefault

theorem Session.call_alike (account : Account) (task : Client.Task β) :
    World.Alike before token token'
      (Step.ofExcept (account.client token) >>= fun c => task.perform c)
      (Step.ofExcept (account.client token') >>= fun c => task.perform c) := by
  obtain ⟨result, hclient⟩ := account.client_eq
  rw [hclient token, hclient token']
  cases result with
  | error e => exact Agree.fail e
  | ok c => exact task.perform_alike htoken htoken' c

/-- By induction over the session: each call returns the same in both worlds, so the sessions that
follow it are the same. -/
theorem Session.run_twins (session : Session α) {w w' : World} (h : Twins before token token' w w') :
    (session.run token w).1 = (session.run token' w').1 ∧
      Twins before token token' (session.run token w).2 (session.run token' w').2 := by
  induction session generalizing w w' with
  | done a => exact ⟨rfl, h⟩
  | wait nanoseconds next ih =>
    refine ih ⟨h.blind, h.network, ?_, h.log, h.sent⟩
    exact congrArg (· + nanoseconds) h.now
  | call account task next ih =>
    obtain ⟨hresult, hworld⟩ := Session.call_alike htoken htoken' account task w w' h
    unfold Session.run
    dsimp only
    rw [hresult]
    exact ih _ hworld

/-- Under two tokens a session returns and logs the same and sends the same requests, each with its
own token as the authorization and with no other trace of it. The network may be any that does not
look at the authorization, such as one that gives its answers from a script. -/
theorem token_only_authorizes :
    (∀ script, (Network.scripted script).Blind) ∧
    ∀ (session : Session α) (w : World), w.network.Blind →
      (session.run token w).1 = (session.run token' w).1 ∧
      (session.run token w).2.log = (session.run token' w).2.log ∧
      ∃ rs : List Request,
        (session.run token w).2.sent = w.sent ++ rs.map (Request.bearing token) ∧
        (session.run token' w).2.sent = w.sent ++ rs.map (Request.bearing token') := by
  refine ⟨Network.scripted_blind, fun session w hblind => ?_⟩
  obtain ⟨hresult, htwins⟩ :=
    session.run_twins htoken htoken' (Twins.refl hblind token token')
  exact ⟨hresult, htwins.log.symm, htwins.sent⟩

end Sessions

def labelSession : Session (Option FieldValue) :=
  let account : Account := ⟨{ baseUrl := "http://mock" }, .nodeRegistry⟩
  .call account (.load "node" (.int 1) none) fun result =>
    .done (result.toOption.map fun r => r.peek "label")

def scriptedWorld : World where
  network := Network.scripted
    [some ⟨200, (Json.obj [("label", .str "web")]).compact.toList.flatMap Utf8.encode⟩]

theorem token_only_authorizes_label :
    (labelSession.run "red" scriptedWorld).1 = (labelSession.run "blue" scriptedWorld).1 ∧
    (labelSession.run "red" scriptedWorld).2.log = (labelSession.run "blue" scriptedWorld).2.log ∧
    (labelSession.run "red" scriptedWorld).2.sent.map Request.authorization? = [some "Bearer red"] ∧
    ∃ rs : List Request,
      (labelSession.run "red" scriptedWorld).2.sent = rs.map (Request.bearing "red") ∧
      (labelSession.run "blue" scriptedWorld).2.sent = rs.map (Request.bearing "blue") := by
  have hred : Exchange.isHeaderText "red" = true := by decide
  have hblue : Exchange.isHeaderText "blue" = true := by decide
  obtain ⟨hscripts, hsessions⟩ := token_only_authorizes (α := Option FieldValue) hred hblue
  obtain ⟨hresult, hlog, hsent⟩ := hsessions labelSession scriptedWorld (hscripts _)
  exact ⟨hresult, hlog, by decide +kernel, hsent⟩

end CloudClient
