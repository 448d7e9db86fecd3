import CloudClient.Catalog
import CloudClient.Proofs.Client.BaseUrl
import CloudClient.Proofs.Resource.Ending
import CloudClient.Proofs.Text
import CloudClient.Tagging

/-!
# Tagging

All that can be wrong with a tag is found before anything is sent. What is sent is one request, and
its body lists each entity once for every time that it was named, under the key of its type and in
the order that they were named.
-/

namespace CloudClient

namespace Tagging
variable {label : String} {entities seen : List Resource} {text : Json} {body body' : Dict Json}
  {key : String} {r : Resource}

/-- The types that can be tagged, with the keys that their ids are listed under. -/
def taggable : List (String × String) :=
  [("instances", "linodes"), ("domains", "domains"), ("volumes", "volumes"),
   ("nodebalancers", "nodebalancers")]

theorem bodyKey?_eq_some {kind : String} : bodyKey? kind = some key ↔ (kind, key) ∈ taggable := by
  unfold bodyKey?
  split
  · simp_all [taggable, eq_comm]
  · split
    · simp_all [taggable, eq_comm]
    · split
      · simp_all [taggable, eq_comm]
      · split <;> simp_all [taggable, eq_comm]

def Taggable (r : Resource) : Prop := ∃ key, (r.kind, key) ∈ taggable

/-! ## The body -/

def idsOf (kind : String) (entities : List Resource) : List Json :=
  (entities.filter fun r => r.kind = kind).map Resource.id

def listed : List Json → Option Json
  | [] => none
  | ids => some (.arr ids)

theorem listed_concat (ids : List Json) (id : Json) :
    listed (ids ++ [id]) = some (.arr (ids ++ [id])) := by
  cases ids <;> rfl

structure Tags (label : String) (entities : List Resource) (body : Dict Json) : Prop where
  sorted : Dict.Sorted body
  label : ∃ kept, Text.Trimmed label.toList kept ∧ kept ≠ [] ∧
    Dict.get? body "label" = some (.str (String.ofList kept))
  ids : ∀ kind key, (kind, key) ∈ taggable → Dict.get? body key = listed (idsOf kind entities)
  others : ∀ key, key ≠ "label" → (∀ kind, (kind, key) ∉ taggable) → Dict.get? body key = none

def idsUnder (key : String) (entities : List Resource) : List Json :=
  (entities.filter fun r => bodyKey? r.kind = some key).map Resource.id

/-- What the entities that have been seen make of a body that held only a label. -/
structure Lists (text : Json) (seen : List Resource) (body : Dict Json) : Prop where
  sorted : Dict.Sorted body
  label : Dict.get? body "label" = some text
  ids : ∀ key, key ≠ "label" → Dict.get? body key = listed (idsUnder key seen)

theorem addId_eq {ids : List Json} (h : Dict.get? body key = listed ids) (id : Json) :
    addId body key id = Dict.insert body key (.arr (ids ++ [id])) := by
  unfold addId
  rw [h]
  cases ids <;> rfl

theorem ne_label (h : bodyKey? r.kind = some key) : key ≠ "label" := by
  have hmem := bodyKey?_eq_some.mp h
  rintro rfl
  simp [taggable] at hmem

theorem Lists.addId (h : Lists text seen body) (hkey : bodyKey? r.kind = some key) :
    Lists text (seen ++ [r]) (addId body key r.id) := by
  have hne := ne_label hkey
  rw [addId_eq (h.ids key hne)]
  refine ⟨h.sorted.insert _ _, ?_, fun other hother => ?_⟩
  · rw [Dict.get?_insert_of_ne _ _ hne.symm, h.label]
  · by_cases heq : other = key
    · subst heq
      simp [Dict.get?_insert_self, idsUnder, List.filter_append, hkey, ← listed_concat]
    · rw [Dict.get?_insert_of_ne _ _ heq, h.ids other hother]
      simp [idsUnder, List.filter_append, hkey, Ne.symm heq]

theorem Lists.addEntities (h : Lists text seen body) (hentities : ∀ r ∈ entities, Taggable r) :
    ∃ body', addEntities body entities = .ok body' ∧ Lists text (seen ++ entities) body' := by
  induction entities generalizing seen body with
  | nil => exact ⟨body, rfl, by rwa [List.append_nil]⟩
  | cons r rest ih =>
    obtain ⟨⟨key, hmem⟩, hrest⟩ := List.forall_mem_cons.mp hentities
    have hkey := bodyKey?_eq_some.mpr hmem
    obtain ⟨body', hadded, hlists⟩ := ih (h.addId hkey) hrest
    refine ⟨body', ?_, ?_⟩
    · rw [Tagging.addEntities, hkey]
      exact hadded
    · rwa [List.append_assoc] at hlists

theorem kind_eq {kind other : String} (h : (kind, key) ∈ taggable) (h' : (other, key) ∈ taggable) :
    other = kind := by
  have hone : ∀ p ∈ taggable, ∀ q ∈ taggable, p.2 = q.2 → p.1 = q.1 := by decide
  exact hone _ h' _ h rfl

theorem Lists.tags {kept : List Char} (h : Lists (.str (String.ofList kept)) entities body)
    (hlabel : Text.Trimmed label.toList kept) (hkept : kept ≠ []) : Tags label entities body where
  sorted := h.sorted
  label := ⟨kept, hlabel, hkept, h.label⟩
  ids kind key hmem := by
    have hkind : ∀ r : Resource, bodyKey? r.kind = some key ↔ r.kind = kind := fun r =>
      bodyKey?_eq_some.trans ⟨kind_eq hmem, fun heq => heq ▸ hmem⟩
    rw [h.ids key (by rintro rfl; simp [taggable] at hmem), idsUnder, idsOf]
    simp only [hkind]
  others key hne hnone := by
    have hkind : ∀ r : Resource, bodyKey? r.kind ≠ some key := fun r hkey =>
      hnone r.kind (bodyKey?_eq_some.mp hkey)
    rw [h.ids key hne, idsUnder]
    simp [hkind, listed]

/-! ## Refusals -/

def Blank (label : String) : Prop := ∀ c ∈ label.toList, Text.isBlank c = true

/-- What is wrong with a tag: its label, and otherwise the first entity that takes no tags. -/
inductive Refusal (label : String) (entities : List Resource) : String → Prop
  | label (h : Blank label) : Refusal label entities "tag label cannot be empty"
  | entity {before after : List Resource} {r : Resource} (hlabel : ¬ Blank label)
      (hentities : entities = before ++ r :: after) (hbefore : ∀ e ∈ before, Taggable e)
      (hr : ¬ Taggable r) : Refusal label entities (r.nameWithId ++ " cannot be tagged")

theorem addEntities_refused (h : ∃ r ∈ entities, ¬ Taggable r) (body : Dict Json) :
    ∃ before r after, entities = before ++ r :: after ∧ (∀ e ∈ before, Taggable e) ∧
      ¬ Taggable r ∧ addEntities body entities =
        .error (.invalidInput (r.nameWithId ++ " cannot be tagged")) := by
  induction entities generalizing body with
  | nil => simp at h
  | cons first rest ih =>
    cases hkey : bodyKey? first.kind with
    | none =>
      refine ⟨[], first, rest, rfl, nofun, ?_, by rw [addEntities, hkey]⟩
      rintro ⟨key, hmem⟩
      cases hkey.symm.trans (bodyKey?_eq_some.mpr hmem)
    | some key =>
      have hfirst : Taggable first := ⟨key, bodyKey?_eq_some.mp hkey⟩
      have hrest : ∃ r ∈ rest, ¬ Taggable r := by
        obtain ⟨r, hr, hnot⟩ := h
        rcases List.mem_cons.mp hr with rfl | hr
        · exact absurd hfirst hnot
        · exact ⟨r, hr, hnot⟩
      obtain ⟨before, r, after, rfl, hbefore, hr, hrefused⟩ := ih hrest (addId body key first.id)
      refine ⟨first :: before, r, after, rfl, List.forall_mem_cons.mpr ⟨hfirst, hbefore⟩, hr, ?_⟩
      rw [addEntities, hkey]
      exact hrefused

theorem body_eq (h : ¬ Blank label) (entities : List Resource) :
    Tagging.body label entities =
      (addEntities [("label", .str (String.ofList (Text.trim label.toList)))] entities).map
        Json.obj := by
  have hkept : (Text.trim label.toList).isEmpty = false := by simpa using mt Text.trim_eq_nil.mp h
  rw [Tagging.body, hkept]
  cases addEntities [("label", .str (String.ofList (Text.trim label.toList)))] entities <;> rfl

theorem body_refused (h : Blank label ∨ ∃ r ∈ entities, ¬ Taggable r) :
    ∃ reason, Refusal label entities reason ∧
      Tagging.body label entities = .error (.invalidInput reason) := by
  by_cases hlabel : Blank label
  · refine ⟨_, .label hlabel, ?_⟩
    rw [Tagging.body, Text.trim_eq_nil.mpr hlabel]
    rfl
  · obtain ⟨before, r, after, hentities, hbefore, hr, hrefused⟩ :=
      addEntities_refused (h.resolve_left hlabel)
        [("label", .str (String.ofList (Text.trim label.toList)))]
    refine ⟨_, .entity hlabel hentities hbefore hr, ?_⟩
    rw [body_eq hlabel, hrefused]
    rfl

theorem body_tags (hlabel : ¬ Blank label) (hentities : ∀ r ∈ entities, Taggable r) :
    ∃ body, Tagging.body label entities = .ok (.obj body) ∧ Tags label entities body := by
  have hstart : Lists (.str (String.ofList (Text.trim label.toList))) []
      [("label", .str (String.ofList (Text.trim label.toList)))] := by
    refine ⟨List.pairwise_singleton _ _, rfl, fun key hne => ?_⟩
    simp [Dict.get?, Ne.symm hne, idsUnder, listed]
  obtain ⟨body, hadded, hlists⟩ := hstart.addEntities hentities
  refine ⟨body, ?_, hlists.tags (Text.trimmed_trim _) (mt Text.trim_eq_nil.mp hlabel)⟩
  rw [body_eq hlabel, hadded]
  rfl

end Tagging

/-! ## Requests -/

namespace Client
open Step (Ends Silent)
variable {config : Config} {b : Url} {client : Client} {label : String} {entities : List Resource}
  {w : World} {body : Dict Json}

def tagsUrl (client : Client) : Except Error Url := do
  let type ← client.registry.get "tags"
  let path ← Endpoint.collection type none
  client.url path

def tagRequest (client : Client) (body : Dict Json) (url : Url) : Request :=
  { client.request .post url with body? := some (Json.obj body).compact }

/-- The requests that are made to create a tag, and the world's record of requests after them. One
request is made if the tags have an address and it can be sent at all; it may be lost. -/
inductive Posts (client : Client) (body : Dict Json) (w : World) :
    List Request → List Request → Prop
  | unaddressed {e : Error} (h : client.tagsUrl = .error e) : Posts client body w [] w.sent
  | unsendable {url : Url} (hurl : client.tagsUrl = .ok url)
      (h : Exchange.fault? (client.tagRequest body url) ≠ none) : Posts client body w [] w.sent
  | lost {url : Url} (hurl : client.tagsUrl = .ok url)
      (hfault : Exchange.fault? (client.tagRequest body url) = none)
      (h : w.network w.sent (client.tagRequest body url) = .undelivered) :
      Posts client body w [client.tagRequest body url] w.sent
  | arrived {url : Url} (hurl : client.tagsUrl = .ok url)
      (hfault : Exchange.fault? (client.tagRequest body url) = none)
      (h : w.network w.sent (client.tagRequest body url) ≠ .undelivered) :
      Posts client body w [client.tagRequest body url] (w.sent ++ [client.tagRequest body url])

theorem Posts.of_log {log : Log} {tried sent : List Request}
    (h : Posts client body { w with log } tried sent) : Posts client body w tried sent := by
  cases h with
  | unaddressed h => exact .unaddressed h
  | unsendable hurl h => exact .unsendable hurl h
  | lost hurl hfault h => exact .lost hurl hfault h
  | arrived hurl hfault h => exact .arrived hurl hfault h

theorem posts_of_unaddressed {x : Step World Resource} {e : Error} (h : client.tagsUrl = .error e)
    (hsent : ∀ v, (x v).2.sent = v.sent) (w : World) :
    Posts client body w ((Step.second x : Step (Unit × World) Resource).tried () w)
      (x w).2.sent := by
  have htried : (Step.second x : Step (Unit × World) Resource).tried () w = [] :=
    Step.tried_eq (by rw [List.append_nil]; exact hsent w.recording)
  rw [htried, hsent]
  exact .unaddressed h

theorem sent_bind {α β : Type} {x : Step World α} {f : α → Step World β}
    (hf : ∀ a, Silent (Step.second (f a) : Step (Unit × World) β)) (w : World) :
    ((x >>= f) w).2.sent = (x w).2.sent := by
  cases hx : (x w).1 with
  | error e => rw [Step.bind_of_error (Prod.ext hx rfl)]
  | ok a =>
    rw [Step.bind_of_ok (Prod.ext hx rfl)]
    exact (hf a () (x w).2).2.1

theorem send_posts {url : Url} (hurl : client.tagsUrl = .ok url) (body : Dict Json) (w : World) :
    Posts client body w
      ((Step.second (Exchange.send (client.tagRequest body url)) :
        Step (Unit × World) Json).tried () w)
      (Exchange.send (client.tagRequest body url) w).2.sent := by
  cases hfault : Exchange.fault? (client.tagRequest body url) with
  | some fault =>
    rw [Exchange.send_untried hfault, (Exchange.send_of_fault hfault w).2]
    exact .unsendable hurl (by simp [hfault])
  | none =>
    rw [Exchange.send_tried hfault]
    rcases Exchange.send_recorded (client.tagRequest body url) w with
      ⟨harrives, hsent⟩ | ⟨hlost, hsent⟩
    · rw [hsent]
      exact .arrived hurl hfault harrives.2
    · rw [hsent]
      exact .lost hurl hfault (not_not.mp fun h => hlost ⟨hfault, h⟩)

theorem posts_of_send {tail : Json → Step World Resource} {message : String} {url : Url}
    {x : Step World Resource} (hurl : client.tagsUrl = .ok url)
    (htail : ∀ answer, Silent (Step.second (tail answer) : Step (Unit × World) Resource))
    (hrun : ∀ v, x v = (World.note .info message >>= fun _ =>
      Exchange.send (client.tagRequest body url) >>= tail) v) :
    Posts client body w ((Step.second x : Step (Unit × World) Resource).tried () w)
      (x w).2.sent := by
  let noted : World := { w with log := w.log ++ [⟨.info, message⟩] }
  have htried : (Step.second x : Step (Unit × World) Resource).tried () w =
      (Step.second (Exchange.send (client.tagRequest body url)) :
        Step (Unit × World) Json).tried () noted := by
    rw [← (Exchange.send_ends _).tried_bind htail, ← Step.second_bind, Step.tried,
      Step.second_apply, hrun]
    rfl
  have hsent : (x w).2.sent = (Exchange.send (client.tagRequest body url) noted).2.sent := by
    rw [← sent_bind htail, hrun]
    rfl
  rw [htried, hsent]
  exact (send_posts hurl body noted).of_log

def created (client : Client) (type : ResourceType) (parent? : Option ParentKey) (answer : Json) :
    Step World Resource :=
  if (answer.getSome? type.idField).isNone then
    .fail (.unexpectedResponse ("unexpected response creating " ++ type.displayName) answer)
  else do
    let now ← Step.read World.now
    World.logged (Resource.ofItem client.registry now type parent? answer)

theorem created_silent (type : ResourceType) (parent? : Option ParentKey) (answer : Json) :
    Silent (Step.second (created client type parent? answer) : Step (Unit × World) Resource) := by
  unfold created
  split <;> exact .second fun _ => ⟨rfl, rfl, rfl⟩

theorem create_eq {kind path : String} {type : ResourceType} {parent? : Option ParentKey}
    (htype : client.registry.get kind = .ok type)
    (hpath : Endpoint.collection type parent? = .ok path) (body : Json) :
    client.create kind parent? body =
      (World.note .info ("Creating " ++ type.displayName ++ " at " ++ path) >>= fun _ =>
        client.post path body >>= created client type parent?) := by
  unfold create
  rw [htype]
  change (Step.ofExcept (Endpoint.collection type parent?) >>= _) = _
  rw [hpath]
  rfl

theorem createTag_eq (hbody : Tagging.body label entities = .ok (.obj body)) :
    client.createTag label entities = client.create "tags" none (.obj body) := by
  rw [createTag, hbody]
  rfl

theorem createTag_addressed {url : Url} (hbody : Tagging.body label entities = .ok (.obj body))
    (hurl : client.tagsUrl = .ok url) : ∃ type message, client.createTag label entities =
      (World.note .info message >>= fun _ =>
        Exchange.send (client.tagRequest body url) >>= created client type none) := by
  obtain ⟨type, htype, hurl⟩ := Except.bind_eq_ok.mp hurl
  obtain ⟨path, hpath, haddress⟩ := Except.bind_eq_ok.mp hurl
  have hpost : client.post path (.obj body) = Exchange.send (client.tagRequest body url) := by
    rw [post, haddress]
    rfl
  exact ⟨type, _, by rw [createTag_eq hbody, create_eq htype hpath, hpost]⟩

theorem createTag_unaddressed {e : Error} (hbody : Tagging.body label entities = .ok (.obj body))
    (h : client.tagsUrl = .error e) (v : World) :
    (client.createTag label entities v).2.sent = v.sent := by
  rw [createTag_eq hbody]
  cases htype : client.registry.get "tags" with
  | error e =>
    rw [create, htype]
    rfl
  | ok type =>
    cases hpath : Endpoint.collection type none with
    | error e =>
      rw [create, htype]
      change ((Step.ofExcept (Endpoint.collection type none) >>= _) v).2.sent = _
      rw [hpath]
      rfl
    | ok path =>
      have haddress : client.url path = .error e := by
        rw [tagsUrl, htype] at h
        change (Endpoint.collection type none >>= client.url) = _ at h
        rwa [hpath] at h
      have hpost : client.post path (.obj body) = Step.ofExcept (.error e) := by
        rw [post, haddress]
        rfl
      rw [create_eq htype hpath, hpost]
      rfl

theorem createTag_posts (hbody : Tagging.body label entities = .ok (.obj body)) (w : World) :
    Posts client body w
      ((Step.second (client.createTag label entities) : Step (Unit × World) Resource).tried () w)
      (client.createTag label entities w).2.sent := by
  cases hurl : client.tagsUrl with
  | error e => exact posts_of_unaddressed hurl (createTag_unaddressed hbody hurl) w
  | ok url =>
    obtain ⟨type, message, hrun⟩ := createTag_addressed hbody hurl
    exact posts_of_send hurl (created_silent type none) fun v => congrFun hrun v

/-! ## The tags of the built-in types -/

def Writable (client : Client) : Prop :=
  ∀ token, client.token? = some token → Exchange.isHeaderText token = true

theorem Based.over (h : client.Based config b) (hhttp : Exchange.isHttp b = true) :
    client.Over config b :=
  ⟨⟨_, h.made⟩, h.base, hhttp⟩

theorem builtin_tags : ∃ type, Builtin.registry.get "tags" = .ok type ∧
    Endpoint.collection type none = .ok (String.ofList (Endpoint.path ["tags".toList])) := by
  have htags : (Builtin.registry.types.get? "tags").map (fun t => (t.collection, t.parentIds)) =
      some ("/tags", []) := by decide +kernel
  obtain ⟨type, htype, h⟩ := Option.map_eq_some_iff.mp htags
  obtain ⟨hcollection, hparents⟩ := Prod.mk.inj h
  refine ⟨type, Registry.get_eq_ok.mpr htype, ?_⟩
  rw [Endpoint.collection, hcollection, Endpoint.format, Endpoint.checkParent, hparents]
  rfl

theorem fault?_tagRequest (hbased : client.Based config b) (hhttp : Exchange.isHttp b = true)
    (htoken : client.Writable) (body : Dict Json) (path : UrlPath) :
    Exchange.fault? (client.tagRequest body { b with path }) = none := by
  have hhost := Url.parse_host hbased.parse_base (Resource.isWeb_of_isHttp hhttp)
  refine Exchange.fault?_eq_none.mpr ⟨hhost, ?_, hhttp⟩
  cases htext : client.token? with
  | none => simp [tagRequest, request, htext]
  | some token =>
    have hheader := htoken token htext
    simp_all [tagRequest, request, Exchange.isHeaderText, Text.isControl]

theorem Based.tagsUrl (hbased : client.Based config b) (hhttp : Exchange.isHttp b = true) :
    ∃ root n, b.path = .segments (root ++ List.replicate n []) ∧
      client.tagsUrl = .ok { b with path := .segments (root ++ ["tags".toList]) } := by
  obtain ⟨root, n, hroot, hurl, -⟩ :=
    (hbased.over hhttp).url_of_plain hbased.plain hbased.query hbased.fragment
  obtain ⟨type, htype, hpath⟩ := builtin_tags
  refine ⟨root, n, hroot, ?_⟩
  rw [Client.tagsUrl, (ofConfig_fields hbased.made).2, htype]
  change (Endpoint.collection type none >>= client.url) = _
  rw [hpath]
  have hall : ("tags".toList.all fun c => !Url.inPathSet c && !Url.isSlash true c) = true := by
    decide +kernel
  simp only [List.all_eq_true, Bool.and_eq_true, Bool.not_eq_true'] at hall
  have hwhole : Url.Whole "tags".toList :=
    ⟨⟨rfl, rfl, fun c hc => (hall c hc).1⟩, by decide, fun c hc => (hall c hc).2⟩
  exact hurl (steady_of_whole (List.cons_ne_nil _ _) (List.forall_mem_singleton.mpr hwhole))

/-- A tag that is refused sends nothing, wherever the entity stands that takes no tags. Any other is
created with one request, whose body lists the entities of each type. Under a web address the tags
of the built-in types are found below it, and the request can be sent if the token can. -/
theorem createTag_checks_first (client : Client) (label : String) (entities : List Resource)
    (w : World) :
    (Tagging.Blank label ∨ (∃ r ∈ entities, ¬ Tagging.Taggable r) →
      ∃ reason, Tagging.Refusal label entities reason ∧
        client.createTag label entities w = (.error (.invalidInput reason), w)) ∧
    (¬ Tagging.Blank label → (∀ r ∈ entities, Tagging.Taggable r) →
      ∃ body, Tagging.Tags label entities body ∧ Posts client body w
        ((Step.second (client.createTag label entities) : Step (Unit × World) Resource).tried () w)
        (client.createTag label entities w).2.sent) ∧
    ∀ config b, client.Based config b → Exchange.isHttp b = true → client.Writable →
      ∃ root n url, b.path = .segments (root ++ List.replicate n []) ∧
        url = { b with path := .segments (root ++ ["tags".toList]) } ∧ client.tagsUrl = .ok url ∧
        ∀ body, Exchange.fault? (client.tagRequest body url) = none := by
  refine ⟨fun hwrong => ?_, fun hlabel hentities => ?_, fun config b hbased hhttp htoken => ?_⟩
  · obtain ⟨reason, hrefusal, hbody⟩ := Tagging.body_refused hwrong
    refine ⟨reason, hrefusal, ?_⟩
    rw [createTag, hbody]
    rfl
  · obtain ⟨body, hbody, htags⟩ := Tagging.body_tags hlabel hentities
    exact ⟨body, htags, createTag_posts hbody w⟩
  · obtain ⟨root, n, hroot, hurl⟩ := hbased.tagsUrl hhttp
    exact ⟨root, n, _, hroot, rfl, hurl,
      fun body => fault?_tagRequest hbased hhttp htoken body _⟩

def entity (kind : String) (id : Json) : Resource :=
  { (default : Resource) with type := { (default : ResourceType) with key := kind }, id }

def answering : World where
  network := fun _ _ => .ofJson (.obj [("label", .str "red")])

/-- An instance that is named twice is listed twice, and a disk among the entities sends nothing. -/
theorem createTag_checks_first_twice :
    (∃ body url, Dict.get? body "linodes" = some (.arr [.nat 7, .nat 7]) ∧
      Dict.get? body "volumes" = some (.arr [.str "x"]) ∧ Dict.get? body "domains" = none ∧
      (Resource.mock.createTag " red\n" [entity "instances" (.nat 7), entity "volumes" (.str "x"),
        entity "instances" (.nat 7)] answering).2.sent = [Resource.mock.tagRequest body url]) ∧
    ∃ reason, Resource.mock.createTag "red" [entity "instances" (.nat 7), entity "disks" (.nat 1)]
      answering = (.error (.invalidInput reason), answering) := by
  constructor
  · obtain ⟨-, hsends, hbuiltin⟩ := createTag_checks_first Resource.mock " red\n"
      [entity "instances" (.nat 7), entity "volumes" (.str "x"), entity "instances" (.nat 7)]
      answering
    have hlabel : ¬ Tagging.Blank " red\n" := by
      intro hblank
      cases hblank 'r' (by decide)
    have hentities : ∀ r ∈ [entity "instances" (.nat 7), entity "volumes" (.str "x"),
        entity "instances" (.nat 7)], Tagging.Taggable r := by
      have hinstance : Tagging.Taggable (entity "instances" (.nat 7)) := ⟨"linodes", by decide⟩
      have hvolume : Tagging.Taggable (entity "volumes" (.str "x")) := ⟨"volumes", by decide⟩
      simp [hinstance, hvolume]
    obtain ⟨body, htags, hposts⟩ := hsends hlabel hentities
    obtain ⟨root, n, url, -, -, hurl, hsendable⟩ :=
      hbuiltin Resource.mockConfig Resource.mockBase Resource.mock_based (by decide) nofun
    refine ⟨body, url, htags.ids "instances" _ (by decide),
      htags.ids "volumes" _ (by decide), htags.ids "domains" _ (by decide), ?_⟩
    generalize (Resource.mock.createTag _ _ answering).2.sent = sent,
      Step.tried _ () answering = tried at hposts
    cases hposts with
    | unaddressed h => cases h.symm.trans hurl
    | unsendable hurl' h =>
      cases hurl'.symm.trans hurl
      exact absurd (hsendable body) h
    | lost _ _ h => cases h
    | arrived hurl' =>
      cases hurl'.symm.trans hurl
      rfl
  · obtain ⟨hrefused, -⟩ := createTag_checks_first Resource.mock "red"
      [entity "instances" (.nat 7), entity "disks" (.nat 1)] answering
    have hdisk : ¬ Tagging.Taggable (entity "disks" (.nat 1)) := by
      rintro ⟨key, hmem⟩
      simp [Tagging.taggable, entity, Resource.kind] at hmem
    obtain ⟨reason, -, hrun⟩ := hrefused (.inr ⟨_, by simp, hdisk⟩)
    exact ⟨reason, hrun⟩

end Client
end CloudClient
