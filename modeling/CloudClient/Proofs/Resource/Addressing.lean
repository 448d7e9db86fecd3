import CloudClient.Proofs.Endpoint.Segments
import CloudClient.Proofs.Resource.Requests
import CloudClient.Proofs.Url.Join

/-!
# Where requests for a resource go

Under a base without query and fragment the address of an item is the base with a path that goes on
from its own, one segment for each slot of the endpoint, and the segment of a placeholder decodes to
its own id, exactly if no id is a dot segment: these have no encoding, and reading the joined address
as a URL resolves them.
-/

namespace CloudClient

/-! ## The base -/

namespace Client

theorem trimSlashes_append (s : List Char) :
    ∃ count, s = trimSlashes s ++ List.replicate count '/' := by
  refine ⟨(s.reverse.takeWhile (· = '/')).length, ?_⟩
  have hslashes : (s.reverse.takeWhile (· = '/')).reverse =
      List.replicate (s.reverse.takeWhile (· = '/')).length '/' := by
    refine List.eq_replicate_iff.mpr ⟨List.length_reverse, fun c hc => ?_⟩
    simpa using List.mem_takeWhile_imp (List.mem_reverse.mp hc)
  rw [← hslashes, trimSlashes, ← List.reverse_append, List.takeWhile_append_dropWhile,
    List.reverse_reverse]

/-- A client made from a configuration whose base URL has neither query nor fragment and ends in no
blank that a longer text would keep. -/
structure Based (config : Config) (b : Url) (client : Client) : Prop where
  made : ofConfig config Builtin.registry = .ok client
  base : config.parsedBaseUrl = .ok b
  query : b.query? = none
  fragment : b.fragment? = none
  plain : Url.EndsPlainly config.baseUrl.toList

variable {config : Config} {b u : Url} {client : Client}

theorem parse_of_parsedBaseUrl (h : config.parsedBaseUrl = .ok b) :
    Url.parse config.baseUrl = .ok b := by
  unfold Config.parsedBaseUrl at h
  split at h
  · rename_i hparse
    cases h
    exact hparse
  · cases h

theorem Based.parse_base (h : client.Based config b) : Url.parse config.baseUrl = .ok b :=
  parse_of_parsedBaseUrl h.base

theorem ofConfig_fields {registry : Registry} (h : ofConfig config registry = .ok client) :
    client.baseUrl = String.ofList (trimSlashes config.baseUrl.toList) ∧
      client.registry = registry := by
  obtain ⟨_, -, h⟩ := Except.bind_eq_ok.mp h
  obtain ⟨-, h⟩ := Except.guard_eq_ok.mp h
  cases h
  exact ⟨rfl, rfl⟩

def joined (config : Config) (path : List Char) : String :=
  String.ofList (trimSlashes config.baseUrl.toList ++ '/' :: path.dropWhile (· = '/'))

theorem url_eq_ok {registry : Registry} (h : ofConfig config registry = .ok client)
    {path : List Char} :
    client.url (String.ofList path) = .ok u ↔ Url.parse (joined config path) = .ok u := by
  have htext : client.baseUrl ++ "/" ++ String.ofList (path.dropWhile (· = '/')) =
      joined config path := by
    rw [(ofConfig_fields h).1]
    simp [joined, ← String.toList_inj]
  rw [url, String.toList_ofList, htext]
  split <;> simp_all

end Client

/-! ## Addresses -/

namespace Resource
open Endpoint (Slot Undotted)
variable {config : Config} {client : Client} {b u : Url} {r s : Resource}
  {parents others : List String} {id other : String}

structure Textual (r : Resource) (parents : List String) (id : String) : Prop where
  builtin : ∃ key, Builtin.registry.get key = .ok r.type
  own : r.id = .str id
  under : Endpoint.parentIds r.parent? = parents.map Json.str
  count : parents.length = r.type.parentIds.length

/-- The URL is the base with a path that goes on from a root by one segment for each slot of the
endpoint, each the text of its slot or one that decodes to the id that it is the place of. -/
def Fills (r : Resource) (b : Url) (root : List (List Char)) (parents : List String) (id : String)
    (u : Url) : Prop :=
  ∃ segments, u = { b with path := .segments (root ++ segments) } ∧
    List.Forall₂ (Slot.Holds (r.type.namedIds parents id)) r.type.slots segments

theorem Textual.templated (h : r.Textual parents id) : r.type.Templated := by
  obtain ⟨key, hkey⟩ := h.builtin
  exact ResourceType.builtin_templated hkey

theorem Textual.address_eq_ok (h : r.Textual parents id) (hbased : client.Based config b) :
    r.address client = .ok u ↔
      Url.parse (Client.joined config (Endpoint.path (r.type.segments parents id))) = .ok u := by
  have hendpoint : r.endpoint =
      .ok (String.ofList (Endpoint.path (r.type.segments parents id))) := by
    rw [endpoint, h.own]
    exact h.templated.item_eq h.under h.count
  rw [address, hendpoint]
  exact Client.url_eq_ok hbased.made

theorem Textual.address_scheme (h : r.Textual parents id) (hbased : client.Based config b)
    (hu : r.address client = .ok u) : u.scheme = b.scheme := by
  obtain ⟨count, hraw⟩ := Client.trimSlashes_append config.baseUrl.toList
  exact Url.scheme_joined hraw hbased.plain hbased.parse_base
    (fun _ hc => (ResourceType.plain_of_mem_path hc).1) ((h.address_eq_ok hbased).mp hu)

theorem isWeb_of_isHttp (h : Exchange.isHttp b = true) : Url.isWeb b.scheme = true := by
  have hscheme : String.ofList b.scheme = "http" ∨ String.ofList b.scheme = "https" := by
    simpa [Exchange.isHttp] using h
  rw [Url.isWeb]
  rcases hscheme with hscheme | hscheme <;> rw [hscheme] <;> decide

/-- The path of an item is resolved from a root that the base alone determines. -/
theorem exists_root (hbased : client.Based config b) (hhttp : Exchange.isHttp b = true) :
    ∃ root n, b.path = .segments (root ++ List.replicate n []) ∧
      ∀ {r : Resource} {parents id}, r.Textual parents id → r.address client = .ok
        { b with path := .segments (Url.resolve false root (r.type.segments parents id)) } := by
  obtain ⟨count, hraw⟩ := Client.trimSlashes_append config.baseUrl.toList
  obtain ⟨root, n, hroot, hparse⟩ := Url.parse_joined hraw hbased.plain hbased.parse_base
    (isWeb_of_isHttp hhttp) hbased.query hbased.fragment
  refine ⟨root, n, hroot, fun {r parents id} h => (h.address_eq_ok hbased).mpr ?_⟩
  have hplain : ∀ c ∈ (Endpoint.path (r.type.segments parents id)).dropWhile (· = '/'),
      Url.isEdge c = false ∧ Url.isPathEnd c = false := fun _ => ResourceType.plain_of_mem_path
  have hjoined := hparse _ (fun c hc => (hplain c hc).1) fun c hc => (hplain c hc).2
  rw [h.templated.pieces_path parents id] at hjoined
  exact hjoined

structure Addresses (client : Client) (b : Url) (root : List (List Char)) : Prop where
  filled : ∀ {r : Resource} {parents id}, r.Textual parents id →
    ∃ u, r.address client = .ok u ∧ (r.Fills b root parents id u ↔ Undotted (parents ++ [id]))
  distinct : ∀ {r s : Resource} {parents others id other}, r.Textual parents id →
    s.Textual others other → s.type = r.type → Undotted (parents ++ [id]) →
    Undotted (others ++ [other]) → r.address client = s.address client →
    parents = others ∧ id = other

theorem segments_injective (hr : r.Textual parents id) (hs : s.Textual others other)
    (htype : s.type = r.type) (h : r.type.segments parents id = s.type.segments others other) :
    parents = others ∧ id = other := by
  have hcount := hs.count
  rw [htype] at h hcount
  exact hr.templated.contents_injective hr.count hcount
    (List.map_injective_iff.mpr (fun _ _ => Percent.encodeSegment_injective) h)

/-- Every request goes to the address of its resource. Under a base that is no web address none is
sent; under one that is, the addresses of items go on from the base as their slots say, and different
ids have different ones, but for the ids that are dot segments. -/
theorem requests_addressed (hbased : client.Based config b) :
    (∀ (o : Operation) r w, Sends client r w (o.request client r ·) (o.run client r w).sent) ∧
    (Exchange.isHttp b = false → ∀ (o : Operation) r w parents id, Textual r parents id →
      (o.run client r w).sent = w.sent) ∧
    (Exchange.isHttp b = true → ∃ root n, b.path = .segments (root ++ List.replicate n []) ∧
      Addresses client b root) := by
  refine ⟨Operation.run_sends client, fun hhttp o r w parents id hr => ?_, fun hhttp => ?_⟩
  · have hsends := Operation.run_sends client o r w
    generalize (o.run client r w).sent = sent at hsends
    cases hsends with
    | unaddressed => rfl
    | lost => rfl
    | arrived haddress harrives =>
      have hrequest := (Exchange.fault?_eq_none.mp harrives.1).2.2
      rw [Operation.request_url, Exchange.isHttp, hr.address_scheme hbased haddress] at hrequest
      cases hhttp.symm.trans hrequest
  · obtain ⟨root, n, hroot, haddress⟩ := exists_root hbased hhttp
    refine ⟨root, n, hroot, fun hr => ⟨_, haddress hr, ?_⟩, fun hr hs htype hids hothers hsame => ?_⟩
    · rw [← hr.templated.resolve_iff hr.count root]
      simp [Fills]
    · rw [haddress hr, haddress hs,
        Url.resolve_of_kept (hr.templated.kept hr.count hids),
        Url.resolve_of_kept (hs.templated.kept hs.count hothers)] at hsame
      refine segments_injective hr hs htype ?_
      simpa using hsame

/-! ## Dots as ids -/

def mockConfig : Config := { baseUrl := "http://mock" }

def mock : Client where
  baseUrl := "http://mock"
  agent := mockConfig.userAgent
  token? := none
  registry := Builtin.registry
  pageSize := 100
  refreshSeconds := 15

def mockBase : Url where
  scheme := "http".toList
  host? := some (.domain "mock".toList)
  path := .segments [[]]

theorem mock_parsed : mockConfig.parsedBaseUrl = .ok mockBase := by
  have hparse : Url.parse mockConfig.baseUrl = .ok mockBase := by decide +kernel
  rw [Config.parsedBaseUrl, hparse]

theorem mock_based : mock.Based mockConfig mockBase where
  made := Except.bind_eq_ok.mpr ⟨_, mock_parsed, Except.guard_eq_ok.mpr ⟨by decide, rfl⟩⟩
  base := mock_parsed
  query := rfl
  fragment := rfl
  plain := by decide

structure IsDiskType (t : ResourceType) : Prop where
  builtin : Builtin.registry.get "disks" = .ok t
  endpoint : t.endpoint = "/instances/\x7blinode_id\x7d/disks/\x7bid\x7d"
  parentIds : t.parentIds = ["linode_id"]

theorem exists_diskType : ∃ t, IsDiskType t := by
  have hdisks : (Builtin.registry.types.get? "disks").map (fun t => (t.endpoint, t.parentIds)) =
      some ("/instances/\x7blinode_id\x7d/disks/\x7bid\x7d", ["linode_id"]) := by decide +kernel
  obtain ⟨t, ht, h⟩ := Option.map_eq_some_iff.mp hdisks
  exact ⟨t, Registry.get_eq_ok.mpr ht, congrArg Prod.fst h, congrArg Prod.snd h⟩

def diskOf (t : ResourceType) (parent id : String) : Resource :=
  identified t (.str id) (some ⟨[.str parent]⟩)

namespace IsDiskType
variable {t : ResourceType}

theorem textual (h : IsDiskType t) (parent id : String) : (diskOf t parent id).Textual [parent] id where
  builtin := ⟨"disks", h.builtin⟩
  own := rfl
  under := rfl
  count := (congrArg List.length h.parentIds).symm

theorem slots (h : IsDiskType t) : t.slots =
    [.literal "instances".toList, .place "linode_id", .literal "disks".toList, .place "id"] := by
  rw [ResourceType.slots, h.endpoint]
  decide +kernel

theorem segments (h : IsDiskType t) (parent id : String) : t.segments [parent] id =
    ["instances".toList, Percent.encodeSegment parent.toList, "disks".toList,
      Percent.encodeSegment id.toList] := by
  have hnames : t.namedIds [parent] id = [("linode_id", parent), ("id", id)] := by
    rw [ResourceType.namedIds, ResourceType.idNames, h.parentIds]
    rfl
  rw [ResourceType.segments, ResourceType.contents, h.slots, hnames]
  rfl

end IsDiskType

/-- Slashes, dots between them and escapes stay in the segment of their id. -/
theorem requests_addressed_disk :
    mock.Based mockConfig mockBase ∧ ∃ root n, mockBase.path = .segments (root ++ List.replicate n []) ∧
      ∃ t u, IsDiskType t ∧ (diskOf t "../../x" "%2e%2e").address mock = .ok u ∧
        (diskOf t "../../x" "%2e%2e").Fills mockBase root ["../../x"] "%2e%2e" u := by
  obtain ⟨t, ht⟩ := exists_diskType
  obtain ⟨-, -, haddresses⟩ := requests_addressed mock_based
  obtain ⟨root, n, hroot, haddress⟩ := haddresses (by decide)
  obtain ⟨u, hu, hfills⟩ := haddress.filled (ht.textual "../../x" "%2e%2e")
  exact ⟨mock_based, root, n, hroot, t, u, ht, hu, hfills.mpr (by decide)⟩

def AllFilled (client : Client) (b : Url) : Prop :=
  ∃ root n, b.path = .segments (root ++ List.replicate n []) ∧
    ∀ {r : Resource} {parents id}, r.Textual parents id → (∀ text ∈ parents ++ [id], text ≠ "") →
      ∃ u, r.address client = .ok u ∧ r.Fills b root parents id u

def AllDistinct (client : Client) : Prop :=
  ∀ {r s : Resource} {parents others id other u}, r.Textual parents id → s.Textual others other →
    (∀ text ∈ parents ++ [id], text ≠ "") → (∀ text ∈ others ++ [other], text ≠ "") →
    s.type = r.type → r.address client = .ok u → s.address client = .ok u → id = other

def mockDisks : Url :=
  { mockBase with path := .segments ["instances".toList, "disks".toList, []] }

/-- A dot as the id of an instance is dropped, and two dots as the id of a disk take back the
segment before them. -/
theorem IsDiskType.dots {t : ResourceType} (h : IsDiskType t) :
    (diskOf t "." ".").address mock = .ok mockDisks ∧
      (diskOf t "disks" "..").address mock = .ok mockDisks := by
  have haddress : ∀ parent id, (diskOf t parent id).address mock = .ok mockDisks ↔
      Url.parse (Client.joined mockConfig (Endpoint.path ["instances".toList,
        Percent.encodeSegment parent.toList, "disks".toList, Percent.encodeSegment id.toList])) =
          .ok mockDisks := by
    intro parent id
    rw [← h.segments parent id]
    exact (h.textual parent id).address_eq_ok mock_based
  rw [haddress, haddress]
  decide +kernel

/-- With dots as ids a segment is lost, and two disks are found at one place. -/
theorem not_allFilled :
    mock.Based mockConfig mockBase ∧ ¬ AllFilled mock mockBase ∧ ¬ AllDistinct mock := by
  obtain ⟨t, ht⟩ := exists_diskType
  refine ⟨mock_based, fun h => ?_, fun h => ?_⟩
  · obtain ⟨root, n, -, hfilled⟩ := h
    obtain ⟨u, hu, segments, rfl, hholds⟩ := hfilled (ht.textual "." ".") (by decide)
    have hcount : t.slots.length = segments.length := hholds.length_eq
    have hpath : UrlPath.segments ["instances".toList, "disks".toList, []] =
        .segments (root ++ segments) :=
      congrArg Url.path (Except.ok.inj (ht.dots.1.symm.trans hu))
    have hlength := congrArg List.length (UrlPath.segments.inj hpath)
    rw [ht.slots] at hcount
    simp only [List.length_append, List.length_cons, List.length_nil] at hcount hlength
    omega
  · have hids := h (ht.textual "." ".") (ht.textual "disks" "..") (by decide) (by decide) rfl
      ht.dots.1 ht.dots.2
    exact absurd hids (by decide)

end Resource
end CloudClient
