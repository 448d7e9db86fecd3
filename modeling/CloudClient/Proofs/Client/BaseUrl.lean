import CloudClient.Proofs.Resource.Addressing

/-!
# Paths under a base URL

A client is made from a base URL that can be read, but joins every path to the text of the base and
reads that. All paths go on from one root, so the two readings agree for every path if they agree for
the bare slash. They do not for a base with a query or a fragment, for one with a blank at its end,
and for one that leads to an empty segment by something else than a slash at its end.
-/

namespace CloudClient

/-! ## Reading on after a slash -/

namespace Url
variable {start path : List Char} {u v : Url}

structure Whole (s : List Char) : Prop extends Kept s where
  nonempty : s ≠ []
  undivided : ∀ c ∈ s, isSlash true c = false

theorem plain_of_not_inPathSet {c : Char} (h : inPathSet c = false) :
    isEdge c = false ∧ isPathEnd c = false := by
  simp only [inPathSet, inFragmentSet, isControl, Host.isControl, Text.isControl,
    Bool.or_eq_false_iff, decide_eq_false_iff_not] at h
  obtain ⟨⟨⟨⟨⟨⟨⟨⟨⟨⟨⟨hlow, -⟩, -⟩, hspace⟩, -⟩, -⟩, -⟩, -⟩, hhash⟩, hquestion⟩, -⟩, -⟩ := h
  have hne : c.toNat ≠ ' '.toNat := fun hc => hspace (Char.toNat_inj.mp hc)
  have hvalue : ' '.toNat = 0x20 := rfl
  simp only [isEdge, isPathEnd, hhash, hquestion, decide_eq_false_iff_not, decide_false, Bool.or_self,
    and_true]
  omega

theorem withPath_after_slash (hu : u = withPath v true (withoutSlash (start ++ '/' :: path)))
    (hquery : u.query? = none) (hfragment : u.fragment? = none) :
    ∃ root, ∀ path, (∀ c ∈ path, isPathEnd c = false) →
      withPath v true (withoutSlash (start ++ '/' :: path)) =
        { u with path := .segments (resolve false root (pieces true path)) } := by
  have hplain : ∀ c ∈ withoutSlash (start ++ '/' :: path), isPathEnd c = false :=
    forall_of_withPath (hu ▸ hquery) (hu ▸ hfragment)
  suffices ∃ root, (∀ c ∈ path, isPathEnd c = false) ∧ ∀ path, (∀ c ∈ path, isPathEnd c = false) →
      withPath v true (withoutSlash (start ++ '/' :: path)) = { v with
        path := .segments (resolve false root (pieces true path)), query? := none, fragment? := none } by
    obtain ⟨root, hpath, hjoined⟩ := this
    rw [hu, hjoined path hpath]
    exact ⟨root, hjoined⟩
  by_cases hstart : start = []
  · subst hstart
    exact ⟨[], hplain, fun path hpath => withPath_of_forall hpath⟩
  · rw [withoutSlash_append hstart] at hplain
    obtain ⟨hbefore, hafter⟩ := List.forall_mem_append.mp hplain
    obtain ⟨-, hjoined⟩ := @withPath_joined v start 0 hstart hbefore
    exact ⟨_, fun c hc => hafter c (List.mem_cons_of_mem _ hc), hjoined⟩

theorem front_eq_cleaned_append (s : List Char) : ∃ blanks, front s = cleaned s ++ blanks := by
  refine ⟨((s.dropWhile isEdge).reverse.takeWhile isEdge).reverse.filter fun c => !isBreak c, ?_⟩
  rw [cleaned]
  change _ = List.filter (fun c => !isBreak c) _ ++ _
  rw [← List.filter_append, ← List.reverse_append, List.takeWhile_append_dropWhile,
    List.reverse_reverse, front]

theorem dropWhile_of_readScheme? {s scheme rest : List Char} (h : readScheme? s = some (scheme, rest))
    (more : List Char) : (s ++ more).dropWhile (· != ':') = ':' :: (rest ++ more) := by
  unfold readScheme? at h
  split at h
  · cases h
  · rename_i c s
    split at h
    · cases h
    · split at h
      · rename_i after hafter
        cases h
        have hcolon : ∀ d ∈ (c :: s).takeWhile isSchemeChar, (d != ':') = true := by
          intro d hd
          refine bne_iff_ne.mpr fun hd' => ?_
          have hscheme := List.mem_takeWhile_imp hd
          rw [hd'] at hscheme
          exact absurd hscheme (by decide)
        rw [← List.takeWhile_append_dropWhile (p := isSchemeChar) (l := c :: s), hafter,
          List.append_assoc, List.dropWhile_append_of_pos hcolon]
        rfl
      · cases h

theorem names_host {raw : String} {b : Url} {count : Nat} {scheme rest : List Char}
    (hraw : raw.toList = start ++ List.replicate count '/') (hb : parse raw = .ok b)
    (hweb : isWeb b.scheme = true) (h : readScheme? (front start) = some (scheme, rest)) :
    rest.dropWhile (isSlash true) ≠ [] := by
  intro hslashes
  obtain ⟨before, hbefore⟩ := parse_scheme hb
  obtain ⟨blanks, hblanks⟩ := front_eq_cleaned_append raw.toList
  have hslash : isEdge '/' = false := by decide
  have hsame : before ++ blanks = rest ++ List.replicate count '/' := by
    have hfront : front raw.toList = front start ++ List.replicate count '/' := by
      rw [hraw]
      exact front_append (.slashes count) (fun c hc => List.eq_of_mem_replicate hc ▸ hslash) start
    have hdrop := dropWhile_of_readScheme? hbefore blanks
    rw [← hblanks, hfront, dropWhile_of_readScheme? h] at hdrop
    exact (List.cons_inj_right _).mp hdrop.symm
  have hnothing : before.dropWhile (isSlash true) = [] := by
    refine List.dropWhile_eq_nil_iff.mpr fun c hc => ?_
    rcases List.mem_append.mp (hsame ▸ List.mem_append_left blanks hc) with hc | hc
    · exact List.dropWhile_eq_nil_iff.mp hslashes c hc
    · exact List.eq_of_mem_replicate hc ▸ rfl
  rw [parse_web hweb hbefore, hnothing] at hb
  exact readAuthority_nil hweb hb

theorem parse_after_slash
    (hhost : ∀ {scheme rest}, readScheme? (front start) = some (scheme, rest) →
      rest.dropWhile (isSlash true) ≠ [])
    (hpath : ∀ c ∈ path, isEdge c = false)
    (hu : parse (String.ofList (start ++ '/' :: path)) = .ok u) (hweb : isWeb u.scheme = true)
    (hquery : u.query? = none) (hfragment : u.fragment? = none) :
    ∃ root, ∀ path, (∀ c ∈ path, isEdge c = false) → (∀ c ∈ path, isPathEnd c = false) →
      parse (String.ofList (start ++ '/' :: path)) =
        .ok { u with path := .segments (resolve false root (pieces true path)) } := by
  obtain ⟨rest, hrest⟩ : ∃ rest, readScheme? (front start) = some (u.scheme, rest) := by
    obtain ⟨rest, hrest⟩ := parse_scheme hu
    rw [String.toList_ofList, cleaned_joined hpath, readScheme?_append (.slash path)] at hrest
    obtain ⟨⟨scheme, before⟩, hbefore, h⟩ := Option.map_eq_some_iff.mp hrest
    cases h
    exact ⟨before, hbefore⟩
  have hparse : ∀ path, (∀ c ∈ path, isEdge c = false) →
      parse (String.ofList (start ++ '/' :: path)) =
        readAuthority u.scheme (rest.dropWhile (isSlash true) ++ '/' :: path) := by
    intro path hplain
    have hread : readScheme? (cleaned (String.ofList (start ++ '/' :: path)).toList) =
        some (u.scheme, rest ++ '/' :: path) := by
      rw [String.toList_ofList]
      exact readScheme?_joined hplain hrest
    rw [parse_web hweb hread, List.dropWhile_append, if_neg]
    simpa using hhost hrest
  rw [hparse path hpath] at hu
  obtain ⟨v, after, hv, hmore⟩ := readAuthority_append hweb (.slash path) hu
  obtain ⟨root, hroot⟩ := withPath_after_slash hv hquery hfragment
  refine ⟨root, fun path hplain hend => ?_⟩
  rw [hparse path hplain, hmore _ (.slash path), hroot path hend]

end Url

/-! ## Clients -/

namespace Client
open Endpoint (path)
variable {config : Config} {registry : Registry} {client : Client} {b u : Url}
  {segments more : List (List Char)}

theorem trimSlashes_append_slashes (s : List Char) (count : Nat) :
    trimSlashes (s ++ List.replicate count '/') = trimSlashes s := by
  have hslashes : (List.replicate count '/').dropWhile (fun c => decide (c = '/')) = [] :=
    List.dropWhile_eq_nil_iff.mpr fun c hc => by simp [List.eq_of_mem_replicate hc]
  rw [trimSlashes, List.reverse_append, List.reverse_replicate, List.dropWhile_append, hslashes]
  rfl

theorem trimSlashes_eq_self_iff {s : List Char} : trimSlashes s = s ↔ s.getLast? ≠ some '/' := by
  rw [trimSlashes, List.reverse_eq_iff, List.dropWhile_eq_self_iff, ← List.head?_reverse]
  cases s.reverse <;> simp

structure Over (config : Config) (b : Url) (client : Client) : Prop where
  made : ∃ registry, ofConfig config registry = .ok client
  base : config.parsedBaseUrl = .ok b
  http : Exchange.isHttp b = true

/-- A URL at a path under the base, as the base was read when it was checked. -/
structure Under (b : Url) (path : List Char) (u : Url) : Prop where
  scheme : u.scheme = b.scheme
  host : u.host? = b.host?
  port : u.port? = b.port?
  path : u.pathText = trimSlashes b.pathText ++ path
  query : u.query? = none
  fragment : u.fragment? = none

def Extends (client : Client) (b : Url) (path : List Char) : Prop :=
  ∃ u, client.url (String.ofList path) = .ok u ∧ Under b path u

def ExtendsAll (client : Client) (b : Url) : Prop :=
  ∀ segments, segments ≠ [] → (∀ s ∈ segments, Url.Whole s) → client.Extends b (path segments)

structure Steady (segments : List (List Char)) : Prop where
  pieces : Url.pieces true ((path segments).dropWhile (· = '/')) = segments
  kept : ∀ s ∈ segments, Url.Kept s
  plain : ∀ c ∈ (path segments).dropWhile (· = '/'), Url.isEdge c = false ∧ Url.isPathEnd c = false

theorem steady_slash : Steady [[]] :=
  ⟨rfl, fun _ hs => List.mem_singleton.mp hs ▸ Url.kept_nil, nofun⟩

theorem path_slash : path [[]] = ['/'] := rfl

theorem steady_of_whole (hne : segments ≠ []) (h : ∀ s ∈ segments, Url.Whole s) :
    Steady segments := by
  cases segments with
  | nil => exact absurd rfl hne
  | cons first rest =>
    have hfirst := h first List.mem_cons_self
    have hdrop : (path (first :: rest)).dropWhile (· = '/') =
        first ++ rest.flatMap fun s => '/' :: s := by
      obtain ⟨c, text, hc⟩ := List.exists_cons_of_ne_nil hfirst.nonempty
      have hslash : c ≠ '/' := by
        intro hslash
        have hwhole := hfirst.undivided c (hc ▸ List.mem_cons_self)
        rw [hslash] at hwhole
        cases hwhole
      simp [path, hc, hslash]
    refine ⟨?_, fun s hs => (h s hs).toKept, fun c hc => ?_⟩
    · rw [hdrop]
      exact Url.pieces_join first rest fun s hs => (h s hs).undivided
    · rcases ResourceType.mem_path ((List.dropWhile_sublist _).mem hc) with rfl | ⟨s, hs, hc⟩
      · decide
      · exact Url.plain_of_not_inPathSet ((h s hs).plain c hc)

theorem pathText_append (u : Url) (root segments : List (List Char)) :
    Url.pathText { u with path := .segments (root ++ segments) } = path root ++ path segments :=
  List.flatMap_append

/-- All paths go on from one root, so one of them shows where the others lead. -/
theorem Over.extends_of_one (h : client.Over config b) (hsegments : Steady segments)
    (hmore : Steady more) (hone : client.Extends b (path segments)) :
    client.Extends b (path more) := by
  obtain ⟨u, hu, hunder⟩ := hone
  obtain ⟨registry, hmade⟩ := h.made
  obtain ⟨count, hraw⟩ := trimSlashes_append config.baseUrl.toList
  have hbase := parse_of_parsedBaseUrl h.base
  have hweb := Resource.isWeb_of_isHttp h.http
  rw [url_eq_ok hmade] at hu
  obtain ⟨root, hroot⟩ := Url.parse_after_slash (Url.names_host hraw hbase hweb)
    (fun c hc => (hsegments.plain c hc).1) hu (hunder.scheme ▸ hweb) hunder.query hunder.fragment
  have hread : ∀ {segments}, Steady segments → Url.parse (joined config (path segments)) =
      .ok { u with path := .segments (root ++ segments) } := by
    intro segments hsteady
    rw [joined, hroot _ (fun c hc => (hsteady.plain c hc).1) fun c hc => (hsteady.plain c hc).2,
      hsteady.pieces, Url.resolve_of_kept hsteady.kept]
  have hpath : path root = trimSlashes b.pathText := by
    have hsame : u = { u with path := .segments (root ++ segments) } :=
      Except.ok.inj (hu.symm.trans (hread hsegments))
    have htext := hunder.path
    rw [hsame, pathText_append] at htext
    exact List.append_cancel_right htext
  refine ⟨{ u with path := .segments (root ++ more) }, (url_eq_ok hmade).mpr (hread hmore), ?_⟩
  refine ⟨hunder.scheme, hunder.host, hunder.port, ?_, hunder.query, hunder.fragment⟩
  rw [pathText_append, hpath]

theorem Over.url_of_plain (h : client.Over config b)
    (hplain : Url.EndsPlainly config.baseUrl.toList) (hquery : b.query? = none)
    (hfragment : b.fragment? = none) :
    ∃ root n, b.path = .segments (root ++ List.replicate n []) ∧
      (∀ {segments}, Steady segments → client.url (String.ofList (path segments)) =
        .ok { b with path := .segments (root ++ segments) }) ∧
      (client.Extends b ['/'] ↔ (path root).getLast? ≠ some '/') := by
  obtain ⟨registry, hmade⟩ := h.made
  obtain ⟨count, hraw⟩ := trimSlashes_append config.baseUrl.toList
  obtain ⟨root, n, hroot, hjoined⟩ := Url.parse_joined hraw hplain (parse_of_parsedBaseUrl h.base)
    (Resource.isWeb_of_isHttp h.http) hquery hfragment
  have hurl : ∀ {segments}, Steady segments → client.url (String.ofList (path segments)) =
      .ok { b with path := .segments (root ++ segments) } := by
    intro segments hsteady
    rw [url_eq_ok hmade, joined, hjoined _ (fun c hc => (hsteady.plain c hc).1)
      fun c hc => (hsteady.plain c hc).2, hsteady.pieces, Url.resolve_of_kept hsteady.kept]
  have htrim : trimSlashes b.pathText = trimSlashes (path root) := by
    have htext : b.pathText = path root ++ List.replicate n '/' := by
      rw [Url.pathText, hroot]
      simp [path, List.flatMap_replicate]
    rw [htext, trimSlashes_append_slashes]
  refine ⟨root, n, hroot, hurl, ?_⟩
  rw [← trimSlashes_eq_self_iff, ← htrim, ← path_slash]
  constructor
  · intro hextends
    obtain ⟨u, hu, hunder⟩ := hextends
    have htext := hunder.path
    rw [← Except.ok.inj ((hurl steady_slash).symm.trans hu), pathText_append] at htext
    exact (List.append_cancel_right htext).symm
  · intro htext
    refine ⟨_, hurl steady_slash, rfl, rfl, rfl, ?_, hquery, hfragment⟩
    rw [pathText_append, htext]

theorem Over.extendsAll_iff (h : client.Over config b) :
    client.ExtendsAll b ↔ client.Extends b ['/'] := by
  rw [← path_slash]
  refine ⟨fun hall => ?_, fun hslash segments hne hwhole => ?_⟩
  · have hwhole : ∀ s ∈ [['a']], Url.Whole s := by
      intro s hs
      obtain rfl := List.mem_singleton.mp hs
      exact ⟨⟨rfl, rfl, List.forall_mem_singleton.mpr rfl⟩, List.cons_ne_nil _ _,
        List.forall_mem_singleton.mpr rfl⟩
    exact h.extends_of_one (steady_of_whole (List.cons_ne_nil _ _) hwhole) steady_slash
      (hall [['a']] (List.cons_ne_nil _ _) hwhole)
  · exact h.extends_of_one steady_slash (steady_of_whole hne hwhole) hslash

/-- Every path is under the base exactly if the bare slash is. Under a base without query, fragment
and blanks at its end that takes only that no empty segment is left of it. -/
theorem base_extends (h : client.Over config b) :
    (client.ExtendsAll b ↔ client.Extends b ['/']) ∧
    (Url.EndsPlainly config.baseUrl.toList → b.query? = none → b.fragment? = none →
      ∃ root n, b.path = .segments (root ++ List.replicate n []) ∧
        (∀ segments, segments ≠ [] → (∀ s ∈ segments, Url.Whole s) →
          client.url (String.ofList (path segments)) =
            .ok { b with path := .segments (root ++ segments) }) ∧
        (client.Extends b ['/'] ↔ (path root).getLast? ≠ some '/')) := by
  refine ⟨h.extendsAll_iff, fun hplain hquery hfragment => ?_⟩
  obtain ⟨root, n, hroot, hurl, hslash⟩ := h.url_of_plain hplain hquery hfragment
  exact ⟨root, n, hroot, fun segments hne hwhole => hurl (steady_of_whole hne hwhole), hslash⟩

/-! ## Bases that extend and bases that do not -/

def configOver (text : String) : Config := { baseUrl := text }

def clientOver (text : String) : Client :=
  { Resource.mock with baseUrl := String.ofList (trimSlashes text.toList) }

def mockUrl (path : List (List Char)) : Url := { Resource.mockBase with path := .segments path }

theorem clientOver_over {text : String} (hparse : Url.parse text = .ok b)
    (hhttp : Exchange.isHttp b = true) : (clientOver text).Over (configOver text) b := by
  have hbase : (configOver text).parsedBaseUrl = .ok b := by
    rw [Config.parsedBaseUrl, show (configOver text).baseUrl = text from rfl, hparse]
  have hagent : ¬ (!Exchange.isHeaderText Resource.mockConfig.userAgent) = true := by decide
  exact ⟨⟨Builtin.registry, Except.bind_eq_ok.mpr ⟨b, hbase, Except.guard_eq_ok.mpr ⟨hagent, rfl⟩⟩⟩,
    hbase, hhttp⟩

theorem clientOver_url {text : String} {relative : List Char}
    (h : (clientOver text).Over (configOver text) b)
    (hjoined : Url.parse (joined (configOver text) relative) = .ok u) :
    (clientOver text).url (String.ofList relative) = .ok u := by
  obtain ⟨registry, hmade⟩ := h.made
  exact (url_eq_ok hmade).mpr hjoined

/-- Letters in upper case, the default port, dots and slashes at the end of a base do no harm. -/
theorem base_extends_dots :
    (clientOver "HTTP://Mock:80/v4/.//").Over (configOver "HTTP://Mock:80/v4/.//")
        (mockUrl ["v4".toList, [], []]) ∧
      (clientOver "HTTP://Mock:80/v4/.//").ExtendsAll (mockUrl ["v4".toList, [], []]) := by
  have hparse : Url.parse "HTTP://Mock:80/v4/.//" = .ok (mockUrl ["v4".toList, [], []]) := by
    decide +kernel
  have hover := clientOver_over hparse (by decide)
  have hslash : Url.parse (joined (configOver "HTTP://Mock:80/v4/.//") ['/']) =
      .ok (mockUrl ["v4".toList, []]) := by decide +kernel
  refine ⟨hover, (base_extends hover).1.mpr ⟨_, clientOver_url hover hslash, ?_⟩⟩
  exact ⟨rfl, rfl, rfl, by decide, rfl, rfl⟩

def queried (query : String) : Url :=
  { mockUrl ["v4".toList] with query? := some query.toList }

theorem not_extendsAll_of_slash {text : String} (hparse : Url.parse text = .ok b)
    (hhttp : Exchange.isHttp b = true) (hslash : Url.parse (joined (configOver text) ['/']) = .ok u)
    (hnot : ¬ Under b ['/'] u) :
    (clientOver text).Over (configOver text) b ∧ ¬ (clientOver text).ExtendsAll b := by
  have hover := clientOver_over hparse hhttp
  refine ⟨hover, fun hall => ?_⟩
  obtain ⟨v, hv, hunder⟩ := hover.extendsAll_iff.mp hall
  cases (clientOver_url hover hslash).symm.trans hv
  exact hnot hunder

/-- A path that follows a query goes on with it, one that follows a blank keeps it, and a backslash
leaves a segment as a slash does, but is not cut from the end of the base. -/
theorem not_extendsAll :
    ((clientOver "http://mock/v4?x=1").Over (configOver "http://mock/v4?x=1") (queried "x=1") ∧
      ¬ (clientOver "http://mock/v4?x=1").ExtendsAll (queried "x=1")) ∧
    ((clientOver "http://mock/v4 ").Over (configOver "http://mock/v4 ") (mockUrl ["v4".toList]) ∧
      ¬ (clientOver "http://mock/v4 ").ExtendsAll (mockUrl ["v4".toList])) ∧
    ((clientOver "http://mock/v4\\").Over (configOver "http://mock/v4\\")
        (mockUrl ["v4".toList, []]) ∧
      ¬ (clientOver "http://mock/v4\\").ExtendsAll (mockUrl ["v4".toList, []])) := by
  have hquery : ¬ Under (queried "x=1") ['/'] (queried "x=1/") := fun h => nomatch h.query
  have hblank : ¬ Under (mockUrl ["v4".toList]) ['/'] (mockUrl ["v4%20".toList, []]) :=
    fun h => absurd h.path (by decide)
  have hempty : ¬ Under (mockUrl ["v4".toList, []]) ['/'] (mockUrl ["v4".toList, [], []]) :=
    fun h => absurd h.path (by decide)
  exact ⟨not_extendsAll_of_slash (by decide +kernel) (by decide) (by decide +kernel) hquery,
    not_extendsAll_of_slash (by decide +kernel) (by decide) (by decide +kernel) hblank,
    not_extendsAll_of_slash (by decide +kernel) (by decide) (by decide +kernel) hempty⟩

end Client
end CloudClient
