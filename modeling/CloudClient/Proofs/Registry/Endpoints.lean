import CloudClient.Proofs.Endpoint.Places

/-!
# Endpoints that acceptance admits

A registered endpoint ends in the place of the item, and the placeholder of every parent occurs in
it. Whether its places are those of the parents in order and then the item's own, each once, is not
looked at: this and a text without braces are exactly what the paths of a type need.
-/

namespace CloudClient

namespace ResourceType
open Endpoint (Slot Braceless slotsOf placeNames textOf)
variable {t : ResourceType}

structure Takes (t : ResourceType) (parent? : Option ParentKey) : Prop where
  count : (Endpoint.parentIds parent?).length = t.parentIds.length
  ids : ∀ id ∈ Endpoint.parentIds parent?, id.IsId

/-- A path formed from a template: every place holds the id of its name, and no brace is left. -/
def Forms (template : List Char) (ids : Dict Json) (result : Except Error String) : Prop :=
  ∃ path, result = .ok (String.ofList path) ∧
    path = (slotsOf template).flatMap (Slot.filledBy ids) ∧ Braceless path

/-- The places of an endpoint are those of the parents in order and then the item's own, no two of
one name, and each path of an item or of a collection holds every id in its place. -/
structure WellFormed (t : ResourceType) : Prop where
  names : placeNames t.endpoint.toList = t.idNames
  distinct : t.idNames.Nodup
  item : ∀ id parent?, id.IsId → t.Takes parent? →
    Forms t.endpoint.toList (t.idNames.zip (Endpoint.parentIds parent? ++ [id]))
      (Endpoint.item t id parent?)
  collection : ∀ parent?, t.Takes parent? →
    Forms t.collection.toList (t.parentIds.zip (Endpoint.parentIds parent?))
      (Endpoint.collection t parent?)

structure InOrder (t : ResourceType) : Prop where
  names : placeNames t.endpoint.toList = t.idNames
  distinct : t.idNames.Nodup
  braceless : Braceless (textOf t.endpoint.toList)

instance : DecidablePred InOrder := fun t =>
  decidable_of_iff (placeNames t.endpoint.toList = t.idNames ∧ t.idNames.Nodup ∧
      Braceless (textOf t.endpoint.toList))
    ⟨fun ⟨hnames, hdistinct, htext⟩ => ⟨hnames, hdistinct, htext⟩,
      fun ⟨hnames, hdistinct, htext⟩ => ⟨hnames, hdistinct, htext⟩⟩

structure Admitted (t : ResourceType) : Prop where
  item : itemSegment <:+ t.endpoint.toList
  occurs : ∀ parent ∈ t.parentIds,
    Text.occurs (placeholder parent) t.endpoint.toList = true

end ResourceType

/-! ## Acceptance -/

theorem TypeDocument.checkParents_eq_ok {key : String} {endpoint : List Char}
    {parents : List String} (h : checkParents key endpoint parents = .ok ()) :
    ∀ parent ∈ parents, Text.occurs (placeholder parent) endpoint = true := by
  induction parents with
  | nil => simp
  | cons parent rest ih =>
    simp only [checkParents] at h
    split at h
    · rename_i hoccurs
      exact List.forall_mem_cons.mpr ⟨hoccurs, ih h⟩
    · cases h

theorem TypeDocument.check_admitted {key : String} {d : TypeDocument} {t : ResourceType}
    (h : d.check key = .ok t) : t.Admitted := by
  unfold check at h
  obtain ⟨hitem, h⟩ := Except.guard_eq_ok.mp h
  obtain ⟨_, hparents, h⟩ := Except.bind_eq_ok.mp h
  obtain ⟨-, h⟩ := Except.guard_eq_ok.mp h
  obtain ⟨ps, -, h⟩ := Except.bind_eq_ok.mp h
  cases h
  exact ⟨List.isSuffixOf_iff_suffix.mp (by simpa using hitem), checkParents_eq_ok hparents⟩

namespace ResourceType
open Endpoint (Slot Braceless slotsOf placeNames textOf)
variable {t : ResourceType}

theorem endpoint_eq_collection (h : itemSegment <:+ t.endpoint.toList) :
    t.endpoint.toList = t.collection.toList ++ itemSegment := by
  obtain ⟨start, hstart⟩ := h
  have hstrip : Text.stripSuffix? itemSegment t.endpoint.toList = some start := by
    rw [← hstart]
    simp [Text.stripSuffix?, List.isSuffixOf_iff_suffix]
  rw [collection, hstrip, ← hstart]
  simp

theorem Admitted.endpoint_eq (h : t.Admitted) :
    t.endpoint.toList = t.collection.toList ++ itemSegment := endpoint_eq_collection h.item

theorem Admitted.placeNames_eq (h : t.Admitted) :
    placeNames t.endpoint.toList = placeNames t.collection.toList ++ ["id"] := by
  rw [h.endpoint_eq]
  exact (Endpoint.slotsOf_item _).1

/-! ## Paths -/

theorem Takes.item_eq {parent? : Option ParentKey} (h : t.Takes parent?) (id : Json) :
    Endpoint.item t id parent? = .ok (String.ofList (Endpoint.fillParents t.endpoint.toList
      (t.idNames.zip (Endpoint.parentIds parent? ++ [id])))) := Endpoint.item_eq h.count id

theorem Takes.collection_eq {parent? : Option ParentKey} (h : t.Takes parent?) :
    Endpoint.collection t parent? = .ok (String.ofList (Endpoint.fillParents t.collection.toList
      (t.parentIds.zip (Endpoint.parentIds parent?)))) := by
  have hcheck : Endpoint.checkParent t parent? = .ok () := by
    simp [Endpoint.checkParent, Endpoint.parentCount_eq, h.count]
  rw [Endpoint.collection, Endpoint.format, hcheck, Endpoint.fill_collection]
  rfl

theorem InOrder.braceless_name (h : t.InOrder) {name : String} (hname : name ∈ t.idNames) :
    Braceless name.toList := by
  rw [← h.names] at hname
  obtain ⟨slot, hslot, hplace⟩ := List.mem_filterMap.mp hname
  cases slot with
  | literal text => cases hplace
  | place name =>
    cases hplace
    exact Endpoint.braceless_of_place (by simp) hslot

theorem InOrder.forms (h : t.InOrder) {template : List Char} {names : List String}
    {ids : List Json} (hsub : ∀ name ∈ names, name ∈ t.idNames)
    (hplaces : placeNames template = names) (htext : Braceless (textOf template))
    (hcount : names.length = ids.length) (hids : ∀ id ∈ ids, id.IsId) :
    Forms template (names.zip ids)
      (.ok (String.ofList (Endpoint.fillParents template (names.zip ids)))) := by
  have hzip : ∀ entry ∈ names.zip ids, Braceless entry.1.toList ∧ entry.2.IsId := by
    intro entry hentry
    obtain ⟨hname, hid⟩ := List.of_mem_zip hentry
    exact ⟨h.braceless_name (hsub _ hname), hids _ hid⟩
  refine ⟨_, rfl, Endpoint.fillParents_eq_filledBy htext hzip, ?_⟩
  rw [Endpoint.fillParents_eq_filledBy htext hzip]
  refine (Endpoint.filledBy_braceless_iff (fun entry hentry => (hzip entry hentry).2) ?_).mpr htext
  rw [hplaces]
  exact fun name hname => Dict.exists_get?_zip hcount hname

theorem InOrder.item_forms (h : t.InOrder) {id : Json} {parent? : Option ParentKey}
    (hid : id.IsId) (hparent : t.Takes parent?) :
    Forms t.endpoint.toList (t.idNames.zip (Endpoint.parentIds parent? ++ [id]))
      (Endpoint.item t id parent?) := by
  rw [hparent.item_eq]
  refine h.forms (fun name hname => hname) h.names h.braceless ?_ ?_
  · simp [idNames, hparent.count]
  · simpa [or_imp, forall_and] using ⟨hparent.ids, hid⟩

theorem InOrder.collection_forms (h : t.InOrder) (hadmitted : t.Admitted)
    {parent? : Option ParentKey} (hparent : t.Takes parent?) :
    Forms t.collection.toList (t.parentIds.zip (Endpoint.parentIds parent?))
      (Endpoint.collection t parent?) := by
  have hnames : placeNames t.collection.toList = t.parentIds :=
    List.append_cancel_right (hadmitted.placeNames_eq.symm.trans h.names)
  have htext : Braceless (textOf t.collection.toList) := by
    have hwhole := h.braceless
    rw [hadmitted.endpoint_eq, (Endpoint.slotsOf_item _).2] at hwhole
    exact ⟨fun hc => hwhole.1 (List.mem_append_left _ hc),
      fun hc => hwhole.2 (List.mem_append_left _ hc)⟩
  rw [hparent.collection_eq]
  exact h.forms (fun name hname => List.mem_append_left _ hname) hnames htext
    hparent.count.symm hparent.ids

theorem InOrder.wellFormed (h : t.InOrder) (hadmitted : t.Admitted) : t.WellFormed :=
  ⟨h.names, h.distinct, fun _ _ hid hparent => h.item_forms hid hparent,
    fun _ hparent => h.collection_forms hadmitted hparent⟩

/-- Any one item tells whether a brace is left in the text of the endpoint. -/
theorem WellFormed.inOrder (h : t.WellFormed) : t.InOrder := by
  refine ⟨h.names, h.distinct, ?_⟩
  let parents : List Json := t.parentIds.map fun _ => .int 0
  have hparents : ∀ id ∈ parents, id.IsId := by simp [parents, Json.IsId, Json.int]
  have htakes : t.Takes (some ⟨parents⟩) := ⟨by simp [Endpoint.parentIds, parents], hparents⟩
  have hcount : t.idNames.length = (parents ++ [Json.int 0]).length := by simp [idNames, parents]
  obtain ⟨_, -, rfl, hpath⟩ := h.item (.int 0) (some ⟨parents⟩) trivial htakes
  refine (Endpoint.filledBy_braceless_iff (fun entry hentry => ?_) ?_).mp hpath
  · have hid := (List.of_mem_zip hentry).2
    rcases List.mem_append.mp hid with hid | hid
    · exact hparents _ hid
    · rw [List.mem_singleton.mp hid]
      trivial
  · rw [h.names]
    exact fun name hname => Dict.exists_get?_zip hcount hname

theorem builtin_inOrder {key : String} (h : Builtin.registry.get key = .ok t) : t.InOrder := by
  have hall : ∀ entry ∈ Builtin.registry.types, entry.2.InOrder := by decide +kernel
  exact hall (key, t) (Dict.mem_of_get? (Registry.get_eq_ok.mp h))

/-- Acceptance leaves the place of the item last and a place for every parent. The paths of a
registered type are well formed exactly if its places are in order and hold all braces. -/
theorem wellFormed_iff {sources : List String} {registry : Registry} {key : String}
    (h : Registry.ofSources sources = .ok registry) (ht : registry.get key = .ok t) :
    (placeNames t.endpoint.toList).getLast? = some "id" ∧
      (∀ parent ∈ t.parentIds, Braceless parent.toList →
        parent ∈ placeNames t.endpoint.toList) ∧
      (t.WellFormed ↔ t.InOrder) := by
  obtain ⟨d, hd⟩ := Registry.ofSources_checked h ht
  have hadmitted := TypeDocument.check_admitted hd
  refine ⟨by simp [hadmitted.placeNames_eq], fun parent hparent hbraceless => ?_,
    WellFormed.inOrder, fun hplaces => hplaces.wellFormed hadmitted⟩
  exact Endpoint.mem_placeNames_of_occurs hbraceless (hadmitted.occurs parent hparent)

/-! ## Five endpoints -/

/-- Disks below a host, and four types whose endpoints are not in order: a zone whose region is no
parent, a pair whose parents are swapped, a loop that names its parent twice, and a link whose
parent is named like the item itself. -/
def slipSource : String :=
  "\x7b\"resources\": \x7b
    \"disk\": \x7b\"display_name\": \"Disk\",
      \"endpoint\": \"/hosts/\x7bhost_id\x7d/disks/\x7bid\x7d\", \"parent_ids\": [\"host_id\"],
      \"properties\": \x7b\"id\": \x7b\"identifier\": true\x7d\x7d\x7d,
    \"link\": \x7b\"display_name\": \"Link\", \"endpoint\": \"/links/\x7bid\x7d\",
      \"parent_ids\": [\"id\"], \"properties\": \x7b\"id\": \x7b\"identifier\": true\x7d\x7d\x7d,
    \"loop\": \x7b\"display_name\": \"Loop\",
      \"endpoint\": \"/a/\x7ba\x7d/a/\x7ba\x7d/loops/\x7bid\x7d\", \"parent_ids\": [\"a\"],
      \"properties\": \x7b\"id\": \x7b\"identifier\": true\x7d\x7d\x7d,
    \"pair\": \x7b\"display_name\": \"Pair\",
      \"endpoint\": \"/a/\x7ba\x7d/b/\x7bb\x7d/pairs/\x7bid\x7d\", \"parent_ids\": [\"b\", \"a\"],
      \"properties\": \x7b\"id\": \x7b\"identifier\": true\x7d\x7d\x7d,
    \"zone\": \x7b\"display_name\": \"Zone\",
      \"endpoint\": \"/regions/\x7bregion\x7d/zones/\x7bid\x7d\",
      \"properties\": \x7b\"id\": \x7b\"identifier\": true\x7d\x7d\x7d\x7d\x7d"

def slipType (key displayName endpoint : String) (parentIds : List String) : ResourceType :=
  { key, displayName, endpoint, parentIds
    idField := "id", properties := [("id", { identifier := true })] }

def slipRegistry : Registry where
  types := [
    ("disk", slipType "disk" "Disk" "/hosts/\x7bhost_id\x7d/disks/\x7bid\x7d" ["host_id"]),
    ("link", slipType "link" "Link" "/links/\x7bid\x7d" ["id"]),
    ("loop", slipType "loop" "Loop" "/a/\x7ba\x7d/a/\x7ba\x7d/loops/\x7bid\x7d" ["a"]),
    ("pair", slipType "pair" "Pair" "/a/\x7ba\x7d/b/\x7bb\x7d/pairs/\x7bid\x7d" ["b", "a"]),
    ("zone", slipType "zone" "Zone" "/regions/\x7bregion\x7d/zones/\x7bid\x7d" [])]

set_option maxRecDepth 16000 in
theorem slipSource_accepted : Registry.ofSources [slipSource] = .ok slipRegistry := by
  unfold slipSource
  exact Registry.ofSources_ofList (by decide +kernel)

theorem wellFormed_disk : ∃ t, Registry.ofSources [slipSource] = .ok slipRegistry ∧
    slipRegistry.get "disk" = .ok t ∧ t.WellFormed := by
  have hdisk : slipRegistry.get "disk" = .ok (slipType "disk" "Disk"
      "/hosts/\x7bhost_id\x7d/disks/\x7bid\x7d" ["host_id"]) := rfl
  refine ⟨_, slipSource_accepted, hdisk, ?_⟩
  exact (wellFormed_iff slipSource_accepted hdisk).2.2.mpr (by decide +kernel)

theorem not_wellFormed_slips : Registry.ofSources [slipSource] = .ok slipRegistry ∧
    ∀ key ∈ ["link", "loop", "pair", "zone"],
      ∃ t, slipRegistry.get key = .ok t ∧ ¬ t.WellFormed := by
  have hslip : ∀ key t, slipRegistry.get key = .ok t → ¬ t.InOrder →
      ∃ t, slipRegistry.get key = .ok t ∧ ¬ t.WellFormed :=
    fun key t ht hslip => ⟨t, ht, fun h => hslip h.inOrder⟩
  refine ⟨slipSource_accepted, ?_⟩
  simp only [List.forall_mem_cons]
  refine ⟨hslip _ _ rfl (by decide +kernel), hslip _ _ rfl (by decide +kernel),
    hslip _ _ rfl (by decide +kernel), hslip _ _ rfl (by decide +kernel), by simp⟩

end ResourceType
end CloudClient
