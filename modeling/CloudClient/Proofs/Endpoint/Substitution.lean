import CloudClient.Proofs.Registry.Endpoints
import CloudClient.Proofs.Text

/-!
# Paths as substitutions

Slashes divide an endpoint into segments. Where each of them is a text without braces or a whole
placeholder, and the placeholders are those of the parents in order and the item's own last, every
placeholder gives way to the encoding of its own id, whatever the other ids are. An encoded id holds
neither a slash nor a brace, so a path tells apart all ids that went into it.
-/

namespace CloudClient

theorem Dict.get?_append {α : Type} (d more : Dict α) (key : String) :
    Dict.get? (d ++ more) key = (d.get? key).or (more.get? key) := by
  induction d with
  | nil => rfl
  | cons entry rest ih =>
    obtain ⟨k, v⟩ := entry
    by_cases hk : k = key
    · simp [Dict.get?, hk]
    · simpa [Dict.get?, hk] using ih

namespace Endpoint
variable {template : List Char} {slots : List Slot} {ids : Dict Json} {id : Json}

/-! ## Segments of a template -/

def joined (segments : List (List Char)) : List Char := ['/'].intercalate segments

def segmentSlots (template : List Char) : List Slot := (Text.splitOn '/' template).map Slot.ofPiece

theorem Slot.template_ofPiece (piece : List Char) : (ofPiece piece).template = piece := by
  unfold ofPiece
  split
  · split
    · rename_i hlast
      obtain ⟨start, rfl⟩ := List.getLast?_eq_some_iff.mp hlast
      simp [Slot.template, placeholder]
    · rfl
  · rfl

theorem joined_segmentSlots (template : List Char) :
    joined ((segmentSlots template).map Slot.template) = template := by
  have hpieces : (segmentSlots template).map Slot.template = template.splitOn '/' := by
    rw [segmentSlots, List.map_map, Text.splitOn_eq]
    exact (List.map_congr_left fun piece _ => Slot.template_ofPiece piece).trans (List.map_id _)
  rw [hpieces]
  exact List.intercalate_splitOn '/'

theorem segmentSlots_ne_nil (template : List Char) : segmentSlots template ≠ [] := by
  rw [segmentSlots, Text.splitOn_eq]
  simp

theorem segmentSlots_item (start : List Char) :
    segmentSlots (start ++ itemSegment) = segmentSlots start ++ [.place "id"] := by
  simp only [segmentSlots, Text.splitOn_eq, itemSegment, List.splitOn_append_cons_self,
    List.map_append]
  rfl

theorem slash_not_mem_literal {text : List Char} (h : Slot.literal text ∈ segmentSlots template) :
    '/' ∉ text := by
  intro hslash
  obtain ⟨piece, hpiece, hslot⟩ := List.mem_map.mp h
  have htext : text = piece := by rw [← Slot.template_ofPiece piece, hslot, Slot.template]
  exact Text.not_mem_of_mem_splitOn hpiece (htext ▸ hslash)

/-! ## Joining -/

theorem joined_cons (first : List Char) (rest : List (List Char)) :
    joined (first :: rest) = first ++ path rest := by
  induction rest generalizing first with
  | nil => simp [joined, path]
  | cons second rest ih =>
    have hrest := ih second
    simp only [joined, List.intercalate_cons_cons] at hrest ⊢
    simp [hrest, path]

theorem joined_concat {segments : List (List Char)} (h : segments ≠ []) (last : List Char) :
    joined (segments ++ [last]) = joined segments ++ '/' :: last := by
  obtain ⟨first, rest, rfl⟩ := List.exists_cons_of_ne_nil h
  simp [joined_cons, path]

theorem splitOn_joined {segments : List (List Char)} (hne : segments ≠ [])
    (h : ∀ s ∈ segments, '/' ∉ s) : Text.splitOn '/' (joined segments) = segments := by
  rw [Text.splitOn_eq]
  exact List.splitOn_intercalate '/' h hne

/-! ## Filled segments -/

theorem fillParents_segments (hids : ∀ entry ∈ ids, Braceless entry.1.toList ∧ entry.2.IsId)
    (hslots : ∀ s ∈ segmentSlots template, s.Braced) :
    fillParents template ids = joined ((segmentSlots template).map (Slot.filledBy ids)) := by
  obtain ⟨first, rest, hsegments⟩ := List.exists_cons_of_ne_nil (segmentSlots_ne_nil template)
  rw [hsegments] at hslots
  obtain ⟨hfirst, hrest⟩ := List.forall_mem_cons.mp hslots
  calc fillParents template ids
      = fillParents (first.template ++ path (rest.map Slot.template)) ids := by
        rw [← joined_cons, ← List.map_cons, ← hsegments, joined_segmentSlots]
    _ = first.filledBy ids ++ path (rest.map (Slot.filledBy ids)) :=
        fillParents_path hids hfirst hrest
    _ = joined ((segmentSlots template).map (Slot.filledBy ids)) := by
        rw [hsegments, List.map_cons, joined_cons]

theorem Slot.mem_names {name : String} :
    name ∈ slots.filterMap Slot.name? ↔ Slot.place name ∈ slots := by
  refine ⟨fun h => ?_, fun h => List.mem_filterMap.mpr ⟨_, h, rfl⟩⟩
  obtain ⟨slot, hslot, hname⟩ := List.mem_filterMap.mp h
  cases slot with
  | literal text => cases hname
  | place other =>
    cases hname
    exact hslot

def Slot.Unbraced : Slot → Prop
  | .literal text => Braceless text
  | .place name => Braceless name.toList

instance : DecidablePred Slot.Unbraced
  | .literal text => inferInstanceAs (Decidable (Braceless text))
  | .place name => inferInstanceAs (Decidable (Braceless name.toList))

theorem Slot.Unbraced.braced {slot : Slot} (h : slot.Unbraced) : slot.Braced := by
  cases slot with
  | literal text => exact h.1
  | place name => exact h

end Endpoint

namespace ResourceType
open Endpoint (Slot Braceless segmentSlots joined)
variable {t : ResourceType} {parent? : Option ParentKey} {id : Json}

/-! ## Types whose placeholders are whole segments -/

/-- The endpoint has texts without braces and whole placeholders as its segments: those of the
parents, which are distinct and none of which is the item's own name, and that name last. -/
structure Segmented (t : ResourceType) : Prop where
  names : (segmentSlots t.endpoint.toList).filterMap Slot.name? = t.idNames
  distinct : t.idNames.Nodup
  unbraced : ∀ s ∈ segmentSlots t.endpoint.toList, s.Unbraced
  item : itemSegment <:+ t.endpoint.toList

instance : DecidablePred Segmented := fun t =>
  decidable_of_iff ((segmentSlots t.endpoint.toList).filterMap Slot.name? = t.idNames ∧
      t.idNames.Nodup ∧ (∀ s ∈ segmentSlots t.endpoint.toList, s.Unbraced) ∧
      itemSegment <:+ t.endpoint.toList)
    ⟨fun ⟨h₁, h₂, h₃, h₄⟩ => ⟨h₁, h₂, h₃, h₄⟩, fun ⟨h₁, h₂, h₃, h₄⟩ => ⟨h₁, h₂, h₃, h₄⟩⟩

def filledSegments (template : List Char) (ids : Dict Json) : List (List Char) :=
  (segmentSlots template).map (Slot.filledBy ids)

theorem Segmented.slots_eq (h : t.Segmented) : segmentSlots t.endpoint.toList =
    segmentSlots t.collection.toList ++ [.place "id"] := by
  rw [endpoint_eq_collection h.item]
  exact Endpoint.segmentSlots_item _

theorem Segmented.collection_names (h : t.Segmented) :
    (segmentSlots t.collection.toList).filterMap Slot.name? = t.parentIds := by
  have hnames := h.names
  rw [h.slots_eq, List.filterMap_append, idNames] at hnames
  exact List.append_cancel_right hnames

theorem Segmented.mem_idNames (h : t.Segmented) {name : String} :
    name ∈ t.idNames ↔ Slot.place name ∈ segmentSlots t.endpoint.toList := by
  rw [← h.names]
  exact Slot.mem_names

theorem Segmented.braceless (h : t.Segmented) {name : String} (hname : name ∈ t.idNames) :
    Braceless name.toList := h.unbraced _ (h.mem_idNames.mp hname)

theorem Segmented.item_eq (h : t.Segmented) (hid : id.IsId) (hparent : t.Takes parent?) :
    Endpoint.item t id parent? = .ok (String.ofList (joined (filledSegments t.endpoint.toList
      (t.idNames.zip (Endpoint.parentIds parent? ++ [id]))))) := by
  rw [hparent.item_eq, filledSegments, Endpoint.fillParents_segments]
  · intro entry hentry
    obtain ⟨hname, hvalue⟩ := List.of_mem_zip hentry
    refine ⟨h.braceless hname, ?_⟩
    rcases List.mem_append.mp hvalue with hvalue | hvalue
    · exact hparent.ids _ hvalue
    · exact List.mem_singleton.mp hvalue ▸ hid
  · exact fun s hs => (h.unbraced s hs).braced

theorem Segmented.collection_eq (h : t.Segmented) (hparent : t.Takes parent?) :
    Endpoint.collection t parent? = .ok (String.ofList (joined
      (filledSegments t.collection.toList (t.parentIds.zip (Endpoint.parentIds parent?))))) := by
  have hslots := h.slots_eq
  rw [hparent.collection_eq, filledSegments, Endpoint.fillParents_segments]
  · intro entry hentry
    obtain ⟨hname, hvalue⟩ := List.of_mem_zip hentry
    exact ⟨h.braceless (List.mem_append_left _ hname), hparent.ids _ hvalue⟩
  · intro s hs
    exact (h.unbraced s (hslots ▸ List.mem_append_left _ hs)).braced

theorem Segmented.filledSegments_item (h : t.Segmented) (hparent : t.Takes parent?) (id : Json) :
    filledSegments t.endpoint.toList (t.idNames.zip (Endpoint.parentIds parent? ++ [id])) =
      filledSegments t.collection.toList (t.parentIds.zip (Endpoint.parentIds parent?)) ++
        [Endpoint.segment id] := by
  have hzip : t.idNames.zip (Endpoint.parentIds parent? ++ [id]) =
      t.parentIds.zip (Endpoint.parentIds parent?) ++ [("id", id)] := by
    rw [idNames, List.zip_append hparent.count.symm]
    rfl
  have hparents : ∀ name ∈ t.parentIds, ∃ value,
      Dict.get? (t.parentIds.zip (Endpoint.parentIds parent?)) name = some value :=
    fun name hname => Dict.exists_get?_zip hparent.count.symm hname
  have hown : Dict.get? (t.parentIds.zip (Endpoint.parentIds parent?)) "id" = none := by
    have hdistinct := h.distinct
    refine Option.eq_none_iff_forall_ne_some.mpr fun value hvalue => ?_
    have hmem := (List.of_mem_zip (Dict.mem_of_get? hvalue)).1
    simp only [idNames, List.nodup_append, List.mem_singleton, forall_eq] at hdistinct
    exact hdistinct.2.2 "id" hmem rfl
  rw [filledSegments, h.slots_eq, List.map_append, filledSegments, hzip]
  have hcollection : ∀ slot ∈ segmentSlots t.collection.toList,
      slot.filledBy (t.parentIds.zip (Endpoint.parentIds parent?) ++ [("id", id)]) =
        slot.filledBy (t.parentIds.zip (Endpoint.parentIds parent?)) := by
    intro slot hslot
    cases slot with
    | literal text => rfl
    | place name =>
      have hname : name ∈ t.parentIds := by
        rw [← h.collection_names]
        exact Slot.mem_names.mpr hslot
      obtain ⟨value, hvalue⟩ := hparents name hname
      simp [Slot.filledBy, Dict.get?_append, hvalue]
  rw [List.map_congr_left hcollection, List.map_singleton]
  simp [Slot.filledBy, Dict.get?_append, hown, Dict.get?]

theorem Segmented.slash_not_mem (h : t.Segmented) {ids : List Json}
    (hcount : t.idNames.length = ids.length) (hids : ∀ id ∈ ids, id.IsId) :
    ∀ s ∈ filledSegments t.endpoint.toList (t.idNames.zip ids), '/' ∉ s := by
  intro s hs
  obtain ⟨slot, hslot, rfl⟩ := List.mem_map.mp hs
  cases slot with
  | literal text => exact Endpoint.slash_not_mem_literal hslot
  | place name =>
    obtain ⟨value, hvalue⟩ := Dict.exists_get?_zip hcount (h.mem_idNames.mpr hslot)
    have hid : value.IsId := hids _ (List.of_mem_zip (Dict.mem_of_get? hvalue)).2
    rw [Slot.filledBy, hvalue]
    exact fun hslash => absurd (Endpoint.mem_segment hid hslash) (by decide)

theorem Segmented.filledSegments_injective (h : t.Segmented) {texts others : List String}
    (hcount : t.idNames.length = texts.length) (hothers : t.idNames.length = others.length)
    (hsame : filledSegments t.endpoint.toList (t.idNames.zip (texts.map Json.str)) =
      filledSegments t.endpoint.toList (t.idNames.zip (others.map Json.str))) : texts = others := by
  have hstr : Function.Injective Json.str := fun _ _ => Json.str.inj
  refine List.map_injective_iff.mpr hstr (Dict.zip_injective h.distinct (by simpa using hcount)
    (by simpa using hothers) fun name hname => ?_)
  have htext : ∀ {texts : List String}, t.idNames.length = texts.length →
      ∃ text, Dict.get? (t.idNames.zip (texts.map Json.str)) name = some (.str text) := by
    intro texts hcount
    have hlength : t.idNames.length = (texts.map Json.str).length := by simpa using hcount
    obtain ⟨value, hvalue⟩ := Dict.exists_get?_zip hlength hname
    obtain ⟨text, -, rfl⟩ := List.mem_map.mp (List.of_mem_zip (Dict.mem_of_get? hvalue)).2
    exact ⟨text, hvalue⟩
  obtain ⟨text, hvalue⟩ := htext hcount
  obtain ⟨other, hother⟩ := htext hothers
  have hslot := List.map_eq_map_iff.mp hsame _ (h.mem_idNames.mp hname)
  simp only [Slot.filledBy, hvalue, hother, Endpoint.segment] at hslot
  rw [hvalue, hother, String.toList_inj.mp (Percent.encodeSegment_injective hslot)]

/-! ## Paths -/

structure TakesTexts (t : ResourceType) (parents : List String) (parent? : Option ParentKey) :
    Prop where
  count : parents.length = t.parentIds.length
  ids : Endpoint.parentIds parent? = parents.map Json.str

theorem TakesTexts.takes {parents : List String} (h : t.TakesTexts parents parent?) :
    t.Takes parent? := by
  refine ⟨?_, fun id hid => ?_⟩
  · rw [h.ids, List.length_map, h.count]
  · rw [h.ids] at hid
    obtain ⟨text, -, rfl⟩ := List.mem_map.mp hid
    trivial

def countError (t : ResourceType) (given : Nat) : Error :=
  .invalidInput (t.displayName ++ " needs " ++ toString t.parentIds.length ++
    " parent id(s), got " ++ toString given)

/-- What the paths of a type are: its template with every placeholder given way to its own id, one
for each tuple of texts, and none for another number of parents. -/
structure Substitutes (t : ResourceType) : Prop where
  written : joined ((segmentSlots t.endpoint.toList).map Slot.template) = t.endpoint.toList
  item : ∀ id parent?, id.IsId → t.Takes parent? → Endpoint.item t id parent? = .ok (String.ofList
    (joined (filledSegments t.endpoint.toList
      (t.idNames.zip (Endpoint.parentIds parent? ++ [id])))))
  collection : ∀ id parent?, id.IsId → t.Takes parent? → ∃ path,
    Endpoint.collection t parent? = .ok path ∧
      Endpoint.item t id parent? = .ok (path ++ "/" ++ String.ofList (Endpoint.segment id))
  injective : ∀ {id other : String} {parents others : List String} {parent? other?},
    t.TakesTexts parents parent? → t.TakesTexts others other? →
      Endpoint.item t (.str id) parent? = Endpoint.item t (.str other) other? →
        parents = others ∧ id = other
  miscounted : ∀ id parent?, (Endpoint.parentIds parent?).length ≠ t.parentIds.length →
    Endpoint.item t id parent? = .error (t.countError (Endpoint.parentIds parent?).length) ∧
      Endpoint.collection t parent? = .error (t.countError (Endpoint.parentIds parent?).length)

theorem Segmented.item_injective (h : t.Segmented) {id other : String}
    {parents others : List String} {other? : Option ParentKey}
    (hparents : t.TakesTexts parents parent?) (hothers : t.TakesTexts others other?)
    (hsame : Endpoint.item t (.str id) parent? = Endpoint.item t (.str other) other?) :
    parents = others ∧ id = other := by
  have hitem : ∀ (id : String) {parents parent?}, t.TakesTexts parents parent? →
      t.idNames.length = (parents ++ [id]).length ∧
      Endpoint.item t (.str id) parent? = .ok (String.ofList (joined (filledSegments
        t.endpoint.toList (t.idNames.zip ((parents ++ [id]).map Json.str))))) := by
    intro id parents parent? hparents
    refine ⟨length_idNames id hparents.count, ?_⟩
    have hid : (Json.str id).IsId := trivial
    rw [h.item_eq hid hparents.takes, hparents.ids, List.map_append, List.map_singleton]
  have hslash : ∀ {texts : List String}, t.idNames.length = texts.length →
      Text.splitOn '/' (joined (filledSegments t.endpoint.toList
        (t.idNames.zip (texts.map Json.str)))) =
          filledSegments t.endpoint.toList (t.idNames.zip (texts.map Json.str)) := by
    intro texts hcount
    refine Endpoint.splitOn_joined ?_ (h.slash_not_mem (by simpa using hcount) fun id hid => ?_)
    · simpa [filledSegments] using Endpoint.segmentSlots_ne_nil _
    · obtain ⟨text, -, rfl⟩ := List.mem_map.mp hid
      trivial
  obtain ⟨hcount, hpath⟩ := hitem id hparents
  obtain ⟨hcount', hpath'⟩ := hitem other hothers
  rw [hpath, hpath'] at hsame
  -- Cut at its slashes, a path gives back the segments that it was joined from.
  have hsegments := congrArg (Text.splitOn '/') (String.ofList_injective (Except.ok.inj hsame))
  rw [hslash hcount, hslash hcount'] at hsegments
  obtain ⟨hparents, hid⟩ :=
    List.append_inj' (h.filledSegments_injective hcount hcount' hsegments) rfl
  exact ⟨hparents, List.head_eq_of_cons_eq hid⟩

theorem Segmented.substitutes (h : t.Segmented) : t.Substitutes where
  written := Endpoint.joined_segmentSlots _
  item := fun id parent? hid hparent => h.item_eq hid hparent
  collection := by
    intro id parent? hid hparent
    refine ⟨_, h.collection_eq hparent, ?_⟩
    have hne : filledSegments t.collection.toList
        (t.parentIds.zip (Endpoint.parentIds parent?)) ≠ [] := by
      simpa [filledSegments] using Endpoint.segmentSlots_ne_nil _
    rw [h.item_eq hid hparent, h.filledSegments_item hparent, Endpoint.joined_concat hne]
    simp [← String.toList_inj]
  injective := h.item_injective
  miscounted := by
    intro id parent? hcount
    have hcheck : Endpoint.checkParent t parent? =
        .error (t.countError (Endpoint.parentIds parent?).length) := by
      rw [Endpoint.checkParent, Endpoint.parentCount_eq, if_neg hcount]
      rfl
    rw [Endpoint.item, Endpoint.collection, Endpoint.format, Endpoint.format, hcheck]
    exact ⟨rfl, rfl⟩

theorem builtin_segmented {key : String} (h : Builtin.registry.get key = .ok t) : t.Segmented := by
  have hall : ∀ entry ∈ Builtin.registry.types, entry.2.Segmented := by decide +kernel
  exact hall (key, t) (Dict.mem_of_get? (Registry.get_eq_ok.mp h))

/-- Where placeholders are whole segments, as in every built-in type, a path is its template with
all ids put in at once, and different ids that are texts have different paths. -/
theorem paths_substitute :
    (∀ {key : String} {t : ResourceType}, Builtin.registry.get key = .ok t → t.Segmented) ∧
      ∀ {t : ResourceType}, t.Segmented → t.Substitutes :=
  ⟨builtin_segmented, Segmented.substitutes⟩

def memberType : ResourceType :=
  slipType "member" "Member"
    "/balancers/\x7bbalancer_id\x7d/configs/\x7bconfig_id\x7d/nodes/\x7bid\x7d"
    ["balancer_id", "config_id"]

/-- Ids that look like the placeholders after them, or like two segments, stay in their places. -/
theorem paths_substitute_member : memberType.Segmented ∧
    Endpoint.item memberType (.str "a/\x7bid\x7d") (some ⟨[.str "\x7bconfig_id\x7d", .int (-7)]⟩) =
      .ok "/balancers/%7Bconfig_id%7D/configs/-7/nodes/a%2F%7Bid%7D" := by
  have hsegmented : memberType.Segmented := by decide +kernel
  have htakes : memberType.Takes (some ⟨[.str "\x7bconfig_id\x7d", .int (-7)]⟩) :=
    ⟨rfl, by simp [Endpoint.parentIds, Json.IsId, Json.int]⟩
  have hpath := (paths_substitute.2 hsegmented).item (.str "a/\x7bid\x7d") _ trivial htakes
  exact ⟨hsegmented, hpath.trans (congrArg Except.ok (by decide +kernel))⟩

end ResourceType
end CloudClient
