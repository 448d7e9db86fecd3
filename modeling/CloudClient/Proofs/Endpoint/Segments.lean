import CloudClient.Proofs.Endpoint.Template
import CloudClient.Proofs.Url.Path
import Mathlib.Data.List.Forall2

/-!
# Segments of an item

The encoded contents of the slots of an endpoint are the segments that the path of an item is joined
from. A segment stands for its slot if it is the text of the slot or decodes to the id that the slot
is the place of. Reading the joined path resolves dots, and what is left stands for the slots
exactly if no id is one of the two dot segments.
-/

namespace CloudClient

namespace Endpoint

/-- The segment is the text of the slot, or decodes to the id that the slot is the place of. -/
def Slot.Holds (ids : Dict String) : Slot → List Char → Prop
  | .literal text, segment => segment = text
  | .place name, segment => ∃ id, ids.get? name = some id ∧
      Percent.decodeOctets segment = id.toList.flatMap Utf8.encode

def Undotted (ids : List String) : Prop := ∀ id ∈ ids, id ≠ "." ∧ id ≠ ".."

instance (ids : List String) : Decidable (Undotted ids) :=
  inferInstanceAs (Decidable (∀ id ∈ ids, id ≠ "." ∧ id ≠ ".."))

theorem kept_encodeSegment {s : List Char} (hdot : s ≠ ['.']) (hdouble : s ≠ ['.', '.']) :
    Url.Kept (Percent.encodeSegment s) where
  dot := Bool.eq_false_iff.mpr (mt Url.isDot_encodeSegment.mp hdot)
  doubleDot := Bool.eq_false_iff.mpr (mt Url.isDoubleDot_encodeSegment.mp hdouble)
  plain := fun _ hc => (Url.plain_of_isWritten (Percent.mem_encodeSegment hc)).1

end Endpoint

namespace ResourceType
open Endpoint (Slot Undotted path)
variable {t : ResourceType} {parents : List String} {id : String}

def segments (t : ResourceType) (parents : List String) (id : String) : List (List Char) :=
  (t.contents parents id).map Percent.encodeSegment

theorem isWritten_of_mem_segments {segment : List Char} {c : Char}
    (h : segment ∈ t.segments parents id) (hc : c ∈ segment) : Percent.isWritten c = true := by
  obtain ⟨content, -, rfl⟩ := List.mem_map.mp h
  exact Percent.mem_encodeSegment hc

/-! ## The joined path -/

theorem mem_path {segments : List (List Char)} {c : Char} (h : c ∈ path segments) :
    c = '/' ∨ ∃ segment ∈ segments, c ∈ segment := by
  obtain ⟨segment, hsegment, hc⟩ := List.mem_flatMap.mp h
  exact (List.mem_cons.mp hc).imp_right fun hc => ⟨segment, hsegment, hc⟩

theorem Templated.exists_segments (h : t.Templated) (parents : List String) (id : String) :
    ∃ c text more, t.segments parents id = (c :: text) :: more := by
  have hleads := h.leading
  have hliteral := @Templated.literal t h
  unfold segments contents
  cases hslots : t.slots with
  | nil =>
    rw [hslots] at hleads
    cases hleads
  | cons first rest =>
    rw [hslots] at hleads hliteral
    cases first with
    | place name => cases hleads
    | literal text =>
      cases text with
      | nil => cases hleads
      | cons c text =>
        rw [List.map_cons, List.map_cons, Slot.content, hliteral List.mem_cons_self]
        exact ⟨c, text, _, rfl⟩

theorem Templated.pieces_path (h : t.Templated) (parents : List String) (id : String) :
    Url.pieces true ((path (t.segments parents id)).dropWhile (· = '/')) = t.segments parents id := by
  have hslashes : ∀ s ∈ t.segments parents id, ∀ c ∈ s, Url.isSlash true c = false := by
    intro s hs c hc
    exact (Url.plain_of_isWritten (isWritten_of_mem_segments hs hc)).2.1
  obtain ⟨c, text, more, hsegments⟩ := h.exists_segments parents id
  rw [hsegments] at hslashes ⊢
  have hc : c ≠ '/' := by
    intro hc
    subst hc
    cases hslashes _ List.mem_cons_self _ List.mem_cons_self
  have hdrop : (path ((c :: text) :: more)).dropWhile (· = '/') =
      (c :: text) ++ more.flatMap fun s => '/' :: s := by
    simp [path, hc]
  rw [hdrop]
  exact Url.pieces_join (c :: text) more hslashes

theorem plain_of_mem_path {c : Char}
    (h : c ∈ (path (t.segments parents id)).dropWhile (· = '/')) :
    Url.isEdge c = false ∧ Url.isPathEnd c = false := by
  rcases mem_path ((List.dropWhile_sublist _).mem h) with rfl | ⟨segment, hsegment, hc⟩
  · decide
  · exact (Url.plain_of_isWritten (isWritten_of_mem_segments hsegment hc)).2.2

/-! ## Slots and segments -/

theorem Templated.holds (h : t.Templated) (hcount : parents.length = t.parentIds.length) :
    List.Forall₂ (Slot.Holds (t.namedIds parents id)) t.slots (t.segments parents id) := by
  rw [segments, contents, List.map_map, List.forall₂_map_right_iff, List.forall₂_same]
  intro s hs
  cases s with
  | literal text => exact h.literal hs
  | place name =>
    obtain ⟨value, hvalue⟩ := Dict.exists_get?_zip (length_idNames id hcount) (h.place hs).1
    refine ⟨value, hvalue, ?_⟩
    rw [Function.comp_apply, Percent.decodeOctets_encodeSegment, Slot.content, namedIds, hvalue]
    rfl

theorem Templated.kept (h : t.Templated) (hcount : parents.length = t.parentIds.length)
    (hids : Undotted (parents ++ [id])) : ∀ s ∈ t.segments parents id, Url.Kept s := by
  intro s hs
  obtain ⟨content, hcontent, rfl⟩ := List.mem_map.mp hs
  obtain ⟨slot, hslot, rfl⟩ := List.mem_map.mp hcontent
  cases slot with
  | literal text => exact Endpoint.kept_encodeSegment (h.sound _ hslot).2.1 (h.sound _ hslot).2.2
  | place name =>
    obtain ⟨value, hvalue⟩ := Dict.exists_get?_zip (length_idNames id hcount) (h.place hslot).1
    have hmem : value ∈ parents ++ [id] := (List.of_mem_zip (Dict.mem_of_get? hvalue)).2
    rw [Slot.content, namedIds, hvalue]
    refine Endpoint.kept_encodeSegment (fun hdot => ?_) fun hdouble => ?_
    · exact (hids value hmem).1 (String.toList_inj.mp hdot)
    · exact (hids value hmem).2 (String.toList_inj.mp hdouble)

theorem exists_of_forall₂ {α β : Type} {R : α → β → Prop} {as : List α} {bs : List β} {a : α}
    (h : List.Forall₂ R as bs) (ha : a ∈ as) : ∃ b ∈ bs, R a b := by
  induction h with
  | nil => cases ha
  | @cons _ b _ _ hab _ ih =>
    rcases List.mem_cons.mp ha with rfl | ha
    · exact ⟨b, List.mem_cons_self, hab⟩
    · obtain ⟨b', hb', hab'⟩ := ih ha
      exact ⟨b', List.mem_cons_of_mem _ hb', hab'⟩

/-- What a path appends to its root never decodes to dots, since these have been resolved. -/
theorem undotted_of_mem_resolve {root : List (List Char)} {segment : List Char}
    (h : segment ∈ (Url.resolve false root (t.segments parents id)).drop root.length) :
    Percent.decodeOctets segment ≠ ['.'].flatMap Utf8.encode ∧
      Percent.decodeOctets segment ≠ ['.', '.'].flatMap Utf8.encode := by
  refine Url.forall_resolve (P := fun s => Percent.decodeOctets s ≠ ['.'].flatMap Utf8.encode ∧
    Percent.decodeOctets s ≠ ['.', '.'].flatMap Utf8.encode) ?_ (fun piece hpiece hdot hdouble => ?_)
    (by simp) segment h
  · rw [Percent.decodeOctets]
    decide
  · have hplain : ∀ c ∈ piece, Url.inPathSet c = false :=
      fun c hc => (Url.plain_of_isWritten (isWritten_of_mem_segments hpiece hc)).1
    obtain ⟨content, -, rfl⟩ := List.mem_map.mp hpiece
    rw [Percent.encode_of_forall hplain, Percent.decodeOctets_encodeSegment]
    refine ⟨fun h => ?_, fun h => ?_⟩
    · rw [Url.isDot_encodeSegment.mpr (Utf8.flatMap_encode_injective h)] at hdot
      cases hdot
    · rw [Url.isDoubleDot_encodeSegment.mpr (Utf8.flatMap_encode_injective h)] at hdouble
      cases hdouble

theorem Templated.resolve_iff (h : t.Templated) (hcount : parents.length = t.parentIds.length)
    (root : List (List Char)) :
    (∃ segments, Url.resolve false root (t.segments parents id) = root ++ segments ∧
      List.Forall₂ (Slot.Holds (t.namedIds parents id)) t.slots segments) ↔
        Undotted (parents ++ [id]) := by
  constructor
  · intro hresolve
    obtain ⟨segments, hsegments, hholds⟩ := hresolve
    intro value hvalue
    obtain ⟨name, hname, hget⟩ := Dict.exists_name_zip h.distinct (length_idNames id hcount) hvalue
    obtain ⟨segment, hsegment, found, hfound, hdecoded⟩ :=
      exists_of_forall₂ hholds (h.named name hname)
    obtain rfl : value = found := Option.some.inj (hget.symm.trans hfound)
    have happended : segment ∈ (Url.resolve false root (t.segments parents id)).drop root.length := by
      rw [hsegments, List.drop_left]
      exact hsegment
    have hundotted := undotted_of_mem_resolve happended
    rw [hdecoded] at hundotted
    refine ⟨fun hdot => hundotted.1 ?_, fun hdouble => hundotted.2 ?_⟩
    · rw [hdot]
      rfl
    · rw [hdouble]
      rfl
  · intro hids
    exact ⟨_, Url.resolve_of_kept (h.kept hcount hids) root, h.holds hcount⟩

end ResourceType
end CloudClient
