import CloudClient.Endpoint
import CloudClient.Proofs.Percent
import CloudClient.Proofs.Registry.Validity
import CloudClient.Registry.Builtin
import Mathlib.Data.List.Basic

/-!
# Endpoints as slots

An endpoint is a sequence of segments, each a text of its own or the place of one id. Placeholders
are replaced one after another in the whole text, but an id is written without braces, so no
replacement is taken for a placeholder and the outcome is that of filling every place with its own
id.
-/

namespace CloudClient

def Json.IsId : Json → Prop
  | .str _ | .num (.int _) => True
  | _ => False

/-! ## Names and values in two lists -/

namespace Dict
variable {α : Type} {names : List String} {values others : List α}

theorem exists_get?_zip (hlength : names.length = values.length) {name : String}
    (hname : name ∈ names) : ∃ value, Dict.get? (names.zip values) name = some value := by
  induction names generalizing values with
  | nil => cases hname
  | cons k names ih =>
    cases values with
    | nil => cases hlength
    | cons v values =>
      simp only [List.zip_cons_cons, Dict.get?]
      by_cases hk : k = name
      · exact ⟨v, if_pos hk⟩
      · rw [if_neg hk]
        exact ih (Nat.succ.inj hlength) ((List.mem_cons.mp hname).resolve_left (Ne.symm hk))

theorem exists_name_zip (hnames : names.Nodup) (hlength : names.length = values.length) {value : α}
    (hvalue : value ∈ values) :
    ∃ name ∈ names, Dict.get? (names.zip values) name = some value := by
  induction names generalizing values with
  | nil =>
    rw [List.length_eq_zero_iff.mp hlength.symm] at hvalue
    cases hvalue
  | cons k names ih =>
    cases values with
    | nil => cases hlength
    | cons v values =>
      obtain ⟨hk, hrest⟩ := List.nodup_cons.mp hnames
      rcases List.mem_cons.mp hvalue with rfl | hvalue
      · exact ⟨k, List.mem_cons_self, by simp [Dict.get?]⟩
      · obtain ⟨name, hname, hget⟩ := ih hrest (Nat.succ.inj hlength) hvalue
        have hne : k ≠ name := fun h => hk (h ▸ hname)
        refine ⟨name, List.mem_cons_of_mem _ hname, ?_⟩
        rw [List.zip_cons_cons, Dict.get?, if_neg hne, hget]

theorem zip_injective (hnames : names.Nodup) (hvalues : names.length = values.length)
    (hothers : names.length = others.length)
    (h : ∀ name ∈ names,
      Dict.get? (names.zip values) name = Dict.get? (names.zip others) name) :
    values = others := by
  induction names generalizing values others with
  | nil => rw [List.length_eq_zero_iff.mp hvalues.symm, List.length_eq_zero_iff.mp hothers.symm]
  | cons k names ih =>
    cases values with
    | nil => cases hvalues
    | cons v values =>
      cases others with
      | nil => cases hothers
      | cons o others =>
        obtain ⟨hk, hrest⟩ := List.nodup_cons.mp hnames
        have hfirst := h k List.mem_cons_self
        simp only [List.zip_cons_cons, Dict.get?, if_true, Option.some.injEq] at hfirst
        refine List.cons_eq_cons.mpr
          ⟨hfirst, ih hrest (Nat.succ.inj hvalues) (Nat.succ.inj hothers) ?_⟩
        intro name hname
        have hne : k ≠ name := fun h => hk (h ▸ hname)
        have hsame := h name (List.mem_cons_of_mem _ hname)
        simpa only [List.zip_cons_cons, Dict.get?, if_neg hne] using hsame

end Dict

/-! ## Replacement -/

namespace Text
variable {pattern replacement : List Char}

theorem replaceFrom_skip (s rest : List Char) :
    replaceFrom pattern replacement s.length (s ++ rest) = replaceFrom pattern replacement 0 rest := by
  induction s with
  | nil => rfl
  | cons c s ih => simpa [replaceFrom] using ih

theorem replaceFrom_plain {c : Char} {s : List Char} (h : c ∉ s) (rest : List Char) :
    replaceFrom (c :: pattern) replacement 0 (s ++ rest) =
      s ++ replaceFrom (c :: pattern) replacement 0 rest := by
  induction s with
  | nil => rfl
  | cons d s ih =>
    obtain ⟨hd, hs⟩ : c ≠ d ∧ c ∉ s := by simpa using h
    have hprefix : (c :: pattern).isPrefixOf (d :: (s ++ rest)) = false := by
      simp [List.isPrefixOf, hd]
    rw [List.cons_append, replaceFrom, hprefix]
    simpa using ih hs

theorem replaceFrom_match (rest : List Char) (h : pattern ≠ []) :
    replaceFrom pattern replacement 0 (pattern ++ rest) =
      replacement ++ replaceFrom pattern replacement 0 rest := by
  cases pattern with
  | nil => exact absurd rfl h
  | cons c pattern =>
    have hprefix : (c :: pattern).isPrefixOf (c :: (pattern ++ rest)) = true := by
      simp [List.isPrefixOf_iff_prefix]
    rw [List.cons_append, replaceFrom, hprefix, if_pos rfl, List.length_cons, Nat.add_sub_cancel,
      replaceFrom_skip]

end Text

namespace Endpoint

inductive Slot
  | literal (text : List Char)
  | place (name : String)
deriving DecidableEq, Repr

namespace Slot

def ofPiece (piece : List Char) : Slot :=
  match piece with
  | '\x7b' :: rest =>
    if rest.getLast? = some '\x7d' then .place (String.ofList rest.dropLast) else .literal piece
  | _ => .literal piece

def template : Slot → List Char
  | .literal text => text
  | .place name => placeholder name

def filled (name : String) (value : List Char) : Slot → Slot
  | .place other => if other = name then .literal value else .place other
  | .literal text => .literal text

/-- What stands in the slot when each name has its id, before it is encoded. -/
def content (ids : Dict String) : Slot → List Char
  | .literal text => text
  | .place name => ((ids.get? name).getD "").toList

end Slot

def Braceless (s : List Char) : Prop := '\x7b' ∉ s ∧ '\x7d' ∉ s

instance (s : List Char) : Decidable (Braceless s) := inferInstanceAs (Decidable (_ ∧ _))

def Slot.Braced : Slot → Prop
  | .literal text => '\x7b' ∉ text
  | .place name => Braceless name.toList

def path (segments : List (List Char)) : List Char := segments.flatMap fun s => '/' :: s

/-! ## One placeholder -/

section Replacing
variable {name other : String} {value : List Char} {slots : List Slot}

theorem name_eq_of_placeholder (hname : Braceless name.toList) (hother : Braceless other.toList)
    {rest : List Char} (h : placeholder name <+: placeholder other ++ rest) : name = other := by
  have hcut : ∀ {s : String} (rest : List Char), Braceless s.toList →
      (s.toList ++ '\x7d' :: rest).takeWhile (· != '\x7d') = s.toList := by
    intro s rest hs
    rw [List.takeWhile_append_of_pos, List.takeWhile_cons]
    · simp
    · intro c hc
      have hne : c ≠ '\x7d' := fun h => hs.2 (h ▸ hc)
      simpa using hne
  obtain ⟨tail, htail⟩ := h
  simp only [placeholder, List.cons_append, List.append_assoc, List.cons.injEq, true_and] at htail
  have hsame := congrArg (List.takeWhile (· != '\x7d')) htail
  rw [List.nil_append, List.nil_append, hcut _ hname, hcut _ hother] at hsame
  exact String.toList_inj.mp hsame

theorem replaceFrom_template (hname : Braceless name.toList) {slot : Slot} (hslot : slot.Braced)
    (rest : List Char) :
    Text.replaceFrom (placeholder name) value 0 (slot.template ++ rest) =
      (slot.filled name value).template ++ Text.replaceFrom (placeholder name) value 0 rest := by
  cases slot with
  | literal text => exact Text.replaceFrom_plain hslot rest
  | place other =>
    by_cases hsame : other = name
    · subst hsame
      simp only [Slot.template, Slot.filled, if_true]
      exact Text.replaceFrom_match rest (List.cons_ne_nil _ _)
    · -- the opening brace starts no match, and no other brace follows it
      have hbraceless : '\x7b' ∉ other.toList ++ ['\x7d'] := by
        simp [hslot.1]
      have hprefix : (placeholder name).isPrefixOf ('\x7b' :: (other.toList ++ ['\x7d'] ++ rest)) =
          false := by
        rw [Bool.eq_false_iff]
        intro h
        have hprefix := List.isPrefixOf_iff_prefix.mp h
        exact hsame (name_eq_of_placeholder hname hslot hprefix).symm
      simp only [Slot.template, Slot.filled, if_neg hsame, placeholder, List.cons_append]
      rw [Text.replaceFrom, ← placeholder, hprefix]
      simp only [Bool.false_eq_true, if_false]
      exact congrArg _ (Text.replaceFrom_plain hbraceless rest)

theorem replaceAll_slots (hname : Braceless name.toList) (hslots : ∀ s ∈ slots, s.Braced) :
    Text.replaceAll (placeholder name) value (slots.flatMap Slot.template) =
      (slots.map (Slot.filled name value)).flatMap Slot.template := by
  induction slots with
  | nil => rfl
  | cons slot rest ih =>
    obtain ⟨hslot, hrest⟩ := List.forall_mem_cons.mp hslots
    rw [List.flatMap_cons, Text.replaceAll, replaceFrom_template hname hslot, List.map_cons,
      List.flatMap_cons, ← ih hrest]
    rfl

theorem Slot.filled_braced (hvalue : '\x7b' ∉ value) {slot : Slot} (hslot : slot.Braced) :
    (slot.filled name value).Braced := by
  cases slot with
  | literal text => exact hslot
  | place other =>
    by_cases hsame : other = name
    · simpa [Slot.filled, hsame, Slot.Braced] using hvalue
    · simpa [Slot.filled, hsame] using hslot

end Replacing

/-! ## All placeholders -/

section Filling
variable {ids : Dict Json} {slots : List Slot}

/-- What stands in the slot when the placeholders of some ids are replaced. -/
def Slot.filledBy (ids : Dict Json) : Slot → List Char
  | .literal text => text
  | .place name =>
    match ids.get? name with
    | some id => segment id
    | none => placeholder name

/-- A number is written with unreserved characters only, so it is its own encoding. -/
theorem segment_int (n : Int) :
    segment (.int n) = Percent.encodeSegment (Number.text (.int n)) := by
  have hdigits : ∀ m : Nat, ∀ c ∈ Nat.toDigits 10 m, Percent.isUnreserved c = true := by
    intro m c hc
    have hdigit : c.isDigit = true := Nat.isDigit_of_mem_toDigits (by decide) (by decide) hc
    simp [Percent.isUnreserved, Char.isAlphanum, hdigit]
  refine (Percent.encode_of_forall fun c hc => ?_).symm
  cases n with
  | ofNat n => simp [hdigits n c hc]
  | negSucc n =>
    rcases List.mem_cons.mp hc with rfl | hc
    · decide
    · simp [hdigits (n + 1) c hc]

theorem mem_segment {id : Json} (h : id.IsId) {c : Char} (hc : c ∈ segment id) :
    Percent.isWritten c = true := by
  cases id with
  | str s => exact Percent.mem_encodeSegment hc
  | num n =>
    cases n with
    | float x => cases h
    | int n =>
      have hint := segment_int n
      rw [Json.int] at hint
      rw [hint] at hc
      exact Percent.mem_encodeSegment hc
  | _ => cases h

theorem segment_braceless {id : Json} (h : id.IsId) : Braceless (segment id) :=
  ⟨fun hc => absurd (mem_segment h hc) (by decide), fun hc => absurd (mem_segment h hc) (by decide)⟩

theorem filledBy_filled (slot : Slot) (place : String) (id : Json) (ids : Dict Json) :
    (slot.filled place (segment id)).filledBy ids = slot.filledBy ((place, id) :: ids) := by
  cases slot with
  | literal text => rfl
  | place name =>
    by_cases hname : name = place
    · simp [Slot.filled, Slot.filledBy, Dict.get?, hname]
    · simp [Slot.filled, Slot.filledBy, Dict.get?, hname, Ne.symm hname]

theorem fillParents_slots (hids : ∀ entry ∈ ids, Braceless entry.1.toList ∧ entry.2.IsId)
    (hslots : ∀ s ∈ slots, s.Braced) :
    fillParents (slots.flatMap Slot.template) ids = slots.flatMap (Slot.filledBy ids) := by
  induction ids generalizing slots with
  | nil =>
    refine List.flatMap_congr fun slot _ => ?_
    cases slot <;> rfl
  | cons entry rest ih =>
    obtain ⟨place, id⟩ := entry
    obtain ⟨⟨hplace, hid⟩, hrest⟩ := List.forall_mem_cons.mp hids
    have hfilled : ∀ s ∈ slots.map (Slot.filled place (segment id)), s.Braced := by
      intro s hs
      obtain ⟨slot, hslot, rfl⟩ := List.mem_map.mp hs
      exact Slot.filled_braced (segment_braceless hid).1 (hslots slot hslot)
    rw [fillParents, replaceAll_slots hplace hslots, ih hrest hfilled, List.flatMap_map]
    exact List.flatMap_congr fun slot _ => filledBy_filled slot place id rest

/-- Segments take the ids of their names, and so does what stands before the first slash. -/
theorem fillParents_path (hids : ∀ entry ∈ ids, Braceless entry.1.toList ∧ entry.2.IsId)
    {first : Slot} (hfirst : first.Braced) (hslots : ∀ s ∈ slots, s.Braced) :
    fillParents (first.template ++ path (slots.map Slot.template)) ids =
      first.filledBy ids ++ path (slots.map (Slot.filledBy ids)) := by
  have hflat : ∀ {f : Slot → List Char}, f (.literal ['/']) = ['/'] →
      (first :: slots.flatMap fun s => [.literal ['/'], s]).flatMap f =
        f first ++ path (slots.map f) := by
    intro f hf
    simp [path, List.flatMap_assoc, List.flatMap_map, hf]
  have hbraced : ∀ s ∈ first :: slots.flatMap fun s => [.literal ['/'], s], s.Braced := by
    refine List.forall_mem_cons.mpr ⟨hfirst, fun s hs => ?_⟩
    obtain ⟨slot, hslot, hmem⟩ := List.mem_flatMap.mp hs
    rcases List.mem_cons.mp hmem with rfl | hmem
    · simp [Slot.Braced]
    · exact List.mem_singleton.mp hmem ▸ hslots slot hslot
  rw [← hflat rfl, fillParents_slots hids hbraced, hflat rfl]

theorem fillParents_append (template : List Char) (ids more : List (String × Json)) :
    fillParents template (ids ++ more) = fillParents (fillParents template ids) more := by
  induction ids generalizing template with
  | nil => rfl
  | cons entry rest ih => exact ih _

theorem filledBy_strs {ids : Dict String} {slot : Slot}
    (hplace : ∀ name, slot = .place name → ∃ value, ids.get? name = some value)
    (hliteral : ∀ text, slot = .literal text → Percent.encodeSegment text = text) :
    slot.filledBy (ids.mapValues Json.str) = Percent.encodeSegment (slot.content ids) := by
  cases slot with
  | literal text => exact (hliteral text rfl).symm
  | place name =>
    obtain ⟨value, hvalue⟩ := hplace name rfl
    rw [Slot.filledBy, Dict.get?_mapValues, Slot.content, hvalue]
    rfl

end Filling

/-! ## The ids of an item -/

def parentIds (parent? : Option ParentKey) : List Json := (parent?.map ParentKey.ids).getD []

theorem parentCount_eq (parent? : Option ParentKey) :
    parentCount parent? = (parentIds parent?).length := by
  cases parent? <;> rfl

end Endpoint

namespace ResourceType
open Endpoint (Slot Braceless path)

def slots (t : ResourceType) : List Slot :=
  (Text.splitOn '/' (t.endpoint.toList.drop 1)).map Slot.ofPiece

def idNames (t : ResourceType) : List String := t.parentIds ++ ["id"]

def namedIds (t : ResourceType) (parents : List String) (id : String) : Dict String :=
  t.idNames.zip (parents ++ [id])

end ResourceType

namespace Endpoint
variable {type : ResourceType} {parents : List String} {parent? : Option ParentKey}

theorem fill_collection (type : ResourceType) (template : List Char) (parent? : Option ParentKey) :
    fill type template none parent? =
      fillParents template (type.parentIds.zip (parentIds parent?)) := by
  cases parent? with
  | none => simp [fill, parentIds]
  | some p => rfl

theorem fill_item (type : ResourceType) (template : List Char) (id : Json)
    (parent? : Option ParentKey) :
    fill type template (some id) parent? = Text.replaceAll (placeholder "id") (segment id)
      (fillParents template (type.parentIds.zip (parentIds parent?))) := by
  rw [← fill_collection]
  rfl

theorem item_eq (hcount : (parentIds parent?).length = type.parentIds.length) (id : Json) :
    item type id parent? = .ok (String.ofList (fillParents type.endpoint.toList
      (type.idNames.zip (parentIds parent? ++ [id])))) := by
  have hcheck : checkParent type parent? = .ok () := by
    simp [checkParent, parentCount_eq, hcount]
  have hfill : fill type type.endpoint.toList (some id) parent? =
      fillParents type.endpoint.toList (type.idNames.zip (parentIds parent? ++ [id])) := by
    rw [fill_item, ResourceType.idNames, List.zip_append hcount.symm, fillParents_append]
    rfl
  rw [item, format, hcheck, hfill]
  rfl

end Endpoint

/-! ## Types whose endpoints are slots -/

namespace Endpoint

def Slot.Sound (names : List String) : Slot → Prop
  | .literal text => text.all Percent.isUnreserved = true ∧ text ≠ ['.'] ∧ text ≠ ['.', '.']
  | .place name => name ∈ names ∧ Braceless name.toList

instance (names : List String) : DecidablePred (Slot.Sound names)
  | .literal _ => inferInstanceAs (Decidable (_ ∧ _))
  | .place _ => inferInstanceAs (Decidable (_ ∧ _))

def leads : List Slot → Bool
  | .literal (_ :: _) :: _ => true
  | _ => false

end Endpoint

namespace ResourceType
open Endpoint (Slot Braceless path)
variable {t : ResourceType} {parents : List String} {id : String}

/-- An endpoint that starts with a text and has a place for every id. -/
structure Templated (t : ResourceType) : Prop where
  written : t.endpoint.toList = path (t.slots.map Slot.template)
  sound : ∀ s ∈ t.slots, s.Sound t.idNames
  named : ∀ name ∈ t.idNames, Slot.place name ∈ t.slots
  distinct : t.idNames.Nodup
  leading : Endpoint.leads t.slots = true

instance : DecidablePred Templated := fun t =>
  decidable_of_iff (t.endpoint.toList = path (t.slots.map Slot.template) ∧
      (∀ s ∈ t.slots, s.Sound t.idNames) ∧ (∀ name ∈ t.idNames, Slot.place name ∈ t.slots) ∧
      t.idNames.Nodup ∧ Endpoint.leads t.slots = true)
    ⟨fun ⟨h₁, h₂, h₃, h₄, h₅⟩ => ⟨h₁, h₂, h₃, h₄, h₅⟩,
      fun ⟨h₁, h₂, h₃, h₄, h₅⟩ => ⟨h₁, h₂, h₃, h₄, h₅⟩⟩

theorem Templated.unreserved (h : t.Templated) {text : List Char} {c : Char}
    (hs : Slot.literal text ∈ t.slots) (hc : c ∈ text) : Percent.isUnreserved c = true :=
  List.all_eq_true.mp (h.sound _ hs).1 c hc

theorem Templated.literal (h : t.Templated) {text : List Char} (hs : Slot.literal text ∈ t.slots) :
    Percent.encodeSegment text = text :=
  Percent.encode_of_forall fun c hc => by simp [h.unreserved hs hc]

theorem Templated.place (h : t.Templated) {name : String} (hs : Slot.place name ∈ t.slots) :
    name ∈ t.idNames ∧ Braceless name.toList := h.sound _ hs

theorem Templated.braceless (h : t.Templated) {name : String} (hname : name ∈ t.idNames) :
    Braceless name.toList := (h.place (h.named name hname)).2

theorem Templated.braced (h : t.Templated) {s : Slot} (hs : s ∈ t.slots) : s.Braced := by
  cases s with
  | literal text =>
    intro hbrace
    cases h.unreserved hs hbrace
  | place name => exact (h.place hs).2

theorem length_idNames (id : String) (hcount : parents.length = t.parentIds.length) :
    t.idNames.length = (parents ++ [id]).length := by
  simp [idNames, hcount]

def contents (t : ResourceType) (parents : List String) (id : String) : List (List Char) :=
  t.slots.map (Slot.content (t.namedIds parents id))

theorem Templated.contents_injective (h : t.Templated) {others : List String} {other : String}
    (hcount : parents.length = t.parentIds.length) (hothers : others.length = t.parentIds.length)
    (hsame : t.contents parents id = t.contents others other) : parents = others ∧ id = other := by
  have hvalues : parents ++ [id] = others ++ [other] := by
    refine Dict.zip_injective h.distinct (length_idNames id hcount) (length_idNames other hothers) ?_
    intro name hname
    have hslot := List.map_eq_map_iff.mp hsame (.place name) (h.named name hname)
    obtain ⟨v, hv⟩ := Dict.exists_get?_zip (length_idNames id hcount) hname
    obtain ⟨o, ho⟩ := Dict.exists_get?_zip (length_idNames other hothers) hname
    simp only [Slot.content, namedIds, hv, ho, Option.getD_some] at hslot
    rw [hv, ho, String.toList_inj.mp hslot]
  obtain ⟨hparents, hid⟩ := List.append_inj' hvalues rfl
  exact ⟨hparents, List.head_eq_of_cons_eq hid⟩

theorem Templated.item_eq (h : t.Templated) {parent? : Option ParentKey}
    (hids : Endpoint.parentIds parent? = parents.map Json.str)
    (hcount : parents.length = t.parentIds.length) :
    Endpoint.item t (.str id) parent? =
      .ok (String.ofList (path ((t.contents parents id).map Percent.encodeSegment))) := by
  have hstrs : t.idNames.zip (Endpoint.parentIds parent? ++ [.str id]) =
      (t.namedIds parents id).mapValues Json.str := by
    rw [hids, ← List.map_singleton, ← List.map_append, List.zip_map_right]
    rfl
  have hnames : ∀ entry ∈ (t.namedIds parents id).mapValues Json.str,
      Braceless entry.1.toList ∧ entry.2.IsId := by
    intro entry hentry
    obtain ⟨⟨name, value⟩, hmem, rfl⟩ := List.mem_map.mp hentry
    exact ⟨h.braceless (List.of_mem_zip hmem).1, trivial⟩
  have hslots : ∀ s ∈ t.slots, s.filledBy ((t.namedIds parents id).mapValues Json.str) =
      Percent.encodeSegment (s.content (t.namedIds parents id)) := by
    intro s hs
    refine Endpoint.filledBy_strs (fun name hname => ?_) fun text htext => ?_
    · subst hname
      exact Dict.exists_get?_zip (length_idNames id hcount) (h.place hs).1
    · subst htext
      exact h.literal hs
  -- nothing stands before the first slash
  have hempty : (Slot.literal []).Braced := by simp [Slot.Braced]
  have hfilled := Endpoint.fillParents_path hnames hempty fun s => h.braced
  rw [Endpoint.item_eq (by simp [hids, hcount]), hstrs, h.written]
  refine congrArg (fun path => Except.ok (String.ofList path)) (hfilled.trans ?_)
  rw [contents, List.map_map]
  exact congrArg path (List.map_congr_left hslots)

theorem builtin_templated {key : String} (h : Builtin.registry.get key = .ok t) : t.Templated := by
  have hall : ∀ entry ∈ Builtin.registry.types, entry.2.Templated := by decide +kernel
  exact hall (key, t) (Dict.mem_of_get? (Registry.get_eq_ok.mp h))

end ResourceType
end CloudClient
