import CloudClient.Proofs.Registry.Order
import Mathlib.Data.List.Pairwise

/-!
# The order of documents

Of several documents the resource types must be declared apart, and a repeated entity tag takes its
last declaration. The registry does not depend on the order of the documents exactly if their
entity tags agree, or if no order is accepted at all.
-/

namespace CloudClient

namespace Dict
variable {α : Type} {d e : Dict α}

def Disjoint (d e : Dict α) : Prop := ∀ key, get? d key = none ∨ get? e key = none

def Agree (d e : Dict α) : Prop :=
  ∀ key a b, get? d key = some a → get? e key = some b → a = b

theorem Disjoint.symm (h : Disjoint d e) : Disjoint e d := fun key => (h key).symm

theorem Disjoint.agree (h : Disjoint d e) : Agree d e := by
  intro key a b ha hb
  rcases h key with hnone | hnone <;> simp_all

theorem Agree.symm (h : Agree d e) : Agree e d := fun key a b ha hb => (h key b a hb ha).symm

theorem Agree.refl (d : Dict α) : Agree d d := fun _ _ _ ha hb => Option.some.inj (ha.symm.trans hb)

theorem disjoint_cons {key : String} {value : α} :
    Disjoint d ((key, value) :: e) ↔ get? d key = none ∧ Disjoint d e := by
  simp only [Disjoint, get?]
  refine ⟨fun h => ⟨by simpa using h key, fun other => ?_⟩, fun h other => ?_⟩
  · by_cases heq : key = other
    · exact .inl (heq ▸ by simpa using h key)
    · simpa [heq] using h other
  · obtain ⟨hkey, h⟩ := h
    by_cases heq : key = other
    · exact .inl (heq ▸ hkey)
    · simpa [heq] using h other

theorem get?_insert (d : Dict α) (key other : String) (value : α) :
    get? (insert d key value) other = if other = key then some value else get? d other := by
  split
  · rename_i heq
    rw [heq, get?_insert_self]
  · rename_i hne
    exact get?_insert_of_ne d value hne

theorem disjoint_insert {key : String} {value : α} :
    Disjoint (insert d key value) e ↔ get? e key = none ∧ Disjoint d e := by
  simp only [Disjoint, get?_insert]
  refine ⟨fun h => ⟨by simpa using h key, fun other => ?_⟩, fun h other => ?_⟩
  · by_cases heq : other = key
    · exact .inr (heq ▸ by simpa using h key)
    · simpa [heq] using h other
  · obtain ⟨hkey, h⟩ := h
    by_cases heq : other = key
    · exact .inr (heq ▸ hkey)
    · simpa [heq] using h other

namespace Sorted

theorem get?_tail {key : String} {value : α} (h : Sorted ((key, value) :: d)) :
    get? d key = none := by
  cases hget : get? d key with
  | none => rfl
  | some a => exact absurd ((List.pairwise_cons.mp h).1 _ (mem_of_get? hget)) (String.lt_irrefl key)

theorem get?_overlay (he : Sorted e) (d : Dict α) (key : String) :
    get? (d.overlay e) key = (get? e key).or (get? d key) := by
  induction e generalizing d with
  | nil => rfl
  | cons entry rest ih =>
    have hstep : d.overlay (entry :: rest) = (d.insert entry.1 entry.2).overlay rest := rfl
    rw [hstep, ih (List.pairwise_cons.mp he).2, get?_insert]
    by_cases heq : key = entry.1
    · simp [get?, heq, he.get?_tail]
    · simp [get?, heq, Ne.symm heq]

theorem overlay (hd : Sorted d) (e : Dict α) : Sorted (d.overlay e) :=
  List.foldlRecOn (motive := Sorted) _ _ hd fun _ h entry _ => h.insert entry.1 entry.2

theorem mem_overlay (hd : Sorted d) (he : Sorted e) {entry : String × α} :
    entry ∈ d.overlay e ↔ entry ∈ e ∨ entry ∈ d ∧ get? e entry.1 = none := by
  have hmem : entry ∈ d.overlay e ↔ get? (d.overlay e) entry.1 = some entry.2 :=
    ⟨(hd.overlay e).get?_of_mem, mem_of_get?⟩
  have hmem' : ∀ {f : Dict α}, Sorted f → (get? f entry.1 = some entry.2 ↔ entry ∈ f) :=
    fun hf => ⟨mem_of_get?, hf.get?_of_mem⟩
  rw [hmem, he.get?_overlay, Option.or_eq_some_iff, hmem' he, hmem' hd, and_comm]

theorem ext (hd : Sorted d) (he : Sorted e) (h : ∀ key, get? d key = get? e key) : d = e := by
  induction d generalizing e with
  | nil =>
    cases e with
    | nil => rfl
    | cons entry rest => simpa [get?] using h entry.1
  | cons head rest ih =>
    obtain ⟨k, v⟩ := head
    have hmem : (k, v) ∈ e := mem_of_get? (by simpa [get?] using (h k).symm)
    cases e with
    | nil => cases hmem
    | cons head' rest' =>
      obtain ⟨k', v'⟩ := head'
      have hmem' : (k', v') ∈ (k, v) :: rest :=
        mem_of_get? (by simpa [get?] using h k')
      obtain ⟨hhead, hrest⟩ := List.pairwise_cons.mp hd
      obtain ⟨hhead', hrest'⟩ := List.pairwise_cons.mp he
      -- Each head is in the other dictionary, so neither key is below the other.
      have heq : (k, v) = (k', v') := by
        rcases List.mem_cons.mp hmem with heq | hlt
        · exact heq
        · rcases List.mem_cons.mp hmem' with heq | hlt'
          · exact heq.symm
          · exact absurd (String.lt_trans (hhead _ hlt') (hhead' _ hlt)) (String.lt_irrefl k)
      cases heq
      refine congrArg _ (ih hrest hrest' fun key => ?_)
      by_cases hk : k = key
      · rw [← hk, hd.get?_tail, he.get?_tail]
      · simpa [get?, hk] using h key

end Sorted

theorem foldl_get?_perm {δ : Type} {f : δ → Dict α} {xs ys : List δ} (h : xs.Perm ys)
    (hagree : ∀ x ∈ xs, ∀ y ∈ xs, Agree (f x) (f y)) (start : Option α) (key : String) :
    xs.foldl (fun found x => (get? (f x) key).or found) start =
      ys.foldl (fun found x => (get? (f x) key).or found) start := by
  refine h.foldl_eq' (fun x hx y hy found => ?_) start
  cases hgx : get? (f x) key with
  | none => simp
  | some a =>
    cases hgy : get? (f y) key with
    | none => simp
    | some b => simp [hagree x hx y hy key a b hgx hgy]

end Dict

/-! ## Documents as one -/

namespace Document
variable {d e : Document} {documents : List Document}

structure Keyed (d : Document) : Prop where
  entityTypes : Dict.Sorted d.entityTypes
  resources : Dict.Sorted d.resources

theorem read?_keyed {s : List Char} (h : read? s = some d) : d.Keyed := by
  unfold read? at h
  obtain ⟨parts, -, h⟩ := Option.bind_eq_some_iff.mp h
  obtain ⟨slots, -, h⟩ := Option.bind_eq_some_iff.mp h
  split at h
  · obtain ⟨entityTypes, hentityTypes, h⟩ := Option.bind_eq_some_iff.mp h
    obtain ⟨resources, hresources, h⟩ := Option.bind_eq_some_iff.mp h
    cases h
    exact ⟨(Json.readOr_nil_sorted hentityTypes).1, (Json.readOr_nil_sorted hresources).1⟩
  · cases h

theorem parse?_keyed {source : String} (h : parse? source = some d) : d.Keyed := by
  obtain ⟨text, -, hread⟩ := Option.bind_eq_some_iff.mp h
  exact read?_keyed hread

def Apart (d e : Document) : Prop := d.resources.Disjoint e.resources

theorem Apart.symm (h : d.Apart e) : e.Apart d := Dict.Disjoint.symm h

theorem eq_of_fields (hentityTypes : d.entityTypes = e.entityTypes)
    (hresources : d.resources = e.resources) : d = e := by
  cases d
  cases e
  cases hentityTypes
  cases hresources
  rfl

def join (d e : Document) : Document :=
  ⟨d.entityTypes.overlay e.entityTypes, d.resources.overlay e.resources⟩

theorem Keyed.join (h : d.Keyed) (e : Document) : (d.join e).Keyed :=
  ⟨h.entityTypes.overlay e.entityTypes, h.resources.overlay e.resources⟩

theorem join_apart {other : Document} (he : e.Keyed) :
    (d.join e).Apart other ↔ d.Apart other ∧ e.Apart other := by
  simp only [Apart, Document.join, Dict.Disjoint, he.resources.get?_overlay, Option.or_eq_none_iff]
  grind

theorem foldl_join_keyed (h : d.Keyed) : (documents.foldl Document.join d).Keyed :=
  List.foldlRecOn (motive := Keyed) _ _ h fun _ h e _ => h.join e

theorem get?_foldl_join (h : ∀ e ∈ documents, e.Keyed) (d : Document) (key : String) :
    (documents.foldl Document.join d).entityTypes.get? key =
        documents.foldl (fun found e => (e.entityTypes.get? key).or found)
          (d.entityTypes.get? key) ∧
      (documents.foldl Document.join d).resources.get? key =
        documents.foldl (fun found e => (e.resources.get? key).or found)
          (d.resources.get? key) := by
  induction documents generalizing d with
  | nil => exact ⟨rfl, rfl⟩
  | cons e rest ih =>
    obtain ⟨he, hrest⟩ := List.forall_mem_cons.mp h
    simpa [Document.join, he.entityTypes.get?_overlay, he.resources.get?_overlay]
      using ih hrest (d.join e)

theorem foldl_join_resources_perm {other : List Document} (hperm : documents.Perm other)
    (hkeyed : ∀ e ∈ documents, e.Keyed) (hapart : documents.Pairwise Apart) (hd : d.Keyed) :
    (documents.foldl Document.join d).resources = (other.foldl Document.join d).resources := by
  have hkeyed' : ∀ e ∈ other, e.Keyed := fun e he => hkeyed e (hperm.mem_iff.mpr he)
  have : Std.Symm fun e e' : Document => Dict.Agree e.resources e'.resources :=
    ⟨fun _ _ h => h.symm⟩
  have hagree : ∀ e ∈ documents, ∀ e' ∈ documents, Dict.Agree e.resources e'.resources :=
    fun e he e' he' => (hapart.imp fun h => h.agree).forall_of_forall
      (fun e _ => Dict.Agree.refl e.resources) he he'
  refine (foldl_join_keyed hd).resources.ext (foldl_join_keyed hd).resources fun key => ?_
  rw [(get?_foldl_join hkeyed d key).2, (get?_foldl_join hkeyed' d key).2]
  exact Dict.foldl_get?_perm hperm hagree _ key

theorem foldl_join_entityTypes_perm {other : List Document} (hperm : documents.Perm other)
    (hkeyed : ∀ e ∈ documents, e.Keyed)
    (hagree : ∀ e ∈ documents, ∀ e' ∈ documents, e.entityTypes.Agree e'.entityTypes)
    (hd : d.Keyed) :
    (documents.foldl Document.join d).entityTypes =
      (other.foldl Document.join d).entityTypes := by
  have hkeyed' : ∀ e ∈ other, e.Keyed := fun e he => hkeyed e (hperm.mem_iff.mpr he)
  refine (foldl_join_keyed hd).entityTypes.ext (foldl_join_keyed hd).entityTypes fun key => ?_
  rw [(get?_foldl_join hkeyed d key).1, (get?_foldl_join hkeyed' d key).1]
  exact Dict.foldl_get?_perm hperm hagree _ key

theorem get?_foldl_join_last (he : e.Keyed) (d : Document) {tag key : String}
    (h : e.entityTypes.get? tag = some key) :
    ((documents ++ [e]).foldl Document.join d).entityTypes.get? tag = some key := by
  simp [Document.join, he.entityTypes.get?_overlay, h]

end Document

/-! ## Registries -/

theorem mapM_eq_some_iff {α β : Type} {f : α → Option β} {xs : List α} {ys : List β} :
    xs.mapM f = some ys ↔ (∀ x ∈ xs, (f x).isSome) ∧ ys = xs.filterMap f := by
  induction xs generalizing ys with
  | nil => exact ⟨fun h => ⟨by simp, (Option.some.inj h).symm⟩, fun h => congrArg some h.2.symm⟩
  | cons x rest ih =>
    cases hx : f x with
    | none => simp [List.mapM_cons, hx]
    | some y =>
      have hbind : (x :: rest).mapM f = (rest.mapM f).map (y :: ·) := by
        rw [List.mapM_cons, hx]
        exact (Option.map_eq_bind ..).symm
      simp only [hbind, Option.map_eq_some_iff, ih, List.forall_mem_cons, hx,
        List.filterMap_cons_some hx, and_assoc, exists_and_left, exists_eq_left, Option.isSome_some,
        true_and, @eq_comm _ ys]

namespace Registry
variable {start merged : Document} {documents : List Document} {sources other : List String}
  {registry : Registry}

theorem addTypes_eq_ok_iff {types added result : Dict TypeDocument} (h : Dict.Sorted added) :
    addTypes types added = .ok result ↔
      types.Disjoint added ∧ result = types.overlay added := by
  induction added generalizing types with
  | nil => simp [addTypes, Dict.Disjoint, Dict.get?, Dict.overlay, eq_comm]
  | cons entry rest ih =>
    obtain ⟨key, d⟩ := entry
    rw [addTypes, Dict.disjoint_cons]
    cases hkey : types.get? key with
    | some _ => simp [Dict.contains, hkey]
    | none =>
      simp [Dict.contains, hkey, ih (List.pairwise_cons.mp h).2, Dict.disjoint_insert,
        h.get?_tail, Dict.overlay]

theorem merge_eq_ok_iff (hdocuments : ∀ d ∈ documents, d.Keyed) :
    merge start documents = .ok merged ↔
      (start :: documents).Pairwise Document.Apart ∧
        merged = documents.foldl Document.join start := by
  induction documents generalizing start with
  | nil => simp [merge, eq_comm]
  | cons d rest ih =>
    obtain ⟨hd, hrest⟩ := List.forall_mem_cons.mp hdocuments
    rw [merge, Except.bind_eq_ok]
    simp only [addTypes_eq_ok_iff hd.resources, and_assoc, exists_and_left, exists_eq_left]
    have hjoin : (⟨start.entityTypes.overlay d.entityTypes, start.resources.overlay d.resources⟩ :
        Document) = start.join d := rfl
    rw [hjoin, ih hrest]
    simp only [List.pairwise_cons, Document.join_apart hd, List.foldl_cons, List.forall_mem_cons]
    grind [Document.Apart]

def complete (merged : Document) : Except RegistryFault Registry := do
  let types ← checkTypes merged.resources
  checkAllLinks types types
  checkEntities types merged.entityTypes
  return ⟨types, merged.entityTypes⟩

theorem complete_eq_ok (h : complete merged = .ok registry) :
    checkTypes merged.resources = .ok registry.types ∧
      registry.entityTypes = merged.entityTypes := by
  obtain ⟨types, htypes, h⟩ := Except.bind_eq_ok.mp h
  obtain ⟨_, -, h⟩ := Except.bind_eq_ok.mp h
  obtain ⟨_, -, h⟩ := Except.bind_eq_ok.mp h
  cases h
  exact ⟨htypes, rfl⟩

def documentsOf (sources : List String) : List Document := sources.filterMap Document.parse?

theorem documentsOf_keyed (sources : List String) : ∀ d ∈ documentsOf sources, d.Keyed := by
  intro d hd
  obtain ⟨source, -, hsource⟩ := List.mem_filterMap.mp hd
  exact Document.parse?_keyed hsource

theorem empty_keyed : Document.Keyed {} := ⟨.nil, .nil⟩

/-- Sources are accepted if all of them can be read, no two declare one type, and the one document
they join to passes its checks. -/
theorem ofSources_eq_ok_iff :
    ofSources sources = .ok registry ↔
      (∀ source ∈ sources, (Document.parse? source).isSome) ∧
      (documentsOf sources).Pairwise Document.Apart ∧
      complete ((documentsOf sources).foldl Document.join {}) = .ok registry := by
  have hempty : ({} :: documentsOf sources).Pairwise Document.Apart ↔
      (documentsOf sources).Pairwise Document.Apart :=
    List.pairwise_cons.trans (and_iff_right fun _ _ _ => .inl rfl)
  have hdocuments : ofDocuments (documentsOf sources) = .ok registry ↔
      (documentsOf sources).Pairwise Document.Apart ∧
        complete ((documentsOf sources).foldl Document.join {}) = .ok registry := by
    have hbind : ofDocuments (documentsOf sources) =
      merge {} (documentsOf sources) >>= complete := rfl
    simp only [hbind, Except.bind_eq_ok, merge_eq_ok_iff (documentsOf_keyed sources),
      hempty, and_assoc, exists_and_left, exists_eq_left]
  unfold ofSources
  cases hparsed : sources.mapM Document.parse? with
  | none =>
    have hnone : ¬ ∀ source ∈ sources, (Document.parse? source).isSome := fun hall => by
      simp [mapM_eq_some_iff.mpr ⟨hall, rfl⟩] at hparsed
    simp [hnone]
  | some documents =>
    obtain ⟨hall, rfl⟩ := mapM_eq_some_iff.mp hparsed
    exact hdocuments.trans ⟨fun h => ⟨hall, h⟩, fun h => h.2⟩

/-! ## Orders -/

def TagsAgree (sources : List String) : Prop :=
  ∀ d ∈ documentsOf sources, ∀ d' ∈ documentsOf sources, d.entityTypes.Agree d'.entityTypes

/-- Every order of the sources is accepted with the same registry, or none is. -/
def OrderFree (sources : List String) : Prop :=
  ∀ other, other.Perm sources →
    ∀ registry, ofSources other = .ok registry ↔ ofSources sources = .ok registry

theorem types_perm {registry' : Registry} (hperm : other.Perm sources)
    (h : ofSources sources = .ok registry) (h' : ofSources other = .ok registry') :
    registry'.types = registry.types := by
  obtain ⟨-, hapart, h⟩ := ofSources_eq_ok_iff.mp h
  obtain ⟨-, -, h'⟩ := ofSources_eq_ok_iff.mp h'
  have hresources := Document.foldl_join_resources_perm (hperm.symm.filterMap Document.parse?)
    (documentsOf_keyed sources) hapart empty_keyed
  have htypes := (complete_eq_ok h).1
  rw [documentsOf, hresources] at htypes
  exact Except.ok.inj ((complete_eq_ok h').1.symm.trans htypes)

theorem TagsAgree.ofSources_perm (htags : TagsAgree sources) (hperm : other.Perm sources)
    (h : ofSources sources = .ok registry) : ofSources other = .ok registry := by
  obtain ⟨hread, hapart, h⟩ := ofSources_eq_ok_iff.mp h
  have hdocuments : (documentsOf sources).Perm (documentsOf other) :=
    hperm.symm.filterMap Document.parse?
  have hjoined : (documentsOf sources).foldl Document.join {} =
      (documentsOf other).foldl Document.join {} := by
    refine Document.eq_of_fields ?_ ?_
    · exact Document.foldl_join_entityTypes_perm hdocuments (documentsOf_keyed sources) htags
        empty_keyed
    · exact Document.foldl_join_resources_perm hdocuments (documentsOf_keyed sources) hapart
        empty_keyed
  refine ofSources_eq_ok_iff.mpr ⟨fun source hsource => hread source (hperm.mem_iff.mp hsource),
    ?_, hjoined ▸ h⟩
  exact (hdocuments.pairwise_iff Document.Apart.symm).mp hapart

theorem TagsAgree.perm (h : TagsAgree sources) (hperm : other.Perm sources) : TagsAgree other := by
  have hmem : ∀ d, d ∈ documentsOf other ↔ d ∈ documentsOf sources := fun d =>
    (hperm.filterMap Document.parse?).mem_iff
  exact fun d hd d' hd' => h d ((hmem d).mp hd) d' ((hmem d').mp hd')

theorem TagsAgree.orderFree (h : TagsAgree sources) : OrderFree sources := fun _ hperm _ =>
  ⟨(h.perm hperm).ofSources_perm hperm.symm, h.ofSources_perm hperm⟩

theorem ofSources_last {source : String} (h : ofSources (sources ++ [source]) = .ok registry)
    {d : Document} (hd : Document.parse? source = some d) {tag key : String}
    (htag : d.entityTypes.get? tag = some key) : registry.entityTypes.get? tag = some key := by
  obtain ⟨-, -, h⟩ := ofSources_eq_ok_iff.mp h
  rw [(complete_eq_ok h).2, documentsOf, List.filterMap_append, List.filterMap_cons_some hd,
    List.filterMap_nil]
  exact Document.get?_foldl_join_last (Document.parse?_keyed hd) {} htag

/-- If the order does not matter and one is accepted, no tag can be declared twice: each of its
declarations counts in the order that has it last. -/
theorem OrderFree.tagsAgree (hfree : OrderFree sources) (h : ofSources sources = .ok registry) :
    TagsAgree sources := by
  have hlast : ∀ d ∈ documentsOf sources, ∀ tag key, d.entityTypes.get? tag = some key →
      registry.entityTypes.get? tag = some key := by
    intro d hd tag key htag
    obtain ⟨source, hsource, hparsed⟩ := List.mem_filterMap.mp hd
    have hperm : (sources.erase source ++ [source]).Perm sources :=
      (List.perm_append_singleton _ _).trans (List.perm_cons_erase hsource).symm
    exact ofSources_last ((hfree _ hperm registry).mpr h) hparsed htag
  intro d hd d' hd' tag key key' htag htag'
  exact Option.some.inj ((hlast d hd tag key htag).symm.trans (hlast d' hd' tag key' htag'))

/-- Of accepted sources no two declare one type, and the types do not depend on the order. The
registry does not either, exactly if the tags agree or no order is accepted. -/
theorem orderFree_iff (sources : List String) :
    (∀ registry, ofSources sources = .ok registry →
      (documentsOf sources).Pairwise Document.Apart ∧
        ∀ other registry', other.Perm sources → ofSources other = .ok registry' →
          registry'.types = registry.types) ∧
    (OrderFree sources ↔ TagsAgree sources ∨
      ∀ other, other.Perm sources → ∃ fault, ofSources other = .error fault) := by
  refine ⟨fun registry h => ⟨(ofSources_eq_ok_iff.mp h).2.1, fun other registry' hperm h' =>
    types_perm hperm h h'⟩, fun hfree => ?_, ?_⟩
  · cases h : ofSources sources with
    | ok registry => exact .inl (hfree.tagsAgree h)
    | error fault =>
      refine .inr fun other hperm => ?_
      cases h' : ofSources other with
      | error fault' => exact ⟨fault', rfl⟩
      | ok registry => simp [(hfree other hperm registry).mp h'] at h
  · rintro (htags | hfails)
    · exact htags.orderFree
    · intro other hperm registry
      obtain ⟨_, hother⟩ := hfails other hperm
      obtain ⟨_, hsources⟩ := hfails sources (.refl _)
      simp [hother, hsources]

/-! ## A tag of two types -/

def machineSource : String :=
  "\x7b\"entity_types\": \x7b\"machine\": \"host\"\x7d, \"resources\": \x7b
    \"host\": \x7b\"display_name\": \"Host\", \"endpoint\": \"/hosts/\x7bid\x7d\",
      \"properties\": \x7b\"id\": \x7b\"identifier\": true\x7d\x7d\x7d,
    \"node\": \x7b\"display_name\": \"Node\", \"endpoint\": \"/nodes/\x7bid\x7d\",
      \"properties\": \x7b\"id\": \x7b\"identifier\": true\x7d\x7d\x7d\x7d\x7d"

def hostTagSource : String := "\x7b\"entity_types\": \x7b\"machine\": \"host\"\x7d\x7d"

def nodeTagSource : String := "\x7b\"entity_types\": \x7b\"machine\": \"node\"\x7d\x7d"

def tagDocument (key : String) : Document := { entityTypes := [("machine", key)] }

def machineDocument : Document where
  entityTypes := [("machine", "host")]
  resources := [
    ("host", { displayName := "Host", endpoint := "/hosts/\x7bid\x7d"
               properties := [("id", { identifier := true })] }),
    ("node", { displayName := "Node", endpoint := "/nodes/\x7bid\x7d"
               properties := [("id", { identifier := true })] })]

def machineRegistry (key : String) : Registry where
  types := [
    ("host", { key := "host", displayName := "Host", endpoint := "/hosts/\x7bid\x7d"
               parentIds := [], idField := "id", properties := [("id", { identifier := true })] }),
    ("node", { key := "node", displayName := "Node", endpoint := "/nodes/\x7bid\x7d"
               parentIds := [], idField := "id", properties := [("id", { identifier := true })] })]
  entityTypes := [("machine", key)]

set_option maxRecDepth 8000 in
theorem machineSource_parsed : Document.parse? machineSource = some machineDocument := by
  unfold machineSource
  exact parse?_ofList (by decide +kernel)

theorem hostTagSource_parsed : Document.parse? hostTagSource = some (tagDocument "host") := by
  unfold hostTagSource
  exact parse?_ofList (by decide +kernel)

theorem nodeTagSource_parsed : Document.parse? nodeTagSource = some (tagDocument "node") := by
  unfold nodeTagSource
  exact parse?_ofList (by decide +kernel)

theorem ofSources_pair {source source' : String} {d d' : Document}
    (h : Document.parse? source = some d) (h' : Document.parse? source' = some d')
    (hregistry : (ofDocuments [d, d']).toOption = some registry) :
    ofSources [source, source'] = .ok registry := by
  have hdocuments : ofSources [source, source'] = ofDocuments [d, d'] := by
    simp [ofSources, h, h']
  rw [hdocuments]
  cases hresult : ofDocuments [d, d'] <;> simp_all [Except.toOption]

theorem machine_then_node :
    ofSources [machineSource, nodeTagSource] = .ok (machineRegistry "node") :=
  ofSources_pair machineSource_parsed nodeTagSource_parsed (by decide +kernel)

theorem node_then_machine :
    ofSources [nodeTagSource, machineSource] = .ok (machineRegistry "host") :=
  ofSources_pair nodeTagSource_parsed machineSource_parsed (by decide +kernel)

theorem orderFree_machine :
    OrderFree [machineSource, hostTagSource] ∧
      [nodeTagSource, machineSource].Perm [machineSource, nodeTagSource] ∧
      ofSources [machineSource, nodeTagSource] = .ok (machineRegistry "node") ∧
      ofSources [nodeTagSource, machineSource] = .ok (machineRegistry "host") ∧
      (machineRegistry "host").types = (machineRegistry "node").types := by
  have htags : TagsAgree [machineSource, hostTagSource] := by
    have hdocuments : documentsOf [machineSource, hostTagSource] =
        [machineDocument, tagDocument "host"] := by
      simp [documentsOf, machineSource_parsed, hostTagSource_parsed]
    intro d hd d' hd'
    have hmachine : ∀ e ∈ documentsOf [machineSource, hostTagSource],
        e.entityTypes = [("machine", "host")] := by
      simp [hdocuments, machineDocument, tagDocument]
    rw [hmachine d hd, hmachine d' hd']
    exact .refl _
  have hperm : [nodeTagSource, machineSource].Perm [machineSource, nodeTagSource] := .swap ..
  refine ⟨(orderFree_iff _).2.mpr (.inl htags), hperm, machine_then_node, node_then_machine, ?_⟩
  exact ((orderFree_iff _).1 _ machine_then_node).2 _ _ hperm node_then_machine

/-- What machines are depends on the order of sources that disagree, and both orders are
accepted. -/
theorem not_orderFree_machine : ¬ ∀ sources, OrderFree sources := by
  intro hfree
  have hsame := (hfree [machineSource, nodeTagSource] _ (.swap ..) _).mp node_then_machine
  rw [machine_then_node] at hsame
  have htags := congrArg Registry.entityTypes (Except.ok.inj hsame)
  exact absurd htags (by decide)

end Registry
end CloudClient
