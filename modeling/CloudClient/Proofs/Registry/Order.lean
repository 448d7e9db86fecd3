import CloudClient.Proofs.Registry.Validity

/-!
# Key order

Documents build all their dictionaries by insertion, so in key order, and the checks keep the keys.
So the properties of a registered type are in key order.
-/

namespace CloudClient

/-! ## Documents -/

theorem exists_of_mapM_eq_some {α β : Type} {f : α → Option β} {xs : List α} {ys : List β}
    (h : xs.mapM f = some ys) : ∀ y ∈ ys, ∃ x, f x = some y := by
  induction xs generalizing ys with
  | nil =>
    cases h
    intro y hy
    cases hy
  | cons x rest ih =>
    rw [List.mapM_cons] at h
    obtain ⟨y, hy, h⟩ := Option.bind_eq_some_iff.mp h
    obtain ⟨ys', hrest, h⟩ := Option.bind_eq_some_iff.mp h
    cases h
    exact List.forall_mem_cons.mpr ⟨⟨x, hy⟩, ih hrest⟩

theorem Json.readDict?_sorted {α : Type} {value? : List Char → Option α} {s : List Char} {d : Dict α}
    (h : readDict? value? s = some d) :
    Dict.Sorted d ∧ ∀ entry ∈ d, ∃ text, value? text = some entry.2 := by
  unfold readDict? at h
  split at h
  · obtain ⟨read, hread, rfl⟩ := Option.map_eq_some_iff.mp h
    refine ⟨.ofList read, Dict.forall_mem_ofList fun entry he => ?_⟩
    obtain ⟨part, hpart⟩ := exists_of_mapM_eq_some hread entry he
    obtain ⟨a, ha, rfl⟩ := Option.map_eq_some_iff.mp hpart
    exact ⟨part.2, ha⟩
  · cases h

theorem Json.readOr_nil_sorted {α : Type} {value? : List Char → Option α} {s? : Option (List Char)}
    {d : Dict α} (h : readOr [] (readDict? value?) s? = some d) :
    Dict.Sorted d ∧ ∀ entry ∈ d, ∃ text, value? text = some entry.2 := by
  cases s? with
  | none =>
    cases h
    exact ⟨.nil, fun entry he => by cases he⟩
  | some s => exact readDict?_sorted h

theorem TypeDocument.read?_sorted {s : List Char} {d : TypeDocument} (h : read? s = some d) :
    Dict.Sorted d.properties := by
  unfold read? at h
  obtain ⟨parts, -, h⟩ := Option.bind_eq_some_iff.mp h
  obtain ⟨slots, -, h⟩ := Option.bind_eq_some_iff.mp h
  split at h
  · obtain ⟨displayName, -, h⟩ := Option.bind_eq_some_iff.mp h
    obtain ⟨endpoint, -, h⟩ := Option.bind_eq_some_iff.mp h
    obtain ⟨parentIds, -, h⟩ := Option.bind_eq_some_iff.mp h
    obtain ⟨idField, -, h⟩ := Option.bind_eq_some_iff.mp h
    obtain ⟨properties, hproperties, h⟩ := Option.bind_eq_some_iff.mp h
    cases h
    exact (Json.readOr_nil_sorted hproperties).1
  · cases h

def Document.Ordered (d : Document) : Prop :=
  ∀ entry ∈ d.resources, Dict.Sorted entry.2.properties

theorem Document.read?_ordered {s : List Char} {d : Document} (h : read? s = some d) :
    d.Ordered := by
  unfold read? at h
  obtain ⟨parts, -, h⟩ := Option.bind_eq_some_iff.mp h
  obtain ⟨slots, -, h⟩ := Option.bind_eq_some_iff.mp h
  split at h
  · obtain ⟨entityTypes, -, h⟩ := Option.bind_eq_some_iff.mp h
    obtain ⟨resources, hresources, h⟩ := Option.bind_eq_some_iff.mp h
    cases h
    intro entry hentry
    obtain ⟨text, htext⟩ := (Json.readOr_nil_sorted hresources).2 entry hentry
    exact TypeDocument.read?_sorted htext
  · cases h

/-! ## Registries -/

theorem PropertyDocument.checkAll_keys {key : String} {ds : Dict PropertyDocument}
    {ps : Dict Property} (h : checkAll key ds = .ok ps) : Dict.keys ps = Dict.keys ds := by
  induction ds generalizing ps with
  | nil =>
    cases h
    rfl
  | cons entry rest ih =>
    obtain ⟨p, -, h⟩ := Except.bind_eq_ok.mp h
    obtain ⟨ps', hrest, h⟩ := Except.bind_eq_ok.mp h
    cases h
    exact congrArg (entry.1 :: ·) (ih hrest)

theorem Dict.Sorted.of_keys {α β : Type} {d : Dict α} {d' : Dict β} (h : Sorted d)
    (hkeys : keys d' = keys d) : Sorted d' := by
  have hd : (keys d).Pairwise (· < ·) := List.pairwise_map.mpr h
  rw [← hkeys] at hd
  exact List.pairwise_map.mp hd

theorem TypeDocument.check_sorted {key : String} {d : TypeDocument} {t : ResourceType}
    (h : d.check key = .ok t) (hd : Dict.Sorted d.properties) : Dict.Sorted t.properties := by
  unfold check at h
  obtain ⟨-, h⟩ := Except.guard_eq_ok.mp h
  obtain ⟨_, -, h⟩ := Except.bind_eq_ok.mp h
  obtain ⟨-, h⟩ := Except.guard_eq_ok.mp h
  obtain ⟨ps, hps, h⟩ := Except.bind_eq_ok.mp h
  cases h
  exact hd.of_keys (PropertyDocument.checkAll_keys hps)

namespace Registry

theorem addTypes_forall {P : TypeDocument → Prop} {types added merged : Dict TypeDocument}
    (h : addTypes types added = .ok merged) (htypes : ∀ entry ∈ types, P entry.2)
    (hadded : ∀ entry ∈ added, P entry.2) : ∀ entry ∈ merged, P entry.2 := by
  induction added generalizing types with
  | nil =>
    cases h
    exact htypes
  | cons entry rest ih =>
    obtain ⟨hentry, hrest⟩ := List.forall_mem_cons.mp hadded
    simp only [addTypes] at h
    split at h
    · cases h
    · refine ih h (fun other hother => ?_) hrest
      rcases Dict.mem_insert hother with rfl | hother
      · exact hentry
      · exact htypes other hother

theorem merge_ordered {merged result : Document} {documents : List Document}
    (h : merge merged documents = .ok result) (hmerged : merged.Ordered)
    (hdocuments : ∀ d ∈ documents, d.Ordered) : result.Ordered := by
  induction documents generalizing merged with
  | nil =>
    cases h
    exact hmerged
  | cons d rest ih =>
    obtain ⟨hd, hrest⟩ := List.forall_mem_cons.mp hdocuments
    obtain ⟨resources, hadd, h⟩ := Except.bind_eq_ok.mp h
    exact ih h (addTypes_forall (P := fun d => Dict.Sorted d.properties) hadd hmerged hd) hrest

theorem checkTypes_sorted {documents : Dict TypeDocument} {types : Dict ResourceType}
    (h : checkTypes documents = .ok types)
    (hdocuments : ∀ entry ∈ documents, Dict.Sorted entry.2.properties) :
    ∀ entry ∈ types, Dict.Sorted entry.2.properties := by
  induction documents generalizing types with
  | nil =>
    cases h
    intro entry he
    cases he
  | cons entry rest ih =>
    obtain ⟨hentry, hrest⟩ := List.forall_mem_cons.mp hdocuments
    obtain ⟨t, ht, h⟩ := Except.bind_eq_ok.mp h
    obtain ⟨ts, hts, h⟩ := Except.bind_eq_ok.mp h
    cases h
    exact List.forall_mem_cons.mpr ⟨TypeDocument.check_sorted ht hentry, ih hts hrest⟩

theorem ofSources_sorted {sources : List String} {registry : Registry}
    (h : ofSources sources = .ok registry) {key : String} {t : ResourceType}
    (ht : registry.get key = .ok t) : Dict.Sorted t.properties := by
  unfold ofSources at h
  split at h
  · cases h
  · rename_i documents hparsed
    have hordered : ∀ d ∈ documents, d.Ordered := by
      intro d hd
      obtain ⟨source, hsource⟩ := exists_of_mapM_eq_some hparsed d hd
      obtain ⟨text, -, hread⟩ := Option.bind_eq_some_iff.mp hsource
      exact Document.read?_ordered hread
    obtain ⟨merged, hmerge, h⟩ := Except.bind_eq_ok.mp h
    obtain ⟨types, htypes, h⟩ := Except.bind_eq_ok.mp h
    obtain ⟨_, -, h⟩ := Except.bind_eq_ok.mp h
    obtain ⟨_, -, h⟩ := Except.bind_eq_ok.mp h
    cases h
    have hmerged := merge_ordered hmerge (fun entry he => by cases he) hordered
    exact checkTypes_sorted htypes hmerged _ (Dict.mem_of_get? (get_eq_ok.mp ht))

end Registry
end CloudClient
