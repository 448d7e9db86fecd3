import CloudClient.CommandLine
import CloudClient.Proofs.Filter.WireForm
import CloudClient.Proofs.Text
import Mathlib.Data.List.Forall2

/-!
# Filters on the command line

A clause is cut at its first equals sign into the name of a field and what the field is compared
with: the JSON scalar that the text behind the sign reads as, or else that text. The filter of a
list is the conjunction of its clauses in the order typed, beside the order and the limit. It is
refused exactly for a clause without the sign, a field that nothing can be filtered by, or a
negative limit.
-/

namespace CloudClient

theorem Dict.ofList_append {α : Type} (entries more : List (String × α)) :
    Dict.ofList (entries ++ more) = (Dict.ofList entries).overlay more := List.foldl_append

namespace Json

def isScalar : Json → Bool
  | .arr _ | .obj _ => false
  | .null | .bool _ | .num _ | .str _ => true

end Json

namespace ResourceType
variable {t : ResourceType} {name : String}

def Filters (t : ResourceType) (name : String) : Prop :=
  ∃ p, t.property? name = some p ∧ p.filterable = true

theorem filterField_eq_ok_iff {field : FilterField} : t.filterField name = .ok field ↔
    ∃ p, t.property? name = some p ∧ field = ⟨name, p.filterable⟩ := by
  cases hp : t.property? name <;> simp [filterField, hp, eq_comm]

end ResourceType

namespace CommandLine
variable {type : ResourceType} {request : ListRequest} {clause raw : String} {filter g : Filter}
  {entry : String × Json} {entries : List (String × Json)}

theorem lift_eq_ok_iff {α : Type} {x : Except Error α} {a : α} : lift x = .ok a ↔ x = .ok a := by
  cases x <;> simp [lift]

theorem liftFilter_eq_ok_iff {x : Except FilterError Filter} :
    liftFilter x = .ok g ↔ x = .ok g := by
  cases x <;> simp [liftFilter]

/-! ## Values -/

/-- The JSON scalar that a text reads as, or the text itself if it reads as none. -/
inductive Means (raw : String) : Json → Prop
  | scalar {v : Json} (hread : Json.read? raw = some v) (h : v.isScalar = true) : Means raw v
  | text (h : ∀ v, Json.read? raw = some v → v.isScalar = false) : Means raw (.str raw)

theorem readValue_eq (raw : String) :
    readValue raw = ((Json.read? raw).filter Json.isScalar).getD (.str raw) := by
  unfold readValue
  cases Json.read? raw with
  | none => rfl
  | some v => cases v <;> rfl

theorem means_iff {v : Json} : Means raw v ↔ readValue raw = v := by
  rw [readValue_eq]
  constructor
  · intro h
    cases h with
    | scalar hread h => simp [hread, Option.filter, h]
    | text h =>
      cases hread : Json.read? raw with
      | none => rfl
      | some w => simp [Option.filter, h w hread]
  · rintro rfl
    cases hread : Json.read? raw with
    | none => exact .text fun w hw => by simp [hread] at hw
    | some w =>
      cases hw : w.isScalar with
      | true => simpa [Option.filter, hw] using Means.scalar hread hw
      | false =>
        simp only [Option.filter, hw, Bool.false_eq_true, if_false, Option.getD_none]
        refine .text fun w' hw' => ?_
        cases hread.symm.trans hw'
        exact hw

/-! ## One clause -/

def Compares (type : ResourceType) (clause : String) (entry : String × Json) : Prop :=
  ∃ name raw, clause.toList = name ++ '=' :: raw ∧ '=' ∉ name ∧
    entry.1 = String.ofList (Text.trim name) ∧ type.Filters entry.1 ∧
      Means (String.ofList raw) entry.2

def comparison (entry : String × Json) : Clause := .compare entry.1 entry.2

theorem addClause_eq_ok_iff : addClause type filter clause = .ok g ↔
    ∃ entry, Compares type clause entry ∧
      filter.and { clause? := some (comparison entry) } = .ok g := by
  unfold addClause
  cases hcut : Text.splitOnce? '=' clause.toList with
  | none =>
    have hnone := Text.splitOnce?_eq_none.mp hcut
    refine ⟨fun h => (by cases h), fun h => ?_⟩
    obtain ⟨_, ⟨name, raw, hclause, -⟩, -⟩ := h
    simp [hclause] at hnone
  | some parts =>
    obtain ⟨name, raw⟩ := parts
    simp only [Except.bind_eq_ok, lift_eq_ok_iff, liftFilter_eq_ok_iff,
      ResourceType.filterField_eq_ok_iff, Filter.compare_eq_ok_iff]
    constructor
    · rintro ⟨_, ⟨p, hp, rfl⟩, _, ⟨hfilterable, rfl⟩, h⟩
      obtain ⟨hclause, hname⟩ := Text.splitOnce?_eq_some.mp hcut
      exact ⟨(String.ofList (Text.trim name), _),
        ⟨name, raw, hclause, hname, rfl, ⟨p, hp, hfilterable⟩, means_iff.mpr rfl⟩, h⟩
    · rintro ⟨⟨field, value⟩, ⟨name', raw', hclause, hname, rfl, ⟨p, hp, hfilterable⟩, hvalue⟩, h⟩
      cases hcut.symm.trans (Text.splitOnce?_eq_some.mpr ⟨hclause, hname⟩)
      refine ⟨_, ⟨p, hp, rfl⟩, _, ⟨hfilterable, rfl⟩, ?_⟩
      rw [means_iff.mp hvalue]
      exact h

/-! ## All clauses -/

def conjunction : List (String × Json) → Option Clause
  | [] => none
  | [entry] => some (comparison entry)
  | entries => some (.join .all (entries.map comparison))

theorem combine_conjunction (entries : List (String × Json)) (entry : String × Json) :
    Filter.combineClause .all (conjunction entries) (some (comparison entry)) =
      conjunction (entries ++ [entry]) := by
  cases entries with
  | nil => rfl
  | cons first rest =>
    cases rest with
    | nil => rfl
    | cons second rest =>
      simp [conjunction, Filter.combineClause, Clause.combine, Clause.membersOf, comparison]

theorem and_conjunction {entry : String × Json} :
    Filter.and { clause? := conjunction entries } { clause? := some (comparison entry) } = .ok g ↔
      g = { clause? := conjunction (entries ++ [entry]) } := by
  rw [Filter.and, Filter.combine_eq_ok_iff, combine_conjunction]
  obtain ⟨clause?, order?, limit?⟩ := g
  simp only [Option.toList_none, List.append_nil, Option.toList_eq_nil_iff, Filter.mk.injEq]
  tauto

theorem addClauses_eq_ok_iff {clauses : List String} :
    addClauses type { clause? := conjunction entries } clauses = .ok g ↔
      ∃ more, List.Forall₂ (Compares type) clauses more ∧
        g = { clause? := conjunction (entries ++ more) } := by
  induction clauses generalizing entries with
  | nil => simp [addClauses, eq_comm]
  | cons clause rest ih =>
    simp only [addClauses, Except.bind_eq_ok, addClause_eq_ok_iff, and_conjunction]
    constructor
    · rintro ⟨_, ⟨entry, hentry, rfl⟩, h⟩
      obtain ⟨more, hmore, rfl⟩ := ih.mp h
      exact ⟨entry :: more, .cons hentry hmore, by rw [List.append_assoc, List.singleton_append]⟩
    · rintro ⟨_, hall, rfl⟩
      cases hall with
      | @cons _ entry _ more hentry hmore =>
        refine ⟨_, ⟨entry, hentry, rfl⟩, ih.mpr ⟨more, hmore, ?_⟩⟩
        rw [List.append_assoc, List.singleton_append]

/-! ## The whole filter -/

def orderOf (request : ListRequest) : Option (String × SortOrder) :=
  request.orderBy?.map fun name => (name, if request.descending then .descending else .ascending)

theorem addOrder_eq_ok_iff {clause? : Option Clause} :
    addOrder type { clause? } request.orderBy? request.descending = .ok g ↔
      (∀ name, request.orderBy? = some name → type.Filters name) ∧
        g = { clause?, order? := orderOf request } := by
  unfold orderOf
  cases request.orderBy? with
  | none =>
    refine ⟨fun h => ⟨nofun, (Except.ok.inj h).symm⟩, ?_⟩
    rintro ⟨-, rfl⟩
    rfl
  | some name =>
    simp only [addOrder, Except.bind_eq_ok, lift_eq_ok_iff, liftFilter_eq_ok_iff,
      ResourceType.filterField_eq_ok_iff, Filter.orderBy_eq_ok_iff]
    constructor
    · rintro ⟨_, ⟨p, hp, rfl⟩, hfilterable, -, rfl⟩
      refine ⟨fun other hother => ?_, rfl⟩
      cases hother
      exact ⟨p, hp, hfilterable⟩
    · rintro ⟨hfield, rfl⟩
      obtain ⟨p, hp, hfilterable⟩ := hfield name rfl
      exact ⟨_, ⟨p, hp, rfl⟩, hfilterable, trivial, rfl⟩

theorem addLimit_eq_ok_iff {clause? : Option Clause} {order? : Option (String × SortOrder)} :
    addLimit { clause?, order? } request.limit? = .ok g ↔
      (∀ n, request.limit? = some n → 0 ≤ n) ∧
        g = { clause?, order?, limit? := request.limit?.map Int.toNat } := by
  cases request.limit? with
  | none =>
    refine ⟨fun h => ⟨nofun, (Except.ok.inj h).symm⟩, ?_⟩
    rintro ⟨-, rfl⟩
    rfl
  | some n => simp [addLimit, liftFilter_eq_ok_iff, Filter.limit_eq_ok_iff]

def typedFilter (request : ListRequest) (entries : List (String × Json)) : Filter where
  clause? := conjunction entries
  order? := orderOf request
  limit? := request.limit?.map Int.toNat

theorem buildFilter_eq_ok_iff {registry : Registry} (htype : registry.get request.kind = .ok type) :
    buildFilter registry request = .ok g ↔
      (∃ entries, List.Forall₂ (Compares type) request.clauses entries ∧
        g = typedFilter request entries) ∧
      (∀ name, request.orderBy? = some name → type.Filters name) ∧
      ∀ n, request.limit? = some n → 0 ≤ n := by
  have hclauses : ∀ h, addClauses type .everything request.clauses = .ok h ↔
      ∃ entries, List.Forall₂ (Compares type) request.clauses entries ∧
        h = { clause? := conjunction entries } :=
      fun h => @addClauses_eq_ok_iff type h [] request.clauses
  unfold buildFilter
  rw [htype]
  simp only [lift, Except.bind_eq_ok, Except.ok.injEq, exists_eq_left']
  constructor
  · rintro ⟨_, hbuilt, _, hordered, hlimited⟩
    obtain ⟨entries, hentries, rfl⟩ := (hclauses _).mp hbuilt
    obtain ⟨horder, rfl⟩ := addOrder_eq_ok_iff.mp hordered
    obtain ⟨hlimit, rfl⟩ := addLimit_eq_ok_iff.mp hlimited
    exact ⟨⟨entries, hentries, rfl⟩, horder, hlimit⟩
  · rintro ⟨⟨entries, hentries, rfl⟩, horder, hlimit⟩
    exact ⟨_, (hclauses _).mpr ⟨entries, hentries, rfl⟩, _, addOrder_eq_ok_iff.mpr ⟨horder, rfl⟩,
      addLimit_eq_ok_iff.mpr ⟨hlimit, rfl⟩⟩

/-! ## Refusals -/

/-- A reason to refuse what was typed. -/
inductive Refuses (type : ResourceType) (request : ListRequest) : Prop
  | uncut {clause : String} (hclause : clause ∈ request.clauses) (h : '=' ∉ clause.toList)
  | field {clause : String} {name raw : List Char} (hclause : clause ∈ request.clauses)
      (hcut : clause.toList = name ++ '=' :: raw) (hname : '=' ∉ name)
      (h : ¬ type.Filters (String.ofList (Text.trim name)))
  | order {name : String} (hname : request.orderBy? = some name) (h : ¬ type.Filters name)
  | limit {n : Int} (hn : request.limit? = some n) (h : n < 0)

theorem exists_compares_iff : (∃ entry, Compares type clause entry) ↔ '=' ∈ clause.toList ∧
    ∀ name raw, clause.toList = name ++ '=' :: raw → '=' ∉ name →
      type.Filters (String.ofList (Text.trim name)) := by
  constructor
  · rintro ⟨⟨field, value⟩, name, raw, hclause, hname, rfl, hfield, -⟩
    refine ⟨by simp [hclause], fun name' raw' hclause' hname' => ?_⟩
    -- There is one place to cut, the first sign.
    have hcut := Text.splitOnce?_eq_some.mpr ⟨hclause, hname⟩
    cases hcut.symm.trans (Text.splitOnce?_eq_some.mpr ⟨hclause', hname'⟩)
    exact hfield
  · rintro ⟨hmem, hfield⟩
    cases hcut : Text.splitOnce? '=' clause.toList with
    | none => exact absurd hmem (Text.splitOnce?_eq_none.mp hcut)
    | some parts =>
      obtain ⟨name, raw⟩ := parts
      obtain ⟨hclause, hname⟩ := Text.splitOnce?_eq_some.mp hcut
      exact ⟨(_, _), name, raw, hclause, hname, rfl, hfield name raw hclause hname,
        means_iff.mpr rfl⟩

theorem exists_forall₂_iff {α β : Type} {R : α → β → Prop} {as : List α} :
    (∃ bs, List.Forall₂ R as bs) ↔ ∀ a ∈ as, ∃ b, R a b := by
  induction as with
  | nil => simp
  | cons a as ih =>
    rw [List.forall_mem_cons, ← ih]
    constructor
    · rintro ⟨_, hall⟩
      cases hall with
      | cons hab hrest => exact ⟨⟨_, hab⟩, _, hrest⟩
    · rintro ⟨⟨b, hab⟩, bs, hrest⟩
      exact ⟨b :: bs, .cons hab hrest⟩

theorem not_refuses_iff : ¬ Refuses type request ↔
    (∀ clause ∈ request.clauses, ∃ entry, Compares type clause entry) ∧
      (∀ name, request.orderBy? = some name → type.Filters name) ∧
      ∀ n, request.limit? = some n → 0 ≤ n := by
  simp only [exists_compares_iff]
  constructor
  · intro h
    refine ⟨fun clause hclause => ⟨?_, fun name raw hcut hname => ?_⟩, fun name hname => ?_,
      fun n hn => ?_⟩
    · by_contra hmem
      exact h (.uncut hclause hmem)
    · by_contra hfield
      exact h (.field hclause hcut hname hfield)
    · by_contra hfield
      exact h (.order hname hfield)
    · by_contra hnegative
      exact h (.limit hn (Int.not_le.mp hnegative))
  · rintro ⟨hclauses, horder, hlimit⟩ hrefuses
    cases hrefuses with
    | uncut hclause h => exact h (hclauses _ hclause).1
    | field hclause hcut hname h => exact h ((hclauses _ hclause).2 _ _ hcut hname)
    | order hname h => exact h (horder _ hname)
    | limit hn h => exact absurd (hlimit _ hn) (Int.not_le.mpr h)

theorem buildFilter_error_iff {registry : Registry}
    (htype : registry.get request.kind = .ok type) :
    (∃ e, buildFilter registry request = .error e) ↔ Refuses type request := by
  have hok : (∃ g, buildFilter registry request = .ok g) ↔ ¬ Refuses type request := by
    rw [not_refuses_iff, ← exists_forall₂_iff]
    simp only [buildFilter_eq_ok_iff htype]
    constructor
    · rintro ⟨g, ⟨entries, hentries, -⟩, h⟩
      exact ⟨⟨entries, hentries⟩, h⟩
    · rintro ⟨⟨entries, hentries⟩, h⟩
      exact ⟨_, ⟨entries, hentries, rfl⟩, h⟩
  cases hbuilt : buildFilter registry request with
  | error e =>
    refine ⟨fun _ => ?_, fun _ => ⟨e, rfl⟩⟩
    by_contra hnot
    obtain ⟨g, hg⟩ := hok.mpr hnot
    cases hbuilt.symm.trans hg
  | ok g =>
    refine ⟨?_, fun h => absurd h (hok.mp ⟨g, hbuilt⟩)⟩
    rintro ⟨e, he⟩
    cases he

/-! ## The wire form -/

def clauseEntries : List (String × Json) → Dict Json
  | [] => []
  | [entry] => [entry]
  | entries => [("+and", .arr (entries.map fun entry => .obj [entry]))]

def orderEntries (request : ListRequest) : Dict Json :=
  match request.orderBy? with
  | none => []
  | some name =>
    [("+order_by", .str name), ("+order", .str (if request.descending then "desc" else "asc"))]

def limitEntries (request : ListRequest) : Dict Json :=
  match request.limit? with
  | none => []
  | some n => [("+limit", .int n)]

/-- What was typed, as the entries of one object. -/
def wireEntries (request : ListRequest) (entries : List (String × Json)) : Dict Json :=
  clauseEntries entries ++ orderEntries request ++ limitEntries request

theorem membersJson_comparisons (entries : List (String × Json)) :
    Clause.membersJson (entries.map comparison) = entries.map fun entry => .obj [entry] := by
  induction entries with
  | nil => rfl
  | cons entry rest ih =>
    rw [List.map_cons, Clause.membersJson, ih]
    rfl

theorem clauseFields_typedFilter (request : ListRequest) (entries : List (String × Json)) :
    (typedFilter request entries).clauseFields = clauseEntries entries := by
  cases entries with
  | nil => rfl
  | cons first rest =>
    cases rest with
    | nil => rfl
    | cons second rest =>
      change _ = [("+and", Json.arr ((first :: second :: rest).map fun entry => .obj [entry]))]
      rw [← membersJson_comparisons]
      rfl

theorem withOrder_orderOf (fields : Dict Json) :
    Filter.withOrder (orderOf request) fields = fields.overlay (orderEntries request) := by
  unfold orderOf orderEntries
  cases request.orderBy? with
  | none => rfl
  | some name => cases request.descending <;> rfl

theorem withLimit_eq (hlimit : ∀ n, request.limit? = some n → 0 ≤ n) (fields : Dict Json) :
    Filter.withLimit (request.limit?.map Int.toNat) fields =
      fields.overlay (limitEntries request) := by
  unfold limitEntries
  cases hn : request.limit? with
  | none => rfl
  | some n =>
    obtain ⟨m, rfl⟩ := Int.eq_ofNat_of_zero_le (hlimit n hn)
    rfl

theorem toJson_typedFilter (hlimit : ∀ n, request.limit? = some n → 0 ≤ n) :
    (typedFilter request entries).toJson = Json.ofEntries (wireEntries request entries) := by
  have hclause : Dict.ofList (clauseEntries entries) = clauseEntries entries := by
    rcases entries with _ | ⟨first, _ | ⟨second, rest⟩⟩ <;> rfl
  rw [Filter.toJson, clauseFields_typedFilter, typedFilter, withOrder_orderOf, withLimit_eq hlimit,
    Json.ofEntries, wireEntries, Dict.ofList_append, Dict.ofList_append, hclause]

theorem filters_of_compares {clauses : List String}
    (h : List.Forall₂ (Compares type) clauses entries) :
    ∀ entry ∈ entries, type.Filters entry.1 := by
  induction h with
  | nil => simp
  | cons hentry _ ih =>
    obtain ⟨_, _, -, -, -, hfield, -⟩ := hentry
    exact List.forall_mem_cons.mpr ⟨hfield, ih⟩

theorem isClauseKey_of_filters (htype : Builtin.registry.get request.kind = .ok type)
    {name : String} (h : type.Filters name) : Filter.isClauseKey name = true := by
  obtain ⟨p, hp, -⟩ := h
  exact Filter.isClauseKey_of_not_reserved (Builtin.not_reserved htype hp)

theorem keys_orderEntries (request : ListRequest) : (orderEntries request).map Prod.fst = [] ∨
    (orderEntries request).map Prod.fst = ["+order_by", "+order"] := by
  unfold orderEntries
  cases request.orderBy? with
  | none => exact .inl rfl
  | some name => exact .inr rfl

theorem keys_limitEntries (request : ListRequest) : (limitEntries request).map Prod.fst = [] ∨
    (limitEntries request).map Prod.fst = ["+limit"] := by
  unfold limitEntries
  cases request.limit? with
  | none => exact .inl rfl
  | some n => exact .inr rfl

theorem wireEntries_nodup (htype : Builtin.registry.get request.kind = .ok type)
    (h : ∀ entry ∈ entries, type.Filters entry.1) : (wireEntries request entries).keys.Nodup := by
  have hclause : (clauseEntries entries).keys.Nodup ∧
      ∀ key ∈ (clauseEntries entries).keys, Filter.isClauseKey key = true := by
    rcases entries with _ | ⟨first, _ | ⟨second, rest⟩⟩
    · simp [clauseEntries, Dict.keys]
    · simpa [clauseEntries, Dict.keys] using isClauseKey_of_filters htype (h first (by simp))
    · refine ⟨List.pairwise_singleton _ _, fun key hkey => ?_⟩
      obtain rfl := List.mem_singleton.mp hkey
      exact Filter.isClauseKey_word .all
  have hcontrol : ((orderEntries request ++ limitEntries request).map Prod.fst).Sublist
      ["+order_by", "+order", "+limit"] := by
    rw [List.map_append]
    rcases keys_orderEntries request with horder | horder <;>
      rcases keys_limitEntries request with hlimit | hlimit <;> rw [horder, hlimit] <;> decide
  rw [wireEntries, List.append_assoc, Dict.keys, List.map_append, List.nodup_append]
  refine ⟨hclause.1, hcontrol.nodup (by decide), fun key hkey other hother heq => ?_⟩
  have hnot : ∀ control ∈ ["+order_by", "+order", "+limit"],
      Filter.isClauseKey control = false := by decide
  cases (hnot other (hcontrol.subset hother)).symm.trans (heq ▸ hclause.2 key hkey)

/-! ## What was typed -/

/-- For a built-in type, a filter is refused exactly for a reason that can be read off what was
typed, and then nothing is sent. Otherwise its wire form has exactly the entries that were typed. -/
theorem typed_filter (htype : Builtin.registry.get request.kind = .ok type) :
    ((∃ e, buildFilter Builtin.registry request = .error e) ↔ Refuses type request) ∧
    (∀ {client : Client} {e : Failure} (w : World), client.registry = Builtin.registry →
      buildFilter Builtin.registry request = .error e →
        runCommand client (.list request) w = (.error e, w)) ∧
    ∀ {filter : Filter}, buildFilter Builtin.registry request = .ok filter →
      ∃ entries, List.Forall₂ (Compares type) request.clauses entries ∧
        filter.toJson = Json.ofEntries (wireEntries request entries) ∧
        (wireEntries request entries).keys.Nodup := by
  refine ⟨buildFilter_error_iff htype, fun {client e} w hregistry herror => ?_,
    fun {filter} hbuilt => ?_⟩
  · unfold runCommand
    dsimp only
    rw [hregistry, herror]
  · obtain ⟨⟨entries, hentries, rfl⟩, -, hlimit⟩ := (buildFilter_eq_ok_iff htype).mp hbuilt
    exact ⟨entries, hentries, toJson_typedFilter hlimit,
      wireEntries_nodup htype (filters_of_compares hentries)⟩

/-- Two labels of which one has the sign in it and one looks like an array, in an order. -/
def labelled : ListRequest where
  kind := "instances"
  clauses := [" label =a=b", "tags=[1]"]
  orderBy? := some "id"
  descending := true
  limit? := some 5

theorem typed_filter_labelled : ∃ type filter entries,
    Builtin.registry.get "instances" = .ok type ∧
      buildFilter Builtin.registry labelled = .ok filter ∧
      filter.header = "\x7b\"+and\":[\x7b\"label\":\"a=b\"\x7d,\x7b\"tags\":\"[1]\"\x7d]," ++
        "\"+limit\":5,\"+order\":\"desc\",\"+order_by\":\"id\"\x7d" ∧
      filter.toJson = Json.ofEntries (wireEntries labelled entries) := by
  have hheader : (buildFilter Builtin.registry labelled).toOption.map Filter.header =
      some ("\x7b\"+and\":[\x7b\"label\":\"a=b\"\x7d,\x7b\"tags\":\"[1]\"\x7d]," ++
        "\"+limit\":5,\"+order\":\"desc\",\"+order_by\":\"id\"\x7d") := by decide +kernel
  cases htype : Builtin.registry.get labelled.kind with
  | error e =>
    have hrefused : buildFilter Builtin.registry labelled = .error (.error e) := by
      unfold buildFilter
      rw [htype]
      rfl
    rw [hrefused] at hheader
    cases hheader
  | ok type =>
    cases hbuilt : buildFilter Builtin.registry labelled with
    | error e =>
      rw [hbuilt] at hheader
      cases hheader
    | ok filter =>
      rw [hbuilt] at hheader
      obtain ⟨entries, -, hwire, -⟩ := (typed_filter htype).2.2 hbuilt
      exact ⟨type, filter, entries, htype, rfl, Option.some.inj hheader, hwire⟩

end CommandLine
end CloudClient
