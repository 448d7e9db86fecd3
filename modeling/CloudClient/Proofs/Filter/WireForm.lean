import CloudClient.Proofs.Filter.Expression
import CloudClient.Proofs.Json
import CloudClient.Proofs.Registry.Validity
import CloudClient.Registry.Builtin

/-!
# Filters read back

Names that begin with a plus belong to the language of filters. If no comparison is on such a name,
the wire form of a filter keeps the clause, the order and the limit apart, so the filter can be read
back from it, whatever the values that it compares with look like.
-/

namespace CloudClient

theorem eq_of_read {α β : Type} {write : α → β} {read? : β → Option α} {a b : α}
    (ha : read? (write a) = some a) (hb : read? (write b) = some b) (h : write a = write b) :
    a = b := by
  rw [h, hb] at ha
  exact (Option.some.inj ha).symm

/-! ## Clauses -/

def isReserved (name : String) : Bool := name.toList.head? == some '+'

def Connective.ofWord? : String → Option Connective
  | "+and" => some .all
  | "+or" => some .any
  | _ => none

theorem Connective.ofWord?_word (connective : Connective) :
    ofWord? connective.word = some connective := by
  cases connective <;> rfl

theorem Connective.isReserved_word (connective : Connective) :
    isReserved connective.word = true := by
  cases connective <;> decide

theorem Connective.ofWord?_of_not_reserved {name : String} (h : isReserved name = false) :
    ofWord? name = none := by
  unfold ofWord?
  split
  · exact absurd h (by decide)
  · exact absurd h (by decide)
  · rfl

theorem Connective.word_injective {c d : Connective} (h : c.word = d.word) : c = d :=
  eq_of_read (ofWord?_word c) (ofWord?_word d) h

namespace Clause

mutual
def ofJson? : Json → Option Clause
  | .obj [(key, .arr items)] =>
    match Connective.ofWord? key with
    | some connective => (ofItems? items).map (.join connective)
    | none => some (.compare key (.arr items))
  | .obj [(key, condition)] => some (.compare key condition)
  | _ => none
termination_by structural v => v
def ofItems? : List Json → Option (List Clause)
  | [] => some []
  | v :: rest => do
    let c ← ofJson? v
    let cs ← ofItems? rest
    return c :: cs
termination_by structural vs => vs
end

/-- No comparison is on a name of the language. -/
def Plain (c : Clause) : Prop := ∀ entry ∈ c.comparisons, isReserved entry.1 = false

theorem Plain.compare {field : String} {condition : Json} (h : Plain (.compare field condition)) :
    isReserved field = false := h (field, condition) List.mem_cons_self

mutual
theorem ofJson?_toJson : (c : Clause) → c.Plain → ofJson? c.toJson = some c
  | .compare field condition, h => by
    cases condition <;> simp [toJson, ofJson?, Connective.ofWord?_of_not_reserved h.compare]
  | .join connective members, h => by
    simp [toJson, ofJson?, Connective.ofWord?_word, ofItems?_membersJson members h]
theorem ofItems?_membersJson : (cs : List Clause) →
    (∀ entry ∈ comparisonsIn cs, isReserved entry.1 = false) → ofItems? (membersJson cs) = some cs
  | [], _ => rfl
  | c :: rest, h => by
    obtain ⟨hfirst, hrest⟩ := List.forall_mem_append.mp h
    simp [membersJson, ofItems?, ofJson?_toJson c hfirst, ofItems?_membersJson rest hrest]
end

theorem same_single (key other : String) (v w : Json) :
    (Json.obj [(key, v)]).same (.obj [(other, w)]) = (key == other && v.same w) := by
  rw [Json.same, Json.sameFields, Json.sameFields, Bool.and_true]

mutual
theorem same_eq_toJson_same : (c d : Clause) → c.Plain → d.Plain → c.same d = c.toJson.same d.toJson
  | .compare f v, .compare g w, _, _ => by rw [same, toJson, toJson, same_single]
  | .compare f v, .join connective ds, hc, _ => by
    have hne : (f == connective.word) = false := by
      refine beq_eq_false_iff_ne.mpr fun h => ?_
      cases hc.compare.symm.trans (h ▸ connective.isReserved_word)
    rw [toJson, toJson, same_single, hne, Bool.false_and]
    rfl
  | .join connective cs, .compare g w, _, hd => by
    have hne : (connective.word == g) = false := by
      refine beq_eq_false_iff_ne.mpr fun h => ?_
      cases hd.compare.symm.trans (h ▸ connective.isReserved_word)
    rw [toJson, toJson, same_single, hne, Bool.false_and]
    rfl
  | .join connective cs, .join connective' ds, hc, hd => by
    have hword : (connective == connective') = (connective.word == connective'.word) := by
      rw [Bool.eq_iff_iff, beq_iff_eq, beq_iff_eq]
      exact ⟨congrArg _, Connective.word_injective⟩
    rw [same, toJson, toJson, same_single, hword, Json.same,
      sameMembers_eq_membersJson_same cs ds hc hd]
theorem sameMembers_eq_membersJson_same : (cs ds : List Clause) →
    (∀ entry ∈ comparisonsIn cs, isReserved entry.1 = false) →
    (∀ entry ∈ comparisonsIn ds, isReserved entry.1 = false) →
    sameMembers cs ds = Json.sameItems (membersJson cs) (membersJson ds)
  | [], [], _, _ => rfl
  | [], _ :: _, _, _ => rfl
  | _ :: _, [], _, _ => rfl
  | c :: cs, d :: ds, hc, hd => by
    obtain ⟨hc, hcs⟩ := List.forall_mem_append.mp hc
    obtain ⟨hd, hds⟩ := List.forall_mem_append.mp hd
    rw [sameMembers, membersJson, membersJson, Json.sameItems, same_eq_toJson_same c d hc hd,
      sameMembers_eq_membersJson_same cs ds hcs hds]
end

theorem toJson_entry {c : Clause} (h : c.Plain) :
    ∃ key v, c.toJson = .obj [(key, v)] ∧
      (isReserved key = false ∨ ∃ k : Connective, key = k.word) := by
  cases c with
  | compare field condition => exact ⟨_, _, rfl, .inl h.compare⟩
  | join connective members => exact ⟨_, _, rfl, .inr ⟨connective, rfl⟩⟩

end Clause

namespace Filter
variable {f g : Filter}

/-! ## The parts of the wire form -/

def Plain (f : Filter) : Prop := ∀ entry ∈ f.comparisons, isReserved entry.1 = false

theorem Plain.clause (h : f.Plain) {c : Clause} (hc : f.clause? = some c) : c.Plain := by
  rwa [Plain, comparisons, hc] at h

def isClauseKey (key : String) : Bool := !(["+limit", "+order", "+order_by"].contains key)

theorem isClauseKey_of_not_reserved {key : String} (h : isReserved key = false) :
    isClauseKey key = true := by
  unfold isClauseKey
  simp only [List.contains_cons, List.contains_nil, Bool.or_false, Bool.not_eq_true',
    Bool.or_eq_false_iff, beq_eq_false_iff_ne, ne_eq]
  refine ⟨fun hkey => ?_, fun hkey => ?_, fun hkey => ?_⟩
  all_goals
    subst hkey
    exact absurd h (by decide)

theorem isClauseKey_word (connective : Connective) : isClauseKey connective.word = true := by
  cases connective <;> decide

theorem Plain.clauseFields_keys (h : f.Plain) :
    ∀ entry ∈ f.clauseFields, isClauseKey entry.1 = true := by
  intro entry hentry
  unfold clauseFields at hentry
  cases hc : f.clause? with
  | none => simp [hc] at hentry
  | some c =>
    obtain ⟨key, v, hjson, hkey⟩ := Clause.toJson_entry (h.clause hc)
    simp only [hc, hjson, Json.asObj?, Option.getD_some, List.mem_singleton] at hentry
    subst hentry
    rcases hkey with hkey | ⟨connective, rfl⟩
    · exact isClauseKey_of_not_reserved hkey
    · exact isClauseKey_word connective

def fields (f : Filter) : Dict Json := withLimit f.limit? (withOrder f.order? f.clauseFields)

theorem Plain.clauseFields_get? (h : f.Plain) (key : String) (hkey : isClauseKey key = false) :
    Dict.get? f.clauseFields key = none := by
  refine Option.eq_none_iff_forall_ne_some.mpr fun v hv => ?_
  cases hkey.symm.trans (h.clauseFields_keys _ (Dict.mem_of_get? hv))

theorem fields_get?_of_clauseKey (f : Filter) {key : String} (hkey : isClauseKey key = true) :
    Dict.get? f.fields key = Dict.get? f.clauseFields key := by
  have hne : ∀ control, isClauseKey control = false → key ≠ control := by
    intro control hcontrol h
    cases (h ▸ hkey).symm.trans hcontrol
  unfold fields withLimit withOrder
  cases f.limit? <;> cases f.order? <;>
    simp only [Dict.get?_insert_of_ne _ _ (hne "+limit" rfl),
      Dict.get?_insert_of_ne _ _ (hne "+order" rfl),
      Dict.get?_insert_of_ne _ _ (hne "+order_by" rfl)]

theorem Plain.fields_limit (h : f.Plain) :
    Dict.get? f.fields "+limit" = f.limit?.map Json.nat := by
  have hclause := h.clauseFields_get? "+limit" rfl
  unfold fields withLimit withOrder
  cases f.limit? <;> cases f.order? <;>
    simp [Dict.get?_insert_self, Dict.get?_insert_of_ne, hclause]

theorem Plain.fields_order (h : f.Plain) :
    Dict.get? f.fields "+order" = f.order?.map fun order => .str order.2.word := by
  have hclause := h.clauseFields_get? "+order" rfl
  unfold fields withLimit withOrder
  cases f.limit? <;> cases f.order? <;>
    simp [Dict.get?_insert_self, Dict.get?_insert_of_ne, hclause]

theorem Plain.fields_orderBy (h : f.Plain) :
    Dict.get? f.fields "+order_by" = f.order?.map fun order => .str order.1 := by
  have hclause := h.clauseFields_get? "+order_by" rfl
  unfold fields withLimit withOrder
  cases f.limit? <;> cases f.order? <;>
    simp [Dict.get?_insert_self, Dict.get?_insert_of_ne, hclause]

theorem Plain.fields_filter (h : f.Plain) :
    f.fields.filter (fun entry => isClauseKey entry.1) = f.clauseFields := by
  have hall := List.filter_eq_self.mpr h.clauseFields_keys
  have hlimit : isClauseKey "+limit" = false := rfl
  have horder : isClauseKey "+order" = false := rfl
  have horderBy : isClauseKey "+order_by" = false := rfl
  unfold fields withLimit withOrder
  cases f.limit? <;> cases f.order? <;>
    simp only [Dict.filter_insert _ _ hlimit, Dict.filter_insert _ _ horder,
      Dict.filter_insert _ _ horderBy, hall]

/-! ## Reading back -/

end Filter

def SortOrder.ofWord? : String → Option SortOrder
  | "asc" => some .ascending
  | "desc" => some .descending
  | _ => none

theorem SortOrder.ofWord?_word (order : SortOrder) : ofWord? order.word = some order := by
  cases order <;> rfl

theorem SortOrder.word_injective {c d : SortOrder} (h : c.word = d.word) : c = d :=
  eq_of_read (ofWord?_word c) (ofWord?_word d) h

namespace Filter
variable {f g h : Filter}

def readClause? : Dict Json → Option (Option Clause)
  | [] => some none
  | entries => (Clause.ofJson? (.obj entries)).map some

def readOrder? (fields : Dict Json) : Option (Option (String × SortOrder)) :=
  match Dict.get? fields "+order_by", Dict.get? fields "+order" with
  | none, none => some none
  | some (.str field), some (.str word) =>
    (SortOrder.ofWord? word).map fun order => some (field, order)
  | _, _ => none

def readLimit? (fields : Dict Json) : Option (Option Nat) :=
  match Dict.get? fields "+limit" with
  | none => some none
  | some v => v.asInt?.map fun n => some n.toNat

def ofJson? : Json → Option Filter
  | .obj fields => do
    let clause? ← readClause? (fields.filter fun entry => isClauseKey entry.1)
    let order? ← readOrder? fields
    let limit? ← readLimit? fields
    return ⟨clause?, order?, limit?⟩
  | _ => none

theorem Plain.readClause?_fields (hf : f.Plain) : readClause? f.clauseFields = some f.clause? := by
  unfold clauseFields
  cases hc : f.clause? with
  | none => rfl
  | some c =>
    have hread := Clause.ofJson?_toJson c (hf.clause hc)
    obtain ⟨key, v, hjson, -⟩ := Clause.toJson_entry (hf.clause hc)
    rw [hjson] at hread
    simp [hjson, Json.asObj?, readClause?, hread]

theorem Plain.readOrder?_fields (hf : f.Plain) : readOrder? f.fields = some f.order? := by
  unfold readOrder?
  rw [hf.fields_order, hf.fields_orderBy]
  cases f.order? <;> simp [SortOrder.ofWord?_word]

theorem Plain.readLimit?_fields (hf : f.Plain) : readLimit? f.fields = some f.limit? := by
  unfold readLimit?
  rw [hf.fields_limit]
  cases f.limit? <;> simp [Json.nat, Json.asInt?]

theorem Plain.ofJson?_toJson (hf : f.Plain) : ofJson? f.toJson = some f := by
  change ofJson? (.obj f.fields) = some f
  simp only [ofJson?, hf.fields_filter, hf.readClause?_fields, hf.readOrder?_fields,
    hf.readLimit?_fields]
  rfl

/-! ## Equality -/

theorem sameClause_eq (hf : f.Plain) (hg : g.Plain) :
    sameClause f.clause? g.clause? = Json.sameFields f.clauseFields g.clauseFields := by
  unfold clauseFields
  cases hc : f.clause? with
  | none =>
    cases hd : g.clause? with
    | none => rfl
    | some d =>
      obtain ⟨_, _, hjson, -⟩ := Clause.toJson_entry (hg.clause hd)
      simp [hjson, Json.asObj?, sameClause, Json.sameFields]
  | some c =>
    obtain ⟨key, v, hjson, -⟩ := Clause.toJson_entry (hf.clause hc)
    cases hd : g.clause? with
    | none => simp [hjson, Json.asObj?, sameClause, Json.sameFields]
    | some d =>
      obtain ⟨key', v', hjson', -⟩ := Clause.toJson_entry (hg.clause hd)
      have hsame := Clause.same_eq_toJson_same c d (hf.clause hc) (hg.clause hd)
      simp only [hjson, hjson', Json.asObj?, Option.getD_some, sameClause]
      rwa [hjson, hjson'] at hsame

theorem same_eq_true : f.same g = true ↔
    sameClause f.clause? g.clause? = true ∧ f.order? = g.order? ∧ f.limit? = g.limit? := by
  simp [same, and_assoc]

theorem limit_eq_of_same {a b : Option Nat}
    (h : Option.Rel (fun v w => v.same w = true) (a.map Json.nat) (b.map Json.nat)) :
    a = b := by
  cases a with
  | none =>
    cases b with
    | none => rfl
    | some n => cases h
  | some m =>
    cases b with
    | none => cases h
    | some n =>
      cases h with
      | some h => exact congrArg some (Int.ofNat.inj (beq_iff_eq.mp h))

theorem order_eq_of_same {a b : Option (String × SortOrder)}
    (hfield : Option.Rel (fun v w => v.same w = true) (a.map fun order => Json.str order.1)
      (b.map fun order => Json.str order.1))
    (hword : Option.Rel (fun v w => v.same w = true) (a.map fun order => Json.str order.2.word)
      (b.map fun order => Json.str order.2.word)) : a = b := by
  cases a with
  | none =>
    cases b with
    | none => rfl
    | some order => cases hfield
  | some order =>
    cases b with
    | none => cases hfield
    | some order' =>
      cases hfield with
      | some hfield =>
        cases hword with
        | some hword =>
          have hname : order.1 = order'.1 := beq_iff_eq.mp hfield
          have hdirection : order.2 = order'.2 := SortOrder.word_injective (beq_iff_eq.mp hword)
          exact congrArg some (Prod.ext hname hdirection)

theorem same_iff_toJson_same (hf : f.Plain) (hg : g.Plain) :
    f.same g = true ↔ f.toJson.same g.toJson = true := by
  rw [same_eq_true, sameClause_eq hf hg]
  change _ ↔ Json.sameFields f.fields g.fields = true
  constructor
  · rintro ⟨hclause, horder, hlimit⟩
    unfold fields
    rw [horder, hlimit]
    have hordered : Json.sameFields (withOrder g.order? f.clauseFields)
        (withOrder g.order? g.clauseFields) = true := by
      cases g.order? with
      | none => exact hclause
      | some order =>
        exact Json.sameFields_insert (Json.sameFields_insert hclause (Json.same_refl _) _)
          (Json.same_refl _) _
    cases g.limit? with
    | none => exact hordered
    | some n => exact Json.sameFields_insert hordered (Json.same_refl _) _
  · intro hsame
    refine ⟨?_, ?_, ?_⟩
    · have hkept := Json.sameFields_filter hsame isClauseKey
      rwa [hf.fields_filter, hg.fields_filter] at hkept
    · have hword := Json.sameFields_get? hsame "+order"
      have hfield := Json.sameFields_get? hsame "+order_by"
      rw [hf.fields_order, hg.fields_order] at hword
      rw [hf.fields_orderBy, hg.fields_orderBy] at hfield
      exact order_eq_of_same hfield hword
    · have hlimit := Json.sameFields_get? hsame "+limit"
      rw [hf.fields_limit, hg.fields_limit] at hlimit
      exact limit_eq_of_same hlimit

/-! ## Orders and limits -/

theorem get?_toJson (f : Filter) (key : String) : f.toJson.get? key = Dict.get? f.fields key := rfl

theorem Plain.get?_toJson_of_clause (hf : f.Plain) (hclause : g.clause? = f.clause?)
    (horder : f.order? = none ∨ g.order? = f.order?)
    (hlimit : f.limit? = none ∨ g.limit? = f.limit?) {key : String} {v : Json}
    (hv : f.toJson.get? key = some v) : g.toJson.get? key = some v := by
  have hg : g.Plain := by rwa [Plain, comparisons, hclause]
  rw [get?_toJson] at hv ⊢
  by_cases hkey : isClauseKey key = true
  · rw [fields_get?_of_clauseKey _ hkey, clauseFields] at hv ⊢
    rwa [hclause]
  · have hcontrol : key = "+limit" ∨ key = "+order" ∨ key = "+order_by" := by
      simpa [isClauseKey, Decidable.or_iff_not_imp_left] using hkey
    rcases hcontrol with rfl | rfl | rfl
    · rw [hf.fields_limit] at hv
      rw [hg.fields_limit]
      rcases hlimit with hnone | heq
      · simp [hnone] at hv
      · rwa [heq]
    · rw [hf.fields_order] at hv
      rw [hg.fields_order]
      rcases horder with hnone | heq
      · simp [hnone] at hv
      · rwa [heq]
    · rw [hf.fields_orderBy] at hv
      rw [hg.fields_orderBy]
      rcases horder with hnone | heq
      · simp [hnone] at hv
      · rwa [heq]

end Filter

theorem FilterExpression.plain {e : FilterExpression} {f : Filter} (hf : e.filter = .ok f)
    (h : ∀ entry ∈ e.comparisons, isReserved entry.1 = false) : f.Plain := by
  obtain ⟨-, hcomes⟩ := filter_eq_ok_iff.mp hf
  rwa [Filter.Plain, Filter.comparisons, hcomes.clause, comparisons_clause?]

theorem Builtin.not_reserved {kind name : String} {type : ResourceType} {p : Property}
    (h : Builtin.registry.get kind = .ok type) (hp : type.property? name = some p) :
    isReserved name = false := by
  have hall : ∀ entry ∈ Builtin.registry.types, ∀ q ∈ entry.2.properties,
      isReserved q.1 = false := by decide +kernel
  exact hall (kind, type) (Dict.mem_of_get? (Registry.get_eq_ok.mp h)) (name, p)
    (Dict.mem_of_get? hp)

namespace Filter
variable {f g : Filter}

/-- Filters whose comparisons are on names of their own, as all built-in ones are, are equal exactly
if their wire forms are. The filter is read back from the wire form, where an order or a limit that
is added overwrites nothing. -/
theorem wire_determines (hf : f.Plain) (hg : g.Plain) :
    (f.same g = true ↔ f.toJson.same g.toJson = true) ∧ (f = g ↔ f.toJson = g.toJson) ∧
    ofJson? f.toJson = some f ∧
    (∀ field descending h, f.orderBy field descending = .ok h →
      ∀ key v, f.toJson.get? key = some v → h.toJson.get? key = some v) ∧
    (∀ n h, f.limit n = .ok h →
      ∀ key v, f.toJson.get? key = some v → h.toJson.get? key = some v) ∧
    ∀ kind type name p, Builtin.registry.get kind = .ok type → type.property? name = some p →
      isReserved name = false := by
  have hinjective : f.toJson = g.toJson → f = g := eq_of_read hf.ofJson?_toJson hg.ofJson?_toJson
  refine ⟨same_iff_toJson_same hf hg, ⟨congrArg _, hinjective⟩, hf.ofJson?_toJson, ?_, ?_,
    fun _ _ _ _ => Builtin.not_reserved⟩
  · intro field descending h horder key v hv
    obtain ⟨-, hnone, hh⟩ := orderBy_eq_ok_iff.mp horder
    exact hf.get?_toJson_of_clause (g := h) (by rw [hh]) (.inl hnone) (.inr (by rw [hh])) hv
  · intro n h hlimit key v hv
    obtain ⟨-, hnone, hh⟩ := limit_eq_ok_iff.mp hlimit
    exact hf.get?_toJson_of_clause (g := h) (by rw [hh]) (.inr (by rw [hh])) (.inl hnone) hv

/-- A label that is compared with what looks like a disjunction of nothing. -/
def disguised : Filter where
  clause? := some (.join .all
    [.compare "label" (.obj [("+or", .arr [])]), .compare "label" (.str "web")])
  order? := some ("+order", .ascending)
  limit? := some 5

theorem disguised_built : (FilterExpression.limit 5 (.join .all
    (.compare ⟨"label", true⟩ .equal (.obj [("+or", .arr [])]))
    (.orderBy ⟨"+order", true⟩ false (.labelIs "web")))).filter = .ok disguised := rfl

theorem wire_determines_disguised : disguised.Plain ∧ webOrApi.Plain ∧
    disguised.toJson.same webOrApi.toJson = false ∧ ofJson? disguised.toJson = some disguised := by
  have hdisguised : disguised.Plain := FilterExpression.plain disguised_built (by decide)
  have hplain : webOrApi.Plain := by
    unfold Plain
    decide
  obtain ⟨hsame, -, hread, -⟩ := wire_determines hdisguised hplain
  have hother : disguised.same webOrApi = false := rfl
  refine ⟨hdisguised, hplain, ?_, hread⟩
  rw [← Bool.not_eq_true, ← hsame, hother]
  exact Bool.false_ne_true

end Filter
end CloudClient
