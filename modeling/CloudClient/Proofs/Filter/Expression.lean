import CloudClient.Proofs.Filter.Meaning
import CloudClient.Proofs.Lookup

/-!
# Filters as they are written

An expression is a filter as it is written down: comparisons, combined in any grouping, with orders
and limits anywhere. It comes to a filter exactly if it has one order and one limit at most, and the
filter has its comparisons in their order, in a tree that is flat. How a combination is grouped makes
no difference to that.
-/

namespace CloudClient

/-! ## Trees -/

namespace Clause
variable {c d : Clause}

mutual
def comparisons : Clause → List (String × Json)
  | .compare field condition => [(field, condition)]
  | .join _ members => comparisonsIn members
termination_by structural c => c
def comparisonsIn : List Clause → List (String × Json)
  | [] => []
  | c :: rest => comparisons c ++ comparisonsIn rest
termination_by structural cs => cs
end

theorem comparisonsIn_eq_flatMap (cs : List Clause) : comparisonsIn cs = cs.flatMap comparisons := by
  induction cs with
  | nil => rfl
  | cons c rest ih => simp only [comparisonsIn, ih, List.flatMap_cons]

theorem comparisonsIn_membersOf (connective : Connective) (c : Clause) :
    comparisonsIn (c.membersOf connective) = c.comparisons := by
  cases c with
  | compare field condition => rfl
  | join other members =>
    by_cases h : other = connective
    · simp [membersOf, h, comparisons]
    · simp [membersOf, h, comparisonsIn, comparisons]

theorem comparisons_combine (connective : Connective) (c d : Clause) :
    (combine connective c d).comparisons = c.comparisons ++ d.comparisons := by
  have hall : comparisonsIn (c.membersOf connective ++ d.membersOf connective) =
      comparisonsIn (c.membersOf connective) ++ comparisonsIn (d.membersOf connective) := by
    simp only [comparisonsIn_eq_flatMap, List.flatMap_append]
  rw [combine, comparisons, hall, comparisonsIn_membersOf, comparisonsIn_membersOf]

theorem membersOf_combine (connective : Connective) (c d : Clause) :
    (combine connective c d).membersOf connective =
      c.membersOf connective ++ d.membersOf connective := by
  rw [combine, membersOf, if_pos rfl]

theorem combine_assoc (connective : Connective) (c d e : Clause) :
    combine connective (combine connective c d) e =
      combine connective c (combine connective d e) := by
  have hleft : combine connective (combine connective c d) e = .join connective
      (c.membersOf connective ++ d.membersOf connective ++ e.membersOf connective) := by
    rw [combine, membersOf_combine]
  rw [hleft, List.append_assoc, ← membersOf_combine, ← combine]

/-- Every combination has at least two members, none of them a combination of the same kind. -/
inductive Flat : Clause → Prop
  | compare (field : String) (condition : Json) : Flat (.compare field condition)
  | join {connective : Connective} {members : List Clause} (htwo : 2 ≤ members.length)
      (hmixed : ∀ inner, Clause.join connective inner ∉ members)
      (hmembers : ∀ c ∈ members, Flat c) : Flat (.join connective members)

/-- What a combination can have as members, or take up from another one. -/
structure Fits (connective : Connective) (cs : List Clause) : Prop where
  pos : 0 < cs.length
  mixed : ∀ inner, Clause.join connective inner ∉ cs
  flat : ∀ c ∈ cs, Flat c

theorem Flat.membersOf (h : Flat c) (connective : Connective) :
    Fits connective (c.membersOf connective) := by
  have hself : (∀ inner, c ≠ .join connective inner) → c.membersOf connective = [c] →
      Fits connective (c.membersOf connective) := by
    intro hne hmembers
    rw [hmembers]
    refine ⟨Nat.zero_lt_one, fun inner hmem => hne inner (List.mem_singleton.mp hmem).symm, ?_⟩
    exact List.forall_mem_singleton.mpr h
  cases h with
  | compare field condition => exact hself nofun rfl
  | @join other members htwo hmixed hmembers =>
    by_cases hsame : other = connective
    · subst hsame
      rw [Clause.membersOf, if_pos rfl]
      exact ⟨Nat.zero_lt_of_lt htwo, hmixed, hmembers⟩
    · refine hself (fun inner heq => ?_) (if_neg hsame)
      cases heq
      exact hsame rfl

theorem Flat.combine (hc : Flat c) (hd : Flat d) (connective : Connective) :
    Flat (combine connective c d) := by
  have hleft := hc.membersOf connective
  have hright := hd.membersOf connective
  refine .join ?_ (fun inner hmem => ?_) fun e he => ?_
  · rw [List.length_append]
    exact Nat.add_le_add hleft.pos hright.pos
  · rcases List.mem_append.mp hmem with h | h
    · exact hleft.mixed inner h
    · exact hright.mixed inner h
  · rcases List.mem_append.mp he with h | h
    · exact hleft.flat e h
    · exact hright.flat e h

end Clause

/-! ## Combinations -/

namespace Filter
variable {f g h : Filter} {connective : Connective}

def comparisons (f : Filter) : List (String × Json) := f.clause?.elim [] Clause.comparisons

theorem combineOrder_eq_ok {a b c : Option (String × SortOrder)} :
    combineOrder a b = .ok c ↔ c.toList = a.toList ++ b.toList := by
  cases a <;> cases b <;> cases c <;> simp [combineOrder, @eq_comm (_ × _)]

theorem combineLimit_eq_ok {a b c : Option Nat} :
    combineLimit a b = .ok c ↔ c.toList = a.toList ++ b.toList := by
  cases a <;> cases b <;> cases c <;> simp [combineLimit, @eq_comm Nat]

theorem combine_eq_ok_iff : combine connective f g = .ok h ↔
    h.order?.toList = f.order?.toList ++ g.order?.toList ∧
      h.limit?.toList = f.limit?.toList ++ g.limit?.toList ∧
        h.clause? = combineClause connective f.clause? g.clause? := by
  rw [← combineOrder_eq_ok, ← combineLimit_eq_ok]
  unfold combine
  obtain ⟨clause?, order?, limit?⟩ := h
  cases combineOrder f.order? g.order? with
  | error e => simp [bind, Except.bind]
  | ok order =>
    cases combineLimit f.limit? g.limit? with
    | error e => simp [bind, Except.bind]
    | ok limit =>
      simp only [bind, Except.bind, pure, Except.pure, Except.ok.injEq, mk.injEq]
      constructor
      · rintro ⟨rfl, rfl, rfl⟩
        exact ⟨rfl, rfl, rfl⟩
      · rintro ⟨rfl, rfl, rfl⟩
        exact ⟨rfl, rfl, rfl⟩

theorem combineClause_none_left (connective : Connective) (c : Option Clause) :
    combineClause connective none c = c := by
  cases c <;> rfl

theorem combineClause_none_right (connective : Connective) (c : Option Clause) :
    combineClause connective c none = c := by
  cases c <;> rfl

theorem combineClause_assoc (connective : Connective) (a b c : Option Clause) :
    combineClause connective (combineClause connective a b) c =
      combineClause connective a (combineClause connective b c) := by
  cases a <;> cases b <;> cases c <;> simp [combineClause, Clause.combine_assoc]

theorem combine_everything_left (connective : Connective) (f : Filter) :
    combine connective everything f = .ok f :=
  combine_eq_ok_iff.mpr ⟨rfl, rfl, (combineClause_none_left connective f.clause?).symm⟩

theorem combine_everything_right (connective : Connective) (f : Filter) :
    combine connective f everything = .ok f :=
  combine_eq_ok_iff.mpr ⟨by simp [everything], by simp [everything],
    (combineClause_none_right connective f.clause?).symm⟩

theorem compare_eq_ok_iff {field : FilterField} {relation : Relation} {value : Json} :
    field.compare relation value = .ok f ↔ field.filterable = true ∧
      f = { clause? := some (.compare field.name (relation.condition value)) } := by
  cases hfilterable : field.filterable <;>
    simp [FilterField.compare, FilterField.check, hfilterable, bind, Except.bind, pure, Except.pure,
      eq_comm]

theorem orderBy_eq_ok_iff {field : FilterField} {descending : Bool} :
    f.orderBy field descending = .ok g ↔ field.filterable = true ∧ f.order? = none ∧ g =
      { f with order? := some (field.name, if descending then .descending else .ascending) } := by
  cases hfilterable : field.filterable <;> cases horder : f.order? <;>
    simp [orderBy, FilterField.check, hfilterable, horder, bind, Except.bind, eq_comm]

theorem limit_eq_ok_iff {n : Int} :
    f.limit n = .ok g ↔ 0 ≤ n ∧ f.limit? = none ∧ g = { f with limit? := some n.toNat } := by
  cases hlimit : f.limit? <;> by_cases hn : 0 ≤ n <;> simp [limit, hlimit, hn, eq_comm]

end Filter

/-! ## Expressions -/

inductive FilterExpression
  | everything
  | compare (field : FilterField) (relation : Relation) (value : Json)
  | join (connective : Connective) (left right : FilterExpression)
  | orderBy (field : FilterField) (descending : Bool) (e : FilterExpression)
  | limit (n : Int) (e : FilterExpression)

namespace FilterExpression

def filter : FilterExpression → Except FilterError Filter
  | .everything => .ok .everything
  | .compare field relation value => field.compare relation value
  | .join connective left right => do
    let f ← left.filter
    let g ← right.filter
    Filter.combine connective f g
  | .orderBy field descending e => do
    let f ← e.filter
    f.orderBy field descending
  | .limit n e => do
    let f ← e.filter
    f.limit n

def Proper : FilterExpression → Prop
  | .everything => True
  | .compare field _ _ => field.filterable = true
  | .join _ left right => left.Proper ∧ right.Proper
  | .orderBy field _ e => field.filterable = true ∧ e.Proper
  | .limit n e => 0 ≤ n ∧ e.Proper

def orders : FilterExpression → List (String × SortOrder)
  | .everything => []
  | .compare _ _ _ => []
  | .join _ left right => left.orders ++ right.orders
  | .orderBy field descending e =>
    e.orders ++ [(field.name, if descending then .descending else .ascending)]
  | .limit _ e => e.orders

def limits : FilterExpression → List Nat
  | .everything => []
  | .compare _ _ _ => []
  | .join _ left right => left.limits ++ right.limits
  | .orderBy _ _ e => e.limits
  | .limit n e => e.limits ++ [n.toNat]

def comparisons : FilterExpression → List (String × Json)
  | .everything => []
  | .compare field relation value => [(field.name, relation.condition value)]
  | .join _ left right => left.comparisons ++ right.comparisons
  | .orderBy _ _ e => e.comparisons
  | .limit _ e => e.comparisons

def clause? : FilterExpression → Option Clause
  | .everything => none
  | .compare field relation value => some (.compare field.name (relation.condition value))
  | .join connective left right => Filter.combineClause connective left.clause? right.clause?
  | .orderBy _ _ e => e.clause?
  | .limit _ e => e.clause?

theorem flat_clause? (e : FilterExpression) : ∀ c, e.clause? = some c → c.Flat := by
  induction e with
  | everything => exact fun c hc => by cases hc
  | compare field relation value =>
    intro c hc
    cases hc
    exact .compare _ _
  | join connective left right ihl ihr =>
    intro c hc
    simp only [clause?] at hc
    cases hleft : left.clause? with
    | none =>
      rw [hleft, Filter.combineClause_none_left] at hc
      exact ihr c hc
    | some d =>
      cases hright : right.clause? with
      | none =>
        rw [hright, Filter.combineClause_none_right] at hc
        exact ihl c hc
      | some e =>
        rw [hleft, hright] at hc
        cases hc
        exact (ihl d hleft).combine (ihr e hright) connective
  | orderBy _ _ _ ih => exact ih
  | limit _ _ ih => exact ih

theorem comparisons_clause? (e : FilterExpression) :
    e.clause?.elim [] Clause.comparisons = e.comparisons := by
  induction e with
  | everything => rfl
  | compare field relation value => rfl
  | join connective left right ihl ihr =>
    simp only [clause?, comparisons, ← ihl, ← ihr]
    cases left.clause? <;> cases right.clause? <;>
      simp [Filter.combineClause, Clause.comparisons_combine]
  | orderBy _ _ _ ih => exact ih
  | limit _ _ ih => exact ih

/-- The filter of an expression, apart from what would not be taken. -/
structure Comes (e : FilterExpression) (f : Filter) : Prop where
  order : f.order?.toList = e.orders
  limit : f.limit?.toList = e.limits
  clause : f.clause? = e.clause?

theorem toList_head? {α : Type} {as : List α} (h : as.length ≤ 1) : as.head?.toList = as := by
  match as with
  | [] => rfl
  | [a] => rfl

theorem toList_injective {α : Type} {a b : Option α} (h : a.toList = b.toList) : a = b := by
  cases a <;> cases b <;> simp_all

theorem exists_comes_iff {e : FilterExpression} :
    (∃ f, e.Comes f) ↔ e.orders.length ≤ 1 ∧ e.limits.length ≤ 1 := by
  constructor
  · rintro ⟨f, h⟩
    exact ⟨h.order ▸ Option.length_toList_le, h.limit ▸ Option.length_toList_le⟩
  · rintro ⟨horders, hlimits⟩
    exact ⟨⟨e.clause?, _, _⟩, toList_head? horders, toList_head? hlimits, rfl⟩

theorem Comes.eq {e : FilterExpression} {f g : Filter} (hf : e.Comes f) (hg : e.Comes g) :
    f = g := by
  obtain ⟨clause?, order?, limit?⟩ := f
  obtain ⟨clause?', order?', limit?'⟩ := g
  obtain rfl : order? = order?' := toList_injective (hf.order.trans hg.order.symm)
  obtain rfl : limit? = limit?' := toList_injective (hf.limit.trans hg.limit.symm)
  obtain rfl : clause? = clause?' := hf.clause.trans hg.clause.symm
  rfl

theorem comes_congr {d e : FilterExpression} (horders : d.orders = e.orders)
    (hlimits : d.limits = e.limits) (hclause : d.clause? = e.clause?) (f : Filter) :
    d.Comes f ↔ e.Comes f :=
  ⟨fun h => ⟨h.order.trans horders, h.limit.trans hlimits, h.clause.trans hclause⟩,
    fun h => ⟨h.order.trans horders.symm, h.limit.trans hlimits.symm, h.clause.trans hclause.symm⟩⟩

theorem comes_join {connective : Connective} {left right : FilterExpression} {f : Filter} :
    (join connective left right).Comes f ↔
      ∃ g h, left.Comes g ∧ right.Comes h ∧ Filter.combine connective g h = .ok f := by
  constructor
  · intro hf
    obtain ⟨horders, hlimits⟩ := exists_comes_iff.mp ⟨f, hf⟩
    simp only [orders, limits, List.length_append] at horders hlimits
    have hleft : left.orders.length ≤ 1 ∧ left.limits.length ≤ 1 := by omega
    have hright : right.orders.length ≤ 1 ∧ right.limits.length ≤ 1 := by omega
    obtain ⟨g, hg⟩ := exists_comes_iff.mpr hleft
    obtain ⟨h, hh⟩ := exists_comes_iff.mpr hright
    refine ⟨g, h, hg, hh, Filter.combine_eq_ok_iff.mpr ⟨?_, ?_, ?_⟩⟩
    · rw [hf.order, hg.order, hh.order, orders]
    · rw [hf.limit, hg.limit, hh.limit, limits]
    · rw [hf.clause, hg.clause, hh.clause, clause?]
  · rintro ⟨g, h, hg, hh, hcombine⟩
    obtain ⟨horder, hlimit, hclause⟩ := Filter.combine_eq_ok_iff.mp hcombine
    refine ⟨?_, ?_, ?_⟩
    · rw [horder, hg.order, hh.order, orders]
    · rw [hlimit, hg.limit, hh.limit, limits]
    · rw [hclause, hg.clause, hh.clause, clause?]

theorem toList_concat_iff {α : Type} {as : List α} {a : α} {slot : Option α} :
    slot.toList = as ++ [a] ↔ as = [] ∧ slot = some a := by
  cases as <;> cases slot <;> simp

theorem comes_orderBy {field : FilterField} {descending : Bool} {e : FilterExpression}
    {f : Filter} : (orderBy field descending e).Comes f ↔ ∃ g, e.Comes g ∧ g.order? = none ∧
      f = { g with order? := some (field.name, if descending then .descending else .ascending) } := by
  constructor
  · intro hf
    obtain ⟨hnone, horder⟩ := toList_concat_iff.mp hf.order
    refine ⟨{ f with order? := none }, ⟨hnone.symm, hf.limit, hf.clause⟩, rfl, ?_⟩
    rw [← horder]
  · rintro ⟨g, hg, hnone, rfl⟩
    have horders : e.orders = [] := by rw [← hg.order, hnone]; rfl
    exact ⟨toList_concat_iff.mpr ⟨horders, rfl⟩, hg.limit, hg.clause⟩

theorem comes_limit {n : Int} {e : FilterExpression} {f : Filter} :
    (limit n e).Comes f ↔
      ∃ g, e.Comes g ∧ g.limit? = none ∧ f = { g with limit? := some n.toNat } := by
  constructor
  · intro hf
    obtain ⟨hnone, hlimit⟩ := toList_concat_iff.mp hf.limit
    refine ⟨{ f with limit? := none }, ⟨hf.order, hnone.symm, hf.clause⟩, rfl, ?_⟩
    rw [← hlimit]
  · rintro ⟨g, hg, hnone, rfl⟩
    have hlimits : e.limits = [] := by rw [← hg.limit, hnone]; rfl
    exact ⟨hg.order, toList_concat_iff.mpr ⟨hlimits, rfl⟩, hg.clause⟩

/-- By induction over the expression: each step takes exactly the fields and limits that are proper,
and a slot that is free. -/
theorem filter_eq_ok_iff {e : FilterExpression} {f : Filter} :
    e.filter = .ok f ↔ e.Proper ∧ e.Comes f := by
  induction e generalizing f with
  | everything =>
    have hcomes : everything.Comes .everything := ⟨rfl, rfl, rfl⟩
    constructor
    · intro h
      cases h
      exact ⟨trivial, hcomes⟩
    · rintro ⟨-, h⟩
      rw [h.eq hcomes]
      rfl
  | compare field relation value =>
    have hcomes : (compare field relation value).Comes
        { clause? := some (.compare field.name (relation.condition value)) } := ⟨rfl, rfl, rfl⟩
    refine Filter.compare_eq_ok_iff.trans (and_congr_right fun _ => ⟨fun h => h ▸ hcomes, ?_⟩)
    exact fun h => h.eq hcomes
  | join connective left right ihl ihr =>
    simp only [filter, Except.bind_eq_ok, ihl, ihr, Proper, comes_join]
    constructor
    · rintro ⟨g, ⟨hleft, hg⟩, h, ⟨hright, hh⟩, hcombine⟩
      exact ⟨⟨hleft, hright⟩, g, h, hg, hh, hcombine⟩
    · rintro ⟨⟨hleft, hright⟩, g, h, hg, hh, hcombine⟩
      exact ⟨g, ⟨hleft, hg⟩, h, ⟨hright, hh⟩, hcombine⟩
  | orderBy field descending e ih =>
    simp only [filter, Except.bind_eq_ok, ih, Proper, Filter.orderBy_eq_ok_iff, comes_orderBy]
    constructor
    · rintro ⟨g, ⟨hproper, hg⟩, hfield, hnone, rfl⟩
      exact ⟨⟨hfield, hproper⟩, g, hg, hnone, rfl⟩
    · rintro ⟨⟨hfield, hproper⟩, g, hg, hnone, rfl⟩
      exact ⟨g, ⟨hproper, hg⟩, hfield, hnone, rfl⟩
  | limit n e ih =>
    simp only [filter, Except.bind_eq_ok, ih, Proper, Filter.limit_eq_ok_iff, comes_limit]
    constructor
    · rintro ⟨g, ⟨hproper, hg⟩, hn, hnone, rfl⟩
      exact ⟨⟨hn, hproper⟩, g, hg, hnone, rfl⟩
    · rintro ⟨⟨hn, hproper⟩, g, hg, hnone, rfl⟩
      exact ⟨g, ⟨hproper, hg⟩, hn, hnone, rfl⟩

/-! ## Groupings -/

def Equivalent (d e : FilterExpression) : Prop := d.filter.toOption = e.filter.toOption

theorem equivalent_of_comes {d e : FilterExpression} (hproper : d.Proper ↔ e.Proper)
    (hcomes : ∀ f, d.Comes f ↔ e.Comes f) : d.Equivalent e := by
  have hsome : ∀ (x : FilterExpression) f, x.filter.toOption = some f ↔ x.Proper ∧ x.Comes f := by
    intro x f
    rw [← filter_eq_ok_iff]
    cases x.filter <;> simp [Except.toOption]
  refine Option.ext fun f => ?_
  rw [hsome, hsome, hproper, hcomes]

theorem join_assoc (connective : Connective) (a b c : FilterExpression) :
    (join connective (join connective a b) c).Equivalent
      (join connective a (join connective b c)) := by
  refine equivalent_of_comes (by simp only [Proper, and_assoc]) (comes_congr ?_ ?_ ?_)
  · simp only [orders, List.append_assoc]
  · simp only [limits, List.append_assoc]
  · simp only [clause?, Filter.combineClause_assoc]

theorem join_everything_left (connective : Connective) (e : FilterExpression) :
    (join connective .everything e).filter = e.filter := by
  simp only [filter]
  change (e.filter >>= fun g => Filter.combine connective .everything g) = _
  cases e.filter with
  | error _ => rfl
  | ok f => exact Filter.combine_everything_left connective f

theorem join_everything_right (connective : Connective) (e : FilterExpression) :
    (join connective e .everything).filter = e.filter := by
  simp only [filter]
  cases e.filter with
  | error _ => rfl
  | ok f => exact Filter.combine_everything_right connective f

/-- A proper expression comes to a filter exactly if it has one order and one limit at most. The
filter carries these, and the comparisons as they are written in a flat tree. Neither the grouping of
a combination nor an operand that matches everything makes a difference. -/
theorem filter_normal {e : FilterExpression} (hproper : e.Proper) :
    ((∃ f, e.filter = .ok f) ↔ e.orders.length ≤ 1 ∧ e.limits.length ≤ 1) ∧
    (∀ f, e.filter = .ok f → f.order?.toList = e.orders ∧ f.limit?.toList = e.limits ∧
      f.comparisons = e.comparisons ∧ ∀ c, f.clause? = some c → c.Flat) ∧
    ∀ connective, (∀ b c, (join connective (join connective e b) c).Equivalent
        (join connective e (join connective b c))) ∧
      (join connective .everything e).filter = e.filter ∧
      (join connective e .everything).filter = e.filter := by
  refine ⟨?_, fun f hf => ?_, fun connective => ?_⟩
  · simp only [filter_eq_ok_iff, hproper, true_and]
    exact exists_comes_iff
  · obtain ⟨-, hcomes⟩ := filter_eq_ok_iff.mp hf
    refine ⟨hcomes.order, hcomes.limit, ?_, fun c hc => e.flat_clause? c ?_⟩
    · rw [Filter.comparisons, hcomes.clause, comparisons_clause?]
    · rwa [← hcomes.clause]
  · exact ⟨join_assoc connective e, join_everything_left connective e,
      join_everything_right connective e⟩

/-! ## Labels and regions -/

def labelIs (label : String) : FilterExpression := .compare ⟨"label", true⟩ .equal (.str label)

def labelsIn (region : String) : FilterExpression :=
  .orderBy ⟨"region", true⟩ true
    (.join .all (.join .any (labelIs "web") (.limit 5 (labelIs "api")))
      (.join .all .everything (.compare ⟨"region", true⟩ .notEqual (.str region))))

theorem filter_normal_labels : (labelsIn "east").Proper ∧ ∃ f, (labelsIn "east").filter = .ok f ∧
    f.order? = some ("region", .descending) ∧ f.limit? = some 5 ∧
    f.comparisons = [("label", .str "web"), ("label", .str "api"),
      ("region", .obj [("+neq", .str "east")])] ∧ ∀ c, f.clause? = some c → c.Flat := by
  have hproper : (labelsIn "east").Proper := ⟨rfl, ⟨rfl, by decide, rfl⟩, trivial, rfl⟩
  obtain ⟨hsucceeds, hcarries, -⟩ := filter_normal hproper
  obtain ⟨f, hf⟩ := hsucceeds.mpr (by decide)
  obtain ⟨horder, hlimit, hcomparisons, hflat⟩ := hcarries f hf
  exact ⟨hproper, f, hf, toList_injective horder, toList_injective hlimit, hcomparisons, hflat⟩

end FilterExpression
end CloudClient
