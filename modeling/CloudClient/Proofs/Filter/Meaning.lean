import CloudClient.Filter

/-!
# What combined filters mean

A filter means what its comparisons make of it, and without a clause it matches everything. A
combination under `and` means both operands. Under `or` an operand without a clause is left out
rather than taken to match everything, so either operand is meant exactly when both have a clause or
neither has; otherwise the combination still means both.
-/

namespace CloudClient

namespace Connective

def apply : Connective → Bool → Bool → Bool
  | .all, a, b => a && b
  | .any, a, b => a || b

end Connective

namespace Clause
variable {assign : String → Json → Bool}

theorem allHold_eq_all (assign : String → Json → Bool) (cs : List Clause) :
    allHold assign cs = cs.all (holds assign) := by
  induction cs with
  | nil => rfl
  | cons c rest ih => simp only [allHold, ih, List.all_cons]

theorem anyHolds_eq_any (assign : String → Json → Bool) (cs : List Clause) :
    anyHolds assign cs = cs.any (holds assign) := by
  induction cs with
  | nil => rfl
  | cons c rest ih => simp only [anyHolds, ih, List.any_cons]

theorem all_membersOf (assign : String → Json → Bool) (c : Clause) :
    (c.membersOf .all).all (holds assign) = c.holds assign := by
  cases c with
  | compare field condition => simp [membersOf]
  | join connective members =>
    cases connective with
    | all => simp [membersOf, holds, allHold_eq_all]
    | any => simp [membersOf]

theorem any_membersOf (assign : String → Json → Bool) (c : Clause) :
    (c.membersOf .any).any (holds assign) = c.holds assign := by
  cases c with
  | compare field condition => simp [membersOf]
  | join connective members =>
    cases connective with
    | all => simp [membersOf]
    | any => simp [membersOf, holds, anyHolds_eq_any]

theorem holds_combine (assign : String → Json → Bool) (connective : Connective) (c d : Clause) :
    (combine connective c d).holds assign = connective.apply (c.holds assign) (d.holds assign) := by
  cases connective with
  | all => simp [combine, holds, allHold_eq_all, all_membersOf, Connective.apply]
  | any => simp [combine, holds, anyHolds_eq_any, any_membersOf, Connective.apply]

/-! ## Clauses that can fail -/

inductive Grounded : Clause → Prop
  | compare (field : String) (condition : Json) : Grounded (.compare field condition)
  | join {connective : Connective} {members : List Clause} (hne : members ≠ [])
      (hmembers : ∀ c ∈ members, Grounded c) : Grounded (.join connective members)

theorem Grounded.membersOf {c : Clause} (h : Grounded c) (connective : Connective) :
    c.membersOf connective ≠ [] ∧ ∀ d ∈ c.membersOf connective, Grounded d := by
  cases h with
  | compare field condition =>
    exact ⟨List.cons_ne_nil _ _, List.forall_mem_singleton.mpr (.compare field condition)⟩
  | @join other members hne hmembers =>
    by_cases hsame : other = connective
    · simpa only [Clause.membersOf, if_pos hsame] using And.intro hne hmembers
    · simp only [Clause.membersOf, if_neg hsame]
      exact ⟨List.cons_ne_nil _ _, List.forall_mem_singleton.mpr (.join hne hmembers)⟩

theorem Grounded.combine {c d : Clause} (hc : Grounded c) (hd : Grounded d)
    (connective : Connective) : Grounded (combine connective c d) := by
  obtain ⟨hne, hleft⟩ := hc.membersOf connective
  obtain ⟨-, hright⟩ := hd.membersOf connective
  refine .join (List.append_ne_nil_of_left_ne_nil hne _) fun e he => ?_
  rcases List.mem_append.mp he with he | he
  · exact hleft e he
  · exact hright e he

theorem Grounded.not_holds {c : Clause} (h : Grounded c) :
    c.holds (fun _ _ => false) = false := by
  induction h with
  | compare field condition => rfl
  | @join connective members hne _ ih =>
    obtain ⟨c, hc⟩ := List.exists_mem_of_ne_nil members hne
    cases connective with
    | all =>
      rw [holds, allHold_eq_all, List.all_eq_false]
      exact ⟨c, hc, by simp [ih c hc]⟩
    | any =>
      rw [holds, anyHolds_eq_any, List.any_eq_false]
      exact fun d hd => by simp [ih d hd]

end Clause

namespace Filter
variable {f g h : Filter} {assign : String → Json → Bool}

theorem combine_eq_ok {connective : Connective} (hcombine : combine connective f g = .ok h) :
    h.clause? = combineClause connective f.clause? g.clause? := by
  unfold combine at hcombine
  cases horder : combineOrder f.order? g.order? with
  | error e =>
    rw [horder] at hcombine
    cases hcombine
  | ok order? =>
    cases hlimit : combineLimit f.limit? g.limit? with
    | error e =>
      rw [horder, hlimit] at hcombine
      cases hcombine
    | ok limit? =>
      rw [horder, hlimit] at hcombine
      cases hcombine
      rfl

theorem holds_of_clause {c : Clause} (hclause : f.clause? = some c) :
    f.holds assign = c.holds assign := by
  rw [holds, hclause]

theorem holds_of_none (hclause : f.clause? = none) : f.holds assign = true := by
  rw [holds, hclause]

theorem holds_combine {connective : Connective} (hcombine : combine connective f g = .ok h)
    (assign : String → Json → Bool) :
    h.holds assign =
      if f.clause?.isSome = g.clause?.isSome then connective.apply (f.holds assign) (g.holds assign)
      else f.holds assign && g.holds assign := by
  have hclause := combine_eq_ok hcombine
  cases hf : f.clause? with
  | none =>
    cases hg : g.clause? with
    | none =>
      rw [hf, hg] at hclause
      rw [holds_of_none hclause, holds_of_none hf, holds_of_none hg]
      cases connective <;> rfl
    | some d =>
      rw [hf, hg] at hclause
      rw [holds_of_clause hclause, holds_of_none hf, holds_of_clause hg]
      simp
  | some c =>
    cases hg : g.clause? with
    | none =>
      rw [hf, hg] at hclause
      rw [holds_of_clause hclause, holds_of_clause hf, holds_of_none hg]
      simp
    | some d =>
      rw [hf, hg] at hclause
      rw [holds_of_clause hclause, holds_of_clause hf, holds_of_clause hg]
      simp [Clause.holds_combine]

/-! ## Filters as they are built -/

inductive Built : Filter → Prop
  | everything : Built everything
  | compare {field : FilterField} {relation : Relation} {value : Json} {f : Filter}
      (h : field.compare relation value = .ok f) : Built f
  | and {f g h : Filter} (hf : Built f) (hg : Built g) (hand : f.and g = .ok h) : Built h
  | or {f g h : Filter} (hf : Built f) (hg : Built g) (hor : f.or g = .ok h) : Built h
  | orderBy {f g : Filter} {field : FilterField} {descending : Bool} (hf : Built f)
      (horder : f.orderBy field descending = .ok g) : Built g
  | limit {f g : Filter} {n : Int} (hf : Built f) (hlimit : f.limit n = .ok g) : Built g

def Grounded (f : Filter) : Prop := ∀ c, f.clause? = some c → c.Grounded

theorem compare_grounded {field : FilterField} {relation : Relation} {value : Json}
    (h : field.compare relation value = .ok f) : f.Grounded := by
  unfold FilterField.compare at h
  cases hcheck : field.check with
  | error e =>
    rw [hcheck] at h
    cases h
  | ok _ =>
    rw [hcheck] at h
    cases h
    intro c hc
    cases hc
    exact .compare _ _

theorem combine_grounded {connective : Connective} (hf : f.Grounded) (hg : g.Grounded)
    (hcombine : combine connective f g = .ok h) : h.Grounded := by
  intro e he
  rw [combine_eq_ok hcombine] at he
  cases hc : f.clause? with
  | none =>
    rw [hc] at he
    cases hd : g.clause? with
    | none =>
      rw [hd] at he
      cases he
    | some d =>
      rw [hd] at he
      exact hg e (hd.trans he)
  | some c =>
    rw [hc] at he
    cases hd : g.clause? with
    | none =>
      rw [hd] at he
      exact hf e (hc.trans he)
    | some d =>
      rw [hd] at he
      cases he
      exact (hf c hc).combine (hg d hd) connective

theorem orderBy_clause? {field : FilterField} {descending : Bool}
    (h : f.orderBy field descending = .ok g) : g.clause? = f.clause? := by
  unfold orderBy at h
  cases hcheck : field.check with
  | error e =>
    rw [hcheck] at h
    cases h
  | ok _ =>
    rw [hcheck] at h
    cases horder : f.order? with
    | none =>
      rw [horder] at h
      cases h
      rfl
    | some order =>
      rw [horder] at h
      cases h

theorem limit_clause? {n : Int} (h : f.limit n = .ok g) : g.clause? = f.clause? := by
  unfold limit at h
  split at h
  · cases h
  · split at h
    · cases h
      rfl
    · cases h

theorem Built.grounded (h : Built f) : f.Grounded := by
  induction h with
  | everything => exact fun c hc => by cases hc
  | compare h => exact compare_grounded h
  | and _ _ hand ihf ihg => exact combine_grounded ihf ihg hand
  | or _ _ hor ihf ihg => exact combine_grounded ihf ihg hor
  | orderBy _ horder ih => exact fun c hc => ih c (orderBy_clause? horder ▸ hc)
  | limit _ hlimit ih => exact fun c hc => ih c (limit_clause? hlimit ▸ hc)

theorem Grounded.not_holds (hf : f.Grounded) {c : Clause} (hclause : f.clause? = some c) :
    f.holds (fun _ _ => false) = false := by
  rw [holds_of_clause hclause, (hf c hclause).not_holds]

theorem Grounded.not_both (hf : f.Grounded) (hg : g.Grounded)
    (hdiffer : f.clause?.isSome ≠ g.clause?.isSome) :
    (f.holds (fun _ _ => false) && g.holds (fun _ _ => false)) = false ∧
      (f.holds (fun _ _ => false) || g.holds (fun _ _ => false)) = true := by
  cases hc : f.clause? with
  | none =>
    cases hd : g.clause? with
    | none => simp [hc, hd] at hdiffer
    | some d => simp [holds_of_none hc, hg.not_holds hd]
  | some c =>
    cases hd : g.clause? with
    | none => simp [holds_of_none hd, hf.not_holds hc]
    | some d => simp [hc, hd] at hdiffer

/-- `and` always means both operands. `or` means either of them exactly when both have a clause or
neither has, and both of them otherwise. -/
theorem combined_meaning (hf : Built f) (hg : Built g) :
    (∀ h, f.and g = .ok h → ∀ assign, h.holds assign = (f.holds assign && g.holds assign)) ∧
    ∀ h, f.or g = .ok h →
      ((∀ assign, h.holds assign = (f.holds assign || g.holds assign)) ↔
        f.clause?.isSome = g.clause?.isSome) ∧
      (f.clause?.isSome ≠ g.clause?.isSome →
        ∀ assign, h.holds assign = (f.holds assign && g.holds assign)) := by
  refine ⟨fun h hand assign => ?_, fun h hor => ⟨⟨fun heither => ?_, fun hsame assign => ?_⟩, ?_⟩⟩
  · rw [holds_combine hand]
    split <;> rfl
  · refine Decidable.byContradiction fun hdiffer => ?_
    obtain ⟨hboth, heach⟩ := hf.grounded.not_both hg.grounded hdiffer
    have hfalse := heither fun _ _ => false
    rw [holds_combine hor, if_neg hdiffer, hboth, heach] at hfalse
    cases hfalse
  · rw [holds_combine hor, if_pos hsame]
    rfl
  · intro hdiffer assign
    rw [holds_combine hor, if_neg hdiffer]

/-! ## Labels -/

def labelled (label : String) : Filter := { clause? := some (.compare "label" (.str label)) }

theorem labelled_built (label : String) : Built (labelled label) := by
  have hcompare : FilterField.compare ⟨"label", true⟩ .equal (.str label) = .ok (labelled label) :=
    rfl
  exact .compare hcompare

def webOrApi : Filter :=
  { clause? := some (.join .any [.compare "label" (.str "web"), .compare "label" (.str "api")]) }

theorem webOrApi_built : Built webOrApi := .or (labelled_built "web") (labelled_built "api") rfl

theorem combined_meaning_labels : ∃ h, Built webOrApi ∧ Built { labelled "db" with limit? := some 5 } ∧
    webOrApi.or { labelled "db" with limit? := some 5 } = .ok h ∧
    ∀ assign, h.holds assign = (webOrApi.holds assign || (labelled "db").holds assign) := by
  have hlimited : Built { labelled "db" with limit? := some 5 } :=
    .limit (n := 5) (labelled_built "db") rfl
  have hmeaning := (combined_meaning webOrApi_built hlimited).2 _ rfl
  exact ⟨_, webOrApi_built, hlimited, rfl, hmeaning.1.mpr rfl⟩

/-! ## A combination that loses its meaning -/

def MeaningKept : Prop :=
  ∀ f g h, Built f → Built g →
    (f.and g = .ok h → ∀ assign, h.holds assign = (f.holds assign && g.holds assign)) ∧
    (f.or g = .ok h → ∀ assign, h.holds assign = (f.holds assign || g.holds assign))

/-- Everything or one label is only that label. -/
theorem not_meaningKept : ¬ MeaningKept := by
  intro hkept
  have heither := (hkept everything (labelled "web") (labelled "web") .everything
    (labelled_built "web")).2 rfl fun _ _ => false
  cases heither

end Filter
end CloudClient
