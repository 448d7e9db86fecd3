import CloudClient.Json.Writer

/-!
# List filters

A filter is a tree of comparisons with an optional order and an optional limit. Conjunctions of
conjunctions and disjunctions of disjunctions are kept flat. Its wire form is one JSON object: the
clause under its field name or combinator, beside the order and the limit.

Two comparisons are equal when their wire forms are, so a condition is kept as it is written: the
bare value for equality and an object with one operator otherwise.
-/

namespace CloudClient

inductive Relation
  | equal | notEqual | less | atMost | greater | atLeast | contains
deriving DecidableEq, Repr

def Relation.operator? : Relation → Option String
  | .equal => none
  | .notEqual => some "+neq"
  | .less => some "+lt"
  | .atMost => some "+lte"
  | .greater => some "+gt"
  | .atLeast => some "+gte"
  | .contains => some "+contains"

def Relation.condition (r : Relation) (value : Json) : Json :=
  match r.operator? with
  | none => value
  | some op => .obj [(op, value)]

inductive SortOrder
  | ascending | descending
deriving DecidableEq, Repr

def SortOrder.word : SortOrder → String
  | .ascending => "asc"
  | .descending => "desc"

inductive FilterError
  | notFilterable (field : String)
  | orderAlreadySet (field : String)
  | limitAlreadySet (limit : Nat)
  | invalidLimit (limit : Int)
deriving DecidableEq, Repr

def FilterError.message : FilterError → String
  | .notFilterable field => "field '" ++ field ++ "' is not filterable"
  | .orderAlreadySet field => "filter is already ordered by '" ++ field ++ "'"
  | .limitAlreadySet n => "filter already has a limit of " ++ toString n
  | .invalidLimit n => "limit must be a non-negative integer, got " ++ toString n

structure FilterField where
  name : String
  filterable : Bool := true
deriving DecidableEq, Repr

inductive Connective
  | all | any
deriving DecidableEq, Repr

def Connective.word : Connective → String
  | .all => "+and"
  | .any => "+or"

inductive Clause
  | compare (field : String) (condition : Json)
  | join (connective : Connective) (members : List Clause)
deriving Inhabited, Repr

namespace Clause

/-- The members a clause contributes to a combination: its own when it already is one. -/
def membersOf (connective : Connective) : Clause → List Clause
  | .join c members => if c = connective then members else [.join c members]
  | clause => [clause]

def combine (connective : Connective) (left right : Clause) : Clause :=
  .join connective (left.membersOf connective ++ right.membersOf connective)

mutual
def toJson : Clause → Json
  | .compare field condition => .obj [(field, condition)]
  | .join connective members => .obj [(connective.word, .arr (membersJson members))]
termination_by structural c => c
def membersJson : List Clause → List Json
  | [] => []
  | c :: rest => toJson c :: membersJson rest
termination_by structural cs => cs
end

mutual
def same : Clause → Clause → Bool
  | .compare f v, .compare g w => f == g && v.same w
  | .join c xs, .join d ys => c == d && sameMembers xs ys
  | _, _ => false
termination_by structural c => c
def sameMembers : List Clause → List Clause → Bool
  | [], [] => true
  | x :: xs, y :: ys => same x y && sameMembers xs ys
  | _, _ => false
termination_by structural cs => cs
end

mutual
def holds (assign : String → Json → Bool) : Clause → Bool
  | .compare field condition => assign field condition
  | .join .all members => allHold assign members
  | .join .any members => anyHolds assign members
termination_by structural c => c
def allHold (assign : String → Json → Bool) : List Clause → Bool
  | [] => true
  | c :: rest => holds assign c && allHold assign rest
termination_by structural cs => cs
def anyHolds (assign : String → Json → Bool) : List Clause → Bool
  | [] => false
  | c :: rest => holds assign c || anyHolds assign rest
termination_by structural cs => cs
end

end Clause

structure Filter where
  clause? : Option Clause := none
  order? : Option (String × SortOrder) := none
  limit? : Option Nat := none
deriving Inhabited, Repr

namespace FilterField

def check (field : FilterField) : Except FilterError Unit :=
  if field.filterable then .ok () else .error (.notFilterable field.name)

def compare (field : FilterField) (relation : Relation) (value : Json) :
    Except FilterError Filter := do
  field.check
  return { clause? := some (.compare field.name (relation.condition value)) }

end FilterField

namespace Filter

def everything : Filter := {}

def isEmpty (f : Filter) : Bool := f.clause?.isNone && f.order?.isNone && f.limit?.isNone

def holds (assign : String → Json → Bool) (f : Filter) : Bool :=
  match f.clause? with
  | none => true
  | some clause => clause.holds assign

def combineOrder : Option (String × SortOrder) → Option (String × SortOrder) →
    Except FilterError (Option (String × SortOrder))
  | some _, some (field, _) => .error (.orderAlreadySet field)
  | order, none => .ok order
  | none, order => .ok order

def combineLimit : Option Nat → Option Nat → Except FilterError (Option Nat)
  | some _, some n => .error (.limitAlreadySet n)
  | limit, none => .ok limit
  | none, limit => .ok limit

def combineClause (connective : Connective) : Option Clause → Option Clause → Option Clause
  | some left, some right => some (.combine connective left right)
  | clause, none => clause
  | none, clause => clause

/-- Both operands under one connective; at most one of them may carry an order, at most one a
limit, and a second order is reported before a second limit. -/
def combine (connective : Connective) (left right : Filter) : Except FilterError Filter := do
  let order? ← combineOrder left.order? right.order?
  let limit? ← combineLimit left.limit? right.limit?
  return ⟨combineClause connective left.clause? right.clause?, order?, limit?⟩

def and (left right : Filter) : Except FilterError Filter := combine .all left right

def or (left right : Filter) : Except FilterError Filter := combine .any left right

def orderBy (f : Filter) (field : FilterField) (descending : Bool) : Except FilterError Filter := do
  field.check
  match f.order? with
  | some (existing, _) => .error (.orderAlreadySet existing)
  | none => .ok { f with
      order? := some (field.name, if descending then .descending else .ascending) }

def limit (f : Filter) (n : Int) : Except FilterError Filter :=
  match f.limit? with
  | some existing => .error (.limitAlreadySet existing)
  | none => if 0 ≤ n then .ok { f with limit? := some n.toNat } else .error (.invalidLimit n)

def clauseFields (f : Filter) : Dict Json :=
  match f.clause? with
  | none => []
  | some clause => (clause.toJson.asObj?).getD []

def withOrder (order? : Option (String × SortOrder)) (fields : Dict Json) : Dict Json :=
  match order? with
  | none => fields
  | some (field, order) =>
    ((fields.insert "+order_by" (.str field)).insert "+order" (.str order.word))

def withLimit (limit? : Option Nat) (fields : Dict Json) : Dict Json :=
  match limit? with
  | none => fields
  | some n => fields.insert "+limit" (.nat n)

def toJson (f : Filter) : Json := .obj (withLimit f.limit? (withOrder f.order? f.clauseFields))

def header (f : Filter) : String := f.toJson.compact

def sameClause : Option Clause → Option Clause → Bool
  | none, none => true
  | some c, some d => c.same d
  | _, _ => false

def same (f g : Filter) : Bool :=
  sameClause f.clause? g.clause? && f.order? == g.order? && f.limit? == g.limit?

end Filter
end CloudClient
