import CloudClient.Binary64
import CloudClient.Dict

/-!
# JSON values

Objects keep their entries in key order, except where a document is read with its repetitions
(`Json.Reader`), whose entries stay as written until `normalize` sorts them. Integers are exact and
lie in the signed or unsigned 64-bit range; every other number is a binary64, so `1` and `1.0` are
different values.
-/

namespace CloudClient

inductive Number
  | int (n : Int)
  | float (x : Binary64)
deriving DecidableEq, Repr, Inhabited

/-- Equality of numbers of one kind; the two zeros of binary64 are equal. -/
def Number.same : Number → Number → Bool
  | .int a, .int b => a == b
  | .float x, .float y => x.same y
  | _, _ => false

theorem Number.same_refl (n : Number) : n.same n = true := by
  cases n <;> simp [same, Binary64.same]

inductive Json
  | null
  | bool (b : Bool)
  | num (n : Number)
  | str (s : String)
  | arr (items : List Json)
  | obj (fields : List (String × Json))
deriving Inhabited, Repr

namespace Json

def int (n : Int) : Json := .num (.int n)
def nat (n : Nat) : Json := .num (.int n)

/-- An object of the given entries, the last one of a key winning. -/
def ofEntries (entries : List (String × Json)) : Json := .obj (Dict.ofList entries)

def isNull : Json → Bool
  | .null => true
  | _ => false

def asStr? : Json → Option String
  | .str s => some s
  | _ => none

def asBool? : Json → Option Bool
  | .bool b => some b
  | _ => none

def asInt? : Json → Option Int
  | .num (.int n) => some n
  | _ => none

def asInt64? (v : Json) : Option Int := v.asInt?.filter Text.isInt64

def asNatBelow? (bound : Nat) (v : Json) : Option Nat :=
  match v.asInt? with
  | some n => if 0 ≤ n ∧ n.toNat < bound then some n.toNat else none
  | none => none

def asArr? : Json → Option (List Json)
  | .arr items => some items
  | _ => none

def asObj? : Json → Option (List (String × Json))
  | .obj fields => some fields
  | _ => none

def get? (v : Json) (key : String) : Option Json :=
  match v with
  | .obj fields => Dict.get? fields key
  | _ => none

/-- The entry of an object unless it is null. -/
def getSome? (v : Json) (key : String) : Option Json := (v.get? key).filter fun w => !w.isNull

mutual
def same : Json → Json → Bool
  | .null, .null => true
  | .bool a, .bool b => a == b
  | .num a, .num b => a.same b
  | .str a, .str b => a == b
  | .arr xs, .arr ys => sameItems xs ys
  | .obj xs, .obj ys => sameFields xs ys
  | _, _ => false
termination_by structural v => v
def sameItems : List Json → List Json → Bool
  | [], [] => true
  | x :: xs, y :: ys => same x y && sameItems xs ys
  | _, _ => false
termination_by structural xs => xs
def sameFields : List (String × Json) → List (String × Json) → Bool
  | [], [] => true
  | (k, x) :: xs, (l, y) :: ys => k == l && same x y && sameFields xs ys
  | _, _ => false
termination_by structural xs => xs
end

mutual
theorem same_refl : (v : Json) → v.same v = true
  | .null => rfl
  | .bool b => by simp [same]
  | .num n => n.same_refl
  | .str s => by simp [same]
  | .arr items => by rw [same, sameItems_refl items]
  | .obj fields => by rw [same, sameFields_refl fields]
theorem sameItems_refl : (items : List Json) → sameItems items items = true
  | [] => rfl
  | v :: rest => by rw [sameItems, same_refl v, sameItems_refl rest]; rfl
theorem sameFields_refl : (fields : List (String × Json)) → sameFields fields fields = true
  | [] => rfl
  | (k, v) :: rest => by simp [sameFields, same_refl v, sameFields_refl rest]
end

mutual
/-- Whether two values are the same in every part, the zeros of binary64 told apart. -/
def decideEq : (v w : Json) → Decidable (v = w)
  | .null, w => match w with
    | .null => isTrue rfl
    | .bool _ | .num _ | .str _ | .arr _ | .obj _ => isFalse nofun
  | .bool a, w => match w with
    | .bool b => decidable_of_iff (a = b) (by simp)
    | .null | .num _ | .str _ | .arr _ | .obj _ => isFalse nofun
  | .num a, w => match w with
    | .num b => decidable_of_iff (a = b) (by simp)
    | .null | .bool _ | .str _ | .arr _ | .obj _ => isFalse nofun
  | .str a, w => match w with
    | .str b => decidable_of_iff (a = b) (by simp)
    | .null | .bool _ | .num _ | .arr _ | .obj _ => isFalse nofun
  | .arr xs, w => match w with
    | .arr ys => @decidable_of_iff _ (xs = ys) (by simp) (decideEqItems xs ys)
    | .null | .bool _ | .num _ | .str _ | .obj _ => isFalse nofun
  | .obj xs, w => match w with
    | .obj ys => @decidable_of_iff _ (xs = ys) (by simp) (decideEqFields xs ys)
    | .null | .bool _ | .num _ | .str _ | .arr _ => isFalse nofun
termination_by structural v => v
def decideEqItems : (xs ys : List Json) → Decidable (xs = ys)
  | [], [] => isTrue rfl
  | [], _ :: _ | _ :: _, [] => isFalse nofun
  | x :: xs, y :: ys =>
    have := decideEq x y
    have := decideEqItems xs ys
    decidable_of_iff (x = y ∧ xs = ys) (by simp)
termination_by structural xs => xs
def decideEqFields : (xs ys : List (String × Json)) → Decidable (xs = ys)
  | [], [] => isTrue rfl
  | [], _ :: _ | _ :: _, [] => isFalse nofun
  | (k, x) :: xs, (l, y) :: ys =>
    have := decideEq x y
    have := decideEqFields xs ys
    decidable_of_iff (k = l ∧ x = y ∧ xs = ys) (by simp [and_assoc])
termination_by structural xs => xs
end

instance : DecidableEq Json := decideEq

mutual
/-- Objects in key order at every depth; the last entry of a repeated key wins. -/
def normalize : Json → Json
  | .arr items => .arr (normalizeItems items)
  | .obj fields => .obj (Dict.ofList (normalizeFields fields))
  | v => v
termination_by structural v => v
def normalizeItems : List Json → List Json
  | [] => []
  | x :: xs => normalize x :: normalizeItems xs
termination_by structural xs => xs
def normalizeFields : List (String × Json) → List (String × Json)
  | [] => []
  | (k, x) :: xs => (k, normalize x) :: normalizeFields xs
termination_by structural xs => xs
end

def readOr {α β : Type} (default : α) (value? : β → Option α) : Option β → Option α
  | none => some default
  | some v => value? v

/-- The value under each name; nothing when a name is repeated. -/
def fieldSlots? {α : Type} (names : List String) (fields : List (String × α)) :
    Option (List (Option α)) :=
  names.mapM fun name =>
    match fields.filter (fun (k, _) => k == name) with
    | [] => some none
    | [(_, v)] => some (some v)
    | _ => none

/-- The value under each name by position; nothing when there are too many values. -/
def itemSlots? {α : Type} (names : List String) (items : List α) : Option (List (Option α)) :=
  if items.length ≤ names.length then
    some (items.map some ++ List.replicate (names.length - items.length) none)
  else none

def slots? (names : List String) : Json → Option (List (Option Json))
  | .obj fields => fieldSlots? names fields
  | .arr items => itemSlots? names items
  | _ => none

end Json
end CloudClient
