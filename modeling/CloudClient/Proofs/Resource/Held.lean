import CloudClient.Resource

/-!
# Resources held by resources

A value holds the resources that stand in it, and `Everywhere` asks a condition of a resource and of
all that its fields hold, however deep. A change of some fields asks the condition anew only of the
resource itself and of what these fields hold now.
-/

namespace CloudClient

namespace FieldValue

mutual
def held : FieldValue → List Resource
  | .resource r => [r]
  | .resources rs => rs
  | .list items => heldIn items
  | _ => []
termination_by structural v => v
def heldIn : List FieldValue → List Resource
  | [] => []
  | v :: rest => held v ++ heldIn rest
termination_by structural vs => vs
end

mutual
theorem held_ofJson : (v : Json) → (ofJson v).held = []
  | .null => rfl
  | .bool _ => rfl
  | .num _ => rfl
  | .str _ => rfl
  | .arr items => by simpa only [ofJson, held] using heldIn_ofItems items
  | .obj _ => rfl
theorem heldIn_ofItems : (items : List Json) → heldIn (ofItems items) = []
  | [] => rfl
  | v :: rest => by simp [ofItems, heldIn, held_ofJson v, heldIn_ofItems rest]
end

theorem mem_held_of_asResources {v : FieldValue} {s : Resource}
    (h : s ∈ v.asResources?.getD []) : s ∈ v.held := by
  cases v <;> simp_all [asResources?, held]

end FieldValue

namespace Resource

/-- A condition on a resource and on every resource that it holds, directly or through others. -/
inductive Everywhere (P : Resource → Prop) : Resource → Prop
  | intro {r : Resource} (here : P r)
      (below : ∀ name, ∀ s ∈ (r.peek name).held, Everywhere P s) : Everywhere P r

variable {P Q : Resource → Prop} {r s : Resource}

theorem Everywhere.here (h : Everywhere P r) : P r := by
  cases h
  assumption

theorem Everywhere.of_held (h : Everywhere P r) {name : String} (hs : s ∈ (r.peek name).held) :
    Everywhere P s := by
  cases h with
  | intro _ below => exact below name s hs

def Below (P : Resource → Prop) (r : Resource) : Prop :=
  ∀ name, ∀ s ∈ (r.peek name).held, Everywhere P s

theorem Everywhere.toBelow (h : Everywhere P r) : Below P r := fun _ _ hs => h.of_held hs

/-- Every field of the second resource holds what it holds in the first, or only what meets `Q`. -/
def Adds (Q : Resource → Prop) (r s : Resource) : Prop :=
  ∀ name, s.peek name = r.peek name ∨ ∀ t ∈ (s.peek name).held, Q t

namespace Adds
variable {t : Resource}

theorem refl (r : Resource) : Adds Q r r := fun _ => .inl rfl

theorem trans (h : Adds Q r s) (h' : Adds Q s t) : Adds Q r t := by
  intro name
  rcases h' name with he | hq
  · rcases h name with he' | hq'
    · exact .inl (he.trans he')
    · exact .inr (he ▸ hq')
  · exact .inr hq

theorem put {v : FieldValue} (hv : ∀ t ∈ v.held, Q t) (r : Resource) (name : String) :
    Adds Q r (r.put name v) := by
  intro other
  by_cases ho : other = name
  · subst ho
    exact .inr (by rwa [peek_put_self])
  · exact .inl (peek_put_of_ne r v ho)

theorem remove (r : Resource) (name : String) : Adds Q r (r.remove name) := by
  intro other
  by_cases ho : other = name
  · subst ho
    refine .inr fun t ht => ?_
    rw [peek_remove_self] at ht
    cases ht
  · exact .inl (peek_remove_of_ne r ho)

end Adds

theorem Below.of_adds (h : Below P r) (hadds : Adds (Everywhere P) r s) : Below P s := by
  intro name t ht
  rcases hadds name with he | hq
  · exact h name t (he ▸ ht)
  · exact hq t ht

theorem Everywhere.of_adds (h : Everywhere P r) (hs : P s) (hadds : Adds (Everywhere P) r s) :
    Everywhere P s := .intro hs (h.toBelow.of_adds hadds)

end Resource
end CloudClient
