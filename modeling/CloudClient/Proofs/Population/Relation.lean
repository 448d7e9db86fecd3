import CloudClient.Proofs.Resource.Held
import CloudClient.Proofs.Step
import CloudClient.Resource.Population

/-!
# Values of relations

Building the value of a relation reads the resource that it is for and leaves it as it is. A related
resource is one that was held before, filled by its payload, or a new handle: a condition that
handles meet and filling keeps holds of every resource in the value.
-/

namespace CloudClient

namespace Filling
variable {α β : Type}

def Answers (x : Filling α) (Q : α → Prop) : Prop :=
  ∀ r log, Step.Yields x (r, log) fun result t => t.1 = r ∧ ∀ a, result = .ok a → Q a

theorem Answers.mono {x : Filling α} {Q R : α → Prop} (h : Answers x Q) (hQR : ∀ a, Q a → R a) :
    Answers x R :=
  fun r log => (h r log).mono fun _ _ ⟨ht, ha⟩ => ⟨ht, fun a he => hQR a (ha a he)⟩

theorem Answers.and {x : Filling α} {Q R : α → Prop} (h : Answers x Q) (h' : Answers x R) :
    Answers x fun a => Q a ∧ R a :=
  fun r log => ⟨(h r log).1, fun a ha => ⟨(h r log).2 a ha, (h' r log).2 a ha⟩⟩

theorem Answers.pure {a : α} {Q : α → Prop} (h : Q a) : Answers (Pure.pure a) Q := by
  intro r log
  refine ⟨rfl, ?_⟩
  intro b hb
  cases hb
  exact h

theorem Answers.fail {e : Error} {Q : α → Prop} : Answers (Step.fail e) Q := by
  intro r log
  exact ⟨rfl, fun a ha => by cases ha⟩

theorem Answers.ofExcept {result : Except Error α} {Q : α → Prop} (h : ∀ a, result = .ok a → Q a) :
    Answers (Step.ofExcept result) Q :=
  fun _ _ => ⟨rfl, h⟩

theorem Answers.read {f : Resource × Log → α} : Answers (Step.read f) fun _ => True :=
  fun _ _ => ⟨rfl, fun _ _ => trivial⟩

theorem Answers.note {level : Level} {message : String} :
    Answers (note level message) fun _ => True :=
  fun _ _ => ⟨rfl, fun _ _ => trivial⟩

theorem Answers.bind {x : Filling α} {f : α → Filling β} {Q : α → Prop} {R : β → Prop}
    (hx : Answers x Q) (hf : ∀ a, Q a → Answers (f a) R) : Answers (x >>= f) R := by
  intro r log
  refine (hx r log).bind ?_ ?_
  · intro a t ht
    obtain ⟨_, log'⟩ := t
    obtain ⟨rfl, ha⟩ := ht
    exact hf a (ha a rfl) _ log'
  · intro e t ht
    exact ⟨ht.1, fun b hb => by cases hb⟩

theorem Answers.on {s : Resource} {x : Filling Unit} {Q : Resource → Prop}
    (hx : ∀ log, Step.Yields x (s, log) fun result t => result = .ok () → Q t.1) :
    Answers (on s x) Q := by
  intro r log
  have h := hx log
  simp only [Step.Yields, Filling.on] at h ⊢
  generalize x (s, log) = outcome at h ⊢
  obtain ⟨_ | _, t, log'⟩ := outcome
  · exact ⟨rfl, fun a ha => by cases ha⟩
  · refine ⟨rfl, ?_⟩
    intro a ha
    cases ha
    exact h rfl

end Filling

namespace Resource
open Filling (Answers)

theorem plainValue_ok (name : String) (p : Property) (payload : Json) (r : Resource) (log : Log) :
    ∃ v log', plainValue name p payload (r, log) = (.ok v, r, log') ∧ v.held = [] := by
  cases payload with
  | obj fields => exact ⟨_, _, rfl, rfl⟩
  | arr items => exact ⟨_, _, rfl, FieldValue.held_ofJson _⟩
  | str s =>
    simp only [plainValue]
    split
    · cases Datetime.parse? s.toList with
      | some t => exact ⟨_, _, rfl, rfl⟩
      | none => exact ⟨_, _, rfl, rfl⟩
    · exact ⟨_, _, rfl, rfl⟩
  | null => exact ⟨_, _, rfl, rfl⟩
  | bool b => exact ⟨_, _, rfl, rfl⟩
  | num n => exact ⟨_, _, rfl, rfl⟩

theorem mem_of_mem_swapRemove {rs : List Resource} {index : Nat} {s : Resource}
    (h : s ∈ swapRemove rs index) : s ∈ rs := by
  unfold swapRemove at h
  split at h
  · cases h
  · rename_i last hlast
    rcases List.mem_or_eq_of_mem_set ((List.dropLast_sublist _).subset h) with hs | hs
    · exact hs
    · exact hs ▸ List.mem_of_getLast? hlast

theorem takeById_mem (id : Json) (rs : List Resource) :
    (∀ s, (takeById id rs).1 = some s → s ∈ rs) ∧ ∀ s ∈ (takeById id rs).2, s ∈ rs := by
  unfold takeById
  cases rs.findIdx? fun r => r.id.same id with
  | some index => exact ⟨fun s hs => List.mem_of_getElem? hs, fun s hs => mem_of_mem_swapRemove hs⟩
  | none => exact ⟨fun s hs => (by cases hs), fun s hs => hs⟩

section Relations
variable {Q : Resource → Prop} {target : ResourceType} {fill : Filling Unit}

/-- Filling keeps a condition when it ends well; what becomes of the rest is lost. -/
def FillKeeps (Q : Resource → Prop) (fill : Filling Unit) : Prop :=
  ∀ s log, Q s → Step.Yields fill (s, log) fun result t => result = .ok () → Q t.1

theorem relateOne_answers {held? : Option Resource} {id : Json}
    (hnew : held? = none → ∀ s, handle target id none = .ok s → Q s) (hfill : FillKeeps Q fill)
    (hheld : ∀ s, held? = some s → Q s) (payload : Json) :
    Answers (relateOne target held? id payload fill) Q := by
  have hrest : ∀ s, Q s →
      Answers (if hasContent target payload then Filling.on s fill else Pure.pure s) Q := by
    intro s hs
    split
    · exact .on fun log => hfill s log hs
    · exact .pure hs
  cases held? with
  | none => exact (Answers.ofExcept (hnew rfl)).bind hrest
  | some s => exact (Answers.pure (hheld s rfl)).bind hrest

theorem relateItems_answers (hnew : ∀ id s, handle target id none = .ok s → Q s)
    {items : List (Json × Filling Unit)} (hitems : ∀ item ∈ items, FillKeeps Q item.2)
    {held : List Resource} (hheld : ∀ s ∈ held, Q s) :
    Answers (relateItems target held items) fun rs => ∀ s ∈ rs, Q s := by
  induction items generalizing held with
  | nil => exact .pure fun s hs => by cases hs
  | cons item rest ih =>
    obtain ⟨payload, fill⟩ := item
    have hrest : ∀ item ∈ rest, FillKeeps Q item.2 :=
      fun item hi => hitems item (List.mem_cons_of_mem _ hi)
    simp only [relateItems]
    split
    · exact Answers.read.bind fun _ _ => Answers.note.bind fun _ _ => ih hrest hheld
    · rename_i id _
      obtain ⟨hfirst, hothers⟩ := takeById_mem id held
      have hone := relateOne_answers (fun _ => hnew id) (hitems _ List.mem_cons_self)
        (fun s hs => hheld s (hfirst s hs)) payload
      refine hone.bind fun r hr => ?_
      refine (ih hrest fun s hs => hheld s (hothers s hs)).bind fun rs hrs => ?_
      refine .pure fun s hs => ?_
      rcases List.mem_cons.mp hs with rfl | hs
      · exact hr
      · exact hrs s hs

theorem relate_answers {registry : Registry} {key : String}
    (hnew : ∀ target id s, registry.get key = .ok target → handle target id none = .ok s → Q s)
    (hfill : FillKeeps Q fill) {items : List (Json × Filling Unit)}
    (hitems : ∀ item ∈ items, FillKeeps Q item.2) {held : FieldValue} (hheld : ∀ s ∈ held.held, Q s)
    (payload : Json) :
    Answers (relate registry key held payload fill items) fun v => ∀ s ∈ v.held, Q s := by
  unfold relate
  refine (Answers.ofExcept (Q := fun t => registry.get key = .ok t) fun _ h => h).bind ?_
  intro target htarget
  have hnew' : ∀ id s, handle target id none = .ok s → Q s := fun id s => hnew target id s htarget
  split
  · refine (relateItems_answers hnew' hitems ?_).bind fun rs hrs => .pure hrs
    exact fun s hs => hheld s (FieldValue.mem_held_of_asResources hs)
  · split
    · exact .fail
    · rename_i id _
      refine (relateOne_answers (fun _ => hnew' id) hfill ?_ payload).bind fun r hr => .pure ?_
      · intro s hs
        unfold heldById? at hs
        split at hs
        · split at hs
          · cases hs
            exact hheld _ List.mem_cons_self
          · cases hs
        · cases hs
      · intro s hs
        rcases List.mem_singleton.mp hs with rfl
        exact hr

end Relations

end Resource
end CloudClient
