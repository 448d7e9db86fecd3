import CloudClient.Proofs.Json.Reading
import CloudClient.Proofs.Text
import CloudClient.Resource

/-!
# Wrapped values

Wrapping a JSON value and unwrapping it again gives the value back. A path leads through a wrapped
object as its segments lead through the object itself, down by exact keys and by positions, so what
is wrapped is found wherever the value is, and nothing is found where the value has no such part.
-/

namespace CloudClient

/-! ## Wrapping and unwrapping -/

namespace Mapped

mutual
theorem toJson_ofJson : (v : Json) → (ofJson v).toJson = v
  | .null => rfl
  | .bool _ => rfl
  | .num _ => rfl
  | .str _ => rfl
  | .arr items => by rw [ofJson, toJson, itemsJson_ofItems items]
  | .obj fields => by rw [ofJson, toJson, entriesJson_ofFields fields]
theorem itemsJson_ofItems : (items : List Json) → itemsJson (ofItems items) = items
  | [] => rfl
  | v :: rest => by rw [ofItems, itemsJson, toJson_ofJson v, itemsJson_ofItems rest]
theorem entriesJson_ofFields : (fields : List (String × Json)) →
    entriesJson (ofFields fields) = fields
  | [] => rfl
  | (k, v) :: rest => by rw [ofFields, entriesJson, toJson_ofJson v, entriesJson_ofFields rest]
end

theorem getElem?_ofItems (items : List Json) (i : Nat) :
    (ofItems items)[i]? = items[i]?.map ofJson := by
  induction items generalizing i with
  | nil => rfl
  | cons v rest ih => cases i <;> simp [ofItems, ih]

theorem get?_ofFields (fields : Dict Json) (key : String) :
    Dict.get? (ofFields fields) key = (Dict.get? fields key).map ofJson := by
  induction fields with
  | nil => rfl
  | cons entry rest ih =>
    rw [ofFields, Dict.get?, Dict.get?, ih]
    split <;> rfl

end Mapped

namespace FieldValue

mutual
theorem toJson_ofJson : (v : Json) → (ofJson v).toJson = v
  | .null => rfl
  | .bool _ => rfl
  | .num _ => rfl
  | .str _ => rfl
  | .arr items => by rw [ofJson, toJson, itemsJson_ofItems items]
  | .obj fields => congrArg Json.obj (Mapped.entriesJson_ofFields fields)
theorem itemsJson_ofItems : (items : List Json) → itemsJson (ofItems items) = items
  | [] => rfl
  | v :: rest => by rw [ofItems, itemsJson, toJson_ofJson v, itemsJson_ofItems rest]
end

end FieldValue

/-! ## Parts of a value -/

namespace Json

/-- The part of a value that a segment names: of an object the entry with exactly that key, of an
array the item at that position. -/
inductive Below : Json → List Char → Json → Prop
  | entry {fields : List (String × Json)} {key : String} {v : Json}
      (h : Dict.get? fields key = some v) : Below (.obj fields) key.toList v
  | item {items : List Json} {segment : List Char} {i : Nat} {v : Json}
      (hindex : Text.IsIndex segment i) (h : items[i]? = some v) : Below (.arr items) segment v

inductive Reaches : Json → List (List Char) → Json → Prop
  | here (v : Json) : Reaches v [] v
  | down {v w u : Json} {segment : List Char} {rest : List (List Char)} (h : Below v segment w)
      (hrest : Reaches w rest u) : Reaches v (segment :: rest) u

/-- Where a part of a value lies, one step down. -/
inductive Place
  | key (name : String)
  | position (i : UInt64)

namespace Place

def segment : Place → List Char
  | .key name => name.toList
  | .position i => Nat.toDigits 10 i.toNat

def path (places : List Place) : String :=
  String.ofList (['.'].intercalate (places.map segment))

/-- No key among the places holds the mark that divides a path. -/
def Undivided (places : List Place) : Prop := ∀ name, .key name ∈ places → '.' ∉ name.toList

end Place

inductive Nested : Json → List Place → Json → Prop
  | here (v : Json) : Nested v [] v
  | entry {fields : List (String × Json)} {name : String} {rest : List Place} {v w : Json}
      (h : Dict.get? fields name = some v) (hrest : Nested v rest w) :
      Nested (.obj fields) (.key name :: rest) w
  | item {items : List Json} {i : UInt64} {rest : List Place} {v w : Json}
      (h : items[i.toNat]? = some v) (hrest : Nested v rest w) :
      Nested (.arr items) (.position i :: rest) w

variable {v w : Json} {places : List Place}

theorem isIndex_toDigits (i : UInt64) : Text.IsIndex (Nat.toDigits 10 i.toNat) i.toNat :=
  ⟨i.toNat_lt, _, .inl rfl, Nat.toDigits_ne_nil, fun _ => Text.isDigit_of_mem_toDigits,
    Text.decimalValue_toDigits _⟩

theorem Nested.reaches (h : Nested v places w) : Reaches v (places.map Place.segment) w := by
  induction h with
  | here v => exact .here v
  | entry h _ ih => exact .down (.entry h) ih
  | item h _ ih => exact .down (.item (isIndex_toDigits _) h) ih

theorem Place.splitOn_path (hne : places ≠ []) (h : Undivided places) :
    (path places).toList.splitOn '.' = places.map segment := by
  rw [path, String.toList_ofList]
  refine List.splitOn_intercalate '.' (fun segment hsegment => ?_) (by simpa using hne)
  obtain ⟨place, hplace, rfl⟩ := List.mem_map.mp hsegment
  cases place with
  | key name => exact h name hplace
  | position i => exact fun hdot => by cases Text.isDigit_of_mem_toDigits hdot

end Json

/-! ## Paths -/

namespace Mapped
open Json (Below Reaches)

theorem child?_eq_some {v : Json} {segment : List Char} {m : Mapped} :
    (ofJson v).child? segment = some m ↔ ∃ w, Below v segment w ∧ ofJson w = m := by
  cases v with
  | obj fields =>
    rw [ofJson, child?, get?_ofFields, Option.map_eq_some_iff]
    constructor
    · rintro ⟨w, hw, rfl⟩
      have hbelow := Below.entry hw
      rw [String.toList_ofList] at hbelow
      exact ⟨w, hbelow, rfl⟩
    · rintro ⟨w, hbelow, rfl⟩
      cases hbelow with
      | entry h => exact ⟨w, by rwa [String.ofList_toList], rfl⟩
  | arr items =>
    rw [ofJson, child?, Option.bind_eq_some_iff]
    constructor
    · rintro ⟨i, hindex, h⟩
      rw [getElem?_ofItems, Option.map_eq_some_iff] at h
      obtain ⟨w, hw, rfl⟩ := h
      exact ⟨w, .item (Text.index?_eq_some.mp hindex) hw, rfl⟩
    · rintro ⟨w, hbelow, rfl⟩
      cases hbelow with
      | item hindex h =>
        exact ⟨_, Text.index?_eq_some.mpr hindex, by rw [getElem?_ofItems, h, Option.map_some]⟩
  | null | bool _ | num _ | str _ =>
    refine ⟨nofun, ?_⟩
    rintro ⟨w, hbelow, -⟩
    cases hbelow

theorem walk?_eq_some {v : Json} {segments : List (List Char)} {m : Mapped} :
    (ofJson v).walk? segments = some m ↔ ∃ w, Reaches v segments w ∧ ofJson w = m := by
  induction segments generalizing v with
  | nil =>
    rw [walk?, Option.some_inj]
    constructor
    · intro h
      exact ⟨v, .here v, h⟩
    · rintro ⟨w, hreaches, rfl⟩
      cases hreaches
      rfl
  | cons segment rest ih =>
    rw [walk?, Option.bind_eq_some_iff]
    constructor
    · rintro ⟨below, hbelow, h⟩
      obtain ⟨u, hu, rfl⟩ := child?_eq_some.mp hbelow
      obtain ⟨w, hw, rfl⟩ := ih.mp h
      exact ⟨w, .down hu hw, rfl⟩
    · rintro ⟨w, hreaches, rfl⟩
      cases hreaches with
      | down hu hw => exact ⟨_, child?_eq_some.mpr ⟨_, hu, rfl⟩, ih.mpr ⟨w, hw, rfl⟩⟩

end Mapped

namespace MappedObject
open Json (Reaches Nested Place)

theorem path?_eq_some {fields : Dict Json} {path : String} {m : Mapped} :
    (ofFields fields).path? path = some m ↔
      ∃ w, Reaches (.obj fields) (path.toList.splitOn '.') w ∧ Mapped.ofJson w = m := by
  rw [path?, Text.splitOn_eq]
  exact Mapped.walk?_eq_some (v := .obj fields)

/-- Values come back from both wrappings. Of an object, a path finds the wrapped form of exactly the
part that its segments lead to, and so every value that is nested at places it can name. -/
theorem wrapping_faithful :
    (∀ v : Json, (Mapped.ofJson v).toJson = v) ∧ (∀ v : Json, (FieldValue.ofJson v).toJson = v) ∧
    ∀ fields : Dict Json, ∃ o, ofJson? (.obj fields) = some o ∧ o.toJson = .obj fields ∧
      (∀ path m, o.path? path = some m ↔
        ∃ w, Reaches (.obj fields) (path.toList.splitOn '.') w ∧ Mapped.ofJson w = m) ∧
      (∀ path, o.path? path = none ↔
        ∀ w, ¬ Reaches (.obj fields) (path.toList.splitOn '.') w) ∧
      ∀ places w, Nested (.obj fields) places w → places ≠ [] → Place.Undivided places →
        o.path? (Place.path places) = some (Mapped.ofJson w) := by
  refine ⟨Mapped.toJson_ofJson, FieldValue.toJson_ofJson, fun fields => ?_⟩
  refine ⟨ofFields fields, rfl, congrArg Json.obj (Mapped.entriesJson_ofFields fields),
    fun path m => path?_eq_some, fun path => ?_, fun places w h hne hundivided => ?_⟩
  · rw [Option.eq_none_iff_forall_ne_some]
    constructor
    · intro hnone w hreaches
      exact hnone _ (path?_eq_some.mpr ⟨w, hreaches, rfl⟩)
    · intro hnone m hm
      obtain ⟨w, hreaches, -⟩ := path?_eq_some.mp hm
      exact hnone w hreaches
  · refine path?_eq_some.mpr ⟨w, ?_, rfl⟩
    rw [Place.splitOn_path hne hundivided]
    exact h.reaches

def numbered : Dict Json :=
  [("", .obj [("0", .arr [.bool true, .obj [("a", .null)]])])]

theorem wrapping_faithful_numbered :
    Nested (.obj numbered) [.key "", .key "0", .position 1, .key "a"] .null ∧
      (ofFields numbered).path? ".0.1.a" = some (.scalar .null) ∧
      (ofFields numbered).path? ".0.+01.a" = some (.scalar .null) := by
  obtain ⟨o, ho, -, hpath, -, hnested⟩ := wrapping_faithful.2.2 numbered
  cases ho
  have hplaces : Nested (.obj numbered) [.key "", .key "0", .position 1, .key "a"] .null :=
    .entry rfl (.entry rfl (.item rfl (.entry rfl (.here .null))))
  have hundivided : Place.Undivided [.key "", .key "0", .position 1, .key "a"] := by
    intro name hname
    simp only [List.mem_cons, Place.key.injEq, List.not_mem_nil, reduceCtorEq, or_false,
      false_or] at hname
    rcases hname with rfl | rfl | rfl <;> decide
  have hwritten : Place.path [.key "", .key "0", .position 1, .key "a"] = ".0.1.a" := by decide
  have hindex : Text.IsIndex ['+', '0', '1'] 1 :=
    ⟨by decide, ['0', '1'], .inr rfl, by decide, List.all_eq_true.mp rfl, by decide⟩
  have hcut : ".0.+01.a".toList.splitOn '.' =
      ["".toList, "0".toList, ['+', '0', '1'], "a".toList] := by
    decide +kernel
  refine ⟨hplaces, ?_, (hpath _ _).mpr ⟨.null, ?_, rfl⟩⟩
  · rw [← hwritten]
    exact hnested _ _ hplaces (List.cons_ne_nil _ _) hundivided
  · rw [hcut]
    exact .down (.entry rfl) (.down (.entry rfl) (.down (.item hindex rfl)
      (.down (.entry rfl) (.here .null))))

end MappedObject
end CloudClient
