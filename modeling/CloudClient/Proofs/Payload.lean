import CloudClient.Payload
import CloudClient.Proofs.Lookup

/-!
# Payloads and their schemas

A schema lists the fields that a payload declares: what each of them takes and what an object stands
for that does not have it. Reading and writing of a field are given as a codec, and of a payload as
one codec after another. So a payload is refused exactly for a faulty field, what is read is written
with each entry as it was, and what is written reads back.
-/

namespace CloudClient

/-! ## Entries of an object -/

namespace Dict
variable {α : Type} {d : Dict α} {key : String} {value : α}

theorem get?_foldl_insert {entries : List (String × α)} (h : ∀ entry ∈ entries, entry.1 ≠ key)
    (d : Dict α) :
    get? (entries.foldl (fun d entry => insert d entry.1 entry.2) d) key = get? d key := by
  induction entries generalizing d with
  | nil => rfl
  | cons entry rest ih =>
    obtain ⟨hentry, hrest⟩ := List.forall_mem_cons.mp h
    rw [List.foldl_cons, ih hrest, get?_insert_of_ne _ _ (Ne.symm hentry)]

theorem get?_ofList_eq_none {entries : List (String × α)}
    (h : ∀ entry ∈ entries, entry.1 ≠ key) : get? (ofList entries) key = none :=
  get?_foldl_insert h []

end Dict

theorem Json.fieldSlots?_eq {α : Type} {fields : Dict α} (hkeys : (Dict.keys fields).Nodup)
    (names : List String) : fieldSlots? names fields = some (names.map (Dict.get? fields)) := by
  induction names with
  | nil => rfl
  | cons name rest ih =>
    unfold fieldSlots? at ih ⊢
    rw [List.mapM_cons, ih, Dict.filter_key hkeys, List.map_cons]
    cases Dict.get? fields name <;> rfl

namespace Payload

/-! ## Schemas -/

/-- What an object stands for that does not have a field. -/
inductive Absence
  | refused
  | filled (v : Json)
  | kept

def Absence.value? : Absence → Option Json
  | .filled v => some v
  | _ => none

structure Field where
  key : String
  Takes : Json → Prop
  absence : Absence

abbrev Schema := List Field

namespace Field

/-- A required field that is missing, or a field with a value that it does not take. -/
def Faulty (d : Field) : Option Json → Prop
  | none => d.absence = .refused
  | some v => ¬ d.Takes v

def written (d : Field) (found? : Option Json) : Option Json := found?.or d.absence.value?

end Field

def IsWord (bound : Nat) (v : Json) : Prop := ∃ n : Nat, n < bound ∧ v = .nat n
def IsText (v : Json) : Prop := ∃ s, v = .str s
def IsTruth (v : Json) : Prop := ∃ b, v = .bool b
def OrNull (Takes : Json → Prop) (v : Json) : Prop := v = .null ∨ Takes v

/-! ## Values -/

structure Values {α : Type} (Takes : Json → Prop) (value? : Json → Option α) (write : α → Json) :
    Prop where
  reads : ∀ {v a}, value? v = some a ↔ v = write a
  takes : ∀ {v}, Takes v ↔ ∃ a, v = write a

theorem asNatBelow?_eq_some {bound n : Nat} {v : Json} :
    v.asNatBelow? bound = some n ↔ n < bound ∧ v = .nat n := by
  unfold Json.asNatBelow? Json.nat
  cases v with
  | num number =>
    cases number with
    | int m =>
      simp only [Json.asInt?, Option.ite_none_right_eq_some, Option.some_inj, Json.num.injEq,
        Number.int.injEq]
      omega
    | float x => simp [Json.asInt?]
  | _ => simp [Json.asInt?]

theorem wordValues {α : Type} {bound : Nat} {toNat : α → Nat} {ofNat : Nat → α}
    (hbound : ∀ a, toNat a < bound) (hto : ∀ n, n < bound → toNat (ofNat n) = n)
    (hof : ∀ a, ofNat (toNat a) = a) :
    Values (IsWord bound) (fun v => (v.asNatBelow? bound).map ofNat) (fun a => .nat (toNat a)) where
  reads {v a} := by
    simp only [Option.map_eq_some_iff, asNatBelow?_eq_some]
    constructor
    · rintro ⟨n, ⟨hn, rfl⟩, rfl⟩
      rw [hto n hn]
    · rintro rfl
      exact ⟨toNat a, ⟨hbound a, rfl⟩, hof a⟩
  takes {v} := by
    constructor
    · rintro ⟨n, hn, rfl⟩
      exact ⟨ofNat n, by rw [hto n hn]⟩
    · rintro ⟨a, rfl⟩
      exact ⟨toNat a, hbound a, rfl⟩

theorem uint32Values : Values (IsWord UInt32.size) Json.asUInt32? Json.ofUInt32 :=
  wordValues UInt32.toNat_lt (fun _ => UInt32.toNat_ofNat_of_lt') fun _ => UInt32.ofNat_toNat

theorem uint64Values : Values (IsWord UInt64.size) Json.asUInt64? Json.ofUInt64 :=
  wordValues UInt64.toNat_lt (fun _ => UInt64.toNat_ofNat_of_lt') fun _ => UInt64.ofNat_toNat

theorem textValues : Values IsText Json.asStr? Json.str where
  reads {v a} := by cases v <;> simp [Json.asStr?]
  takes := Iff.rfl

/-! ## Fields -/

structure Codec {α : Type} (d : Field) (read : Option Json → Option α) (write : α → Option Json) :
    Prop where
  reads : ∀ {found? a}, read found? = some a ↔ d.written found? = write a
  faulty : ∀ {found?}, d.Faulty found? ↔ ∀ a, d.written found? ≠ write a
  fixed : ∀ a, d.written (write a) = write a

section Codecs
variable {α : Type} {Takes : Json → Prop} {value? : Json → Option α} {write : α → Json}

theorem Values.takes_iff (h : Values Takes value? write) {v : Json} (other : Option Json) :
    ¬ Takes v ↔ ∀ a, (some v).or other ≠ some (write a) := by
  simp [h.takes]

theorem Codec.required (h : Values Takes value? write) (key : String) :
    Codec ⟨key, Takes, .refused⟩ (fun found? => found?.bind value?) (fun a => some (write a)) where
  reads {found? a} := by
    cases found? <;> simp [Field.written, Absence.value?, h.reads]
  faulty {found?} := by
    cases found? with
    | none => simp [Field.Faulty, Field.written, Absence.value?]
    | some v => exact h.takes_iff _
  fixed a := rfl

theorem Codec.filled (h : Values Takes value? write) (key : String) (default : α) :
    Codec ⟨key, Takes, .filled (write default)⟩ (Json.readOr default value?)
      (fun a => some (write a)) where
  reads {found? a} := by
    have hinjective : write default = write a ↔ default = a := by
      rw [← h.reads, h.reads.mpr rfl, Option.some_inj]
    cases found? <;> simp [Field.written, Absence.value?, Json.readOr, h.reads, hinjective]
  faulty {found?} := by
    cases found? with
    | none => exact ⟨nofun, fun hnone => absurd rfl (hnone default)⟩
    | some v => exact h.takes_iff _
  fixed a := rfl

def nullableEntry (write : α → Json) : Nullable α → Option Json
  | .omitted => none
  | .null => some .null
  | .value a => some (write a)

theorem Codec.nullable (h : Values Takes value? write) (hnull : ¬ Takes .null) (key : String) :
    Codec ⟨key, OrNull Takes, .kept⟩ (Nullable.read? value?) (nullableEntry write) where
  reads {found? a} := by
    -- no value is written as null, so null and values stay apart
    have hwrite : ∀ a, Json.null ≠ write a := fun a heq => hnull (h.takes.mpr ⟨a, heq⟩)
    cases found? with
    | none => cases a <;> simp [Field.written, Absence.value?, Nullable.read?, nullableEntry]
    | some v =>
      by_cases hv : v = .null
      · subst hv
        cases a <;> simp [Field.written, Nullable.read?, nullableEntry, hwrite]
      · have hread : Nullable.read? value? (some v) = (value? v).map .value := by
          cases v <;> first | exact absurd rfl hv | rfl
        cases a <;> simp [Field.written, hread, nullableEntry, h.reads, hv]
  faulty {found?} := by
    cases found? with
    | none => exact ⟨nofun, fun hnone => absurd rfl (hnone .omitted)⟩
    | some v =>
      simp only [Field.Faulty, OrNull, not_or, h.takes_iff none, Field.written]
      constructor
      · intro hv a
        cases a with
        | omitted => simp [nullableEntry]
        | null => simpa [nullableEntry] using hv.1
        | value a => exact hv.2 a
      · intro hv
        exact ⟨fun heq => hv .null (heq ▸ rfl), fun a => hv (.value a)⟩
  fixed a := by cases a <;> rfl

def optionalTruth : Option Bool → Json
  | none => .null
  | some b => .bool b

theorem Codec.optional (key : String) :
    Codec ⟨key, OrNull IsTruth, .filled .null⟩ ConfigInterface.readPrimary?
      (fun a => some (optionalTruth a)) where
  reads {found? a} := by
    cases found? with
    | none =>
      cases a <;>
        simp [Field.written, Absence.value?, ConfigInterface.readPrimary?, optionalTruth]
    | some v =>
      cases a <;> cases v <;>
        simp [Field.written, ConfigInterface.readPrimary?, optionalTruth, Json.asBool?]
  faulty {found?} := by
    cases found? with
    | none => exact ⟨nofun, fun hnone => absurd rfl (hnone none)⟩
    | some v =>
      cases v <;>
        simp [Field.Faulty, OrNull, IsTruth, Field.written, Option.forall, optionalTruth]
  fixed a := rfl

end Codecs

/-! ## Field by field -/

def Schema.written (schema : Schema) (look : String → Option Json) : List (Option Json) :=
  schema.map fun d => d.written (look d.key)

theorem Schema.written_cons (d : Field) (schema : Schema) (look : String → Option Json) :
    Schema.written (d :: schema) look = d.written (look d.key) :: schema.written look := rfl

def Schema.entries : Schema → List (Option Json) → List (String × Json)
  | d :: schema, some v :: entries => (d.key, v) :: Schema.entries schema entries
  | _ :: schema, none :: entries => Schema.entries schema entries
  | _, _ => []

theorem Schema.entries_nullable {α : Type} (d : Field) (schema : Schema) (write : α → Json)
    (x : Nullable α) (values : List (Option Json)) :
    Schema.entries (d :: schema) (nullableEntry write x :: values) =
      x.entry d.key write ++ Schema.entries schema values := by
  cases x <;> rfl

structure Codecs {α : Type} (schema : Schema) (read : (String → Option Json) → Option α)
    (write : α → List (Option Json)) : Prop where
  reads : ∀ {look x}, read look = some x ↔ schema.written look = write x
  faulty : ∀ {look}, (∃ d ∈ schema, d.Faulty (look d.key)) ↔ ∀ x, schema.written look ≠ write x
  length : ∀ x, (write x).length = schema.length
  fixed : ∀ x, List.zipWith Field.written schema (write x) = write x

section Schemas
variable {α β : Type} {d : Field} {schema : Schema} {read₁ : Option Json → Option α}
  {write₁ : α → Option Json} {read : (String → Option Json) → Option β}
  {write : β → List (Option Json)}

theorem Codecs.nil : Codecs [] (fun _ => some ()) (fun _ => []) where
  reads := by simp [Schema.written]
  faulty := by simp [Schema.written]
  length _ := rfl
  fixed _ := rfl

theorem Codecs.cons (h : Codec d read₁ write₁) (hrest : Codecs schema read write) :
    Codecs (d :: schema)
      (fun look => (read₁ (look d.key)).bind fun a => (read look).map fun b => (a, b))
      (fun x => write₁ x.1 :: write x.2) where
  reads {look x} := by
    rw [Schema.written_cons, List.cons.injEq, ← h.reads, ← hrest.reads]
    simp only [Option.bind_eq_some_iff, Option.map_eq_some_iff]
    constructor
    · rintro ⟨a, ha, b, hb, rfl⟩
      exact ⟨ha, hb⟩
    · rintro ⟨ha, hb⟩
      exact ⟨_, ha, _, hb, rfl⟩
  faulty {look} := by
    simp only [List.mem_cons, exists_eq_or_imp, Schema.written_cons, h.faulty, hrest.faulty, ne_eq,
      List.cons.injEq, Prod.forall, not_and]
    constructor
    · rintro (hfirst | hothers) a b ha
      · exact absurd ha (hfirst a)
      · exact hothers b
    · intro hall
      -- a fault of the others shows only where the first field has a value to go with
      by_cases hfirst : ∃ a, d.written (look d.key) = write₁ a
      · obtain ⟨a, ha⟩ := hfirst
        exact .inr fun b => hall a b ha
      · exact .inl fun a ha => hfirst ⟨a, ha⟩
  length x := congrArg (· + 1) (hrest.length x.2)
  fixed x := by rw [List.zipWith_cons_cons, h.fixed, hrest.fixed]

theorem Codecs.gather {γ : Type} (h : Codecs schema read write) (gather : β → γ) (spread : γ → β)
    (hgather : ∀ x, gather (spread x) = x) (hspread : ∀ b, spread (gather b) = b) :
    Codecs schema (fun look => (read look).map gather) (fun x => write (spread x)) where
  reads {look x} := by
    rw [← h.reads, Option.map_eq_some_iff]
    constructor
    · rintro ⟨b, hb, rfl⟩
      rw [hspread]
      exact hb
    · intro hb
      exact ⟨_, hb, hgather x⟩
  faulty {look} := by
    rw [h.faulty]
    refine ⟨fun hnone x => hnone (spread x), fun hnone b => ?_⟩
    rw [← hspread b]
    exact hnone (gather b)
  length x := h.length (spread x)
  fixed x := h.fixed (spread x)

end Schemas

/-! ## Whole payloads -/

/-- Reading and writing of a payload keep to its schema. What is written reads back. An object is
refused exactly for a faulty field, and one that is read is written with each declared entry as it
was, or as its absence is written, and with no other. -/
structure Faithful {α : Type} (schema : Schema) (read? : Json → Option α) (write : α → Json) :
    Prop where
  read_write : ∀ x, read? (write x) = some x
  refuses : ∀ fields, (Dict.keys fields).Nodup →
    (read? (.obj fields) = none ↔ ∃ d ∈ schema, d.Faulty (Dict.get? fields d.key))
  rewrites : ∀ fields x, (Dict.keys fields).Nodup → read? (.obj fields) = some x →
    ∃ entries, write x = .obj entries ∧ Dict.Sorted entries ∧
      (∀ d ∈ schema, Dict.get? entries d.key = d.written (Dict.get? fields d.key)) ∧
      ∀ key, (∀ d ∈ schema, d.key ≠ key) → Dict.get? entries key = none

theorem Schema.key_of_mem_entries {schema : Schema} {values : List (Option Json)}
    {entry : String × Json} (h : entry ∈ Schema.entries schema values) :
    ∃ d ∈ schema, d.key = entry.1 := by
  induction schema generalizing values with
  | nil => simp [Schema.entries] at h
  | cons d schema ih =>
    cases values with
    | nil => simp [Schema.entries] at h
    | cons value? values =>
      cases value? with
      | none =>
        obtain ⟨d', hd', hkey⟩ := ih h
        exact ⟨d', List.mem_cons_of_mem _ hd', hkey⟩
      | some v =>
        rcases List.mem_cons.mp h with rfl | h
        · exact ⟨d, List.mem_cons_self, rfl⟩
        · obtain ⟨d', hd', hkey⟩ := ih h
          exact ⟨d', List.mem_cons_of_mem _ hd', hkey⟩

theorem Schema.get?_foldl_entries {schema : Schema} (hkeys : (schema.map Field.key).Nodup)
    {values : List (Option Json)} (hlength : values.length = schema.length) (front : Dict Json)
    (hfront : ∀ d ∈ schema, Dict.get? front d.key = none) :
    schema.map (fun d => Dict.get? ((Schema.entries schema values).foldl
      (fun d entry => Dict.insert d entry.1 entry.2) front) d.key) = values := by
  induction schema generalizing values front with
  | nil => exact (List.eq_nil_of_length_eq_zero hlength).symm
  | cons d schema ih =>
    obtain ⟨hkey, hrest⟩ := List.nodup_cons.mp hkeys
    obtain ⟨hd, hschema⟩ := List.forall_mem_cons.mp hfront
    have hne : ∀ d' ∈ schema, d'.key ≠ d.key := fun d' hd' heq =>
      hkey (List.mem_map.mpr ⟨d', hd', heq⟩)
    -- the entries that are inserted later leave the first field alone
    have hothers : ∀ values, ∀ entry ∈ Schema.entries schema values, entry.1 ≠ d.key := by
      intro values entry he
      obtain ⟨d', hd', hkey'⟩ := key_of_mem_entries he
      exact hkey' ▸ hne d' hd'
    cases values with
    | nil => cases hlength
    | cons value? values =>
      have hlength' : values.length = schema.length := Nat.succ.inj hlength
      rw [List.map_cons]
      cases value? with
      | none =>
        exact List.cons_eq_cons.mpr ⟨(Dict.get?_foldl_insert (hothers values) front).trans hd,
          ih hrest hlength' front hschema⟩
      | some v =>
        have hinserted : ∀ d' ∈ schema, Dict.get? (Dict.insert front d.key v) d'.key = none := by
          intro d' hd'
          rw [Dict.get?_insert_of_ne _ _ (hne d' hd')]
          exact hschema d' hd'
        exact List.cons_eq_cons.mpr ⟨(Dict.get?_foldl_insert (hothers values) _).trans
          (Dict.get?_insert_self _ _ _), ih hrest hlength' _ hinserted⟩

theorem Faithful.of_codecs {α : Type} {schema : Schema} {read? : Json → Option α}
    {write : α → Json} {read : (String → Option Json) → Option α} {values : α → List (Option Json)}
    (hkeys : (schema.map Field.key).Nodup) (h : Codecs schema read values)
    (hread : ∀ fields, (Dict.keys fields).Nodup → read? (.obj fields) = read (Dict.get? fields))
    (hwrite : ∀ x, write x = .ofEntries (Schema.entries schema (values x))) :
    Faithful schema read? write := by
  have hentry : ∀ x, schema.map (fun d =>
      Dict.get? (Dict.ofList (Schema.entries schema (values x))) d.key) = values x := fun x =>
    Schema.get?_foldl_entries hkeys (h.length x) [] fun _ _ => rfl
  refine ⟨fun x => ?_, fun fields hfields => ?_, fun fields x hfields hx => ?_⟩
  · rw [hwrite, Json.ofEntries, hread _ (Dict.Sorted.ofList _).keys_nodup, h.reads]
    calc
      Schema.written schema (Dict.get? (Dict.ofList (Schema.entries schema (values x))))
        = List.zipWith Field.written schema (schema.map fun d =>
            Dict.get? (Dict.ofList (Schema.entries schema (values x))) d.key) := by
          rw [Schema.written, List.zipWith_map_right, List.zipWith_self]
      _ = values x := by rw [hentry, h.fixed]
  · rw [hread fields hfields, h.faulty, Option.eq_none_iff_forall_ne_some]
    simp only [ne_eq, h.reads]
  · rw [hread fields hfields, h.reads, ← hentry x, Schema.written, List.map_inj_left] at hx
    refine ⟨_, hwrite x, .ofList _, fun d hd => (hx d hd).symm, fun key hkey => ?_⟩
    refine Dict.get?_ofList_eq_none fun entry he heq => ?_
    obtain ⟨d, hd, hd'⟩ := Schema.key_of_mem_entries he
    exact hkey d hd (hd'.trans heq)

end Payload

/-! ## The three payloads -/

open Payload

namespace InstanceSpecs

def schema : Schema :=
  [⟨"disk", IsWord UInt64.size, .refused⟩, ⟨"memory", IsWord UInt64.size, .refused⟩,
   ⟨"vcpus", IsWord UInt32.size, .refused⟩, ⟨"transfer", IsWord UInt64.size, .filled (.nat 0)⟩,
   ⟨"gpus", IsWord UInt32.size, .filled (.nat 0)⟩]

def parts (s : InstanceSpecs) : UInt64 × UInt64 × UInt32 × UInt64 × UInt32 × Unit :=
  (s.disk, s.memory, s.vcpus, s.transfer, s.gpus, ())

def ofParts : UInt64 × UInt64 × UInt32 × UInt64 × UInt32 × Unit → InstanceSpecs
  | (disk, memory, vcpus, transfer, gpus, ()) => { disk, memory, vcpus, transfer, gpus }

theorem faithful : Faithful schema read? toJson := by
  have h := Codecs.gather (.cons (.required uint64Values "disk") <|
    .cons (.required uint64Values "memory") <| .cons (.required uint32Values "vcpus") <|
    .cons (.filled uint64Values "transfer" 0) <| .cons (.filled uint32Values "gpus" 0) .nil)
    ofParts parts (fun _ => rfl) fun _ => rfl
  refine .of_codecs (by decide) h (fun fields hfields => ?_) fun _ => rfl
  simp only [read?, Json.slots?, Json.fieldSlots?_eq hfields, names, List.map_cons, List.map_nil]
  -- a required entry that is missing ends the reading before the others are looked at
  cases Dict.get? fields "disk" with
  | none => rfl
  | some disk =>
    cases Dict.get? fields "memory" with
    | none => simp
    | some memory =>
      cases Dict.get? fields "vcpus" with
      | none => simp
      | some vcpus => simp [Option.map_bind, Function.comp_def, ofParts]

end InstanceSpecs

namespace InstanceAlerts

def schema : Schema :=
  ["cpu", "io", "network_in", "network_out", "transfer_quota"].map fun key =>
    ⟨key, OrNull (IsWord UInt32.size), .kept⟩

abbrev Parts :=
  Nullable UInt32 × Nullable UInt32 × Nullable UInt32 × Nullable UInt32 × Nullable UInt32 × Unit

def parts (a : InstanceAlerts) : Parts :=
  (a.cpu, a.io, a.networkIn, a.networkOut, a.transferQuota, ())

def ofParts : Parts → InstanceAlerts
  | (cpu, io, networkIn, networkOut, transferQuota, ()) =>
    { cpu, io, networkIn, networkOut, transferQuota }

theorem faithful : Faithful schema read? toJson := by
  have hfield := Codec.nullable uint32Values (by simp [IsWord, Json.nat])
  have h := Codecs.gather (.cons (hfield "cpu") <| .cons (hfield "io") <|
    .cons (hfield "network_in") <| .cons (hfield "network_out") <|
    .cons (hfield "transfer_quota") .nil) ofParts parts (fun _ => rfl) fun _ => rfl
  refine .of_codecs (by decide) h (fun fields hfields => ?_) fun a => ?_
  · simp only [read?, Json.slots?, Json.fieldSlots?_eq hfields, names, List.map_cons,
      List.map_nil]
    simp [Option.map_bind, Function.comp_def, ofParts]
  · simp only [toJson, schema, parts, List.map_cons, List.map_nil, Schema.entries_nullable,
      Schema.entries, List.append_nil, List.append_assoc]

end InstanceAlerts

namespace ConfigInterface

def schema : Schema :=
  [⟨"purpose", IsText, .refused⟩, ⟨"label", OrNull IsText, .kept⟩,
   ⟨"ipam_address", OrNull IsText, .kept⟩, ⟨"primary", OrNull IsTruth, .filled .null⟩]

def parts (i : ConfigInterface) : String × Nullable String × Nullable String × Option Bool × Unit :=
  (i.purpose, i.label, i.ipamAddress, i.primary, ())

def ofParts : String × Nullable String × Nullable String × Option Bool × Unit → ConfigInterface
  | (purpose, label, ipamAddress, primary, ()) => { purpose, label, ipamAddress, primary }

theorem faithful : Faithful schema read? toJson := by
  have hfield := Codec.nullable textValues (by simp [IsText])
  have h := Codecs.gather (.cons (.required textValues "purpose") <| .cons (hfield "label") <|
    .cons (hfield "ipam_address") <| .cons (.optional "primary") .nil)
    ofParts parts (fun _ => rfl) fun _ => rfl
  refine .of_codecs (by decide) h (fun fields hfields => ?_) fun a => ?_
  · simp only [read?, Json.slots?, Json.fieldSlots?_eq hfields, names, List.map_cons,
      List.map_nil]
    cases Dict.get? fields "purpose" with
    | none => rfl
    | some purpose => simp [Option.map_bind, Function.comp_def, ofParts]
  · simp only [toJson, schema, parts, Schema.entries_nullable, Schema.entries,
      List.cons_append, List.nil_append, List.append_assoc]
    rfl

end ConfigInterface

/-- Omitted, null and value are kept apart by each of the three, and defaults are filled in. -/
theorem Payload.keeps_every_state :
    Faithful InstanceSpecs.schema InstanceSpecs.read? InstanceSpecs.toJson ∧
      Faithful InstanceAlerts.schema InstanceAlerts.read? InstanceAlerts.toJson ∧
      Faithful ConfigInterface.schema ConfigInterface.read? ConfigInterface.toJson :=
  ⟨InstanceSpecs.faithful, InstanceAlerts.faithful, ConfigInterface.faithful⟩

theorem Payload.keeps_every_state_of_alerts :
    (Dict.keys [("color", Json.str "red"), ("cpu", .null), ("io", .nat 5)]).Nodup ∧
    (∃ x entries,
      InstanceAlerts.read? (.obj [("color", .str "red"), ("cpu", .null), ("io", .nat 5)]) = some x ∧
      x.toJson = .obj entries ∧ Dict.get? entries "cpu" = some .null ∧
      Dict.get? entries "io" = some (.nat 5) ∧ Dict.get? entries "network_in" = none ∧
      Dict.get? entries "color" = none) ∧
    InstanceAlerts.read? (.obj [("cpu", .nat 4294967296)]) = none := by
  have hkeys : (Dict.keys [("color", Json.str "red"), ("cpu", .null), ("io", .nat 5)]).Nodup := by
    decide
  have hread : InstanceAlerts.read? (.obj [("color", .str "red"), ("cpu", .null), ("io", .nat 5)]) =
      some { cpu := .null, io := .value 5 } := by rfl
  obtain ⟨-, alerts, -⟩ := Payload.keeps_every_state
  refine ⟨hkeys, ?_, ?_⟩
  · obtain ⟨entries, hwrite, -, hdeclared, hothers⟩ := alerts.rewrites _ _ hkeys hread
    have hcpu := hdeclared ⟨"cpu", _, _⟩ List.mem_cons_self
    have hio := hdeclared ⟨"io", _, _⟩ (.tail _ List.mem_cons_self)
    have hnetwork := hdeclared ⟨"network_in", _, _⟩ (.tail _ (.tail _ List.mem_cons_self))
    exact ⟨_, entries, hread, hwrite, hcpu, hio, hnetwork,
      hothers "color" (by simp [InstanceAlerts.schema])⟩
  · refine (alerts.refuses _ (by decide)).mpr ⟨_, List.mem_cons_self, ?_⟩
    rintro (hnull | ⟨n, hn, hword⟩)
    · cases hnull
    · simp only [Json.nat, Json.num.injEq, Number.int.injEq] at hword
      have hsize : UInt32.size = 4294967296 := rfl
      omega

end CloudClient
