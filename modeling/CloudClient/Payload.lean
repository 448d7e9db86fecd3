import CloudClient.Json

/-!
# Typed payloads

Three documented payload shapes. A field of the kind `Nullable` is left out, sent as null, or sent
as a value; reading keeps the three apart. Unknown keys are passed over on reading and never
written. A payload may also be given as an array, its fields in declaration order.
-/

namespace CloudClient

inductive Nullable (α : Type)
  | omitted
  | null
  | value (v : α)
deriving DecidableEq, Repr

namespace Nullable
variable {α : Type}

def toOption : Nullable α → Option α
  | .value v => some v
  | _ => none

def entry (key : String) (write : α → Json) : Nullable α → List (String × Json)
  | .omitted => []
  | .null => [(key, .null)]
  | .value v => [(key, write v)]

/-- An absent entry is omitted; a present one is null or must read as a value. -/
def read? (value? : Json → Option α) : Option Json → Option (Nullable α)
  | none => some .omitted
  | some .null => some .null
  | some v => (value? v).map .value

end Nullable

def Json.asUInt32? (v : Json) : Option UInt32 := (v.asNatBelow? UInt32.size).map UInt32.ofNat
def Json.asUInt64? (v : Json) : Option UInt64 := (v.asNatBelow? UInt64.size).map UInt64.ofNat
def Json.ofUInt32 (n : UInt32) : Json := .nat n.toNat
def Json.ofUInt64 (n : UInt64) : Json := .nat n.toNat

structure InstanceSpecs where
  disk : UInt64
  memory : UInt64
  vcpus : UInt32
  transfer : UInt64 := 0
  gpus : UInt32 := 0
deriving DecidableEq, Repr

namespace InstanceSpecs

def names : List String := ["disk", "memory", "vcpus", "transfer", "gpus"]

def read? (v : Json) : Option InstanceSpecs := do
  match ← v.slots? names with
  | [some disk, some memory, some vcpus, transfer, gpus] =>
    some {
      disk := ← disk.asUInt64?
      memory := ← memory.asUInt64?
      vcpus := ← vcpus.asUInt32?
      transfer := ← Json.readOr 0 Json.asUInt64? transfer
      gpus := ← Json.readOr 0 Json.asUInt32? gpus }
  | _ => none

def toJson (s : InstanceSpecs) : Json := .ofEntries
  [("disk", .ofUInt64 s.disk), ("memory", .ofUInt64 s.memory), ("vcpus", .ofUInt32 s.vcpus),
   ("transfer", .ofUInt64 s.transfer), ("gpus", .ofUInt32 s.gpus)]

end InstanceSpecs

/-- Alert thresholds; those left out are not sent. -/
structure InstanceAlerts where
  cpu : Nullable UInt32 := .omitted
  io : Nullable UInt32 := .omitted
  networkIn : Nullable UInt32 := .omitted
  networkOut : Nullable UInt32 := .omitted
  transferQuota : Nullable UInt32 := .omitted
deriving DecidableEq, Repr

namespace InstanceAlerts

def names : List String := ["cpu", "io", "network_in", "network_out", "transfer_quota"]

def read? (v : Json) : Option InstanceAlerts := do
  match ← v.slots? names with
  | [cpu, io, networkIn, networkOut, transferQuota] =>
    some {
      cpu := ← Nullable.read? Json.asUInt32? cpu
      io := ← Nullable.read? Json.asUInt32? io
      networkIn := ← Nullable.read? Json.asUInt32? networkIn
      networkOut := ← Nullable.read? Json.asUInt32? networkOut
      transferQuota := ← Nullable.read? Json.asUInt32? transferQuota }
  | _ => none

def toJson (a : InstanceAlerts) : Json := .ofEntries
  (a.cpu.entry "cpu" .ofUInt32 ++ a.io.entry "io" .ofUInt32 ++
   a.networkIn.entry "network_in" .ofUInt32 ++ a.networkOut.entry "network_out" .ofUInt32 ++
   a.transferQuota.entry "transfer_quota" .ofUInt32)

end InstanceAlerts

/-- A network interface of a configuration profile; `primary` is always sent. -/
structure ConfigInterface where
  purpose : String
  label : Nullable String := .omitted
  ipamAddress : Nullable String := .omitted
  primary : Option Bool := none
deriving DecidableEq, Repr

namespace ConfigInterface

def names : List String := ["purpose", "label", "ipam_address", "primary"]

def readPrimary? : Option Json → Option (Option Bool)
  | none => some none
  | some .null => some none
  | some v => v.asBool?.map some

def read? (v : Json) : Option ConfigInterface := do
  match ← v.slots? names with
  | [some purpose, label, ipamAddress, primary] =>
    some {
      purpose := ← purpose.asStr?
      label := ← Nullable.read? Json.asStr? label
      ipamAddress := ← Nullable.read? Json.asStr? ipamAddress
      primary := ← readPrimary? primary }
  | _ => none

def toJson (i : ConfigInterface) : Json := .ofEntries
  ([("purpose", .str i.purpose)] ++ i.label.entry "label" .str ++
   i.ipamAddress.entry "ipam_address" .str ++
   [("primary", match i.primary with | none => .null | some b => .bool b)])

def openInterface : ConfigInterface := { purpose := "public" }

def vlan (label : String) (address : Option String) : ConfigInterface :=
  { purpose := "vlan"
    label := .value label
    ipamAddress := match address with | none => .null | some a => .value a }

end ConfigInterface
end CloudClient
