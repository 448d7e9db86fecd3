import CloudClient.Registry

/-!
# The built-in definitions

The resource types that are known without further documents, grouped by the part of the service
they belong to.
-/

namespace CloudClient.Builtin

def plain : PropertyDocument := {}
def identifier : PropertyDocument := { identifier := true }
def editable (p : PropertyDocument) : PropertyDocument := { p with mutable := true }
def searchable (p : PropertyDocument) : PropertyDocument := { p with filterable := true }
def timestamp (p : PropertyDocument) : PropertyDocument := { p with datetime := true }
def clearable (p : PropertyDocument) : PropertyDocument := { p with nullable := true }
def volatile : PropertyDocument := { volatile := true }
def slugOf (target : String) : PropertyDocument := { slugRelationship := some target }
def idOf (target : String) : PropertyDocument := { idRelationship := some target }
def childrenOf (target : String) : PropertyDocument := { derivedClass := some target }

def slot (name : String) : String := String.ofList (placeholder name)

def path (segments : List String) : String := String.join (segments.map ("/" ++ ·))

def compute : Document where
  resources := [
    ("configs", {
      displayName := "Config"
      endpoint := path ["instances", slot "linode_id", "configs", slot "id"]
      parentIds := ["linode_id"]
      properties := [
        ("comments", editable plain), ("created", timestamp plain), ("devices", editable plain),
        ("helpers", editable plain), ("id", searchable identifier),
        ("interfaces", editable plain), ("kernel", editable plain),
        ("label", searchable (editable plain)), ("memory_limit", editable plain),
        ("root_device", editable plain), ("run_level", editable plain),
        ("updated", timestamp plain), ("virt_mode", editable plain)] }),
    ("disks", {
      displayName := "Disk"
      endpoint := path ["instances", slot "linode_id", "disks", slot "id"]
      parentIds := ["linode_id"]
      properties := [
        ("created", timestamp plain), ("disk_encryption", plain), ("filesystem", plain),
        ("id", searchable identifier), ("label", searchable (editable plain)),
        ("size", searchable plain), ("status", volatile), ("updated", timestamp plain)] }),
    ("images", {
      displayName := "Image"
      endpoint := path ["images", slot "id"]
      properties := [
        ("created", timestamp plain), ("created_by", searchable plain),
        ("deprecated", searchable plain), ("description", searchable (editable plain)),
        ("expiry", timestamp plain), ("id", identifier), ("is_public", searchable plain),
        ("label", searchable (editable plain)), ("size", searchable plain), ("status", volatile),
        ("tags", searchable (editable plain)), ("type", plain), ("vendor", searchable plain)] }),
    ("instances", {
      displayName := "Instance"
      endpoint := path ["instances", slot "id"]
      properties := [
        ("alerts", editable plain), ("configs", childrenOf "configs"),
        ("created", timestamp plain), ("disks", childrenOf "disks"),
        ("group", searchable (editable plain)), ("host_uuid", plain), ("hypervisor", plain),
        ("id", searchable identifier), ("image", slugOf "images"), ("ipv4", searchable plain),
        ("ipv6", plain), ("label", searchable (editable plain)),
        ("region", searchable (slugOf "regions")), ("specs", plain), ("status", volatile),
        ("tags", searchable (editable plain)), ("type", slugOf "types"),
        ("updated", timestamp volatile), ("watchdog_enabled", editable plain)] }),
    ("regions", {
      displayName := "Region"
      endpoint := path ["regions", slot "id"]
      properties := [
        ("capabilities", plain), ("country", searchable plain), ("id", identifier),
        ("label", searchable plain), ("resolvers", plain), ("site_type", searchable plain),
        ("status", plain)] }),
    ("types", {
      displayName := "Type"
      endpoint := path ["instances", "types", slot "id"]
      properties := [
        ("addons", plain), ("class", searchable plain), ("disk", searchable plain),
        ("gpus", searchable plain), ("id", identifier), ("label", searchable plain),
        ("memory", searchable plain), ("network_out", searchable plain), ("price", plain),
        ("successor", plain), ("transfer", searchable plain), ("vcpus", searchable plain)] })]

def storage : Document where
  resources := [
    ("volumes", {
      displayName := "Volume"
      endpoint := path ["volumes", slot "id"]
      properties := [
        ("created", timestamp plain), ("filesystem_path", plain), ("hardware_type", plain),
        ("id", searchable identifier), ("label", searchable (editable plain)),
        ("linode_id", idOf "instances"), ("linode_label", plain), ("region", slugOf "regions"),
        ("size", searchable plain), ("status", searchable volatile),
        ("tags", searchable (editable plain)), ("updated", timestamp volatile)] })]

def networking : Document where
  resources := [
    ("firewalls", {
      displayName := "Firewall"
      endpoint := path ["networking", "firewalls", slot "id"]
      properties := [
        ("created", timestamp plain), ("id", searchable identifier),
        ("label", searchable (editable plain)), ("rules", plain), ("status", editable plain),
        ("tags", searchable (editable plain)), ("updated", timestamp plain)] }),
    ("nodebalancer_configs", {
      displayName := "NodeBalancerConfig"
      endpoint := path ["nodebalancers", slot "nodebalancer_id", "configs", slot "id"]
      parentIds := ["nodebalancer_id"]
      properties := [
        ("algorithm", editable plain), ("check", editable plain),
        ("check_attempts", editable plain), ("check_body", clearable (editable plain)),
        ("check_interval", editable plain), ("check_passive", editable plain),
        ("check_path", clearable (editable plain)), ("check_timeout", editable plain),
        ("cipher_suite", editable plain), ("id", identifier),
        ("nodes", childrenOf "nodebalancer_nodes"), ("nodes_status", volatile),
        ("port", editable plain), ("protocol", editable plain), ("ssl_commonname", plain),
        ("ssl_fingerprint", plain), ("stickiness", editable plain)] }),
    ("nodebalancer_nodes", {
      displayName := "NodeBalancerNode"
      endpoint := path ["nodebalancers", slot "nodebalancer_id", "configs", slot "config_id",
        "nodes", slot "id"]
      parentIds := ["nodebalancer_id", "config_id"]
      properties := [
        ("address", editable plain), ("id", identifier), ("label", editable plain),
        ("mode", editable plain), ("status", volatile), ("weight", editable plain)] }),
    ("nodebalancers", {
      displayName := "NodeBalancer"
      endpoint := path ["nodebalancers", slot "id"]
      properties := [
        ("client_conn_throttle", editable plain), ("configs", childrenOf "nodebalancer_configs"),
        ("created", timestamp plain), ("hostname", plain), ("id", searchable identifier),
        ("ipv4", plain), ("ipv6", plain), ("label", searchable (editable plain)),
        ("region", searchable (slugOf "regions")), ("status", volatile),
        ("tags", searchable (editable plain)), ("transfer", volatile),
        ("updated", timestamp plain)] })]

def dns : Document where
  resources := [
    ("domain_records", {
      displayName := "DomainRecord"
      endpoint := path ["domains", slot "domain_id", "records", slot "id"]
      parentIds := ["domain_id"]
      properties := [
        ("created", timestamp plain), ("id", identifier), ("name", searchable (editable plain)),
        ("port", editable plain), ("priority", editable plain),
        ("protocol", clearable (editable plain)), ("service", clearable (editable plain)),
        ("tag", clearable (editable plain)), ("target", searchable (editable plain)),
        ("ttl_sec", editable plain), ("type", searchable plain), ("updated", timestamp plain),
        ("weight", editable plain)] }),
    ("domains", {
      displayName := "Domain"
      endpoint := path ["domains", slot "id"]
      properties := [
        ("axfr_ips", editable plain), ("description", editable plain),
        ("domain", searchable (editable plain)), ("expire_sec", editable plain),
        ("group", searchable (editable plain)), ("id", searchable identifier),
        ("master_ips", editable plain), ("records", childrenOf "domain_records"),
        ("refresh_sec", editable plain), ("retry_sec", editable plain),
        ("soa_email", editable plain), ("status", editable plain),
        ("tags", searchable (editable plain)), ("ttl_sec", editable plain),
        ("type", searchable (editable plain))] })]

def kubernetes : Document where
  resources := [
    ("lke_clusters", {
      displayName := "LKECluster"
      endpoint := path ["lke", "clusters", slot "id"]
      properties := [
        ("control_plane", editable plain), ("created", timestamp plain),
        ("id", searchable identifier), ("k8s_version", searchable (editable plain)),
        ("label", searchable (editable plain)), ("pools", childrenOf "lke_node_pools"),
        ("region", searchable (slugOf "regions")), ("status", volatile),
        ("tags", searchable (editable plain)), ("updated", timestamp plain)] }),
    ("lke_node_pools", {
      displayName := "LKENodePool"
      endpoint := path ["lke", "clusters", slot "cluster_id", "pools", slot "id"]
      parentIds := ["cluster_id"]
      properties := [
        ("autoscaler", editable plain), ("count", editable plain), ("disks", plain),
        ("id", identifier), ("nodes", volatile), ("tags", editable plain),
        ("type", slugOf "types")] })]

def account : Document where
  entityTypes := [
    ("domain", "domains"), ("firewall", "firewalls"), ("image", "images"),
    ("linode", "instances"), ("lkecluster", "lke_clusters"),
    ("nodebalancer", "nodebalancers"), ("volume", "volumes")]
  resources := [
    ("events", {
      displayName := "Event"
      endpoint := path ["account", "events", slot "id"]
      properties := [
        ("action", searchable plain), ("created", timestamp (searchable plain)),
        ("duration", volatile), ("entity", plain), ("id", searchable identifier),
        ("message", plain), ("percent_complete", volatile), ("rate", plain),
        ("read", searchable plain), ("secondary_entity", plain), ("seen", searchable plain),
        ("status", volatile), ("time_remaining", volatile), ("username", searchable plain)] }),
    ("tags", {
      displayName := "Tag"
      endpoint := path ["tags", slot "id"]
      idField := "label"
      properties := [
        ("label", searchable identifier)] })]

def documents : List Document := [compute, storage, networking, dns, kubernetes, account]

def registry : Registry := (Registry.ofDocuments documents).toOption.getD {}

end CloudClient.Builtin
