import JobContainers.Manifest

/-!
Where the instances of a job are placed: one instance for each replica of its group and each zone,
all zones of a replica before the next replica. A group without zones has one unnamed zone.
-/

set_option autoImplicit false

namespace JobContainers

structure Cluster where
  kubeNamespace : String
  domain : String
  deriving DecidableEq

namespace Cluster

def defaultDomain : String := "cluster.local"

def address (c : Cluster) (service : String) : String :=
  service ++ "." ++ c.kubeNamespace ++ ".svc." ++ c.domain

end Cluster

namespace InstanceGroup

def zones (g : InstanceGroup) : List String := if g.azs.isEmpty then [""] else g.azs

/-- The replicas of the group with their zones, in the order in which instances are counted. -/
def slots (g : InstanceGroup) : List (Nat × String) :=
  (List.range g.instances).flatMap fun replica => g.zones.map (replica, ·)

def jobInstance (g : InstanceGroup) (cluster : Cluster) (job : String) (index replica : Nat)
    (zone : String) : JobInstance :=
  let id := g.name ++ "-" ++ .ofList (Decimal.digitText index) ++ "-" ++ job
  { address := cluster.address id, az := zone, id := id, index := index, replica := replica
    name := g.name ++ "-" ++ job }

def jobInstances (g : InstanceGroup) (cluster : Cluster) (job : String) : List JobInstance :=
  g.slots.zipIdx.map fun ((replica, zone), index) => g.jobInstance cluster job index replica zone

end InstanceGroup

end JobContainers
