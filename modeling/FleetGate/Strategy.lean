/-!
# Strategies

How a fleet is reached is a strategy: the cluster the gate runs in, one cluster
of a kubeconfig, every context of a kubeconfig, or the managed clusters of a
hub, where the hub is either the own cluster or one of a kubeconfig.
-/

namespace FleetGate.Strategy

/-- The cluster the gate runs in. -/
def inCluster : String := "in-cluster"

/-- One cluster, and no choice of target. -/
def disabled : String := "disabled"

/-- The contexts of a kubeconfig. -/
def kubeconfig : String := "kubeconfig"

/-- The managed clusters of the hub the gate runs in. -/
def hub : String := "acm"

/-- The managed clusters of a hub in a kubeconfig. -/
def hubKubeconfig : String := "acm-kubeconfig"

/-- The strategy to use: the one that is named, else contexts when a kubeconfig
is named, else the own cluster when there is one, else contexts.  Empty names
count as none. -/
def resolve (named kubeconfigPath : Option String) (runsInCluster : Bool) : String :=
  match named.filter (!·.isEmpty) with
  | some s => s
  | none =>
      if (kubeconfigPath.filter (!·.isEmpty)).isSome then kubeconfig
      else if runsInCluster then inCluster
      else kubeconfig

end FleetGate.Strategy
