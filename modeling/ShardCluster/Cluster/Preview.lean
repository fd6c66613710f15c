import ShardCluster.Cluster.Config

/-!
# Previews

The settings a configuration leads to, for a coordinator and a first worker on the usual ports.
-/

namespace ShardCluster

/-- what a configuration comes to -/
structure Preview where
  template : Template
  coordinator : String
  worker : String

namespace Config

/-- The blocks for a coordinator and a worker, unless the configuration cannot be used. -/
def preview (c : Config) : Except ClusterError Preview := do
  let template ← c.template
  let lead := Identity.under c.baseDirectory "Lord" 5432
  let worker := Identity.under c.baseDirectory "W1" 5433
  let connection := lead.connectionString template.dbname
  return { template, coordinator := template.render .coordinator lead connection,
           worker := template.render .worker worker connection }

end Config

end ShardCluster
