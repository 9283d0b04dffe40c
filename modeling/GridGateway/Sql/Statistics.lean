import GridGateway.Sql.Listing

/-!
# Statements about statistics

The statement that reads the figures about the whole grid and the one that counts the nodes of each country. Both
can be narrowed down to nodes with a status.
-/

namespace GridGateway.Sql

/-- The statement that reads the figures. -/
def countersQuery (status : Option Status) (now : UInt64) : Fragment :=
  [.sql ("SELECT (SELECT count(*) FROM twin) AS twins, (SELECT count(*) FROM public_ip) AS public_ips, " ++
    "((SELECT count(*) FROM node_contract) + (SELECT count(*) FROM rent_contract) " ++
    "+ (SELECT count(*) FROM name_contract)) AS contracts, (SELECT count(*) FROM node WHERE TRUE")] ++
  statusCondition now status ++
  [.sql ") AS nodes, (SELECT count(DISTINCT node.farm_id) FROM node WHERE TRUE"] ++
  statusCondition now status ++
  [.sql ") AS farms, (SELECT count(DISTINCT node.country) FROM node WHERE TRUE"] ++
  statusCondition now status ++
  [.sql (") AS countries, (SELECT count(*) FROM node JOIN public_config ON node.id = public_config.node_id " ++
    "WHERE (COALESCE(public_config.ipv4, '') != '' OR COALESCE(public_config.ipv6, '') != '')")] ++
  statusCondition now status ++
  [.sql (") AS access_nodes, (SELECT count(*) FROM node JOIN public_config " ++
    "ON node.id = public_config.node_id " ++
    "WHERE (COALESCE(public_config.ipv4, '') != '' OR COALESCE(public_config.ipv6, '') != '') " ++
    "AND COALESCE(public_config.domain, '') != ''")] ++
  statusCondition now status ++
  [.sql (") AS gateways, totals.total_cru, totals.total_sru, totals.total_hru, totals.total_mru FROM (SELECT " ++
    "COALESCE(sum(node_resources_total.cru), 0)::bigint AS total_cru, " ++
    "COALESCE(sum(node_resources_total.sru), 0)::bigint AS total_sru, " ++
    "COALESCE(sum(node_resources_total.hru), 0)::bigint AS total_hru, " ++
    "COALESCE(sum(node_resources_total.mru), 0)::bigint AS total_mru " ++
    "FROM node JOIN node_resources_total ON node_resources_total.node_id = node.id WHERE TRUE")] ++
  statusCondition now status ++
  [.sql ") totals"]

/-- The statement that counts the nodes of each country. -/
def distributionQuery (status : Option Status) (now : UInt64) : Fragment :=
  [.sql "SELECT COALESCE(node.country, '') AS country, count(*) AS nodes FROM node WHERE TRUE"] ++
  statusCondition now status ++
  [.sql " GROUP BY COALESCE(node.country, '')"]

end GridGateway.Sql
