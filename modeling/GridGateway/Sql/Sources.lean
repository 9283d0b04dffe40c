import GridGateway.Sql.Statement

/-!
# Columns and sources

The fixed parts of the statements about nodes, farms, twins and contracts: the columns they read and the tables
they read them from.
-/

namespace GridGateway.Sql

/-- The columns of a node. -/
def nodeColumns : String := "
    node.node_id::bigint AS node_id,
    COALESCE(node.farm_id, 0)::bigint AS farm_id,
    COALESCE(node.twin_id, 0)::bigint AS twin_id,
    COALESCE(node.country, '') AS country,
    COALESCE(node.city, '') AS city,
    COALESCE(node.uptime, 0)::bigint AS uptime,
    COALESCE(node.created, 0)::bigint AS created,
    COALESCE(node.farming_policy_id, 0)::bigint AS farming_policy_id,
    COALESCE(node.updated_at, 0)::bigint AS updated_at,
    COALESCE(nodes_resources_view.total_cru, 0)::bigint AS total_cru,
    COALESCE(nodes_resources_view.total_sru, 0)::bigint AS total_sru,
    COALESCE(nodes_resources_view.total_hru, 0)::bigint AS total_hru,
    COALESCE(nodes_resources_view.total_mru, 0)::bigint AS total_mru,
    COALESCE(nodes_resources_view.used_cru, 0)::bigint AS used_cru,
    COALESCE(nodes_resources_view.used_sru, 0)::bigint AS used_sru,
    COALESCE(nodes_resources_view.used_hru, 0)::bigint AS used_hru,
    COALESCE(nodes_resources_view.used_mru, 0)::bigint AS used_mru,
    COALESCE(public_config.domain, '') AS domain,
    COALESCE(public_config.gw4, '') AS gw4,
    COALESCE(public_config.gw6, '') AS gw6,
    COALESCE(public_config.ipv4, '') AS ipv4,
    COALESCE(public_config.ipv6, '') AS ipv6,
    COALESCE(node.certification, '') AS certification,
    COALESCE(farm.dedicated, false) AS dedicated,
    COALESCE(node.secure, false) AS secure,
    COALESCE(node.virtualized, false) AS virtualized,
    COALESCE(node.serial_number, '') AS serial_number,
    COALESCE(rent_contract.contract_id, 0)::bigint AS rent_contract_id,
    COALESCE(rent_contract.twin_id, 0)::bigint AS rented_by_twin_id,
    convert_to_decimal(location.longitude)::float8 AS longitude,
    convert_to_decimal(location.latitude)::float8 AS latitude"

/-- The tables joined to the nodes. -/
def nodeJoins : String := "
    LEFT JOIN public_config ON node.id = public_config.node_id
    LEFT JOIN rent_contract ON rent_contract.node_id = node.node_id
        AND rent_contract.state IN ('Created', 'GracePeriod')
    LEFT JOIN farm ON node.farm_id = farm.farm_id
    LEFT JOIN location ON node.location_id = location.id"

/-- The columns of a farm. -/
def farmColumns : String := "
    farm.farm_id::bigint AS farm_id,
    COALESCE(farm.name, '') AS name,
    COALESCE(farm.twin_id, 0)::bigint AS twin_id,
    COALESCE(farm.pricing_policy_id, 0)::bigint AS pricing_policy_id,
    COALESCE(farm.certification, '') AS certification,
    COALESCE(farm.stellar_address, '') AS stellar_address,
    COALESCE(farm.dedicated, false) AS dedicated,
    (
        SELECT COALESCE(json_agg(json_build_object(
            'id', public_ip.id,
            'ip', public_ip.ip,
            'contractId', public_ip.contract_id,
            'gateway', public_ip.gateway
        ) ORDER BY public_ip.id), '[]'::json)
        FROM public_ip
        WHERE public_ip.farm_id = farm.id
    ) AS public_ips"

/-- The condition that a farm has at least so many free addresses. -/
def enoughFreeIps : String := "(SELECT count(id) FROM public_ip WHERE public_ip.farm_id = farm.id AND public_ip.contract_id = 0) >= ?"

/-- The condition that a farm has at least so many addresses. -/
def enoughIps : String := "(SELECT count(id) FROM public_ip WHERE public_ip.farm_id = farm.id) >= ?"

/-- The columns of a twin. -/
def twinColumns : String := "
    twin.twin_id::bigint AS twin_id,
    COALESCE(twin.account_id, '') AS account_id,
    twin.relay AS relay,
    twin.public_key AS public_key"

/-- The columns of a contract. -/
def contractColumns : String := "
    contracts.contract_id::bigint AS contract_id,
    contracts.twin_id::bigint AS twin_id,
    contracts.state AS state,
    contracts.created_at::bigint AS created_at,
    contracts.name AS name,
    contracts.node_id::bigint AS node_id,
    contracts.deployment_data AS deployment_data,
    contracts.deployment_hash AS deployment_hash,
    contracts.number_of_public_ips::bigint AS number_of_public_ips,
    contracts.type AS type,
    COALESCE(contract_billing.billings, '[]'::json) AS billings"

/-- The contracts of all kinds with their bills. -/
def contractSource : String := "
    FROM (
        SELECT contract_id, twin_id, state, created_at, '' AS name, node_id,
            COALESCE(deployment_data, '') AS deployment_data,
            COALESCE(deployment_hash, '') AS deployment_hash,
            COALESCE(number_of_public_ips, 0) AS number_of_public_ips, 'node' AS type
        FROM node_contract
        UNION ALL
        SELECT contract_id, twin_id, state, created_at, '', node_id, '', '', 0, 'rent'
        FROM rent_contract
        UNION ALL
        SELECT contract_id, twin_id, state, created_at, name, 0, '', '', 0, 'name'
        FROM name_contract
    ) contracts
    LEFT JOIN (
        SELECT
            contract_bill_report.contract_id,
            json_agg(json_build_object(
                'amountBilled', COALESCE(amount_billed, 0),
                'discountReceived', COALESCE(discount_received, ''),
                'timestamp', COALESCE(timestamp, 0)
            ) ORDER BY timestamp) AS billings
        FROM contract_bill_report
        GROUP BY contract_id
    ) contract_billing ON contracts.contract_id = contract_billing.contract_id"

end GridGateway.Sql
