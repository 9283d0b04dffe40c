import GridGateway.Text.Substring

/-!
# Derived objects of the database

The database holds the tables of an indexer. On top of them stand a few objects of the gateway's own: a function
that reads decimals, a view and a function with the resources of nodes, and the table of telemetry records. One
script creates them; it can be run at any time, and is run again when a statement finds one of them missing.
-/

namespace GridGateway.Sql

/-- Memory reserved for the system of a node, at least: 2 GiB. -/
def reservedMruFloor : UInt64 := 2 * 1024 * 1024 * 1024

/-- Storage reserved for the system of a node: 100 GiB. -/
def reservedSru : UInt64 := 100 * 1024 * 1024 * 1024

/-- Memory reserved for the system of a node with `total` bytes of memory: a tenth, but not less than the
floor. -/
def reservedMru (total : UInt64) : UInt64 := max (total / 10) reservedMruFloor

/-- The script that creates the derived objects. -/
def setupScript : String := "
CREATE OR REPLACE FUNCTION convert_to_decimal(v_input text)
RETURNS DECIMAL AS $$
DECLARE v_dec_value DECIMAL DEFAULT NULL;
BEGIN
    BEGIN
        v_dec_value := v_input::DECIMAL;
    EXCEPTION WHEN OTHERS THEN
        RETURN NULL;
    END;
    RETURN v_dec_value;
END;
$$ LANGUAGE plpgsql;

CREATE OR REPLACE VIEW nodes_resources_view AS SELECT
    node.node_id,
    COALESCE(sum(contract_resources.cru), 0) AS used_cru,
    COALESCE(sum(contract_resources.mru), 0) + GREATEST(CAST(div(node_resources_total.mru, 10) AS bigint), 2147483648) AS used_mru,
    COALESCE(sum(contract_resources.hru), 0) AS used_hru,
    COALESCE(sum(contract_resources.sru), 0) + 107374182400 AS used_sru,
    GREATEST(node_resources_total.mru - COALESCE(sum(contract_resources.mru), 0) - GREATEST(CAST(div(node_resources_total.mru, 10) AS bigint), 2147483648), 0) AS free_mru,
    GREATEST(node_resources_total.hru - COALESCE(sum(contract_resources.hru), 0), 0) AS free_hru,
    GREATEST(node_resources_total.sru - COALESCE(sum(contract_resources.sru), 0) - 107374182400, 0) AS free_sru,
    COALESCE(node_resources_total.cru, 0) AS total_cru,
    COALESCE(node_resources_total.mru, 0) AS total_mru,
    COALESCE(node_resources_total.hru, 0) AS total_hru,
    COALESCE(node_resources_total.sru, 0) AS total_sru,
    COUNT(DISTINCT node_contract.state) AS states
FROM contract_resources
JOIN node_contract
    ON node_contract.resources_used_id = contract_resources.id
    AND node_contract.state IN ('Created', 'GracePeriod')
RIGHT JOIN node
    ON node.node_id = node_contract.node_id
LEFT JOIN node_resources_total
    ON node_resources_total.node_id = node.id
GROUP BY node.node_id, node_resources_total.mru, node_resources_total.sru, node_resources_total.hru, node_resources_total.cru;

CREATE OR REPLACE FUNCTION node_resources(query_node_id INTEGER)
RETURNS TABLE (
    node_id INTEGER,
    used_cru NUMERIC, used_mru NUMERIC, used_hru NUMERIC, used_sru NUMERIC,
    free_mru NUMERIC, free_hru NUMERIC, free_sru NUMERIC,
    total_cru NUMERIC, total_mru NUMERIC, total_hru NUMERIC, total_sru NUMERIC,
    states BIGINT
) AS
$body$
SELECT
    node.node_id::INTEGER,
    COALESCE(sum(contract_resources.cru), 0)::NUMERIC,
    (COALESCE(sum(contract_resources.mru), 0) + GREATEST(CAST(div(node_resources_total.mru, 10) AS bigint), 2147483648))::NUMERIC,
    COALESCE(sum(contract_resources.hru), 0)::NUMERIC,
    (COALESCE(sum(contract_resources.sru), 0) + 107374182400)::NUMERIC,
    GREATEST(node_resources_total.mru - COALESCE(sum(contract_resources.mru), 0) - GREATEST(CAST(div(node_resources_total.mru, 10) AS bigint), 2147483648), 0)::NUMERIC,
    GREATEST(node_resources_total.hru - COALESCE(sum(contract_resources.hru), 0), 0)::NUMERIC,
    GREATEST(node_resources_total.sru - COALESCE(sum(contract_resources.sru), 0) - 107374182400, 0)::NUMERIC,
    COALESCE(node_resources_total.cru, 0)::NUMERIC,
    COALESCE(node_resources_total.mru, 0)::NUMERIC,
    COALESCE(node_resources_total.hru, 0)::NUMERIC,
    COALESCE(node_resources_total.sru, 0)::NUMERIC,
    COUNT(DISTINCT node_contract.state)::BIGINT
FROM contract_resources
JOIN node_contract
    ON node_contract.resources_used_id = contract_resources.id
    AND node_contract.state IN ('Created', 'GracePeriod')
RIGHT JOIN node
    ON node.node_id = node_contract.node_id
LEFT JOIN node_resources_total
    ON node_resources_total.node_id = node.id
WHERE node.node_id = query_node_id
GROUP BY node.node_id, node_resources_total.mru, node_resources_total.sru, node_resources_total.hru, node_resources_total.cru;
$body$
LANGUAGE sql;

CREATE TABLE IF NOT EXISTS node_telemetry (
    node_id INTEGER PRIMARY KEY,
    total_cru BIGINT NOT NULL DEFAULT 0,
    total_sru BIGINT NOT NULL DEFAULT 0,
    total_hru BIGINT NOT NULL DEFAULT 0,
    total_mru BIGINT NOT NULL DEFAULT 0,
    used_cru BIGINT NOT NULL DEFAULT 0,
    used_sru BIGINT NOT NULL DEFAULT 0,
    used_hru BIGINT NOT NULL DEFAULT 0,
    used_mru BIGINT NOT NULL DEFAULT 0,
    used_ipv4u BIGINT NOT NULL DEFAULT 0,
    status TEXT NOT NULL DEFAULT 'down',
    hypervisor TEXT NOT NULL DEFAULT '',
    zos_version TEXT NOT NULL DEFAULT '',
    retries INTEGER NOT NULL DEFAULT 0,
    last_error TEXT,
    last_fetch_attempt BIGINT,
    last_fetch_success BIGINT
);
"

/-- How messages of the database name the derived objects. -/
def derivedObjects : List String :=
  ["\"nodes_resources_view\"", "node_resources(", "convert_to_decimal(", "\"node_telemetry\""]

/-- Whether a message of the database says that a derived object is missing. -/
def isMissingObject (message : String) : Bool :=
  Text.contains message "does not exist" && derivedObjects.any (Text.contains message)

end GridGateway.Sql
