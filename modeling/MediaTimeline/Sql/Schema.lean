/-! The schema migrations of the SQL stores, one set per dialect, as files under
`migrations/<dialect>/`. -/

namespace MediaTimeline.Sql

def postgresCreateSegments : String :=
  String.intercalate "\n" [
    "-- Segments: one row per (flow_id, timerange_end). Integer keys are closed",
    "-- nanosecond bounds; the full segment document lives in doc.",
    "CREATE TABLE IF NOT EXISTS segments (",
    "    flow_id         VARCHAR(255) NOT NULL,",
    "    timerange_end   BIGINT       NOT NULL,",
    "    timerange_start BIGINT       NOT NULL,",
    "    object_id       VARCHAR(255) NOT NULL,",
    "    doc             TEXT         NOT NULL,",
    "    PRIMARY KEY (flow_id, timerange_end)",
    ");",
    "",
    "CREATE INDEX IF NOT EXISTS segments_object_idx ON segments (object_id, flow_id, timerange_end);"] ++ "\n"

def postgresCreateFlows : String :=
  String.intercalate "\n" [
    "CREATE TABLE IF NOT EXISTS flows (",
    "    id         VARCHAR(255) PRIMARY KEY,",
    "    source_id  VARCHAR(255) NOT NULL DEFAULT '',",
    "    doc        TEXT         NOT NULL,",
    "    updated_at TIMESTAMP    NOT NULL DEFAULT CURRENT_TIMESTAMP",
    ");"] ++ "\n"

/-- The text of `migrations/postgres/003_create_delete_requests.sql`. -/
def postgresCreateDeleteRequests : String :=
  String.intercalate "\n" [
    "CREATE TABLE IF NOT EXISTS delete_requests (",
    "    id         VARCHAR(64)  PRIMARY KEY,",
    "    flow_id    VARCHAR(255) NOT NULL,",
    "    status     VARCHAR(16)  NOT NULL,",
    "    created_at BIGINT       NOT NULL,",
    "    doc        TEXT         NOT NULL",
    ");",
    "",
    "CREATE INDEX IF NOT EXISTS delete_requests_flow_idx ON delete_requests (flow_id, created_at);"] ++ "\n"

def postgresCreateTasks : String :=
  String.intercalate "\n" [
    "-- Durable task queue consumed by the worker (delete_request, object_cleanup, event).",
    "CREATE TABLE IF NOT EXISTS tasks (",
    "    id           VARCHAR(64)  PRIMARY KEY,",
    "    type         VARCHAR(64)  NOT NULL,",
    "    status       VARCHAR(16)  NOT NULL,",
    "    priority     INT          NOT NULL DEFAULT 0,",
    "    payload      BYTEA,",
    "    scheduled_at TIMESTAMP    NOT NULL,",
    "    started_at   TIMESTAMP    NULL,",
    "    completed_at TIMESTAMP    NULL,",
    "    attempts     INT          NOT NULL DEFAULT 0,",
    "    max_retries  INT          NOT NULL DEFAULT 3,",
    "    retry_after  TIMESTAMP    NULL,",
    "    last_error   TEXT         NULL,",
    "    created_at   TIMESTAMP    NOT NULL,",
    "    updated_at   TIMESTAMP    NOT NULL,",
    "    heartbeat_at TIMESTAMP    NULL,",
    "    flow_id      VARCHAR(255) NULL,",
    "    worker_id    VARCHAR(255) NULL",
    ");",
    "",
    "CREATE INDEX IF NOT EXISTS tasks_dequeue_idx ON tasks (status, priority, scheduled_at);",
    "CREATE INDEX IF NOT EXISTS tasks_completed_idx ON tasks (status, completed_at);",
    "CREATE INDEX IF NOT EXISTS tasks_flow_idx ON tasks (flow_id, type);"] ++ "\n"

def mysqlCreateSegments : String :=
  String.intercalate "\n" [
    "-- Segments: one row per (flow_id, timerange_end). Integer keys are closed",
    "-- nanosecond bounds; the full segment document lives in doc.",
    "CREATE TABLE IF NOT EXISTS segments (",
    "    flow_id         VARCHAR(255) NOT NULL,",
    "    timerange_end   BIGINT       NOT NULL,",
    "    timerange_start BIGINT       NOT NULL,",
    "    object_id       VARCHAR(255) NOT NULL,",
    "    doc             MEDIUMTEXT   NOT NULL,",
    "    PRIMARY KEY (flow_id, timerange_end),",
    "    INDEX segments_object_idx (object_id, flow_id, timerange_end)",
    ") ENGINE=InnoDB DEFAULT CHARSET=utf8mb4;"] ++ "\n"

def mysqlCreateFlows : String :=
  String.intercalate "\n" [
    "CREATE TABLE IF NOT EXISTS flows (",
    "    id         VARCHAR(255) PRIMARY KEY,",
    "    source_id  VARCHAR(255) NOT NULL DEFAULT '',",
    "    doc        MEDIUMTEXT   NOT NULL,",
    "    updated_at TIMESTAMP    NOT NULL DEFAULT CURRENT_TIMESTAMP",
    ") ENGINE=InnoDB DEFAULT CHARSET=utf8mb4;"] ++ "\n"

/-- The text of `migrations/mysql/003_create_delete_requests.sql`. -/
def mysqlCreateDeleteRequests : String :=
  String.intercalate "\n" [
    "CREATE TABLE IF NOT EXISTS delete_requests (",
    "    id         VARCHAR(64)  PRIMARY KEY,",
    "    flow_id    VARCHAR(255) NOT NULL,",
    "    status     VARCHAR(16)  NOT NULL,",
    "    created_at BIGINT       NOT NULL,",
    "    doc        MEDIUMTEXT   NOT NULL,",
    "    INDEX delete_requests_flow_idx (flow_id, created_at)",
    ") ENGINE=InnoDB DEFAULT CHARSET=utf8mb4;"] ++ "\n"

def mysqlCreateTasks : String :=
  String.intercalate "\n" [
    "-- Durable task queue consumed by the worker (delete_request, object_cleanup, event).",
    "CREATE TABLE IF NOT EXISTS tasks (",
    "    id           VARCHAR(64)  PRIMARY KEY,",
    "    type         VARCHAR(64)  NOT NULL,",
    "    status       VARCHAR(16)  NOT NULL,",
    "    priority     INT          NOT NULL DEFAULT 0,",
    "    payload      BLOB,",
    "    scheduled_at DATETIME(6)  NOT NULL,",
    "    started_at   DATETIME(6)  NULL,",
    "    completed_at DATETIME(6)  NULL,",
    "    attempts     INT          NOT NULL DEFAULT 0,",
    "    max_retries  INT          NOT NULL DEFAULT 3,",
    "    retry_after  DATETIME(6)  NULL,",
    "    last_error   TEXT         NULL,",
    "    created_at   DATETIME(6)  NOT NULL,",
    "    updated_at   DATETIME(6)  NOT NULL,",
    "    heartbeat_at DATETIME(6)  NULL,",
    "    flow_id      VARCHAR(255) NULL,",
    "    worker_id    VARCHAR(255) NULL,",
    "    INDEX tasks_dequeue_idx (status, priority, scheduled_at),",
    "    INDEX tasks_completed_idx (status, completed_at),",
    "    INDEX tasks_flow_idx (flow_id, type)",
    ") ENGINE=InnoDB DEFAULT CHARSET=utf8mb4;"] ++ "\n"

def migrationFiles : List (String × String) :=
  [("migrations/postgres/001_create_segments.sql", postgresCreateSegments),
   ("migrations/postgres/002_create_flows.sql", postgresCreateFlows),
   ("migrations/postgres/003_create_delete_requests.sql", postgresCreateDeleteRequests),
   ("migrations/postgres/004_create_tasks.sql", postgresCreateTasks),
   ("migrations/mysql/001_create_segments.sql", mysqlCreateSegments),
   ("migrations/mysql/002_create_flows.sql", mysqlCreateFlows),
   ("migrations/mysql/003_create_delete_requests.sql", mysqlCreateDeleteRequests),
   ("migrations/mysql/004_create_tasks.sql", mysqlCreateTasks)]

end MediaTimeline.Sql
