import InfraAudit.Policy.Outline

namespace InfraAudit.Terraform.Google

open Policy

def sinks := ["google_logging_organization_sink","google_logging_project_sink","google_logging_folder_sink"]

def bucketBindings := ["google_storage_bucket_iam_binding"]

def bucketMembers := ["google_storage_bucket_iam_member"]

def keyBindings := ["google_kms_crypto_key_iam_binding"]

def keyMembers := ["google_kms_crypto_key_iam_member"]

def ringBindings := ["google_kms_key_ring_iam_binding"]

def ringMembers := ["google_kms_key_ring_iam_member"]

def registries := ["google_container_registry"]

def auditConfigs := ["google_project_iam_audit_config"]

def keys := ["google_kms_crypto_key"]

def keyRings := ["google_kms_key_ring"]

def databases := ["google_sql_database_instance"]

def networks := ["google_compute_network"]

def notPublic (kept members bindings : List String) : List Draft :=
  let anyone : List Value := ["allAuthenticatedUsers","allUsers"]
  [.ifLinked kept members (anyone.map (.isnt members "member" ·)),
    .ifLinked kept bindings (anyone.map (.test bindings "members" "not_contains" ·))]

def policies : List Outline := [
  .of "CKV2_GCP_7" "that a MySQL database instance does not allow anyone to connect with administrative privileges"
    "IAM" [
    .only databases,
    .any [
      .test databases "database_version" "not_starting_with" "MYSQL",
      .unlinked databases "google_sql_user",
      .all [
        .linked databases "google_sql_user",
        .any [
          .test "google_sql_user" "name" "not_starting_with" "root",
          .all [
            .test "google_sql_user" "name" "starting_with" "root",
            .has "google_sql_user" "password"]]]]],
  .of "CKV2_GCP_5" "that Cloud Audit Logging is configured properly across all services and all users from a project"
    "Logging" [
    .only "google_project",
    .linked "google_project" auditConfigs,
    .any [
      .lacks auditConfigs "audit_log_config.*.exempted_members",
      .test auditConfigs "audit_log_config.*.exempted_members" "is_empty" .null],
    .is auditConfigs "service" "allServices"],
  .of "CKV2_GCP_9" "that Container Registry repositories are not anonymously or publicly accessible"
    "GENERAL_SECURITY" (.only registries :: notPublic registries bucketMembers bucketBindings),
  .of "CKV2_GCP_6" "that Cloud KMS cryptokeys are not anonymously or publicly accessible" "ENCRYPTION" [.only keys,.all (notPublic keys keyMembers keyBindings)],
  .of "CKV2_GCP_8" "that Cloud KMS Key Rings are not anonymously or publicly accessible" "ENCRYPTION" (.only keyRings :: notPublic keyRings ringMembers ringBindings),
  .of "CKV2_GCP_4" "that retention policies on log buckets are configured using Bucket Lock" "LOGGING" [
    .only ["google_logging_organization_sink","google_logging_folder_sink","google_logging_project_sink"],
    .ifLinked sinks "google_storage_bucket" [.is "google_storage_bucket" "retention_policy.is_locked" true]],
  .of "CKV2_GCP_2" "legacy networks do not exist for a project" "Networking" [
    .only "google_project",
    .any [
      .unlinkedBy "project_id" networks "google_project",
      .all [
        .linkedBy "project_id" networks "google_project",
        .any [
          .lacks networks "auto_create_subnetworks",
          .is networks "auto_create_subnetworks" false]]]],
  .of "CKV2_GCP_1" "GKE clusters are not running using the Compute Engine default service account " "NETWORKING" [
    .unlinked "google_project_default_service_accounts" "google_container_node_pool",
    .unlinked "google_project_default_service_accounts" "google_container_cluster",
    .only "google_project_default_service_accounts"],
  .of "CKV2_GCP_3" "that there are only GCP-managed service account keys for each service account" "ENCRYPTION" [
    .lacks "google_service_account_key" "public_key_data"]]

end InfraAudit.Terraform.Google
