import InfraAudit.Terraform.Google.Compute
import InfraAudit.Terraform.Google.Services

namespace InfraAudit.Terraform.Google

def instances := ["compute_instance","compute_instance_template","compute_instance_from_template"]

def clusters := ["container_cluster"]

def databaseTypes := ["sql_database_instance"]

def clustersAndPools := ["container_cluster","container_node_pool"]

def suppliedKey (id what entity : String) (key : String := "kms_key_name") : Check :=
  needs id (what ++ " encrypted with Customer Supplied Encryption Keys (CSEK)") [entity] key

def firewall (id what : String) (port : Int) : Check :=
  .of id ("Google compute firewall ingress does not allow " ++ what) "compute_firewall" (firewallClosed port)

def flagSet (id product engine flag state bad : String) : Check :=
  .of id s!"{product} database '{flag}' flag is set to '{state}'" databaseTypes (flagNotBad engine flag (·.isOneOf bad))

def checks : List Check := Check.under "CKV_GCP_" "google_" [
  grants "101" "Artifact Registry repositories" "artifact_registry_repository",
  suppliedKey "84" "Artifact Registry Repositories are" "artifact_registry_repository",
  suppliedKey "81" "Big Query Tables are" "bigquery_dataset" "default_encryption_configuration/[0]/kms_key_name",
  grants "100" "BigQuery Tables" "bigquery_table",
  suppliedKey "80" "Big Query Tables are" "bigquery_table" "encryption_configuration/[0]/kms_key_name",
  suppliedKey "85" "Big Table Instances are" "bigtable_instance" "cluster/[0]/kms_key_name",
  .of "73" "Cloud Armor prevents message lookup in Log4j2. See CVE-2021-44228 aka log4jshell"
    "compute_security_policy" firewallStopsCanary,
  expects "86" "Cloud build workers are private" "cloudbuild_worker_pool" "worker_config/[0]/no_external_ip",
  suppliedKey "83" "PubSub Topics are" "pubsub_topic",
  expects "79" "SQL database is using latest Major version" databaseTypes "database_version"
    ["POSTGRES_14","MYSQL_8_0","SQLSERVER_2019_STANDARD","SQLSERVER_2019_WEB","SQLSERVER_2019_ENTERPRISE","SQLSERVER_2019_EXPRESS"],
  .onKeys "62" "=Bucket should log access" "storage_bucket" "logging/[0]/log_bucket" bucketLogs,
  .of "63" "=Bucket should not log to itself" "storage_bucket" bucketLogsElsewhere,
  expects "78" "Cloud storage has versioning enabled" "storage_bucket" "versioning/[0]/enabled",
  expects "87" "Data fusion instances are private" "data_fusion_instance" "private_instance",
  expects "104" "Datafusion has stack driver logging enabled" "data_fusion_instance" "enable_stackdriver_logging",
  expects "105" "Datafusion has stack driver monitoring enabled" "data_fusion_instance"
    "enable_stackdriver_monitoring",
  suppliedKey "90" "data flow jobs are" "dataflow_job",
  expects "94" "Dataflow jobs are private" "dataflow_job" "ip_configuration" ["WORKER_IP_PRIVATE"],
  suppliedKey "91" "Dataproc cluster is" "dataproc_cluster" "cluster_config/[0]/encryption_config/[0]/kms_key_name",
  grants "98" "Dataproc clusters" "dataproc_cluster",
  expects "103" "Dataproc Clusters do not have public IPs" "dataproc_cluster"
    "cluster_config/[0]/gce_cluster_config/[0]/internal_ip_only",
  grants "102" "GCP Cloud Run services" "cloud_run_service",
  needs "23" "Kubernetes Cluster is created with Alias IP ranges enabled" clusters "ip_allocation_policy",
  .onKeys "19" "GKE basic auth is disabled" clusters ["master_auth/[0]/username","master_auth/[0]/password"]
    basicAuthenticationOff,
  expects "66" "use of Binary Authorization" clusters "enable_binary_authorization",
  expects "13" "client certificate authentication to Kubernetes Engine Clusters is disabled" clusters
    "master_auth/[0]/client_certificate_config/[0]/issue_client_certificate/[0]" [false],
  .onKeys "1" "Stackdriver Logging is set to Enabled on Kubernetes Engine Clusters" clusters "logging_service"
    clusterLogging,
  forbids "7" "Legacy Authorization is set to Disabled on Kubernetes Engine Clusters" clusters "enable_legacy_abac"
    [true],
  forbids "71" "Shielded GKE Nodes are Enabled" clusters "enable_shielded_nodes" [false],
  expects "61" "=Enable VPC Flow Logs and Intranode Visibility" clusters "enable_intranode_visibility",
  .onKeys "72" "Integrity Monitoring for Shielded GKE Nodes is Enabled" clustersAndPools
    "node_config/[0]/shielded_instance_config/[0]/enable_integrity_monitoring"
    (shieldedNodes "enable_integrity_monitoring" .passed),
  .onKeys "21" "Kubernetes Clusters are configured with Labels" clusters "resource_labels" clusterLabels,
  needs "65" "=Manage Kubernetes RBAC users with Google Groups for GKE" clusters
    "authenticator_groups_config/[0]/security_group",
  .onKeys "67" "legacy Compute Engine instance metadata APIs are Disabled" clusters "min_master_version"
    clusterVersion,
  needs "20" "master authorized networks is set to enabled in GKE clusters" clusters
    "master_authorized_networks_config",
  .of "69" "the GKE Metadata Server is Enabled" clustersAndPools metadataServer,
  forbids "8" "Stackdriver Monitoring is set to Enabled on Kubernetes Engine Clusters" clusters "monitoring_service/0"
    ["none"],
  .onKeys "12" "Network Policy is enabled on Kubernetes Engine Clusters" clusters "network_policy/[0]/enabled"
    networkPolicy,
  expects "9" "'Automatic node repair' is enabled for Kubernetes Clusters" "container_node_pool"
    "management/[0]/auto_repair/[0]",
  expects "10" "'Automatic node upgrade' is enabled for Kubernetes Clusters" "container_node_pool"
    "management/[0]/auto_upgrade/[0]",
  expects "24" "PodSecurityPolicy controller is enabled on the Kubernetes Engine Clusters" clusters
    "pod_security_policy_config/[0]/enabled",
  needs "25" "Kubernetes Cluster is created with Private cluster enabled" clusters "private_cluster_config",
  needs "64" "clusters are created with Private Nodes" clusters "private_cluster_config",
  .of "18" "GKE Control Plane is not public" clusters authorizedNetworks,
  needs "70" "the GKE Release Channel is set" clusters "release_channel/[0]/channel",
  .onKeys "68" "Secure Boot for Shielded GKE Nodes is Enabled" clustersAndPools
    "node_config/[0]/shielded_instance_config/[0]/enable_secure_boot" (shieldedNodes "enable_secure_boot" .failed),
  .of "22" "Container-Optimized OS (cos) is used for Kubernetes Engine Clusters Node image" "container_node_pool"
    containerOptimizedImage,
  .of "15" "that BigQuery datasets are not anonymously or publicly accessible" "bigquery_dataset" datasetNotPublic,
  .of "17" "that RSASHA1 is not used for the zone-signing and key-signing keys in Cloud DNS DNSSEC"
    "dns_managed_zone" zoneKeysStrong,
  .onKeys "16" "that DNSSEC is enabled for Cloud DNS" "dns_managed_zone" "dnssec_config/[0]/state" zoneSigned,
  flagSet "50" "MySQL" "MYSQL" "local_infile" "off" "on",
  flagSet "51" "PostgreSQL" "POSTGRES" "log_checkpoints" "on" "off",
  flagSet "52" "PostgreSQL" "POSTGRES" "log_connections" "on" "off",
  flagSet "53" "PostgreSQL" "POSTGRES" "log_disconnections" "on" "off",
  flagSet "54" "PostgreSQL" "POSTGRES" "log_lock_waits" "on" "off",
  .of "57" "PostgreSQL database 'log_min_duration_statement' flag is set to '-1'" databaseTypes
    (flagNotBad "POSTGRES" "log_min_duration_statement" (!·.isOneOf "-1")),
  .of "55" "PostgreSQL database 'log_min_messages' flag is set to a valid value" databaseTypes
    (flagNotBad "POSTGRES" "log_min_messages" (!·.isOneOf messageLevels)),
  .of "56" "PostgreSQL database 'log_temp_files flag is set to '0'" databaseTypes
    (flagNotBad "POSTGRES" "log_temp_files" (!·.isOneOf "0")),
  .onKeys "14" "all Cloud SQL database instance have backup configuration enabled" databaseTypes
    "settings/[0]/backup_configuration/[0]/enabled" databaseBackup,
  .of "11" "that Cloud SQL database Instances are not open to the world" databaseTypes databaseNotPublic,
  expects "6" "all Cloud SQL database instance requires all incoming connections to use SSL" databaseTypes
    "settings/[0]/ip_configuration/[0]/require_ssl/[0]",
  flagSet "59" "SQL" "SQLSERVER" "contained database authentication" "off" "on",
  flagSet "58" "SQL" "SQLSERVER" "cross db ownership chaining" "off" "on",
  .of "60" "Cloud SQL database does not have public IP" databaseTypes databaseWithoutPublicAddress,
  .onKeys "32" "'Block Project-wide SSH keys' is enabled for VM instances" instances
    "metadata/block-project-ssh-keys" projectKeysBlocked,
  .of "38" "VM disks for critical VMs are encrypted with Customer Supplied Encryption Keys (CSEK)" "compute_instance"
    bootDiskEncrypted,
  .of "30" "that instances are not configured to use the default service account"
    ["compute_instance","compute_instance_from_template","compute_instance_template"] ownServiceAccount,
  .of "31" "that instances are not configured to use the default service account with full access to all Cloud APIs"
    ["compute_instance","compute_instance_from_template","compute_instance_template"] defaultAccountLimited,
  suppliedKey "37" "VM disks for critical VMs are" "compute_disk" "disk_encryption_key",
  .onKeys "40" "that Compute instances do not have public IP addresses" instances
    "network_interface/[0]/access_config" noPublicAddress,
  firewall "77" "on ftp port" 20,
  firewall "75" "unrestricted FTP access" 21,
  firewall "2" "unrestricted ssh access" 22,
  firewall "88" "unrestricted mysql access" 3306,
  firewall "3" "unrestricted rdp access" 3389,
  firewall "106" "unrestricted http port 80 access" 80,
  .onKeys "36" "that IP forwarding is not enabled on Instances" instances "can_ip_forward" noForwarding,
  .onKeys "34"
    "that no instance in the project overrides the project setting for enabling OSLogin(OSLogin needs to be enabled in project metadata for all instances)"
    instances "metadata/[0]/enable-oslogin" loginNotDisabled,
  expects "33" "oslogin is enabled for a Project" "compute_project_metadata" "metadata/[0]/enable-oslogin" ["TRUE"],
  .of "4" "no HTTPS or SSL proxy load balancers permit SSL policies with weak cipher suites" "compute_ssl_policy"
    strongCiphers,
  .onKeys "35" "'Enable connecting to serial ports' is not enabled for VM Instance" instances
    "metadata/[0]/serial-port-enable" serialPortOff,
  .of "39" "Compute instances are launched with Shielded VM enabled" instances shieldedInstance,
  .of "44" "no roles that enable to impersonate and manage all service accounts are used at a folder level"
    ["folder_iam_member","folder_iam_binding"] noImpersonation,
  .of "48" "Default Service account is not used at a folder level" ["folder_iam_member","folder_iam_binding"]
    noDefaultAccount,
  expects "82" "KMS keys are protected from deletion" "kms_crypto_key" "lifecycle/[0]/prevent_destroy",
  .of "43" "KMS encryption keys are rotated within a period of 90 days" "kms_crypto_key" keyRotated,
  .of "45" "no roles that enable to impersonate and manage all service accounts are used at an organization level"
    ["organization_iam_member","organization_iam_binding"] noImpersonation,
  .of "47" "default service account is not used at an organization level"
    ["organization_iam_member","organization_iam_binding"] noDefaultAccount,
  .onKeys "42" "that Service Account has no Admin privileges" "project_iam_member" ["member","role"]
    serviceAccountNotAdmin,
  expects "27" "that the default network does not exist in a project" "project" "auto_create_network/[0]" [false],
  .of "49" "roles do not impersonate or manage Service Accounts used at project level"
    ["project_iam_member","project_iam_binding"] noImpersonation,
  .of "46" "Default Service account is not used at a project level" ["project_iam_member","project_iam_binding"]
    noDefaultAccount,
  .onKeys "41"
    "that IAM users are not assigned the Service Account User or Service Account Token Creator roles at project level"
    ["project_iam_binding","project_iam_member"] "role" roleNotProjectWide,
  .onKeys "28" "that Cloud Storage bucket is not anonymously or publicly accessible"
    ["storage_bucket_iam_member","storage_bucket_iam_binding"] ["members","member"] bucketNotPublic,
  expects "29" "that Cloud Storage buckets have uniform bucket-level access enabled" "storage_bucket"
    "uniform_bucket_level_access",
  .onKeys "76" "that Private google access is enabled for IPV6" "compute_subnetwork" "private_ipv6_google_access"
    privateAccessV6,
  .onKeys "26" "that VPC Flow Logs is enabled for every subnet in a VPC Network" "compute_subnetwork" "log_config"
    flowLogs,
  expects "74" "that private_ip_google_access is enabled for Subnet" "compute_subnetwork" "private_ip_google_access",
  expects "95" "Memorystore for Redis has AUTH enabled" "redis_instance" "auth_enabled",
  expects "97" "Memorystore for Redis uses intransit encryption" "redis_instance" "transit_encryption_mode"
    ["SERVER_AUTHENTICATION"],
  grants "99" "Pub/Sub Topics" "pubsub_topic",
  suppliedKey "93" "Spanner Database is" "spanner_database" "encryption_config/[0]/kms_key_name",
  needs "92" "Vertex AI datasets uses a CMK (Customer Manager Key)" "vertex_ai_dataset"
    "encryption_spec/[0]/kms_key_name",
  needs "96" "Vertex AI Metadata Store uses a CMK (Customer Manager Key)" "vertex_ai_metadata_store"
    "encryption_spec/[0]/kms_key_name",
  expects "89" "Vertex AI instances are private" "notebooks_instance" "no_public_ip"]

end InfraAudit.Terraform.Google
