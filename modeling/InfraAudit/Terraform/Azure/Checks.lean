import InfraAudit.Terraform.Azure.Network
import InfraAudit.Terraform.Azure.Services

namespace InfraAudit.Terraform.Azure

def pricing := ["security_center_subscription_pricing"]

def defender (id service kind : String) : Check :=
  .onKeys id ("that Azure Defender is set to On for " ++ service) pricing ["resource_type","tier"] (standardTier kind)

def parameterOn (id parameter : String) : Check :=
  .onKeys id s!"server parameter '{parameter}' is set to 'ON' for PostgreSQL Database Server" "postgresql_configuration"
    ["name","value"] (settingNotOff parameter)

def notPublic (id name entity : String) : Check := expects id name [entity] "public_network_access_enabled" [false]

def webApps := ["app_service"]

def ruleTypes := ["network_security_rule","network_security_group"]

def clusters := ["kubernetes_cluster"]

def checks : List Check := Check.under "CKV_AZURE_" "azurerm_" [
  forbids "137" "ACR admin account is disabled" "container_registry" "admin_enabled" [true],
  .of "138" "=Ensures that ACR disables anonymous pulling of images" "container_registry" registryNotAnonymous,
  notPublic "139" "ACR set to disable public networking" "container_registry",
  .onKeys "6" "AKS has an API Server Authorized IP Ranges enabled" clusters "api_server_authorized_ip_ranges/[0]"
    clusterAddressesLimited,
  .of "8" "Kubernetes Dashboard is disabled" clusters dashboardOff,
  expects "115" "that AKS enables private clusters" clusters "private_cluster_enabled",
  expects "141" "AKS local admin account is disabled" clusters "local_account_disabled",
  .onKeys "4" "AKS logging to Azure Monitoring is Configured" clusters "addon_profile/[0]/oms_agent/[0]/enabled"
    agentOn,
  needs "7" "AKS cluster has Network Policy configured" clusters "network_profile/[0]/network_policy",
  forbids "143" "AKS cluster nodes do not have public IP addresses" clusters
    "default_node_pool/[0]/enable_node_public_ip" [true],
  .of "5" "RBAC is enabled on AKS clusters" clusters roleBasedAccess,
  .of "116" "that AKS uses Azure Policies Add-on" clusters policyAddon,
  needs "117" "that AKS uses disk encryption set" clusters "disk_encryption_set_id",
  .of "152" "Client Certificates are enforced for API management" "api_management" clientCertificates,
  needs "107" "that API management services use virtual networks" "api_management"
    "virtual_network_configuration/[0]/subnet_id",
  needs "126" "=Ensures that Active Directory is used for authentication for Service Fabric" "service_fabric_cluster"
    "azure_active_directory/[0]/tenant_id",
  .onKeys "122" "that Application Gateway uses WAF in \"Detection\" or \"Prevention\" modes"
    "web_application_firewall_policy" "policy_settings/[0]/enable" firewallOn,
  .of "135" "Application Gateway WAF prevents message lookup in Log4j2. See CVE-2021-44228 aka log4jshell"
    "web_application_firewall_policy" gatewayStopsRemoteCode,
  expects "13" "App Service Authentication is set on Azure App Service" webApps "auth_settings/[0]/enabled/[0]",
  expects "65" "that App service enables detailed error messages" webApps "logs/[0]/detailed_error_messages_enabled",
  forbids "57" "that CORS disallows every resource to access app services" webApps
    "site_config/[0]/cors/[0]/allowed_origins" [.list ["*"]],
  expects "80" "that 'Net Framework' version is the latest, if used as a part of the web app" webApps
    "site_config/0/dotnet_framework_version" ["v6.0"],
  expects "66" "that App service enables failed request tracing" webApps "logs/[0]/failed_request_tracing_enabled",
  expects "78" "FTP deployments are disabled" webApps "site_config/0/ftps_state" ["Disabled","FtpsOnly"],
  expects "14" "web app redirects all HTTP traffic to HTTPS in Azure App Service" webApps "https_only/[0]",
  needs "63" "that App service enables HTTP logging" webApps "logs/[0]/http_logs",
  expects "18" "that 'HTTP Version' is the latest if used to run the web app" webApps "site_config/[0]/http2_enabled",
  needs "71" "that Managed identity provider is enabled for app services" webApps "identity/[0]/type",
  expects "83" "that 'Java version' is the latest, if used to run the web app" webApps
    "site_config/[0]/java_version/[0]" ["11"] .passed,
  expects "15" "web app is using the latest version of TLS encryption" webApps "site_config/[0]/min_tls_version/[0]"
    ["1.2"] .passed,
  expects "81" "that 'PHP version' is the latest, if used to run the web app" webApps "site_config/[0]/php_version/[0]"
    ["7.4"] .passed,
  expects "82" "that 'Python version' is the latest, if used to run the web app" webApps
    "site_config/[0]/python_version/[0]" ["3.4"] .passed,
  expects "155" "debugging is disabled for the App service slot" "app_service_slot"
    "site_config/[0]/remote_debugging_enabled/[0]" [false] .passed,
  expects "153" "web app redirects all HTTP traffic to HTTPS in Azure App Service Slot" "app_service_slot"
    "https_only/[0]",
  expects "154" "the App service slot is using the latest version of TLS encryption" "app_service_slot"
    "site_config/[0]/min_tls_version/[0]" ["1.2"] .passed,
  expects "88" "that app services use Azure Files" webApps "storage_account/[0]/type" ["AzureFiles"],
  expects "17" "the web app has 'Client Certificates (Incoming client certificates)' set" webApps
    "client_cert_enabled/[0]",
  expects "16" "that Register with Azure Active Directory is enabled on App Service" webApps "identity" [anything,""],
  expects "73" "that Automation account variables are encrypted"
    ["automation_variable_bool","automation_variable_string","automation_variable_int","automation_variable_datetime"]
    "encrypted",
  needs "76" "that Azure Batch account uses key vault to encrypt data" "batch_account" "key_vault_reference/[0]/id",
  needs "98" "that Azure Container group is deployed into virtual network" "container_group" "network_profile_id",
  expects "75" "that Azure Data Explorer uses double encryption" "kusto_cluster" "double_encryption_enabled",
  defender "61" "App Service" "AppServices",
  defender "86" "Container Registries" "ContainerRegistry",
  defender "87" "Key Vault" "KeyVaults",
  defender "85" "Kubernetes" "KubernetesService",
  defender "55" "Servers" "VirtualMachines",
  defender "79" "SQL servers on machines" "SqlServerVirtualMachines",
  defender "69" "Azure SQL database servers" "SqlServers",
  defender "84" "Storage" "StorageAccounts",
  needs "121" "that Azure Front Door enables WAF" "frontdoor"
    "frontend_endpoint/[0]/web_application_firewall_policy_link_id",
  expects "50" "Virtual Machine Extensions are not Installed" ["linux_virtual_machine","windows_virtual_machine"]
    "allow_extension_operations" [false],
  .of "1" "Azure Instance does not use basic authentication(Use SSH Key Instead)"
    ["virtual_machine","linux_virtual_machine"] passwordLoginOff,
  .of "2" "Azure managed disk has encryption enabled" "managed_disk" diskEncrypted,
  needs "93" "that managed disks use a specific set of disk encryption sets for the customer-managed key encryption"
    "managed_disk" "disk_encryption_set_id",
  expects "49" "Azure linux scale set does not use basic authentication(Use SSH Key Instead)"
    "linux_virtual_machine_scale_set" "disable_password_authentication/[0]",
  notPublic "124" "that Azure Cognitive Search disables public network access" "search_service",
  .of "125" "=Ensures that Service Fabric use three levels of protection available" "service_fabric_cluster"
    fabricProtection,
  notPublic "134" "that Cognitive Services accounts disable public network access" "cognitive_account",
  .of "99" "Cosmos DB accounts have restricted access" "cosmosdb_account" accountNetworksLimited,
  expects "132" "cosmosdb does not allow privileged escalation by restricting management plane changes"
    "cosmosdb_account" "access_key_metadata_writes_enabled" [false],
  notPublic "101" "that Azure Cosmos DB disables public network access" "cosmosdb_account",
  needs "100" "that Cosmos DB accounts have customer-managed keys to encrypt data at rest" "cosmosdb_account"
    "key_vault_key_id",
  expects "140" "that Local Authentication is disabled on CosmosDB" "cosmosdb_account"
    "local_authentication_disabled",
  .onKeys "39" "that no custom subscription owner roles are created" "role_definition" "permissions/[0]/actions"
    roleWithoutWildcard,
  expects "74" "that Azure Data Explorer uses disk encryption" "kusto_cluster" "enable_disk_encryption",
  expects "104" "that Azure Data factory public network access is disabled" "data_factory" "public_network_enabled"
    [false],
  .of "103" "that Azure Data Factory uses Git repository for source control" "data_factory" factoryUsesRepository,
  expects "105" "that Data Lake Store accounts enables encryption" "data_lake_store" "encryption_state" ["Enabled"]
    .passed,
  forbids "158" "that databricks workspace has not public" "databricks_workspace" "public_network_access_enabled"
    [true] .failed,
  notPublic "106" "that Azure Event Grid Domain public network access is disabled" "eventgrid_domain",
  .of "133" "Front Door WAF prevents message lookup in Log4j2. See CVE-2021-44228 aka log4jshell"
    "frontdoor_firewall_policy" frontDoorStopsRemoteCode,
  .onKeys "123" "that Azure Front Door uses WAF in \"Detection\" or \"Prevention\" modes" "frontdoor_firewall_policy"
    "policy_settings/[0]/enable" firewallOn,
  forbids "62" "function apps are not accessible from all regions" "function_app"
    "site_config/[0]/cors/[0]/allowed_origins" [.list ["*"]],
  expects "159" "function app builtin logging is enabled" ["function_app","function_app_slot"] "enable_builtin_logging"
    [true] .passed,
  expects "67" "that 'HTTP Version' is the latest, if used to run the Function app"
    ["function_app","function_app_slot"] "site_config/[0]/http2_enabled",
  expects "145" "Function app is using the latest version of TLS encryption" "function_app"
    "site_config/[0]/min_tls_version" [.float 1.2] .passed,
  expects "70" "that Function apps is only accessible over HTTPS" "function_app" "https_only",
  expects "56" "that function apps enables Authentication" "function_app" "auth_settings/[0]/enabled",
  expects "108" "that Azure IoT Hub disables public network access" "iothub" "public_network_access_enabled" [false]
    .passed,
  expects "112" "that key vault key is backed by HSM" "key_vault_key" "key_type" ["RSA-HSM","EC-HSM"],
  needs "40" "that the expiration date is set on all keys" "key_vault_key" "expiration_date",
  expects "109" "that key vault allows firewall rules settings" "key_vault" "network_acls/[0]/default_action"
    ["Deny"],
  expects "110" "that key vault enables purge protection" "key_vault" "purge_protection_enabled",
  expects "111" "that key vault enables soft delete" "key_vault" "soft_delete_enabled" [true] .passed,
  .onKeys "42" "the key vault is recoverable" "key_vault" ["purge_protection_enabled","soft_delete_enabled"]
    vaultRecoverable,
  expects "142" "Machine Learning Compute Cluster Local Authentication is disabled"
    "machine_learning_compute_cluster" "local_auth_enabled" [false],
  expects "150" "Machine Learning Compute Cluster Minimum Nodes Set To 0" "machine_learning_compute_cluster"
    "scale_settings/[0]/min_node_count" [.int 0],
  forbids "144" "that Public Access is disabled for Machine Learning Workspace" "machine_learning_workspace"
    "public_network_access_enabled" [true],
  expects "156" "default Auditing policy for a SQL Server is configured to capture and retain the activity logs"
    "mssql_database_extended_auditing_policy" "log_monitoring_enabled",
  expects "52" "MSSQL is using the latest version of TLS encryption" "mssql_server" "minimum_tls_version" ["1.2"],
  expects "129" "that MariaDB server enables geo-redundant backups" "mariadb_server" "geo_redundant_backup_enabled",
  .onKeys "48" "'public network access enabled' is set to 'False' for MariaDB servers" "mariadb_server"
    "public_network_access_enabled" publicAccessOff,
  expects "47" "'Enforce SSL connection' is set to 'ENABLED' for MariaDB servers" "mariadb_server"
    "ssl_enforcement_enabled",
  .onKeys "38" "audit profile captures all the activities" "monitor_log_profile" "categories" logCategories,
  .of "37" "that Activity Log Retention is set 365 days or greater" "monitor_log_profile" logRetention,
  expects "96" "that MySQL server enables infrastructure encryption" "mysql_server"
    "infrastructure_encryption_enabled",
  expects "94" "that My SQL server enables geo-redundant backups" "mysql_server" "geo_redundant_backup_enabled",
  notPublic "53" "'public network access enabled' is set to 'False' for mySQL servers" "mysql_server",
  expects "54" "MySQL is using the latest version of TLS encryption" "mysql_server"
    "ssl_minimal_tls_version_enforced" ["TLS1_2"],
  expects "28" "'Enforce SSL connection' is set to 'ENABLED' for MySQL Database Server" "mysql_server"
    "ssl_enforcement_enabled",
  expects "127" "that My SQL server enables Threat detection policy" "mysql_server"
    "threat_detection_policy/[0]/enabled",
  .of "160" "that HTTP (port 80) access is restricted from the internet" ruleTypes (portClosed 80),
  .of "9" "that RDP access is restricted from the internet" ruleTypes (portClosed 3389),
  .of "10" "that SSH access is restricted from the internet" ruleTypes (portClosed 22),
  .of "77" "that UDP Services are restricted from the Internet " ["network_security_group","network_security_rule"]
    datagramsClosed,
  expects "118" "that Network Interfaces disable IP forwarding" "network_interface" "enable_ip_forwarding" [false]
    .passed,
  .of "12" "that Network Security Group Flow Log retention period is 'greater than 90 days'"
    "network_watcher_flow_log" flowLogRetention,
  expects "130" "that PostgreSQL server enables infrastructure encryption" "postgresql_server"
    "infrastructure_encryption_enabled",
  expects "136" "that PostgreSQL Flexible server enables geo-redundant backups" "postgresql_flexible_server"
    "geo_redundant_backup_enabled",
  expects "147" "PostgreSQL is using the latest version of TLS encryption" "postgresql_server"
    "ssl_minimal_tls_version_enforced" ["TLS1_2"],
  parameterOn "32" "connection_throttling",
  parameterOn "30" "log_checkpoints",
  parameterOn "31" "log_connections",
  parameterOn "146" "log_retention",
  notPublic "68" "that PostgreSQL server disables public network access" "postgresql_server",
  expects "29" "'Enforce SSL connection' is set to 'ENABLED' for PostgreSQL Database Server" "postgresql_server"
    "ssl_enforcement_enabled",
  expects "128" "that PostgreSQL server enables Threat detection policy" "postgresql_server"
    "threat_detection_policy/[0]/enabled",
  expects "102" "that PostgreSQL server enables geo-redundant backups" "postgresql_server"
    "geo_redundant_backup_enabled",
  expects "91" "that only SSL are enabled for Cache for Redis" "redis_cache" "enable_non_ssl_port" [false] .passed,
  expects "148" "Redis Cache is using the latest version of TLS encryption" "redis_cache" "minimum_tls_version"
    ["1.2"],
  notPublic "89" "that Azure Cache for Redis disables public network access" "redis_cache",
  expects "72" "that remote debugging is not enabled for app services" webApps "remote_debugging_enabled" [false]
    .passed,
  needs "26" "that 'Send Alerts To' is enabled for MSSQL servers" "mssql_server_security_alert_policy"
    "email_addresses",
  expects "27" "that 'Email service and co-administrators' is 'Enabled' for MSSQL servers"
    "mssql_server_security_alert_policy" "email_account_admins",
  .of "11" "no SQL Databases allow ingress from 0.0.0.0/0 (ANY IP)"
    ["mariadb_firewall_rule","sql_firewall_rule","postgresql_firewall_rule","mysql_firewall_rule"] databaseRuleNarrow,
  notPublic "113" "that SQL server disables public network access" "mssql_server",
  .onKeys "25" "that 'Threat Detection types' is set to 'All'" "mssql_server_security_alert_policy"
    "disabled_alerts" noAlertDisabled,
  needs "114" "that key vault secrets have \"content_type\" set" "key_vault_secret" "content_type",
  needs "41" "that the expiration date is set on all secrets" "key_vault_secret" "expiration_date",
  expects "21" "that 'Send email notification for high severity alerts' is set to 'On'" "security_center_contact"
    "alert_notifications",
  expects "22" "that 'Send email notification for high severity alerts' is set to 'On'" "security_center_contact"
    "alerts_to_admins",
  needs "131" "that 'Security contact emails' is set" "security_center_contact" "email",
  needs "20" "that security contact 'Phone number' is set" "security_center_contact" "phone",
  expects "19" "that standard pricing tier is selected" pricing "tier" ["Standard"],
  expects "161" "=Ensures Spring Cloud API Portal is enabled on for HTTPS" "spring_cloud_api_portal"
    "https_only_enabled",
  forbids "162" "=Ensures Spring Cloud API Portal Public Access Is Disabled" "spring_cloud_api_portal"
    "public_network_access_enabled" [true],
  .of "36" "'Trusted Microsoft Services' is enabled for Storage Account access"
    ["storage_account","storage_account_network_rules"] trustedServicesPass,
  .of "35" "default network access rule for Storage Accounts is set to deny"
    ["storage_account","storage_account_network_rules"] deniesByDefault,
  forbids "59" "that Storage accounts disallow public access" "storage_account" "allow_blob_public_access" [true],
  expects "60" "that storage account enables secure transfer" "storage_account" "enable_https_traffic_only" [true]
    .passed,
  .of "33" "Storage logging is enabled for Queue service for read, write and delete requests" "storage_account"
    queueLogging,
  .onKeys "44" "Storage Account is using the latest version of TLS encryption" "storage_account" "min_tls_version"
    recentTls,
  .onKeys "43" "Storage Accounts adhere to the naming rules" "storage_account" "name" storageName,
  expects "3" "that 'Secure transfer required' is set to 'Enabled'" "storage_account" "enable_https_traffic_only",
  expects "34" "that 'Public access level' is set to Private for blob containers" "storage_container"
    "container_access_type/[0]" ["private"] .passed,
  expects "64" "that Azure File Sync disables public network access" "storage_sync" "incoming_traffic_policy"
    ["AllowVirtualNetworksOnly"],
  expects "157" "that Synapse workspace has data_exfiltration_protection_enabled" "synapse_workspace"
    "data_exfiltration_protection_enabled",
  expects "58" "that Azure Synapse workspaces enables managed virtual networks" "synapse_workspace"
    "managed_virtual_network_enabled",
  .onSecrets
    (.onKeys "45" "that no sensitive credentials are exposed in VM custom_data" "virtual_machine" "os_profile/[0]/custom_data" (machineDataWithoutSecrets "CKV_AZURE_45")),
  forbids "149" "that Virtual machine does not enable password authentication"
    ["linux_virtual_machine_scale_set","linux_virtual_machine"] "disable_password_authentication" [false],
  expects "97" "that Virtual machine scale sets have encryption at host enabled"
    ["linux_virtual_machine_scale_set","windows_virtual_machine_scale_set"] "encryption_at_host_enabled",
  .of "95" "that automatic OS image patching is enabled for Virtual Machine Scale Sets" "virtual_machine_scale_set"
    scaleSetUpgrades,
  .of "92" "that Virtual Machines use managed disks" ["linux_virtual_machine","windows_virtual_machine"] managedDisks,
  expects "151" "Windows VM enables encryption" "windows_virtual_machine" "encryption_at_host_enabled"]

end InfraAudit.Terraform.Azure
