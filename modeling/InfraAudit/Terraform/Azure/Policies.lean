import InfraAudit.Policy.Outline

namespace InfraAudit.Terraform.Azure

open Policy

def alertPolicies := ["azurerm_mssql_server_security_alert_policy"]

def assessments := ["azurerm_mssql_server_vulnerability_assessment"]

def storageAccounts := ["azurerm_storage_account"]

def anyServers := ["azurerm_sql_server","azurerm_mssql_server"]

def sqlServers := ["azurerm_sql_server"]

def machines := ["azurerm_virtual_machine"]

def auditing := ["azurerm_mssql_server_extended_auditing_policy"]

def mssqlServers := ["azurerm_mssql_server"]

def insights := ["azurerm_log_analytics_storage_insights"]

def activityAlerts := ["azurerm_monitor_activity_log_alert"]

def extensions := ["azurerm_virtual_machine_extension"]

def disks := ["azurerm_managed_disk"]

def firewallRules := ["azurerm_sql_firewall_rule"]

def containers := ["azurerm_storage_container"]

def accountKeys := ["azurerm_storage_account_customer_managed_key"]

def alertsEnabled : Draft := .is alertPolicies "state" "Enabled"

def assessed (id name : String) (parts : List Draft) : Outline :=
  .of id name "GENERAL_SECURITY" ([
    .any [
      .linked sqlServers alertPolicies,
      .linked mssqlServers alertPolicies],
    alertsEnabled,
    .linked alertPolicies assessments] ++ parts ++ [.only assessments])

def keyed (id name kept key judged : String) : Outline :=
  .of id ("that " ++ name ++ " customer-managed key for encryption") "ENCRYPTION" [
    .linked kept key,
    .linked key "azurerm_key_vault_key",
    .only judged]

def policies : List Outline := [
  .of "CKV2_AZURE_6" "'Allow access to Azure services' for PostgreSQL Database Server is disabled" "GENERAL_SECURITY" [
    .only sqlServers,
    .ifLinked sqlServers firewallRules [
      .isnt firewallRules "start_ip_address" "0.0.0.0",
      .isnt firewallRules "end_ip_address" "0.0.0.0"]],
  .of "CKV_AZURE_120" "that Application Gateway enables WAF" "APPLICATION_SECURITY" [
    .only "azurerm_application_gateway",
    .any [
      .is "azurerm_application_gateway" "waf_configuration.enabled" true,
      .any [
        .all [
          .linked "azurerm_application_gateway" "azurerm_web_application_firewall_policy",
          .is "azurerm_web_application_firewall_policy" "policy_settings.enabled" true]]]],
  .of "CKV2_AZURE_7" "that Azure Active Directory Admin is configured" "GENERAL_SECURITY" [
    .linked sqlServers "azurerm_sql_active_directory_administrator",
    .only sqlServers],
  .of "CKV2_AZURE_10" "that Microsoft Antimalware is configured to automatically updates for Virtual Machines"
    "GENERAL_SECURITY" [
    .only machines,
    .linked machines extensions,
    .is extensions "type" "IaaSAntimalware",
    .is extensions "publisher" "Microsoft.Azure.Security",
    .is extensions "auto_upgrade_minor_version" true],
  .of "CKV2_AZURE_15" "that Azure data factories are encrypted with a customer-managed key" "ENCRYPTION" [
    .only "azurerm_data_factory",
    .linked "azurerm_data_factory" "azurerm_data_factory_linked_service_key_vault"],
  .of "CKV2_AZURE_13" "that sql servers enables data security policy" "GENERAL_SECURITY" [
    .only sqlServers,
    .ifLinked sqlServers alertPolicies [alertsEnabled]],
  .of "CKV_AZURE_119" "that Network Interfaces don't use public IPs" "NETWORKING" [
    .unlinked "azurerm_network_interface" "azurerm_public_ip",
    .only "azurerm_network_interface"],
  .of "CKV2_AZURE_18" "that Storage Accounts use customer-managed key for encryption" "ENCRYPTION" [
    .only storageAccounts,
    .linked storageAccounts accountKeys,
    .isnt accountKeys "key_vault_id" ""],
  .of "CKV2_AZURE_19" "that Azure Synapse workspaces have no IP firewall rules attached" "NETWORKING" [
    .unlinked "azurerm_synapse_workspace" "azurerm_synapse_firewall_rule",
    .only "azurerm_synapse_workspace"],
  .of "CKV2_AZURE_14" "that Unattached disks are encrypted" "ENCRYPTION" [
    .only machines,
    .ifLinked machines disks [
      .any [
        .has disks "disk_encryption_set_id",
        .all [
          .has disks "encryption_settings",
          .isnt disks "encryption_settings.enabled" false]]]],
  keyed "CKV2_AZURE_22" "Cognitive Services enables" "azurerm_cognitive_account"
    "azurerm_cognitive_account_customer_managed_key" "azurerm_cognitive_account",
  .of "CKV2_AZURE_11" "that Azure Data Explorer encryption at rest uses a customer-managed key" "ENCRYPTION" [
    .linkedBy "networking" "azurerm_kusto_cluster" "azurerm_kusto_cluster_customer_managed_key",
    .only "azurerm_kusto_cluster"],
  keyed "CKV2_AZURE_16" "MySQL server enables" "azurerm_mysql_server" "azurerm_mysql_server_key" "azurerm_mysql_server",
  keyed "CKV2_AZURE_17" "PostgreSQL server enables" "azurerm_postgresql_server" "azurerm_postgresql_server_key"
    "azurerm_postgresql_server_key",
  .of "CKV_AZURE_23" "that 'Auditing' is set to 'On' for SQL servers" "LOGGING" [
    .only anyServers,
    .any [
      .has anyServers "extended_auditing_policy",
      .all [
        .only mssqlServers,
        .has auditing "server_id",
        .linked auditing mssqlServers]]],
  .of "CKV_AZURE_24" "that 'Auditing' Retention is 'greater than 90 days' for SQL servers" "LOGGING" [
    .only anyServers,
    .any [
      .test anyServers "extended_auditing_policy.retention_in_days"
        "greater_than_or_equal" (.int 90),
      .all [
        .only mssqlServers,
        .test auditing "retention_in_days" "greater_than_or_equal"
          (.int 90),
        .linked auditing mssqlServers]]],
  .of "CKV2_AZURE_8" "the storage container storing the activity logs is not publicly accessible" "LOGGING" [
    .only storageAccounts,
    .linked activityAlerts storageAccounts,
    .has activityAlerts "criteria.resource_id",
    .any [
      .lacks activityAlerts "enabled",
      .is activityAlerts "enabled" true],
    .linked containers storageAccounts],
  .of "CKV2_AZURE_1" "storage for critical data are encrypted with Customer Managed Key" "ENCRYPTION" [
    .only storageAccounts,
    .linked storageAccounts accountKeys],
  .of "CKV2_AZURE_21" "Storage logging is enabled for Blob service for read requests" "LOGGING" [
    .linked containers storageAccounts,
    .linked storageAccounts insights,
    .has insights "blob_container_names",
    .is containers "container_access_type" "blob",
    .only containers],
  .of "CKV2_AZURE_20" "Storage logging is enabled for Table service for read requests" "LOGGING" [
    .linked "azurerm_storage_table" storageAccounts,
    .linked storageAccounts insights,
    .has insights "table_names",
    .only "azurerm_storage_table"],
  assessed "CKV2_AZURE_4" "Azure SQL server ADS VA Send scan reports to is configured" [
    .any [
      .is assessments "recurring_scans.email_subscription_admins" true,
      .has assessments "recurring_scans.emails"]],
  assessed "CKV2_AZURE_5" "that VA setting 'Also send email notifications to admins and subscription owners' is set for a SQL server" [
    .is assessments "recurring_scans.email_subscription_admins" true,
    .has assessments "recurring_scans.emails"],
  .of "CKV2_AZURE_2" "that Vulnerability Assessment (VA) is enabled on a SQL server by setting a Storage Account"
    "GENERAL_SECURITY" [
    .only sqlServers,
    .linked sqlServers alertPolicies,
    alertsEnabled],
  assessed "CKV2_AZURE_3" "that VA setting Periodic Recurring Scans is enabled on a SQL server" [
    .is assessments "recurring_scans.enabled" true],
  .of "CKV2_AZURE_12" "that virtual machines are backed up using Azure Backup" "BACKUP_AND_RECOVERY" [
    .linkedBy "networking" machines "azurerm_backup_protected_vm",
    .only machines],
  .of "CKV2_AZURE_9" "Virtual Machines are utilizing Managed Disks" "GENERAL_SECURITY" [
    .only machines,
    .has machines "storage_os_disk.managed_disk_type",
    .lacks machines "storage_os_disk.vhd_uri"]]

end InfraAudit.Terraform.Azure
