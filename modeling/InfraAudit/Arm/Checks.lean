import InfraAudit.Arm.Services
import InfraAudit.Terraform.Azure.Checks

namespace InfraAudit.Arm

def groupTypes := ["Microsoft.Network/networkSecurityGroups","Microsoft.Network/networkSecurityGroups/securityRules"]

def clusters := ["Microsoft.ContainerService/managedClusters"]

def settingTypes := ["Microsoft.DBforPostgreSQL/servers/configurations","configurations"]

def resourceChecks : List Check := Check.namedAfter Terraform.Azure.checks (Check.under "CKV_AZURE_" "" [
  byForm "6" "" clusters addressesLimited,
  byForm "8" "" clusters dashboardOff,
  onResource "4" "" clusters monitored,
  byForm "7" "" clusters networkPolicyGiven,
  byForm "5" "" clusters rolesUsed,
  onType "13" "" ["Microsoft.Web/sites/config","config"] loginNeeded,
  onResource "17" "" "Microsoft.Web/sites" (propertyReads "clientCertEnabled" "true"),
  onResource "14" "" "Microsoft.Web/sites" (propertyReads "httpsOnly" "true"),
  onResource "18" "" "Microsoft.Web/sites" latestProtocol,
  onResource "16" "" "Microsoft.Web/sites" identityGiven,
  onResource "15" "" "Microsoft.Web/sites" recentEncryption,
  onResource "1" "" "Microsoft.Compute/virtualMachines" (noPasswords ["properties"] ["windows","microsoft"]),
  onResource "2" "Azure managed disk have encryption enabled" "Microsoft.Compute/disks" diskEncrypted,
  onResource "49" "" "Microsoft.Compute/virtualMachineScaleSets"
    (noPasswords ["properties","virtualMachineProfile"] ["windows"]),
  onResource "132" "" "Microsoft.DocumentDB/databaseAccounts" (propertyFilled ["disableKeyBasedMetadataWriteAccess"]),
  onResource "39" "" "Microsoft.Authorization/roleDefinitions" noOwnerRole,
  onResource "42" "" "Microsoft.KeyVault/vaults" recoverable,
  expects "47" "" "Microsoft.DBforMariaDB/servers" "properties/sslEnforcement" ["Enabled"],
  onResource "38" "" "Microsoft.Insights/logprofiles" allCategories,
  onResource "37" "" "Microsoft.Insights/logprofiles" profileRetained,
  expects "28" "" "Microsoft.DBforMySQL/servers" "properties/sslEnforcement" ["Enabled"],
  onType "9" "" groupTypes (portClosed 3389),
  onType "10" "" groupTypes (portClosed 22),
  onResource "12" "that Network Security Group Flow Log retention period is 'greater than 90 days'"
    ["Microsoft.Network/networkWatchers/flowLogs","Microsoft.Network/networkWatchers/FlowLogs","Microsoft.Network/networkWatchers/flowLogs/","Microsoft.Network/networkWatchers/FlowLogs/"]
    flowsRetained,
  onResource "32" "" settingTypes (serverSetting "connection_throttling"),
  onResource "30" "" settingTypes (serverSetting "log_checkpoints"),
  onResource "31" "configuration 'log_connections' is set to 'ON' for PostgreSQL Database Server" settingTypes
    (serverSetting "log_connections"),
  expects "29" "" "Microsoft.DBforPostgreSQL/servers" "properties/sslEnforcement" ["Enabled"],
  onResource "23" "that 'Auditing' is set to 'Enabled' for SQL servers"
    ["Microsoft.Sql/servers","Microsoft.Sql/servers/databases"] audited,
  onResource "24" "that 'Auditing' Retention is 'greater than 90 days' for SQL servers" "Microsoft.Sql/servers"
    auditKept,
  onResource "26" "" "Microsoft.Sql/servers/databases" alertsSent,
  onResource "27" "" "Microsoft.Sql/servers/databases" alertsToAdmins,
  onResource "11" "" "Microsoft.Sql/servers" notOpenToAll,
  onResource "25" "" "Microsoft.Sql/servers/databases" allAlerts,
  onResource "41" "" "Microsoft.KeyVault/vaults/secrets" (propertyFilled ["attributes","exp"]),
  onResource "21" "" "Microsoft.Security/securityContacts" (propertyReads "alertNotifications" "on"),
  onResource "22" "" "Microsoft.Security/securityContacts" (propertyReads "alertsToAdmins" "on"),
  onResource "20" "" "Microsoft.Security/securityContacts" (propertyFilled ["phone"]),
  onResource "19" "" "Microsoft.Security/pricings" (propertyReads "pricingTier" "standard"),
  onResource "36" "" "Microsoft.Storage/storageAccounts" servicesLetIn,
  onResource "35" "" "Microsoft.Storage/storageAccounts" othersKeptOut,
  onResource "33" "" "Microsoft.Storage/storageAccounts/queueServices/providers/diagnosticsettings" queueLogged,
  onResource "3" "that 'supportsHttpsTrafficOnly' is set to 'true'" "Microsoft.Storage/storageAccounts"
    encryptedTransfer,
  onResource "34" ""
    ["Microsoft.Storage/storageAccounts/blobServices/containers","containers","blobServices/containers"]
    containerPrivate])

def parameterChecks : List Check := [
  .onSecrets
    (.of "CKV_AZURE_131" "SecureString parameter should not have hardcoded default values" "secureString" (noDefaultSecret "CKV_AZURE_131"))]

end InfraAudit.Arm
