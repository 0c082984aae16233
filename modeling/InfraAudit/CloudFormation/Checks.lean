import InfraAudit.CloudFormation.Identity
import InfraAudit.CloudFormation.Services
import InfraAudit.Terraform.Aws.Checks

namespace InfraAudit.CloudFormation

def securityKey : String → String
  | "AWS::Glue::Crawler" => "Properties/CrawlerSecurityConfiguration"
  | "AWS::Glue::DevEndpoint" | "AWS::Glue::Job" => "Properties/SecurityConfiguration"
  | _ => ""

def deadLetterKey : String → String
  | "AWS::Lambda::Function" => "Properties/DeadLetterConfig/TargetArn"
  | "AWS::Serverless::Function" => "Properties/DeadLetterQueue/TargetArn"
  | _ => ""

def byCatalogue : Scan := fun _ => return .unknown

def identities := ["IAM::Policy","IAM::ManagedPolicy","IAM::Group","IAM::Role","IAM::User"]

def functions := ["Lambda::Function","Serverless::Function"]

def groupTypes := ["EC2::SecurityGroup","EC2::SecurityGroupIngress"]

def checks : List Check := Check.namedAfter Terraform.Aws.checks (Check.under "CKV_AWS_" "AWS::" [
  .of "131" "" "ElasticLoadBalancingV2::LoadBalancer" dropsHeaders,
  .of "2" "" "ElasticLoadBalancingV2::Listener" listenerEncrypted,
  .of "103" "that Load Balancer Listener is using at least TLS v1.2" "ElasticLoadBalancingV2::Listener"
    listenerRecent,
  needs "76" "" ["ApiGateway::Stage","Serverless::Api"] "AccessLogSetting/DestinationArn",
  .of "59" "" "ApiGateway::Method" methodGuarded,
  expects "120" "" ["ApiGateway::Stage","Serverless::Api"] "CacheClusterEnabled",
  needs "95" "API Gateway V2 has Access Logging enabled" ["ApiGatewayV2::Stage","Serverless::HttpApi"]
    "AccessLogSettings/DestinationArn",
  expects "73" "" ["ApiGateway::Stage","Serverless::Api"] "TracingEnabled",
  expects "69" "Amazon MQ Broker should not have public access" "AmazonMQ::Broker" "PubliclyAccessible"
    [false],
  expects "194" "" "AppSync::GraphQLApi" "LogConfig/FieldLogLevel" ["ALL","ERROR"],
  needs "193" "" "AppSync::GraphQLApi" "LogConfig/CloudWatchLogsRoleArn",
  expects "82" "" "Athena::WorkGroup" "WorkGroupConfiguration/EnforceWorkGroupConfiguration",
  onKeys "96" "" "RDS::DBCluster" "StorageEncrypted" clusterEncrypted,
  needs "166" "" "Backup::BackupVault" "EncryptionKeyArn",
  expects "174" "" "CloudFront::Distribution"
    "DistributionConfig/ViewerCertificate/MinimumProtocolVersion"
    ["TLSv1.2_2018","TLSv1.2_2019","TLSv1.2_2021"],
  needs "158" "" "Logs::LogGroup" "KmsKeyId",
  needs "66" "" "Logs::LogGroup" "RetentionInDays",
  .of "34" "" "CloudFront::Distribution" distributionEncrypted,
  needs "86" "" "CloudFront::Distribution" "DistributionConfig/Logging/Bucket",
  needs "35" "" "CloudTrail::Trail" "KMSKeyId",
  expects "36" "" "CloudTrail::Trail" "EnableLogFileValidation",
  expects "67" "" "CloudTrail::Trail" "IsMultiRegionTrail",
  .of "78" "" "CodeBuild::Project" artifactsEncrypted,
  expects "47" "" "DAX::Cluster" "SSESpecification/SSEEnabled",
  expects "89" "" "DMS::ReplicationInstance" "PubliclyAccessible" [false],
  expects "104" "" "DocDB::DBClusterParameterGroup" "Parameters/audit_logs" ["enabled"],
  expects "74" "" "DocDB::DBCluster" "StorageEncrypted",
  onKeys "85" "" "DocDB::DBCluster" "EnableCloudwatchLogsExports" (exportsLogs ["profiler","audit"]),
  forbids "90" "" "DocDB::DBClusterParameterGroup" "Parameters/tls" ["disabled"],
  onKeys "119" "" "DynamoDB::Table"
    ["SSESpecification/SSEEnabled","SSESpecification/KMSMasterKeyId"] tableEncrypted,
  expects "165" "Dynamodb global table point in time recovery (backup) is enabled" "DynamoDB::GlobalTable"
    "Replicas/[0]/PointInTimeRecoverySpecification/PointInTimeRecoveryEnabled",
  expects "28" "" "DynamoDB::Table" "PointInTimeRecoverySpecification/PointInTimeRecoveryEnabled",
  expects "3" "" "EC2::Volume" "Encrypted",
  .onSecrets (onKeys "46" "" "EC2::Instance" "UserData" (userDataClean "CKV_AWS_46")),
  .of "88" "" ["EC2::Instance","EC2::LaunchTemplate"] noPublicAddress,
  expects "163" "" "ECR::Repository" "ImageScanningConfiguration/ScanOnPush",
  expects "51" "" "ECR::Repository" "ImageTagMutability" ["IMMUTABLE"],
  .of "32" "" "ECR::Repository" repositoryClosed,
  expects "136" "" "ECR::Repository" "EncryptionConfiguration/EncryptionType" ["KMS"],
  .of "65" "" "ECS::Cluster" containerInsights,
  .of "97" "" "ECS::TaskDefinition" volumesEncrypted,
  expects "42" "" "EFS::FileSystem" "Encrypted",
  onKeys "100" "" "EKS::Nodegroup"
    ["RemoteAccess/Ec2SshKey","RemoteAccess/SourceSecurityGroups"] nodesGuarded,
  onKeys "58" "" "EKS::Cluster" "EncryptionConfig/Resources" clusterSecretsEncrypted,
  expects "92" "" "ElasticLoadBalancing::LoadBalancer" "AccessLoggingPolicy/Enabled",
  .of "91" "" "ElasticLoadBalancingV2::LoadBalancer" writesAccessLogs,
  expects "29" "" "ElastiCache::ReplicationGroup" "AtRestEncryptionEnabled",
  expects "30" "" "ElastiCache::ReplicationGroup" "TransitEncryptionEnabled",
  .of "31" "" "ElastiCache::ReplicationGroup" cacheTokenNeeded,
  expects "83" "" "Elasticsearch::Domain" "DomainEndpointOptions/EnforceHTTPS",
  expects "84" "" "Elasticsearch::Domain" "LogPublishingOptions/AUDIT_LOGS/Enabled",
  expects "5" "" "Elasticsearch::Domain" "EncryptionAtRestOptions/Enabled",
  expects "6" "" "Elasticsearch::Domain" "NodeToNodeEncryptionOptions/Enabled",
  .of "94" "" "Glue::DataCatalogEncryptionSettings" catalogEncrypted,
  .of "99" "" "Glue::SecurityConfiguration" jobsEncrypted,
  expectsByType "195" "" ["Glue::Crawler","Glue::DevEndpoint","Glue::Job"] securityKey [anything],
  .of "62" "no IAM policies that allow full \"*-*\" administrative privileges are not created"
    ["IAM::Policy","IAM::Group","IAM::Role","IAM::User"] (policiesOf policyLimited),
  .of "107" "IAM policies does not allow credentials exposure" identities byCatalogue,
  .of "108" "IAM policies does not allow data exfiltration" identities byCatalogue,
  .of "109" "IAM policies does not allow permissions management without constraints" identities byCatalogue,
  forbids "40" "" "IAM::Policy" "Users" [anything],
  .of "110" "IAM policies does not allow privilege escalation" identities byCatalogue,
  .of "61" "" "IAM::Role" roleNotForAccount,
  .of "60" "" "IAM::Role" roleNotForAnyone,
  .of "63" "" ["IAM::Policy","IAM::Group","IAM::Role","IAM::User"] (policiesOf policyNamesActions),
  .of "111" "IAM policies does not allow write access without constraints" identities byCatalogue,
  .of "79" "" "EC2::LaunchTemplate" metadataGuarded,
  onKeys "33" "" "KMS::Key" "KeyPolicy/Statement/Principal" keyPolicyClosed,
  expects "7" "" "KMS::Key" "EnableKeyRotation",
  expects "43" "" "Kinesis::Stream" "StreamEncryption/EncryptionType" ["KMS"],
  expectsByType "116" "" functions deadLetterKey [anything],
  .onSecrets (.of "45" "" functions (variablesClean "CKV_AWS_45")),
  onKeys "173" "" functions ["Environment/Variables","KmsKeyArn"] variablesEncrypted,
  needs "115" "" functions "ReservedConcurrentExecutions",
  forbids "258" "" "Lambda::Url" "AuthType" ["NONE"],
  needs "117" "" functions "VpcConfig",
  .of "8" "all data stored in the Launch configuration EBS is securely encrypted" "AutoScaling::LaunchConfiguration"
    disksEncrypted,
  onKeys "101" "" "Neptune::DBCluster" "EnableCloudwatchLogsExports" (exportsLogs ["audit"]),
  expects "44" "" "Neptune::DBCluster" "StorageEncrypted",
  onKeys "172" "" "QLDB::Ledger" "DeletionProtection" ledgerProtected,
  expects "170" "" "QLDB::Ledger" "PermissionsMode" ["STANDARD"],
  expects "162" "" "RDS::DBCluster" "EnableIAMDatabaseAuthentication",
  onKeys "16" "" "RDS::DBInstance" "StorageEncrypted" databaseEncrypted,
  expects "118" "that enhanced monitoring is enabled for Amazon RDS instances" "RDS::DBInstance"
    "MonitoringInterval" [.int 1,.int 5,.int 10,.int 15,.int 30,.int 60,"1","5","10","15","30","60"],
  onKeys "161" "" "RDS::DBInstance" "EnableIAMDatabaseAuthentication" databaseLogin,
  expects "157" "" "RDS::DBInstance" "MultiAZ",
  expects "17" "" "RDS::DBInstance" "PubliclyAccessible" [false] .passed,
  .of "105" "" "Redshift::ClusterParameterGroup" warehouseNeedsEncryption,
  expects "64" "" "Redshift::Cluster" "Encrypted",
  needs "71" "" "Redshift::Cluster" "LoggingProperties/BucketName",
  expects "87" "" "Redshift::Cluster" "PubliclyAccessible" [false],
  needs "154" "" "Redshift::Cluster" "ClusterSubnetGroupName",
  needs "18" "the S3 bucket has access logging enabled" "S3::Bucket" "LoggingConfiguration",
  expects "53" "" "S3::Bucket" "PublicAccessBlockConfiguration/BlockPublicAcls",
  expects "54" "" "S3::Bucket" "PublicAccessBlockConfiguration/BlockPublicPolicy",
  expects "19" "the S3 bucket has server-side-encryption enabled" "S3::Bucket"
    "BucketEncryption/ServerSideEncryptionConfiguration/[0]/ServerSideEncryptionByDefault/SSEAlgorithm"
    ["AES256","aws:kms"],
  expects "55" "" "S3::Bucket" "PublicAccessBlockConfiguration/IgnorePublicAcls",
  forbids "20" "the S3 bucket does not allow READ permissions to everyone" "S3::Bucket" "AccessControl"
    ["PublicReadWrite","PublicRead"],
  forbids "57" "the S3 bucket does not allow WRITE permissions to everyone" "S3::Bucket" "AccessControl"
    ["PublicReadWrite"],
  expects "56" "" "S3::Bucket" "PublicAccessBlockConfiguration/RestrictPublicBuckets",
  expects "21" "the S3 bucket has versioning enabled" "S3::Bucket" "VersioningConfiguration/Status"
    ["Enabled"],
  needs "26" "" "SNS::Topic" "KmsMasterKeyId",
  needs "27" "" "SQS::Queue" "KmsMasterKeyId",
  onKeys "149" "" "SecretsManager::Secret" "KmsKeyId" secretEncrypted,
  .of "23" "" ["EC2::SecurityGroup","EC2::SecurityGroupIngress","EC2::SecurityGroupEgress"] rulesDescribed,
  .of "24" "" groupTypes (portClosed 22),
  .of "25" "" groupTypes (portClosed 3389),
  .of "260" "" groupTypes (portClosed 80),
  needs "160" "" "Timestream::Database" "KmsKeyId",
  expects "164" "" "Transfer::Server" "EndpointType" ["VPC","VPC_ENDPOINT"],
  expects "123" "" "EC2::VPCEndpointService" "AcceptanceRequired",
  .of "192" "" "WAFv2::WebACL" blocksKnownAttack,
  needs "68" "" "CloudFront::Distribution" "DistributionConfig/WebACLId",
  expects "156" "" "WorkSpaces::Workspace" "RootVolumeEncryptionEnabled",
  expects "155" "" "WorkSpaces::Workspace" "UserVolumeEncryptionEnabled"])

end InfraAudit.CloudFormation
