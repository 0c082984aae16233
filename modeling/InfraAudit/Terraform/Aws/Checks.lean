import InfraAudit.Terraform.Aws.Compute
import InfraAudit.Terraform.Aws.Identity
import InfraAudit.Terraform.Aws.Network
import InfraAudit.Terraform.Aws.Storage

namespace InfraAudit.Terraform.Aws

def searchDomains := ["elasticsearch_domain","opensearch_domain"]

def passwordPolicies := ["iam_account_password_policy"]

def networkAcls := ["network_acl","network_acl_rule"]

def securityGroups := ["security_group","security_group_rule"]

def inlinePolicies := ["iam_role_policy","iam_user_policy","iam_group_policy","iam_policy","ssoadmin_permission_set_inline_policy"]

def ownKey (id what entity : String) (key : String := "kms_key_id") : Check :=
  needs id (what ++ " is encrypted by KMS using a customer managed Key (CMK)") [entity] key

def checks : List Check := Check.under "CKV_AWS_" "aws_" [
  expects "233" "Create before destroy for ACM certificates" "acm_certificate" "lifecycle/[0]/create_before_destroy",
  expects "234" "=Verify logging preference for ACM certificates" "acm_certificate"
    "options/[0]/certificate_transparency_logging_preference" ["ENABLED"] .passed,
  .onKeys "131" "that ALB drops HTTP headers" ["lb","alb"] "drop_invalid_header_fields" dropsInvalidHeaders,
  .of "2" "ALB protocol is HTTPS" ["lb_listener","alb_listener"] listenerProtocol,
  expects "235" "that copied AMIs are encrypted" "ami_copy" "encrypted",
  needs "236" "AMI copying uses a CMK" "ami_copy" "kms_key_id",
  .of "204" "AMIs are encrypted using KMS CMKs" "ami" imageDevicesEncrypted,
  .of "205" "to Limit AMI launch Permissions" "ami_launch_permission" (always .failed),
  needs "76" "API Gateway has Access Logging enabled" ["api_gateway_stage","apigatewayv2_stage"]
    "access_log_settings/[0]/destination_arn",
  .onKeys "59" "there is no open access to back-end resources through API" "api_gateway_method"
    ["http_method","authorization","api_key_required"] methodAuthorized,
  expects "120" "API Gateway caching is enabled" "api_gateway_stage" "cache_cluster_enabled",
  expects "237" "Create before destroy for API GATEWAY" "api_gateway_rest_api" "lifecycle/[0]/create_before_destroy",
  expects "217" "Create before destroy for API deployments" "api_gateway_deployment"
    "lifecycle/[0]/create_before_destroy",
  expects "206" "API Gateway Domain uses a modern security Policy" "api_gateway_domain_name" "security_policy"
    ["TLS_1_2"],
  expects "225" "API Gateway method setting caching is enabled" "api_gateway_method_settings"
    "settings/[0]/caching_enabled",
  expects "73" "API Gateway has X-Ray Tracing enabled" "api_gateway_stage" "xray_tracing_enabled",
  needs "264" "App Flow connector profile uses CMK" "appflow_connector_profile" "kms_arn",
  needs "263" "App Flow flow uses CMK" "appflow_flow" "kms_arn",
  .of "103" "that load balancer is using TLS 1.2" ["lb_listener","alb_listener"] listenerTlsVersion,
  expects "194" "AppSync has Field-Level logs enabled" "appsync_graphql_api" "log_config/[0]/field_log_level"
    ["ALL","ERROR"],
  needs "193" "AppSync has Logging enabled" "appsync_graphql_api" "log_config/[0]/cloudwatch_logs_role_arn",
  expects "214" "Appsync API Cache is encrypted at rest" "appsync_api_cache" "at_rest_encryption_enabled",
  expects "215" "Appsync API Cache is encrypted in transit" "appsync_api_cache" "transit_encryption_enabled",
  needs "77" "Athena Database is encrypted at rest (default is unencrypted)" "athena_database"
    "encryption_configuration/[0]/encryption_option",
  expects "82" "Athena Workgroup should enforce configuration to prevent client disabling encryption"
    "athena_workgroup" "configuration/[0]/enforce_workgroup_configuration" [true] .passed,
  needs "159" "that Athena Workgroup is encrypted" "athena_workgroup"
    "configuration/[0]/result_configuration/[0]/encryption_configuration/[0]/encryption_option",
  .onKeys "96" "all data stored in Aurora is securely encrypted at rest" "rds_cluster" "storage_encrypted"
    clusterEncrypted,
  .onKeys "153" "=Autoscaling groups should supply tags to launch configurations" "autoscaling_group" ["tag","tags"]
    groupHasTags,
  needs "166" "Backup Vault is encrypted at rest using KMS CMK" "backup_vault" "kms_key_arn",
  .of "210" "=Batch job does not define a privileged container" "batch_job_definition" batchJobUnprivileged,
  .of "259" "CloudFront response header policy enforces Strict Transport Security"
    "cloudfront_response_headers_policy" strictTransport,
  needs "158" "that CloudWatch Log Group is encrypted by KMS" "cloudwatch_log_group" "kms_key_id",
  needs "66" "that CloudWatch Log Group specifies retention days" "cloudwatch_log_group" "retention_in_days",
  needs "124" "that CloudFormation stacks are sending event notifications to an SNS topic" "cloudformation_stack"
    "notification_arns",
  expects "216" "Cloudfront distribution is enabled" "cloudfront_distribution" "enabled",
  .of "34" "cloudfront distribution ViewerProtocolPolicy is set to HTTPS" "cloudfront_distribution"
    distributionEncrypted,
  needs "86" "Cloudfront distribution has Access Logging enabled" "cloudfront_distribution"
    "logging_config/[0]/bucket",
  expects "174" "=Verify CloudFront Distribution Viewer Certificate is using TLS v1.2" "cloudfront_distribution"
    "viewer_certificate/[0]/minimum_protocol_version" ["TLSv1.2_2018","TLSv1.2_2019","TLSv1.2_2021"],
  expects "220" "that Cloudsearch is using https" "cloudsearch_domain" "endpoint_options/[0]/enforce_https",
  expects "218" "that Cloudsearch is using latest TLS" "cloudsearch_domain"
    "endpoint_options/[0]/tls_security_policy" ["Policy-Min-TLS-1-2-2019-07"],
  needs "252" "CloudTrail defines an SNS Topic" "cloudtrail" "sns_topic_name",
  expects "251" "CloudTrail logging is enabled" "cloudtrail" "enable_logging" [true] .passed,
  needs "35" "CloudTrail logs are encrypted at rest using KMS CMKs" "cloudtrail" "kms_key_id",
  expects "36" "CloudTrail log file validation is enabled" "cloudtrail" "enable_log_file_validation",
  expects "67" "CloudTrail is enabled in all Regions" "cloudtrail" "is_multi_region_trail",
  ownKey "221" "Code artifact Domain" "codeartifact_domain" "encryption_key",
  .of "147" "that CodeBuild projects are encrypted" "codebuild_project" buildEncryptionKey,
  .of "78" "that CodeBuild Project encryption is not disabled" "codebuild_project" buildEncrypted,
  needs "219" "Code Pipeline Artifact store is using a KMS CMK" "codepipeline"
    "artifact_store/[0]/encryption_key/[0]/id",
  .of "257" "codecommit branch changes have at least 2 approvals" "codecommit_approval_rule_template" approvalsNeeded,
  .onKeys "121" "AWS Config is enabled in all regions" "config_configuration_aggregator"
    ["account_aggregation_source","organization_aggregation_source"] aggregatesAllRegions,
  expects "47" "DAX is encrypted at rest (default is unencrypted)" "dax_cluster" "server_side_encryption/[0]/enabled",
  expects "239" "DAX cluster endpoint is using TLS" "dax_cluster" "cluster_endpoint_encryption_type" ["TLS"],
  .onKeys "133" "that RDS instances has backup policy" ["rds_cluster","db_instance"] "backup_retention_period"
    backupRetention,
  .onKeys "129" "that respective logs of Amazon Relational Database Service (Amazon RDS) are enabled" "db_instance"
    "enabled_cloudwatch_logs_exports/[0]" databaseLogsExported,
  expects "226" "DB instance gets all minor upgrades automatically" ["db_instance","rds_cluster_instance"]
    "auto_minor_version_upgrade",
  needs "266" "App Flow connector profile uses CMK" "db_snapshot_copy" "kms_key_id",
  .of "253" "DLM cross region events are encrypted" "dlm_lifecycle_policy" (eventCopiesEncrypted false),
  .of "254" "DLM cross region events are encrypted with Customer Managed Key" "dlm_lifecycle_policy"
    (eventCopiesEncrypted true),
  .of "255" "DLM cross region schedules are encrypted" "dlm_lifecycle_policy" (scheduledCopiesEncrypted false),
  .of "256" "DLM cross region schedules are encrypted using a Customer Managed Key" "dlm_lifecycle_policy"
    (scheduledCopiesEncrypted true),
  ownKey "212" "EBS Volume" "dms_replication_instance" "kms_key_arn",
  expects "222" "DMS instance gets all minor upgrade automatically" "dms_replication_instance"
    "auto_minor_version_upgrade",
  forbids "89" "=DMS replication instance should not be publicly accessible" "dms_replication_instance"
    "publicly_accessible" [true],
  .of "104" "DocDB has audit logs enabled" "docdb_cluster_parameter_group"
    (ifParameter "audit_logs" "enabled" .passed .failed),
  ownKey "182" "Doc DB" "docdb_cluster",
  expects "74" "DocDB is encrypted at rest (default is unencrypted)" "docdb_cluster" "storage_encrypted",
  .onKeys "85" "DocDB Logging is enabled" "docdb_cluster" "enabled_cloudwatch_logs_exports" documentLogsExported,
  .of "90" "DocDB TLS is not disabled" "docdb_cluster_parameter_group"
    (ifParameter "tls" "disabled" .failed .passed),
  .of "165" "Dynamodb point in time recovery (backup) is enabled for global tables" "dynamodb_global_table"
    (always .passed),
  .onKeys "119" "DynamoDB Tables are encrypted using a KMS Customer Managed CMK" "dynamodb_table"
    ["server_side_encryption/[0]/enabled","server_side_encryption/[0]/kms_key_arn"] tableEncryptionKey,
  expects "28" "Dynamodb point in time recovery (backup) is enabled" "dynamodb_table"
    "point_in_time_recovery/[0]/enabled" [true,"true"],
  expects "106" "EBS default encryption is enabled" "ebs_encryption_by_default" "enabled" [true] .passed,
  expects "3" "all data stored in the EBS is securely encrypted" "ebs_volume" "encrypted",
  ownKey "183" "EBS Snapshot Copy" "ebs_snapshot_copy",
  ownKey "189" "EBS Volume" "ebs_volume",
  .onSecrets
    (.onKeys "46" "no hard-coded secrets exist in EC2 user data" "instance" "user_data" (userDataWithoutSecrets "CKV_AWS_46")),
  expects "126" "that detailed monitoring is enabled for EC2 instances" "instance" "monitoring",
  expects "135" "that EC2 is EBS optimized" "instance" "ebs_optimized",
  forbidsByType "88" "=EC2 instance should not have public IP." ["instance","launch_template"] publicAddressKey [true],
  expects "163" "ECR image scanning on push is enabled" "ecr_repository"
    "image_scanning_configuration/[0]/scan_on_push",
  expects "51" "ECR Image Tags are immutable" "ecr_repository" "image_tag_mutability" ["IMMUTABLE"],
  .onKeys "32" "ECR policy is not set to public" "ecr_repository_policy" "policy" repositoryPolicyClosed,
  expects "136" "that ECR repositories are encrypted using KMS" "ecr_repository"
    "encryption_configuration/[0]/encryption_type" ["KMS"],
  .of "65" "container insights are enabled on ECS cluster" "ecs_cluster" clusterInsights,
  forbids "223" "ECS Cluster enables logging of ECS Exec" "ecs_cluster"
    "configuration/[0]/execute_command_configuration/[0]/logging" ["NONE"],
  .of "224" "Cluster logging with CMK" "ecs_cluster" clusterCommandLogsEncrypted,
  .of "97" "Encryption in transit is enabled for EFS volumes in ECS Task definitions" "ecs_task_definition"
    taskVolumesEncrypted,
  .of "249" "that the Execution Role ARN and the Task Role ARN are different in ECS Task definitions"
    "ecs_task_definition" taskRolesDiffer,
  expects "42" "EFS is securely encrypted" "efs_file_system" "encrypted",
  ownKey "184" "resource" "efs_file_system",
  .onKeys "37" "Amazon EKS control plane logging enabled for all log types" "eks_cluster"
    "enabled_cluster_log_types" clusterLogTypes,
  .onKeys "100" "AWS EKS node group does not have implicit SSH access from 0.0.0.0/0" "eks_node_group"
    ["remote_access/[0]/ec2_ssh_key","remote_access/[0]/source_security_group_ids"] nodeGroupRemoteAccess,
  expects "39" "Amazon EKS public endpoint disabled" "eks_cluster" "vpc_config/[0]/endpoint_public_access" [false],
  .of "38" "Amazon EKS public endpoint not accessible to 0.0.0.0/0" "eks_cluster" clusterEndpointRestricted,
  expects "58" "EKS Cluster has Secrets Encryption Enabled" "eks_cluster" "encryption_config/[0]/resources"
    [.list ["secrets"]],
  .onKeys "92" "the ELB has access logging enabled" "elb" "access_logs/[0]/enabled" classicLoggingEnabled,
  expects "138" "that ELB is cross-zone-load-balancing enabled" "elb" "cross_zone_load_balancing" [true] .passed,
  .of "213" "ELB Policy uses only secure protocols" "load_balancer_policy" policyWithoutOldProtocols,
  .of "127" "that Elastic Load Balancer(s) uses SSL certificates provided by AWS Certificate Manager" "elb"
    listenersHaveCertificates,
  .onKeys "91" "the ELBv2 (Application/Network) has access logging enabled" ["lb","alb"] "access_logs/0/enabled/0"
    loggingEnabled,
  .onKeys "171" "Cluster security configuration encryption is using SSE-KMS" "emr_security_configuration"
    "configuration/[0]/SSE-KMS" emrConfigurationEncrypted,
  .onKeys "114" "that EMR clusters with Kerberos have Kerberos Realm set" "emr_cluster"
    "kerberos_attributes/[0]/realm" emrKerberosRealm,
  .onKeys "134" "that Amazon ElastiCache Redis clusters have automatic backup turned on" "elasticache_cluster"
    "snapshot_retention_limit" cacheBackup,
  .of "196" "no aws_elasticache_security_group resources exist" "elasticache_security_group" (always .failed),
  ownKey "191" "Elasticache replication group" "elasticache_replication_group",
  expects "29" "all data stored in the Elasticache Replication Group is securely encrypted at rest"
    "elasticache_replication_group" "at_rest_encryption_enabled",
  expects "30" "all data stored in the Elasticache Replication Group is securely encrypted at transit"
    "elasticache_replication_group" "transit_encryption_enabled",
  .onKeys "31"
    "all data stored in the Elasticache Replication Group is securely encrypted at transit and has auth token"
    "elasticache_replication_group" ["transit_encryption_enabled","auth_token"] cacheAuthToken,
  needs "248" "that Elasticsearch is not using the default Security Group" searchDomains
    "vpc_options/[0]/security_group_ids",
  expects "83" "Elasticsearch Domain enforces HTTPS" searchDomains "domain_endpoint_options/[0]/enforce_https" [true]
    .passed,
  .onKeys "84" "Elasticsearch Domain Logging is enabled" searchDomains
    "log_publishing_options/[0]/cloudwatch_log_group_arn" searchLogging,
  expects "5" "all data stored in the Elasticsearch is securely encrypted at rest" searchDomains
    "encrypt_at_rest/[0]/enabled",
  needs "247" "all data stored in the Elasticsearch is encrypted with a CMK" searchDomains
    "encrypt_at_rest/[0]/kms_key_id",
  needs "137" "that Elasticsearch is configured inside a VPC" searchDomains "vpc_options",
  .of "6" "all Elasticsearch has node-to-node encryption enabled" searchDomains searchNodesEncrypted,
  expects "228" "=Verify Elasticsearch domain is using an up to date TLS policy" searchDomains
    "domain_endpoint_options/[0]/tls_security_policy" ["Policy-Min-TLS-1-2-2019-07"],
  ownKey "178" "fx ontap file system" "fsx_ontap_file_system",
  ownKey "203" "resource" "fsx_openzfs_file_system",
  ownKey "179" "FSX Windows filesystem" "fsx_windows_file_system",
  .onKeys "167"
    "Glacier Vault access policy is not public by only allowing specific services or principals to access it"
    "glacier_vault" "access_policy" vaultPolicyClosed,
  expects "75" "Global Accelerator accelerator has flow logs enabled" "globalaccelerator_accelerator"
    "attributes/[0]/flow_logs_enabled",
  .of "94" "Glue Data Catalog Encryption is enabled" "glue_data_catalog_encryption_settings" catalogEncrypted,
  .of "99" "Glue Security Configuration Encryption is enabled" "glue_security_configuration" jobsEncrypted,
  needs "195" "Glue component has a security configuration associated" ["glue_crawler","glue_dev_endpoint","glue_job"]
    "security_configuration",
  expects "238" "that Guard Duty detector is enabled" "guardduty_detector" "enable" [true] .passed,
  .onKeys "62" "IAM policies that allow full \"*-*\" administrative privileges are not created" inlinePolicies
    ["policy","inline_policy"] (noStatement allowsEverything),
  forbidsByType "40"
    "IAM policies are attached only to groups or roles (Reducing access management complexity may in-turn reduce opportunity for a principal to inadvertently receive or retain excessive privileges.)"
    ["iam_user_policy_attachment","iam_user_policy","iam_policy_attachment"] userKey [anything],
  .onKeys "61" "AWS IAM policy does not allow assume role permission across all services" "iam_role"
    "assume_role_policy" roleNotForAccount,
  .onKeys "60" "IAM role allows only specific services or principals to assume it" "iam_role" "assume_role_policy"
    roleNotForAnyone,
  .onKeys "63" "no IAM policies documents allow \"*\" as a statement's actions" inlinePolicies
    ["policy","inline_policy"] (noStatement allowsEveryAction),
  .onKeys "79" "Instance Metadata Service Version 1 is not enabled"
    ["instance","launch_template","launch_configuration"]
    ["metadata_options/[0]/http_tokens","metadata_options/[0]/http_endpoint"] metadataRequiresToken,
  ownKey "180" "Image Builder component" "imagebuilder_component",
  needs "199" "Image Builder Distribution Configuration encrypts AMI's using KMS - a customer managed Key (CMK)"
    "imagebuilder_distribution_configuration" "distribution/[0]/ami_distribution_configuration/[0]/kms_key_id",
  .of "200" "that Image Recipe EBS Disk are encrypted with CMK" "imagebuilder_image_recipe" recipeDevicesEncrypted,
  expects "227" "KMS key is enabled" "kms_key" "is_enabled" [true] .passed,
  .of "33" "KMS key policy does not contain wildcard (*) principal" "kms_key" keyPolicyClosed,
  .onKeys "7" "rotation for customer created CMKs is enabled" "kms_key" "enable_key_rotation" keyRotation,
  needs "262" "Kendra index Server side encryption uses CMK" "kendra_index"
    "server_side_encryption_configuration/[0]/kms_key_id",
  .of "265" "Keyspaces Table uses CMK" "keyspaces_table" keyspaceEncryptionKey,
  .of "240" "Kinesis Firehose delivery stream is encrypted" "kinesis_firehose_delivery_stream" deliveryEncrypted,
  .of "241" "that Kinesis Firehose Delivery Streams are encrypted with CMK" "kinesis_firehose_delivery_stream"
    deliveryEncryptionKey,
  ownKey "185" "Kinesis Stream" "kinesis_stream",
  expects "43" "Kinesis Stream is securely encrypted" "kinesis_stream" "encryption_type" ["KMS"],
  ownKey "177" "Kinesis Video Stream" "kinesis_video_stream",
  .onKeys "152" "that Load Balancer (Network/Gateway) has cross-zone load balancing enabled" ["lb","alb"]
    "enable_cross_zone_load_balancing" crossZone,
  expects "150" "that Load Balancer has deletion protection enabled" ["lb","alb"] "enable_deletion_protection",
  .of "261" "HTTP HTTPS Target group defines Healthcheck" ["lb_target_group","alb_target_group"] targetGroupHealthCheck,
  needs "116" "that AWS Lambda function is configured for a Dead Letter Queue(DLQ)" "lambda_function"
    "dead_letter_config/[0]/target_arn",
  .onSecrets
    (.of "45" "no hard-coded secrets exist in lambda environment" "lambda_function" (environmentWithoutSecrets "CKV_AWS_45")),
  .onKeys "173" "=Check encryption settings for Lambda environmental variable" "lambda_function"
    "environment/[0]/variables" environmentEncrypted,
  forbids "115" "that AWS Lambda function is configured for function-level concurrent execution limit"
    "lambda_function" "reserved_concurrent_executions/[0]" ["$\x7b-1\x7d"] .failed,
  forbids "258" "that Lambda function URLs AuthType is not None" "lambda_function_url" "authorization_type" ["NONE"],
  needs "117" "that AWS Lambda function is configured inside a VPC" "lambda_function" "vpc_config",
  expects "50" "=X-ray tracing is enabled for Lambda" "lambda_function" "tracing_config/[0]/mode"
    ["PassThrough","Active"],
  .of "8" "all data stored in the Launch configuration or instance Elastic Blocks Store is securely encrypted"
    ["launch_configuration","instance"] devicesEncrypted,
  ownKey "190" "lustre file systems" "fsx_lustre_file_system",
  .onKeys "197" "MQ Broker Audit logging is enabled" "mq_broker" "logs/[0]/audit" brokerAuditLogs,
  needs "209" "MQ broker encrypted by KMS using a customer managed Key (CMK)" "mq_broker"
    "encryption_options/[0]/kms_key_id",
  expects "48" "MQ Broker logging is enabled" "mq_broker" "logs/[0]/general",
  expects "207" "MQ Broker minor version updates are enabled" "mq_broker" "auto_minor_version_upgrade",
  forbids "69" "MQ Broker is not publicly exposed" "mq_broker" "publicly_accessible" [true],
  .of "208" "MQBroker version is current" ["mq_broker","mq_configuration"] brokerVersion,
  .onKeys "81" "MSK Cluster encryption in rest and transit is enabled" "msk_cluster"
    ["encryption_info/[0]/encryption_in_transit/[0]/client_broker","encryption_info/[0]/encryption_in_transit/[0]/in_cluster"]
    streamingTransitEncrypted,
  .of "80" "MSK Cluster logging is enabled" "msk_cluster" streamingLogs,
  expects "242" "MWAA environment has scheduler logs enabled" "mwaa_environment"
    "logging_configuration/[0]/scheduler_logs/[0]/enabled",
  expects "244" "MWAA environment has webserver logs enabled" "mwaa_environment"
    "logging_configuration/[0]/webserver_logs/[0]/enabled",
  expects "243" "MWAA environment has worker logs enabled" "mwaa_environment"
    "logging_configuration/[0]/worker_logs/[0]/enabled",
  forbids "202" "MemoryDB data is encrypted in transit" "memorydb_cluster" "tls_enabled" [false],
  needs "201" "MemoryDB is encrypted at rest using KMS CMKs" "memorydb_cluster" "kms_key_arn",
  forbids "102" "Neptune Cluster instance is not publicly available" "neptune_cluster_instance"
    "publicly_accessible/[0]" [true],
  .onKeys "101" "Neptune logging is enabled" "neptune_cluster" "enable_cloudwatch_logs_exports" graphLogsExported,
  expects "44" "Neptune storage is securely encrypted" "neptune_cluster" "storage_encrypted",
  closedTo "230" "NACL" 20 networkAcls accessListClosed,
  closedTo "229" "NACL" 21 networkAcls accessListClosed,
  closedTo "232" "NACL" 22 networkAcls accessListClosed,
  closedTo "231" "NACL" 3389 networkAcls accessListClosed,
  .onKeys "9" "IAM password policy expires passwords within 90 days or less" passwordPolicies "max_password_age"
    passwordAge,
  .onKeys "10" "IAM password policy requires minimum length of 14 or greater" passwordPolicies
    "minimum_password_length" (passwordAtLeast "minimum_password_length" 14),
  expects "11" "IAM password policy requires at least one lowercase letter" passwordPolicies
    "require_lowercase_characters",
  expects "12" "IAM password policy requires at least one number" passwordPolicies "require_numbers",
  .onKeys "13" "IAM password policy prevents password reuse" passwordPolicies "password_reuse_prevention"
    (passwordAtLeast "password_reuse_prevention" 24),
  expects "14" "IAM password policy requires at least one symbol" passwordPolicies "require_symbols",
  expects "15" "IAM password policy requires at least one uppercase letter" passwordPolicies
    "require_uppercase_characters",
  expects "172" "QLDB ledger has deletion protection enabled" "qldb_ledger" "deletion_protection" [true] .passed,
  expects "170" "QLDB ledger permissions mode is set to STANDARD" "qldb_ledger" "permissions_mode" ["STANDARD"],
  expects "211" "RDS uses a modern CaCert" "db_instance" "ca_cert_identifier" ["rds-ca-2019"] .passed,
  needs "246" "RDS Cluster activity streams are encrypted using KMS CMKs" "rds_cluster_activity_stream" "kms_key_id",
  .onKeys "140" "that RDS global clusters are encrypted" "rds_global_cluster" "aws_rds_global_cluster"
    globalClusterEncrypted,
  expects "162" "RDS cluster has IAM authentication enabled" "rds_cluster" "iam_database_authentication_enabled",
  expects "146" "that RDS database cluster snapshot is encrypted" "db_cluster_snapshot" "storage_encrypted",
  expects "139" "that RDS clusters have deletion protection enabled" "rds_cluster" "deletion_protection",
  expects "128" "that an Amazon RDS Clusters have AWS Identity and Access Management (IAM) authentication enabled"
    "rds_cluster" "iam_database_authentication_enabled",
  expects "16" "all data stored in the RDS is securely encrypted at rest" "db_instance" "storage_encrypted",
  expects "118" "that enhanced monitoring is enabled for Amazon RDS instances" ["db_instance","rds_cluster_instance"]
    "monitoring_interval" [.int 1,.int 5,.int 10,.int 15,.int 30,.int 60],
  .of "198" "no aws_db_security_group resources exist" "db_security_group" (always .failed),
  .onKeys "161" "RDS database has IAM authentication enabled" "db_instance" "iam_database_authentication_enabled"
    databaseAuthentication,
  needs "245" "replicated backups are encrypted at rest using KMS CMKs" "db_instance_automated_backups_replication"
    "kms_key_id",
  expects "157" "that RDS instances have Multi-AZ enabled" "db_instance" "multi_az",
  .of "250"
    "that RDS PostgreSQL instances use a non vulnerable version with the log_fdw extension (https://aws.amazon.com/security/security-bulletins/AWS-2022-004/)"
    ["rds_cluster","db_instance"] databaseVersion,
  forbids "17" "all data stored in RDS is not publicly accessible" ["db_instance","rds_cluster_instance"]
    "publicly_accessible" [true],
  .of "105" "Redshift uses SSL" "redshift_parameter_group" requireSslParameter,
  expects "141" "=Ensured that redshift cluster allowing version upgrade by default" "redshift_cluster"
    "allow_version_upgrade" [true] .passed,
  ownKey "188" "RedShift Cluster" "redshift_cluster",
  expects "64" "all data stored in the Redshift cluster is securely encrypted at rest" "redshift_cluster" "encrypted",
  needs "142" "that Redshift cluster is encrypted by KMS" "redshift_cluster" "kms_key_id",
  expects "71" "Redshift Cluster logging is enabled" "redshift_cluster" "logging/[0]/enable",
  needs "154" "Redshift is not deployed outside of a VPC" "redshift_cluster" "cluster_subnet_group_name",
  expects "87" "=Redshift cluster should not be publicly accessible" "redshift_cluster" "publicly_accessible" [false],
  .onKeys "70" "S3 bucket does not allow an action with any Principal" ["s3_bucket","s3_bucket_policy"] "policy"
    (bucketPolicyWithout letsAnyoneIn),
  expects "53" "S3 bucket has block public ACLS enabled" "s3_bucket_public_access_block" "block_public_acls",
  expects "54" "S3 bucket has block public policy enabled" "s3_bucket_public_access_block" "block_public_policy",
  ownKey "186" "S3 bucket Object" "s3_bucket_object",
  .onKeys "143" "that S3 bucket has lock configuration enabled by default" "s3_bucket"
    "object_lock_configuration/[0]/object_lock_enabled" bucketObjectLock,
  expects "55" "S3 bucket has ignore public ACLs enabled" "s3_bucket_public_access_block" "ignore_public_acls",
  ownKey "181" "S3 Object Copy" "s3_object_copy",
  .onKeys "93" "S3 bucket policy does not lockout all but root user. (Prevent lockouts needing root account fixes)"
    ["s3_bucket","s3_bucket_policy"] "policy" (bucketPolicyWithout locksEveryoneOut),
  expects "56" "S3 bucket has 'restrict_public_bucket' enabled" "s3_bucket_public_access_block"
    "restrict_public_buckets",
  needs "26" "all data stored in the SNS topic is encrypted" "sns_topic" "kms_master_key_id",
  .onKeys "169" "SNS topic policy is not public by only allowing specific services or principals to access it"
    "sns_topic_policy" "policy" topicPolicyClosed,
  .onKeys "72" "SQS policy does not allow ALL (*) actions." "sqs_queue_policy" "policy" queuePolicyActions,
  .onKeys "27" "all data stored in the SQS queue is encrypted" "sqs_queue" "kms_master_key_id" queueEncrypted,
  .onKeys "168" "SQS queue policy is not public by only allowing specific services or principals to access it"
    ["sqs_queue_policy","sqs_queue"] "policy" queuePolicyClosed,
  .onKeys "112" "Session Manager data is encrypted in transit" "ssm_document"
    ["document_type","document_format","content"] sessionEncrypted,
  .onKeys "113" "Session Manager logs are enabled and encrypted" "ssm_document"
    ["document_type","document_format","content"] sessionLogsEncrypted,
  expects "122" "that direct internet access is disabled for an Amazon SageMaker Notebook Instance"
    "sagemaker_notebook_instance" "direct_internet_access" ["Disabled"] .passed,
  ownKey "187" "Sagemaker domain" "sagemaker_domain",
  needs "98" "all data stored in the Sagemaker Endpoint is securely encrypted at rest"
    "sagemaker_endpoint_configuration" "kms_key_arn",
  needs "22" "SageMaker Notebook is encrypted at rest using KMS CMK" "sagemaker_notebook_instance" "kms_key_id",
  .onKeys "149" "that Secrets Manager secret is encrypted using KMS CMK" "secretsmanager_secret" "kms_key_id"
    secretEncryptionKey,
  .of "23" "every security groups rule has a description"
    ["security_group","security_group_rule","db_security_group","elasticache_security_group","redshift_security_group"]
    securityGroupDescribed,
  closedTo "24" "security groups" 22 securityGroups securityGroupClosed,
  closedTo "25" "security groups" 3389 securityGroups securityGroupClosed,
  closedTo "260" "security groups" 80 securityGroups securityGroupClosed,
  forbids "130" "VPC subnets do not assign public IP by default" "subnet" "map_public_ip_on_launch" [true],
  needs "160" "that Timestream database is encrypted with KMS CMK" "timestreamwrite_database" "kms_key_id",
  expects "164" "Transfer Server is not exposed publicly." "transfer_server" "endpoint_type" ["VPC","VPC_ENDPOINT"],
  .of "148" "no default VPC is planned to be provisioned" "default_vpc" (always .failed),
  expects "123" "that VPC Endpoint Service is configured for Manual Acceptance" "vpc_endpoint_service"
    "acceptance_required",
  .of "192" "WAF prevents message lookup in Log4j2. See CVE-2021-44228 aka log4jshell" "wafv2_web_acl"
    firewallStopsRemoteCode,
  needs "68" "=CloudFront Distribution should have WAF enabled" "cloudfront_distribution" "web_acl_id",
  .of "175" "WAF has associated rules" ["waf_web_acl","wafregional_web_acl","wafv2_web_acl"] firewallHasRules,
  needs "176" "Logging is enabled for WAF  Web Access Control Lists" ["waf_web_acl","wafregional_web_acl"]
    "logging_configuration/[0]/log_destination",
  expects "156" "that Workspace root volumes are encrypted" "workspaces_workspace" "root_volume_encryption_enabled",
  expects "155" "that Workspace user volumes are encrypted" "workspaces_workspace" "user_volume_encryption_enabled"]

end InfraAudit.Terraform.Aws
