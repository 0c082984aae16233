import InfraAudit.Policy.Outline

namespace InfraAudit.Terraform.Aws

open Policy
open Policy.Outline (known)

def buckets := ["aws_s3_bucket"]

def bucketAcls := ["aws_s3_bucket_acl"]

def listeners := ["aws_lb_listener","aws_alb_listener"]

def balancers := ["aws_lb","aws_alb"]

def defaultGroups := ["aws_default_security_group"]

def stages := ["aws_api_gateway_stage"]

def restApis := ["aws_api_gateway_rest_api"]

def memberships := ["aws_iam_group_membership"]

def records := ["aws_route53_record"]

def bucketEncryption := ["aws_s3_bucket_server_side_encryption_configuration"]

def methodSettings := ["aws_api_gateway_method_settings"]

def addressOf (user : String) : Draft :=
  .all [
    .linked "aws_eip" user,
    .only "aws_eip",
    .is "aws_eip" "vpc" true]

def queriesLogged (database engine parameters : String) : List Draft := [
  .only database,
  .keep database "engine" engine,
  .linked database parameters,
  .test parameters "parameter.*.name" "contains" "log_statement",
  .test parameters "parameter.*.name" "contains" "log_min_duration_statement"]

def aclLimited (id access : String) (banned : List String) : Outline :=
  let limited (types : List String) : Draft := .all (.has types "acl" :: banned.map fun acl => .isnt types "acl" (.str acl))
  .ofAny id ("=S3 Bucket has an ACL defined which allows public " ++ access ++ " access.") "GENERAL_SECURITY" [
    limited buckets,
    .all [
      .only buckets,
      .linked buckets bucketAcls,
      .any [
        limited bucketAcls,
        .all [
          .has bucketAcls "access_control_policy",
          .any [
            .lacks bucketAcls "access_control_policy.grant",
            .isnt bucketAcls "access_control_policy.grant.*.grantee.uri"
              "http://acs.amazonaws.com/groups/global/AllUsers"]]]],
    .all [
      .only buckets,
      .lacks buckets "acl",
      .unlinked buckets bucketAcls]]

def policies : List Outline := [
  .of "CKV2_AWS_28" "public facing ALB are protected by WAF" "NETWORKING" [
    .only balancers,
    .any [
      .linked balancers "aws_wafv2_web_acl_association",
      .linked balancers "aws_wafregional_web_acl_association",
      .is balancers "internal" true,
      .test balancers "load_balancer_type" "within" (.ofStrings ["network","gateway"])]],
  .of "CKV2_AWS_20" "that ALB redirects HTTP requests into HTTPS ones" "NETWORKING" [
    .only balancers,
    .ifLinked balancers listeners [
      .any [
        .all [
          .isnt listeners "port" "80",
          .isnt listeners "protocol" "HTTP"],
        .all [
          .is listeners "port" "80",
          .is listeners "protocol" "HTTP",
          .is listeners "default_action.type" "redirect",
          .is listeners "default_action.redirect.*.port" "443",
          .is listeners "default_action.redirect.*.protocol" "HTTPS"]]]],
  .of "CKV2_AWS_7" "that Amazon EMR clusters' security groups are not open to the world" "NETWORKING" [
    .linked "aws_emr_cluster" "aws_security_group",
    .test "aws_security_group" "ingress.*.cidr_blocks" "not_contains" "0.0.0.0/0",
    .only "aws_emr_cluster"],
  .of "CKV2_AWS_4" "API Gateway stage have logging level defined as appropriate" "LOGGING" [
    .linked stages methodSettings,
    .any [
      .is methodSettings "settings.logging_level" "ERROR",
      .is methodSettings "settings.logging_level" "INFO"],
    .is methodSettings "settings.metrics_enabled" true,
    .only stages],
  .ofAny "CKV2_AWS_29" "public API gateway are protected by WAF" "NETWORKING" [
    .all [
      .test restApis "endpoint_configuration.types" "contains" "PRIVATE",
      .linked restApis stages],
    .all [
      .test restApis "endpoint_configuration.types" "contains" "REGIONAL",
      .linked restApis stages,
      .linked stages "aws_wafregional_web_acl_association"],
    .all [
      .any [
        .test restApis "endpoint_configuration.types" "contains" "REGIONAL",
        .test restApis "endpoint_configuration.types" "contains" "EDGE"],
      .linked restApis stages,
      .linked stages "aws_wafv2_web_acl_association"],
    .all [.unlinked restApis stages],
    .only stages],
  .ofAny "CKV2_AWS_35" "=AWS NAT Gateways should be utilized for the default route" "networking" [
    .lacks "aws_route_table" "route.*.instance_id",
    .is "aws_route_table" "route.*.instance_id" "",
    .test "aws_route_table" "route.*.cidr_block" "not_contains" "0.0.0.0/0",
    .lacks "aws_route" "instance_id",
    .is "aws_route" "instance_id" "",
    .test "aws_route" "destination_cidr_block" "not_contains" "0.0.0.0/0"],
  .of "CKV2_AWS_34" "=AWS SSM Parameter should be Encrypted" "Encryption" [
    .is "aws_ssm_parameter" "type" "SecureString"],
  .of "CKV2_AWS_33" "AppSync is protected by WAF" "APPLICATION_SECURITY" [
    .only "aws_appsync_graphql_api",
    .linked "aws_appsync_graphql_api" "aws_wafv2_web_acl_association"],
  .ofAny "CKV2_AWS_16" "that Auto Scaling is enabled on your DynamoDB tables" "GENERAL_SECURITY" [
    .all [
      .only "aws_dynamodb_table",
      .linked "aws_dynamodb_table" "aws_appautoscaling_target",
      .linked "aws_appautoscaling_target" "aws_appautoscaling_policy",
      .is "aws_dynamodb_table" "billing_mode" "PROVISIONED",
      .is "aws_appautoscaling_target" "service_namespace" "dynamodb"],
    .is "aws_dynamodb_table" "billing_mode" "PAY_PER_REQUEST"],
  .of "CKV2_AWS_15" "that auto Scaling groups that are associated with a load balancer, are using Elastic Load Balancing health checks."
    "NETWORKING" [
    .is "aws_autoscaling_group" "health_check_type" "ELB",
    .linked "aws_autoscaling_group" "aws_autoscaling_attachment",
    .linked "aws_elb" "aws_autoscaling_attachment",
    .has "aws_elb" "health_check",
    .only "aws_autoscaling_attachment"],
  .of "CKV2_AWS_32" "CloudFront distribution has a response headers policy attached" "NETWORKING" [
    .only "aws_cloudfront_distribution",
    .linked "aws_cloudfront_distribution" "aws_cloudfront_response_headers_policy"],
  .of "CKV2_AWS_10" "CloudTrail trails are integrated with CloudWatch Logs" "LOGGING" [
    .only "aws_cloudtrail",
    .linked "aws_cloudtrail" "aws_cloudwatch_log_group",
    .has "aws_cloudtrail" "cloud_watch_logs_group_arn"],
  .of "CKV2_AWS_37" "Codecommit associates an approval rule" "GENERAL_SECURITY" [
    .linked "aws_codecommit_repository" "aws_codecommit_approval_rule_template_association",
    .onlyAmong (known "aws") ["aws_codecommit_repository"]],
  .of "CKV2_AWS_9" "that EBS are added in the backup plans of AWS Backup" "BACKUP_AND_RECOVERY" [
    .linked "aws_backup_selection" "aws_ebs_volume",
    .only "aws_ebs_volume"],
  .of "CKV2_AWS_18" "that Elastic File System (Amazon EFS) file systems are added in the backup plans of AWS Backup"
    "BACKUP_AND_RECOVERY" [
    .linked "aws_backup_selection" ["aws_efs_file_system","aws_backup_plan"],
    .only "aws_efs_file_system"],
  .ofAny "CKV2_AWS_19" "that all EIP addresses allocated to a VPC are attached to EC2 instances" "NETWORKING" [
    addressOf "aws_instance",
    .all [
      .linked "aws_eip_association" ["aws_instance","aws_eip"],
      .only "aws_eip",
      .is "aws_eip" "vpc" true,
      .has "aws_eip_association" "instance_id"],
    addressOf "aws_nat_gateway",
    addressOf "aws_transfer_server",
    .all [
      .any [
        .test "aws_eip" "instance" "contains" "module.",
        .test "aws_eip" "instance" "contains" "data."],
      .only "aws_eip"]],
  .of "CKV2_AWS_2" "that only encrypted EBS volumes are attached to EC2 instances" "ENCRYPTION" [
    .any [
      .unlinked "aws_volume_attachment" "aws_ebs_volume",
      .all [
        .is "aws_ebs_volume" "encrypted" true,
        .linked "aws_volume_attachment" "aws_ebs_volume"]],
    .only "aws_ebs_volume"],
  .of "CKV2_AWS_3" "GuardDuty is enabled to specific org/region" "GENERAL_SECURITY" [
    .linked "aws_guardduty_detector" "aws_guardduty_organization_configuration",
    .is "aws_guardduty_organization_configuration" "auto_enable" true,
    .is "aws_guardduty_detector" "enable" true,
    .only "aws_guardduty_detector"],
  .ofAny "CKV2_AWS_36" "terraform is not sending SSM secrets to untrusted domains over HTTP" "SUPPLY_CHAIN" [
    .all [
      .linked "data.http" "aws_ssm_parameter",
      .isnt "aws_ssm_parameter" "type" "SecureString",
      .only "data.http"],
    .all [
      .unlinked "data.http" "aws_ssm_parameter",
      .only "data.http"]],
  .of "CKV2_AWS_14" "that IAM groups includes at least one IAM user" "IAM" [
    .linked "aws_iam_group" memberships,
    .linked memberships "aws_iam_user",
    .has memberships "users",
    .only memberships],
  .of "CKV2_AWS_22" "an IAM User does not have access to the console" "IAM" [
    .only "aws_iam_user",
    .unlinked "aws_iam_user" "aws_iam_user_login_profile"],
  .of "CKV2_AWS_21" "that all IAM users are members of at least one IAM group." "IAM" [
    .linked memberships "aws_iam_user",
    .linked memberships "aws_iam_group",
    .only memberships],
  .ofAny "CKV2_AWS_30" "Postgres RDS as aws_db_instance has Query Logging enabled" "LOGGING"
    (queriesLogged "aws_db_instance" "postgres" "aws_db_parameter_group"),
  .of "CKV2_AWS_27" "Postgres RDS as aws_rds_cluster has Query Logging enabled" "LOGGING"
    (queriesLogged "aws_rds_cluster" "aurora-postgresql" "aws_rds_cluster_parameter_group"),
  .of "CKV2_AWS_8" "that RDS clusters has backup plan of AWS Backup" "BACKUP_AND_RECOVERY" [
    .only "aws_rds_cluster",
    .linked "aws_rds_cluster" "aws_backup_selection"],
  .of "CKV2_AWS_23" "=Route53 A Record has Attached Resource" "NETWORKING" [
    .only records,
    .keep records "type" "A",
    .any [
      .test records "alias.name" "contains" "module",
      .test records "alias.name" "contains" "data.",
      .test records "alias.name" "contains" "var.",
      .linkedBy "networking" records ["aws_instance","aws_eip","aws_elb","aws_lb",
        "aws_alb","aws_route53_record","aws_s3_bucket","aws_api_gateway_domain_name",
        "aws_elastic_beanstalk_environment","aws_vpc_endpoint","aws_globalaccelerator_accelerator",
        "aws_cloudfront_distribution","aws_db_instance","aws_apigatewayv2_domain_name",
        "aws_lightsail_instance"]]],
  .ofAny "CKV_AWS_19" "all data stored in the S3 bucket is securely encrypted at rest" "ENCRYPTION" [
    .test buckets
      "server_side_encryption_configuration.rule.apply_server_side_encryption_by_default.sse_algorithm"
      "within" (.ofStrings ["aws:kms","AES256"]),
    .all [
      .only buckets,
      .linked buckets bucketEncryption,
      .test bucketEncryption
        "rule.apply_server_side_encryption_by_default.sse_algorithm" "within" (.ofStrings ["aws:kms","AES256"])]],
  .of "CKV2_AWS_6" "that S3 bucket has a Public Access block" "Networking" [
    .linked buckets "aws_s3_bucket_public_access_block",
    .only buckets,
    .is "aws_s3_bucket_public_access_block" "block_public_acls" true,
    .is "aws_s3_bucket_public_access_block" "block_public_policy" true],
  .ofAny "CKV_AWS_18" "the S3 bucket has access logging enabled" "LOGGING" [
    .has buckets "logging",
    .all [
      .only buckets,
      .linked buckets "aws_s3_bucket_logging"]],
  .ofAny "CKV_AWS_144" "that S3 bucket has cross-region replication enabled" "GENERAL_SECURITY" [
    .is buckets "replication_configuration.rules.*.status" "Enabled",
    .all [
      .only buckets,
      .linked buckets "aws_s3_bucket_replication_configuration",
      .is "aws_s3_bucket_replication_configuration" "rule.*.status" "Enabled"]],
  .ofAny "CKV_AWS_21" "all data stored in the S3 bucket have versioning enabled" "BACKUP_AND_RECOVERY" [
    .is buckets "versioning.enabled" true,
    .all [
      .only buckets,
      .linked buckets "aws_s3_bucket_versioning",
      .is "aws_s3_bucket_versioning" "versioning_configuration.status" "Enabled"]],
  .ofAny "CKV_AWS_145" "that S3 buckets are encrypted with KMS by default" "ENCRYPTION" [
    .is buckets
      "server_side_encryption_configuration.rule.apply_server_side_encryption_by_default.sse_algorithm" "aws:kms",
    .all [
      .only buckets,
      .linked buckets bucketEncryption,
      .is bucketEncryption
        "rule.apply_server_side_encryption_by_default.sse_algorithm" "aws:kms"]],
  aclLimited "CKV_AWS_20" "READ" ["public-read","public-read-write","website","authenticated-read"],
  aclLimited "CKV_AWS_57" "WRITE" "public-read-write",
  .of "CKV2_AWS_5" "that Security Groups are attached to another resource" "NETWORKING" [
    .only "aws_security_group",
    .linkedBy "networking" "aws_security_group" ["aws_alb","aws_batch_compute_environment",
      "aws_cloudwatch_event_target","aws_codebuild_project","aws_codestarconnections_host",
      "aws_db_instance","aws_dms_replication_instance","aws_docdb_cluster","aws_dax_cluster",
      "aws_ec2_client_vpn_network_association","aws_ecs_service","aws_efs_mount_target",
      "aws_eks_cluster","aws_eks_node_group","aws_elasticache_cluster",
      "aws_elasticache_replication_group","aws_elasticsearch_domain","aws_elb","aws_emr_cluster",
      "aws_glue_dev_endpoint","aws_instance","aws_lambda_function","aws_launch_configuration",
      "aws_launch_template","aws_lb","aws_mq_broker","aws_msk_cluster","aws_mwaa_environment",
      "aws_neptune_cluster","aws_network_interface","aws_rds_cluster","aws_redshift_cluster",
      "aws_sagemaker_notebook_instance","aws_vpc_endpoint","aws_mq_broker","aws_memorydb_cluster"]],
  .of "CKV2_AWS_1" "that all NACL are attached to subnets" "NETWORKING" [
    .any [
      .all [
        .linkedBy "networking" "aws_network_acl" "aws_vpc",
        .linkedBy "networking" "aws_subnet" "aws_vpc",
        .only "aws_vpc"],
      .all [
        .linkedBy "networking" "aws_network_acl" "aws_subnet",
        .has "aws_network_acl" "subnet_ids"]],
    .only "aws_network_acl"],
  .of "CKV2_AWS_11" "VPC flow logging is enabled in all VPCs" "LOGGING" [
    .linkedBy "networking" "aws_vpc" "aws_flow_log",
    .only "aws_vpc"],
  .of "CKV2_AWS_12" "the default security group of every VPC restricts all traffic" "LOGGING" [
    .only "aws_vpc",
    .linked "aws_vpc" defaultGroups,
    .lacks defaultGroups "ingress.to_port",
    .lacks defaultGroups "ingress.from_port",
    .lacks defaultGroups "ingress.self",
    .lacks defaultGroups "egress.to_port",
    .lacks defaultGroups "egress.from_port",
    .lacks defaultGroups "egress.cidr_blocks",
    .lacks defaultGroups "egress.protocol",
    .lacks defaultGroups "ingress.protocol",
    .unlinked defaultGroups "aws_security_group_rule"],
  .of "CKV2_AWS_31" "WAF2 has a Logging Configuration" "LOGGING" [
    .only "aws_wafv2_web_acl",
    .any [.linked "aws_wafv2_web_acl" "aws_wafv2_web_acl_logging_configuration"]]]

end InfraAudit.Terraform.Aws
