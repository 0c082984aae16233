import InfraAudit.Text.Basic

/-!
The types of resources of each provider, without the word for the provider. Words in brackets go on from the word before
them, and a point stands for that word alone.
-/

namespace InfraAudit.Policy

def awsNames : String :=
  "root(. _access_key) acm_certificate(. _validation) acmpca_certificate_authority api_gateway_(account api_key
  authorizer base_path_mapping client_certificate deployment documentation_(part version) domain_name gateway_response
  integration(. _response) method(. _response _settings) model request_validator resource rest_api stage usage_plan(.
  _key) vpc_link) apigatewayv2_(api api_mapping authorizer deployment domain_name integration(. _response) model
  route(. _response) stage vpc_link) accessanalyzer_analyzer appmesh_(mesh route virtual_(node router service))
  appsync_(api_key datasource function graphql_api resolver) appautoscaling_(policy scheduled_action target)
  athena_(database named_query workgroup) autoscaling_(attachment group lifecycle_hook notification policy schedule)
  backup_(plan selection vault) batch_(compute_environment job_(definition queue)) budgets_budget
  cloud9_environment_ec2 cloudformation_stack(. _set(. _instance)) cloudfront_(distribution origin_access_identity
  public_key) cloudhsm_v2_(cluster hsm) cloudtrail cloudwatch_(dashboard event_(permission rule target)
  log_(destination(. _policy) group metric_filter resource_policy stream subscription_filter) metric_alarm)
  codebuild_(project source_credential webhook) codecommit_(repository trigger) codedeploy_(app deployment_(config
  group)) codepipeline(. _webhook) codestarnotifications_notification_rule cognito_(identity_(pool(.
  _roles_attachment) provider) resource_server user_(group pool(. _client _domain))) config_(aggregate_authorization
  config_rule configuration_(aggregator recorder(. _status)) delivery_channel organization_(custom_rule managed_rule))
  cur_report_definition dlm_lifecycle_policy datapipeline_pipeline datasync_(agent location_(efs nfs s3 smb) task)
  dms_(certificate endpoint event_subscription replication_(instance subnet_group task)) devicefarm_project
  dx_(bgp_peer connection(. _association) gateway(. _association(. _proposal)) hosted_(private_virtual_interface(.
  _accepter) public_virtual_interface(. _accepter) transit_virtual_interface(. _accepter)) lag
  private_virtual_interface public_virtual_interface transit_virtual_interface)
  directory_service_(conditional_forwarder directory log_subscription) docdb_(cluster(. _instance _parameter_group
  _snapshot) subnet_group) dynamodb_(global_table table(. _item)) dax_(cluster parameter_group subnet_group) ami
  ami_(copy from_instance launch_permission) ebs_(default_kms_key encryption_by_default snapshot(. _copy) volume)
  ec2_(availability_zone_group capacity_reservation client_vpn_(authorization_rule endpoint network_association route)
  fleet local_gateway_route(. _table_vpc_association) tag traffic_mirror_(filter(. _rule) session target)
  transit_gateway(. _peering_attachment(. _accepter) _route(. _table(. _association _propagation)) _vpc_attachment(.
  _accepter))) eip eip_association instance key_pair launch_(configuration template) placement_group
  snapshot_create_volume_permission spot_(datafeed_subscription fleet_request instance_request) volume_attachment
  ecr_(lifecycle_policy repository(. _policy)) ecs_(capacity_provider cluster service task_definition)
  efs_(access_point file_system(. _policy) mount_target) eks_(cluster fargate_profile node_group) elasticache_(cluster
  parameter_group replication_group security_group subnet_group) elastic_beanstalk_(application(. _version)
  configuration_template environment) app_cookie_stickiness_policy elb elb_attachment lb_(cookie_stickiness_policy
  ssl_negotiation_policy) load_balancer_(backend_server_policy listener_policy policy) proxy_protocol_policy lb
  lb_(listener(. _certificate _rule) target_group(. _attachment)) emr_(cluster instance_group security_configuration)
  elastictranscoder_(pipeline preset) elasticsearch_domain(. _policy) fsx_(lustre_file_system windows_file_system)
  fms_admin_account gamelift_(alias build fleet game_session_queue) glacier_vault(. _lock)
  globalaccelerator_(accelerator endpoint_group listener) glue_(catalog_(database table) classifier connection crawler
  job security_configuration trigger workflow) guardduty_(detector invite_accepter ipset member
  organization_(admin_account configuration) threatintelset) iam_(access_key account_(alias password_policy) group(.
  _membership _policy(. _attachment)) instance_profile openid_connect_provider policy(. _attachment _document) role(.
  _policy(. _attachment)) saml_provider server_certificate service_linked_role user(. _(group_membership login_profile
  policy(. _attachment) ssh_key))) inspector_(assessment_(target template) resource_group) iot_(certificate policy(.
  _attachment) role_alias thing(. _principal_attachment _type) topic_rule) kms_(alias ciphertext external_key grant
  key) kinesis_(analytics_application stream firehose_delivery_stream video_stream) lambda_(alias event_source_mapping
  function(. _event_invoke_config) layer_version permission provisioned_concurrency_config)
  licensemanager_(association license_configuration) lightsail_(domain instance key_pair static_ip(. _attachment))
  mq_(broker configuration) macie_(member_account_association s3_bucket_association) msk_(cluster configuration)
  media_(convert_queue package_channel store_container(. _policy)) neptune_(cluster(. _instance _parameter_group
  _snapshot) event_subscription parameter_group subnet_group) opsworks_(application custom_layer ganglia_layer
  haproxy_layer instance java_app_layer memcached_layer mysql_layer nodejs_app_layer permission php_app_layer
  rails_app_layer rds_db_instance stack static_web_layer user_profile) organizations_(account organization
  organizational_unit policy(. _attachment)) pinpoint_(adm_channel apns_(channel sandbox_channel voip_(channel
  sandbox_channel)) app baidu_channel email_channel event_stream gcm_channel sms_channel) qldb_ledger
  quicksight_(group user) ram_(principal_association resource_(association share(. _accepter))) db_(cluster_snapshot
  event_subscription instance(. _role_association) option_group parameter_group security_group snapshot subnet_group)
  rds_(cluster(. _endpoint _instance _parameter_group) global_cluster) redshift_(cluster event_subscription
  parameter_group security_group snapshot_(copy_grant schedule(. _association)) subnet_group) resourcegroups_group
  route53_(delegation_set health_check query_log record zone(. _association) resolver_(endpoint rule(. _association)))
  s3_(access_point account_public_access_block bucket(. _(analytics_configuration inventory metric notification object
  policy public_access_block))) ses_(active_receipt_rule_set configuration_set domain_(dkim identity(. _verification)
  mail_from) email_identity event_destination identity_(notification_topic policy) receipt_(filter rule(. _set))
  template) sns_(platform_application sms_preferences topic(. _policy _subscription)) sqs_queue(. _policy)
  ssm_(activation association document maintenance_window(. _target _task) parameter patch_(baseline group)
  resource_data_sync) swf_domain sagemaker_(endpoint(. _configuration) model notebook_instance(.
  _lifecycle_configuration)) secretsmanager_secret(. _rotation _version) securityhub_(account member
  product_subscription standards_subscription) servicecatalog_portfolio service_discovery_(http_namespace
  private_dns_namespace public_dns_namespace service) servicequotas_service_quota shield_protection simpledb_domain
  sfn_(activity state_machine) storagegateway_(cache cached_iscsi_volume gateway nfs_file_share smb_file_share
  upload_buffer working_storage) transfer_(server ssh_key user) customer_gateway default_(network_acl route_table
  security_group subnet vpc vpc_dhcp_options) egress_only_internet_gateway flow_log internet_gateway
  main_route_table_association nat_gateway network_(acl acl_rule interface(. _attachment _sg_attachment)) route(.
  _table(. _association)) security_group(. _rule) subnet vpc vpc_(dhcp_options(. _association) endpoint(.
  _(connection_notification route_table_association service(. _allowed_principal) subnet_association))
  ipv4_cidr_block_association peering_connection(. _accepter _options)) vpn_(connection(. _route) gateway(.
  _attachment _route_propagation)) waf_(byte_match_set geo_match_set ipset rate_based_rule regex_(match_set
  pattern_set) rule(. _group) size_constraint_set sql_injection_match_set web_acl xss_match_set)
  wafregional_(byte_match_set geo_match_set ipset rate_based_rule regex_(match_set pattern_set) rule(. _group)
  size_constraint_set sql_injection_match_set web_acl(. _association) xss_match_set) wafv2_(ip_set regex_pattern_set
  rule_group web_acl(. _association _logging_configuration)) worklink_(fleet
  website_certificate_authority_association) workspaces_(directory ip_group workspace) xray_sampling_rule
  route53_vpc_association_authorization"

def googleNames : String :=
  "access_context_manager_(access_(level policy) service_perimeter(. _resource)) app_engine_(application(.
  _url_dispatch_rules) domain_mapping firewall_rule flexible_app_version service_split_traffic standard_app_version)
  bigquery_(dataset(. _access _iam) job table data_transfer_config) binary_authorization_(attestor(. _iam) policy)
  logging_(billing_account_(bucket_config exclusion sink) folder_(bucket_config exclusion sink) metric
  organization_(bucket_config exclusion sink) project_(bucket_config exclusion sink)) monitoring_(alert_policy
  dashboard group metric_descriptor notification_channel service slo uptime_check_config) cloud_asset_(folder_feed
  organization_feed project_feed) bigtable_(app_profile gc_policy instance(. _iam) table) cloudbuild_trigger
  composer_environment dns_(managed_zone policy record_set) deployment_manager_deployment endpoints_service(. _iam)
  cloudfunctions_(cloud_function_iam function) healthcare_(dataset(. _iam) dicom_store(. _iam) fhir_store(. _iam)
  hl7_v2_store(. _iam)) cloudiot_device(. _registry) kms_(crypto_key_iam key_ring_iam crypto_key key_ring(.
  _import_job) secret_ciphertext) billing_account_iam_(binding member policy) folder(. _iam_(audit_config binding
  member policy) _organization_policy) organization_(iam_(audit_config binding custom_role member policy) policy)
  project(. _iam_(binding member custom_role) _organization_policy _service) service_account(. _iam _key)
  usage_export_bucket pubsub_(subscription(. _iam) topic(. _iam)) cloud_run_(domain_mapping service(. _iam))
  sql_(database(. _instance) source_representation_instance ssl_cert user) cloud_scheduler_job sourcerepo_repository(.
  _iam) spanner_(database(. _iam) instance(. _iam)) storage_(bucket(. _(access_control acl iam_(binding member)
  object)) default_object_(access_control acl) hmac_key notification object_(access_control acl)) tpu_node
  cloud_tasks_queue compute_(address attached_disk autoscaler backend_(bucket(. _signed_url_key) service(.
  _signed_url_key)) disk(. _resource_policy_attachment) firewall forwarding_rule global_(address forwarding_rule
  network_endpoint(. _group)) health_check http_health_check https_health_check image instance(. _(from_template
  group(. _manager _named_port) iam template)) interconnect_attachment network(. _endpoint(. _group) _peering(.
  _routes_config)) node_(group template) project_(default_network_tier metadata(. _item)) region_(autoscaler
  backend_service disk(. _resource_policy_attachment) health_check instance_group_manager ssl_certificate
  target_(http_proxy https_proxy) url_map) reservation resource_policy route router(. _bgp_peer _interface _nat)
  security_policy shared_vpc_(host_project service_project) snapshot ssl_(certificate policy) subnetwork(. _iam)
  target_(http_proxy https_proxy instance pool ssl_proxy tcp_proxy) url_map vpn_(gateway tunnel))
  container_(analysis_(note occurrence) registry) data_catalog_(entry(. _group(. _iam)) tag tag_template) dataflow_job
  dataproc_(autoscaling_policy cluster(. _iam) job job_iam) datastore_index dialogflow_(agent entity_type intent)
  filestore_instance firestore_index identity_platform_(default_supported_idp_config inbound_saml_config
  oauth_idp_config tenant(. _default_supported_idp_config _inbound_saml_config _oauth_idp_config))
  iap_(app_engine_(service_iam version_iam) brand client tunnel_instance_iam web_(backend_service_iam iam
  type_(app_engine_iam compute_iam))) container_(cluster node_pool) ml_engine_model redis_instance
  network_management_connectivity_test_resource os_(config_patch_deployment login_ssh_public_key)
  resource_manager_lien runtimeconfig_(config(. _iam) variable) secret_manager_secret(. _iam _version) scc_source
  vpc_access_connector service_networking_connection storage_transfer_job project_iam storage_bucket_iam
  dataflow_flex_template_job active_directory_domain"

def azureNames : String :=
  "api_management(. _(api api_(operation(. _policy) policy schema version_set) authorization_server backend certificate
  diagnostic group(. _user) identity_provider_(aad facebook google microsoft twitter) logger named_value
  openid_connect_provider product(. _api _group _policy) property subscription user)) analysis_services_server
  app_(configuration service(. _(active_slot certificate(. _order) custom_hostname_binding environment
  hybrid_connection plan slot(. _virtual_network_swift_connection) source_control_token
  virtual_network_swift_connection))) function_app(. _slot) application_insights(. _analytics_item _api_key _web_test)
  role_(assignment definition) user_assigned_identity automation_(account certificate connection(. _certificate
  _classic_certificate _service_principal) credential dsc_(configuration nodeconfiguration) job_schedule module
  runbook schedule variable_(bool datetime int string)) resource_group batch_(account application certificate pool)
  blueprint_assignment bot_(channel_(directline email ms_teams slack) channels_registration connection web_app)
  cdn_(endpoint profile) cognitive_account availability_set dedicated_host(. _group) disk_encryption_set image
  linux_virtual_machine(. _scale_set) managed_disk marketplace_agreement orchestrated_virtual_machine_scale_set
  proximity_placement_group shared_image(. _gallery _version) snapshot virtual_machine(. _data_disk_attachment
  _extension _scale_set(. _extension)) windows_virtual_machine(. _scale_set) container_(group registry(. _webhook))
  kubernetes_cluster(. _node_pool) cosmosdb_(account cassandra_keyspace gremlin_(database graph) mongo_(collection
  database) sql_(container database) table) cost_management_export_resource_group custom_provider dns_(a_record
  aaaa_record caa_record cname_record mx_record ns_record ptr_record srv_record txt_record zone)
  kusto_(attached_database_configuration cluster(. _customer_managed_key _principal_assignment) database(.
  _principal(. _assignment)) eventhub_data_connection) data_(factory(. _(dataset_(azure_blob cosmosdb_sqlapi
  delimited_text http json mysql postgresql sql_server_table) integration_runtime_(managed self_hosted)
  linked_service_(azure_(blob_storage file_storage function) cosmosdb data_lake_storage_gen2 key_vault mysql
  postgresql sftp sql_server web) pipeline trigger_schedule)) lake_(analytics_(account firewall_rule) store(. _file
  _firewall_rule)) share(. _account _dataset_(blob_storage data_lake_gen1))) mariadb_(configuration database
  firewall_rule server virtual_network_rule) mssql_(database(. _vulnerability_assessment_rule_baseline) elasticpool
  server(. _security_alert_policy _vulnerability_assessment) virtual_machine) mysql_(active_directory_administrator
  configuration database firewall_rule server virtual_network_rule) postgresql_(active_directory_administrator
  configuration database firewall_rule server virtual_network_rule) sql_(active_directory_administrator database
  elasticpool failover_group firewall_rule server virtual_network_rule) database_migration_(project service)
  databricks_workspace dev_test_(global_vm_shutdown_schedule lab linux_virtual_machine policy schedule virtual_network
  windows_virtual_machine) devspace_controller hdinsight_(hadoop_cluster hbase_cluster interactive_query_cluster
  kafka_cluster ml_services_cluster rserver_cluster spark_cluster storm_cluster) dedicated_hardware_security_module
  healthcare_service iotcentral_application iothub(. _consumer_group _dps(. _certificate _shared_access_policy)
  _shared_access_policy) key_vault(. _(access_policy certificate(. _issuer) key secret)) lb lb_(backend_address_pool
  nat_(pool rule) outbound_rule probe rule) log_analytics_(datasource_windows_(event performance_counter)
  linked_service solution workspace) logic_app_(action_(custom http) integration_account trigger_(custom http_request
  recurrence) workflow) machine_learning_workspace maintenance_(assignment_(dedicated_host virtual_machine)
  configuration) managed_application(. _definition) management_(group lock) maps_account media_services_account
  eventgrid_(domain(. _topic) event_subscription topic) eventhub(. _(authorization_rule cluster consumer_group
  namespace(. _authorization_rule _disaster_recovery_config))) iothub_(endpoint_(eventhub servicebus_(queue topic)
  storage_container) fallback_route route) notification_hub(. _authorization_rule _namespace) relay_(hybrid_connection
  namespace) servicebus_(namespace(. _authorization_rule _network_rule_set) queue(. _authorization_rule)
  subscription(. _rule) topic(. _authorization_rule)) signalr_service spatial_anchors_account monitor_(action_(group
  rule_(action_group suppression)) activity_log_alert autoscale_setting diagnostic_setting log_profile metric_alert
  scheduled_query_rules_(alert log)) netapp_(account pool snapshot volume) application_(gateway security_group)
  bastion_host express_route_(circuit(. _authorization _peering) gateway) firewall(. _application_rule_collection
  _nat_rule_collection _network_rule_collection) frontdoor(. _custom_https_configuration _firewall_policy)
  local_network_gateway nat_gateway(. _public_ip_association) network_(ddos_protection_plan interface(.
  _(application_(gateway_backend_address_pool_association security_group_association) backend_address_pool_association
  nat_rule_association security_group_association)) packet_capture profile security_(group rule) watcher(. _flow_log))
  packet_capture point_to_site_vpn_gateway private_(endpoint link_service) public_ip(. _prefix) route(. _filter
  _table) subnet(. _nat_gateway_association _network_security_group_association _route_table_association)
  traffic_manager_(endpoint profile) virtual_(hub hub_connection network(. _gateway(. _connection) _peering) wan)
  vpn_(gateway server_configuration) web_application_firewall_policy policy_(assignment definition remediation
  set_definition) dashboard powerbi_embedded private_dns_(a_record aaaa_record cname_record mx_record ptr_record
  srv_record txt_record zone(. _virtual_network_link)) backup_(container_storage_account policy_(file_share vm)
  protected_(file_share vm)) recovery_services_vault site_recovery_(fabric network_mapping protection_container(.
  _mapping) replicated_vm replication_policy) redis_(cache firewall_rule) search_service advanced_threat_protection
  security_center_(contact subscription_pricing workspace) sentinel_alert_rule_(ms_security_incident scheduled)
  service_fabric_cluster spring_cloud_(app service) hpc_cache(. _blob_target _nfs_target) storage_(account(.
  _customer_managed_key _network_rules) blob container data_lake_gen2_filesystem management_policy queue share(.
  _directory) table(. _entity)) stream_analytics_(function_javascript_udf job output_(blob eventhub mssql
  servicebus_(queue topic)) reference_input_blob stream_input_(blob eventhub iothub)) synapse_workspace
  template_deployment iot_time_series_insights_(access_policy reference_data_set standard_environment)"

structure NameReader where
  starts : List String := []
  word : String := ""
  names : List String := []

def NameReader.read (r : NameReader) (c : Char) : NameReader :=
  let start := r.starts.headD ""
  let names := if r.word.isEmpty then r.names else r.names ++ [start ++ if r.word == "." then "" else r.word]
  match c with
  | '(' => {r with starts := (start ++ r.word) :: r.starts, word := ""}
  | ')' => {starts := r.starts.tail, names}
  | ' ' | '\n' => {r with word := "", names}
  | c => {r with word := r.word.push c}

def namesIn (text : String) : List String := ((text ++ " ").toList.foldl NameReader.read {}).names

def knownTypes? : String → Option (List String)
  | "aws" => some ("aws" :: (namesIn awsNames).map ("aws_" ++ ·))
  | "gcp" => some ((namesIn googleNames).map ("google_" ++ ·))
  | "azure" => some ((namesIn azureNames).map ("azurerm_" ++ ·))
  | _ => none

end InfraAudit.Policy
