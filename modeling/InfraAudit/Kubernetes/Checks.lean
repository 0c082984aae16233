import InfraAudit.Kubernetes.Component
import InfraAudit.Kubernetes.Workload

namespace InfraAudit.Kubernetes

def servingKinds : List String := containerKinds.filter fun kind => kind != "CronJob" && kind != "Job"

def server := "kube-apiserver"

def manager := "kube-controller-manager"

def runs (program id name : String) (judge : Value → Result Verdict) (form : CommandForm := .filled) : Check :=
  onContainers id name (running program judge form)

def onOption (program id option state : String) (judge : String → Value → Result Verdict) (form : CommandForm := .filled) : Check :=
  runs program id s!"--{option} argument {state}" (judge s!"--{option}") form

def withPlugin (id plugin : String) : Check :=
  runs server id s!"that the admission control plugin {plugin} is set" (needsPlugin [plugin])

def checks : List Check := Check.under "CKV_K8S_" "" [
  onContainers "20" "=Containers should not run with allowPrivilegeEscalation" noPrivilegeEscalation,
  .of "5" "=Containers should not run with allowPrivilegeEscalation" "PodSecurityPolicy" policyNoPrivilegeEscalation,
  onContainers "25" "=Minimize the admission of containers with added capability" noAddedCapabilities,
  .of "24" "=Do not allow containers with added capability" "PodSecurityPolicy" policyNoAddedCapabilities,
  onContainers "39" "=Do not use the CAP_SYS_ADMIN linux capability" noAdminCapability,
  runs server "79" "that the admission control plugin AlwaysAdmit is not set"
    (refuseValue "--enable-admission-plugins" (· == "AlwaysAdmit")),
  .of "78" "that the admission control plugin EventRateLimit is set" "AdmissionConfiguration" eventsLimited,
  withPlugin "80" "AlwaysPullImages",
  onOption server "68" "anonymous-auth" "is set to false" (turnedTo · "true" "false"),
  onOption server "91" "audit-log-path" "is set" requireStart .given,
  onOption server "92" "audit-log-maxage" "is set to 30 or as appropriate" (atLeast · 30) .given,
  onOption server "93" "audit-log-maxbackup" "is set to 10 or as appropriate" (atLeast · 10) .given,
  onOption server "94" "audit-log-maxsize" "is set to 100 or as appropriate" (atLeast · 100) .given,
  onOption server "75" "authorization-mode" "includes Node" (requireMode · "Node") .given,
  onOption server "74" "authorization-mode" "is not set to AlwaysAllow" (forbidMode · "AlwaysAllow") .given,
  onOption server "77" "authorization-mode" "includes RBAC" (requireMode · "RBAC") .given,
  onOption server "69" "basic-auth-file" "is not set" forbidStart .words,
  onContainers "104" "that encryption providers are appropriately configured"
    (requireOptions server ["--encryption-provider-config"]),
  onContainers "102" "--etcd-cafile argument is set as appropriate" (requireOptions server ["--etcd-cafile"]),
  runs server "99" "--etcd-certfile and --etcd-keyfile arguments are set as appropriate"
    (requirePair "--etcd-certfile" "--etcd-keyfile") .given,
  onOption server "86" "insecure-bind-address" "is not set" forbidOption,
  onOption server "88" "insecure-port" "is set to 0" (requireSetting · "0"),
  runs server "72" "--kubelet-client-certificate and --kubelet-client-key arguments are set as appropriate"
    (requirePair "--kubelet-client-certificate" "--kubelet-client-key"),
  onOption server "71" "kubelet-https" "is set to true" (forbidSetting · "false"),
  withPlugin "83" "NamespaceLifecycle",
  withPlugin "85" "NodeRestriction",
  withPlugin "84" "PodSecurityPolicy",
  onOption server "90" "profiling" "is set to false" (turnedTo · "true" "false") .given,
  onOption server "95" "request-timeout" "is set as appropriate" (refuseValue · (!timeoutPattern.matches? ·)) .words,
  onOption server "89" "secure-port" "is not set to 0" (forbidSetting · "0") .words,
  runs server "81" "that the admission control plugin SecurityContextDeny is set if PodSecurityPolicy is not used"
    (needsPlugin ["PodSecurityPolicy","SecurityContextDeny"]),
  onOption server "97" "service-account-key-file" "is set as appropriate" (refuseValue · (!pemPattern.matches? ·)),
  onOption server "96" "service-account-lookup" "is set to true" (turnedTo · "false" "true") .given,
  withPlugin "82" "ServiceAccount",
  runs server "105" "that the API Server only makes use of Strong Cryptographic Ciphers" onlyStrongCiphers,
  runs server "100" "--tls-cert-file and --tls-private-key-file arguments are set as appropriate"
    (requirePair "--tls-cert-file" "--tls-private-key-file"),
  onOption server "70" "token-auth-file" "is not set" forbidStart,
  onContainers "73" "--kubelet-certificate-authority argument is set as appropriate" agentAuthority,
  onContainers "11" "=CPU limits should be set" (resourceGiven "limits" "cpu"),
  onContainers "10" "=CPU requests should be set" (resourceGiven "requests" "cpu"),
  onContainers "30" "=Apply security context to your pods and containers" (gives "securityContext"),
  onOption manager "113" "bind-address" "is set to 127.0.0.1" (requireValue · "127.0.0.1"),
  .of "21" "=The default namespace should not be used"
    ["Pod","Deployment","DaemonSet","StatefulSet","ReplicaSet","ReplicationController","Job","CronJob","Service","Secret","ServiceAccount","Role","RoleBinding","ConfigMap","Ingress"]
    ownNamespace,
  .of "41" "that default service accounts are not actively used" "ServiceAccount" defaultAccountUnused,
  .of "42" "that default service accounts are not actively used" ["RoleBinding","ClusterRoleBinding"]
    defaultAccountUnbound,
  .of "27" "=Do not expose the docker daemon socket to containers" workloadKinds noEngineSocket,
  onContainers "28" "=Minimize the admission of containers with the NET_RAW capability" (drops ["ALL","all","NET_RAW"]),
  .onKeys "7" "=Do not admit containers with the NET_RAW capability" "PodSecurityPolicy"
    "spec/requiredDropCapabilities" policyDropsRawNetwork,
  onOption "etcd" "118" "auto-tls" "is not set to true" (forbidSetting · "true") .words,
  runs "etcd" "116" "--cert-file and --key-file arguments are set as appropriate"
    (fun command => do requirePairSoon "--cert-file" "--key-file" false false (← command.elems)),
  onOption "etcd" "117" "client-cert-auth" "is set to true" (requireSetting · "true") .words,
  onContainers "119" "--peer-cert-file and --peer-key-file arguments are set as appropriate"
    (requireOptions "etcd" ["--peer-cert-file","--peer-key-file"]),
  onContainers "26" "=Do not specify hostPort unless absolutely necessary" noHostPort,
  onContainers "43" "=Image should use digest" imageDigest,
  onContainers "15" "=Image Pull Policy should be Always" alwaysPulled,
  onContainers "14" "=Image Tag should be fixed - not latest or blank" fixedTag,
  onOption manager "107" "profiling" "is set to false" (someStarting · "false"),
  onOption manager "111" "root-ca-file" "is set as appropriate" certificateFile,
  onOption manager "108" "use-service-account-credentials" "is set to true" (someStarting · "true"),
  onOption manager "110" "service-account-private-key-file" "is set as appropriate" certificateFile,
  onOption manager "106" "terminated-pod-gc-threshold" "is set as appropriate" (atLeast · 1),
  onOption "kubelet" "138" "anonymous-auth" "is set to false" (turnedTo · "true" "false"),
  onOption "kubelet" "139" "authorization-mode" "is not set to AlwaysAllow" (forbidMode · "AlwaysAllow"),
  runs "kubelet" "140" "--client-ca-file argument is set as appropriate" (certificateFile "--root-ca-file"),
  runs "kubelet" "151" "that the Kubelet only makes use of Strong Cryptographic Ciphers" onlyStrongCiphers,
  onOption "kubelet" "146" "hostname-override" "is not set" forbidOption,
  runs "kubelet" "148" "--tls-cert-file and --tls-private-key-file arguments are set as appropriate"
    (requirePair "--tls-cert-file" "--tls-private-key-file"),
  onOption "kubelet" "145" "make-iptables-util-chains" "is set to true" (requireSetting · "true"),
  onOption "kubelet" "144" "protect-kernel-defaults" "is set to true" (requireSetting · "true"),
  onContainers "141" "--read-only-port argument is set to 0" readOnlyPortClosed,
  onOption "kubelet" "143" "streaming-connection-idle-timeout" "is not set to 0" (forbidSetting · "0"),
  onContainers "33" "the Kubernetes dashboard is not deployed" noDashboard,
  runs "kubelet" "147" "--event-qps argument is set to 0 or a level which ensures appropriate event capture" fewEvents,
  onOption "kubelet" "149" "rotate-certificates" "is not set to false" (forbidSetting · "false"),
  .byType "8" "=Liveness Probe Should be Configured" servingKinds
    (scanContainers (gives "livenessProbe") ["containers"]),
  onContainers "13" "=Memory limits should be set" (resourceGiven "limits" "memory"),
  onContainers "12" "=Memory requests should be set" (resourceGiven "requests" "memory"),
  onContainers "37" "=Minimize the admission of containers with capabilities assigned" dropsAll,
  .of "36" "=Minimize the admission of containers with capabilities assigned" "PodSecurityPolicy"
    policyDropsCapabilities,
  .of "154" "=Prevent NGINX Ingress annotation snippets which contain alias statements See CVE-2021-25742" "Ingress"
    noAliasSnippet,
  .of "153" "=Prevent All NGINX Ingress annotation snippets. See CVE-2021-25742" "Ingress" noSnippet,
  .of "152" "=Prevent NGINX Ingress annotation snippets which contain LUA code execution. See CVE-2021-25742"
    "Ingress" noLuaSnippet,
  .of "121" "--peer-client-cert-auth argument is set to true" "Pod" storePeersChecked,
  .of "29" "=Apply security context to your pods and containers" workloadKinds securityContextGiven,
  onContainers "16" "=Container should not be privileged" (inContext "privileged" false),
  .of "2" "=Do not admit privileged containers" "PodSecurityPolicy" (omittedOrOff "spec/privileged"),
  .of "156" "=Minimize ClusterRoles that grant permissions to approve CertificateSigningRequests" "ClusterRole"
    (notAllowed approveCertificates),
  .of "157" "=Minimize Roles and ClusterRoles that grant permissions to bind RoleBindings or ClusterRoleBindings"
    ["Role","ClusterRole"] (notAllowed bindRoles),
  .of "155" "=Minimize ClusterRoles that grant control over validating or mutating admission webhook configurations"
    "ClusterRole" (notAllowed controlWebhooks),
  .of "158" "=Minimize Roles and ClusterRoles that grant permissions to escalate Roles or ClusterRoles"
    ["Role","ClusterRole"] (notAllowed escalateRoles),
  onContainers "22" "=Use read-only filesystem for containers where possible" (inContext "readOnlyRootFilesystem" true),
  .byType "9" "=Readiness Probe Should be Configured" servingKinds
    (scanContainers (gives "readinessProbe") ["containers"]),
  .of "23" "=Minimize the admission of root containers" workloadKinds noRootContainers,
  .of "40" "=Containers should run as a high UID to avoid host conflict" workloadKinds highUsers,
  .of "6" "=Do not admit root containers" "PodSecurityPolicy" policyNonRoot,
  onContainers "112" "that the RotateKubeletServerCertificate argument is set to true" serverCertificateRenewed,
  onOption "kube-scheduler" "115" "bind-address" "is set to 127.0.0.1" (requireValue · "127.0.0.1"),
  onOption "kube-scheduler" "114" "profiling" "is set to false" (requireSetting · "false"),
  .of "31" "that the seccomp profile is set to docker/default or runtime/default" workloadKinds systemCallProfile,
  .of "32" "default seccomp profile set to docker/default or runtime/default" "PodSecurityPolicy" policyProfile,
  onContainers "35" "=Prefer using secrets as files over secrets as environment variables" noSecretVariables,
  .of "38" "that Service Account Tokens are only mounted where necessary" workloadKinds tokenNotMounted,
  .of "18" "=Containers should not share the host IPC namespace" workloadKinds (notShared "hostIPC"),
  .of "3" "=Do not admit containers wishing to share the host IPC namespace" "PodSecurityPolicy"
    (omittedOrOff "spec/hostIPC"),
  .of "17" "=Containers should not share the host process ID namespace" workloadKinds (notShared "hostPID"),
  .of "1" "=Do not admit containers wishing to share the host process ID namespace" "PodSecurityPolicy"
    (omittedOrOff "spec/hostPID"),
  .of "19" "=Containers should not share the host network namespace" workloadKinds (notShared "hostNetwork"),
  .of "4" "=Do not admit containers wishing to share the host network namespace" "PodSecurityPolicy"
    (omittedOrOff "spec/hostNetwork"),
  onContainers "34" "that Tiller (Helm v2) is not deployed" noTiller,
  onContainers "45" "the Tiller Deployment (Helm V2) is not accessible from within the cluster" tillerListensLocally,
  .of "44" "that the Tiller Service (Helm v2) is deleted" "Service" noTillerService,
  .of "49" "=Minimize wildcard use in Roles and ClusterRoles" ["Role","ClusterRole"] noWildcards]

end InfraAudit.Kubernetes
