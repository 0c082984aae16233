import InfraAudit.Document.Lined
import InfraAudit.Json.Path.Reader

namespace InfraAudit.HostSettings

inductive Schema where
  | anything
  | text
  | truth
  | nothing
  | integer (wholeFloats : Bool)
  | number
  | object (required : List String) (properties : List (String × Schema))
  | listOf (item : Schema)
  | startingWith (items : List Schema)
  | either (a b : Schema)

namespace Schema

def isWhole (x : Float) : Bool := x == x.floor && !x.isInf

mutual

def accepts : Schema → Value → Bool
  | .anything,_ => true
  | .text,v => v.isText
  | .truth,v => v.isBool
  | .nothing,v => v.isNull
  | .integer wholeFloats,v => match v with
    | .int _ => true
    | .float x => wholeFloats && isWhole x
    | _ => false
  | .number,v => match v with
    | .int _ | .float _ => true
    | _ => false
  | .object required properties,v => v.isDict && required.all v.hasKey && acceptsFields properties v
  | .listOf item,v => match v with
    | .list xs => xs.all item.accepts
    | _ => false
  | .startingWith items,v => match v with
    | .list xs => acceptsStart items xs
    | _ => false
  | .either a b,v => a.accepts v || b.accepts v

/-- Whether the values under some keys, if any, have the given shapes. -/
def acceptsFields : List (String × Schema) → Value → Bool
  | [],_ => true
  | (k,s)::r,v => (match v.get? k with
      | some w => s.accepts w
      | none => true) && acceptsFields r v

def acceptsStart : List Schema → List Value → Bool
  | s::ss,v :: vs => s.accepts v && acceptsStart ss vs
  | _,_ => true

end

def allOf (properties : List (String × Schema)) : Schema := .object (properties.map Prod.fst) properties

def each (s : Schema) (keys : List String) : List (String × Schema) := keys.map (·,s)

def texts : List String → List (String × Schema) := each .text

def optionalText : Schema := .either .text .nothing

end Schema

end InfraAudit.HostSettings

namespace InfraAudit.HostSettings.Github

open Value

open Document (Rule)

abbrev Judgement := Result (Verdict × Trail)

def enabled : Schema := .allOf [("enabled",.truth)]

def enabledAt : Schema := .allOf [("url",.text),("enabled",.truth)]

def branchProtection : Schema :=
  .object ["url","enforce_admins","required_linear_history","allow_force_pushes","allow_deletions"]
    [("url",.text),("required_signatures",enabledAt),("enforce_admins",enabledAt),
      ("required_linear_history",enabled),("allow_force_pushes",enabled),("allow_deletions",enabled),
      ("required_conversation_resolution",enabled)]

def refusal : Schema := .allOf (Schema.texts ["message","documentation_url"])

def organization : Schema :=
  let texts := ["name","login","description","ipAllowListEnabledSetting","ipAllowListForInstalledAppsEnabledSetting"]
  .allOf [("data",.allOf [("organization",
    .object (texts ++ ["requiresTwoFactorAuthentication"])
      (Schema.texts texts ++ [("requiresTwoFactorAuthentication",.truth),
        ("samlIdentityProvider",.object [] [("ssoUrl",.text)])]))])]

def hookRequired := ["id","url","type","name","active","events","config","ping_url","created_at","updated_at"]

def hookProperties : List (String × Schema) :=
  [("id",.integer true),("events",.listOf .text),("active",.truth)] ++
    Schema.texts ["url","ping_url","deliveries_url","name","updated_at","created_at","type"]

def organizationHooks : Schema :=
  .listOf (.object hookRequired (hookProperties ++
    [("config",.object [] (Schema.texts ["url","insecure_ssl","content_type","secret"]))]))

def repositoryHooks : Schema :=
  let texts := ["email","password","room","subdomain","url","content_type","digest","secret","token"]
  .listOf (.object (hookRequired ++ ["last_response","test_url"]) (hookProperties ++ [("test_url",.text),
      ("config",.object [] (Schema.texts texts ++ [("insecure_ssl",.either .text .number)])),
      ("last_response",.allOf [("code",.either (.integer true) .nothing),("status",.optionalText),
        ("message",.optionalText)])]))

def collaborators : Schema :=
  let texts := ["avatar_url","events_url","followers_url","following_url","gists_url","html_url","node_id",
    "login","organizations_url","received_events_url","repos_url","starred_url","subscriptions_url","type",
    "url","role_name"]
  .listOf (.object (texts ++ ["gravatar_id","id","site_admin"])
    (Schema.texts texts ++ [("gravatar_id",.optionalText),("id",.integer true),("site_admin",.truth),
      ("email",.optionalText),("name",.optionalText),("permissions",.object ["pull","push","admin"]
        (Schema.each .truth ["pull","triage","push","maintain","admin"]))]))

variable (path : String)

def valuesBelow (conf : Value) : Result (List Value) := do
  return (← (← Json.Path.read ("$.." ++ path)).select conf).map (·.value)

def passIf (s : Schema) (holds : Value → Result Bool) (conf : Value) : Judgement :=
  if s.accepts conf then do return (.passIf (← holds conf),[]) else .ok (.silent,[])

def allAre (expected conf : Value) : Result Bool := do return (← valuesBelow path conf).all (· == expected)

def branchRule (expected conf : Value) : Judgement :=
  if !branchProtection.accepts conf && refusal.accepts conf && conf.getD "message" == "Branch not protected" then
    .ok (.failed,[])
  else passIf branchProtection (allAre path expected) conf

def organizationRule (expected : Value) : Value → Judgement := passIf organization (allAre path expected)

def signOn : Value → Judgement := passIf organization fun conf =>
  return !(← valuesBelow "data.organization.samlIdentityProvider.ssoUrl" conf).isEmpty

def twoAdmins : Value → Judgement := passIf collaborators fun conf =>
  return 2 ≤ (conf.items.filter fun c => ((c.getD "permissions").getD "admin").truthy).length

def badHook? (bad : Value → Bool) (conf : Value) : Option Trail :=
  (conf.items.zipIdx.find? fun (hook,_) =>
    let config := hook.getD "config"
    config.truthy && bad config).map fun (_,i) => [.int i,"config"]

def isPlainHttp (config : Value) : Bool := (config.getD "url").text?.any (Text.startsWith · "http://")

def isUnverified (config : Value) : Bool := (config.get? "insecure_ssl").any (· != .str "0")

def hidesSecret (config : Value) : Bool := config.getD "secret" == "********"

def hooksSecure (conf : Value) : Judgement :=
  let forRepository := repositoryHooks.accepts conf
  let forOrganization := organizationHooks.accepts conf
  let inRepository := if forRepository then badHook? (fun c => isPlainHttp c || isUnverified c) conf else none
  let inOrganization :=
    if forOrganization then badHook? (fun c => isPlainHttp c || isUnverified c && !hidesSecret c) conf else none
  match inRepository.or inOrganization with
  | some t => .ok (.failed,t)
  | none => .ok (if forOrganization || forRepository then .passed else .silent, [])

def rule (id name : String) (scan : Value → Judgement) : Rule Trail :=
  {id, name, entities := ["*"], shape := .whole, scan}

def rules : List (Rule Trail) := [
  rule "CKV_GITHUB_1" "Ensure GitHub organization security settings require 2FA"
    (organizationRule "data.organization.requiresTwoFactorAuthentication" true),
  rule "CKV_GITHUB_5" "Ensure GitHub branch protection rules does not allow force pushes"
    (branchRule "allow_force_pushes.enabled" false),
  rule "CKV_GITHUB_10" "Ensure branch protection rules are enforced on administrators"
    (branchRule "enforce_admins.enabled" true),
  rule "CKV_GITHUB_3" "Ensure GitHub organization security settings has IP allow list enabled"
    (organizationRule "data.organization.ipAllowListForInstalledAppsEnabledSetting" "ENABLED"),
  rule "CKV_GITHUB_9" "Ensure 2 admins are set for each repository" twoAdmins,
  rule "CKV_GITHUB_8" "Ensure GitHub branch protection rules requires linear history"
    (branchRule "required_linear_history.enabled" true),
  rule "CKV_GITHUB_4" "Ensure GitHub branch protection rules requires signed commits"
    (branchRule "required_signatures.enabled" true),
  rule "CKV_GITHUB_2" "Ensure GitHub organization security settings require SSO" signOn,
  rule "CKV_GITHUB_7" "Ensure GitHub organization and repository webhooks are using HTTPS" hooksSecure]

end InfraAudit.HostSettings.Github

namespace InfraAudit.HostSettings.Gitlab

open Document (Rule)
open Github (Judgement passIf rule)

def approvals : Schema :=
  .allOf (("approvals_before_merge",.integer false) :: Schema.each .truth
    ["reset_approvals_on_push","disable_overriding_approvers_per_merge_request","merge_requests_author_approval",
      "merge_requests_disable_committers_approval","require_password_to_approve"])

def groups : Schema :=
  .startingWith [.allOf (
    Schema.each (.integer false) ["id","two_factor_grace_period","default_branch_protection"] ++
    Schema.texts ["web_url","name","path","description","visibility","project_creation_level",
      "subgroup_creation_level","full_name","full_path","created_at"] ++
    Schema.each .truth ["share_with_group_lock","require_two_factor_authentication","lfs_enabled",
      "request_access_enabled"] ++
    Schema.each .nothing ["auto_devops_enabled","emails_disabled","mentions_disabled","avatar_url","parent_id",
      "ldap_cn","ldap_access"])]

def twoApprovals : Value → Judgement := passIf approvals fun conf =>
  return !(← (← conf.getOr "approvals_before_merge" (.int 0)).lt (.int 2))

def member (v : Value) (k : String) (d : Value) : Result Value :=
  match v with
  | .list _ => .error .noTemplateMember
  | v => v.getOr k d

def twoFactors : Value → Judgement := passIf groups fun conf =>
  conf.items.anyM fun g => return (← member g "require_two_factor_authentication" false).isTrue

def rules : List (Rule Value.Trail) := [
  rule "CKV_GITLAB_1" "Merge requests should require at least 2 approvals" twoApprovals,
  rule "CKV_GITLAB_2" "Ensure all Gitlab groups require two factor authentication" twoFactors]

end InfraAudit.HostSettings.Gitlab

namespace InfraAudit.HostSettings.Bitbucket

open Document (Rule)
open Github (Judgement passIf rule)

def restriction : Schema :=
  .allOf (Schema.texts ["kind","pattern","branch_match_kind","type"] ++
    [("users",.listOf .anything),("groups",.listOf .anything),("id",.integer false),
      ("links",.allOf [("self",.allOf [("href",.text)])])])

def restrictions : Schema :=
  .allOf (Schema.each (.integer false) ["pagelen","page","size"] ++
    [("values",.startingWith [restriction,restriction,restriction])])

def twoApprovals : Value → Judgement := passIf restrictions fun conf => (conf.getD "values").items.anyM fun r => do
    if (← Gitlab.member r "kind" "") == "require_approvals_to_merge" then
      (← Gitlab.member r "value" (.int 0)).ge (.int 2)
    else return false

def rules : List (Rule Value.Trail) := [
  rule "CKV_BITBUCKET_1" "Merge requests should require at least 2 approvals" twoApprovals]

end InfraAudit.HostSettings.Bitbucket

namespace InfraAudit.HostSettings

open Document (Placed Rule)

structure Host where
  framework : String
  rules : List (Rule Value.Trail)

def github : Host := ⟨"github_configuration",Github.rules⟩

def gitlab : Host := ⟨"gitlab_configuration",Gitlab.rules⟩

def bitbucket : Host := ⟨"bitbucket_configuration",Bitbucket.rules⟩

namespace Host

abbrev Settings := String × Option Placed

def read (ws : Workspace) (path : String) : Result (Option Settings) := do
  let file ← ws.need path
  if !Text.endsWith path ".json" then return none
  return some (path,← Placed.ofJson path file.text)

def scheme : Document.Scheme where
  key entity name id _ := .ok (entity ++ "." ++ name ++ "." ++ id)
  select entity document := document.getD entity

def lines (d : Placed) (t : Value.Trail) : LineRange :=
  if (d.valueAt t).falsy then ⟨0,0⟩
  else ((d.tree.bind (Document.partAt? · t)).bind Document.mappingLines?).getD ⟨0,0⟩

def judge (h : Host) (ws : Workspace) (sel : Selection) (rep : Report) (s : Settings) : Result Report := do
  let some d := s.2 | throw .wrongKind
  if d.root.falsy then return rep
  let outcomes ← Rule.runAll h.rules scheme (fun r => .ok (d.suppression r)) (sel.runsId ·.id) d.path d.root
  outcomes.foldlM (fun rep (key,o) => do
    let lines := (o.place.map (lines d)).getD ⟨0,0⟩
    return rep.add (← o.record ws d.path d.lines lines (.ok (d.path ++ "." ++ key)))) rep

def scanFiles (h : Host) (ws : Workspace) (sel : Selection) (files : List String) : Result Report := do
  let found ← files.mapM (read ws)
  (found.filterMap id).foldlM (h.judge ws sel) {framework := h.framework}

def scanDirectory (h : Host) (ws : Workspace) (sel : Selection) : Result Report := do
  h.scanFiles ws sel (← ws.sources [] sel.excludedPaths)

end Host

end InfraAudit.HostSettings
