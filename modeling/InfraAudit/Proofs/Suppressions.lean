import InfraAudit.Platform.Suppressions
import InfraAudit.Proofs.Success

/-!
Suppressions of the platform. They are sorted into a book by the check they are for, and a record is only compared with those
under its check. Nothing is lost by that: it is skipped just if some suppression of the whole list is for it. But tags that
are no mapping cannot be searched for those of a suppression, and then no report is given.
-/

namespace InfraAudit.Platform

open List SuppressionBook Platform.Suppression Text.Pattern Value

lemma get_of_isDict {v : Value} (h : v.isDict) (k : String) : v.get k = .ok (v.getD k) := by
  cases v <;> first | rfl | cases h

lemma get_of_not_isDict {v : Value} (h : v.isDict = false) (k : String) : v.get k = .error .noMember := by
  cases v <;> first | rfl | cases h

/-- The records of its check that a suppression is for. -/
inductive Extent where
  | policy
  | accounts (names : List String)
  | resources (places : List (String × String))
  | tags (pairs : List (String × Value))
  | other (kind : String) (h : kind ∉ ["Policy","Accounts","Resources","Tags"])

def Extent.kind : Extent → String
  | .policy => "Policy"
  | .accounts _ => "Accounts"
  | .resources _ => "Resources"
  | .tags _ => "Tags"
  | .other kind _ => kind

def Extent.Pair (first second : String) (v a b : Value) : Prop :=
  ∃ fields, v = .dict fields ∧ fields.lookup first = some a ∧ fields.lookup second = some b

def Extent.Given (fields : Fields) : Extent → Prop
  | .policy | .other _ _ => True
  | .accounts names => fields.lookup "accountIds" = some (.ofStrings names)
  | .resources places => ∃ vs, fields.lookup "resources" = some (.list vs) ∧
    Forall₂ (fun v p => Pair "accountId" "resourceId" v (.str p.1) (.str p.2)) vs places
  | .tags pairs => ∃ vs, fields.lookup "tags" = some (.list vs) ∧
    Forall₂ (fun v t => Pair "key" "value" v (.str t.1) t.2) vs pairs

def Extent.reaches (own : String → Bool) (root : String) (r : Record) : Extent → Bool
  | .policy => true
  | .accounts names => names.any own
  | .resources places => places.any fun p => own p.1 && p.2 == r.repositoryFile root ++ ":" ++ r.resource.getD "None"
  | .tags pairs => r.tags.truthy && r.tags.isDict && pairs.any fun t => r.tags.getD t.1 == t.2
  | .other _ _ => false

/-- Tags that are no mapping, such as a reference that is not followed, cannot be searched. -/
def Extent.refuses (r : Record) : Extent → Bool
  | .tags pairs => r.tags.truthy && !r.tags.isDict && !pairs.isEmpty
  | _ => false

structure Notice where
  fields : Fields
  policy : String
  comment : Value
  extent : Extent
  policyId : fields.lookup "policyId" = some (.str policy)
  commented : fields.lookup "comment" = some comment
  typed : fields.lookup "suppressionType" = some (.str extent.kind)
  given : extent.Given fields

def Notice.terms (n : Notice) : Value := .dict n.fields

/-- What the platform holds for a repository. -/
structure Holding where
  policies : PolicyBook
  notices : List Notice
  root : String
  repository : Option String
  texts : ∀ f ∈ policies.checkOf, f.2.text?.isSome
  reads : (read ("^(\\w+_)?" ++ repository.getD "None" ++ "$")).isOk
  prepared : (read ("^([a-zA-Z0-9]+_)?" ++ repository.getD "None" ++ "$")).isOk

namespace Holding

variable (h : Holding) (n : Notice) (r : Record)

def check : Value := (Fields.get? h.policies.checkOf n.policy).getD (.str n.policy)

def owns : String → Bool := (of ("^(\\w+_)?" ++ h.repository.getD "None" ++ "$")).matches?

def isFor : Bool := (h.check n).display == r.checkId && n.extent.reaches h.owns h.root r

def isSuppressed : Bool := h.notices.any (h.isFor · r)

/-- The first notice under the check of a record that is for it or cannot be compared with it. -/
def ruling? : Option Notice :=
  h.notices.find? fun n => (h.check n).display == r.checkId && (n.extent.refuses r || n.extent.reaches h.owns h.root r)

def refuses : Bool := (h.ruling? r).any (·.extent.refuses r)

/-- Skipped under the comment of a suppression that is for it. -/
def Moved (r moved : Record) : Prop := ∃ n ∈ h.notices, h.isFor n r ∧ moved = skip r n.comment

def suppression : Suppression where
  checkId := (h.check n).display
  terms := .dict (Fields.insert "checkovPolicyId" (h.check n) n.fields)

def book : SuppressionBook :=
  ((h.notices.map h.suppression).mergeSort fun a b => Text.le a.checkId b.checkId).foldl add []

variable {n} in
lemma field_terms (hf : n.fields.lookup key = some v) (hk : key ≠ "checkovPolicyId") :
    (h.suppression n).terms.field key = .ok v := by
  refine field_of_lookup ?_
  rw [Fields.lookup_insert,if_neg hk,hf]

lemma read_eq : Suppression.read h.policies n.terms = .ok (h.suppression n) := by
  have ht : (h.check n).text?.isSome := by
    rw [check,Fields.get?]
    cases hf : h.policies.checkOf.lookup n.policy with
    | none => rfl
    | some v => exact h.texts _ (mem_of_lookup hf)
  have hn : (h.check n).needText = .ok (h.check n).display := by
    obtain ⟨s,hs⟩ := Option.isSome_iff_exists.1 ht
    rw [needText,display,hs]
    rfl
  rw [Suppression.read,Notice.terms,field_of_lookup n.policyId,ok_bind]
  show (do
    let id ← (h.check n).needText
    pure (⟨id,set! (.dict n.fields) "checkovPolicyId" (h.check n)⟩ : Suppression)) = _
  rw [hn]
  rfl

lemma repositoryMatches_eq (name : String) : repositoryMatches h.repository (.str name) = .ok (h.owns name) := by
  obtain ⟨pattern,hr⟩ := exists_of_isOk h.reads
  rw [repositoryMatches,owns,of,hr]
  rfl

variable {r}

lemma appliesTo_eq : (h.suppression n).appliesTo h.root h.repository r =
    if n.extent.refuses r then .error .noMember else .ok (n.extent.reaches h.owns h.root r) := by
  have hg := n.given
  rw [appliesTo,h.field_terms n.typed (by decide),ok_bind]
  cases he : n.extent with
  | policy => rfl
  | accounts names =>
    rw [he] at hg
    simp only [Extent.kind]
    rw [h.field_terms hg (by decide),ok_bind]
    exact anyM_eq (forall₂_map_left_iff.2 (forall₂_same.2 fun name _ => h.repositoryMatches_eq name))
  | resources places =>
    rw [he] at hg
    obtain ⟨vs,hvs,hp⟩ := hg
    simp only [Extent.kind]
    rw [h.field_terms hvs (by decide),ok_bind]
    refine anyM_eq (hp.imp fun v p hpr => ?_)
    obtain ⟨fields,rfl,ha,hid⟩ := hpr
    rw [field_of_lookup ha,field_of_lookup hid,ok_bind,ok_bind,h.repositoryMatches_eq,ok_bind]
    cases h.owns p.1 with
    | false => rfl
    | true => exact congrArg Except.ok (beq_str _ _)
  | tags pairs =>
    rw [he] at hg
    obtain ⟨vs,hvs,hp⟩ := hg
    simp only [Extent.kind,Extent.reaches,Extent.refuses]
    rw [h.field_terms hvs (by decide),ok_bind]
    rcases Bool.eq_false_or_eq_true r.tags.truthy with htr | htr
    · rcases Bool.eq_false_or_eq_true r.tags.isDict with hd | hd
      · simp only [htr,hd]
        refine anyM_eq (hp.imp fun v t hpr => ?_)
        obtain ⟨fields,rfl,hky,hv⟩ := hpr
        rw [field_of_lookup hky,field_of_lookup hv,ok_bind,ok_bind,get_of_isDict hd]
        rfl
      · simp only [htr,hd]
        cases hp with
        | nil => rfl
        | cons hpr _ =>
          obtain ⟨fields,rfl,hky,hv⟩ := hpr
          simp only [elems,ok_bind,anyM,field_of_lookup hky,field_of_lookup hv,get_of_not_isDict hd]
          rfl
    · simp only [htr]
      rfl
  | other kind hk =>
    simp only [mem_cons,not_mem_nil,or_false,not_or] at hk
    simp only [Extent.kind,Extent.reaches,Extent.refuses]
    split <;> simp_all [pure,Except.pure]

end Holding

/-- Those with one key stand in a sorted list as before. -/
lemma filter_sortOn {α : Type} (key : α → String) (l : List α) (k : String) :
    (Text.sortOn key l).filter (key · == k) = l.filter (key · == k) := by
  have hs : (l.filter (key · == k)).Sublist (Text.sortOn key l) := by
    refine sublist_mergeSort (fun a b c hab hbc => ?_) (fun a b => ?_) (pairwise_of_forall_mem_list fun a ha b hb => ?_)
      filter_sublist
    · exact Text.le_iff.2 (String.le_trans (Text.le_iff.1 hab) (Text.le_iff.1 hbc))
    · simpa [Text.le_iff] using String.le_total (key a) (key b)
    · rw [eq_of_beq (mem_filter.1 ha).2,eq_of_beq (mem_filter.1 hb).2,Text.le_iff]
  have hf := hs.filter (key · == k)
  rw [filter_filter] at hf
  simp only [Bool.and_self] at hf
  exact (hf.eq_of_length ((mergeSort_perm l _).filter _).length_eq.symm).symm

lemma SuppressionBook.lookup_foldl_add (ss : List Suppression) (b : SuppressionBook) (id : String) :
    ((ss.foldl add b).lookup id).getD [] = (b.lookup id).getD [] ++ ss.filter (·.checkId == id) := by
  induction ss generalizing b with
  | nil => simp
  | cons s ss ih =>
    rw [foldl_cons,ih,add,lookup_upsert]
    by_cases hid : id = s.checkId
    · simp [hid]
    · simp [hid,Ne.symm hid]

namespace Holding

variable (h : Holding) {r : Record} (rep : Report)

lemma read_book {fields : Fields} (hg : fields.lookup "suppressions" = some (.list (h.notices.map Notice.terms))) :
    read h.policies h.repository (.dict fields) = .ok h.book := by
  have ht : (dict fields).truthy := by
    cases fields with
    | nil => cases hg
    | cons f fields => rfl
  have hgt : (dict fields).get "suppressions" = .ok (.list (h.notices.map Notice.terms)) := by
    show Except.ok ((fields.lookup "suppressions").getD .null) = _
    rw [hg]
    rfl
  have hr : (h.notices.map Notice.terms).mapM (read h.policies) = .ok (h.notices.map h.suppression) := by
    rw [mapM_eq_ok,forall₂_map_left_iff,forall₂_map_right_iff,forall₂_same]
    exact fun n _ => h.read_eq n
  obtain ⟨pattern,hp⟩ := exists_of_isOk h.prepared
  rw [SuppressionBook.read,ht,hgt,hp]
  show (do
    let ss ← (h.notices.map Notice.terms).mapM (read h.policies)
    pure ((ss.mergeSort fun a b => Text.le a.checkId b.checkId).foldl add [])) = _
  rw [hr]
  rfl

lemma lookup_book (id : String) :
    (h.book.lookup id).getD [] = (h.notices.filter fun n => (h.check n).display == id).map h.suppression := by
  have hs := filter_sortOn (fun s : Suppression => s.checkId) (h.notices.map h.suppression) id
  rw [filter_map] at hs
  rw [book,lookup_foldl_add]
  exact hs

lemma firstFor_eq (ns : List Notice) :
    firstFor h.root h.repository r (ns.map h.suppression) =
      match ns.find? fun n => n.extent.refuses r || n.extent.reaches h.owns h.root r with
      | none => .ok none
      | some n => if n.extent.refuses r then .error .noMember else .ok (some (h.suppression n)) := by
  induction ns with
  | nil => rfl
  | cons n ns ih =>
    rw [map_cons,firstFor,h.appliesTo_eq,find?_cons]
    cases hr : n.extent.refuses r with
    | true => simp [hr]
    | false =>
      cases hf : n.extent.reaches h.owns h.root r with
      | true => simp [hr]
      | false => exact ih

lemma judge_eq : h.book.judge h.root h.repository r =
    match h.ruling? r with
    | none => .ok (r,false)
    | some n => if n.extent.refuses r then .error .noMember else .ok (skip r n.comment,true) := by
  have hr : (h.notices.filter fun n => (h.check n).display == r.checkId).find?
      (fun n => n.extent.refuses r || n.extent.reaches h.owns h.root r) = h.ruling? r := by
    simp only [find?_filter,Bool.decide_and,Bool.decide_eq_true,ruling?]
  rw [judge,h.lookup_book,h.firstFor_eq,hr]
  cases h.ruling? r with
  | none => rfl
  | some n =>
    dsimp only
    split
    · rfl
    · rw [ok_bind]
      dsimp only
      rw [h.field_terms n.commented (by decide)]
      rfl

lemma judge_cases : (h.refuses r = true ∧ h.book.judge h.root h.repository r = .error .noMember) ∨
    h.refuses r = false ∧ ((h.isSuppressed r = false ∧ h.book.judge h.root h.repository r = .ok (r,false)) ∨
      ∃ moved, h.isSuppressed r = true ∧ h.Moved r moved ∧ h.book.judge h.root h.repository r = .ok (moved,true)) := by
  rw [h.judge_eq,refuses]
  cases hn : h.ruling? r with
  | none =>
    refine .inr ⟨rfl,.inl ⟨any_eq_false.2 fun n hm hfr => ?_,rfl⟩⟩
    obtain ⟨hid,hr⟩ := Bool.and_eq_true_iff.1 hfr
    exact find?_eq_none.1 hn n hm (by simp [hid,hr])
  | some n =>
    have hs := find?_some hn
    dsimp only
    cases hr : n.extent.refuses r with
    | true => exact .inl ⟨hr,rfl⟩
    | false =>
      have hfr : h.isFor n r = true := by simpa [isFor,hr] using hs
      have hm := mem_of_find?_eq_some hn
      exact .inr ⟨hr,.inr ⟨_,any_eq_true.2 ⟨n,hm,hfr⟩,⟨n,hm,hfr,rfl⟩,rfl⟩⟩

lemma mapM_judge_of_refuses {l : List Record} (hl : l.any h.refuses) :
    l.mapM (h.book.judge h.root h.repository) = .error .noMember := by
  induction l with
  | nil => cases hl
  | cons r l ih =>
    rw [mapM_cons]
    rcases h.judge_cases (r := r) with ⟨-,hj⟩ | ⟨hn,⟨-,hj⟩ | ⟨moved,-,-,hj⟩⟩
    · rw [hj]
      rfl
    all_goals
      rw [hj,ok_bind,ih (by simpa [hn] using hl)]
      rfl

lemma mapM_judge {l : List Record} (hl : l.any h.refuses = false) :
    ∃ judged, l.mapM (h.book.judge h.root h.repository) = .ok judged ∧
      (judged.filter fun (_,suppressed) => !suppressed).map Prod.fst = l.filter (!h.isSuppressed ·) ∧
      Forall₂ h.Moved (l.filter h.isSuppressed) ((judged.filter fun (_,suppressed) => suppressed).map Prod.fst) := by
  induction l with
  | nil => exact ⟨[],rfl,rfl,.nil⟩
  | cons r l ih =>
    rw [any_cons,Bool.or_eq_false_iff] at hl
    obtain ⟨judged,hj,hs,hm⟩ := ih hl.2
    rcases h.judge_cases (r := r) with ⟨hy,-⟩ | ⟨-,⟨hn,hjd⟩ | ⟨moved,hy,hmv,hjd⟩⟩
    · rw [hl.1] at hy
      cases hy
    · refine ⟨(r,false) :: judged,?_,?_,?_⟩
      · rw [mapM_cons,hjd,hj]
        rfl
      · simp [hn,hs]
      · simpa [hn] using hm
    · refine ⟨(moved,true) :: judged,?_,?_,?_⟩
      · rw [mapM_cons,hjd,hj]
        rfl
      · simp [hy,hs]
      · simpa [hy] using ⟨hmv,by simpa using hm⟩

lemma exists_apply (hf : ∀ r ∈ rep.failed, r.verdict = .failed) (hp : ∀ r ∈ rep.passed, r.verdict ≠ .failed)
    (hn : (rep.failed ++ rep.passed).any h.refuses = false) :
    ∃ moved, Forall₂ h.Moved ((rep.failed ++ rep.passed).filter h.isSuppressed) moved ∧
      h.book.apply h.root h.repository rep = .ok { rep with
        failed := rep.failed.filter (!h.isSuppressed ·)
        passed := rep.passed.filter (!h.isSuppressed ·)
        skipped := rep.skipped ++ moved } := by
  obtain ⟨judged,hj,hs,hm⟩ := h.mapM_judge hn
  refine ⟨_,hm,?_⟩
  have hfr : (rep.failed ++ rep.passed).filter (·.verdict == .failed) = rep.failed := by
    rw [filter_append,filter_eq_self.2 (by simpa using hf),filter_eq_nil_iff.2 (by simpa using hp),append_nil]
  have hsc : (rep.failed ++ rep.passed).filter (·.verdict != .failed) = rep.passed := by
    rw [filter_append,filter_eq_nil_iff.2 (by simpa using hf),filter_eq_self.2 (by simpa using hp),nil_append]
  rw [apply,hj,ok_bind]
  dsimp only
  rw [hs,filter_comm,hsc,filter_comm,hfr]
  rfl

lemma apply_of_refuses (hr : (rep.failed ++ rep.passed).any h.refuses) :
    h.book.apply h.root h.repository rep = .error .noMember := by
  rw [apply,h.mapM_judge_of_refuses hr,error_bind]

/-- A failed or passed record is skipped, under the comment of a suppression that is for it, just if the list has such a
suppression. The others stay in their list and order, and a second time nothing changes. But if one of them has tags that
are no mapping and comes to a suppression by tags, no report is given. -/
theorem suppressions_exact (fields : Fields)
    (hgiven : fields.lookup "suppressions" = some (.list (h.notices.map Notice.terms)))
    (hfailed : ∀ r ∈ rep.failed, r.verdict = .failed) (hpassed : ∀ r ∈ rep.passed, r.verdict ≠ .failed) :
    ∃ b, read h.policies h.repository (.dict fields) = .ok b ∧
      ((rep.failed ++ rep.passed).any h.refuses = true → b.apply h.root h.repository rep = .error .noMember) ∧
      ((rep.failed ++ rep.passed).any h.refuses = false → ∃ out moved, b.apply h.root h.repository rep = .ok out ∧
        out.failed = rep.failed.filter (!h.isSuppressed ·) ∧ out.passed = rep.passed.filter (!h.isSuppressed ·) ∧
        out.skipped = rep.skipped ++ moved ∧ Forall₂ h.Moved ((rep.failed ++ rep.passed).filter h.isSuppressed) moved ∧
        b.apply h.root h.repository out = .ok out) := by
  refine ⟨_,h.read_book hgiven,h.apply_of_refuses rep,fun hnone => ?_⟩
  obtain ⟨moved,hmoved,happly⟩ := h.exists_apply rep hfailed hpassed hnone
  refine ⟨_,moved,happly,rfl,rfl,rfl,hmoved,?_⟩
  obtain ⟨moved',hmoved',hagain⟩ := h.exists_apply { rep with
      failed := rep.failed.filter (!h.isSuppressed ·)
      passed := rep.passed.filter (!h.isSuppressed ·)
      skipped := rep.skipped ++ moved }
    (fun r hr => hfailed r (mem_filter.1 hr).1) (fun r hr => hpassed r (mem_filter.1 hr).1)
    (any_eq_false.2 fun r hr => any_eq_false.1 hnone r (mem_filter.1 (filter_append .. ▸ hr)).1)
  rw [← filter_append,filter_filter] at hmoved'
  simp only [Bool.and_not_self,filter_false,forall₂_nil_left_iff] at hmoved'
  rw [hagain,hmoved']
  simp

def pageNotice : Notice where
  fields := [("policyId","BC_AWS_13"),("comment","public site"),("suppressionType","Resources"),
    ("resources",.list [.dict [("accountId","shop_site"),("resourceId","/main.tf:aws_s3_bucket.page")]])]
  policy := "BC_AWS_13"
  comment := "public site"
  extent := .resources [("shop_site","/main.tf:aws_s3_bucket.page")]
  policyId := rfl
  commented := rfl
  typed := rfl
  given := ⟨_,rfl,.cons ⟨_,rfl,rfl,rfl⟩ .nil⟩

def stageNotice : Notice where
  fields := [("policyId","CKV_AWS_19"),("comment",.null),("suppressionType","Tags"),
    ("tags",.list [.dict [("key","stage"),("value","test")]])]
  policy := "CKV_AWS_19"
  comment := .null
  extent := .tags [("stage","test")]
  policyId := rfl
  commented := rfl
  typed := rfl
  given := ⟨_,rfl,.cons ⟨_,rfl,rfl,rfl⟩ .nil⟩

def site : Holding where
  policies := {checkOf := [("BC_AWS_13","CKV_AWS_18")]}
  notices := [pageNotice,stageNotice]
  root := "/"
  repository := some "site"
  texts := by decide
  reads := by decide +kernel
  prepared := by decide +kernel

def siteFields : Fields := [("suppressions",.list [pageNotice.terms,stageNotice.terms])]

def bucket (name : String) : Record :=
  { checkId := "CKV_AWS_18", checkName := "", verdict := .failed, file := "/main.tf", absoluteFile := "/main.tf",
    lines := ⟨1,1⟩, resource := some ("aws_s3_bucket." ++ name) }

def siteReport : Report where
  framework := "terraform"
  failed := [bucket "page",bucket "log"]

/-- Of two buckets the one that a suppression names is skipped. -/
theorem suppressions_exact_site :
    ∃ b out, read site.policies site.repository (.dict siteFields) = .ok b ∧
      b.apply site.root site.repository siteReport = .ok out ∧ out.failed = [bucket "log"] ∧
      out.skipped = [skip (bucket "page") (.str "public site")] := by
  have hpage : site.isSuppressed (bucket "page") = true := by decide +kernel
  have hlog : site.isSuppressed (bucket "log") = false := by decide +kernel
  have hsearched : (siteReport.failed ++ siteReport.passed).any site.refuses = false := by decide +kernel
  obtain ⟨b,hread,-,hexact⟩ := site.suppressions_exact siteReport siteFields rfl (by simp [siteReport,bucket])
    (by simp [siteReport])
  obtain ⟨out,moved,happly,hfailed,-,hskipped,hmoved,-⟩ := hexact hsearched
  have hone : Forall₂ site.Moved [bucket "page"] moved := by simpa [siteReport,hpage,hlog] using hmoved
  obtain ⟨m,ms,⟨n,hn,hfor,rfl⟩,hnone,rfl⟩ := forall₂_cons_left_iff.1 hone
  obtain rfl := forall₂_nil_left_iff.1 hnone
  have hother : site.isFor stageNotice (bucket "page") = false := by decide +kernel
  refine ⟨b,out,hread,happly,by simp [hfailed,siteReport,hpage,hlog],?_⟩
  rcases mem_pair.1 hn with rfl | rfl
  · rw [hskipped]
    rfl
  · rw [hother] at hfor
    cases hfor

def taggedReport : Report where
  framework := "terraform"
  failed := [bucket "log",{bucket "page" with checkId := "CKV_AWS_19", tags := "var.tags"}]

/-- Tags that are a reference: not even the other bucket is judged. -/
theorem apply_unresolved_tags : site.book.apply site.root site.repository taggedReport = .error .noMember :=
  site.apply_of_refuses taggedReport (by decide +kernel)

end Holding

end InfraAudit.Platform
