import Mathlib.Tactic.Common
import RegionAudit.Proofs.Lookup

/-! Being sent on. The addresses at which an asker arrives one after another are told by a relation, and an
exchange ends with a response exactly when that response is the last to come and leads nowhere else. Such a
response is taken for what was asked for unless its status is from 400 to 599. -/
namespace RegionAudit.Network

open Run

variable {remote : Remote} {client : Client} {first url : Url} {n left : Nat} {r : Response}

/-! ### Replies -/

/-- What comes back on a request after `n` others: what the remote side sends. From an `https` address nothing comes
but the end of the connection, if one is made there at all. -/
def replyTo (remote : Remote) (n : Nat) (request : Request) : Reply :=
  if request.url.scheme = "https".toList ∧ remote n request ≠ .refused then .dropped else remote n request

theorem result_ask (remote : Remote) (n : Nat) (request : Request) :
    (ask remote n request).result = replyTo remote n request := by
  unfold ask replyTo Request.isTunnel
  cases remote n request <;> simp

def replyAt (remote : Remote) (client : Client) (n : Nat) (url : Url) : Reply :=
  replyTo remote n ⟨url,client.userAgent⟩

/-- The addresses at which the asker arrives after answers that sent it on, and how many these were. -/
inductive Reaches (remote : Remote) (client : Client) (first : Url) : Nat → Url → Prop
  | start : Reaches remote client first 0 first
  | sentOn {n : Nat} {url target : Url} {r : Response} (before : Reaches remote client first n url)
      (allowed : n < redirectLimit) (reply : replyAt remote client n url = .response r)
      (leads : r.target? url = some target) (web : target.isWeb = true) :
      Reaches remote client first (n+1) target

/-! ### One step and many -/

section Follow

variable (remote : Remote) (client : Client) (first url : Url) (left n : Nat)

theorem follow_result :
    (follow remote client first left n url).result =
      match replyAt remote client n url with
      | .refused | .dropped => unsent first
      | .silent => .silent
      | .response r =>
        match r.target? url with
        | none => .response r
        | some target =>
          match left with
          | 0 => .failed ("error following redirect for url (" ++ url.text ++ ")")
          | left+1 =>
            if target.isWeb then (follow remote client first left (n+1) target).result
            else .failed ("builder error for url (" ++ target.text ++ ")") := by
  rw [follow,result_bind,result_ask,replyAt]
  cases replyTo remote n ⟨url,client.userAgent⟩ with
  | refused => rfl
  | dropped => rfl
  | silent => rfl
  | response r =>
    dsimp only
    cases r.target? url with
    | none => rfl
    | some target =>
      cases left with
      | zero => rfl
      | succ left =>
        dsimp only
        split <;> rfl

end Follow

/-- From every address on the way the exchange ends as it does from the first. -/
theorem Reaches.follow_eq (h : Reaches remote client first n url) :
    n ≤ redirectLimit ∧ (follow remote client first redirectLimit 0 first).result =
      (follow remote client first (redirectLimit-n) n url).result := by
  induction h with
  | start => exact ⟨Nat.zero_le _,rfl⟩
  | @sentOn n url target r before allowed reply leads web ih =>
    refine ⟨allowed,ih.2.trans ?_⟩
    obtain ⟨k,hk⟩ : ∃ k, redirectLimit-n = k+1 := ⟨redirectLimit-n-1,by omega⟩
    have hk' : redirectLimit-(n+1) = k := by omega
    rw [follow_result,reply,hk,hk']
    simp only [leads,web,if_true]

theorem Reaches.unique {url' : Url} (h : Reaches remote client first n url)
    (h' : Reaches remote client first n url') : url = url' := by
  induction h generalizing url' with
  | start =>
    cases h'
    rfl
  | sentOn before allowed reply leads web ih =>
    obtain - | ⟨before',-,reply',leads',-⟩ := h'
    cases ih before'
    rw [reply] at reply'
    cases reply'
    exact Option.some.inj (leads.symm.trans leads')

/-- Whoever has gone further was sent on from here. -/
theorem Reaches.exists_target {m : Nat} {url' : Url} (h : Reaches remote client first m url')
    (hn : n < m) : ∃ url r target, Reaches remote client first n url ∧
      replyAt remote client n url = .response r ∧ r.target? url = some target := by
  induction h with
  | start => exact absurd hn (Nat.not_lt_zero n)
  | @sentOn m url target r before allowed reply leads web ih =>
    rcases Nat.lt_succ_iff_lt_or_eq.mp hn with hlt | rfl
    · exact ih hlt
    · exact ⟨url,r,target,before,reply,leads⟩

theorem follow_eq_response_cases (hr : (follow remote client first left n url).result = .response r) :
    (replyAt remote client n url = .response r ∧ r.target? url = none) ∨
    ∃ r' target k, replyAt remote client n url = .response r' ∧ r'.target? url = some target ∧
      target.isWeb = true ∧ left = k+1 ∧
      (follow remote client first k (n+1) target).result = .response r := by
  rw [follow_result] at hr
  cases hreply : replyAt remote client n url with
  | refused => simp [hreply,unsent] at hr
  | dropped => simp [hreply,unsent] at hr
  | silent => simp [hreply] at hr
  | response r' =>
    cases hleads : r'.target? url with
    | none =>
      simp only [hreply,hleads,Ending.response.injEq] at hr
      exact .inl ⟨congrArg Reply.response hr,hr ▸ hleads⟩
    | some target =>
      cases left with
      | zero => simp [hreply,hleads] at hr
      | succ k =>
        cases hweb : target.isWeb with
        | false => simp [hreply,hleads,hweb] at hr
        | true =>
          simp only [hreply,hleads,hweb,if_true] at hr
          exact .inr ⟨r',target,k,rfl,hleads,hweb,rfl,hr⟩

/-- An exchange that ends with a response had it from an address on the way. -/
theorem exists_reaches_of_follow (h : Reaches remote client first n url)
    (hleft : left+n = redirectLimit)
    (hr : (follow remote client first left n url).result = .response r) :
    ∃ m url', Reaches remote client first m url' ∧
      replyAt remote client m url' = .response r ∧ r.target? url' = none := by
  induction left generalizing n url with
  | zero =>
    obtain ⟨hreply,hleads⟩ | ⟨-,-,k,-,-,-,hk,-⟩ := follow_eq_response_cases hr
    · exact ⟨n,url,h,hreply,hleads⟩
    · cases hk
  | succ left ih =>
    obtain ⟨hreply,hleads⟩ | ⟨r',target,k,hreply,hleads,hweb,hk,hr'⟩ := follow_eq_response_cases hr
    · exact ⟨n,url,h,hreply,hleads⟩
    · cases hk
      exact ih (h.sentOn (by omega) hreply hleads hweb) (by omega) hr'

/-! ### The last response -/

/-- A response that came to the asker of `first`, and that no other came after; `url` is where it came
from. -/
def IsLast (remote : Remote) (client : Client) (first url : Url) (r : Response) : Prop :=
  ∃ n, Reaches remote client first n url ∧ replyAt remote client n url = .response r ∧
    ∀ m url' r', Reaches remote client first m url' → replyAt remote client m url' = .response r' → m ≤ n

theorem follow_eq_response_iff :
    (follow remote client first redirectLimit 0 first).result = .response r ↔
      ∃ url, IsLast remote client first url r ∧ r.target? url = none := by
  constructor
  · intro hr
    obtain ⟨n,url,hn,hreply,hleads⟩ := exists_reaches_of_follow .start rfl hr
    refine ⟨url,⟨n,hn,hreply,fun m url' r' hm _ => ?_⟩,hleads⟩
    by_contra hlt
    obtain ⟨url'',r'',target,hn',hreply',hleads'⟩ := hm.exists_target (Nat.lt_of_not_le hlt)
    cases hn.unique hn'
    rw [hreply] at hreply'
    cases hreply'
    rw [hleads] at hleads'
    cases hleads'
  · rintro ⟨url,⟨n,hn,hreply,-⟩,hleads⟩
    rw [hn.follow_eq.2,follow_result,hreply]
    simp only [hleads]

/-- The last response that comes to one who asks at a text, and the address from which it comes. -/
def LastAnswer (remote : Remote) (client : Client) (text : String) (url : Url) (r : Response) : Prop :=
  ∃ first, Url.ofText? text.toList = some first ∧ first.isWeb = true ∧ IsLast remote client first url r

theorem request_eq_response_iff {text : String} :
    (request remote client text).result = .response r ↔
      ∃ url, LastAnswer remote client text url r ∧ r.target? url = none := by
  unfold request LastAnswer
  cases hu : Url.ofText? text.toList with
  | none => simp
  | some first =>
    cases hweb : first.isWeb with
    | false => simp [hweb]
    | true => simp [hweb,follow_eq_response_iff]

/-! ### What is taken for an answer -/

def IsSuccess (status : Nat) : Prop :=
  200 ≤ status ∧ status ≤ 299

def IsRefused (status : Nat) : Prop :=
  400 ≤ status ∧ status ≤ 599

theorem isRefusal_iff : r.isRefusal = true ↔ IsRefused r.status := by
  simp [Response.isRefusal,IsRefused]

section Outcome

variable (remote : Remote) (client : Client) (text : String)

theorem outcome_of_isRefused (h : IsRefused r.status) :
    outcome text (.response r) = .error (.unexpectedStatus text r.status) := by
  simp only [outcome,isRefusal_iff.mpr h,if_true]

theorem outcome_eq_ok_iff {e : Ending} {body : List Char} :
    outcome text e = .ok body ↔ ∃ r bytes, e = .response r ∧ ¬ IsRefused r.status ∧
      r.content? = some bytes ∧ body = Text.decode bytes := by
  cases e with
  | silent => simp [outcome]
  | failed reason => simp [outcome]
  | response r =>
    by_cases h : IsRefused r.status
    · simp [outcome_of_isRefused,h]
    · have hr : r.isRefusal = false := Bool.eq_false_iff.mpr fun hr => h (isRefusal_iff.mp hr)
      cases hc : r.content? <;> simp [outcome,hr,h,hc,eq_comm]

theorem outcome_eq_unexpectedStatus_iff {e : Ending} {status : Nat} :
    outcome text e = .error (.unexpectedStatus text status) ↔
      ∃ r, e = .response r ∧ IsRefused r.status ∧ status = r.status := by
  cases e with
  | silent => simp [outcome]
  | failed reason => simp [outcome]
  | response r =>
    by_cases h : IsRefused r.status
    · simp [outcome_of_isRefused,h,eq_comm]
    · have hr : r.isRefusal = false := Bool.eq_false_iff.mpr fun hr => h (isRefusal_iff.mp hr)
      cases hc : r.content? <;> simp [outcome,hr,h,hc]

theorem fetch_eq_ok_iff {body : List Char} :
    (fetch remote client text).result = .ok body ↔
      ∃ url r bytes, LastAnswer remote client text url r ∧ r.target? url = none ∧
        ¬ IsRefused r.status ∧ r.content? = some bytes ∧ body = Text.decode bytes := by
  rw [fetch_result,outcome_eq_ok_iff]
  simp only [request_eq_response_iff]
  constructor
  · rintro ⟨r,bytes,⟨url,hlast,hleads⟩,hkept,hcontent,hbody⟩
    exact ⟨url,r,bytes,hlast,hleads,hkept,hcontent,hbody⟩
  · rintro ⟨url,r,bytes,hlast,hleads,hkept,hcontent,hbody⟩
    exact ⟨r,bytes,⟨url,hlast,hleads⟩,hkept,hcontent,hbody⟩

theorem fetch_eq_unexpectedStatus_iff {status : Nat} :
    (fetch remote client text).result = .error (.unexpectedStatus text status) ↔
      ∃ url r, LastAnswer remote client text url r ∧ r.target? url = none ∧
        IsRefused r.status ∧ status = r.status := by
  rw [fetch_result,outcome_eq_unexpectedStatus_iff]
  simp only [request_eq_response_iff]
  constructor
  · rintro ⟨r,⟨url,hlast,hleads⟩,hrefused,hstatus⟩
    exact ⟨url,r,hlast,hleads,hrefused,hstatus⟩
  · rintro ⟨url,r,hlast,hleads,hrefused,hstatus⟩
    exact ⟨r,⟨url,hlast,hleads⟩,hrefused,hstatus⟩

/-- The rule that only a status from 200 to 299 is a success: a text that is fetched is all of the last
response and has such a status, and every other response that does not send the asker on is a failure that
names its status. -/
def SucceedsOnlyOn2xx : Prop :=
  (∀ body, (fetch remote client text).result = .ok body →
    ∃ url r bytes, LastAnswer remote client text url r ∧ IsSuccess r.status ∧
      r.content? = some bytes ∧ body = Text.decode bytes) ∧
  ∀ url r, LastAnswer remote client text url r → r.target? url = none → ¬ IsSuccess r.status →
    (fetch remote client text).result = .error (.unexpectedStatus text r.status)

/-- A fetched text is all of the last response, which leads nowhere and has any status but one from 400 to
599, and only those statuses are failures that name them. So the rule of success is kept exactly where the
last response, if it leads nowhere, has a status from 200 to 299 or from 400 to 599. -/
theorem fetch_success_iff :
    (∀ body, (fetch remote client text).result = .ok body ↔
      ∃ url r bytes, LastAnswer remote client text url r ∧ r.target? url = none ∧
        ¬ IsRefused r.status ∧ r.content? = some bytes ∧ body = Text.decode bytes) ∧
    (∀ status, (fetch remote client text).result = .error (.unexpectedStatus text status) ↔
      ∃ url r, LastAnswer remote client text url r ∧ r.target? url = none ∧
        IsRefused r.status ∧ status = r.status) ∧
    (SucceedsOnlyOn2xx remote client text ↔
      ∀ url r, LastAnswer remote client text url r → r.target? url = none →
        IsSuccess r.status ∨ IsRefused r.status) := by
  refine ⟨fun _ => fetch_eq_ok_iff remote client text,
    fun _ => fetch_eq_unexpectedStatus_iff remote client text,?_,?_⟩
  · rintro ⟨-,hother⟩ url r hlast hleads
    by_cases hsuccess : IsSuccess r.status
    · exact .inl hsuccess
    · obtain ⟨-,r',-,-,hrefused,hstatus⟩ :=
        (fetch_eq_unexpectedStatus_iff remote client text).mp (hother url r hlast hleads hsuccess)
      exact .inr (hstatus ▸ hrefused)
  · intro h
    constructor
    · intro body hbody
      obtain ⟨url,r,bytes,hlast,hleads,hkept,hcontent,hdecode⟩ :=
        (fetch_eq_ok_iff remote client text).mp hbody
      exact ⟨url,r,bytes,hlast,(h url r hlast hleads).resolve_right hkept,hcontent,hdecode⟩
    · intro url r hlast hleads hfailed
      have hrefused := (h url r hlast hleads).resolve_left hfailed
      exact (fetch_eq_unexpectedStatus_iff remote client text).mpr ⟨url,r,hlast,hleads,hrefused,rfl⟩

end Outcome

/-- A list of choices (status 300), which sends the asker nowhere, is taken for the text that was asked
for. -/
theorem fetch_takes_multiple_choices :
    let choices : Remote := fun _ _ => .response ⟨300,none,[110,121,99,51],true⟩
    let client : Client := ⟨30,"regioncheck/0.1.0"⟩
    (fetch choices client "http://h.test/r").result = .ok "nyc3".toList ∧
      ¬ SucceedsOnlyOn2xx choices client "http://h.test/r" := by
  intro choices client
  have hrequest : (request choices client "http://h.test/r").result =
      .response ⟨300,none,[110,121,99,51],true⟩ := by decide +kernel
  have hfetch : (fetch choices client "http://h.test/r").result = .ok "nyc3".toList := by
    rw [fetch_result,hrequest]
    rfl
  refine ⟨hfetch,fun ⟨_,hother⟩ => ?_⟩
  obtain ⟨url,hlast,hleads⟩ := request_eq_response_iff.mp hrequest
  have hfailed := hother url _ hlast hleads (by simp [IsSuccess])
  cases hfetch.symm.trans hfailed

end RegionAudit.Network
