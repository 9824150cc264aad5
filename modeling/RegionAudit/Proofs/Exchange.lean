import RegionAudit.Proofs.Redirects

/-! How an exchange ends. What it requests and how it ends is told request by request, and the reply to the last
request decides what becomes of it. -/
namespace RegionAudit.Network

open Run

/-! ### One request -/

section Ask

theorem requests_ask (remote : Remote) (n : Nat) (r : Request) :
    (ask remote n r).requests = if remote n r = .refused then [] else [r] := by
  unfold ask
  cases h : remote n r <;> simp

theorem events_ask (remote : Remote) (n : Nat) (r : Request) : (ask remote n r).events = [] := by
  unfold ask
  cases remote n r <;> simp

theorem replyTo_eq_refused_iff {remote : Remote} {n : Nat} {r : Request} :
    replyTo remote n r = .refused ↔ remote n r = .refused := by
  unfold replyTo
  by_cases h : r.url.scheme = "https".toList ∧ remote n r ≠ .refused
  · simp [h]
  · rw [if_neg h]

/-- A response that reaches the asker is what the remote side sent. -/
theorem remote_of_replyTo {remote : Remote} {n : Nat} {request : Request} {r : Response}
    (h : replyTo remote n request = .response r) : remote n request = .response r := by
  unfold replyTo at h
  split at h
  · cases h
  · exact h

end Ask

/-! ### The course of an exchange -/

/-- The requests of one who asks at an address after `n` others and may be sent on `left` times, and how the exchange
ends. -/
inductive Course (remote : Remote) (client : Client) (first : Url) :
    Nat → Nat → Url → List Request → Ending → Prop
  | unconnected {left n : Nat} {url : Url} (reply : replyAt remote client n url = .refused) :
      Course remote client first left n url [] (unsent first)
  | dropped {left n : Nat} {url : Url} (reply : replyAt remote client n url = .dropped) :
      Course remote client first left n url [⟨url,client.userAgent⟩] (unsent first)
  | silent {left n : Nat} {url : Url} (reply : replyAt remote client n url = .silent) :
      Course remote client first left n url [⟨url,client.userAgent⟩] .silent
  | settled {left n : Nat} {url : Url} {r : Response} (reply : replyAt remote client n url = .response r)
      (stays : r.target? url = none) :
      Course remote client first left n url [⟨url,client.userAgent⟩] (.response r)
  | stopped {left n : Nat} {url target : Url} {r : Response} {reason : String}
      (reply : replyAt remote client n url = .response r) (leads : r.target? url = some target)
      (stop : left = 0 ∨ target.isWeb = false) :
      Course remote client first left n url [⟨url,client.userAgent⟩] (.failed reason)
  | onward {left n : Nat} {url target : Url} {r : Response} {requests : List Request} {ending : Ending}
      (reply : replyAt remote client n url = .response r) (leads : r.target? url = some target)
      (web : target.isWeb = true) (rest : Course remote client first left (n+1) target requests ending) :
      Course remote client first (left+1) n url (⟨url,client.userAgent⟩ :: requests) ending

section Follow

variable (remote : Remote) (client : Client) (first : Url)

theorem course_step (left n : Nat) (url : Url)
    (rest : ∀ k target, left = k+1 → Course remote client first k (n+1) target
      (follow remote client first k (n+1) target).requests (follow remote client first k (n+1) target).result) :
    Course remote client first left n url (follow remote client first left n url).requests
      (follow remote client first left n url).result := by
  have hasked : replyTo remote n ⟨url,client.userAgent⟩ ≠ .refused →
      (ask remote n ⟨url,client.userAgent⟩).requests = [⟨url,client.userAgent⟩] := fun h => by
    rw [requests_ask,if_neg (mt replyTo_eq_refused_iff.mpr h)]
  rw [follow,requests_bind,result_bind,result_ask]
  cases hreply : replyTo remote n ⟨url,client.userAgent⟩ with
  | refused =>
    rw [requests_ask,if_pos (replyTo_eq_refused_iff.mp hreply)]
    exact .unconnected hreply
  | dropped =>
    rw [hasked (by simp [hreply])]
    exact .dropped hreply
  | silent =>
    rw [hasked (by simp [hreply])]
    exact .silent hreply
  | response r =>
    rw [hasked (by simp [hreply])]
    dsimp only
    cases hleads : r.target? url with
    | none => exact .settled hreply hleads
    | some target =>
      cases left with
      | zero => exact .stopped hreply hleads (.inl rfl)
      | succ k =>
        dsimp only
        split
        · rename_i hweb
          exact .onward hreply hleads hweb (rest k target rfl)
        · rename_i hweb
          exact .stopped hreply hleads (.inr (Bool.eq_false_iff.mpr hweb))

theorem course_follow (left n : Nat) (url : Url) :
    Course remote client first left n url (follow remote client first left n url).requests
      (follow remote client first left n url).result := by
  induction left generalizing n url with
  | zero => exact course_step remote client first 0 n url fun _ _ h => nomatch h
  | succ left ih =>
    refine course_step remote client first (left+1) n url fun k target h => ?_
    cases h
    exact ih (n+1) target

end Follow

/-! ### The last reply -/

/-- The last of some requests that come after `n` others, and what came back on it. -/
def LastReply (remote : Remote) (n : Nat) (requests : List Request) (asked : Request) (reply : Reply) : Prop :=
  ∃ before, requests = before++[asked] ∧ replyTo remote (n+before.length) asked = reply

section LastReply

variable {remote : Remote} {n : Nat} {requests : List Request} {asked : Request} {reply : Reply}

theorem not_lastReply_nil : ¬ LastReply remote n [] asked reply := by
  rintro ⟨before,h,-⟩
  simp at h

theorem LastReply.ne_nil (h : LastReply remote n requests asked reply) : requests ≠ [] := by
  rintro rfl
  exact not_lastReply_nil h

theorem LastReply.cons (h : LastReply remote (n+1) requests asked reply) (r : Request) :
    LastReply remote n (r :: requests) asked reply := by
  obtain ⟨before,rfl,hreply⟩ := h
  refine ⟨r :: before,rfl,?_⟩
  rw [List.length_cons,← hreply,Nat.add_right_comm,Nat.add_assoc]

theorem LastReply.unique {asked' : Request} {reply' : Reply} (h : LastReply remote n requests asked reply)
    (h' : LastReply remote n requests asked' reply') : asked' = asked ∧ reply' = reply := by
  obtain ⟨before,rfl,hreply⟩ := h
  obtain ⟨before',heq,hreply'⟩ := h'
  obtain ⟨rfl,rfl⟩ := List.append_singleton_inj.mp heq
  exact ⟨rfl,hreply'.symm.trans hreply⟩

theorem LastReply.tail {r : Request} (h : LastReply remote n (r :: requests) asked reply) (hne : requests ≠ []) :
    LastReply remote (n+1) requests asked reply := by
  obtain ⟨before,heq,hreply⟩ := h
  cases before with
  | nil => exact absurd (List.cons.inj heq).2 hne
  | cons _ before =>
    obtain ⟨-,rfl⟩ := List.cons.inj heq
    refine ⟨before,rfl,?_⟩
    rw [← hreply,List.length_cons,Nat.add_right_comm,Nat.add_assoc]

end LastReply

section EndsBy

variable {asked : Request} {e : Ending} {r : Response}

end EndsBy

section Course

variable {remote : Remote} {client : Client} {first url : Url} {left n : Nat} {requests : List Request}
  {ending : Ending}

theorem Course.length_le (h : Course remote client first left n url requests ending) :
    requests.length ≤ left+1 := by
  induction h with
  | unconnected => exact Nat.zero_le _
  | onward _ _ _ _ ih => exact Nat.succ_le_succ ih
  | dropped | silent | settled | stopped => exact Nat.le_add_left 1 _

end Course

/-! ### Asking at a text -/

/-- Where one who asks at a text goes after some requests: to the address that the text is, or to where the last
response sends the asker. -/
inductive HeadsFor (remote : Remote) (text : String) : List Request → Url → Prop
  | start {url : Url} (reads : Url.ofText? text.toList = some url) : HeadsFor remote text [] url
  | sentOn {requests : List Request} {asked : Request} {r : Response} {url : Url}
      (last : LastReply remote 0 requests asked (.response r)) (leads : r.target? asked.url = some url) :
      HeadsFor remote text requests url

/-- Why a request fails: the text is no address or the way leads to one that is not of the web, no connection is made
there, it would be the twelfth request, the last one is dropped, the text is a safe address or one of the requests goes
to such, or the last answer is broken off. Two statuses never come with a body, of which nothing can be missing. -/
inductive Breaks (remote : Remote) (client : Client) (text : String) (requests : List Request) : Prop
  | unreadable (none : Url.ofText? text.toList = none)
  | foreign {url : Url} (heads : HeadsFor remote text requests url) (foreign : url.isWeb = false)
  | unconnected {url : Url} (heads : HeadsFor remote text requests url)
      (refused : remote requests.length ⟨url,client.userAgent⟩ = .refused)
  | eleventh {url : Url} (heads : HeadsFor remote text requests url) (eleven : requests.length = 11)
  | dropped {asked : Request} (last : LastReply remote 0 requests asked .dropped)
  | endpoint {url : Url} (reads : Url.ofText? text.toList = some url) (safe : url.scheme = "https".toList)
  | safe {asked : Request} (made : asked ∈ requests) (safe : asked.isTunnel = true)
  | truncated {asked : Request} {r : Response} (last : LastReply remote 0 requests asked (.response r))
      (kept : ¬ IsRefused r.status) (bodied : r.status ≠ 204 ∧ r.status ≠ 304) (broken : r.isWhole = false)

section Request

variable (remote : Remote) (client : Client) (text : String)

theorem requests_fetch : (fetch remote client text).requests = (request remote client text).requests := by
  simp only [fetch,requests_bind,requests_tell,List.nil_append]
  cases outcome text (request remote client text).result <;> simp

/-- A text at which nobody can be asked, or the course of the exchange. -/
theorem request_cases :
    ((∀ url, Url.ofText? text.toList = some url → url.isWeb = false) ∧
      (request remote client text).requests = [] ∧
      ∃ reason, (request remote client text).result = .failed reason) ∨
    ∃ first, Url.ofText? text.toList = some first ∧ first.isWeb = true ∧
      Course remote client first redirectLimit 0 first (request remote client text).requests
        (request remote client text).result := by
  unfold request
  cases hurl : Url.ofText? text.toList with
  | none => exact .inl ⟨nofun,rfl,_,rfl⟩
  | some first =>
    cases hweb : first.isWeb with
    | false =>
      simp only [hweb,Bool.false_eq_true,if_false]
      refine .inl ⟨fun url h => ?_,rfl,_,rfl⟩
      cases h
      exact hweb
    | true =>
      simp only [hweb,if_true]
      exact .inr ⟨first,rfl,hweb,course_follow remote client first redirectLimit 0 first⟩

variable {remote client text}

end Request

/-- A page that sends the asker back to itself is asked for eleven times. -/
example : (fetch (fun _ _ => .response ⟨302,some "/",[],true⟩) ⟨30,"a"⟩ "http://h.test/").requests.length = 11 := by
  decide +kernel

end RegionAudit.Network
