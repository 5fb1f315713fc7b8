import Scriptorium.Proofs.Cache.Download
import Scriptorium.Remote.Service

/-!
Downloads from the web service, by whatever client. What a request comes to is read twice: the
service makes an answer of the reply, and the policy decides by the failure in it whether the
published version is worth a second request. Here the two readings are composed. A reply that the
service foresees (`IsForeseen`) never gets through to the caller, and the published version is asked
for just if a draft was wanted and the reply is neither a success nor that of a dead connection.

The replies are those that the client has. Of a client that hands on what is delivered to it
(`Client.HandsOn`) all of them are foreseen. One that looks where a response leads may raise
something of its own there, and so may one that reads a text in the character set it names; such a
reply escapes (`Reply.Escapes`).
-/

namespace Scriptorium
set_option autoImplicit false

namespace Client

deriving instance DecidableEq for Response

namespace Reply

def IsSuccess : Reply Response → Prop
  | response r => r.IsSuccess
  | interrupted _ _ | raised _ => False

/-- The connection is dead, or there never was one. -/
def IsDead : Reply Response → Prop
  | interrupted i _ =>
    i = .connect ∨ i = .connectTimeout ∨ i = .remoteProtocol ∨ i = .read ∨ i = .write
  | response _ | raised _ => False

def IsForeseen : Reply Response → Prop
  | response r => r.IsSuccess → ∃ body, r.text = .ok body
  | interrupted _ _ => True
  | raised _ => False

/-- The failures that get past the service. -/
inductive Escapes : Reply Response → Failure → Prop where
  | unreadable {r : Response} {f : Failure} (hr : r.IsSuccess) (ht : r.text = .error f)
      (hf : ¬f.IsRemote) : Escapes (.response r) f
  | raised {f : Failure} (hf : ¬f.IsRemote) : Escapes (.raised f) f

end Reply

/-- The client reports an address that it cannot ask for, follows no response anywhere, and finds a
text in every one. -/
structure HandsOn (client : Client) : Prop where
  unsent {login : Option Login} {url : String} {reply : Reply Response} :
    client.get login url = .unsent reply → ∃ message, reply = .interrupted .invalidUrl message
  received {login : Option Login} {url : String} {r : Request} {receive : Packet → Reply Response}
    (p : Packet) : client.get login url = .sent r receive →
    ∃ text, receive p = .response ⟨p.status, .ok text⟩

end Client

namespace Service
open Client

section Answers
variable {url : String} {reply : Reply Response}

/-- What the service makes of a reply that it foresees. -/
inductive Understood : Reply Response → Answer → Prop where
  | success {r : Response} {body : String} (hr : r.IsSuccess) (ht : r.text = .ok body) :
      Understood (.response r) (.ok body)
  | failed {reply : Reply Response} {f : Failure} (hr : ¬reply.IsSuccess) (hf : f.IsRemote)
      (hdead : reply.IsDead ↔ f.kind = .unreachable ∨ f.kind = .closed) :
      Understood reply (.error f)

theorem isRemote_failure (url message : String) (i : Interruption) :
    (failure url message i).IsRemote := by
  cases i <;> rfl

theorem isDead_iff (url message : String) (i : Interruption) :
    (Reply.interrupted i message).IsDead ↔
      (failure url message i).kind = .unreachable ∨ (failure url message i).kind = .closed := by
  cases i <;> simp [Reply.IsDead, failure, Failure.kind]

theorem understood_of_isForeseen (h : reply.IsForeseen) :
    Understood reply (answerOf url reply) := by
  cases reply with
  | response r =>
    by_cases hr : r.IsSuccess
    · obtain ⟨body, ht⟩ := h hr
      simp only [answerOf, if_pos hr, ht]
      exact .success hr ht
    · simp only [answerOf, if_neg hr]
      exact .failed hr rfl (by simp [Reply.IsDead, Failure.kind])
  | interrupted i message =>
    exact .failed id (isRemote_failure url message i) (isDead_iff url message i)
  | raised f => cases h

theorem answerOf_of_escapes {f : Failure} (h : reply.Escapes f) :
    answerOf url reply = .error f ∧ ¬f.IsRemote := by
  cases h with
  | unreadable hr ht hf =>
    simp only [answerOf, if_pos hr]
    exact ⟨ht, hf⟩
  | raised hf => exact ⟨rfl, hf⟩

end Answers

/-- A request that was made of the client, with what it came to. -/
structure Inquiry where
  documentId : String
  variant : Variant
  reply : Reply Response
  deriving DecidableEq

def Inquiry.url (s : Service) (q : Inquiry) : String :=
  Address.ofVersion s.url q.documentId q.variant

/-- The answer that the service makes of it. -/
def Inquiry.exchange (s : Service) (q : Inquiry) : Exchange :=
  ⟨q.documentId, q.variant, answerOf (q.url s) q.reply⟩

section Exchange
variable {s : Service} {q : Inquiry} {documentId : String} {v : Variant} {a : Answer}

theorem Inquiry.understood (hq : q.exchange s = ⟨documentId, v, a⟩) (hreply : q.reply.IsForeseen) :
    q.url s = Address.ofVersion s.url documentId v ∧ q.variant = v ∧ Understood q.reply a := by
  simp only [exchange, Exchange.mk.injEq] at hq
  obtain ⟨rfl, rfl, rfl⟩ := hq
  exact ⟨rfl, rfl, understood_of_isForeseen hreply⟩

theorem Understood.received {reply : Reply Response} {body : String}
    (h : Understood reply (.ok body)) :
    ∃ r, reply = .response r ∧ r.IsSuccess ∧ r.text = .ok body := by
  cases h with
  | success hr ht => exact ⟨_, rfl, hr, ht⟩

theorem Understood.refused {reply : Reply Response} {f : Failure} (h : Understood reply (.error f)) :
    ¬reply.IsSuccess ∧ f.IsRemote ∧
      (reply.IsDead ↔ f.kind = .unreachable ∨ f.kind = .closed) := by
  cases h with
  | failed hr hf hdead => exact ⟨hr, hf, hdead⟩

end Exchange

section Overheard
variable {client : Client} {τ : Type} {send : Transport τ} {s : Service} {t : τ}

/-- The same service, with a record of what was asked of its client. -/
def overheard (client : Client) (s : Service) (send : Transport τ) : Fetch (τ × List Inquiry) :=
  fun t documentId v =>
    let r := s.fetch client send t.1 documentId v
    let reply := (s.ask client send t.1 (Address.ofVersion s.url documentId v)).2
    ⟨(r.store, t.2 ++ [⟨documentId, v, reply⟩]), r.answer, r.journal⟩

theorem fetch_answer (documentId : String) (v : Variant) :
    (s.fetch client send t documentId v).answer =
      let url := Address.ofVersion s.url documentId v
      answerOf url (s.ask client send t url).2 := by
  dsimp only [fetch]
  split
  next h => exact h.symm
  next h => exact h.symm

/-- A client that hands on foresees all replies, if the transport has no errors of its own. -/
theorem isForeseen_ask (hclient : client.HandsOn)
    (hsend : ∀ t r f, (send t r).2 ≠ .raised f) (url : String) :
    (s.ask client send t url).2.IsForeseen := by
  cases hget : client.get s.login url with
  | unsent reply =>
    obtain ⟨message, rfl⟩ := hclient.unsent hget
    simp only [ask, hget, Attempt.run]
    trivial
  | sent r receive =>
    simp only [ask, hget, Attempt.run]
    cases hreply : (send t r).2 with
    | response p =>
      obtain ⟨text, htext⟩ := hclient.received p hget
      simp only [Reply.bind, htext]
      exact fun _ => ⟨text, rfl⟩
    | interrupted i message => trivial
    | raised f => exact absurd hreply (hsend t r f)

end Overheard

end Service

namespace Cache
open Client Service
variable {client : Client} {τ : Type} {s : Service} {send : Transport τ} {t : τ} {c : Cache}
variable {began ended : Int} {force published : Bool}

/-- The requests that a call makes of the client. -/
def inquiries (client : Client) (s : Service) (send : Transport τ) (c : Cache) (t : τ)
    (began ended : Int) (force published : Bool) : List Inquiry :=
  (c.call (s.overheard client send) (t, []) began ended force published).1.2

/-- The answers that the cache sees are those to its requests. -/
theorem exchanges_eq_inquiries :
    c.exchanges (s.fetch client send) t began ended force published =
      (c.inquiries client s send t began ended force published).map (Inquiry.exchange s) := by
  have hmap := @call_map _ (s.overheard client send) c (t, []) began ended force published _
    (recorded (s.fetch client send)) (Prod.map id (List.map (Inquiry.exchange s))) ?_
  · exact congrArg (fun r => r.1.2) hmap
  · intro t' documentId v
    simp only [recorded, overheard, Prod.map_fst, Prod.map_snd, Prod.map_apply, id_eq,
      List.map_append, List.map_cons, List.map_nil, Inquiry.exchange, Inquiry.url, fetch_answer]

theorem forall_mem_inquiries {P : Reply Response → Prop}
    (hP : ∀ t url, P (s.ask client send t url).2) :
    ∀ q ∈ c.inquiries client s send t began ended force published, P q.reply := by
  refine call_invariant (fun t : τ × List Inquiry => ∀ q ∈ t.2, P q.reply) ?_ nofun
  intro t documentId v ht
  exact List.forall_mem_append.mpr ⟨ht, List.forall_mem_singleton.mpr (hP _ _)⟩

theorem fallback?_standard_eq_some_iff {v w : Variant} {f : Failure} :
    FallbackPolicy.standard.fallback? v f = some w ↔
      v = .draft ∧ w = .published ∧ f.kind ≠ .unreachable ∧ f.kind ≠ .closed := by
  refine ⟨fallback?_standard, ?_⟩
  rintro ⟨rfl, rfl, hreached, hopen⟩
  simp [FallbackPolicy.standard, FallbackPolicy.fallback?, FailureClass.Has, hreached, hopen]

theorem wanted_eq_draft_iff : wanted published = .draft ↔ published = false := by
  cases published <;> simp [wanted]

/-- The standard policy, by the reply. -/
theorem instead?_eq_some_iff {v w : Variant} {reply : Reply Response} {a : Answer}
    (hc : c.policy = .standard) (h : Understood reply a) :
    c.instead? v a = some w ↔
      w = .published ∧ v = .draft ∧ ¬reply.IsSuccess ∧ ¬reply.IsDead := by
  cases h with
  | success hr => simp [instead?, Reply.IsSuccess, hr]
  | failed hr hf hdead =>
    simp only [instead?, if_pos hf, hc, fallback?_standard_eq_some_iff, hdead, hr, not_or]
    tauto

/-- What becomes of a download that made the requests `qs`, if all of their replies are foreseen. -/
structure Withstood (s : Service) (c : Cache) (published : Bool) (ended : Int)
    (qs : List Inquiry) (d : Cache) (a : Answer) : Prop where
  requests : ∃ q rest, qs = q :: rest ∧ rest.length ≤ 1 ∧
    q.url s = Address.ofVersion s.url c.documentId (wanted published) ∧
    (∀ q' ∈ rest, q'.url s = Address.ofVersion s.url c.documentId .published) ∧
    (rest ≠ [] ↔ published = false ∧ ¬q.reply.IsSuccess ∧ ¬q.reply.IsDead)
  settled : ∃ q, qs.getLast? = some q ∧
    ((∃ r body, q.reply = .response r ∧ r.IsSuccess ∧ r.text = .ok body ∧
        d = { c with snapshot := some ⟨body, ended, q.variant⟩ } ∧ a = .ok body) ∨
      (¬q.reply.IsSuccess ∧ d = c ∧ a = .ok c.baseline))

section Download
variable {qs : List Inquiry} {d : Cache} {a : Answer}
variable (h : Download c (wanted published) ended (qs.map (Inquiry.exchange s)) d a)
variable (hqs : ∀ q ∈ qs, q.reply.IsForeseen)
include h hqs

theorem Download.requests (hc : c.policy = .standard) :
    ∃ q rest, qs = q :: rest ∧ rest.length ≤ 1 ∧
      q.url s = Address.ofVersion s.url c.documentId (wanted published) ∧
      (∀ q' ∈ rest, q'.url s = Address.ofVersion s.url c.documentId .published) ∧
      (rest ≠ [] ↔ published = false ∧ ¬q.reply.IsSuccess ∧ ¬q.reply.IsDead) := by
  obtain ⟨x, y, hxs⟩ := h.fetches
  obtain ⟨q, rest, rfl, hq, hrest⟩ := List.map_eq_cons_iff.mp hxs
  obtain ⟨hurl, -, hreply⟩ := Inquiry.understood hq (hqs q List.mem_cons_self)
  refine ⟨q, rest, rfl, ?_, hurl, ?_, ?_⟩
  · rw [← List.length_map (Inquiry.exchange s), hrest]
    exact Option.length_toList_le
  · intro q' hq'
    have hexchange := List.mem_map_of_mem (f := Inquiry.exchange s) hq'
    simp only [hrest, Option.mem_toList, Option.map_eq_some_iff] at hexchange
    obtain ⟨w, hw, hq'⟩ := hexchange
    obtain ⟨rfl, -⟩ := (instead?_eq_some_iff hc hreply).mp hw
    exact (Inquiry.understood hq'.symm (hqs q' (List.mem_cons_of_mem _ ‹_›))).1
  · have hiff : rest ≠ [] ↔ ∃ w, c.instead? (wanted published) x = some w := by
      rw [Ne, ← @List.map_eq_nil_iff _ _ (Inquiry.exchange s), hrest]
      cases c.instead? (wanted published) x with
      | none => simp
      | some w => simp
    rw [hiff]
    simp only [instead?_eq_some_iff hc hreply, exists_eq_left, wanted_eq_draft_iff]

theorem Download.reply_settled : ∃ q, qs.getLast? = some q ∧
    ((∃ r body, q.reply = .response r ∧ r.IsSuccess ∧ r.text = .ok body ∧
        d = { c with snapshot := some ⟨body, ended, q.variant⟩ } ∧ a = .ok body) ∨
      (¬q.reply.IsSuccess ∧ d = c ∧ a = .ok c.baseline)) := by
  obtain ⟨ys, x, hxs, -, hx⟩ := h.settled
  obtain ⟨qs', q', rfl, -, hlast⟩ := List.map_eq_append_iff.mp hxs
  obtain ⟨q, rfl, hq⟩ := List.map_eq_singleton_iff.mp hlast
  refine ⟨q, List.getLast?_concat, ?_⟩
  obtain ⟨-, hv, hreply⟩ := Inquiry.understood hq (hqs q List.mem_concat_self)
  cases hx with
  | @received body hx =>
    rw [hx] at hreply
    obtain ⟨r, hr, hsuccess, ht⟩ := hreply.received
    exact .inl ⟨r, body, hr, hsuccess, ht, by rw [hv], rfl⟩
  | raised hx hf =>
    rw [hx] at hreply
    exact absurd hreply.refused.2.1 hf
  | lost hx =>
    rw [hx] at hreply
    exact .inr ⟨hreply.refused.1, rfl, rfl⟩

end Download

theorem download_of_stale (h : force = true ∨ c.isFresh (wanted published) began = false) :
    Download c (wanted published) ended
      ((c.inquiries client s send t began ended force published).map (Inquiry.exchange s))
      (c.call (s.fetch client send) t began ended force published).2.cache
      (c.call (s.fetch client send) t began ended force published).2.answer := by
  rw [← exchanges_eq_inquiries]
  exact download_of_not_served (not_served_of_stale h)

/-- The bytes, each taken for a character. -/
def letters (body : List UInt8) : String := String.ofList (body.map fun b => Char.ofNat b.toNat)

/-- A client that does no more than it is asked to. -/
def frank : Client where
  urlFault? _ := none
  get _ url := .sent ⟨url, none⟩ fun p => .response ⟨p.status, .ok (letters p.body)⟩

theorem handsOn_frank : frank.HandsOn where
  unsent h := by cases h
  received p h := by
    cases h
    exact ⟨letters p.body, rfl⟩

/-- A service that is slow with the draft and has a published version. -/
def hesitant : Transport Nat := fun n _ =>
  (n + 1, if n = 0 then .interrupted .readTimeout "slow" else .response ⟨200, [], [0x78]⟩)

def bureau : Service := ⟨"http://h/", none⟩

def blank : Cache := .new "d" .standard standardWindow

/-- A client that looks for the host of the place that a response sends it on to, and for the
character set of a text. -/
def wary : Client where
  urlFault? _ := none
  get _ url := .sent ⟨url, none⟩ fun p =>
    if p.headers.lookup "location" = some "http://xn---bbk/" ∧ p.status = 302 then
      .raised
        (.foreign "label" "A-label is not the canonical Punycode encoding of its U-label")
    else .response ⟨p.status,
      if p.headers.lookup "content-type" = some "text/plain; charset*=utf-8''iso%00" then
        .error (.foreign "value" "embedded null character")
      else .ok (letters p.body)⟩

/-- A service that sends its clients on to a host whose name nobody can have, -/
def misdirecting : Transport Unit := fun _ _ =>
  ((), .response ⟨302, [("location", "http://xn---bbk/")], []⟩)

/-- and one that names a character set that nobody can look up. -/
def garbling : Transport Unit := fun _ _ =>
  ((), .response ⟨200, [("content-type", "text/plain; charset*=utf-8''iso%00")], [0x78]⟩)

end Cache

end Scriptorium
