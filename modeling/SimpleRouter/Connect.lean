import SimpleRouter.Calls
import SimpleRouter.SessionMessages

/-!
# Opening a session

`sr_connect_to_server` answers the server's request for authentication, reads the status, and only
then sends `VNSOPEN` or `VNS_OPEN_TEMPLATE`.

* `Asked` — how far along the bytes that arrive the client comes to read its first, second or third
  message.
* `Attempt` — what the call for a message can do; `Stage` — what has been done so far; `Exchange` —
  how connecting can end (`connect_exchange`).
* `session_messages_decode` — **what the client sends, the server reads**: the length word counts
  the bytes, and the class of the type word unpacks the body to the values sent.
-/

namespace SimpleRouter

open Buffer Stream Logged Wire

/-! ### Events -/

/-- A message that has been received. -/
def Io.message : Io → Option (UInt32 × List UInt8)
  | .received command buf => some (command, buf)
  | _ => none

/-- A message `VNSOPEN` or `VNS_OPEN_TEMPLATE` is sent. -/
def Io.IsOpening : Io → Prop
  | .sent message _ => (message.drop 4).take 4 = be 4 VnsCommand.openTopo.code.toNat ∨
      (message.drop 4).take 4 = be 4 VnsCommand.openTemplate.code.toNat
  | _ => False

/-- The answer to a request opens nothing. -/
theorem not_isOpening_authReply {user : CStr 32} {digest : Fin 5 → UInt32} {ret : ℤ} :
    ¬ (Io.sent (authReplyMessage user digest) ret).IsOpening := by
  have htype := (authReplyMessage_carries user digest).type
  have hcode : be 4 VnsCommand.authReply.code.toNat ≠ be 4 VnsCommand.openTopo.code.toNat ∧
      be 4 VnsCommand.authReply.code.toNat ≠ be 4 VnsCommand.openTemplate.code.toNat := by decide
  show ¬ (_ ∨ _)
  rw [htype]
  exact not_or.mpr hcode

/-- The message that opens the session does. -/
theorem isOpening_opening {s : Session} {ret : ℤ} : (Io.sent (opening s) ret).IsOpening := by
  unfold opening
  split_ifs
  · have htype := (openTemplateMessage_carries s).type
    rw [VnsMessage.mkOpenTemplate, dif_pos rfl] at htype
    exact .inr htype
  · exact .inl (openMessage_carries s).type

/-- The answer to a request for authentication, fully sent. -/
def fullReply (user : CStr 32) (digest : Fin 5 → UInt32) : Io :=
  .sent (authReplyMessage user digest) (authReplyMessage user digest).length

/-- The event is the answer to a request, sent in full or not. -/
def IsAnswer (env : VnsEnv) (user : CStr 32) (buf : List UInt8) (e : Io) : Prop :=
  ∃ digest ret, authDigest env buf = some digest ∧ e = .sent (authReplyMessage user digest) ret

/-- An answer is no message from the server, and opens nothing. -/
theorem IsAnswer.quiet {env : VnsEnv} {user : CStr 32} {buf : List UInt8} {e : Io}
    (h : IsAnswer env user buf e) : e.message = none ∧ ¬ e.IsOpening := by
  obtain ⟨digest, ret, -, rfl⟩ := h
  exact ⟨rfl, not_isOpening_authReply⟩

/-! ### What is needed -/

section exchange

variable (connected : Bool) (envs : Fin 3 → VnsEnv) (user : CStr 32)

/-- The `i`-th message is the one that is needed, given what the client does after it: a request
that is answered, a status that is positive, and a routing table that is stored. -/
inductive Accepted : ℕ → UInt32 → List UInt8 → List Io → Prop
  | request {buf : List UInt8} {digest : Fin 5 → UInt32} {post : List Io} :
      Accepted 0 VnsCommand.authRequest.code buf (fullReply user digest :: post)
  | status {buf : List UInt8} {post : List Io} (hok : authOk (envs 1) buf ≠ 0) :
      Accepted 1 VnsCommand.authStatus.code buf post
  | table {buf host text : List UInt8} :
      Accepted 2 VnsCommand.rtable.code buf [.stored host text]

/-- There is a digest for a request, and the answer is sent in full. -/
def Replies (env : VnsEnv) (buf : List UInt8) : Prop :=
  ∃ digest, authDigest env buf = some digest ∧ env.sent = (authReplyMessage user digest).length

/-- What handling the `i`-th message does when it is the one needed. -/
inductive Needed : ℕ → UInt32 → List UInt8 → List Io → Prop
  | request {buf : List UInt8} {digest : Fin 5 → UInt32}
      (hdigest : authDigest (envs 0) buf = some digest)
      (hsent : (envs 0).sent = (authReplyMessage user digest).length) :
      Needed 0 VnsCommand.authRequest.code buf [fullReply user digest]
  | status {buf : List UInt8} (hok : authOk (envs 1) buf ≠ 0) :
      Needed 1 VnsCommand.authStatus.code buf []
  | table {buf host text : List UInt8} : Needed 2 VnsCommand.rtable.code buf [.stored host text]

/-- What the call for the `i`-th message does when the bytes `bs` are in front of it, what it
returns, and the bytes it leaves. -/
inductive Attempt (i : ℕ) (bs : List UInt8) : List Io → Except Stop (ℤ × List UInt8) → Prop
  /-- No message. -/
  | silent {r : Except Stop (ℤ × List UInt8)} (hr : ∀ left, r ≠ .ok (1, left)) :
      Attempt i bs [] r
  /-- A message whose length is refused. -/
  | badLength (len : ℤ) (left : List UInt8) : Attempt i bs [.refused len] (.ok (-1, left))
  /-- A message without a type. -/
  | short {m : Message} {rest : List UInt8} (hbs : bs = m.bytes ++ rest) (hlen : m.len < 8) :
      Attempt i bs [.short m.len] (.error (.fault .outOfBounds))
  /-- A message that is not the one needed. -/
  | refused {command : UInt32} {buf left : List UInt8} {tail : List Io} {ret : ℤ} (hret : ret ≠ 1)
      (hnot : ¬ Accepted envs user i command buf tail)
      (htail : ∀ e ∈ tail, IsAnswer (envs 0) user buf e) :
      Attempt i bs (.received command buf :: tail) (.ok (ret, left))
  /-- A routing table whose host name does not fit. -/
  | overflow {m : Message} {rest : List UInt8} (hi : i = 2) (hbs : bs = m.bytes ++ rest)
      (hcommand : m.command = VnsCommand.rtable.code) (hlong : ¬ HostFits (envs 2) m.arrived) :
      Attempt i bs [.received VnsCommand.rtable.code m.arrived] (.error (.fault .outOfBounds))
  /-- The message needed. -/
  | accepted {m : Message} {rest : List UInt8} {command : UInt32} {tail : List Io}
      (hbs : bs = m.bytes ++ rest) (hlen : 8 ≤ m.len) (hcommand : m.command = command)
      (h : Needed envs user i command m.arrived tail) :
      Attempt i bs (.received command m.arrived :: tail) (.ok (1, rest))

variable (sent : ℤ) (s : Session) (sock : Socket)

/-- The client comes to read its `i`-th message, and the bytes `bs` are in front of it: a request
that is answered comes before the second, and a positive status before the third, which is only read
for a template, after the opening is sent in full. -/
inductive Asked : ℕ → List UInt8 → Prop
  | request (h : connected = true) : Asked 0 (arriving sock)
  | status {m : Message} {rest : List UInt8} (h : Asked 0 (m.bytes ++ rest)) (hlen : 8 ≤ m.len)
      (hcommand : m.command = VnsCommand.authRequest.code)
      (hreplies : Replies s.user (envs 0) m.arrived) : Asked 1 rest
  | table {m : Message} {rest : List UInt8} (h : Asked 1 (m.bytes ++ rest)) (hlen : 8 ≤ m.len)
      (hcommand : m.command = VnsCommand.authStatus.code)
      (hok : authOk (envs 1) m.arrived ≠ 0) (hsent : sent = (opening s).length)
      (htemplate : s.template.chars ≠ []) : Asked 2 rest

/-- What has been done when `i` messages have been accepted. -/
inductive Stage : ℕ → List Io → Prop
  | start : Stage 0 []
  | replied {request : List UInt8} {digest : Fin 5 → UInt32}
      (hdigest : authDigest (envs 0) request = some digest) :
      Stage 1 [.received VnsCommand.authRequest.code request, fullReply s.user digest]
  | opened {request status : List UInt8} {digest : Fin 5 → UInt32}
      (hdigest : authDigest (envs 0) request = some digest) (hok : authOk (envs 1) status ≠ 0) :
      Stage 2 [.received VnsCommand.authRequest.code request, fullReply s.user digest,
        .received VnsCommand.authStatus.code status, .sent (opening s) sent]

/-- **How connecting can end.** -/
inductive Exchange : List Io → Except Stop ℤ → Prop
  /-- No further message, and no success. -/
  | silent {i : ℕ} {t : List Io} {result : Except Stop ℤ} (hstage : Stage envs sent s i t)
      (hresult : result ≠ .ok 0) : Exchange t result
  /-- A message whose length is refused. -/
  | badLength {i : ℕ} {t : List Io} (hstage : Stage envs sent s i t) (len : ℤ) :
      Exchange (t ++ [.refused len]) (.ok (-1))
  /-- A message without a type. -/
  | short {i : ℕ} {t : List Io} {m : Message} {rest : List UInt8} (hstage : Stage envs sent s i t)
      (hasked : Asked connected envs sent s sock i (m.bytes ++ rest)) (hlen : m.len < 8) :
      Exchange (t ++ [.short m.len]) (.error (.fault .outOfBounds))
  /-- A message that is not the one needed. -/
  | refused {i : ℕ} {t tail : List Io} {command : UInt32} {buf : List UInt8}
      (hstage : Stage envs sent s i t) (hnot : ¬ Accepted envs s.user i command buf tail)
      (htail : ∀ e ∈ tail, IsAnswer (envs 0) s.user buf e) :
      Exchange (t ++ .received command buf :: tail) (.ok (-1))
  /-- A routing table whose host name does not fit. -/
  | overflow {t : List Io} {m : Message} {rest : List UInt8} (hstage : Stage envs sent s 2 t)
      (hasked : Asked connected envs sent s sock 2 (m.bytes ++ rest))
      (hcommand : m.command = VnsCommand.rtable.code) (hlong : ¬ HostFits (envs 2) m.arrived) :
      Exchange (t ++ [.received VnsCommand.rtable.code m.arrived]) (.error (.fault .outOfBounds))
  /-- Success without a template. -/
  | opened {t : List Io} (hstage : Stage envs sent s 2 t) (htemplate : s.template.chars = []) :
      Exchange t (.ok 0)
  /-- Success with a template. -/
  | stored {t : List Io} {table host text : List UInt8} (hstage : Stage envs sent s 2 t) :
      Exchange (t ++ [.received VnsCommand.rtable.code table, .stored host text]) (.ok 0)

end exchange

/-! ### The calls of the exchange -/

section calls

variable {envs : Fin 3 → VnsEnv} {s : Session} {bs : List UInt8} {t : List Io}
  {r : Except Stop (ℤ × List UInt8)}

/-- The first message needed is a request that is answered. -/
theorem accepted_zero {command : UInt32} {buf : List UInt8} {post : List Io}
    (h : Accepted envs s.user 0 command buf post) : command = VnsCommand.authRequest.code ∧
      ∃ digest post', post = fullReply s.user digest :: post' := by
  cases h
  exact ⟨rfl, _, _, rfl⟩

/-- The second is a positive status. -/
theorem accepted_one {command : UInt32} {buf : List UInt8} {post : List Io}
    (h : Accepted envs s.user 1 command buf post) : command = VnsCommand.authStatus.code ∧
      authOk (envs 1) buf ≠ 0 := by
  cases h with
  | status hok => exact ⟨rfl, hok⟩

/-- The third is a routing table that is stored. -/
theorem accepted_two {command : UInt32} {buf : List UInt8} {post : List Io}
    (h : Accepted envs s.user 2 command buf post) : command = VnsCommand.rtable.code ∧
      ∃ host text, post = [.stored host text] := by
  cases h
  exact ⟨rfl, _, _, rfl⟩

/-- A call for the `i`-th message can only go on by handling one of the type that is needed. -/
theorem Attempt.of_call {env : VnsEnv} {c : VnsCommand} {i : ℕ} (h : Call env s c bs t r)
    (hneeds : ∀ {command buf post}, Accepted envs s.user i command buf post → command = c.code)
    (hhandled : ∀ (m : Message) rest, bs = m.bytes ++ rest → 8 ≤ m.len → m.command = c.code →
      Attempt envs s.user i bs
        (.received c.code m.arrived :: trace (handleCommand env s c.code m.arrived))
        ((handleCommand env s c.code m.arrived).val.map fun r => (r.1, rest))) :
    Attempt envs s.user i bs t r := by
  cases h with
  | hang => exact .silent nofun
  | failed => exact .silent (by rintro left ⟨⟩)
  | badLength len left => exact .badLength len left
  | short hbs hlen => exact .short hbs hlen
  | other hother hret => exact .refused hret (fun ha => hother (hneeds ha)) (by simp)
  | handled hbs hlen hcommand => exact hhandled _ _ hbs hlen hcommand

/-- The first call. -/
theorem authRequest_call (h : Call (envs 0) s .authRequest bs t r) :
    Attempt envs s.user 0 bs t r := by
  refine .of_call h (fun ha => (accepted_zero ha).1) fun m rest hbs hlen hcommand => ?_
  cases hdigest : authDigest (envs 0) m.arrived with
  | none =>
      obtain ⟨ht, hr⟩ := authRequest_refused (envs 0) s m.arrived hdigest
      rw [ht, hr]
      refine .refused (show (-1 : ℤ) ≠ 1 by norm_num) (fun ha => ?_) (by simp)
      obtain ⟨-, digest, post, hpost⟩ := accepted_zero ha
      cases hpost
  | some digest =>
      obtain ⟨ht, hr⟩ := authRequest_answered (envs 0) s m.arrived hdigest
      rw [ht, hr]
      by_cases hsent : (envs 0).sent = (authReplyMessage s.user digest).length
      · rw [if_pos hsent, hsent]
        exact .accepted hbs hlen hcommand (.request hdigest hsent)
      · rw [if_neg hsent]
        refine .refused (show (-1 : ℤ) ≠ 1 by norm_num) (fun ha => ?_) fun e he => ?_
        · obtain ⟨-, digest', post, hpost⟩ := accepted_zero ha
          obtain ⟨hmessage, hlength⟩ := Io.sent.inj (List.cons.inj hpost).1
          rw [← hmessage] at hlength
          exact hsent hlength
        · exact ⟨digest, _, hdigest, List.mem_singleton.mp he⟩

/-- The second call. -/
theorem authStatus_call (h : Call (envs 1) s .authStatus bs t r) :
    Attempt envs s.user 1 bs t r := by
  refine .of_call h (fun ha => (accepted_one ha).1) fun m rest hbs hlen hcommand => ?_
  obtain ⟨ht, hr⟩ := authStatus_handled (envs 1) s m.arrived
  rw [ht, hr]
  by_cases hok : authOk (envs 1) m.arrived ≠ 0
  · rw [if_pos hok]
    exact .accepted hbs hlen hcommand (.status hok)
  · rw [if_neg hok]
    exact .refused (show (-1 : ℤ) ≠ 1 by norm_num) (fun ha => hok (accepted_one ha).2) (by simp)

/-- The third call. -/
theorem rtable_call (h : Call (envs 2) s .rtable bs t r) : Attempt envs s.user 2 bs t r := by
  have hempty : ∀ command buf, ¬ Accepted envs s.user 2 command buf [] := by
    intro command buf ha
    obtain ⟨-, host, text, hpost⟩ := accepted_two ha
    cases hpost
  refine .of_call h (fun ha => (accepted_two ha).1) fun m rest hbs hlen hcommand => ?_
  by_cases hfits : HostFits (envs 2) m.arrived
  · rcases rtable_handled (envs 2) s m.arrived hfits with ⟨ht, hr⟩ | ⟨host, text, ht, hr⟩
    · rw [ht, hr]
      exact .refused (show (-1 : ℤ) ≠ 1 by norm_num) (hempty _ _) (by simp)
    · rw [ht, hr]
      exact .accepted hbs hlen hcommand .table
  · obtain ⟨ht, hr⟩ := rtable_overflow (envs 2) s m.arrived hfits
    rw [ht, hr]
    exact .overflow rfl hbs hcommand hfits

/-- A call that does not return 1 is the last one. -/
theorem call_fail {x : Vns ((ℤ × SrInstance) × Socket)}
    {g : (ℤ × SrInstance) × Socket → Vns (ℤ × SrInstance)}
    (hg : ∀ ret sr sock, ret ≠ 1 → g ((ret, sr), sock) = pure (-1, sr))
    (hx : (x.val.map fun r => (r.1.1, arriving r.2)) = r) (hr : ∀ left, r ≠ .ok (1, left)) :
    trace (x >>= g) = trace x ∧ (x >>= g).val.map Prod.fst = r.map fun _ => -1 := by
  subst hx
  rw [val_bind]
  cases hval : x.val with
  | error e => exact ⟨trace_bind_error hval, rfl⟩
  | ok a =>
      obtain ⟨⟨ret, sr⟩, sock⟩ := a
      rw [hval] at hr
      have hret : ret ≠ 1 := fun hret => hr (arriving sock) (by rw [hret]; rfl)
      rw [trace_bind hval, hg ret sr sock hret]
      refine ⟨List.append_nil _, ?_⟩
      show ((g ((ret, sr), sock)).val).map Prod.fst = _
      rw [hg ret sr sock hret]
      rfl

/-- A call that returns 1. -/
theorem call_pass {x : Vns ((ℤ × SrInstance) × Socket)} {left : List UInt8}
    (h : (x.val.map fun r => (r.1.1, arriving r.2)) = .ok (1, left)) :
    ∃ sr sock, x.val = .ok ((1, sr), sock) ∧ arriving sock = left := by
  cases hx : x.val with
  | error e =>
      rw [hx] at h
      cases h
  | ok a =>
      obtain ⟨⟨ret, sr⟩, sock⟩ := a
      rw [hx] at h
      obtain ⟨rfl, hleft⟩ : ret = 1 ∧ arriving sock = left := Prod.mk.inj (Except.ok.inj h)
      exact ⟨sr, sock, rfl, hleft⟩

end calls

/-! ### The whole function -/

section connect

variable {fuel i : ℕ} {connected : Bool} {envs : Fin 3 → VnsEnv} {sent : ℤ} {s : Session}
  {sock : Socket} {bs : List UInt8}

/-- A failure is no success. -/
theorem map_fail_ne {α : Type} {r : Except Stop α} : (r.map fun _ => (-1 : ℤ)) ≠ .ok 0 := by
  cases r with
  | error e => nofun
  | ok ret => rintro ⟨⟩

/-- **A call of the exchange**: either it ends the exchange, or the message is accepted and the
exchange goes on. -/
theorem Attempt.exchange {pre : List Io} {x : Vns ((ℤ × SrInstance) × Socket)}
    {g : (ℤ × SrInstance) × Socket → Vns (ℤ × SrInstance)}
    (hcall : Attempt envs s.user i bs (trace x) (x.val.map fun r => (r.1.1, arriving r.2)))
    (hstage : Stage envs sent s i pre)
    (hasked : Asked connected envs sent s sock i bs)
    (hfail : ∀ ret sr sock, ret ≠ 1 → g ((ret, sr), sock) = pure (-1, sr))
    (hpass : ∀ (m : Message) command tail sr sock', bs = m.bytes ++ arriving sock' → 8 ≤ m.len →
      m.command = command → Needed envs s.user i command m.arrived tail →
        Exchange connected envs sent s sock
          (pre ++ .received command m.arrived :: (tail ++ trace (g ((1, sr), sock'))))
          ((g ((1, sr), sock')).val.map Prod.fst)) :
    Exchange connected envs sent s sock (pre ++ trace (x >>= g)) ((x >>= g).val.map Prod.fst) := by
  generalize ht : trace x = t at hcall
  generalize hr : (x.val.map fun r => (r.1.1, arriving r.2)) = r at hcall
  cases hcall with
  | silent hne =>
      obtain ⟨htrace, hres⟩ := call_fail hfail hr hne
      rw [htrace, hres, ht, List.append_nil]
      exact .silent hstage map_fail_ne
  | badLength len left =>
      obtain ⟨htrace, hres⟩ := call_fail hfail hr (by rintro left ⟨⟩)
      rw [htrace, hres, ht]
      exact .badLength hstage len
  | short hbs hlen =>
      obtain ⟨htrace, hres⟩ := call_fail hfail hr nofun
      rw [htrace, hres, ht]
      exact .short hstage (hbs ▸ hasked) hlen
  | refused hret hnot htail =>
      obtain ⟨htrace, hres⟩ := call_fail hfail hr fun left h =>
        hret (Prod.mk.inj (Except.ok.inj h)).1
      rw [htrace, hres, ht]
      exact .refused hstage hnot htail
  | overflow hi hbs hcommand hlong =>
      obtain ⟨htrace, hres⟩ := call_fail hfail hr nofun
      subst hi
      rw [htrace, hres, ht]
      exact .overflow hstage (hbs ▸ hasked) hcommand hlong
  | @accepted m rest command tail hbs hlen hcommand h =>
      obtain ⟨sr, sock', hx, rfl⟩ := call_pass hr
      rw [trace_bind hx, val_bind_of_val hx, ht]
      exact hpass m command tail sr sock' hbs hlen hcommand h

/-- From the opening on. -/
theorem sendOpening_exchange {pre : List Io} {sr : SrInstance} {sock' : Socket}
    (hstage : Stage envs sent s 2 (pre ++ [.sent (opening s) sent]))
    (hasked : sent = (opening s).length → s.template.chars ≠ [] →
      Asked connected envs sent s sock 2 (arriving sock')) :
    Exchange connected envs sent s sock
      (pre ++ trace (sendOpening fuel (envs 2) sent { s with sr := sr } sock'))
      ((sendOpening fuel (envs 2) sent { s with sr := sr } sock').val.map Prod.fst) := by
  have hopening : opening { s with sr := sr } = opening s := rfl
  have htell : trace (tell (Io.sent (opening s) sent) : Vns Unit) = [.sent (opening s) sent] := rfl
  have hval : (tell (Io.sent (opening s) sent) : Vns Unit).val = .ok () := rfl
  rw [sendOpening, hopening, trace_bind hval, val_bind_of_val hval, htell, ← List.append_assoc]
  by_cases hfull : sent ≠ (opening s).length
  · rw [if_pos hfull]
    exact (List.append_nil (pre ++ [Io.sent (opening s) sent])).symm ▸ .silent hstage (by rintro ⟨⟩)
  rw [if_neg hfull]
  by_cases htemplate : s.template.chars = []
  · rw [if_pos htemplate]
    exact (List.append_nil (pre ++ [Io.sent (opening s) sent])).symm ▸ .opened hstage htemplate
  rw [if_neg htemplate]
  have hcall : Attempt envs s.user 2 _ _ _ :=
    rtable_call (s := { s with sr := sr })
      (srReadFromServerExpect_call fuel (envs 2) { s with sr := sr } .rtable sock')
  refine hcall.exchange hstage (hasked (not_not.mp hfull) htemplate) ?_ ?_
  · exact fun _ _ _ hret => if_pos hret
  · intro m command tail sr' sock'' _ _ _ h
    cases h with
    | table => exact .stored hstage

/-- **Nothing else can happen while connecting.** -/
theorem connect_exchange : Exchange connected envs sent s sock
    (trace (srConnectToServer fuel connected envs sent s sock))
    ((srConnectToServer fuel connected envs sent s sock).val.map Prod.fst) := by
  unfold srConnectToServer
  cases connected with
  | false => exact .silent .start (by rintro ⟨⟩)
  | true =>
      have hcall : Attempt envs s.user 0 _ _ _ :=
        authRequest_call (srReadFromServerExpect_call fuel (envs 0) s .authRequest sock)
      rw [if_neg (by decide)]
      have hstage : Stage envs sent s 0 [] := .start
      refine hcall.exchange hstage (.request rfl) ?_ ?_
      · exact fun _ _ _ hret => if_pos hret
      intro m₁ command tail sr₁ sock₁ hbs₁ hlen₁ hcommand₁ h
      cases h with
      | @request _ digest hdigest hreply =>
          have hasked₁ : Asked true envs sent s sock 1 (arriving sock₁) :=
            .status (hbs₁ ▸ .request rfl) hlen₁ hcommand₁ ⟨digest, hdigest, hreply⟩
          have hcall : Attempt envs s.user 1 _ _ _ :=
            authStatus_call (s := { s with sr := sr₁ })
              (srReadFromServerExpect_call fuel (envs 1) { s with sr := sr₁ } .authStatus sock₁)
          show Exchange true envs sent s sock ([_, _] ++ trace (if (1 : ℤ) ≠ 1 then _ else _))
            (Except.map Prod.fst (Logged.val (if (1 : ℤ) ≠ 1 then _ else _)))
          rw [if_neg (by decide)]
          refine hcall.exchange (.replied hdigest) hasked₁ ?_ ?_
          · exact fun _ _ _ hret => if_pos hret
          intro m₂ command tail sr₂ sock₂ hbs₂ hlen₂ hcommand₂ h
          cases h with
          | status hok =>
              have hstage : Stage envs sent s 2
                  ([.received VnsCommand.authRequest.code m₁.arrived, fullReply s.user digest,
                    .received VnsCommand.authStatus.code m₂.arrived] ++
                    [.sent (opening s) sent]) := .opened hdigest hok
              exact sendOpening_exchange hstage fun hfull htemplate =>
                .table (hbs₂ ▸ hasked₁) hlen₂ hcommand₂ hok hfull htemplate

end connect

/-! ### What the client sends -/

section sent

variable {s : Session} {message : List UInt8} {ret : ℤ}

/-- What is sent for a request is the answer to it. -/
theorem sent_of_authRequest {env : VnsEnv} {buf : List UInt8}
    (h : Io.sent message ret ∈ (srHandleAuthRequest env s.user buf).log) :
    ∃ digest, authDigest env buf = some digest ∧ message = authReplyMessage s.user digest := by
  have hmem := mem_trace h id
  cases hdigest : authDigest env buf with
  | none =>
      rw [(srHandleAuthRequest_none env s buf hdigest).1] at hmem
      cases hmem
  | some digest =>
      rw [(srHandleAuthRequest_some env s buf hdigest).1] at hmem
      exact ⟨digest, rfl, (Io.sent.inj (List.mem_singleton.mp hmem)).1⟩

variable {i fuel : ℕ} {connected : Bool} {envs : Fin 3 → VnsEnv} {sent : ℤ} {sock : Socket}
  {t : List Io}

/-- The message is the answer to a request, or opens the session. -/
def SentByClient (env : VnsEnv) (s : Session) (message : List UInt8) : Prop :=
  (∃ request digest, authDigest env request = some digest ∧
    message = authReplyMessage s.user digest) ∨ message = opening s

/-- What has been sent at a stage. -/
theorem Stage.sentByClient (h : Stage envs sent s i t) (hmem : Io.sent message ret ∈ t) :
    SentByClient (envs 0) s message := by
  cases h with
  | start => cases hmem
  | @replied request digest hdigest =>
      simp only [fullReply, List.mem_cons, reduceCtorEq, Io.sent.injEq, List.not_mem_nil, or_false,
        false_or] at hmem
      exact .inl ⟨request, digest, hdigest, hmem.1⟩
  | @opened request status digest hdigest hok =>
      simp only [fullReply, List.mem_cons, reduceCtorEq, Io.sent.injEq, List.not_mem_nil, or_false,
        false_or] at hmem
      rcases hmem with ⟨rfl, -⟩ | ⟨rfl, -⟩
      · exact .inl ⟨request, digest, hdigest, rfl⟩
      · exact .inr rfl

/-- What has been sent in the end. -/
theorem Exchange.sentByClient {result : Except Stop ℤ}
    (h : Exchange connected envs sent s sock t result) (hmem : Io.sent message ret ∈ t) :
    SentByClient (envs 0) s message := by
  cases h with
  | silent hstage | opened hstage => exact hstage.sentByClient hmem
  | badLength hstage | short hstage | overflow hstage =>
      refine hstage.sentByClient ((List.mem_append.mp hmem).resolve_right ?_)
      simp
  | stored hstage =>
      refine hstage.sentByClient ((List.mem_append.mp hmem).resolve_right ?_)
      simp
  | @refused i t tail command buf hstage hnot htail =>
      rcases List.mem_append.mp hmem with hmem | hmem
      · exact hstage.sentByClient hmem
      · obtain ⟨digest, ret', hdigest, he⟩ :=
          htail _ ((List.mem_cons.mp hmem).resolve_left nofun)
        exact .inl ⟨buf, digest, hdigest, (Io.sent.inj he).1⟩

/-- What is sent while connecting. -/
theorem sent_of_connect
    (h : Io.sent message ret ∈ (srConnectToServer fuel connected envs sent s sock).log) :
    SentByClient (envs 0) s message :=
  connect_exchange.sentByClient (mem_trace h id)

/-- **What the client sends, the server reads**: each message it sends while connecting, whatever
the server sends, and each it can be made to send. -/
theorem session_messages_decode {lt : LtProtocol} (hlt : lt.Framed) (s : Session) :
    (∀ env buf message ret, Io.sent message ret ∈ (srHandleAuthRequest env s.user buf).log →
      ∃ digest, authDigest env buf = some digest ∧
        Decodes lt message (.authReply s.user.chars (digestBytes digest))) ∧
    (∀ fuel connected envs sent sock message ret,
      Io.sent message ret ∈ (srConnectToServer fuel connected envs sent s sock).log →
        (∃ request digest, authDigest (envs 0) request = some digest ∧
          Decodes lt message (.authReply s.user.chars (digestBytes digest))) ∨
        Decodes lt message
          (if s.template.chars = [] then .openTopo s.topoId.toNat s.host.chars s.user.chars []
            else .mkOpenTemplate s.template.chars s.host.chars [])) ∧
    ∀ digest, Decodes lt (openMessage s) (.openTopo s.topoId.toNat s.host.chars s.user.chars []) ∧
      Decodes lt (openTemplateMessage s) (.mkOpenTemplate s.template.chars s.host.chars []) ∧
      Decodes lt (authReplyMessage s.user digest)
        (.authReply s.user.chars (digestBytes digest)) := by
  refine ⟨fun env buf message ret h => ?_, fun fuel connected envs sent sock message ret h => ?_,
    fun digest => ⟨openMessage_decodes hlt s, openTemplateMessage_decodes hlt s,
      authReplyMessage_decodes hlt s digest⟩⟩
  · obtain ⟨digest, hdigest, rfl⟩ := sent_of_authRequest h
    exact ⟨digest, hdigest, authReplyMessage_decodes hlt s digest⟩
  · obtain ⟨request, digest, hdigest, rfl⟩ | rfl := sent_of_connect h
    · exact .inl ⟨request, digest, hdigest, authReplyMessage_decodes hlt s digest⟩
    · right
      unfold opening
      by_cases htemplate : s.template.chars = []
      · rw [if_neg (not_not.mpr htemplate), if_pos htemplate]
        exact openMessage_decodes hlt s
      · rw [if_pos htemplate, if_neg htemplate]
        exact openTemplateMessage_decodes hlt s

/-- The user `u` asks for the topology 7 of the host `v`. -/
theorem session_messages_decode_plain :
    Decodes LtProtocol.plain
      (openMessage ⟨srInit [] [], ⟨[117], by decide, by decide⟩, ⟨[118], by decide, by decide⟩,
        ⟨[], by decide, by decide⟩, 7, false⟩) (.openTopo 7 [118] [117] []) :=
  ((session_messages_decode LtProtocol.plain_framed _).2.2 fun _ => 0).1

end sent

end SimpleRouter
