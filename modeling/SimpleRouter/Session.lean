import SimpleRouter.Controller
import SimpleRouter.Resolve
import SimpleRouter.Sha1

/-!
# A session of client and controller

Both sides of the protocol together. The controller asks for authentication, accepts whatever it is
told, and announces its hardware when it is asked for a topology; the client computes the digest,
opens the session, and goes into its main loop.

* `srConnectToServer_eq` — connecting, and what it leaves of the stream for the main loop.
* `session_opens` — **a session opens**: the client sends what the listener answers with the
  messages the client needs, and has the interfaces of the listener in the end.
* `template_raises` — with a template it does not: the listener has no handler for the message.
-/

namespace SimpleRouter

open Buffer Stream Logged Wire

/-! ### Connecting -/

/-- `sr_connect_to_server` once the connection stands, and what it leaves of the stream.
Source: `sr_vns_comm.c`, `sr_connect_to_server` -/
def connectLeaving (fuel : ℕ) (env₁ env₂ env₃ : VnsEnv) (sent : ℤ) (s : Session) (sock : Socket) :
    Vns ((ℤ × SrInstance) × Socket) := do
  let ((ret, sr), sock) ← srReadFromServerExpect fuel env₁ s (some .authRequest) sock
  if ret ≠ 1 then pure ((-1, sr), sock)
  else do
    let s := { s with sr := sr }
    let ((ret, sr), sock) ← srReadFromServerExpect fuel env₂ s (some .authStatus) sock
    if ret ≠ 1 then pure ((-1, sr), sock)
    else do
      let s := { s with sr := sr }
      tell (.sent (opening s) sent)
      if sent ≠ (opening s).length then pure ((-1, s.sr), sock)
      else if s.template.chars = [] then pure ((0, s.sr), sock)
      else do
        let ((ret, sr), sock) ← srReadFromServerExpect fuel env₃ s (some .rtable) sock
        if ret ≠ 1 then pure ((-1, sr), sock) else pure ((0, sr), sock)

/-- Connecting is that, without what is left. -/
theorem srConnectToServer_eq (fuel : ℕ) (envs : Fin 3 → VnsEnv) (sent : ℤ) (s : Session)
    (sock : Socket) : srConnectToServer fuel true envs sent s sock =
      Prod.fst <$> connectLeaving fuel (envs 0) (envs 1) (envs 2) sent s sock := by
  refine bind_eq_map_bind _ fun ⟨⟨ret, sr⟩, sock⟩ => ?_
  by_cases hret : ret ≠ 1
  · simp only [if_pos hret]
    rfl
  simp only [if_neg hret]
  refine bind_eq_map_bind _ fun ⟨⟨ret, sr⟩, sock⟩ => ?_
  by_cases hret : ret ≠ 1
  · simp only [if_pos hret]
    rfl
  simp only [if_neg hret, sendOpening]
  refine bind_eq_map_bind _ fun _ => ?_
  split_ifs with hsent htemplate
  · rfl
  · rfl
  refine bind_eq_map_bind _ fun ⟨⟨ret, sr⟩, sock⟩ => ?_
  by_cases hret : ret ≠ 1
  · simp only [if_pos hret]
    rfl
  · simp only [if_neg hret]
    rfl

/-! ### The handlers on the messages of the listener -/

section handlers

variable {m : Message} {sock : Socket} {rest : List UInt8} {env : VnsEnv} {s : Session}

/-- A call that handles a message of the expected type: what it returns, does and leaves. -/
theorem read_expected (hlen : 8 ≤ m.len) (hsock : NoError sock)
    (hbytes : bytes sock = m.bytes ++ rest) :
    ∃ sock', bytes sock' = rest ∧ NoError sock' ∧ ∀ fuel ≥ 10000, ∀ env s expected ret sr,
      ¬ Unexpected expected m.command →
      (handleCommand env s m.command m.arrived).val = .ok (ret, sr) →
        (srReadFromServerExpect fuel env s expected sock).val = .ok ((ret, sr), sock') ∧
        trace (srReadFromServerExpect fuel env s expected sock) =
          .received m.command m.arrived :: trace (handleCommand env s m.command m.arrived) := by
  rw [← arriving_of_noError hsock] at hbytes
  obtain ⟨sock', hrest, hsock', hread⟩ := read_message hlen hbytes
  rw [arriving_of_noError (hsock' hsock)] at hrest
  refine ⟨sock', hrest, hsock' hsock, fun fuel hfuel env s expected ret sr hexpected hval => ?_⟩
  obtain ⟨htrace, hres⟩ := hread fuel hfuel env s expected hexpected
  rw [hval] at hres
  exact ⟨hres, htrace⟩

/-- What a function of `sha1.c` is asked for in one call is the digest of the whole. -/
def sha1Answer (context : Sha1Context) (data : List UInt8) : Option (Fin 5 → UInt32) :=
  match sha1Digest context [data] with
  | .ok [answer] => answer
  | _ => none

/-- The answer for less than the longest message is the digest. -/
theorem sha1Answer_eq (context : Sha1Context) {data : List UInt8} (h : data.length < 2 ^ 61) :
    sha1Answer context data = some (sha1 data) := by
  rw [sha1Answer, sha1Digest_eq, List.flatten_singleton, if_pos h]

/-- The request is answered with the digest of its salt and the key. -/
theorem authRequest_val (hlen : 8 ≤ m.len) (hcommand : m.command = VnsCommand.authRequest.code)
    {key : AuthKey} (hkey : env.authKey = some key) {digest : Fin 5 → UInt32}
    (hsha : env.sha1 (m.payload ++ key.hashed) = some digest)
    (hsent : env.sent = (authReplyMessage s.user digest).length) :
    (handleCommand env s m.command m.arrived).val = .ok (1, s.sr) ∧
      trace (handleCommand env s m.command m.arrived) =
        [.sent (authReplyMessage s.user digest) env.sent] := by
  have hle := m.len_le
  have hcount : (netWord env m.arrived 0 - 8).toNat = m.payload.length := by
    rw [m.netWord_len, m.length_payload, toNat_len_sub hle]
    exact if_pos hlen
  have hsalt : requestSalt env m.arrived = m.payload := by
    rw [requestSalt, hcount]
    exact load_of_drop (t := []) (by rw [m.drop_arrived, List.append_nil]) rfl
  have hdigest : authDigest env m.arrived = some digest := by
    rw [authDigest, hkey, Option.bind_some, hsalt, hsha]
  obtain ⟨htrace, hval⟩ := authRequest_answered env s m.arrived hdigest
  rw [if_pos hsent] at hval
  rw [hcommand]
  exact ⟨hval, htrace⟩

/-- A status other than zero lets the client go on. -/
theorem authStatus_val (hcommand : m.command = VnsCommand.authStatus.code) {ok : UInt8}
    {text : List UInt8} (hpay : m.payload = ok :: text) (hok : ok ≠ 0) :
    (handleCommand env s m.command m.arrived).val = .ok (1, s.sr) ∧
      trace (handleCommand env s m.command m.arrived) = [] := by
  have hcase : VnsCommand.handled VnsCommand.authStatus.code = some .authStatus := rfl
  have hload : load m.arrived env.heap 8 1 = [ok] :=
    load_of_drop (m.drop_arrived.trans hpay) rfl
  have hread : authOk env m.arrived = ok := by
    rw [authOk, hload]
    rfl
  rw [hcommand, handleCommand, hcase]
  show (srHandleAuthStatus env m.arrived >>= _).val = _ ∧
    trace (srHandleAuthStatus env m.arrived >>= _) = _
  unfold srHandleAuthStatus
  simp only [tell_bind, hread, if_pos hok]
  exact ⟨rfl, rfl⟩

/-- Hardware is accepted if every route is on one of the interfaces. -/
theorem hwinfo_val (hcommand : m.command = VnsCommand.hwinfo.code)
    {interfaces : List VnsInterface} (hpay : m.payload = interfaces.flatMap hwRecords)
    (hlen : m.len = 8 + 216 * interfaces.length)
    (hverify : srVerifyRoutingTable
      { s.sr with ifList := s.sr.ifList ++ interfaces.map VnsInterface.decoded } = 0) :
    (handleCommand env s m.command m.arrived).val =
      .ok (1, { s.sr with ifList := s.sr.ifList ++ interfaces.map VnsInterface.decoded }) := by
  have hle := m.len_le
  have hcase : VnsCommand.handled VnsCommand.hwinfo.code = some .hwinfo := rfl
  have hn : numEntries (netWord env m.arrived 0) = (6 * interfaces.length : ℕ) := by
    rw [m.netWord_len, numEntries_ofNat (by omega) hle]
    congr 1
    omega
  have hdrop : m.arrived.drop (8 + 36 * 0) = interfaces.flatMap hwRecords :=
    m.drop_arrived.trans hpay
  have hloop : (hwinfoLoop env m.arrived 0 (6 * interfaces.length) s.sr.ifList).val = _ :=
    hwinfoLoop_val interfaces hdrop
  have hhandle : (srHandleHwinfo env s.sr m.arrived).val = .ok ((6 * interfaces.length : ℕ),
      { s.sr with ifList := s.sr.ifList ++ interfaces.map VnsInterface.decoded }) := by
    rw [srHandleHwinfo, tell_bind]
    simp only [hn, Int.toNat_natCast, tell_bind, val_bind, hloop]
    rfl
  rw [hcommand, handleCommand, hcase]
  show (srHandleHwinfo env s.sr m.arrived >>= _).val = _
  rw [val_bind_of_val hhandle]
  simp only [hverify]
  rfl

end handlers

/-! ### The session -/

section session

variable {lt : LtProtocol} {κ : Type} {routerIp : List UInt8 → Option (List UInt8)}
  {str : κ → List UInt8}

/-- The listener takes a message for `m`, and sends one answer. -/
structure Answers (lt : LtProtocol) (routerIp : List UInt8 → Option (List UInt8))
    (str : κ → List UInt8) (l : Listener κ) (conn : κ) (message : List UInt8)
    (m answer : VnsMessage) : Prop where
  /-- The message is read as `m`. -/
  decodes : Decodes lt message m
  /-- The answer. -/
  answers : l.step routerIp str (.recvMsg conn (some m)) = .ok (l, [.send conn answer])

/-- A message that has been sent. -/
def Io.sentMessage : Io → Option (List UInt8)
  | .sent message _ => some message
  | _ => none

/-- Connecting to a server that sends what the client waits for. -/
theorem connectLeaving_eq {fuel : ℕ} {env₁ env₂ env₃ : VnsEnv} {sent : ℤ} {s : Session}
    {sock sock₁ sock₂ : Socket} (htemplate : s.template.chars = [])
    (hsent : sent = (openMessage s).length)
    (hrequest : (srReadFromServerExpect fuel env₁ s (some .authRequest) sock).val =
      .ok ((1, s.sr), sock₁))
    (hstatus : (srReadFromServerExpect fuel env₂ s (some .authStatus) sock₁).val =
      .ok ((1, s.sr), sock₂)) :
    (connectLeaving fuel env₁ env₂ env₃ sent s sock).val = .ok ((0, s.sr), sock₂) ∧
      trace (connectLeaving fuel env₁ env₂ env₃ sent s sock) =
        trace (srReadFromServerExpect fuel env₁ s (some .authRequest) sock) ++
          (trace (srReadFromServerExpect fuel env₂ s (some .authStatus) sock₁) ++
            [.sent (openMessage s) sent]) := by
  have hone : ¬ (1 : ℤ) ≠ 1 := not_not.mpr rfl
  have hopening : opening s = openMessage s := by
    rw [opening, if_neg (not_not.mpr htemplate)]
  unfold connectLeaving
  rw [val_bind_of_val hrequest, trace_bind hrequest]
  simp only [if_neg hone]
  rw [val_bind_of_val hstatus, trace_bind hstatus]
  simp only [if_neg hone, hopening, if_neg (not_not.mpr hsent), htemplate, if_true]
  exact ⟨rfl, rfl⟩

/-- **A session opens.** A client connects to a listener that has its interfaces. The listener asks
for authentication; whatever pieces its messages arrive in, the client answers with the digest of
salt and key, and then opens the session; the listener reads both messages, and answers each with
the one the client waits for. Connecting returns 0, the first turn of the main loop returns 1, and
the client has the interfaces of the listener, in order, and what the listener sends after that is
left to be read. -/
theorem session_opens (hlt : lt.Framed) (routerIp : List UInt8 → Option (List UInt8))
    (str : κ → List UInt8) {l : Listener κ} (conn : κ) {interfaces : List VnsInterface}
    (hinterfaces : l.interfaces = some interfaces) (hcount : interfaces.length ≤ 46)
    {salt : List UInt8} (hsalt : salt.length = 20) {key : AuthKey}
    (hstr : (Listener.authenticated (str conn)).length ≤ 9991)
    {s : Session} (htemplate : s.template.chars = []) (hnew : s.sr.ifList = [])
    (hverify : srVerifyRoutingTable
      { s.sr with ifList := interfaces.map VnsInterface.decoded } = 0)
    {env₁ : VnsEnv} (env₂ env₃ : VnsEnv) (hkey : env₁.authKey = some key) {context : Sha1Context}
    (hsha : env₁.sha1 = sha1Answer context)
    (hreply : env₁.sent = (authReplyMessage s.user (sha1 (salt ++ key.hashed))).length)
    {sent : ℤ} (hsent : sent = (openMessage s).length) :
    ∃ l', l.step routerIp str (.newClient conn salt) =
        .ok (l', [.send conn (.authRequest salt)]) ∧
      Answers lt routerIp str l' conn (authReplyMessage s.user (sha1 (salt ++ key.hashed)))
        (.authReply s.user.chars (digestBytes (sha1 (salt ++ key.hashed))))
        (.authStatus true (Listener.authenticated (str conn))) ∧
      Answers lt routerIp str l' conn (openMessage s)
        (.openTopo s.topoId.toNat s.host.chars s.user.chars []) (.hwinfo interfaces) ∧
      ∃ request status hardware, lt.frame (.authRequest salt) = some request ∧
        lt.frame (.authStatus true (Listener.authenticated (str conn))) = some status ∧
        lt.frame (.hwinfo interfaces) = some hardware ∧
        ∀ sock rest, NoError sock → bytes sock = request ++ status ++ hardware ++ rest →
          ∀ fuel ≥ 10000, ∃ sock' sock'',
            (connectLeaving fuel env₁ env₂ env₃ sent s sock).val = .ok ((0, s.sr), sock') ∧
            (trace (connectLeaving fuel env₁ env₂ env₃ sent s sock)).filterMap Io.sentMessage =
              [authReplyMessage s.user (sha1 (salt ++ key.hashed)), openMessage s] ∧
            (∀ env, (srReadFromServerExpect fuel env s none sock').val =
              .ok ((1, { s.sr with ifList := interfaces.map VnsInterface.decoded }), sock'')) ∧
            bytes sock'' = rest ∧ NoError sock'' := by
  have hkeylen := key.length_hashed
  have hpack₁ : (VnsMessage.authRequest salt).pack = some salt := rfl
  have hpack₂ : (VnsMessage.authStatus true (Listener.authenticated (str conn))).pack =
      some (1 :: Listener.authenticated (str conn)) := rfl
  obtain ⟨m₁, hframe₁, hlen₁, hcommand₁, hpay₁⟩ :=
    exists_message hlt hpack₁ ⟨nofun, nofun⟩ (by omega)
  obtain ⟨m₂, hframe₂, hlen₂, hcommand₂, hpay₂⟩ :=
    exists_message hlt hpack₂ ⟨nofun, nofun⟩ (by rw [List.length_cons]; omega)
  have hrecords : (interfaces.flatMap hwRecords).length = 216 * interfaces.length := by
    rw [List.length_flatMap, List.map_congr_left fun intf _ => length_hwRecords intf,
      List.map_const', List.sum_replicate, smul_eq_mul, mul_comm]
  obtain ⟨m₃, hframe₃, hlen₃, hcommand₃, hpay₃⟩ :=
    exists_message hlt (pack_hwinfo interfaces) ⟨nofun, nofun⟩ (by omega)
  refine ⟨_, rfl, ⟨authReplyMessage_decodes hlt s _, rfl⟩, ⟨openMessage_decodes hlt s, ?_⟩,
    m₁.bytes, m₂.bytes, m₃.bytes, hframe₁, hframe₂, hframe₃, ?_⟩
  · simp only [Listener.step, Listener.handleRecvMsg, Listener.handleOpenMsg, hinterfaces]
  intro sock rest hsock hbytes fuel hfuel
  rw [List.append_assoc, List.append_assoc] at hbytes
  -- three messages, three calls
  obtain ⟨sock₁, hbytes₁, hsock₁, hread₁⟩ := read_expected (by omega) hsock hbytes
  obtain ⟨sock₂, hbytes₂, hsock₂, hread₂⟩ := read_expected (by omega) hsock₁ hbytes₁
  obtain ⟨sock₃, hbytes₃, hsock₃, hread₃⟩ := read_expected (by omega) hsock₂ hbytes₂
  have hanswer : env₁.sha1 (m₁.payload ++ key.hashed) = some (sha1 (salt ++ key.hashed)) := by
    rw [hsha, hpay₁]
    refine sha1Answer_eq context ?_
    rw [List.length_append]
    omega
  obtain ⟨hval₁, htrace₁⟩ := authRequest_val (by omega) hcommand₁ hkey hanswer hreply
  obtain ⟨hval₂, htrace₂⟩ :
      (handleCommand env₂ s m₂.command m₂.arrived).val = .ok (1, s.sr) ∧
        trace (handleCommand env₂ s m₂.command m₂.arrived) = [] :=
    authStatus_val hcommand₂ hpay₂ (by decide)
  obtain ⟨hcall₁, hsaid₁⟩ := hread₁ fuel hfuel env₁ s (some .authRequest) _ _
    (not_unexpected_code hcommand₁) hval₁
  obtain ⟨hcall₂, hsaid₂⟩ := hread₂ fuel hfuel env₂ s (some .authStatus) _ _
    (not_unexpected_code hcommand₂) hval₂
  obtain ⟨hval, htrace⟩ := connectLeaving_eq htemplate hsent hcall₁ hcall₂
  refine ⟨sock₂, sock₃, hval, ?_, fun env => ?_, hbytes₃, hsock₃⟩
  · rw [htrace, hsaid₁, hsaid₂, htrace₁, htrace₂]
    rfl
  · have hval₃ : (handleCommand env s m₃.command m₃.arrived).val = _ :=
      hwinfo_val hcommand₃ hpay₃ (by omega) (by rwa [hnew, List.nil_append])
    rw [hnew, List.nil_append] at hval₃
    exact (hread₃ fuel hfuel env s none _ _ not_unexpected_none hval₃).1

/-- With a template no session opens: the listener reads the message, and has no handler for it. -/
theorem template_raises (hlt : lt.Framed) {l : Listener κ} (conn : κ) (s : Session) :
    ∃ m, Decodes lt (openTemplateMessage s) m ∧
      l.step routerIp str (.recvMsg conn (some m)) = .ok (l, [.raised .attributeError]) :=
  ⟨_, openTemplateMessage_decodes hlt s, rfl⟩

end session

/-- An untouched context. -/
def blankContext : Sha1Context :=
  ⟨fun _ => 0, 0, 0, List.replicate 64 0, List.length_replicate, 0, false, false⟩

/-- The salt `SALT…`, 20 bytes of it. -/
def someSalt : List UInt8 := (List.replicate 5 [83, 65, 76, 84]).flatten

/-- The array after `fgets` has read the line `key`: the line, its NUL, and what was there. -/
def lineKey : AuthKey := ⟨[107, 101, 121, 10, 0] ++ List.replicate 60 170, rfl⟩

/-- A client that has that key, computes digests as `sha1.c` does and sends everything. -/
def keyEnv : VnsEnv :=
  { quietEnv with
    authKey := some lineKey
    sha1 := sha1Answer blankContext
    sent := (authReplyMessage newSession.user (sha1 (someSalt ++ lineKey.hashed))).length }

/-- A listener that has two interfaces. -/
def twoListener : Listener ℕ := { Listener.init with interfaces := some twoInterfaces }

/-- A client with a route out of `eth2` connects to it. -/
theorem session_opens_two : ∃ request status hardware,
    LtProtocol.plain.frame (.authRequest someSalt) = some request ∧
    LtProtocol.plain.frame (.authStatus true (Listener.authenticated [])) = some status ∧
    LtProtocol.plain.frame (.hwinfo twoInterfaces) = some hardware ∧
    ∀ sock, NoError sock → bytes sock = request ++ status ++ hardware → ∃ sock' sock'',
      (connectLeaving 10000 keyEnv keyEnv keyEnv 108 newSession sock).val =
        .ok ((0, newSession.sr), sock') ∧
      (srReadFromServerExpect 10000 quietEnv newSession none sock').val =
        .ok ((1, { newSession.sr with ifList := twoInterfaces.map VnsInterface.decoded }),
          sock'') ∧ bytes sock'' = [] := by
  have hinterfaces : twoListener.interfaces = some twoInterfaces := rfl
  have hsalt : someSalt.length = 20 := by decide
  have hkey : keyEnv.authKey = some lineKey := rfl
  have hsha : keyEnv.sha1 = sha1Answer blankContext := rfl
  have hsent : (108 : ℤ) = (openMessage newSession).length := rfl
  obtain ⟨l', -, -, -, request, status, hardware, h₁, h₂, h₃, hclient⟩ :=
    session_opens LtProtocol.plain_framed (fun _ => none) (fun _ => []) 1 hinterfaces
      (by decide) hsalt (by decide) (s := newSession) rfl rfl (by decide +kernel) keyEnv keyEnv
      hkey hsha rfl hsent
  refine ⟨request, status, hardware, h₁, h₂, h₃, fun sock hsock hbytes => ?_⟩
  obtain ⟨sock', sock'', hconnect, -, hmain, hrest, -⟩ :=
    hclient sock [] hsock (by rw [hbytes, List.append_nil]) 10000 le_rfl
  exact ⟨sock', sock'', hconnect, hmain quietEnv, hrest⟩

end SimpleRouter
