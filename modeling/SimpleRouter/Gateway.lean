import SimpleRouter.Faults
import SimpleRouter.Session

/-!
# The router behind the controller

Frames reach the router from the ports of a switch. The controller puts each into a message for the
client, the stream cuts the messages into pieces, and the main loop of the client reads one in each
turn, between which the timer thread may have its own. What the router sends goes back the same way.

* `mainTurn` — one turn of the client, on the stream.
* `gateway_run` — **the client on the stream is the router on the ports**: turn by turn it handles
  the frames that arrived, with the effects of `step` on them, and what it sends leaves by the ports
  of the interfaces it is sent on.
-/

namespace SimpleRouter

open Buffer Stream Logged Machine Wire

/-! ### The client on the stream -/

/-- The client in its main loop: the instance, and what is left of the stream. -/
structure Connected where
  /-- The instance. -/
  session : Session
  /-- The stream. -/
  sock : Socket

/-- Whose turn it is. -/
inductive MainTurn where
  /-- The main thread reads a message. -/
  | read (env : VnsEnv)
  /-- An iteration of `sr_arpcache_timeout`. -/
  | timer (env : Env)

/-- One turn.
Source: `sr_main.c`, `main`, the main loop; `sr_arpcache.c`, `sr_arpcache_timeout` -/
def mainTurn (fuel : ℕ) (c : Connected) : MainTurn → Except MainEnd (Connected × List Io)
  | .read env =>
      match (srReadFromServerExpect fuel env c.session none c.sock).val with
      | .ok ((ret, sr), sock) =>
          if ret = 1 then
            .ok (⟨{ c.session with sr := sr }, sock⟩,
              (srReadFromServerExpect fuel env c.session none c.sock).log)
          else .error (.returned ret)
      | .error e => .error (.stopped e)
  | .timer env =>
      match srArpcacheTimeout c.session.sr env with
      | .ok (sr, out) => .ok (⟨{ c.session with sr := sr }, c.sock⟩, out.map Io.effect)
      | .error f => .error (.stopped (.fault f))

/-- A frame handled, or an effect of handling one. -/
def Io.ofRouter : Io → Bool
  | .handlepacket _ _ => true
  | .effect _ => true
  | _ => false

/-- The frame an input hands to the router. -/
def Input.calls (i : Input) : List Io :=
  match i.event with
  | .packet buf interface => [.handlepacket buf interface]
  | _ => []

/-- A run of the router, as its client logs it. -/
def routerLog (tr : History) : List Io :=
  tr.flatMap fun (i, out) => i.calls ++ out.map Io.effect

/-! ### What arrives -/

/-- What happens at the router. -/
inductive Arrival where
  /-- A frame comes in at a port of the switch. -/
  | frame (env : VnsEnv) (port : ℕ) (pkt : List UInt8)
  /-- A second has passed. -/
  | timer (env : Env)

namespace Arrival

variable (lt : LtProtocol) {κ : Type} [DecidableEq κ]
  (routerIp : List UInt8 → Option (List UInt8)) (str : κ → List UInt8) (l : Listener κ) (conn : κ)
  (sr : SrInstance)

/-- The turn of the client it is for. -/
def turn : Arrival → Option MainTurn
  | .frame env port _ => (l.portToIntfname port).map fun _ => .read env
  | .timer env => some (.timer env)

/-- The bytes an effect of the listener sends to a client. -/
def toClient (conn : κ) : ListenerEffect κ → Option (List UInt8)
  | .send conn' m => if conn' = conn then lt.frame m else none
  | _ => none

/-- What the listener sends to a client. -/
def bytes : Arrival → List UInt8
  | .frame _ port pkt =>
      match l.step routerIp str (.packetIn port pkt) with
      | .ok (_, out) => (out.filterMap (toClient lt conn)).flatten
      | .error e => nomatch e
  | .timer _ => []

/-- What it is to the router; an ARP request for another address is nothing. What lies in memory
behind the frame is what lies behind the message. -/
def input : Arrival → Option Input
  | .frame env port pkt =>
      match l.portToIntfname port with
      | none => none
      | some intfname =>
          match srGetInterface sr (.ofChars intfname) with
          | none => none
          | some iface =>
              if ForOther pkt iface then none
              else some ⟨{ env.router with after := fun i => env.heap (24 + i) },
                .packet pkt (.ofChars intfname)⟩
  | .timer env => some ⟨env, .timer⟩

/-- If the port is one of an interface, the router has it, and the frame is not too large for a
message. -/
def Ok : Arrival → Prop
  | .frame _ port pkt => ∀ intfname, l.portToIntfname port = some intfname →
      ∃ name : IfaceName, intfname = name.chars ∧ name.chars.length ≤ 15 ∧
        srGetInterface sr name ≠ none ∧ pkt.length ≤ 9976
  | .timer _ => True

end Arrival

/-- A name is its characters. -/
theorem IfaceName.ofChars_chars (name : IfaceName) : IfaceName.ofChars name.chars = name := by
  apply IfaceName.eq_of_chars
  show (name.chars.takeWhile (· ≠ 0)).take 32 = name.chars
  rw [takeWhile_ne_zero name.nul_notMem]
  exact List.take_of_length_le name.length_le

/-! ### One frame -/

section frame

variable {m : Message} {env : VnsEnv} {name : IfaceName} {frame : List UInt8} {iface : SrIf}
  {s : Session} {sr' : SrInstance} {out : List Effect}

/-- Accesses are not the router's. -/
theorem ofRouter_eq_nil {es : List Io} (h : ∀ e ∈ es, e.IsAccess) : es.filter Io.ofRouter = [] := by
  refine List.filter_eq_nil_iff.mpr fun e he => ?_
  have haccess := h e he
  cases e with
  | handlepacket | effect => exact haccess.elim
  | _ => exact Bool.false_ne_true

/-- The effects of the router are its own. -/
theorem ofRouter_map (out : List Effect) :
    (out.map Io.effect).filter Io.ofRouter = out.map Io.effect := by
  refine List.filter_eq_self.mpr fun e he => ?_
  obtain ⟨e, -, rfl⟩ := List.mem_map.mp he
  rfl

/-- The case `VNSPACKET` on a message with a frame: dropped, or handled. -/
theorem handleVnspacket_step (hpay : m.payload = pad 16 name.chars ++ frame)
    (hlen : m.len = 24 + frame.length) (hname : name.chars.length ≤ 15)
    (hiface : srGetInterface s.sr name = some iface)
    (h : if ForOther frame iface then (sr', out) = (s.sr, []) else
      srHandlepacket s.sr { env.router with after := fun i => env.heap (24 + i) } frame name =
        .ok (sr', out)) :
    (handleVnspacket env s m.arrived).val = .ok (1, sr') ∧
      (handleVnspacket env s m.arrived).log.filter Io.ofRouter =
        if ForOther frame iface then [] else .handlepacket frame name :: out.map Io.effect := by
  have hle := m.len_le
  have harr := m.length_arrived (by omega)
  have hn : (UInt32.ofNat m.len - 38 + 14).toNat = frame.length := by
    have h24 : (24 : UInt32).toNat = 24 := rfl
    rw [len_sub_add, toNat_len_sub hle, h24, if_pos (by omega)]
    omega
  have hmem : IfaceName.ofChars (load m.arrived env.heap 8 32) = name := ofChars_arrived hpay hname
  have hframe : load m.arrived env.heap 24 frame.length = frame := by
    have h : load m.arrived env.heap (24 + 0) frame.length = _ :=
      load_frame hpay (Nat.zero_add frame.length).le
    rwa [Nat.add_zero, slice, List.drop_zero, List.take_length] at h
  have hdrop : (srArpReqNotForUs env s.sr m.arrived frame.length
      (load m.arrived env.heap 8 32)).val = _ := srArpReqNotForUs_val hpay hmem hiface
  have hquiet : (srArpReqNotForUs env s.sr m.arrived frame.length
      (load m.arrived env.heap 8 32)).log.filter Io.ofRouter = [] :=
    ofRouter_eq_nil srArpReqNotForUs_isAccess
  rw [handleVnspacket, tell_bind]
  simp only [harr, hn, bind_of_val hdrop, hmem, hframe]
  rw [List.filter_cons_of_neg Bool.false_ne_true, List.filter_append, hquiet, List.nil_append]
  by_cases hother : ForOther frame iface
  · rw [if_pos hother] at h
    obtain ⟨rfl, rfl⟩ := Prod.mk.inj h
    rw [if_pos (decide_eq_true hother), if_pos hother]
    exact ⟨rfl, rfl⟩
  · rw [if_neg hother] at h ⊢
    rw [if_neg (by simpa using hother)]
    simp only [tell_bind, tells_bind, h]
    refine ⟨rfl, ?_⟩
    rw [List.filter_cons_of_neg Bool.false_ne_true, List.filter_append,
      ofRouter_eq_nil (srLogPacket_isAccess _ _), List.nil_append, List.filter_cons_of_pos rfl,
      List.filter_append, ofRouter_map]
    exact congrArg _ (List.append_nil _)

/-- A turn of the main thread that reads a frame. -/
theorem mainTurn_read {lt : LtProtocol} (hlt : lt.Framed) {sock : Socket} {rest : List UInt8}
    (hlen : frame.length ≤ 9976) (hname : name.chars.length ≤ 15)
    (hiface : srGetInterface s.sr name = some iface) {message : List UInt8}
    (hmessage : lt.frame (.packet name.chars frame) = some message)
    (hsock : NoError sock) (hbytes : bytes sock = message ++ rest)
    (h : if ForOther frame iface then (sr', out) = (s.sr, []) else
      srHandlepacket s.sr { env.router with after := fun i => env.heap (24 + i) } frame name =
        .ok (sr', out)) :
    ∃ sock', bytes sock' = rest ∧ NoError sock' ∧ ∀ fuel ≥ 10000, ∃ log,
      mainTurn fuel ⟨s, sock⟩ (.read env) = .ok (⟨{ s with sr := sr' }, sock'⟩, log) ∧
        log.filter Io.ofRouter =
          if ForOther frame iface then [] else .handlepacket frame name :: out.map Io.effect := by
  obtain ⟨m, hframe, hmlen, hcommand, hpayload⟩ := exists_packet_message hlt name.chars hlen
  obtain rfl := Option.some.inj (hmessage.symm.trans hframe)
  obtain ⟨sock', hrest, hsock', hcall⟩ := srReadFromServerExpect_eq (by omega) hsock hbytes
  refine ⟨sock', hrest, hsock', fun fuel hfuel => ?_⟩
  obtain ⟨log, hlog, hread⟩ := hcall fuel hfuel env s none
  obtain ⟨hval, hrouter⟩ := handleVnspacket_step hpayload (by omega) hname hiface h
  have hcase : VnsCommand.handled m.command = some .packet := by
    rw [hcommand]
    rfl
  have hdispatch : (dispatch env s none m.command m.arrived).val = .ok (1, sr') ∧
      (dispatch env s none m.command m.arrived).log.filter Io.ofRouter =
        if ForOther frame iface then [] else .handlepacket frame name :: out.map Io.effect := by
    rw [dispatch, tell_bind, if_neg not_unexpected_none, handleCommand, hcase]
    exact ⟨hval, hrouter⟩
  have hwhole : (srReadFromServerExpect fuel env s none sock).val = .ok ((1, sr'), sock') ∧
      (srReadFromServerExpect fuel env s none sock).log.filter Io.ofRouter =
        if ForOther frame iface then [] else .handlepacket frame name :: out.map Io.effect := by
    rw [hread, tells_bind, List.filter_append, ofRouter_eq_nil fun e he => (hlog e he).1,
      List.nil_append, log_bind_pure, val_bind_of_val hdispatch.1]
    exact ⟨rfl, hdispatch.2⟩
  refine ⟨_, ?_, hwhole.2⟩
  simp only [mainTurn, hwhole.1, if_true]

end frame

/-! ### Whole runs -/

section run

variable {lt : LtProtocol} {κ : Type} [DecidableEq κ]
  {routerIp : List UInt8 → Option (List UInt8)} {str : κ → List UInt8} {l : Listener κ} {conn : κ}
  {sr sr' : SrInstance}

/-- The first element, and the others. -/
theorem filterMap_cons_eq {α β : Type} (f : α → Option β) (a : α) (as : List α) :
    (a :: as).filterMap f = (f a).toList ++ as.filterMap f := by
  cases h : f a <;> simp [h]

/-- As many copies as there are occurrences. -/
theorem filterMap_eq_replicate {β : Type} (cs : List κ) (c : κ) (b : β) :
    (cs.filterMap fun c' => if c' = c then some b else none) = List.replicate (cs.count c) b := by
  induction cs with
  | nil => rfl
  | cons c' cs ih =>
      by_cases h : c' = c
      · simp [h, ih, List.replicate_succ]
      · simp [h, ih]

/-- A client is sent one message for a frame. -/
theorem bytes_frame {env : VnsEnv} {port : ℕ} {pkt name message : List UInt8}
    (hport : l.portToIntfname port = some name) (hconn : l.srclients.count conn = 1)
    (hmessage : lt.frame (.packet name pkt) = some message) :
    Arrival.bytes lt routerIp str l conn (.frame env port pkt) = message := by
  have hsent : (l.srclients.map fun client => ListenerEffect.send client
      (VnsMessage.packet name pkt)).filterMap (Arrival.toClient lt conn) = [message] := by
    rw [List.filterMap_map]
    have hone : (fun client => Arrival.toClient lt conn
        (.send client (VnsMessage.packet name pkt))) =
        fun client => if client = conn then some message else none := by
      funext client
      rw [Arrival.toClient, hmessage]
    show l.srclients.filterMap (fun client => Arrival.toClient lt conn
      (.send client (VnsMessage.packet name pkt))) = _
    rw [hone, filterMap_eq_replicate, hconn]
    rfl
  simp only [Arrival.bytes, Listener.step, hport, Listener.broadcast, hsent]
  exact List.append_nil message

omit [DecidableEq κ] in
/-- What arrives is the same to every instance with the same interfaces. -/
theorem Arrival.congr (h : sr'.ifList = sr.ifList) :
    Arrival.input l sr' = Arrival.input l sr ∧ ∀ a : Arrival, a.Ok l sr' ↔ a.Ok l sr := by
  have hget : srGetInterface sr' = srGetInterface sr := by
    funext name
    rw [srGetInterface, h, srGetInterface]
  refine ⟨funext fun a => ?_, fun a => ?_⟩
  · cases a with
    | frame => simp only [Arrival.input, hget]
    | timer => rfl
  · cases a with
    | frame => simp only [Arrival.Ok, hget]
    | timer => exact Iff.rfl

/-- One arrival. -/
theorem mainTurn_arrival (hlt : lt.Framed) {a : Arrival} {s : Session} {sock : Socket}
    {rest : List UInt8} {tr : History} {fuel : ℕ} (hfuel : fuel ≥ 10000)
    (hconn : l.srclients.count conn = 1)
    (ha : a.Ok l s.sr) (hsock : NoError sock)
    (hbytes : bytes sock = Arrival.bytes lt routerIp str l conn a ++ rest)
    (h : exec step s.sr (a.input l s.sr).toList = .ok (sr', tr)) :
    ∃ sock' tr', exec (mainTurn fuel) ⟨s, sock⟩ (a.turn l).toList =
        .ok (⟨{ s with sr := sr' }, sock'⟩, tr') ∧
      bytes sock' = rest ∧ NoError sock' ∧ (outputs tr').filter Io.ofRouter = routerLog tr := by
  cases a with
  | timer env =>
      obtain ⟨out, hstep, rfl⟩ := exec_singleton_ok_iff.mp h
      have htimer : srArpcacheTimeout s.sr env = .ok (sr', out) := hstep
      refine ⟨sock, _, exec_singleton_ok_iff.mpr ⟨out.map Io.effect, ?_, rfl⟩, hbytes, hsock, ?_⟩
      · simp only [mainTurn, htimer]
      · simp only [outputs, routerLog, List.flatMap_singleton, ofRouter_map]
        rfl
  | frame env port pkt =>
      cases hport : l.portToIntfname port with
      | none =>
          have hinput : Arrival.input l s.sr (.frame env port pkt) = none := by
            simp only [Arrival.input, hport]
          have hturn : Arrival.turn l (.frame env port pkt) = none := by
            simp only [Arrival.turn, hport, Option.map_none]
          have hsilent : Arrival.bytes lt routerIp str l conn (.frame env port pkt) = [] := by
            simp only [Arrival.bytes, Listener.step, hport]
            rfl
          rw [hinput] at h
          obtain ⟨rfl, rfl⟩ := Prod.mk.inj (Except.ok.inj h)
          rw [hsilent] at hbytes
          rw [hturn]
          exact ⟨sock, [], rfl, hbytes, hsock, rfl⟩
      | some intfname =>
          obtain ⟨name, rfl, hname, hne, hlen⟩ := ha intfname hport
          obtain ⟨iface, hiface⟩ := Option.ne_none_iff_exists'.mp hne
          obtain ⟨m, hmessage, -⟩ := exists_packet_message hlt name.chars hlen
          rw [bytes_frame hport hconn hmessage] at hbytes
          have hturn : Arrival.turn l (.frame env port pkt) = some (.read env) := by
            simp only [Arrival.turn, hport, Option.map_some]
          have hinput : Arrival.input l s.sr (.frame env port pkt) =
              if ForOther pkt iface then none
              else some ⟨{ env.router with after := fun i => env.heap (24 + i) },
                .packet pkt name⟩ := by
            simp only [Arrival.input, hport, name.ofChars_chars, hiface]
          have hhandle : ∃ out, (if ForOther pkt iface then (sr', out) = (s.sr, []) else
              srHandlepacket s.sr { env.router with after := fun i => env.heap (24 + i) } pkt
                name = .ok (sr', out)) ∧ routerLog tr =
              if ForOther pkt iface then [] else .handlepacket pkt name :: out.map Io.effect := by
            rw [hinput] at h
            by_cases hother : ForOther pkt iface
            · rw [if_pos hother] at h
              obtain ⟨rfl, rfl⟩ := Prod.mk.inj (Except.ok.inj h)
              exact ⟨[], by rw [if_pos hother], by rw [if_pos hother]; rfl⟩
            · rw [if_neg hother] at h
              obtain ⟨out, hstep, rfl⟩ := exec_singleton_ok_iff.mp h
              refine ⟨out, ?_, ?_⟩
              · rw [if_neg hother]
                exact hstep
              · rw [if_neg hother]
                exact List.flatMap_singleton ..
          obtain ⟨out, hhandle, hrouter⟩ := hhandle
          obtain ⟨sock', hrest, hsock', hdone⟩ :=
            mainTurn_read hlt hlen hname hiface hmessage hsock hbytes hhandle
          obtain ⟨log, hread, hlog⟩ := hdone fuel hfuel
          rw [hturn]
          refine ⟨sock', _, exec_singleton_ok_iff.mpr ⟨log, hread, rfl⟩, hrest, hsock', ?_⟩
          rw [hrouter, ← hlog, outputs, List.flatMap_singleton]

/-- A run keeps the interfaces. -/
theorem ifList_of_exec {inputs : List Input} {tr : History}
    (h : exec step sr inputs = .ok (sr', tr)) : sr'.ifList = sr.ifList := by
  obtain ⟨hrun, -⟩ := run_of_exec h
  clear h
  induction hrun with
  | nil => rfl
  | snoc _ hs ih => exact (frame_of_step hs).1.trans ih

/-- **Turn by turn the client handles the frames of the router, with the same effects.** -/
theorem exec_mainTurn (hlt : lt.Framed) {arrivals : List Arrival} {s : Session} {sock : Socket}
    {rest : List UInt8} {tr : History} {fuel : ℕ} (hfuel : fuel ≥ 10000)
    (hconn : l.srclients.count conn = 1)
    (hok : ∀ a ∈ arrivals, a.Ok l s.sr) (hsock : NoError sock)
    (hbytes : bytes sock = arrivals.flatMap (Arrival.bytes lt routerIp str l conn) ++ rest)
    (h : exec step s.sr (arrivals.filterMap (Arrival.input l s.sr)) = .ok (sr', tr)) :
    ∃ sock' tr', exec (mainTurn fuel) ⟨s, sock⟩ (arrivals.filterMap (Arrival.turn l)) =
        .ok (⟨{ s with sr := sr' }, sock'⟩, tr') ∧
      bytes sock' = rest ∧ NoError sock' ∧ (outputs tr').filter Io.ofRouter = routerLog tr := by
  induction arrivals generalizing s sock tr with
  | nil =>
      obtain ⟨rfl, rfl⟩ := Prod.mk.inj (Except.ok.inj h)
      exact ⟨sock, [], rfl, hbytes, hsock, rfl⟩
  | cons a arrivals ih =>
      obtain ⟨ha, hoks⟩ := List.forall_mem_cons.mp hok
      rw [List.flatMap_cons, List.append_assoc] at hbytes
      rw [filterMap_cons_eq] at h ⊢
      obtain ⟨sr₁, tr₁, tr₂, h₁, h₂, rfl⟩ := exec_append_ok_iff.mp h
      obtain ⟨sock₁, tr₁', hexec₁, hbytes₁, hsock₁, hlog₁⟩ :=
        mainTurn_arrival hlt hfuel hconn ha hsock hbytes h₁
      obtain ⟨hinput, hoks'⟩ := Arrival.congr (l := l) (ifList_of_exec h₁)
      obtain ⟨sock₂, tr₂', hexec₂, hrest, hsock₂, hlog₂⟩ :=
        ih (s := { s with sr := sr₁ }) (fun a ha => (hoks' a).mpr (hoks a ha)) hsock₁ hbytes₁
          (by rw [hinput]; exact h₂)
      refine ⟨sock₂, tr₁' ++ tr₂', exec_append_ok_iff.mpr ⟨_, _, _, hexec₁, hexec₂, rfl⟩, hrest,
        hsock₂, ?_⟩
      simp only [outputs, routerLog, List.flatMap_append, List.filter_append] at hlog₁ hlog₂ ⊢
      rw [hlog₁, hlog₂]

/-- What the client sends on an interface leaves by a port: the client writes a message, the
listener reads it, and the switch is told the port. -/
structure LeavesBy (lt : LtProtocol) (routerIp : List UInt8 → Option (List UInt8))
    (str : κ → List UInt8) (l : Listener κ) (conn : κ) (message frame : List UInt8)
    (name : IfaceName) (port : ℕ) : Prop where
  /-- Frames from the port come in on the interface. -/
  comesIn : l.portToIntfname port = some name.chars
  /-- The listener reads the message. -/
  decodes : Decodes lt message (.packet name.chars frame)
  /-- The frame goes out. -/
  goesOut : l.step routerIp str (.recvMsg conn (some (.packet name.chars frame))) =
    .ok (l, [.packetOut frame port])

omit [DecidableEq κ] in
/-- A frame that is sent leaves by a port. -/
theorem leavesBy_of_sent (hlt : lt.Framed) {A : List UInt8 → ℕ → Prop} (hC : Consistent A l)
    {frame : List UInt8} {name : IfaceName} (hname : srGetInterface sr name ≠ none →
      name.chars.length ≤ 15 ∧ l.intfnameToPort name.chars ≠ none) {message : List UInt8}
    (hmessage : srSendPacket sr frame name = some message) (hlen : frame.length + 24 < 2 ^ 32) :
    ∃ port, LeavesBy lt routerIp str l conn message frame name port := by
  unfold srSendPacket at hmessage
  split_ifs at hmessage with hshort hmatch
  obtain rfl := Option.some.inj hmessage
  have hsome : srGetInterface sr name ≠ none := by
    intro hnone
    rw [srEtherAddrsMatchInterface, hnone] at hmatch
    cases hmatch
  obtain ⟨hfits, hentered⟩ := hname hsome
  obtain ⟨port, hport⟩ := Option.ne_none_iff_exists'.mp hentered
  refine ⟨port, (hC.inverse _ _).mp hport, ?_, ?_⟩
  · obtain ⟨body, hpack, hunpack⟩ : ∃ body,
        (VnsMessage.packet name.chars frame).pack = some body ∧ _ :=
      packet_unpack_pack ⟨name.nul_notMem, by omega⟩
    rw [pack_packet] at hpack
    obtain rfl := Option.some.inj hpack
    have hcount : (UInt32.ofNat (frame.length + 24)).toNat = frame.length + 24 := by
      rw [UInt32.toNat_ofNat']
      omega
    have hbody : (pad 16 name.chars ++ frame).length = 16 + frame.length := by
      rw [List.length_append, length_pad]
    rw [u32Bytes_htonl, u32Bytes_htonl, hcount, List.append_assoc _ (pad 16 name.chars)]
    refine (Carries.of_body (m := .packet name.chars frame) (frame.length + 24) (by omega)
      hunpack).decodes hlt ?_
    rw [List.length_append, List.length_append, length_be, length_be]
    omega
  · simp only [Listener.step, Listener.handleRecvMsg, Listener.handlePacketMsg, hport]

/-- **The client on the stream is the router on the ports.** A listener has been told of the ports
by switches that do not contradict each other, and a client that has connected to it once has its
interfaces, all of them with names that fit the field of a message. Frames come in at any ports,
and seconds pass, and what the listener sends for the frames arrives in any pieces. If the router
gets through the inputs these are to it, the client gets through its turns: it handles the same
frames, with the same effects, and is in the same state in the end; and every frame that it sends
leaves by a port, from which frames come in on the interface it was sent on. -/
theorem gateway_run (hlt : lt.Framed) {ltr : List (ListenerEvent κ × List (ListenerEffect κ))}
    (hlistener : Run (Listener.step routerIp str) .init ltr l) (hagree : Agree (Said routerIp ltr))
    (hconn : (clients ltr).count conn = 1) {interfaces : List VnsInterface}
    (hinterfaces : l.interfaces = some interfaces)
    (hnames : ∀ intf ∈ interfaces, 0 ∉ intf.name ∧ intf.name.length ≤ 15) {s : Session}
    (hif : s.sr.ifList = interfaces.map VnsInterface.decoded) {arrivals : List Arrival}
    (hports : ∀ env port pkt, .frame env port pkt ∈ arrivals → pkt.length ≤ 9976 ∧
      ∀ intfname, l.portToIntfname port = some intfname →
        intfname ∈ interfaces.map VnsInterface.name)
    {sock : Socket} {rest : List UInt8} (hsock : NoError sock)
    (hbytes : bytes sock = arrivals.flatMap (Arrival.bytes lt routerIp str l conn) ++ rest)
    {tr : History}
    (h : exec step s.sr (arrivals.filterMap (Arrival.input l s.sr)) = .ok (sr', tr))
    {fuel : ℕ} (hfuel : fuel ≥ 10000) :
    (∃ sock' tr', exec (mainTurn fuel) ⟨s, sock⟩ (arrivals.filterMap (Arrival.turn l)) =
        .ok (⟨{ s with sr := sr' }, sock'⟩, tr') ∧
      bytes sock' = rest ∧ (outputs tr').filter Io.ofRouter = routerLog tr) ∧
    ∀ frame name message, srSendPacket s.sr frame name = some message →
      frame.length + 24 < 2 ^ 32 →
        ∃ port, LeavesBy lt routerIp str l conn message frame name port := by
  obtain ⟨hC, hclients⟩ := consistent_of_run hlistener hagree fun _ _ hsaid => hsaid
  have hdecoded : ∀ intf ∈ interfaces, intf.decoded.name.chars = intf.name := fun intf hintf =>
    (announced_decoded (hnames intf hintf).1 (by have := (hnames intf hintf).2; omega)).name
  have hok : ∀ a ∈ arrivals, a.Ok l s.sr := by
    intro a ha
    cases a with
    | timer => trivial
    | frame env port pkt =>
        intro intfname hport
        obtain ⟨hlen, hmem⟩ := hports env port pkt ha
        obtain ⟨intf, hintf, rfl⟩ := List.mem_map.mp (hmem intfname hport)
        refine ⟨intf.decoded.name, (hdecoded intf hintf).symm, ?_, ?_, hlen⟩
        · rw [hdecoded intf hintf]
          exact (hnames intf hintf).2
        · rw [srGetInterface_ne_none_iff, hif, List.map_map]
          exact List.mem_map.mpr ⟨intf, hintf, rfl⟩
  constructor
  · obtain ⟨sock', tr', hexec, hrest, -, hlog⟩ :=
      exec_mainTurn hlt hfuel (hclients ▸ hconn) hok hsock hbytes h
    exact ⟨sock', tr', hexec, hrest, hlog⟩
  · intro frame name message hmessage hlen
    refine leavesBy_of_sent hlt hC (fun hne => ?_) hmessage hlen
    rw [srGetInterface_ne_none_iff, hif, List.map_map] at hne
    obtain ⟨intf, hintf, rfl⟩ := List.mem_map.mp hne
    show intf.decoded.name.chars.length ≤ 15 ∧ l.intfnameToPort intf.decoded.name.chars ≠ none
    rw [hdecoded intf hintf]
    exact ⟨(hnames intf hintf).2, hC.entered intf (by rw [hinterfaces]; exact hintf)⟩

end run

/-- `udpFrame 2 9 64` comes in at the first port, and a second passes. -/
def frameThenSecond : List Arrival :=
  [.frame { quietEnv with router := stillEnv 1 } 1 (udpFrame 2 9 64), .timer (stillEnv 2)]

/-- A client that is `twoPort`. -/
def twoPortSession : Session := { bareSession with sr := twoPort }

/-- The second of two clients queues the packet, asks for its next hop, and asks again. -/
theorem gateway_run_twoPort : ∃ ltr l sr' tr,
    Run (Listener.step twoPortIps fun _ : ℕ => []) .init ltr l ∧
    exec step twoPort (frameThenSecond.filterMap (Arrival.input l twoPort)) = .ok (sr', tr) ∧
    (waiting sr'.cache).length = 1 ∧
    ∀ sock, NoError sock →
      bytes sock = frameThenSecond.flatMap
          (Arrival.bytes LtProtocol.plain twoPortIps (fun _ => []) l 2) →
        ∃ sock' tr', exec (mainTurn 10000) ⟨twoPortSession, sock⟩
            (frameThenSecond.filterMap (Arrival.turn l)) =
              .ok (⟨{ twoPortSession with sr := sr' }, sock'⟩, tr') ∧
          (outputs tr').filter Io.ofRouter = routerLog tr := by
  obtain ⟨ltr, l, hlistener, hinputs, htest⟩ :=
    exists_run (Listener.step twoPortIps fun _ : ℕ => []) .init twoClients
      (fun l tr => (clients tr).count 2 = 1 ∧
        l.interfaces.map (List.map VnsInterface.decoded) = some [ethIf 1, ethIf 2] ∧
        (l.interfaces.getD []).all (fun intf => 0 ∉ intf.name ∧ intf.name.length ≤ 15) ∧
        [101, 116, 104, 49] ∈ (l.interfaces.getD []).map VnsInterface.name ∧
        l.portToIntfname 1 = some [101, 116, 104, 49]) (by decide +kernel)
  obtain ⟨hconn, hdecoded, hnames, hmem, hport⟩ := of_decide_eq_true htest
  obtain ⟨interfaces, hinterfaces, hif⟩ := Option.map_eq_some_iff.mp hdecoded
  rw [hinterfaces] at hnames hmem
  have hagree : Agree (Said twoPortIps ltr) := by
    refine agree_of_switch twoPortSwitch (by decide) fun ports order hports => ?_
    rw [hinputs] at hports
    have hone : ports = twoPortSwitch ∧ order = .insertion := by simpa [twoClients] using hports
    exact hone.1
  have hframe : frameThenSecond.filterMap (Arrival.input l twoPort) =
      [⟨stillEnv 1, .packet (udpFrame 2 9 64) (ethName 1)⟩, ⟨stillEnv 2, .timer⟩] := by
    have hget : srGetInterface twoPort (.ofChars [101, 116, 104, 49]) = some (ethIf 1) := by
      decide +kernel
    have hother : ¬ ForOther (udpFrame 2 9 64) (ethIf 1) := by decide +kernel
    have hin : Arrival.input l twoPort
        (.frame { quietEnv with router := stillEnv 1 } 1 (udpFrame 2 9 64)) =
          some ⟨stillEnv 1, .packet (udpFrame 2 9 64) (ethName 1)⟩ := by
      simp only [Arrival.input, hport, hget, if_neg hother]
      rfl
    rw [frameThenSecond, List.filterMap_cons_some hin]
    rfl
  obtain ⟨⟨sr', tr⟩, hexec, hwaiting⟩ := exists_ok
    (exec step twoPort [⟨stillEnv 1, .packet (udpFrame 2 9 64) (ethName 1)⟩, ⟨stillEnv 2, .timer⟩])
    (fun r => decide ((waiting r.1.cache).length = 1)) (by decide +kernel)
  refine ⟨ltr, l, sr', tr, hlistener, hframe ▸ hexec, of_decide_eq_true hwaiting,
    fun sock hsock hbytes => ?_⟩
  obtain ⟨⟨sock', tr', hturns, -, hlog⟩, -⟩ := gateway_run LtProtocol.plain_framed
    (s := twoPortSession) hlistener hagree hconn hinterfaces
    (fun intf hintf => by simpa using List.all_eq_true.mp hnames intf hintf)
    hif.symm (fun env port pkt harrival => by
      obtain ⟨-, rfl, rfl⟩ : _ ∧ port = 1 ∧ pkt = udpFrame 2 9 64 := by
        simpa [frameThenSecond] using harrival
      refine ⟨by decide +kernel, fun intfname hintfname => ?_⟩
      rw [hport] at hintfname
      exact Option.some.inj hintfname ▸ hmem)
    hsock (hbytes.trans (List.append_nil _).symm) (hframe ▸ hexec) (le_refl 10000)
  exact ⟨sock', tr', hturns, hlog⟩

end SimpleRouter
