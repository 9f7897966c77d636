import SimpleRouter.Receive

/-!
# One call, and the bytes in front of it

A call of `sr_read_from_server_expect` while the session is opened. What it does depends on the
bytes that arrive before a read fails, and of its log only the `trace` matters: the accesses to its
own objects are left out.

* `Reads` — what reading a message can do (`readCommand_reads`), with any fuel.
* `Call` — what a call can do, and what it leaves of the stream (`srReadFromServerExpect_call`).
* `read_short`, `read_message` — what it does on a message that has arrived.
* `authRequest_answered`, `authStatus_handled`, `rtable_handled` — the handlers of the messages that
  are waited for.
-/

namespace SimpleRouter

open Buffer Stream Logged Wire

/-! ### Traces -/

instance : DecidablePred Io.IsAccess
  | .lenWord _ _ => isTrue trivial
  | .read _ _ => isTrue trivial
  | .write _ _ => isTrue trivial
  | .region _ _ => isTrue trivial
  | .received _ _ => isFalse id
  | .short _ => isFalse id
  | .refused _ => isFalse id
  | .handlepacket _ _ => isFalse id
  | .effect _ => isFalse id
  | .sent _ _ => isFalse id
  | .stored _ _ => isFalse id

/-- What a function does besides accesses to its objects. -/
def trace {α : Type} (x : Vns α) : List Io := x.log.filter fun e => ¬ e.IsAccess

section trace

variable {α β : Type}

/-- A function that only makes accesses. -/
theorem trace_eq_nil {x : Vns α} (h : ForAll Io.IsAccess x) : trace x = [] :=
  List.filter_eq_nil_iff.mpr fun e he => by simpa using h e he

/-- The trace of a sequence whose first part returns. -/
theorem trace_bind {x : Vns α} {f : α → Vns β} {a : α} (h : x.val = .ok a) :
    trace (x >>= f) = trace x ++ trace (f a) := by
  rw [bind_of_val h]
  exact List.filter_append _ _

/-- The trace of a sequence whose first part stops. -/
theorem trace_bind_error {x : Vns α} {f : α → Vns β} {e : Stop} (h : x.val = .error e) :
    trace (x >>= f) = trace x := by
  show trace (andThen x f) = _
  rw [andThen, h]
  rfl

/-- An event that is no access is in the trace. -/
theorem mem_trace {x : Vns α} {e : Io} (h : e ∈ x.log) (he : ¬ e.IsAccess) : e ∈ trace x :=
  List.mem_filter.mpr ⟨h, decide_eq_true he⟩

end trace

/-! ### Reading a message -/

/-- What reading a message can do, and what it gives, when the bytes `bs` are in front of it. -/
inductive Reads (bs : List UInt8) :
    List Io → Except Stop (Option (UInt32 × List UInt8) × Socket) → Prop
  /-- A loop does not come to its end. -/
  | hang : Reads bs [] (.error .hang)
  /-- A read fails. -/
  | failed (sock : Socket) : Reads bs [] (.ok (none, sock))
  /-- The length is refused. -/
  | refused (len : ℤ) (sock : Socket) : Reads bs [.refused len] (.ok (none, sock))
  /-- There is a message without a type. -/
  | short {m : Message} {rest : List UInt8} (hbs : bs = m.bytes ++ rest) (hlen : m.len < 8) :
      Reads bs [.short m.len] (.error (.fault .outOfBounds))
  /-- There is a message. -/
  | message {m : Message} {rest : List UInt8} {sock : Socket} (hbs : bs = m.bytes ++ rest)
      (hlen : 8 ≤ m.len) (hrest : arriving sock = rest) :
      Reads bs [] (.ok (some (m.command, m.arrived), sock))

section reading

variable {fuel len : ℕ} {env : VnsEnv} {sock : Socket} {bs word : List UInt8}

/-- A first part that only makes accesses. -/
theorem Reads.of_bind {α : Type} {x : Vns α}
    {f : α → Vns (Option (UInt32 × List UInt8) × Socket)} (hx : ForAll Io.IsAccess x)
    (herror : ∀ e, x.val = .error e → e = .hang)
    (hf : ∀ a, x.val = .ok a → Reads bs (trace (f a)) (f a).val) :
    Reads bs (trace (x >>= f)) (x >>= f).val := by
  cases hval : x.val with
  | error e =>
      obtain rfl := herror e hval
      rw [trace_bind_error hval, trace_eq_nil hx, val_bind, hval]
      exact .hang
  | ok a =>
      rw [trace_bind hval, trace_eq_nil hx, List.nil_append, val_bind_of_val hval]
      exact hf a hval

/-- A first access. -/
theorem Reads.of_tell (e : Io) (he : e.IsAccess)
    {f : Unit → Vns (Option (UInt32 × List UInt8) × Socket)}
    (hf : Reads bs (trace (f ())) (f ()).val) :
    Reads bs (trace (tell e >>= f)) (tell e >>= f).val :=
  .of_bind ((forAll_tell _).mpr he) (fun _ h => by cases h) fun _ _ => hf

/-- The length word says the length, unless it is refused. -/
theorem be_toInt (hword : word.length = 4) (h : 0 ≤ (htonl (u32 word)).toBitVec.toInt) :
    be 4 (htonl (u32 word)).toBitVec.toInt.toNat = word := by
  have hcount : (htonl (u32 word)).toBitVec.toInt.toNat = (htonl (u32 word)).toNat := by
    rw [BitVec.toInt_eq_toNat_of_lt (BitVec.toInt_pos_iff.mp h), Int.toNat_natCast]
    rfl
  rw [hcount, ← u32Bytes_htonl, htonl_htonl, u32Bytes_u32 hword]

/-- The rest of a message. -/
theorem readBody_reads (hle : len ≤ 10000) (hbs : bs = be 4 len ++ arriving sock) :
    Reads bs (trace (readBody fuel env (be 4 len) len sock))
      (readBody fuel env (be 4 len) len sock).val := by
  refine .of_tell (.write 0 4) trivial ?_
  by_cases h4 : len < 4
  · obtain ⟨m, rfl, hbody⟩ : ∃ m : Message, m.len = len ∧ m.body = [] :=
      ⟨⟨len, hle, [], by rw [List.length_nil]; omega⟩, rfl, rfl⟩
    rw [if_pos h4]
    have hmessage : bs = m.bytes ++ arriving sock := by
      rw [hbs, Message.bytes, hbody, List.append_nil]
    exact .short hmessage (by omega)
  rw [if_neg h4]
  refine .of_bind (readLoop_touch fun _ _ => trivial) (fun _ => readLoop_error) ?_
  rintro ⟨buf, sock'⟩ hval
  have hloop : Loop Stop.hang (len - 4 - 0) (4 + 0)
      (put ((List.range len).map env.heap) 0 (be 4 len)) sock
      (readLoop Io.region .hang (len - 4) 4 fuel 0
        (put ((List.range len).map env.heap) 0 (be 4 len)) sock).val := readLoop_loop
  rw [hval] at hloop
  cases hloop with
  | failed => exact .failed sock'
  | read hmany hrest =>
      obtain ⟨m, rfl, hbody⟩ : ∃ m : Message,
          m.len = len ∧ m.body = (arriving sock).take (len - 4) :=
        ⟨⟨len, hle, _, by rw [List.length_take]; omega⟩, rfl, rfl⟩
      have harrive : bs = m.bytes ++ (arriving sock).drop (m.len - 4) := by
        rw [hbs, Message.bytes, hbody, List.append_assoc, List.take_append_drop]
      have hbuf : put (put ((List.range m.len).map env.heap) 0 (be 4 m.len)) (4 + 0)
          ((arriving sock).take (m.len - 4 - 0)) = be 4 m.len ++ m.body := by
        rw [← m.put_word (by omega) env.heap, hbody]
        rfl
      rw [hbuf]
      refine .of_tell (.read 4 4) trivial (.of_tell (.write 4 4) trivial ?_)
      by_cases h8 : m.len < 8
      · rw [if_pos h8]
        exact .short harrive h8
      · rw [if_neg h8, netWord_type (by omega)]
        simp only [put_type (not_lt.mp h8)]
        exact .message harrive (by omega) hrest

/-- What follows a length word. -/
theorem afterWord_reads {n : ℤ} (hn : (htonl (u32 word)).toBitVec.toInt = n)
    (hword : word.length = 4) (hbs : bs = word ++ arriving sock) {x : Vns _}
    (hx : x = if n > 10000 ∨ n < 0 then do
        tell (.refused n)
        pure (none, sock)
      else readBody fuel env word n.toNat sock) : Reads bs (trace x) x.val := by
  by_cases hrefused : n > 10000 ∨ n < 0
  · rw [hx, if_pos hrefused]
    exact .refused n sock
  · have hbe : be 4 n.toNat = word := by
      rw [← hn]
      exact be_toInt hword (by omega)
    rw [hx, if_neg hrefused, ← hbe]
    exact readBody_reads (by omega) (hbe ▸ hbs)

/-- **Reading a message does nothing else.** -/
theorem readCommand_reads :
    Reads (arriving sock) (trace (readCommand fuel env sock)) (readCommand fuel env sock).val := by
  refine .of_bind (readLoop_touch fun _ _ => trivial) (fun _ => readLoop_error) ?_
  rintro ⟨word, sock'⟩ hval
  have hloop : Loop Stop.hang (4 - 0) (0 + 0) ((List.range 4).map env.stack) sock
      (readLoop Io.lenWord .hang 4 0 fuel 0 ((List.range 4).map env.stack) sock).val :=
    readLoop_loop
  rw [hval] at hloop
  cases hloop with
  | failed => exact .failed sock'
  | read hmany hrest =>
      have hfour : ((arriving sock).take (4 - 0)).length = 4 := by
        rw [List.length_take]
        omega
      have hsplit : arriving sock = (arriving sock).take (4 - 0) ++ arriving sock' := by
        rw [hrest, List.take_append_drop]
      rw [put_all (by rw [hfour]; rfl)]
      exact afterWord_reads rfl hfour hsplit rfl

end reading

/-! ### What one call can do -/

/-- What a call of `sr_read_from_server_expect` for `c` does when the bytes `bs` are in front of it,
what it returns, and the bytes it leaves. -/
inductive Call (env : VnsEnv) (s : Session) (c : VnsCommand) (bs : List UInt8) :
    List Io → Except Stop (ℤ × List UInt8) → Prop
  /-- No message arrives, and the call does not return. -/
  | hang : Call env s c bs [] (.error .hang)
  /-- No message arrives. -/
  | failed (left : List UInt8) : Call env s c bs [] (.ok (-1, left))
  /-- A message whose length is refused. -/
  | badLength (len : ℤ) (left : List UInt8) : Call env s c bs [.refused len] (.ok (-1, left))
  /-- A message without a type. -/
  | short {m : Message} {rest : List UInt8} (hbs : bs = m.bytes ++ rest) (hlen : m.len < 8) :
      Call env s c bs [.short m.len] (.error (.fault .outOfBounds))
  /-- A message of another type. -/
  | other {m : Message} {rest : List UInt8} (hother : m.command ≠ c.code) {ret : ℤ}
      (hret : ret ≠ 1) : Call env s c bs [.received m.command m.arrived] (.ok (ret, rest))
  /-- A message of the type expected, which is handled. -/
  | handled {m : Message} {rest : List UInt8} (hbs : bs = m.bytes ++ rest) (hlen : 8 ≤ m.len)
      (hcommand : m.command = c.code) :
      Call env s c bs (.received c.code m.arrived :: trace (handleCommand env s c.code m.arrived))
        ((handleCommand env s c.code m.arrived).val.map fun r => (r.1, rest))

section call

variable {fuel : ℕ} {env : VnsEnv} {s : Session} {c : VnsCommand} {bs rest : List UInt8}
  {m : Message} {sock sock' : Socket}

/-- A message that is not unexpected goes to its handler. -/
theorem dispatch_expected (env : VnsEnv) (s : Session) {expected : Option VnsCommand}
    {command : UInt32} (h : ¬ Unexpected expected command) (buf : List UInt8) :
    trace (dispatch env s expected command buf) =
      .received command buf :: trace (handleCommand env s command buf) ∧
    (dispatch env s expected command buf).val = (handleCommand env s command buf).val := by
  have htell : (tell (Io.received command buf) : Vns Unit).val = .ok () := rfl
  rw [dispatch, trace_bind htell, val_bind_of_val htell, if_neg h]
  exact ⟨rfl, rfl⟩

/-- A message that has been read. -/
theorem dispatch_call (hbs : bs = m.bytes ++ rest) (hlen : 8 ≤ m.len) :
    Call env s c bs (trace (dispatch env s (some c) m.command m.arrived))
      ((dispatch env s (some c) m.command m.arrived).val.map fun r => (r.1, rest)) := by
  by_cases hc : m.command = c.code
  · obtain ⟨htrace, hval⟩ := dispatch_expected env s (not_unexpected_code hc) m.arrived
    rw [htrace, hval, hc]
    exact .handled hbs hlen hc
  · have htell : (tell (Io.received m.command m.arrived) : Vns Unit).val = .ok () := rfl
    rw [dispatch, trace_bind htell, val_bind_of_val htell]
    by_cases hclose : m.command = VnsCommand.close.code
    · have hexpected : ¬ Unexpected (some c) m.command := fun h => h.2 hclose
      have hcase : VnsCommand.handled m.command = some .close := by
        rw [hclose]
        rfl
      rw [if_neg hexpected, handleCommand, hcase]
      exact .other hc (by norm_num)
    · rw [if_pos ⟨⟨c, rfl, hc⟩, hclose⟩]
      exact .other hc (by norm_num)

/-- Handling a message changes nothing about the stream. -/
theorem srReadFromServerExpect_of_read (s : Session) (expected : Option VnsCommand)
    {command : UInt32} {buf : List UInt8}
    (h : (readCommand fuel env sock).val = .ok (some (command, buf), sock'))
    (htrace : trace (readCommand fuel env sock) = []) :
    trace (srReadFromServerExpect fuel env s expected sock) =
        trace (dispatch env s expected command buf) ∧
      (srReadFromServerExpect fuel env s expected sock).val =
        (dispatch env s expected command buf).val.map (·, sock') := by
  unfold srReadFromServerExpect
  rw [trace_bind h, val_bind_of_val h, htrace, List.nil_append]
  constructor
  · unfold trace
    exact congrArg _ (log_bind_pure ..)
  · show (dispatch env s expected command buf >>= fun r => (pure (r, sock') : Vns _)).val = _
    rw [val_bind]
    cases (dispatch env s expected command buf).val with
    | error e => rfl
    | ok r => rfl

/-- **One call.** -/
theorem srReadFromServerExpect_call (fuel : ℕ) (env : VnsEnv) (s : Session) (c : VnsCommand)
    (sock : Socket) :
    Call env s c (arriving sock) (trace (srReadFromServerExpect fuel env s (some c) sock))
      ((srReadFromServerExpect fuel env s (some c) sock).val.map
        fun r => (r.1.1, arriving r.2)) := by
  have hreads : Reads (arriving sock) (trace (readCommand fuel env sock))
      (readCommand fuel env sock).val := readCommand_reads
  generalize ht : trace (readCommand fuel env sock) = t at hreads
  generalize hr : (readCommand fuel env sock).val = r at hreads
  cases hreads with
  | hang =>
      rw [srReadFromServerExpect, trace_bind_error hr, ht, val_bind, hr]
      exact .hang
  | failed sock' =>
      rw [srReadFromServerExpect, trace_bind hr, ht, val_bind, hr]
      exact .failed (arriving sock')
  | refused len sock' =>
      rw [srReadFromServerExpect, trace_bind hr, ht, val_bind, hr]
      exact .badLength len (arriving sock')
  | short hbs hlen =>
      rw [srReadFromServerExpect, trace_bind_error hr, ht, val_bind, hr]
      exact .short hbs hlen
  | @message m rest sock' hbs hlen hrest =>
      obtain ⟨htrace, hval⟩ := srReadFromServerExpect_of_read s (some c) hr ht
      have hcall : Call env s c (arriving sock) _ _ := dispatch_call hbs hlen
      rw [htrace, hval]
      subst hrest
      generalize (dispatch env s (some c) m.command m.arrived).val = v at hcall ⊢
      cases v with
      | error e => exact hcall
      | ok r => exact hcall

/-- A message without a type stops the call. -/
theorem read_short (env : VnsEnv) (s : Session) (expected : Option VnsCommand)
    (hfuel : fuel ≥ 10000) (harrive : arriving sock = m.bytes ++ rest) (hlen : m.len < 8) :
    trace (srReadFromServerExpect fuel env s expected sock) = [.short m.len] ∧
      (srReadFromServerExpect fuel env s expected sock).val = .error (.fault .outOfBounds) := by
  obtain ⟨log, hlog, hread⟩ := readCommand_short hlen harrive hfuel env
  have hval : (readCommand fuel env sock).val = .error (.fault .outOfBounds) := by rw [hread]
  have htrace : trace (readCommand fuel env sock) = [.short m.len] := by
    rw [trace, hread, List.filter_append,
      List.filter_eq_nil_iff.mpr fun e he => by simpa using hlog e he]
    rfl
  rw [srReadFromServerExpect, trace_bind_error hval, val_bind, hval]
  exact ⟨htrace, rfl⟩

/-- A message that is not unexpected is handled. -/
theorem read_message (hlen : 8 ≤ m.len) (harrive : arriving sock = m.bytes ++ rest) :
    ∃ sock', arriving sock' = rest ∧ (NoError sock → NoError sock') ∧
      ∀ fuel ≥ 10000, ∀ env s expected, ¬ Unexpected expected m.command →
        trace (srReadFromServerExpect fuel env s expected sock) =
          .received m.command m.arrived :: trace (handleCommand env s m.command m.arrived) ∧
        (srReadFromServerExpect fuel env s expected sock).val =
          (handleCommand env s m.command m.arrived).val.map (·, sock') := by
  obtain ⟨sock', hrest, hsock', hmessage⟩ := readCommand_message hlen harrive
  refine ⟨sock', hrest, hsock', fun fuel hfuel env s expected hexpected => ?_⟩
  obtain ⟨log, hlog, hread⟩ := hmessage fuel hfuel env
  have hquiet : trace (readCommand fuel env sock) = [] := by
    rw [trace, hread]
    exact List.filter_eq_nil_iff.mpr fun e he => by simpa using (hlog e he).1
  obtain ⟨htrace, hval⟩ := srReadFromServerExpect_of_read s expected (by rw [hread]) hquiet
  obtain ⟨hsaid, hdone⟩ := dispatch_expected env s hexpected m.arrived
  exact ⟨htrace.trans hsaid, by rw [hval, hdone]⟩

end call

/-! ### The handlers -/

/-- The digest of the salt and the key, if there is one. -/
def authDigest (env : VnsEnv) (buf : List UInt8) : Option (Fin 5 → UInt32) :=
  env.authKey.bind fun key => env.sha1 (requestSalt env buf ++ key.hashed)

/-- The host name of a routing table fits the array it is copied to. -/
def HostFits (env : VnsEnv) (buf : List UInt8) : Prop := (tableHost env buf).length ≤ 32

section handlers

variable (env : VnsEnv) (s : Session) (buf : List UInt8)

/-- A request for which there is no digest is not answered. -/
theorem srHandleAuthRequest_none (h : authDigest env buf = none) :
    trace (srHandleAuthRequest env s.user buf) = [] ∧
      (srHandleAuthRequest env s.user buf).val = .ok false := by
  unfold authDigest at h
  unfold srHandleAuthRequest
  cases hkey : env.authKey with
  | none => exact ⟨rfl, rfl⟩
  | some key =>
      rw [hkey, Option.bind_some] at h
      simp only [tell_bind, h]
      exact ⟨rfl, rfl⟩

/-- A request is answered with its digest. -/
theorem srHandleAuthRequest_some {digest : Fin 5 → UInt32} (h : authDigest env buf = some digest) :
    trace (srHandleAuthRequest env s.user buf) =
        [.sent (authReplyMessage s.user digest) env.sent] ∧
      (srHandleAuthRequest env s.user buf).val =
        .ok (env.sent = (authReplyMessage s.user digest).length) := by
  obtain ⟨key, hkey, hsha⟩ := Option.bind_eq_some_iff.mp h
  unfold srHandleAuthRequest
  rw [hkey]
  simp only [tell_bind, hsha]
  exact ⟨rfl, rfl⟩

/-- What a handler that says yes or no amounts to. -/
theorem handled_of_bool {x : Vns Bool} {ok : Bool} (h : x.val = .ok ok) :
    trace (x >>= fun ok => pure (if ok then (1 : ℤ) else -1, s.sr)) = trace x ∧
      (x >>= fun ok => pure (if ok then (1 : ℤ) else -1, s.sr)).val =
        .ok (if ok then 1 else -1, s.sr) := by
  rw [trace_bind h, val_bind_of_val h]
  exact ⟨List.append_nil _, rfl⟩

/-- A request without a digest. -/
theorem authRequest_refused (h : authDigest env buf = none) :
    trace (handleCommand env s VnsCommand.authRequest.code buf) = [] ∧
      (handleCommand env s VnsCommand.authRequest.code buf).val = .ok (-1, s.sr) := by
  obtain ⟨htrace, hval⟩ := srHandleAuthRequest_none env s buf h
  obtain ⟨hsaid, hdone⟩ := handled_of_bool s hval
  exact ⟨hsaid.trans htrace, hdone⟩

/-- A request with one. -/
theorem authRequest_answered {digest : Fin 5 → UInt32} (h : authDigest env buf = some digest) :
    trace (handleCommand env s VnsCommand.authRequest.code buf) =
        [.sent (authReplyMessage s.user digest) env.sent] ∧
      (handleCommand env s VnsCommand.authRequest.code buf).val =
        .ok (if env.sent = (authReplyMessage s.user digest).length then 1 else -1, s.sr) := by
  obtain ⟨htrace, hval⟩ := srHandleAuthRequest_some env s buf h
  obtain ⟨hsaid, hdone⟩ := handled_of_bool s hval
  refine ⟨hsaid.trans htrace, hdone.trans ?_⟩
  simp only [decide_eq_true_eq]

/-- A status. -/
theorem authStatus_handled :
    trace (handleCommand env s VnsCommand.authStatus.code buf) = [] ∧
      (handleCommand env s VnsCommand.authStatus.code buf).val =
        .ok (if authOk env buf ≠ 0 then 1 else -1, s.sr) := by
  have hcase : VnsCommand.handled VnsCommand.authStatus.code = some .authStatus := rfl
  rw [handleCommand, hcase]
  show trace (srHandleAuthStatus env buf >>= _) = _ ∧ _
  unfold srHandleAuthStatus
  simp only [tell_bind]
  split_ifs with hok
  · exact ⟨rfl, rfl⟩
  · exact ⟨rfl, rfl⟩

/-- A routing table whose host name does not fit. -/
theorem rtable_overflow (hlong : ¬ HostFits env buf) :
    trace (handleCommand env s VnsCommand.rtable.code buf) = [] ∧
      (handleCommand env s VnsCommand.rtable.code buf).val = .error (.fault .outOfBounds) := by
  have hcase : VnsCommand.handled VnsCommand.rtable.code = some .rtable := rfl
  rw [handleCommand, hcase]
  show trace (srHandleRtable env buf >>= _) = _ ∧ _
  unfold srHandleRtable
  simp only [tell_bind]
  rw [if_pos (not_le.mp hlong)]
  exact ⟨rfl, rfl⟩

/-- A routing table whose host name fits. -/
theorem rtable_handled (hfits : HostFits env buf) :
    (trace (handleCommand env s VnsCommand.rtable.code buf) = [] ∧
      (handleCommand env s VnsCommand.rtable.code buf).val = .ok (-1, s.sr)) ∨
    ∃ host text, trace (handleCommand env s VnsCommand.rtable.code buf) = [.stored host text] ∧
      (handleCommand env s VnsCommand.rtable.code buf).val = .ok (1, s.sr) := by
  have hcase : VnsCommand.handled VnsCommand.rtable.code = some .rtable := rfl
  rw [handleCommand, hcase]
  show (trace (srHandleRtable env buf >>= _) = _ ∧ _) ∨ _
  unfold srHandleRtable
  simp only [tell_bind]
  rw [if_neg (not_lt.mpr hfits)]
  split_ifs with hopen
  · exact .inr ⟨_, _, rfl, rfl⟩
  · exact .inl ⟨rfl, rfl⟩

end handlers

end SimpleRouter
