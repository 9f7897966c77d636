import SimpleRouter.Connect

/-!
# The gate

`sr_connect_to_server` opens the session only behind the server's authentication.

* `Gated` — what is asked of a run: nothing but a request that is answered and a positive status
  comes before the opening, there is one opening, and whatever else arrives is refused.
* `InBounds` — the messages the client comes to read have a type, and the host name of the routing
  table it waits for fits. It is a condition on the bytes that arrive.
* `gated_iff_inBounds` — **the opening is gated by authentication**, whatever the server sends,
  exactly if its messages stay in bounds.
-/

namespace SimpleRouter

open Buffer Stream Logged Wire

/-- Nothing opens the session after the `k`-th event, and connecting fails. -/
def Refuses (tr : List Io) (result : Except Stop ℤ) (k : ℕ) : Prop :=
  (∀ e ∈ tr.drop (k + 1), ¬ e.IsOpening) ∧ result = .ok (-1)

/-- **The opening is gated by authentication**: a property of what the client does while connecting,
and of what it returns. -/
structure Gated (envs : Fin 3 → VnsEnv) (s : Session) (tr : List Io) (result : Except Stop ℤ) :
    Prop where
  /-- Before an opening there are a request for authentication, an answer to it that is fully sent,
  and a positive status, and nothing else. -/
  gate : ∀ (k : ℕ) (e : Io), tr[k]? = some e → e.IsOpening → ∃ request digest status,
    authOk (envs 1) status ≠ 0 ∧ tr.take k =
      [.received VnsCommand.authRequest.code request, fullReply s.user digest,
        .received VnsCommand.authStatus.code status]
  /-- There is at most one opening. -/
  once : ∀ (k k' : ℕ) (e e' : Io), tr[k]? = some e → e.IsOpening → tr[k']? = some e' →
    e'.IsOpening → k = k'
  /-- Success with a template ends with the opening, a routing table, and its storage. -/
  table : result = .ok 0 → s.template.chars ≠ [] → ∃ pre message ret table host text,
    (Io.sent message ret).IsOpening ∧ tr = pre ++
      [.sent message ret, .received VnsCommand.rtable.code table, .stored host text]
  /-- Any other message than the one needed is refused. -/
  other : ∀ (k : ℕ) (command : UInt32) (buf : List UInt8), tr[k]? = some (.received command buf) →
    ¬ Accepted envs s.user ((tr.take k).filterMap Io.message).length command buf
      (tr.drop (k + 1)) → Refuses tr result k
  /-- A message without a type is refused. -/
  short : ∀ k len, tr[k]? = some (.short len) → Refuses tr result k
  /-- A message of a wrong length is refused. -/
  badLength : ∀ k len, tr[k]? = some (.refused len) → Refuses tr result k

/-- The messages that arrive stay in bounds: those the client comes to read are long enough to have
a type, and if the third is a routing table, its host name fits. -/
structure InBounds (connected : Bool) (envs : Fin 3 → VnsEnv) (sent : ℤ) (s : Session)
    (sock : Socket) : Prop where
  /-- There is a type. -/
  header : ∀ i (m : Message) rest, Asked connected envs sent s sock i (m.bytes ++ rest) → 8 ≤ m.len
  /-- The host name fits. -/
  host : ∀ (m : Message) rest, Asked connected envs sent s sock 2 (m.bytes ++ rest) →
    m.command = VnsCommand.rtable.code → HostFits (envs 2) m.arrived

section stage

variable {i k : ℕ} {connected : Bool} {envs : Fin 3 → VnsEnv} {sent : ℤ} {s : Session}
  {sock : Socket} {t rest tr : List Io} {result : Except Stop ℤ}

/-- A stage has one message for each that is accepted. -/
theorem Stage.length_messages (h : Stage envs sent s i t) :
    (t.filterMap Io.message).length = i := by
  cases h <;> rfl

/-- A stage has no message without a type. -/
theorem Stage.not_short (h : Stage envs sent s i t) {len : ℕ} : Io.short len ∉ t := by
  cases h <;> simp [fullReply]

/-- A stage has no message of a wrong length. -/
theorem Stage.not_refused (h : Stage envs sent s i t) {len : ℤ} : Io.refused len ∉ t := by
  cases h <;> simp [fullReply]

/-- Where the opening is. -/
theorem Stage.gate (h : Stage envs sent s i t) (hrest : ∀ e ∈ rest, ¬ e.IsOpening) {e : Io}
    (hk : (t ++ rest)[k]? = some e) (he : e.IsOpening) : k = 3 ∧ ∃ request digest status,
      authOk (envs 1) status ≠ 0 ∧ (t ++ rest).take k =
        [.received VnsCommand.authRequest.code request, fullReply s.user digest,
          .received VnsCommand.authStatus.code status] := by
  have hreply : ∀ digest, ¬ (fullReply s.user digest).IsOpening := fun _ =>
    not_isOpening_authReply
  have hlt : k < t.length := by
    by_contra hge
    rw [List.getElem?_append_right (Nat.le_of_not_lt hge)] at hk
    exact hrest e (List.mem_of_getElem? hk) he
  rw [List.getElem?_append_left hlt] at hk
  cases h with
  | start => cases hlt
  | replied =>
      match k with
      | 0 =>
          obtain rfl := Option.some.inj hk
          exact absurd he id
      | 1 =>
          obtain rfl := Option.some.inj hk
          exact absurd he (hreply _)
  | @opened request status digest _ hok =>
      match k with
      | 0 =>
          obtain rfl := Option.some.inj hk
          exact absurd he id
      | 1 =>
          obtain rfl := Option.some.inj hk
          exact absurd he (hreply _)
      | 2 =>
          obtain rfl := Option.some.inj hk
          exact absurd he id
      | 3 => exact ⟨rfl, request, digest, status, hok, rfl⟩

/-- The messages of a stage have been accepted. -/
theorem Stage.accepted (h : Stage envs sent s i t) (hlt : k < t.length) {command : UInt32}
    {buf : List UInt8} (hk : (t ++ rest)[k]? = some (.received command buf)) :
    Accepted envs s.user (((t ++ rest).take k).filterMap Io.message).length command buf
      ((t ++ rest).drop (k + 1)) := by
  rw [List.getElem?_append_left hlt] at hk
  cases h with
  | start => cases hlt
  | replied =>
      match k with
      | 0 =>
          cases hk
          exact .request
      | 1 => cases hk
  | opened _ hok =>
      match k with
      | 0 =>
          cases hk
          exact .request
      | 1 => cases hk
      | 2 =>
          cases hk
          exact .status hok
      | 3 => cases hk

/-- Nothing opens the session behind the events of a stage. -/
theorem refuses_of_rest (hrest : ∀ e ∈ rest, ¬ e.IsOpening) (hge : t.length ≤ k)
    (hresult : result = .ok (-1)) : Refuses (t ++ rest) result k := by
  obtain ⟨j, rfl⟩ := Nat.exists_eq_add_of_le hge
  refine ⟨fun e he => hrest e ?_, hresult⟩
  rw [Nat.add_assoc, List.drop_length_add_append] at he
  exact List.mem_of_mem_drop he

/-- The gate of a stage and what follows it without an opening. -/
theorem Stage.gated {t rest : List Io} {result : Except Stop ℤ} (h : Stage envs sent s i t)
    (hrest : ∀ e ∈ rest, ¬ e.IsOpening) (hshort : ∀ len, Io.short len ∉ rest)
    (hbad : ∀ len, Io.refused len ∈ rest → result = .ok (-1))
    (htable : result = .ok 0 → s.template.chars ≠ [] → ∃ pre message ret table host text,
      (Io.sent message ret).IsOpening ∧ t ++ rest = pre ++
        [.sent message ret, .received VnsCommand.rtable.code table, .stored host text])
    (hother : ∀ j command buf, rest[j]? = some (.received command buf) →
      ¬ Accepted envs s.user (i + ((rest.take j).filterMap Io.message).length) command buf
        (rest.drop (j + 1)) → result = .ok (-1)) :
    Gated envs s (t ++ rest) result where
  gate k e hk he := (h.gate hrest hk he).2
  once k k' e e' hk he hk' he' := by rw [(h.gate hrest hk he).1, (h.gate hrest hk' he').1]
  table := htable
  other k command buf hk hnot := by
    rcases Nat.lt_or_ge k t.length with hlt | hge
    · exact absurd (h.accepted hlt hk) hnot
    · obtain ⟨j, rfl⟩ := Nat.exists_eq_add_of_le hge
      have hcount : (((t ++ rest).take (t.length + j)).filterMap Io.message).length =
          i + ((rest.take j).filterMap Io.message).length := by
        rw [List.take_length_add_append, List.filterMap_append, List.length_append,
          h.length_messages]
      rw [List.getElem?_append_right hge, Nat.add_sub_cancel_left] at hk
      rw [hcount, Nat.add_assoc, List.drop_length_add_append] at hnot
      exact refuses_of_rest hrest hge (hother j command buf hk hnot)
  short k len hk := by
    rcases List.mem_append.mp (List.mem_of_getElem? hk) with hmem | hmem
    · exact absurd hmem h.not_short
    · exact absurd hmem (hshort len)
  badLength k len hk := by
    have hge : t.length ≤ k := by
      by_contra hlt
      rw [List.getElem?_append_left (not_le.mp hlt)] at hk
      exact h.not_refused (List.mem_of_getElem? hk)
    rw [List.getElem?_append_right hge] at hk
    exact refuses_of_rest hrest hge (hbad len (List.mem_of_getElem? hk))

end stage

/-! ### Messages in bounds -/

section gate

variable {fuel i : ℕ} {connected : Bool} {envs : Fin 3 → VnsEnv} {sent : ℤ} {s : Session}
  {sock : Socket} {tr : List Io} {result : Except Stop ℤ} {m : Message} {rest bs : List UInt8}

/-- However connecting ends, the opening is gated if the messages stay in bounds. -/
theorem Exchange.gated (hbounds : InBounds connected envs sent s sock)
    (h : Exchange connected envs sent s sock tr result) : Gated envs s tr result := by
  cases h with
  | silent hstage hresult =>
      rw [← List.append_nil tr]
      exact hstage.gated nofun nofun nofun (fun h => absurd h hresult) nofun
  | badLength hstage len =>
      refine hstage.gated ?_ (by simp) (fun _ _ => rfl) nofun fun _ _ _ _ _ => rfl
      intro e he
      obtain rfl := List.mem_singleton.mp he
      exact id
  | short hstage hasked hlen => exact absurd (hbounds.header _ _ _ hasked) (not_le.mpr hlen)
  | @refused i t tail command buf hstage hnot htail =>
      refine hstage.gated ?_ ?_ (fun _ _ => rfl) nofun fun _ _ _ _ _ => rfl
      · intro e he
        rcases List.mem_cons.mp he with rfl | he
        · exact id
        · exact (htail e he).quiet.2
      · intro len hmem
        obtain ⟨digest, ret, -, he⟩ := htail _ ((List.mem_cons.mp hmem).resolve_left nofun)
        cases he
  | overflow hstage hasked hcommand hlong =>
      exact absurd (hbounds.host _ _ hasked hcommand) hlong
  | opened hstage htemplate =>
      rw [← List.append_nil tr]
      exact hstage.gated nofun nofun nofun (fun _ hne => absurd htemplate hne) nofun
  | @stored t table host text hstage =>
      refine hstage.gated ?_ (by simp) (by simp) ?_ ?_
      · intro e he
        rcases List.mem_pair.mp he with rfl | rfl
        · exact id
        · exact id
      · intro _ _
        cases hstage with
        | opened _ hok => exact ⟨[_, _, _], _, _, table, host, text, isOpening_opening, rfl⟩
      · intro j command buf hj hnot
        match j with
        | 0 =>
            obtain ⟨rfl, rfl⟩ := Io.received.inj (Option.some.inj hj)
            exact absurd .table hnot
        | 1 => cases hj

/-- A call for a message that is accepted. -/
theorem call_forward {env : VnsEnv} {c : VnsCommand} {tail : List Io} (hfuel : 10000 ≤ fuel)
    (harrive : arriving sock = m.bytes ++ rest) (hlen : 8 ≤ m.len) (hcommand : m.command = c.code)
    (htail : trace (handleCommand env s c.code m.arrived) = tail)
    {sr : SrInstance} (hval : (handleCommand env s c.code m.arrived).val = .ok (1, sr))
    (g : (ℤ × SrInstance) × Socket → Vns (ℤ × SrInstance)) :
    ∃ sock', arriving sock' = rest ∧
      trace (srReadFromServerExpect fuel env s (some c) sock >>= g) =
        .received c.code m.arrived :: (tail ++ trace (g ((1, sr), sock'))) ∧
      (srReadFromServerExpect fuel env s (some c) sock >>= g).val = (g ((1, sr), sock')).val := by
  obtain ⟨sock', hrest, -, hmessage⟩ := read_message hlen harrive
  obtain ⟨htrace, hread⟩ := hmessage fuel hfuel env s (some c) (not_unexpected_code hcommand)
  rw [hcommand] at htrace hread
  rw [hval] at hread
  refine ⟨sock', hrest, ?_, val_bind_of_val hread g⟩
  rw [trace_bind hread, htrace, htail]
  rfl

/-- `sr_connect_to_server` from its second message on. -/
def fromStatus (fuel : ℕ) (env₂ env₃ : VnsEnv) (sent : ℤ) (s : Session) (sock : Socket) :
    Vns (ℤ × SrInstance) := do
  let ((ret, sr), sock) ← srReadFromServerExpect fuel env₂ s (some .authStatus) sock
  if ret ≠ 1 then pure (-1, sr)
  else sendOpening fuel env₃ sent { s with sr := sr } sock

/-- A client that comes to read its second message has read a request and answered it. -/
theorem Asked.fromStatus (hfuel : 10000 ≤ fuel) (h : Asked connected envs sent s sock 1 bs) :
    ∃ t sock', arriving sock' = bs ∧ (t.filterMap Io.message).length = 1 ∧
      trace (srConnectToServer fuel connected envs sent s sock) =
        t ++ trace (fromStatus fuel (envs 1) (envs 2) sent s sock') ∧
      (srConnectToServer fuel connected envs sent s sock).val =
        (fromStatus fuel (envs 1) (envs 2) sent s sock').val := by
  cases h with
  | @status m _ hasked hlen hcommand hreplies =>
      generalize hbs : m.bytes ++ bs = stream at hasked
      obtain rfl : connected = true := by cases hasked with | request h => exact h
      obtain harrive : arriving sock = m.bytes ++ bs := by cases hasked; exact hbs.symm
      obtain ⟨digest, hdigest, hsent⟩ := hreplies
      obtain ⟨htail, hval⟩ := authRequest_answered (envs 0) s m.arrived hdigest
      rw [if_pos hsent] at hval
      obtain ⟨sock', hrest, htrace, hres⟩ := call_forward hfuel harrive hlen hcommand htail hval
        fun r => if r.1.1 ≠ 1 then pure (-1, r.1.2)
          else SimpleRouter.fromStatus fuel (envs 1) (envs 2) sent { s with sr := r.1.2 } r.2
      exact ⟨[_, _], sock', hrest, rfl, htrace, hres⟩

/-- The client gets as far as the stream lets it: it has read one message for each that is accepted,
and goes on with a call that has the rest of the stream in front of it. -/
theorem Asked.goesOn (hfuel : 10000 ≤ fuel) (h : Asked connected envs sent s sock i bs) :
    ∃ t env c sock' g, arriving sock' = bs ∧ (t.filterMap Io.message).length = i ∧
      (i = 2 → env = envs 2 ∧ c = VnsCommand.rtable) ∧
      trace (srConnectToServer fuel connected envs sent s sock) =
        t ++ trace (srReadFromServerExpect fuel env s (some c) sock' >>= g) ∧
      (srConnectToServer fuel connected envs sent s sock).val =
        (srReadFromServerExpect fuel env s (some c) sock' >>= g).val := by
  cases h with
  | request hconnected =>
      subst hconnected
      exact ⟨[], envs 0, .authRequest, sock, _, rfl, rfl, nofun, rfl, rfl⟩
  | status hasked hlen hcommand hreplies =>
      obtain ⟨t, sock', hrest, hcount, htrace, hval⟩ :=
        Asked.fromStatus hfuel (.status hasked hlen hcommand hreplies)
      exact ⟨t, envs 1, .authStatus, sock', _, hrest, hcount, nofun, htrace, hval⟩
  | @table m _ hasked hlen hcommand hok hsent htemplate =>
      obtain ⟨t, sock₁, harrive, hcount, htrace, hval⟩ := Asked.fromStatus hfuel hasked
      obtain ⟨htail, hstatus⟩ := authStatus_handled (envs 1) s m.arrived
      rw [if_pos hok] at hstatus
      obtain ⟨sock₂, hrest, hsaid, hdone⟩ :=
        call_forward hfuel harrive hlen hcommand htail hstatus
          fun r => if r.1.1 ≠ 1 then pure (-1, r.1.2)
            else sendOpening fuel (envs 2) sent { s with sr := r.1.2 } r.2
      have hopening : sendOpening fuel (envs 2) sent { s with sr := s.sr } sock₂ = (do
          tell (.sent (opening s) sent)
          let ((ret, sr), _) ← srReadFromServerExpect fuel (envs 2) s (some .rtable) sock₂
          if ret ≠ 1 then pure (-1, sr) else pure (0, sr)) := by
        rw [sendOpening]
        simp only [hsent, htemplate, ne_eq, not_true_eq_false, if_false]
      have htell : (tell (Io.sent (opening s) sent) : Vns Unit).val = .ok () := rfl
      rw [if_neg (not_not.mpr rfl), hopening, trace_bind htell] at hsaid
      rw [if_neg (not_not.mpr rfl), hopening, val_bind_of_val htell] at hdone
      refine ⟨t ++ [.received VnsCommand.authStatus.code m.arrived, .sent (opening s) sent], envs 2,
        .rtable, sock₂, _, hrest, ?_, fun _ => ⟨rfl, rfl⟩, ?_, hval.trans hdone⟩
      · rw [List.filterMap_append, List.length_append, hcount]
        rfl
      · rw [htrace, List.append_assoc]
        exact congrArg (t ++ ·) hsaid

/-- Three messages that are long enough, the third with a host name that fits, stay in bounds. -/
theorem inBounds_of_messages {m₁ m₂ m₃ : Message}
    (harrive : arriving sock = m₁.bytes ++ (m₂.bytes ++ (m₃.bytes ++ rest)))
    (hlen : 8 ≤ m₁.len ∧ 8 ≤ m₂.len ∧ 8 ≤ m₃.len)
    (hfits : m₃.command = VnsCommand.rtable.code → HostFits (envs 2) m₃.arrived) :
    InBounds connected envs sent s sock := by
  have hfirst : ∀ bs, Asked connected envs sent s sock 0 bs →
      bs = m₁.bytes ++ (m₂.bytes ++ (m₃.bytes ++ rest)) := by
    rintro bs ⟨-⟩
    exact harrive
  have hsecond : ∀ bs, Asked connected envs sent s sock 1 bs →
      bs = m₂.bytes ++ (m₃.bytes ++ rest) := by
    intro bs h
    cases h with
    | status hasked => exact (Message.bytes_append_inj (hfirst _ hasked)).2
  have hthird : ∀ bs, Asked connected envs sent s sock 2 bs → bs = m₃.bytes ++ rest := by
    intro bs h
    cases h with
    | table hasked => exact (Message.bytes_append_inj (hsecond _ hasked)).2
  constructor
  · intro i m rest' h
    generalize hbs : m.bytes ++ rest' = bs at h
    cases h with
    | request => exact (Message.bytes_append_inj (hbs.trans harrive)).1 ▸ hlen.1
    | status hasked =>
        have hnext := hsecond _ (.status hasked ‹_› ‹_› ‹_›)
        exact (Message.bytes_append_inj (hbs.trans hnext)).1 ▸ hlen.2.1
    | table hasked =>
        have hnext := hthird _ (.table hasked ‹_› ‹_› ‹_› ‹_› ‹_›)
        exact (Message.bytes_append_inj (hbs.trans hnext)).1 ▸ hlen.2.2
  · intro m rest' h hcommand
    obtain ⟨rfl, -⟩ := Message.bytes_append_inj (hthird _ h)
    exact hfits hcommand

/-- A run that ends with a message without a type is not gated. -/
theorem not_gated_short {t : List Io} {len : ℕ} : ¬ Gated envs s (t ++ [.short len])
    (.error (.fault .outOfBounds)) := by
  intro h
  have hrefuses := h.short t.length len (by simp)
  cases hrefuses.2

/-- A run that ends with a third message that is a routing table, and not stored, is not gated. -/
theorem not_gated_overflow {t : List Io} {buf : List UInt8}
    (hcount : (t.filterMap Io.message).length = 2) :
    ¬ Gated envs s (t ++ [.received VnsCommand.rtable.code buf])
      (.error (.fault .outOfBounds)) := by
  intro h
  have hrefuses := h.other t.length VnsCommand.rtable.code buf (by simp) (by
    rw [List.take_left, hcount]
    intro ha
    obtain ⟨-, host, text, hpost⟩ := accepted_two ha
    simp at hpost)
  cases hrefuses.2

/-- If the opening is gated, the messages stay in bounds: one that does not is not refused. -/
theorem inBounds_of_gated (hfuel : 10000 ≤ fuel)
    (h : Gated envs s (trace (srConnectToServer fuel connected envs sent s sock))
      ((srConnectToServer fuel connected envs sent s sock).val.map Prod.fst)) :
    InBounds connected envs sent s sock := by
  have hheader : ∀ i (m : Message) rest,
      Asked connected envs sent s sock i (m.bytes ++ rest) → 8 ≤ m.len := by
    intro i m rest hasked
    by_contra hlen
    obtain ⟨t, env, c, sock', g, harrive, -, -, htrace, hval⟩ := hasked.goesOn hfuel
    obtain ⟨hcall, hstop⟩ := read_short env s (some c) hfuel harrive (not_le.mp hlen)
    rw [htrace, hval, trace_bind_error hstop, val_bind, hstop, hcall] at h
    exact not_gated_short h
  refine ⟨hheader, fun m rest hasked hcommand => ?_⟩
  by_contra hlong
  obtain ⟨t, env, c, sock', g, harrive, hcount, hthird, htrace, hval⟩ := hasked.goesOn hfuel
  obtain ⟨rfl, rfl⟩ := hthird rfl
  obtain ⟨sock'', -, -, hmessage⟩ := read_message (hheader 2 m rest hasked) harrive
  obtain ⟨hcall, hread⟩ := hmessage fuel hfuel (envs 2) s (some .rtable)
    (not_unexpected_code hcommand)
  rw [hcommand] at hcall hread
  obtain ⟨hquiet, hres⟩ := rtable_overflow (envs 2) s m.arrived hlong
  have hstop : (srReadFromServerExpect fuel (envs 2) s (some .rtable) sock').val =
      .error (.fault .outOfBounds) := by
    rw [hread, hres]
    rfl
  rw [htrace, hval, trace_bind_error hstop, val_bind, hstop, hcall, hquiet] at h
  exact not_gated_overflow hcount h

/-- **Session opening is gated by authentication**, whatever the server sends, exactly if its
messages stay in bounds. -/
theorem gated_iff_inBounds (hfuel : 10000 ≤ fuel) (connected : Bool) (envs : Fin 3 → VnsEnv)
    (sent : ℤ) (s : Session) (sock : Socket) :
    Gated envs s (trace (srConnectToServer fuel connected envs sent s sock))
        ((srConnectToServer fuel connected envs sent s sock).val.map Prod.fst) ↔
      InBounds connected envs sent s sock :=
  ⟨inBounds_of_gated hfuel, connect_exchange.gated⟩

end gate

/-- What a client learns whose key is 64 times `k`. -/
def keyedEnv : VnsEnv :=
  { quietEnv with
    rtableOpen := true
    authKey := some ⟨List.replicate 64 107 ++ [0], rfl⟩
    sha1 := fun _ => some ![0xae9257c0, 0x5b6d6185, 0xc189a3c2, 0x867bbca7, 0x20d7e095]
    sent := 33 }

/-- A client `u` that asks for the template `t`. -/
def templateSession : Session where
  sr := srInit [] []
  user := ⟨[117], by decide, by decide⟩
  host := ⟨[118], by decide, by decide⟩
  template := ⟨[116], by decide, by decide⟩
  topoId := 0
  logfile := false

/-- A request for authentication without salt, a positive status, and a routing table for a host
whose name has 63 characters. -/
def longHost : List UInt8 :=
  [0, 0, 0, 8, 0, 0, 0, 128] ++ [0, 0, 0, 10, 0, 0, 2, 0, 1, 0] ++
    ([0, 0, 0, 72, 0, 0, 0, 32] ++ List.replicate 63 97 ++ [0])

/-- What the client does when that arrives. -/
def longHostRun : Vns (ℤ × SrInstance) :=
  srConnectToServer 10000 true (fun _ => keyedEnv) 70 templateSession
    [.segment longHost (by decide)]

/-- The host name is copied past the end of its array. -/
theorem longHost_not_gated : ¬ Gated (fun _ => keyedEnv) templateSession (trace longHostRun)
    (longHostRun.val.map Prod.fst) := by
  intro h
  have hk : (trace longHostRun)[4]? = some (.received VnsCommand.rtable.code
      ([0, 0, 0, 72, 32, 0, 0, 0] ++ List.replicate 63 97 ++ [0])) := rfl
  have hcount : (((trace longHostRun).take 4).filterMap Io.message).length = 2 := rfl
  have hrest : (trace longHostRun).drop 5 = [] := rfl
  have hresult : longHostRun.val.map Prod.fst = .error (.fault .outOfBounds) := rfl
  have hrefuses := h.other 4 _ _ hk (by
    rw [hcount, hrest]
    intro ha
    obtain ⟨-, host, text, hpost⟩ := accepted_two ha
    cases hpost)
  rw [Refuses, hresult] at hrefuses
  cases hrefuses.2

/-- A routing table for the host `v`, behind a request without salt and a positive status. -/
def shortHost : List UInt8 :=
  [0, 0, 0, 8, 0, 0, 0, 128] ++ [0, 0, 0, 10, 0, 0, 2, 0, 1, 0] ++
    ([0, 0, 0, 72, 0, 0, 0, 32] ++ 118 :: List.replicate 63 0)

/-- What the client does when that arrives. -/
def shortHostRun : Vns (ℤ × SrInstance) :=
  srConnectToServer 10000 true (fun _ => keyedEnv) 70 templateSession
    [.segment shortHost (by decide)]

/-- The opening is gated: the host name fits. -/
theorem gated_iff_inBounds_shortHost : Gated (fun _ => keyedEnv) templateSession
    (trace shortHostRun) (shortHostRun.val.map Prod.fst) := by
  have harrive : arriving [.segment shortHost (by decide)] =
      (⟨8, by decide, [0, 0, 0, 128], rfl⟩ : Message).bytes ++
        ((⟨10, by decide, [0, 0, 2, 0, 1, 0], rfl⟩ : Message).bytes ++
          ((⟨72, by decide, [0, 0, 0, 32] ++ 118 :: List.replicate 63 0, rfl⟩ : Message).bytes ++
            [])) := by
    decide +kernel
  have hfits : HostFits keyedEnv
      (⟨72, by decide, [0, 0, 0, 32] ++ 118 :: List.replicate 63 0, rfl⟩ : Message).arrived := by
    unfold HostFits
    decide
  exact (gated_iff_inBounds le_rfl true (fun _ => keyedEnv) 70 templateSession _).mpr
    (inBounds_of_messages harrive (by decide) fun _ => hfits)

end SimpleRouter
