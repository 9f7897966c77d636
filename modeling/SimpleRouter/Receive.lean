import SimpleRouter.VnsComm

/-!
# Messages from the stream

A `Message` is a length of at most 10000 and the bytes that follow the length word. However its
bytes arrive, a call of `sr_read_from_server_expect` puts exactly them into the buffer and leaves
the stream behind them.

* `readCommand_start` — the first loop: the length word, and then `readBody`.
* `readCommand_message`, `srReadFromServerExpect_eq` — one call on a message of at least eight
  bytes: first accesses inside the buffer, then `dispatch`.
* `reassembles` — **no dependence on chunking**: successive calls dispatch the messages of the
  stream in order.
-/

namespace SimpleRouter

open Buffer Stream Logged Wire

/-- A message whose length passes the check. -/
structure Message where
  /-- The number in the length word. -/
  len : ℕ
  /-- It is not refused. -/
  len_le : len ≤ 10000
  /-- The bytes after the length word. -/
  body : List UInt8
  /-- The length counts the length word. -/
  length_body : body.length = len - 4

namespace Message

/-- The bytes on the wire. -/
def bytes (m : Message) : List UInt8 := be 4 m.len ++ m.body

/-- The number in the type word. -/
def command (m : Message) : UInt32 := htonl (u32 (m.body.take 4))

/-- The buffer handed to the handlers: the bytes of the message, with the type in host byte
order. -/
def arrived (m : Message) : List UInt8 := be 4 m.len ++ u32Bytes m.command ++ m.body.drop 4

/-- The bytes after the type word. -/
def payload (m : Message) : List UInt8 := m.body.drop 4

/-- The payload is what stands behind the header. -/
theorem length_payload (m : Message) : m.payload.length = m.len - 8 := by
  have := m.length_body
  rw [payload, List.length_drop]
  omega

/-- The payload stands behind the header. -/
theorem drop_arrived (m : Message) : m.arrived.drop 8 = m.payload :=
  List.drop_left' (by rw [List.length_append, length_be, length_u32Bytes])

/-- What has arrived is as long as the message says. -/
theorem length_arrived {m : Message} (h : 8 ≤ m.len) : m.arrived.length = m.len := by
  have := m.length_body
  simp only [arrived, List.length_append, length_be, length_u32Bytes, List.length_drop]
  omega

/-- The length word is still in the buffer. -/
theorem netWord_len (m : Message) (env : VnsEnv) :
    netWord env m.arrived 0 = UInt32.ofNat m.len := by
  have hle := m.len_le
  have hlen : (UInt32.ofNat m.len).toNat = m.len := by
    rw [UInt32.toNat_ofNat']
    omega
  have hword : load m.arrived env.heap 0 4 = be 4 m.len := by
    rw [load_eq_slice, slice, arrived, List.drop_zero, List.append_assoc]
    · exact List.take_left' (length_be 4 m.len)
    · simp only [arrived, List.length_append, length_be]
      omega
  rw [netWord, hword, ← hlen, htonl_u32_be, hlen]

/-- The length word, as the client reads it. -/
theorem toInt_len (m : Message) : (htonl (u32 (be 4 m.len))).toBitVec.toInt = m.len := by
  have hle := m.len_le
  have hlen : (UInt32.ofNat m.len).toNat = m.len := by
    rw [UInt32.toNat_ofNat']
    omega
  rw [← hlen, htonl_u32_be, BitVec.toInt_eq_toNat_of_lt]
  · rfl
  · show 2 * (UInt32.ofNat m.len).toNat < 2 ^ 32
    omega

/-- The bytes of a stream say which message comes first, and what is left. -/
theorem bytes_append_inj {m m' : Message} {rest rest' : List UInt8}
    (h : m.bytes ++ rest = m'.bytes ++ rest') : m = m' ∧ rest = rest' := by
  rw [bytes, bytes, List.append_assoc, List.append_assoc] at h
  obtain ⟨hword, htail⟩ := List.append_inj h (by rw [length_be, length_be])
  have hlen : m.len = m'.len := by
    have hint := m.toInt_len
    rw [hword, m'.toInt_len] at hint
    exact (Int.ofNat_inj.mp hint).symm
  obtain ⟨hbody, hrest⟩ := List.append_inj htail (by rw [m.length_body, m'.length_body, hlen])
  refine ⟨?_, hrest⟩
  cases m
  cases m'
  cases hlen
  cases hbody
  rfl

/-- The word and the body fill the buffer. -/
theorem put_word (m : Message) (h : 4 ≤ m.len) (heap : ℕ → UInt8) :
    put (put ((List.range m.len).map heap) 0 (be 4 m.len)) 4 m.body = be 4 m.len ++ m.body := by
  have hbody := m.length_body
  have hput : put (put ((List.range m.len).map heap) 0 (be 4 m.len)) (0 + (be 4 m.len).length)
      m.body = put ((List.range m.len).map heap) 0 (be 4 m.len ++ m.body) := put_put_append
  rw [length_be, Nat.zero_add] at hput
  rw [hput, put_all]
  rw [List.length_append, length_be, List.length_map, List.length_range]
  omega

end Message

/-! ### Accesses -/

/-- The event is an access to the buffer or to `len`. -/
def Io.IsAccess : Io → Prop
  | .lenWord _ _ => True
  | .read _ _ => True
  | .write _ _ => True
  | .region _ _ => True
  | _ => False

/-- An access inside its object, for a buffer of `n` bytes. -/
def Io.Within (n : ℕ) : Io → Prop
  | .lenWord off k => off + k ≤ 4
  | .read off k => off + k ≤ n
  | .write off k => off + k ≤ n
  | .region off k => off + k ≤ n
  | _ => True

/-! ### One message -/

section one

variable {m : Message} {sock : Socket} {rest : List UInt8}

/-- The first loop reads the length word, and leaves the rest of the message. -/
theorem readCommand_start (harrive : arriving sock = m.bytes ++ rest) :
    ∃ sock', arriving sock' = m.body ++ rest ∧ (NoError sock → NoError sock') ∧
      ∀ fuel ≥ 10000, ∀ env, ∃ log, (∀ e ∈ log, e.IsAccess ∧ ∀ n, e.Within n) ∧
        readCommand fuel env sock =
          ⟨log ++ (readBody fuel env (be 4 m.len) m.len sock').log,
            (readBody fuel env (be 4 m.len) m.len sock').val⟩ := by
  have hword : (arriving sock).take 4 = be 4 m.len := by
    rw [harrive, Message.bytes, List.append_assoc]
    exact List.take_left' (length_be 4 m.len)
  have htail : (arriving sock).drop 4 = m.body ++ rest := by
    rw [harrive, Message.bytes, List.append_assoc]
    exact List.drop_left' (length_be 4 m.len)
  have hmany : 4 - 0 ≤ (arriving sock).length := by
    have := congrArg List.length hword
    rw [List.length_take, length_be] at this
    omega
  obtain ⟨sock', hdrop, hsock', hval⟩ := readLoop_arriving Io.lenWord Stop.hang 0 hmany
  refine ⟨sock', hdrop.trans htail, hsock', fun fuel hfuel env => ?_⟩
  have hloop := hval fuel ((List.range 4).map env.stack) (by omega)
  rw [Nat.sub_zero, hword, put_all (by simp)] at hloop
  refine ⟨(readLoop Io.lenWord Stop.hang 4 0 fuel 0 ((List.range 4).map env.stack) sock).log,
    ?_, ?_⟩
  · refine readLoop_touch fun o ho => ⟨trivial, fun n => ?_⟩
    show 0 + o + (4 - o) ≤ 4
    omega
  · have hlen := m.toInt_len
    have hle := m.len_le
    rw [readCommand, bind_of_val hloop]
    simp only [hlen]
    rw [if_neg (by omega), Int.toNat_natCast]

/-- The rest of a message of at least four bytes is read behind its length word. -/
theorem readBody_loop (hlen : 4 ≤ m.len) (harrive : arriving sock = m.body ++ rest) :
    ∃ sock', arriving sock' = rest ∧ (NoError sock → NoError sock') ∧
      ∀ fuel ≥ 10000, ∀ env : VnsEnv,
        (readLoop Io.region Stop.hang (m.len - 4) 4 fuel 0
          (put ((List.range m.len).map env.heap) 0 (be 4 m.len)) sock).val =
            .ok (some (be 4 m.len ++ m.body), sock') := by
  have hbody := m.length_body
  have hle := m.len_le
  have hmany : m.len - 4 - 0 ≤ (arriving sock).length := by
    rw [harrive, List.length_append]
    omega
  obtain ⟨sock', hdrop, hsock', hval⟩ := readLoop_arriving Io.region Stop.hang 4 hmany
  rw [harrive, Nat.sub_zero, List.drop_left' hbody] at hdrop
  refine ⟨sock', hdrop, hsock', fun fuel hfuel env => ?_⟩
  rw [hval fuel _ (by omega), harrive, Nat.sub_zero, List.take_left' hbody, m.put_word hlen]

/-- The calls of `read` are given windows of the buffer. -/
theorem readBody_touch (fuel : ℕ) (dst : List UInt8) (hlen : 4 ≤ m.len) :
    Logged.ForAll (fun e : Io => e.IsAccess ∧ e.Within m.len)
      (readLoop Io.region Stop.hang (m.len - 4) 4 fuel 0 dst sock) := by
  refine readLoop_touch fun o ho => ⟨trivial, ?_⟩
  show 4 + o + (m.len - 4 - o) ≤ m.len
  omega

/-- The type word is where the handlers look for it. -/
theorem netWord_type (hlen : 8 ≤ m.len) (env : VnsEnv) :
    netWord env (be 4 m.len ++ m.body) 4 = m.command := by
  have hbody := m.length_body
  rw [netWord, load_eq_slice (by rw [List.length_append, length_be]; omega), slice,
    List.drop_left' (length_be 4 m.len)]
  rfl

/-- Writing the type back in host byte order. -/
theorem put_type (hlen : 8 ≤ m.len) :
    put (be 4 m.len ++ m.body) 4 (u32Bytes m.command) = m.arrived := by
  have hbody := m.length_body
  have htype : (u32Bytes m.command).length = (m.body.take 4).length := by
    rw [length_u32Bytes, List.length_take]
    omega
  have hput := put_append (a := be 4 m.len) (c := m.body.drop 4) htype
  rwa [List.append_assoc, List.take_append_drop, length_be] at hput

/-- A whole message is read, however it arrives, with accesses inside its buffer. -/
theorem readCommand_message (hlen : 8 ≤ m.len) (harrive : arriving sock = m.bytes ++ rest) :
    ∃ sock', arriving sock' = rest ∧ (NoError sock → NoError sock') ∧
      ∀ fuel ≥ 10000, ∀ env, ∃ log : List Io, (∀ e ∈ log, e.IsAccess ∧ e.Within m.len) ∧
        readCommand fuel env sock = ⟨log, .ok (some (m.command, m.arrived), sock')⟩ := by
  obtain ⟨sock₁, harrive₁, hsock₁, hstart⟩ := readCommand_start harrive
  obtain ⟨sock', hrest, hsock', hloop⟩ := readBody_loop (by omega) harrive₁
  refine ⟨sock', hrest, fun hsock => hsock' (hsock₁ hsock), fun fuel hfuel env => ?_⟩
  obtain ⟨log, hlog, hread⟩ := hstart fuel hfuel env
  have hval := hloop fuel hfuel env
  set loop := readLoop Io.region Stop.hang (m.len - 4) 4 fuel 0
    (put ((List.range m.len).map env.heap) 0 (be 4 m.len)) sock₁ with hdef
  have hbody : readBody fuel env (be 4 m.len) m.len sock₁ =
      ⟨.write 0 4 :: (loop.log ++ [.read 4 4, .write 4 4]),
        .ok (some (m.command, m.arrived), sock')⟩ := by
    rw [readBody, tell_bind, if_neg (by omega)]
    simp only [← hdef]
    rw [bind_of_val hval]
    simp only [tell_bind]
    rw [if_neg (by omega), netWord_type hlen, put_type hlen]
    rfl
  refine ⟨log ++ .write 0 4 :: (loop.log ++ [.read 4 4, .write 4 4]), ?_, ?_⟩
  · intro e he
    simp only [List.mem_append, List.mem_cons, List.not_mem_nil, or_false] at he
    rcases he with he | rfl | he | rfl | rfl
    · exact ⟨(hlog e he).1, (hlog e he).2 m.len⟩
    · exact ⟨trivial, by show 0 + 4 ≤ m.len; omega⟩
    · exact readBody_touch fuel _ (by omega) e he
    · exact ⟨trivial, hlen⟩
    · exact ⟨trivial, hlen⟩
  · rw [hread, hbody]

/-- A message without a type stops the client, however it arrives. -/
theorem readCommand_short (hshort : m.len < 8) (harrive : arriving sock = m.bytes ++ rest)
    {fuel : ℕ} (hfuel : fuel ≥ 10000) (env : VnsEnv) :
    ∃ log : List Io, (∀ e ∈ log, e.IsAccess) ∧ readCommand fuel env sock =
      ⟨log ++ [.short m.len], .error (.fault .outOfBounds)⟩ := by
  obtain ⟨sock₁, harrive₁, -, hstart⟩ := readCommand_start harrive
  obtain ⟨log, hlog, hread⟩ := hstart fuel hfuel env
  by_cases h4 : m.len < 4
  · refine ⟨log ++ [.write 0 4], ?_, ?_⟩
    · intro e he
      rcases List.mem_append.mp he with he | he
      · exact (hlog e he).1
      · obtain rfl := List.mem_singleton.mp he
        trivial
    · rw [hread, readBody, tell_bind, if_pos h4, List.append_assoc]
      rfl
  · obtain ⟨sock', -, -, hloop⟩ := readBody_loop (by omega) harrive₁
    have hval := hloop fuel hfuel env
    refine ⟨log ++ .write 0 4 :: ((readLoop Io.region Stop.hang (m.len - 4) 4 fuel 0
      (put ((List.range m.len).map env.heap) 0 (be 4 m.len)) sock₁).log ++
        [.read 4 4, .write 4 4]), ?_, ?_⟩
    · intro e he
      simp only [List.mem_append, List.mem_cons, List.not_mem_nil, or_false] at he
      rcases he with he | rfl | he | rfl | rfl
      · exact (hlog e he).1
      · trivial
      · exact (readBody_touch fuel _ (by omega) e he).1
      · trivial
      · trivial
    · rw [hread, readBody, tell_bind, if_neg h4]
      simp only
      rw [bind_of_val hval]
      simp only [tell_bind]
      rw [if_pos hshort]
      simp

/-- **One message**: the accesses of reading it, and then it is dispatched. -/
theorem srReadFromServerExpect_eq (hlen : 8 ≤ m.len) (hsock : NoError sock)
    (hbytes : bytes sock = m.bytes ++ rest) :
    ∃ sock', bytes sock' = rest ∧ NoError sock' ∧ ∀ fuel ≥ 10000, ∀ env s expected,
      ∃ log : List Io, (∀ e ∈ log, e.IsAccess ∧ e.Within m.len) ∧
        srReadFromServerExpect fuel env s expected sock = (do
          tells log
          let result ← dispatch env s expected m.command m.arrived
          pure (result, sock')) := by
  rw [← arriving_of_noError hsock] at hbytes
  obtain ⟨sock', hrest, hsock', hmessage⟩ := readCommand_message hlen hbytes
  rw [arriving_of_noError (hsock' hsock)] at hrest
  refine ⟨sock', hrest, hsock' hsock, fun fuel hfuel env s expected => ?_⟩
  obtain ⟨log, hlog, hread⟩ := hmessage fuel hfuel env
  refine ⟨log, hlog, ?_⟩
  rw [srReadFromServerExpect, hread]
  rfl

end one

/-! ### A stream of messages -/

/-- Successive calls of `sr_read_from_server_expect` on a socket: each makes accesses to its own
objects only, dispatches the next message, and leaves the stream behind it; in the end the bytes
`rest` are left. -/
inductive Reassembles (rest : List UInt8) : Socket → List Message → Prop
  | done {sock : Socket} (hrest : bytes sock = rest) : Reassembles rest sock []
  | call {sock sock' : Socket} {m : Message} {ms : List Message}
      (hconsumed : bytes sock = m.bytes ++ bytes sock')
      (hcall : ∀ fuel ≥ 10000, ∀ env s expected,
        ∃ log : List Io, (∀ e ∈ log, e.IsAccess ∧ e.Within m.len) ∧
          srReadFromServerExpect fuel env s expected sock = (do
            tells log
            let result ← dispatch env s expected m.command m.arrived
            pure (result, sock')))
      (hcalls : Reassembles rest sock' ms) : Reassembles rest sock (m :: ms)

/-- **Reassembly does not depend on chunking.** -/
theorem reassembles {msgs : List Message} (hlen : ∀ m ∈ msgs, 8 ≤ m.len) {sock : Socket}
    (hsock : NoError sock) {rest : List UInt8}
    (hbytes : bytes sock = msgs.flatMap Message.bytes ++ rest) : Reassembles rest sock msgs := by
  induction msgs generalizing sock with
  | nil => exact .done hbytes
  | cons m msgs ih =>
      rw [List.flatMap_cons, List.append_assoc] at hbytes
      obtain ⟨sock', hrest, hsock', hcall⟩ :=
        srReadFromServerExpect_eq (hlen m List.mem_cons_self) hsock hbytes
      refine .call (by rw [hbytes, hrest]) hcall ?_
      exact ih (fun m' hm' => hlen m' (List.mem_cons_of_mem m hm')) hsock' hrest

/-- A banner, and a message of a type that does not exist. -/
def twoMessages : List Message :=
  [⟨10, by decide, [0, 0, 0, 8, 65, 0], rfl⟩, ⟨8, by decide, [0, 0, 0, 9], rfl⟩]

/-- Their bytes, cut inside both words of the first message and across the second. -/
def choppy : Socket :=
  [.eintr, .segment [0, 0] (by decide), .eintr, .eintr, .segment [0, 10, 0, 0, 0] (by decide),
    .segment [8, 65] (by decide), .eintr, .segment [0, 0, 0, 0, 8, 0, 0, 0, 9] (by decide)]

/-- The two messages in small pieces. -/
theorem reassembles_choppy : Reassembles [] choppy twoMessages := by
  have hsock : NoError choppy := by simp [NoError, choppy]
  exact reassembles (by decide) hsock (by decide)

end SimpleRouter
