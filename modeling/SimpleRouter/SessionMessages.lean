import SimpleRouter.PacketMessage

/-!
# The messages that open a session

`VNSOPEN`, `VNS_OPEN_TEMPLATE` and `AUTH_REPLY`: the bytes the client writes, and the class of the
server that unpacks them.

* `Carries` — what the bytes of a message are: the length word counts them, the type word is that of
  the class, and the class unpacks the rest to the values sent.
* `Carries.decodes` — the framing library then hands on these values.
-/

namespace SimpleRouter

open Buffer Wire

/-- The bytes are those of the message `m`. -/
structure Carries (message : List UInt8) (m : VnsMessage) : Prop where
  /-- The length word is the number of bytes. -/
  len : message.take 4 = be 4 message.length
  /-- The type word is that of the class. -/
  type : (message.drop 4).take 4 = be 4 m.getType.code.toNat
  /-- The class unpacks the rest. -/
  body : VnsMessage.unpack m.getType (message.drop 8) = some m

/-- The server reads the bytes as the message `m`. -/
structure Decodes (lt : LtProtocol) (message : List UInt8) (m : VnsMessage) : Prop
    extends Carries message m where
  /-- The framing library hands on the message. -/
  received : lt.receive message = some m

/-- A message with both words and a body that is unpacked. -/
theorem Carries.of_body {m : VnsMessage} {body : List UInt8} (len : ℕ)
    (hlen : len = 8 + body.length) (hbody : VnsMessage.unpack m.getType body = some m) :
    Carries (be 4 len ++ be 4 m.getType.code.toNat ++ body) m := by
  obtain ⟨hword, htype, hrest⟩ := take_drop_framed len m.getType.code.toNat body
  refine ⟨?_, htype, hrest.symm ▸ hbody⟩
  rw [hword, hlen]
  simp only [List.length_append, length_be]

/-- What the bytes carry arrives. -/
theorem Carries.decodes {lt : LtProtocol} (hlt : lt.Framed) {message : List UInt8}
    {m : VnsMessage} (h : Carries message m) (hlt32 : message.length < 2 ^ 32) :
    Decodes lt message m where
  toCarries := h
  received := by
    have htype := congrArg List.length h.type
    rw [length_be, List.length_take, List.length_drop] at htype
    have hcount : 8 + (message.drop 8).length = message.length := by
      rw [List.length_drop]
      omega
    have hparts : be 4 message.length ++ be 4 m.getType.code.toNat ++ message.drop 8 = message := by
      rw [← h.len, ← h.type, ← List.drop_drop (i := 4) (j := 4), List.append_assoc,
        List.take_append_drop, List.take_append_drop]
    have hreceive := hlt.receive m.getType (message.drop 8) m (by omega) h.body
    rwa [hcount, hparts] at hreceive

/-! ### The three messages -/

/-- A half word in network byte order has its high byte first. -/
theorem u16Bytes_htons (v : UInt16) : u16Bytes (htons v) = be 2 v.toNat := by
  have hv := v.toNat_lt
  have hswap : (htons v).toNat = v.toNat % 256 * 256 + v.toNat / 256 := by
    rw [htons, UInt16.toNat_ofNat']
    omega
  have hhigh : (v.toNat % 256 * 256 + v.toNat / 256) / 256 = v.toNat % 256 := by
    rw [mul_comm, Nat.mul_add_div (by norm_num), Nat.div_eq_of_lt (by omega), Nat.add_zero]
  simp only [u16Bytes, hswap, hhigh, be, List.cons.injEq, and_true, ← UInt8.toNat_inj,
    UInt8.toNat_ofNat', pow_zero, pow_one, Nat.div_one]
  omega

/-- A C string fits a field that has room for its characters. -/
theorem CStr.fits {n k : ℕ} (s : CStr n) (h : n ≤ k + 1) : FitsField k s.chars :=
  ⟨s.nul_notMem, by have := s.length_lt; omega⟩

/-- `VNSOPEN` carries the topology, the host and the user. -/
theorem openMessage_carries (s : Session) :
    Carries (openMessage s) (.openTopo s.topoId.toNat s.host.chars s.user.chars []) := by
  obtain ⟨body, hpack, hunpack⟩ : ∃ body, (VnsMessage.openTopo (s.topoId.toNat : ℤ) s.host.chars
      s.user.chars []).pack = some body ∧ _ := openTopo_unpack_pack (Int.natCast_nonneg _)
    (by exact_mod_cast s.topoId.toNat_lt) (s.host.fits (by norm_num)) (s.user.fits (by norm_num))
    ⟨List.not_mem_nil, Nat.zero_le _⟩
  have hlen : body.length = 100 := length_pack hpack
  have hbody : u16Bytes (htons s.topoId) ++ [0, 0] ++ pad 32 s.host.chars ++
      pad 32 s.user.chars ++ List.replicate 32 0 = body := by
    have hlt : (s.topoId.toNat : ℤ) < 256 ^ 2 := by exact_mod_cast s.topoId.toNat_lt
    rw [VnsMessage.pack, openFormat, Wire.pack, packField,
      if_pos ⟨Int.natCast_nonneg _, hlt⟩] at hpack
    rw [u16Bytes_htons, ← Option.some.inj hpack]
    simp only [Int.toNat_natCast, List.append_assoc, List.append_nil]
    rfl
  have hcarries := Carries.of_body (m := .openTopo s.topoId.toNat s.host.chars s.user.chars [])
    108 (by rw [hlen]) hunpack
  rw [openMessage, u32Bytes_htonl, u32Bytes_htonl]
  simp only [List.append_assoc] at hbody hcarries ⊢
  rw [hbody]
  exact hcarries

/-- `VNS_OPEN_TEMPLATE` carries the template and the host. -/
theorem openTemplateMessage_carries (s : Session) :
    Carries (openTemplateMessage s) (.mkOpenTemplate s.template.chars s.host.chars []) := by
  have hpack : Wire.pack openTemplateHeaderFormat
      [.str s.template.chars, .str s.host.chars] =
        some (pad 30 s.template.chars ++ pad 32 s.host.chars) := by
    show some (pad 30 s.template.chars ++ (pad 32 s.host.chars ++ [])) = _
    rw [List.append_nil]
  have hlen := length_pack hpack
  have hunpack := Wire.unpack_pack hpack
  have hname := strip_field (s.template.fits (k := 30) (by norm_num))
  have hhost := strip_field (s.host.fits (k := 32) (by norm_num))
  have hbody : unpackOpenTemplate (pad 30 s.template.chars ++ pad 32 s.host.chars) =
      some (.mkOpenTemplate s.template.chars s.host.chars []) := by
    rw [unpackOpenTemplate, ← hlen, List.take_length, List.drop_length, hunpack]
    show some (VnsMessage.mkOpenTemplate (strip (pad 30 s.template.chars))
      (strip (pad 32 s.host.chars)) []) = _
    rw [hname, hhost]
  have hcarries := Carries.of_body (m := .mkOpenTemplate s.template.chars s.host.chars []) 70
    (by rw [hlen]; rfl) hbody
  rw [openTemplateMessage, u32Bytes_htonl, u32Bytes_htonl]
  rw [List.append_assoc (_ ++ _)]
  exact hcarries

/-- The digest as 20 bytes. -/
def digestBytes (digest : Fin 5 → UInt32) : List UInt8 :=
  (List.finRange 5).flatMap fun i => be 4 (digest i).toNat

/-- `AUTH_REPLY` carries the user and the digest. -/
theorem authReplyMessage_carries (user : CStr 32) (digest : Fin 5 → UInt32) :
    Carries (authReplyMessage user digest) (.authReply user.chars (digestBytes digest)) := by
  have hlt := user.length_lt
  obtain ⟨body, hpack, hunpack⟩ : ∃ body,
      (VnsMessage.authReply user.chars (digestBytes digest)).pack = some body ∧ _ :=
    authReply_unpack_pack (by omega)
  have hlen : ∀ n < 2 ^ 32, (UInt32.ofNat n).toNat = n := by
    intro n hn
    rw [UInt32.toNat_ofNat']
    omega
  have hbody : be 4 user.chars.length ++ user.chars ++ digestBytes digest = body := by
    have hnum : (user.chars.length : ℤ) < 256 ^ 4 := by
      have : (user.chars.length : ℤ) < 32 := by exact_mod_cast hlt
      norm_num
      omega
    rw [VnsMessage.pack, Wire.pack, packField, if_pos ⟨Int.natCast_nonneg _, hnum⟩] at hpack
    rw [← Option.some.inj hpack]
    rfl
  have hsize : body.length = 4 + user.chars.length + 20 := by
    rw [← hbody, List.length_append, List.length_append, length_be]
    rfl
  have hcarries := Carries.of_body (m := .authReply user.chars (digestBytes digest))
    (12 + user.chars.length + 20) (by rw [hsize]; omega) hunpack
  simp only [authReplyMessage, u32Bytes_htonl]
  rw [hlen _ (by omega), hlen _ (by omega)]
  rw [← hbody] at hcarries
  simp only [List.append_assoc] at hcarries ⊢
  exact hcarries

section decodes

variable {lt : LtProtocol} (hlt : lt.Framed) (s : Session)
include hlt

/-- The server reads `VNSOPEN`. -/
theorem openMessage_decodes :
    Decodes lt (openMessage s) (.openTopo s.topoId.toNat s.host.chars s.user.chars []) := by
  refine (openMessage_carries s).decodes hlt ?_
  simp [openMessage, length_u32Bytes, length_u16Bytes, length_pad]

/-- The server reads `VNS_OPEN_TEMPLATE`. -/
theorem openTemplateMessage_decodes :
    Decodes lt (openTemplateMessage s) (.mkOpenTemplate s.template.chars s.host.chars []) := by
  refine (openTemplateMessage_carries s).decodes hlt ?_
  simp [openTemplateMessage, length_u32Bytes, length_pad]

/-- The server reads `AUTH_REPLY`. -/
theorem authReplyMessage_decodes (digest : Fin 5 → UInt32) :
    Decodes lt (authReplyMessage s.user digest)
      (.authReply s.user.chars (digestBytes digest)) := by
  refine (authReplyMessage_carries s.user digest).decodes hlt ?_
  have huser := s.user.length_lt
  simp [authReplyMessage, length_u32Bytes]
  omega

end decodes

end SimpleRouter
