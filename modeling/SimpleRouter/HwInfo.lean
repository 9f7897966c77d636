import SimpleRouter.MessageBounds
import SimpleRouter.VnsRoundTrip

/-!
# Hardware information from the server to the client

The server sends six entries of 36 bytes for each interface, a key and 32 bytes of value; the
client walks through the entries, and an address belongs to the interface last added. `record` is
one entry, `hwRecords` the six of an interface. While the loop is in front of the records of the
interfaces `rest`, the list is what it was, followed by the interfaces decoded so far
(`hwinfoLoop_val`).

`hwinfo_decodes` — **the client ends up with the interfaces the server announced**, in order.
-/

namespace SimpleRouter

open Buffer Logged Wire

/-! ### Messages of the framing library -/

/-- What the framing library sends is a message, if `length()` is right and the limit is kept. -/
theorem exists_message {lt : LtProtocol} (hlt : lt.Framed) {m : VnsMessage} {body : List UInt8}
    (hpack : m.pack = some body) (hne : m.getType ≠ .openTemplate ∧ m.getType ≠ .authReply)
    (hle : body.length ≤ 9992) :
    ∃ msg : Message, lt.frame m = some msg.bytes ∧ msg.len = 8 + body.length ∧
      msg.command = m.getType.code ∧ msg.payload = body := by
  have hlen := length_of_pack hpack hne
  refine ⟨⟨8 + body.length, by omega, be 4 m.getType.code.toNat ++ body, ?_⟩, ?_, rfl, ?_, ?_⟩
  · rw [List.length_append, length_be]
    omega
  · rw [hlt.frame m body hpack (by omega), hlen]
    simp only [Message.bytes, List.append_assoc]
  · rw [Message.command, List.take_left' (length_be 4 _), htonl_u32_be]
  · exact List.drop_left' (length_be 4 _)

/-! ### Entries -/

/-- An entry. -/
def record (key : ℕ) (value : List UInt8) : List UInt8 := be 4 key ++ value

/-- The entries of an interface. -/
def hwRecords (intf : VnsInterface) : List UInt8 :=
  record 1 (pad 32 intf.name) ++ (record 2 (be 4 0 ++ pad 28 []) ++
    (record 32 (pad 32 intf.mac) ++ (record 64 (pad 4 intf.ip ++ pad 28 []) ++
      (record 4 (be 4 0 ++ pad 28 []) ++ record 128 (pad 4 intf.mask ++ pad 28 [])))))

/-- An interface is packed as its six records. -/
theorem pack_interface (intf : VnsInterface) : intf.pack = some (hwRecords intf) := by
  simp only [VnsInterface.pack, interfaceFormat, Wire.pack, packField, hwRecords, record]
  norm_num
  rfl

/-- Six records of 36 bytes. -/
theorem length_hwRecords (intf : VnsInterface) : (hwRecords intf).length = 216 :=
  length_pack (pack_interface intf)

/-- The message body is the entries of all interfaces. -/
theorem pack_hwinfo (interfaces : List VnsInterface) :
    (VnsMessage.hwinfo interfaces).pack = some (interfaces.flatMap hwRecords) := by
  have hmap : interfaces.mapM VnsInterface.pack = some (interfaces.map hwRecords) := by
    rw [mapM_eq_some_iff, List.forall₂_map_right_iff, List.forall₂_same]
    exact fun intf _ => pack_interface intf
  rw [VnsMessage.pack, hmap, List.flatMap]
  rfl

/-! ### The decoder -/

section decoder

variable {env : VnsEnv} {buf value tail : List UInt8} {i key : ℕ} {ifs : List SrIf}

/-- The key of an entry. -/
theorem netWord_record (h : buf.drop (8 + 36 * i) = record key value ++ tail)
    (hkey : key < 2 ^ 32) : (netWord env buf (8 + 36 * i)).toNat = key := by
  have hkey' : (UInt32.ofNat key).toNat = key := by
    rw [UInt32.toNat_ofNat']
    omega
  rw [record, List.append_assoc] at h
  rw [netWord, load_of_drop h (length_be 4 key)]
  nth_rewrite 1 [← hkey']
  rw [htonl_u32_be, hkey']

/-- The start of the value of an entry. -/
theorem load_value {n : ℕ} (h : buf.drop (8 + 36 * i) = record key value ++ tail)
    (hn : n ≤ value.length) : load buf env.heap (8 + 36 * i + 4) n = value.take n := by
  have hdrop : buf.drop (8 + 36 * i + 4) = value.take n ++ (value.drop n ++ tail) := by
    rw [← List.drop_drop, h, record, List.append_assoc, List.drop_left' (length_be 4 key),
      ← List.append_assoc, List.take_append_drop]
  exact load_of_drop hdrop (by rw [List.length_take]; omega)

/-- The next entry. -/
theorem drop_record (h : buf.drop (8 + 36 * i) = record key value ++ tail)
    (hlen : value.length = 32) : buf.drop (8 + 36 * (i + 1)) = tail := by
  have hrecord : (record key value).length = 36 := by
    rw [record, List.length_append, length_be, hlen]
  rw [show 8 + 36 * (i + 1) = 8 + 36 * i + 36 by ring, ← List.drop_drop, h,
    List.drop_left' hrecord]

/-- An interface is added. -/
theorem hwinfoEntry_name (h : buf.drop (8 + 36 * i) = record 1 value ++ tail)
    (hlen : value.length = 32) : (hwinfoEntry env buf i ifs).val =
      .ok (ifs ++ [⟨.ofChars value, (env.fresh i).1, (env.fresh i).2⟩]) := by
  have hload : load buf env.heap (8 + 36 * i + 4) 32 = value := by
    rw [load_value h hlen.ge, List.take_of_length_le hlen.le]
  rw [hwinfoEntry, tell_bind, netWord_record h (by norm_num), hload]
  rfl

/-- The last interface gets its hardware address. -/
theorem hwinfoEntry_addr {iface : SrIf} {addr : EtherAddr}
    (h : buf.drop (8 + 36 * i) = record 32 value ++ tail) (hlen : value.length = 32)
    (haddr : value.take 6 = addr.bytes) : (hwinfoEntry env buf i (ifs ++ [iface])).val =
      .ok (ifs ++ [{ iface with addr := addr }]) := by
  have hload : EtherAddr.load buf env.heap (8 + 36 * i + 4) = addr :=
    EtherAddr.ext ((load_value h (by omega)).trans haddr)
  have hne : ifs ++ [iface] ≠ [] := List.append_ne_nil_of_right_ne_nil _ (List.cons_ne_nil _ _)
  rw [hwinfoEntry, tell_bind, netWord_record h (by norm_num), hload]
  simp only [if_neg hne, List.modifyLast_concat]
  rfl

/-- The last interface gets its address. -/
theorem hwinfoEntry_ip {iface : SrIf} {ip : List UInt8}
    (h : buf.drop (8 + 36 * i) = record 64 value ++ tail) (hlen : value.length = 32)
    (hip : value.take 4 = ip) : (hwinfoEntry env buf i (ifs ++ [iface])).val =
      .ok (ifs ++ [{ iface with ip := u32 ip }]) := by
  have hload : load buf env.heap (8 + 36 * i + 4) 4 = ip := by
    rw [load_value h (by omega), hip]
  have hne : ifs ++ [iface] ≠ [] := List.append_ne_nil_of_right_ne_nil _ (List.cons_ne_nil _ _)
  rw [hwinfoEntry, tell_bind, netWord_record h (by norm_num), hload]
  simp only [if_neg hne, List.modifyLast_concat]
  rfl

/-- The other entries change nothing. -/
theorem hwinfoEntry_other (h : buf.drop (8 + 36 * i) = record key value ++ tail)
    (hkey : key ∈ [2, 4, 128]) : (hwinfoEntry env buf i ifs).val = .ok ifs := by
  have hword : (netWord env buf (8 + 36 * i)).toNat = key := by
    refine netWord_record h ?_
    rcases List.mem_cons.mp hkey with rfl | hkey
    · norm_num
    · rcases List.mem_cons.mp hkey with rfl | hkey
      · norm_num
      · rw [List.mem_singleton.mp hkey]
        norm_num
  rw [hwinfoEntry, tell_bind, hword]
  simp only [List.mem_cons, List.not_mem_nil, or_false] at hkey
  rcases hkey with rfl | rfl | rfl <;> rfl

/-- The loop, one entry on. -/
theorem hwinfoLoop_succ {k : ℕ} {ifs' : List SrIf}
    (h : (hwinfoEntry env buf i ifs).val = .ok ifs') :
    (hwinfoLoop env buf i (k + 1) ifs).val = (hwinfoLoop env buf (i + 1) k ifs').val := by
  rw [hwinfoLoop, val_bind, h]
  rfl

/-- What the client makes of an interface. -/
def VnsInterface.decoded (intf : VnsInterface) : SrIf where
  name := .ofChars (pad 32 intf.name)
  addr := ⟨intf.mac, intf.length_mac⟩
  ip := u32 intf.ip

/-- The six entries of an interface. -/
theorem hwinfoLoop_interface {k : ℕ} (intf : VnsInterface)
    (h : buf.drop (8 + 36 * i) = hwRecords intf ++ tail) :
    (hwinfoLoop env buf i (k + 6) ifs).val =
        (hwinfoLoop env buf (i + 6) k (ifs ++ [intf.decoded])).val ∧
      buf.drop (8 + 36 * (i + 6)) = tail := by
  simp only [hwRecords, List.append_assoc] at h
  have hpad : (pad 4 intf.ip ++ pad 28 []).take 4 = intf.ip := by
    rw [List.take_left' (length_pad 4 _), pad_of_le intf.length_ip.le, intf.length_ip]
    simp
  have hmac : (pad 32 intf.mac).take 6 = intf.decoded.addr.bytes := by
    show _ = intf.mac
    rw [pad_of_le (by rw [intf.length_mac]; norm_num), List.take_left' intf.length_mac]
  have hzero : (be 4 0 ++ pad 28 []).length = 32 := by
    rw [List.length_append, length_be, length_pad]
  have hlen : ∀ s, (pad 4 s ++ pad 28 []).length = 32 := by
    intro s
    rw [List.length_append, length_pad, length_pad]
  have h₁ := drop_record h (length_pad 32 _)
  have h₂ := drop_record h₁ hzero
  have h₃ := drop_record h₂ (length_pad 32 _)
  have h₄ := drop_record h₃ (hlen _)
  have h₅ := drop_record h₄ hzero
  refine ⟨?_, drop_record h₅ (hlen _)⟩
  rw [hwinfoLoop_succ (hwinfoEntry_name h (length_pad 32 _)),
    hwinfoLoop_succ (hwinfoEntry_other h₁ (by decide)),
    hwinfoLoop_succ (hwinfoEntry_addr h₂ (length_pad 32 _) hmac),
    hwinfoLoop_succ (hwinfoEntry_ip h₃ (hlen _) hpad),
    hwinfoLoop_succ (hwinfoEntry_other h₄ (by decide)),
    hwinfoLoop_succ (hwinfoEntry_other h₅ (by decide))]
  rfl

/-- **The loop over the entries** appends the interfaces whose records are in front of it. -/
theorem hwinfoLoop_val (rest : List VnsInterface)
    (h : buf.drop (8 + 36 * i) = rest.flatMap hwRecords) :
    (hwinfoLoop env buf i (6 * rest.length) ifs).val =
      .ok (ifs ++ rest.map VnsInterface.decoded) := by
  induction rest generalizing i ifs with
  | nil =>
      rw [List.map_nil, List.append_nil]
      rfl
  | cons intf rest ih =>
      obtain ⟨hsix, hnext⟩ : (hwinfoLoop env buf i (6 * rest.length + 6) ifs).val = _ ∧ _ :=
        hwinfoLoop_interface intf h
      rw [List.length_cons, Nat.mul_succ, hsix, ih hnext, List.map_cons, List.append_assoc]
      rfl

end decoder

/-! ### Encoder and decoder -/

/-- The client's interface is the one the server announced. -/
structure Announced (intf : VnsInterface) (iface : SrIf) : Prop where
  /-- The name is the same. -/
  name : iface.name.chars = intf.name
  /-- The hardware address is the same. -/
  addr : iface.addr.bytes = intf.mac
  /-- The address is the same, in network byte order. -/
  ip : u32Bytes iface.ip = intf.ip

/-- A name comes back from its field, whatever follows. -/
theorem chars_ofChars_pad {n : ℕ} {name : List UInt8} (hnul : 0 ∉ name) (hlen : name.length < n)
    (hle : name.length ≤ 32) (t : List UInt8) :
    (IfaceName.ofChars (pad n name ++ t)).chars = name := by
  show ((pad n name ++ t).takeWhile (· ≠ 0)).take 32 = name
  rw [pad_of_lt hlen, List.append_assoc, List.cons_append, takeWhile_append_nul hnul,
    List.take_of_length_le hle]

/-- What is decoded is the interface announced, if its name fits. -/
theorem announced_decoded {intf : VnsInterface} (hnul : 0 ∉ intf.name)
    (hlen : intf.name.length ≤ 31) : Announced intf intf.decoded where
  name := by
    have h := chars_ofChars_pad (n := 32) hnul (by omega) (by omega) []
    rwa [List.append_nil] at h
  addr := rfl
  ip := u32Bytes_u32 intf.length_ip

/-- **Hardware information arrives.** -/
theorem hwinfo_decodes {lt : LtProtocol} (hlt : lt.Framed) {interfaces : List VnsInterface}
    (hcount : interfaces.length ≤ 42)
    (hname : ∀ intf ∈ interfaces, 0 ∉ intf.name ∧ intf.name.length ≤ 31) :
    ∃ msg : Message, lt.frame (.hwinfo interfaces) = some msg.bytes ∧
      msg.command = VnsCommand.hwinfo.code ∧ 8 ≤ msg.len ∧
      ∀ env sr, sr.ifList = [] → ∃ ifs,
        (srHandleHwinfo env sr msg.arrived).val =
          .ok (6 * interfaces.length, { sr with ifList := ifs }) ∧
        List.Forall₂ Announced interfaces ifs := by
  have hbody : (interfaces.flatMap hwRecords).length = 216 * interfaces.length := by
    rw [List.length_flatMap, List.map_congr_left fun intf _ => length_hwRecords intf,
      List.map_const', List.sum_replicate, smul_eq_mul, mul_comm]
  obtain ⟨msg, hframe, hlen, hcommand, hpayload⟩ :=
    exists_message hlt (pack_hwinfo interfaces) ⟨nofun, nofun⟩ (by omega)
  refine ⟨msg, hframe, hcommand, by omega, fun env sr hnil => ?_⟩
  refine ⟨interfaces.map VnsInterface.decoded, ?_, ?_⟩
  · have hn : numEntries (netWord env msg.arrived 0) = (6 * interfaces.length : ℕ) := by
      rw [msg.netWord_len, numEntries_ofNat (by omega) msg.len_le]
      congr 1
      omega
    have hdrop : msg.arrived.drop (8 + 36 * 0) = interfaces.flatMap hwRecords :=
      msg.drop_arrived.trans hpayload
    have hloop : (hwinfoLoop env msg.arrived 0 (6 * interfaces.length) sr.ifList).val = _ :=
      hwinfoLoop_val interfaces hdrop
    rw [srHandleHwinfo, tell_bind]
    simp only [hn, Int.toNat_natCast, tell_bind, val_bind, hloop]
    rw [hnil, List.nil_append]
    push_cast
    rfl
  · rw [List.forall₂_map_right_iff, List.forall₂_same]
    exact fun intf hintf => announced_decoded (hname intf hintf).1 (hname intf hintf).2

/-- The interfaces of a router with two of them. -/
def twoInterfaces : List VnsInterface :=
  [⟨[101, 116, 104, 49], [2, 0, 0, 0, 0, 1], [10, 0, 1, 1], [255, 255, 255, 0], rfl, rfl, rfl⟩,
    ⟨[101, 116, 104, 50], [2, 0, 0, 0, 0, 2], [10, 0, 2, 1], [255, 255, 255, 0], rfl, rfl, rfl⟩]

/-- Two interfaces. -/
theorem hwinfo_decodes_two :
    ∃ msg : Message, LtProtocol.plain.frame (.hwinfo twoInterfaces) = some msg.bytes ∧
      msg.command = VnsCommand.hwinfo.code ∧ 8 ≤ msg.len ∧
      ∀ env sr, sr.ifList = [] → ∃ ifs,
        (srHandleHwinfo env sr msg.arrived).val = .ok (12, { sr with ifList := ifs }) ∧
        List.Forall₂ Announced twoInterfaces ifs :=
  hwinfo_decodes LtProtocol.plain_framed (by decide) (by decide)

end SimpleRouter
