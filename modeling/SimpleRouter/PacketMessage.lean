import SimpleRouter.HwInfo

/-!
# Packets between server and client

A frame and the name of an interface go to the client in a `VNSPacket` of the server's class, and
come back in the message `sr_send_packet` writes. The two sides compute the length of the frame
from the length of the message in different ways, and the name is a field of 16 bytes for the one
and a string compared over 32 bytes for the other.

`packet_survives` — **frame and name arrive unchanged** in both directions, except that the client
drops ARP requests for other addresses (`ForOther`).
-/

namespace SimpleRouter

open Buffer Stream Logged Wire

/-- A call of `sr_handlepacket`. -/
def Io.handled : Io → Option (List UInt8 × IfaceName)
  | .handlepacket packet interface => some (packet, interface)
  | _ => none

/-- The frame is an ARP request, and whole, for another address than the interface's. -/
def ForOther (frame : List UInt8) (iface : SrIf) : Prop :=
  42 ≤ frame.length ∧ u16 (slice frame 12 2) = htons 0x0806 ∧
    u16 (slice frame 20 2) = htons 1 ∧ u32 (slice frame 38 4) ≠ iface.ip

instance (frame : List UInt8) (iface : SrIf) : Decidable (ForOther frame iface) :=
  inferInstanceAs (Decidable (_ ∧ _ ∧ _ ∧ _))

/-- A name is determined by its characters. -/
theorem IfaceName.eq_of_chars {a b : IfaceName} (h : a.chars = b.chars) : a = b := by
  cases a
  cases b
  cases h
  rfl

/-- The body of a packet message: the name in its field, and the frame. -/
theorem pack_packet (intfName ethernetFrame : List UInt8) :
    (VnsMessage.packet intfName ethernetFrame).pack = some (pad 16 intfName ++ ethernetFrame) := by
  show some (pad 16 intfName ++ [] ++ ethernetFrame) = _
  rw [List.append_nil]

/-- A packet message that keeps the limit. -/
theorem exists_packet_message {lt : LtProtocol} (hlt : lt.Framed) (intfName : List UInt8)
    {ethernetFrame : List UInt8} (hle : ethernetFrame.length ≤ 9976) :
    ∃ msg : Message, lt.frame (.packet intfName ethernetFrame) = some msg.bytes ∧
      msg.len = 24 + ethernetFrame.length ∧ msg.command = VnsCommand.packet.code ∧
      msg.payload = pad 16 intfName ++ ethernetFrame := by
  have hbody : (pad 16 intfName ++ ethernetFrame).length = 16 + ethernetFrame.length := by
    rw [List.length_append, length_pad]
  have hclass : (VnsMessage.packet intfName ethernetFrame).getType = .packet := rfl
  obtain ⟨msg, hframe, hlen, hcommand, hpayload⟩ :=
    exists_message hlt (pack_packet intfName ethernetFrame) (by rw [hclass]; decide) (by omega)
  exact ⟨msg, hframe, by omega, hcommand, hpayload⟩

section receive

variable {m : Message} {env : VnsEnv} {name : IfaceName} {frame : List UInt8} {iface : SrIf}

/-- The name at the head of the payload. -/
theorem ofChars_arrived (hpay : m.payload = pad 16 name.chars ++ frame)
    (hlen : name.chars.length ≤ 15) :
    IfaceName.ofChars (load m.arrived env.heap 8 32) = name := by
  have hfield : load m.arrived env.heap 8 16 = pad 16 name.chars :=
    load_of_drop (m.drop_arrived.trans hpay) (length_pad 16 _)
  apply IfaceName.eq_of_chars
  rw [show (32 : ℕ) = 16 + 16 from rfl, load_add, hfield]
  exact chars_ofChars_pad name.nul_notMem (by omega) (by omega) _

/-- The frame at offset 24. -/
theorem load_frame (hpay : m.payload = pad 16 name.chars ++ frame) {o n : ℕ}
    (h : o + n ≤ frame.length) : load m.arrived env.heap (24 + o) n = slice frame o n := by
  have hdrop : m.arrived.drop (24 + o) = slice frame o n ++ frame.drop (o + n) := by
    rw [show 24 + o = 8 + (16 + o) by ring, ← List.drop_drop, m.drop_arrived, hpay,
      ← List.drop_drop, List.drop_left' (length_pad 16 _), slice, ← List.drop_drop,
      List.take_append_drop]
  refine load_of_drop hdrop ?_
  rw [length_slice]
  omega

/-- What `sr_arp_req_not_for_us` returns. -/
theorem srArpReqNotForUs_val {sr : SrInstance} (hpay : m.payload = pad 16 name.chars ++ frame)
    {mem : List UInt8} (hmem : IfaceName.ofChars mem = name)
    (hiface : srGetInterface sr name = some iface) :
    (srArpReqNotForUs env sr m.arrived frame.length mem).val =
      .ok (decide (ForOther frame iface)) := by
  rw [srArpReqNotForUs, tells_bind, hmem, hiface]
  by_cases hshort : frame.length < 42
  · have hno : ¬ ForOther frame iface := fun h => absurd h.1 (by omega)
    rw [if_pos hshort, decide_eq_false hno]
    rfl
  · have htype : load m.arrived env.heap 36 2 = slice frame 12 2 :=
      load_frame (o := 12) hpay (by omega)
    have hop : load m.arrived env.heap 44 2 = slice frame 20 2 :=
      load_frame (o := 20) hpay (by omega)
    have htip : load m.arrived env.heap 62 4 = slice frame 38 4 :=
      load_frame (o := 38) hpay (by omega)
    simp only [if_neg hshort, tell_bind, htype, hop, htip]
    by_cases h₁ : u16 (slice frame 12 2) = htons 0x0806
    · by_cases h₂ : u16 (slice frame 20 2) = htons 1
      · rw [if_neg (not_not.mpr h₁), if_neg (not_not.mpr h₂)]
        show Except.ok (decide (u32 (slice frame 38 4) ≠ iface.ip)) = _
        congr 1
        refine decide_eq_decide.mpr ⟨fun h => ⟨by omega, h₁, h₂, h⟩, fun h => h.2.2.2⟩
      · have hno : ¬ ForOther frame iface := fun h => h₂ h.2.2.1
        rw [if_neg (not_not.mpr h₁), if_pos h₂, decide_eq_false hno]
        rfl
    · have hno : ¬ ForOther frame iface := fun h => h₁ h.2.1
      rw [if_pos h₁, decide_eq_false hno]
      rfl

/-- A part of the log without calls of `sr_handlepacket`. -/
theorem handled_eq_nil {l : List Io} (h : ∀ e ∈ l, e.IsAccess) : l.filterMap Io.handled = [] := by
  refine List.filterMap_eq_nil_iff.mpr fun e he => ?_
  have := h e he
  cases e with
  | handlepacket packet interface => exact this.elim
  | _ => rfl

/-- Looking up a name makes accesses only. -/
theorem nameReads_isAccess (mem : List UInt8) (ifs : List SrIf) :
    ∀ e ∈ nameReads mem ifs, e.IsAccess := by
  induction ifs with
  | nil => rintro _ ⟨⟩
  | cons iface ifs ih =>
      rintro e he
      rcases List.mem_cons.mp he with rfl | he
      · trivial
      · split_ifs at he
        · cases he
        · exact ih e he

/-- So does the check for ARP requests. -/
theorem srArpReqNotForUs_isAccess {sr : SrInstance} {buf mem : List UInt8} {len : ℕ} :
    ForAll Io.IsAccess (srArpReqNotForUs env sr buf len mem) := by
  refine forAll_bind.mpr ⟨(forAll_tells _).mpr (nameReads_isAccess mem sr.ifList), fun _ _ => ?_⟩
  by_cases hshort : len < 42
  · rw [if_pos hshort]
    exact forAll_pure _
  rw [if_neg hshort]
  cases srGetInterface sr (IfaceName.ofChars mem) with
  | none => exact forAll_stop _
  | some iface =>
      refine forAll_tell_bind.mpr ⟨trivial, ?_⟩
      by_cases htype : u16 (load buf env.heap 36 2) ≠ htons 0x0806
      · rw [if_pos htype]
        exact forAll_pure _
      rw [if_neg htype]
      refine forAll_tell_bind.mpr ⟨trivial, ?_⟩
      by_cases hop : u16 (load buf env.heap 44 2) ≠ htons 1
      · rw [if_pos hop]
        exact forAll_pure _
      rw [if_neg hop]
      exact forAll_tell_bind.mpr ⟨trivial, forAll_pure _⟩

/-- So does the dump of a frame. -/
theorem srLogPacket_isAccess (logfile : Bool) (len : UInt32) :
    ∀ e ∈ srLogPacket logfile len, e.IsAccess := by
  unfold srLogPacket
  split_ifs
  · rintro e he
    rcases List.mem_cons.mp he with rfl | he
    · trivial
    · obtain rfl := List.mem_singleton.mp he
      trivial
  · rintro e he
    obtain rfl := List.mem_singleton.mp he
    trivial

/-- The case `VNSPACKET` hands the frame on, unless it is for another router. -/
theorem handleVnspacket_handled {s : Session} (hpay : m.payload = pad 16 name.chars ++ frame)
    (hlen : m.len = 24 + frame.length) (hname : name.chars.length ≤ 15)
    (hiface : srGetInterface s.sr name = some iface) :
    (handleVnspacket env s m.arrived).log.filterMap Io.handled =
      if ForOther frame iface then [] else [(frame, name)] := by
  have hle := m.len_le
  have harr := m.length_arrived (by omega)
  have hn : (UInt32.ofNat m.len - 38 + 14).toNat = frame.length := by
    have h24 : (24 : UInt32).toNat = 24 := rfl
    rw [len_sub_add, toNat_len_sub hle, h24, if_pos (by omega)]
    omega
  have hmem : IfaceName.ofChars (load m.arrived env.heap 8 32) = name := ofChars_arrived hpay hname
  have hframe : load m.arrived env.heap 24 frame.length = frame := by
    have h : load m.arrived env.heap (24 + 0) frame.length = _ :=
      load_frame hpay (Nat.zero_add frame.length).le
    rwa [Nat.add_zero, slice, List.drop_zero, List.take_length] at h
  have hdrop : (srArpReqNotForUs env s.sr m.arrived frame.length
      (load m.arrived env.heap 8 32)).val = _ := srArpReqNotForUs_val hpay hmem hiface
  have hquiet : (srArpReqNotForUs env s.sr m.arrived frame.length
      (load m.arrived env.heap 8 32)).log.filterMap Io.handled = [] :=
    handled_eq_nil srArpReqNotForUs_isAccess
  rw [handleVnspacket, tell_bind]
  simp only [harr, hn, bind_of_val hdrop, hmem, hframe]
  rw [List.filterMap_cons_none rfl, List.filterMap_append, hquiet, List.nil_append]
  have hcall : Io.handled (.handlepacket frame name) = some (frame, name) := rfl
  by_cases hother : ForOther frame iface
  · rw [if_pos hother, if_pos (decide_eq_true hother)]
    rfl
  · rw [if_neg hother, if_neg (by simpa using hother)]
    simp only [tell_bind, tells_bind]
    rw [List.filterMap_cons_none rfl, List.filterMap_append,
      handled_eq_nil (srLogPacket_isAccess _ _), List.nil_append,
      List.filterMap_cons_some hcall]
    congr 1
    split
    · rw [List.filterMap_append, List.append_eq_nil_iff]
      refine ⟨List.filterMap_eq_nil_iff.mpr fun e he => ?_, rfl⟩
      obtain ⟨o, -, rfl⟩ := List.mem_map.mp he
      rfl
    · rfl

end receive

/-! ### Both directions -/

/-- What `sr_send_packet` writes is a packet message of the server. -/
theorem srSendPacket_eq {sr : SrInstance} {name : IfaceName} {frame : List UInt8} {iface : SrIf}
    (hlo : 14 ≤ frame.length) (hhi : frame.length ≤ 9976)
    (hiface : srGetInterface sr name = some iface) (hsrc : etherShost frame = iface.addr.bytes) :
    srSendPacket sr frame name = some (be 4 (24 + frame.length) ++
      be 4 VnsCommand.packet.code.toNat ++ (pad 16 name.chars ++ frame)) := by
  have hmatch : srEtherAddrsMatchInterface sr frame name = true := by
    rw [srEtherAddrsMatchInterface, hiface]
    exact decide_eq_true hsrc
  have hlen : (UInt32.ofNat (frame.length + 24)).toNat = 24 + frame.length := by
    rw [UInt32.toNat_ofNat']
    omega
  rw [srSendPacket, if_neg (by omega), if_pos hmatch, u32Bytes_htonl, u32Bytes_htonl, hlen,
    List.append_assoc]

/-- Frame and name survive both directions; `found` is the interface of that name. -/
structure Survives (lt : LtProtocol) (s : Session) (name : IfaceName) (frame : List UInt8)
    (found : SrIf) : Prop where
  /-- Sent by the server, however it arrives, the client hands on that frame, of that length, with
  that name, unless it is for another router. -/
  arrives : ∃ msg : Message, lt.frame (.packet name.chars frame) = some msg.bytes ∧
    ∀ sock rest, NoError sock → bytes sock = msg.bytes ++ rest → ∀ fuel ≥ 10000, ∀ env,
      (srReadFromServerExpect fuel env s none sock).log.filterMap Io.handled =
        if ForOther frame found then [] else [(frame, name)]
  /-- Sent by the client, the server unpacks that name and that frame. -/
  returns : etherShost frame = found.addr.bytes → ∃ body : List UInt8,
    srSendPacket s.sr frame name =
      some (be 4 (8 + body.length) ++ be 4 VnsCommand.packet.code.toNat ++ body) ∧
    VnsMessage.unpack .packet body = some (.packet name.chars frame)

/-- **Packet messages survive.** -/
theorem packet_survives {lt : LtProtocol} (hlt : lt.Framed) {s : Session} {iface : SrIf}
    (hmem : iface ∈ s.sr.ifList) (hname : iface.name.chars.length ≤ 15) {frame : List UInt8}
    (hlo : 14 ≤ frame.length) (hhi : frame.length ≤ 9976) :
    ∃ found, srGetInterface s.sr iface.name = some found ∧
      Survives lt s iface.name frame found := by
  obtain ⟨found, hfound⟩ : ∃ found, srGetInterface s.sr iface.name = some found :=
    Option.isSome_iff_exists.mp (List.find?_isSome.mpr ⟨iface, hmem, decide_eq_true rfl⟩)
  have hbody : (pad 16 iface.name.chars ++ frame).length = 16 + frame.length := by
    rw [List.length_append, length_pad]
  refine ⟨found, hfound, ?_, fun hsrc => ?_⟩
  · obtain ⟨msg, hframe, hlen, hcommand, hpayload⟩ :=
      exists_packet_message hlt iface.name.chars hhi
    refine ⟨msg, hframe, fun sock rest hsock hbytes fuel hfuel env => ?_⟩
    obtain ⟨sock', -, -, hcall⟩ := srReadFromServerExpect_eq (by omega) hsock hbytes
    obtain ⟨log, hlog, hread⟩ := hcall fuel hfuel env s none
    have hcase : VnsCommand.handled msg.command = some .packet := by
      rw [hcommand]
      rfl
    have hdispatch : (dispatch env s none msg.command msg.arrived).log.filterMap Io.handled =
        if ForOther frame found then [] else [(frame, iface.name)] := by
      rw [dispatch, tell_bind, if_neg not_unexpected_none, handleCommand, hcase,
        List.filterMap_cons_none rfl]
      exact handleVnspacket_handled hpayload (by omega) hname hfound
    rw [hread, tells_bind, List.filterMap_append,
      handled_eq_nil fun e he => (hlog e he).1, List.nil_append, log_bind_pure]
    exact hdispatch
  · refine ⟨pad 16 iface.name.chars ++ frame, ?_, ?_⟩
    · rw [srSendPacket_eq hlo hhi hfound hsrc, hbody]
      congr 4
      omega
    · obtain ⟨body, hpack, hunpack⟩ : ∃ body,
          (VnsMessage.packet iface.name.chars frame).pack = some body ∧ _ :=
        packet_unpack_pack ⟨iface.name.nul_notMem, by omega⟩
      rw [pack_packet] at hpack
      rw [Option.some.inj hpack]
      exact hunpack

/-- A hardware address. -/
theorem length_eth1Addr : ([2, 0, 0, 0, 0, 1] : List UInt8).length = 6 := rfl

/-- An interface. -/
def eth1 : SrIf :=
  ⟨⟨[101, 116, 104, 49], by decide, by decide⟩, ⟨[2, 0, 0, 0, 0, 1], length_eth1Addr⟩, 0⟩

/-- A frame to `eth1`. -/
theorem packet_survives_eth1 :
    ∃ found, srGetInterface (srInit [eth1] []) eth1.name = some found ∧
      Survives LtProtocol.plain { bareSession with sr := srInit [eth1] [] } eth1.name
        [2, 0, 0, 0, 0, 9, 2, 0, 0, 0, 0, 1, 8, 0] found :=
  packet_survives LtProtocol.plain_framed (s := { bareSession with sr := srInit [eth1] [] })
    List.mem_cons_self (by decide) (by decide) (by decide)

end SimpleRouter
