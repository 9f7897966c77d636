import Mathlib.Data.List.ModifyLast
import SimpleRouter.Router
import SimpleRouter.Lib.Stream
import SimpleRouter.Lib.Wire

/-!
# The client's side of the VNS protocol (`sr_vns_comm.c`, `vnscommand.h`, `sr_if.c`, `sr_main.c`)

A message is a length word, a type word and a body; the length counts all of it and both words are
in network byte order. `sr_read_from_server_expect` reads one into a buffer of its length and
handles it by its type.

The functions are `Logged`: the log has every access to the buffer and every length computed from
the message's, and what the client does to the world. An access past the end of the buffer is
logged like any other. A read there gives what memory holds, `VnsEnv.heap`; a write there has no
meaning left and stops with a `Fault`.

The offsets of the fields in a buffer, as the packed structures of `vnscommand.h` lay them out:

| message                | fields                                                              |
|------------------------|---------------------------------------------------------------------|
| every message          | `mLen` 0, `mType` 4                                                 |
| `c_packet_header`      | `mInterfaceName` 8 (16 bytes), the frame 24                         |
| `c_close`, `c_banner`  | the text 8 (256 bytes)                                              |
| `c_hwinfo`             | entries of 36 bytes from 8 on: `mKey` 0, `value` 4 (32 bytes)       |
| `c_rtable`             | `mVirtualHostID` 8 (32 bytes), `rtable` 40                          |
| `c_auth_request`       | `salt` 8                                                            |
| `c_auth_status`        | `auth_ok` 8 (1 byte), `msg` 9                                       |

Left out are what is printed, and `malloc` running out of memory.
-/

namespace SimpleRouter

open Buffer Stream Logged

/-! ### The client -/

/-- The content of a `char[n]` that holds a C string. -/
structure CStr (n : ℕ) where
  /-- The characters. -/
  chars : List UInt8
  /-- None of them is NUL. -/
  nul_notMem : 0 ∉ chars
  /-- There is room for the terminator. -/
  length_lt : chars.length < n

/-- The router instance with what it needs to talk to the server.
Source: `sr_router.h`, `struct sr_instance` -/
structure Session where
  /-- The fields packet handling uses. -/
  sr : SrInstance
  /-- `user`. -/
  user : CStr 32
  /-- `host`. -/
  host : CStr 32
  /-- `template`, empty if there is none. -/
  template : CStr 30
  /-- `topo_id`. -/
  topoId : UInt16
  /-- There is a `logfile`. -/
  logfile : Bool

/-- The array `auth_key[AUTH_KEY_LEN + 1]`. -/
structure AuthKey where
  /-- Its bytes. -/
  bytes : List UInt8
  /-- There are 65 of them. -/
  length_eq : bytes.length = 65

/-- The `AUTH_KEY_LEN` bytes that are hashed. -/
def AuthKey.hashed (key : AuthKey) : List UInt8 := key.bytes.take 64

theorem AuthKey.length_hashed (key : AuthKey) : key.hashed.length = 64 := by
  rw [hashed, List.length_take, key.length_eq]
  rfl

/-- What a call of `sr_read_from_server_expect` learns from outside. -/
structure VnsEnv where
  /-- What the variable `len` holds before it is read. -/
  stack : ℕ → UInt8
  /-- What memory holds from the start of the buffer on before it is written. -/
  heap : ℕ → UInt8
  /-- What packet handling learns from outside. -/
  router : Env
  /-- `addr` and `ip` of the interface allocated for an entry, before they are set. -/
  fresh : ℕ → EtherAddr × UInt32
  /-- The file of the routing table can be opened for writing. -/
  rtableOpen : Bool
  /-- The array `fgets` leaves behind, if the file `auth_key` can be read. -/
  authKey : Option AuthKey
  /-- The digest of a byte string: the words of `Message_Digest`.
  Source: `sha1.c` -/
  sha1 : List UInt8 → Option (Fin 5 → UInt32)
  /-- What `send` returns. -/
  sent : ℤ

/-- The message types.
Source: `vnscommand.h` -/
inductive VnsCommand where
  /-- `VNSOPEN`. -/
  | openTopo
  /-- `VNSCLOSE`. -/
  | close
  /-- `VNSPACKET`. -/
  | packet
  /-- `VNSBANNER`. -/
  | banner
  /-- `VNSHWINFO`. -/
  | hwinfo
  /-- `VNS_RTABLE`. -/
  | rtable
  /-- `VNS_OPEN_TEMPLATE`. -/
  | openTemplate
  /-- `VNS_AUTH_REQUEST`. -/
  | authRequest
  /-- `VNS_AUTH_REPLY`. -/
  | authReply
  /-- `VNS_AUTH_STATUS`. -/
  | authStatus
deriving DecidableEq

/-- The number of a message type.
Source: `vnscommand.h` -/
def VnsCommand.code : VnsCommand → UInt32
  | .openTopo => 1
  | .close => 2
  | .packet => 4
  | .banner => 8
  | .hwinfo => 16
  | .rtable => 32
  | .openTemplate => 64
  | .authRequest => 128
  | .authReply => 256
  | .authStatus => 512

/-- The message type of a number, if it is one of those the client handles.
Source: `sr_vns_comm.c`, `sr_read_from_server_expect`, the labels of the `switch` -/
def VnsCommand.handled (command : UInt32) : Option VnsCommand :=
  [.packet, .close, .banner, .hwinfo, .rtable, .authRequest, .authStatus].find?
    fun c => c.code = command

/-- What the client does. -/
inductive Io where
  /-- A call of `recv` is given the `n` bytes at `off` of the variable `len`. -/
  | lenWord (off n : ℕ)
  /-- The `n` bytes at `off` of the buffer are read. -/
  | read (off n : ℕ)
  /-- The `n` bytes at `off` of the buffer are written. -/
  | write (off n : ℕ)
  /-- The `n` bytes at `off` of the buffer are handed on, with a length `n` computed from the
  message's. -/
  | region (off n : ℕ)
  /-- A message has been read: its type, and the buffer. -/
  | received (command : UInt32) (buf : List UInt8)
  /-- A message of `len` bytes has been read, too few for a type. -/
  | short (len : ℕ)
  /-- A message is refused for its length, which is negative or above 10000. -/
  | refused (len : ℤ)
  /-- `sr_handlepacket(sr, packet, len, interface)`. -/
  | handlepacket (packet : List UInt8) (interface : IfaceName)
  /-- An effect of packet handling. -/
  | effect (e : Effect)
  /-- `send` of a message to the server, and what it returned. -/
  | sent (message : List UInt8) (ret : ℤ)
  /-- The file `rtable.<host>` has been written. -/
  | stored (host text : List UInt8)

/-- Where the client goes no further. -/
inductive Stop where
  /-- It reads from a closed connection for ever. -/
  | hang
  /-- An assertion fails. -/
  | assertion
  /-- The program has no meaning from here on. -/
  | fault (f : Fault)

/-- A function of the client. -/
abbrev Vns := Logged Io Stop

/-! ### Fields of a buffer -/

/-- The `uint32_t` at an offset, in host byte order. -/
def netWord (env : VnsEnv) (buf : List UInt8) (off : ℕ) : UInt32 :=
  htonl (u32 (load buf env.heap off 4))

/-- A word in network byte order has its high byte first. -/
theorem u32Bytes_htonl (v : UInt32) : u32Bytes (htonl v) = Wire.be 4 v.toNat := by
  have hlen : (u32Bytes v).reverse.length = 4 := by rw [List.length_reverse, length_u32Bytes]
  rw [htonl, u32Bytes_u32 hlen]
  simp [u32Bytes, Wire.be]

/-- A word in network byte order is loaded as the number it denotes. -/
theorem htonl_u32_be (v : UInt32) : htonl (u32 (Wire.be 4 v.toNat)) = v := by
  rw [← u32Bytes_htonl, u32_u32Bytes, htonl_htonl]

/-- Reading the C string at an offset: up to its NUL, or past the end of the buffer if there is no
NUL in it. -/
def readString (buf : List UInt8) (off : ℕ) : Io :=
  .read off (((buf.drop off).takeWhile (· ≠ 0)).length + 1)

/-- The number of bytes of `mem` that `strncmp(name, mem, n)` compares. -/
def strncmpSpan : ℕ → List UInt8 → List UInt8 → ℕ
  | 0, _, _ => 0
  | n + 1, a :: as, b :: bs => if a = b then strncmpSpan n as bs + 1 else 1
  | _ + 1, _, _ => 1

/-! ### Packets -/

/-- The reads of the name at offset 8 in `sr_get_interface`: the list is searched up to the first
interface of that name.
Source: `sr_if.c`, `sr_get_interface` -/
def nameReads (mem : List UInt8) : List SrIf → List Io
  | [] => []
  | iface :: ifs =>
      .read 8 (strncmpSpan 32 iface.name.chars mem) ::
        if iface.name = IfaceName.ofChars mem then [] else nameReads mem ifs

/-- The frame is an ARP request for another address than the interface's. `len` is the length of
the frame and `name` the 32 bytes of memory at the interface name.
Source: `sr_vns_comm.c`, `sr_arp_req_not_for_us` -/
def srArpReqNotForUs (env : VnsEnv) (sr : SrInstance) (buf : List UInt8) (len : ℕ)
    (name : List UInt8) : Vns Bool := do
  tells (nameReads name sr.ifList)
  if len < 42 then pure false
  else
    match srGetInterface sr (IfaceName.ofChars name) with
    | none => stop .assertion
    | some iface => do
        tell (.read 36 2)
        if u16 (load buf env.heap 36 2) ≠ htons 0x0806 then pure false
        else do
          tell (.read 44 2)
          if u16 (load buf env.heap 44 2) ≠ htons 1 then pure false
          else do
            tell (.read 62 4)
            pure (u32 (load buf env.heap 62 4) ≠ iface.ip)

/-- Dump at most `PACKET_DUMP_SIZE` bytes of the frame at offset 24, if there is a log file. `len`
is an `int`.
Source: `sr_vns_comm.c`, `sr_log_packet` -/
def srLogPacket (logfile : Bool) (len : UInt32) : List Io :=
  if logfile then [.region 24 len.toNat, .read 24 (min 1024 len.toBitVec.toInt % 2 ^ 32).toNat]
  else [.region 24 len.toNat]

/-- The case `VNSPACKET`. Memory past the frame is memory past the buffer.
Source: `sr_vns_comm.c`, `sr_read_from_server_expect`, `case VNSPACKET` -/
def handleVnspacket (env : VnsEnv) (s : Session) (buf : List UInt8) : Vns (ℤ × SrInstance) := do
  let name := load buf env.heap 8 32
  -- `len - sizeof(c_packet_ethernet_header) + sizeof(struct sr_ethernet_hdr)` as `unsigned int`
  let len := (UInt32.ofNat buf.length - 38 + 14).toNat
  tell (.region 24 len)
  let drop ← srArpReqNotForUs env s.sr buf len name
  if drop then pure (1, s.sr)
  else do
    tell (.read 0 4)
    tells (srLogPacket s.logfile (netWord env buf 0 - 24))
    let packet := load buf env.heap 24 len
    tell (.handlepacket packet (IfaceName.ofChars name))
    match srHandlepacket s.sr { env.router with after := fun i => env.heap (24 + i) } packet
        (IfaceName.ofChars name) with
    | .ok (sr, out) => do
        tells (out.map Io.effect)
        pure (1, sr)
    | .error f => stop (.fault f)

/-- The message `sr_send_packet` writes for a frame, if it does not refuse the frame.
Source: `sr_vns_comm.c`, `sr_send_packet` -/
def srSendPacket (sr : SrInstance) (buf : List UInt8) (iface : IfaceName) : Option (List UInt8) :=
  if buf.length < 14 then none
  else if srEtherAddrsMatchInterface sr buf iface then
    some (u32Bytes (htonl (UInt32.ofNat (buf.length + 24))) ++
      u32Bytes (htonl VnsCommand.packet.code) ++ Wire.pad 16 iface.chars ++ buf)
  else none

/-! ### Hardware information -/

/-- One entry: an interface is added to the end of the list, and an address belongs to the last
interface.
Source: `sr_vns_comm.c`, `sr_handle_hwinfo`, the loop body; `sr_if.c`, `sr_add_interface`,
`sr_set_ether_addr` and `sr_set_ether_ip` -/
def hwinfoEntry (env : VnsEnv) (buf : List UInt8) (i : ℕ) (ifs : List SrIf) : Vns (List SrIf) := do
  let off := 8 + 36 * i
  tell (.read off 4)
  match (netWord env buf off).toNat with
  | 1 => do -- HWINTERFACE
      let name := load buf env.heap (off + 4) 32
      tell (.read (off + 4) (min 32 ((name.takeWhile (· ≠ 0)).length + 1)))
      pure (ifs ++ [⟨IfaceName.ofChars name, (env.fresh i).1, (env.fresh i).2⟩])
  | 32 => do -- HWETHER
      if ifs = [] then stop .assertion
      else do
        tell (.read (off + 4) 6)
        pure (ifs.modifyLast fun iface =>
          { iface with addr := EtherAddr.load buf env.heap (off + 4) })
  | 64 => do -- HWETHIP
      tell (.read (off + 4) 4)
      if ifs = [] then stop .assertion
      else
        pure (ifs.modifyLast fun iface =>
          { iface with ip := u32 (load buf env.heap (off + 4) 4) })
  | _ => pure ifs

/-- The loop over the entries: `n` of them from the `i`-th on.
Source: `sr_vns_comm.c`, `sr_handle_hwinfo` -/
def hwinfoLoop (env : VnsEnv) (buf : List UInt8) : ℕ → ℕ → List SrIf → Vns (List SrIf)
  | _, 0, ifs => pure ifs
  | i, n + 1, ifs => do
      let ifs ← hwinfoEntry env buf i ifs
      hwinfoLoop env buf (i + 1) n ifs

/-- The number of entries: computed in `size_t`, assigned to an `int`.
Source: `sr_vns_comm.c`, `sr_handle_hwinfo`, `num_entries` -/
def numEntries (mLen : UInt32) : ℤ := ((mLen.toUInt64 - 8) / 36).toUInt32.toBitVec.toInt

/-- Source: `sr_vns_comm.c`, `sr_handle_hwinfo` -/
def srHandleHwinfo (env : VnsEnv) (sr : SrInstance) (buf : List UInt8) : Vns (ℤ × SrInstance) := do
  tell (.read 0 4)
  let n := numEntries (netWord env buf 0)
  tell (.region 8 (36 * n.toNat))
  let ifs ← hwinfoLoop env buf 0 n.toNat sr.ifList
  pure (n, { sr with ifList := ifs })

/-- The number of routes whose interface does not exist, `999` if there are no interfaces or no
routes.
Source: `sr_main.c`, `sr_verify_routing_table` -/
def srVerifyRoutingTable (sr : SrInstance) : ℕ :=
  if sr.ifList = [] ∨ sr.routingTable = [] then 999
  else sr.routingTable.countP fun rt => !(sr.ifList.any fun iface => iface.name = rt.interface)

/-! ### Routing tables and authentication -/

/-- `mVirtualHostID`, up to one character more than its field has. -/
def tableHost (env : VnsEnv) (buf : List UInt8) : List UInt8 :=
  (load buf env.heap 8 33).takeWhile (· ≠ 0)

/-- Write the routing table to a file named after the host. The name is copied into an array of 40
characters, behind `rtable.`.
Source: `sr_vns_comm.c`, `sr_handle_rtable` -/
def srHandleRtable (env : VnsEnv) (buf : List UInt8) : Vns Bool := do
  tell (readString buf 8)
  if 32 < (tableHost env buf).length then stop (.fault .outOfBounds)
  else if env.rtableOpen then do
    tell (.read 0 4)
    let n := (netWord env buf 0 - 8 - 32).toNat
    tell (.region 40 n)
    tell (.stored (tableHost env buf) (load buf env.heap 40 n))
    pure true
  else pure false

/-- The message `VNSOPEN`: the structure is zeroed, then filled in.
Source: `sr_vns_comm.c`, `sr_connect_to_server`; `vnscommand.h`, `c_open` -/
def openMessage (s : Session) : List UInt8 :=
  u32Bytes (htonl 108) ++ u32Bytes (htonl VnsCommand.openTopo.code) ++
    u16Bytes (htons s.topoId) ++ [0, 0] ++ Wire.pad 32 s.host.chars ++ Wire.pad 32 s.user.chars ++
    List.replicate 32 0

/-- The message `VNS_OPEN_TEMPLATE`, without source filters.
Source: `sr_vns_comm.c`, `sr_connect_to_server`; `vnscommand.h`, `c_open_template` -/
def openTemplateMessage (s : Session) : List UInt8 :=
  u32Bytes (htonl 70) ++ u32Bytes (htonl VnsCommand.openTemplate.code) ++
    Wire.pad 30 s.template.chars ++ Wire.pad 32 s.host.chars

/-- The message `AUTH_REPLY`.
Source: `sr_vns_comm.c`, `sr_handle_auth_request`; `vnscommand.h`, `c_auth_reply` -/
def authReplyMessage (user : CStr 32) (digest : Fin 5 → UInt32) : List UInt8 :=
  let len := 12 + user.chars.length + 20
  u32Bytes (htonl (UInt32.ofNat len)) ++ u32Bytes (htonl VnsCommand.authReply.code) ++
    u32Bytes (htonl (UInt32.ofNat user.chars.length)) ++ user.chars ++
    (List.finRange 5).flatMap fun i => u32Bytes (htonl (digest i))

/-- `salt`: what follows the header, as many bytes as the message says.
Source: `sr_vns_comm.c`, `sr_handle_auth_request` -/
def requestSalt (env : VnsEnv) (buf : List UInt8) : List UInt8 :=
  load buf env.heap 8 (netWord env buf 0 - 8).toNat

/-- Answer with the digest of the salt and the key.
Source: `sr_vns_comm.c`, `sr_handle_auth_request` -/
def srHandleAuthRequest (env : VnsEnv) (user : CStr 32) (buf : List UInt8) : Vns Bool :=
  match env.authKey with
  | none => pure false
  | some key => do
      tell (.read 0 4)
      tell (.region 8 (netWord env buf 0 - 8).toNat)
      match env.sha1 (requestSalt env buf ++ key.hashed) with
      | none => pure false
      | some digest => do
          tell (.sent (authReplyMessage user digest) env.sent)
          pure (env.sent = (authReplyMessage user digest).length)

/-- `auth_ok`, as the client reads it. -/
def authOk (env : VnsEnv) (buf : List UInt8) : UInt8 := (load buf env.heap 8 1).headD 0

/-- Whether `auth_ok` is set; the message is printed if it is not.
Source: `sr_vns_comm.c`, `sr_handle_auth_status` -/
def srHandleAuthStatus (env : VnsEnv) (buf : List UInt8) : Vns Bool := do
  tell (.read 8 1)
  if authOk env buf ≠ 0 then pure true
  else do
    tell (readString buf 9)
    pure false

/-! ### One message -/

/-- The `switch` on the message type, with the return value.
Source: `sr_vns_comm.c`, `sr_read_from_server_expect` -/
def handleCommand (env : VnsEnv) (s : Session) (command : UInt32) (buf : List UInt8) :
    Vns (ℤ × SrInstance) :=
  match VnsCommand.handled command with
  | some .packet => handleVnspacket env s buf
  | some .close => do
      tell (readString buf 8)
      pure (0, s.sr)
  | some .banner => do
      tell (readString buf 8)
      pure (1, s.sr)
  | some .hwinfo => do
      let (_, sr) ← srHandleHwinfo env s.sr buf
      pure (if srVerifyRoutingTable sr ≠ 0 then -1 else 1, sr)
  | some .rtable => do
      let ok ← srHandleRtable env buf
      pure (if ok then 1 else -1, s.sr)
  | some .authRequest => do
      let ok ← srHandleAuthRequest env s.user buf
      pure (if ok then 1 else -1, s.sr)
  | some .authStatus => do
      let ok ← srHandleAuthStatus env buf
      pure (if ok then 1 else -1, s.sr)
  | _ => pure (1, s.sr)

/-- Read the rest of a message into a buffer of its length. Both words are written back: the
length in network byte order, the type in host byte order.
Source: `sr_vns_comm.c`, `sr_read_from_server_expect`, from the allocation of `buf` on -/
def readBody (fuel : ℕ) (env : VnsEnv) (word : List UInt8) (len : ℕ) (sock : Socket) :
    Vns (Option (UInt32 × List UInt8) × Socket) := do
  tell (.write 0 4)
  if len < 4 then do
    tell (.short len)
    stop (.fault .outOfBounds)
  else do
    let buf := put ((List.range len).map env.heap) 0 word
    let (buf, sock) ← readLoop Io.region .hang (len - 4) 4 fuel 0 buf sock
    match buf with
    | none => pure (none, sock)
    | some buf => do
        tell (.read 4 4)
        tell (.write 4 4)
        if len < 8 then do
          tell (.short len)
          stop (.fault .outOfBounds)
        else
          let command := netWord env buf 4
          pure (some (command, put buf 4 (u32Bytes command)), sock)

/-- Read a message: its type and the buffer, or nothing if a read failed or the length is refused.
Source: `sr_vns_comm.c`, `sr_read_from_server_expect`, up to the check of the command -/
def readCommand (fuel : ℕ) (env : VnsEnv) (sock : Socket) :
    Vns (Option (UInt32 × List UInt8) × Socket) := do
  let (word, sock) ← readLoop Io.lenWord .hang 4 0 fuel 0 ((List.range 4).map env.stack) sock
  match word with
  | none => pure (none, sock)
  | some word =>
      let len := (htonl (u32 word)).toBitVec.toInt
      if len > 10000 ∨ len < 0 then do
        tell (.refused len)
        pure (none, sock)
      else readBody fuel env word len.toNat sock

/-- The command is not the one expected, and not `VNSCLOSE`.
Source: `sr_vns_comm.c`, `sr_read_from_server_expect` -/
def Unexpected (expected : Option VnsCommand) (command : UInt32) : Prop :=
  (∃ c, expected = some c ∧ command ≠ c.code) ∧ command ≠ VnsCommand.close.code

instance (expected : Option VnsCommand) (command : UInt32) :
    Decidable (Unexpected expected command) :=
  match expected with
  | none => isFalse fun h => by obtain ⟨⟨c, hc, -⟩, -⟩ := h; cases hc
  | some c => decidable_of_iff (command ≠ c.code ∧ command ≠ VnsCommand.close.code)
      ⟨fun h => ⟨⟨c, rfl, h.1⟩, h.2⟩, fun h => by
        obtain ⟨⟨c', hc, h₁⟩, h₂⟩ := h
        obtain rfl := Option.some.inj hc
        exact ⟨h₁, h₂⟩⟩

/-- The main loop expects nothing. -/
theorem not_unexpected_none {command : UInt32} : ¬ Unexpected none command := by
  rintro ⟨⟨c, hc, -⟩, -⟩
  cases hc

/-- The command expected. -/
theorem not_unexpected_code {c : VnsCommand} {command : UInt32} (h : command = c.code) :
    ¬ Unexpected (some c) command := by
  rintro ⟨⟨c', hc', hne⟩, -⟩
  obtain rfl := Option.some.inj hc'
  exact hne h

/-- Handle a message that has been read.
Source: `sr_vns_comm.c`, `sr_read_from_server_expect`, from the check of the command on -/
def dispatch (env : VnsEnv) (s : Session) (expected : Option VnsCommand) (command : UInt32)
    (buf : List UInt8) : Vns (ℤ × SrInstance) := do
  tell (.received command buf)
  if Unexpected expected command then pure (-1, s.sr) else handleCommand env s command buf

/-- Read a message and handle it. `expected` is the command expected, if one is. The value is the
return value, the instance, and what is left of the stream.
Source: `sr_vns_comm.c`, `sr_read_from_server_expect` -/
def srReadFromServerExpect (fuel : ℕ) (env : VnsEnv) (s : Session) (expected : Option VnsCommand)
    (sock : Socket) : Vns ((ℤ × SrInstance) × Socket) := do
  let (message, sock) ← readCommand fuel env sock
  match message with
  | none => pure ((-1, s.sr), sock)
  | some (command, buf) => do
      let result ← dispatch env s expected command buf
      pure (result, sock)

/-- The message that opens the session.
Source: `sr_vns_comm.c`, `sr_connect_to_server` -/
def opening (s : Session) : List UInt8 :=
  if s.template.chars ≠ [] then openTemplateMessage s else openMessage s

/-- Ask for a topology, or for a template, which is answered with a routing table.
Source: `sr_vns_comm.c`, `sr_connect_to_server`, from the choice of the message on -/
def sendOpening (fuel : ℕ) (env : VnsEnv) (sent : ℤ) (s : Session) (sock : Socket) :
    Vns (ℤ × SrInstance) := do
  tell (.sent (opening s) sent)
  if sent ≠ (opening s).length then pure (-1, s.sr)
  else if s.template.chars = [] then pure (0, s.sr)
  else do
    let ((ret, sr), _) ← srReadFromServerExpect fuel env s (some .rtable) sock
    if ret ≠ 1 then pure (-1, sr) else pure (0, sr)

/-- Connect, authenticate and open the session. `connected` says that the server is found and
accepts the connection, `envs` is what the calls of `sr_read_from_server_expect` learn, and `sent`
is what the last `send` returns.
Source: `sr_vns_comm.c`, `sr_connect_to_server` -/
def srConnectToServer (fuel : ℕ) (connected : Bool) (envs : Fin 3 → VnsEnv) (sent : ℤ)
    (s : Session) (sock : Socket) : Vns (ℤ × SrInstance) := do
  if !connected then pure (-1, s.sr)
  else do
    let ((ret, sr), sock) ← srReadFromServerExpect fuel (envs 0) s (some .authRequest) sock
    if ret ≠ 1 then pure (-1, sr)
    else do
      let s := { s with sr := sr }
      let ((ret, sr), sock) ← srReadFromServerExpect fuel (envs 1) s (some .authStatus) sock
      if ret ≠ 1 then pure (-1, sr)
      else sendOpening fuel (envs 2) sent { s with sr := sr } sock

end SimpleRouter
