import SimpleRouter.VnsComm

/-!
# The server's side of the VNS protocol (`VNSProtocol.py`)

The message classes of the Python server. A Python `str` is a list of bytes, and `struct` is
`Wire`: a raised exception is `none`.

`VnsMessage` has the ten classes; an object has what its constructor insists on. Left out is
`__str__`.

The framing library `ltprotocol` is not in the repository. It is a parameter, `LtProtocol`, and what
is relied on is the assumption `LtProtocol.Framed`: it puts a length word, computed from `length()`,
and a type word before what `pack` returns, and takes them off again.
-/

namespace SimpleRouter

open Buffer Wire

/-! ### Addresses as text -/

/-- The decimal digits of a byte. -/
def decimal (b : UInt8) : List UInt8 := (Nat.toDigits 10 b.toNat).map fun c => UInt8.ofNat c.toNat

/-- The dotted quad of an address; anything but four bytes is an error.
Source: `socket.inet_ntoa` -/
def inetNtoa (b : List UInt8) : Option (List UInt8) :=
  if b.length = 4 then some ([46].intercalate (b.map decimal)) else none

/-- The value of a digit. -/
def digit (c : UInt8) : ℕ :=
  if 48 ≤ c ∧ c ≤ 57 then (c - 48).toNat
  else if 97 ≤ c ∧ c ≤ 102 then (c - 87).toNat
  else if 65 ≤ c ∧ c ≤ 70 then (c - 55).toNat
  else 16

/-- The number a non-empty string of digits denotes. -/
def parseDigits (base : ℕ) (cs : List UInt8) : Option ℕ :=
  if cs ≠ [] ∧ cs.all (digit · < base) then some (cs.foldl (fun n c => n * base + digit c) 0)
  else none

/-- A number as in C: hexadecimal behind `0x`, octal behind `0`, decimal otherwise. -/
def parseNumber : List UInt8 → Option ℕ
  | 48 :: 120 :: cs => parseDigits 16 cs
  | 48 :: 88 :: cs => parseDigits 16 cs
  | 48 :: c :: cs => parseDigits 8 (c :: cs)
  | cs => parseDigits 10 cs

/-- The address of numbers between dots: all but the last are bytes, and the last one fills the
rest. -/
def inetAddress : List ℕ → Option ℕ
  | [a] => if a < 2 ^ 32 then some a else none
  | [a, b] => if a < 256 ∧ b < 2 ^ 24 then some (a * 2 ^ 24 + b) else none
  | [a, b, c] =>
      if a < 256 ∧ b < 256 ∧ c < 2 ^ 16 then some (a * 2 ^ 24 + b * 2 ^ 16 + c) else none
  | [a, b, c, d] =>
      if a < 256 ∧ b < 256 ∧ c < 256 ∧ d < 256 then
        some (a * 2 ^ 24 + b * 2 ^ 16 + c * 2 ^ 8 + d)
      else none
  | _ => none

/-- White space. -/
def isSpace (c : UInt8) : Bool := c = 32 ∨ 9 ≤ c ∧ c ≤ 13

/-- The four bytes of an address given as text, up to white space.
Source: `socket.inet_aton` -/
def inetAton (s : List UInt8) : Option (List UInt8) := do
  let parts ← ((s.takeWhile fun c => !isSpace c).splitOn 46).mapM parseNumber
  let address ← inetAddress parts
  some (be 4 address)

/-! ### The classes -/

/-- An interface of a virtual router.
Source: `VNSProtocol.py`, `VNSInterface.__init__` -/
structure VnsInterface where
  /-- `name`. -/
  name : List UInt8
  /-- `mac`. -/
  mac : List UInt8
  /-- `ip`. -/
  ip : List UInt8
  /-- `mask`. -/
  mask : List UInt8
  /-- A MAC address has six bytes. -/
  length_mac : mac.length = 6
  /-- An address has four bytes. -/
  length_ip : ip.length = 4
  /-- So has a mask. -/
  length_mask : mask.length = 4

/-- A message object.
Source: `VNSProtocol.py`, the classes of `VNS_MESSAGES` and their `__init__` -/
inductive VnsMessage where
  /-- `VNSOpen`. -/
  | openTopo (topoId : ℤ) (vhost user pw : List UInt8)
  /-- `VNSClose`. -/
  | close (msg : List UInt8)
  /-- `VNSPacket`. -/
  | packet (intfName ethernetFrame : List UInt8)
  /-- `VNSBanner`. -/
  | banner (msg : List UInt8)
  /-- `VNSHardwareInfo`. -/
  | hwinfo (interfaces : List VnsInterface)
  /-- `VNSRtable`. -/
  | rtable (vrhost rtable : List UInt8)
  /-- `VNSOpenTemplate`; a source filter is an address as text and a mask. -/
  | openTemplate (templateName vrhost : List UInt8) (srcFilters : List (List UInt8 × ℤ))
      (ne : srcFilters ≠ [])
  /-- `VNSAuthRequest`. -/
  | authRequest (salt : List UInt8)
  /-- `VNSAuthReply`. -/
  | authReply (username ssp : List UInt8)
  /-- `VNSAuthStatus`. -/
  | authStatus (authOk : Bool) (msg : List UInt8)

/-- Source: `VNSProtocol.py`, `VNSOpenTemplate.NO_SRC_FILTERS` -/
def noSrcFilters : List (List UInt8 × ℤ) := [([48, 46, 48, 46, 48, 46, 48], 0)]

/-- An empty list of source filters is replaced by the default.
Source: `VNSProtocol.py`, `VNSOpenTemplate.__init__` -/
def VnsMessage.mkOpenTemplate (templateName vrhost : List UInt8)
    (srcFilters : List (List UInt8 × ℤ)) : VnsMessage :=
  if h : srcFilters = [] then .openTemplate templateName vrhost noSrcFilters (List.cons_ne_nil _ _)
  else .openTemplate templateName vrhost srcFilters h

/-- Source: `VNSProtocol.py`, `get_type` of each class -/
def VnsMessage.getType : VnsMessage → VnsCommand
  | .openTopo .. => .openTopo
  | .close _ => .close
  | .packet .. => .packet
  | .banner _ => .banner
  | .hwinfo _ => .hwinfo
  | .rtable .. => .rtable
  | .openTemplate .. => .openTemplate
  | .authRequest _ => .authRequest
  | .authReply .. => .authReply
  | .authStatus .. => .authStatus

/-! ### Formats -/

/-- Source: `VNSProtocol.py`, `VNSOpen.FORMAT` -/
def openFormat : List Code := [.num 2, .num 2, .str 32, .str 32, .str 32]

/-- Source: `VNSProtocol.py`, `VNSClose.FORMAT` and `VNSBanner.FORMAT` -/
def textFormat : List Code := [.str 256]

/-- Source: `VNSProtocol.py`, `VNSPacket.HEADER_FORMAT` -/
def packetHeaderFormat : List Code := [.str 16]

/-- Source: `VNSProtocol.py`, `VNSInterface.FORMAT` -/
def interfaceFormat : List Code :=
  [.num 4, .str 32, .num 4, .num 4, .str 28, .num 4, .str 32, .num 4, .str 4, .str 28,
    .num 4, .num 4, .str 28, .num 4, .str 4, .str 28]

/-- Source: `VNSProtocol.py`, `VNSRtable.HEADER_FORMAT` -/
def rtableHeaderFormat : List Code := [.str 32]

/-- Source: `VNSProtocol.py`, `VNSOpenTemplate.HEADER_FORMAT` -/
def openTemplateHeaderFormat : List Code := [.str 30, .str 32]

/-! ### Packing -/

/-- Source: `VNSProtocol.py`, `VNSInterface.pack` -/
def VnsInterface.pack (intf : VnsInterface) : Option (List UInt8) :=
  Wire.pack interfaceFormat
    [.num 1, .str intf.name, .num 2, .num 0, .str [], .num 32, .str intf.mac,
      .num 64, .str intf.ip, .str [], .num 4, .num 0, .str [], .num 128, .str intf.mask, .str []]

/-- One source filter.
Source: `VNSProtocol.py`, `VNSOpenTemplate.pack`, the generator expression -/
def packFilter (filter : List UInt8 × ℤ) : Option (List UInt8) := do
  let ip ← inetAton filter.1
  let mask ← Wire.pack [.num 1] [.num filter.2]
  some (ip ++ mask)

/-- Source: `VNSProtocol.py`, `pack` of each class -/
def VnsMessage.pack : VnsMessage → Option (List UInt8)
  | .openTopo topoId vhost user pw =>
      Wire.pack openFormat [.num topoId, .num 0, .str vhost, .str user, .str pw]
  | .close msg => Wire.pack textFormat [.str msg]
  | .packet intfName ethernetFrame => do
      let header ← Wire.pack packetHeaderFormat [.str intfName]
      some (header ++ ethernetFrame)
  | .banner msg => Wire.pack textFormat [.str msg]
  | .hwinfo interfaces => do
      let entries ← interfaces.mapM VnsInterface.pack
      some entries.flatten
  | .rtable vrhost table => do
      let header ← Wire.pack rtableHeaderFormat [.str vrhost]
      some (header ++ table)
  | .openTemplate templateName vrhost srcFilters _ => do
      let filters ← srcFilters.mapM packFilter
      let header ← Wire.pack openTemplateHeaderFormat [.str templateName, .str vrhost]
      some (header ++ filters.flatten)
  | .authRequest salt => some salt
  | .authReply username ssp => do
      let len ← Wire.pack [.num 4] [.num username.length]
      some (len ++ username ++ ssp)
  | .authStatus authOk msg => do
      let ok ← Wire.pack [.num 1] [.num authOk.toInt]
      some (ok ++ msg)

/-- Source: `VNSProtocol.py`, `length` of each class -/
def VnsMessage.length : VnsMessage → ℕ
  | .openTopo .. => calcsize openFormat
  | .close _ => calcsize textFormat
  | .packet _ ethernetFrame => calcsize packetHeaderFormat + ethernetFrame.length
  | .banner _ => calcsize textFormat
  | .hwinfo interfaces => interfaces.length * calcsize interfaceFormat
  | .rtable _ table => calcsize rtableHeaderFormat + table.length
  | .openTemplate _ _ srcFilters _ =>
      calcsize openTemplateHeaderFormat + 30 + 5 * srcFilters.length
  | .authRequest salt => salt.length
  | .authReply username ssp => username.length + ssp.length
  | .authStatus _ msg => 1 + msg.length

/-! ### Unpacking -/

/-- The source filter in the `i`-th record of five bytes.
Source: `VNSProtocol.py`, `VNSOpenTemplate.unpack`, the loop body -/
def unpackFilter (sfBytes : List UInt8) (i : ℕ) : Option (List UInt8 × ℤ) := do
  let ip ← inetNtoa (slice sfBytes (i * 5) 4)
  match ← Wire.unpack [.num 1] (slice sfBytes (i * 5 + 4) 1) with
  | [.num mask] => if mask < 0 ∨ mask > 32 then none else some (ip, mask)
  | _ => none

/-- Source: `VNSProtocol.py`, `VNSOpen.unpack` -/
def unpackOpen (body : List UInt8) : Option VnsMessage := do
  match ← Wire.unpack openFormat body with
  | [.num topoId, _, .str vhost, .str user, .str pw] =>
      some (.openTopo topoId (strip vhost) (strip user) (strip pw))
  | _ => none

/-- A class with one text. -/
def unpackText (cls : List UInt8 → VnsMessage) (body : List UInt8) : Option VnsMessage := do
  match ← Wire.unpack textFormat body with
  | [.str msg] => some (cls (strip msg))
  | _ => none

/-- Source: `VNSProtocol.py`, `VNSPacket.unpack` -/
def unpackPacket (body : List UInt8) : Option VnsMessage := do
  match ← Wire.unpack packetHeaderFormat (body.take (calcsize packetHeaderFormat)) with
  | [.str intfName] =>
      some (.packet (strip intfName) (body.drop (calcsize packetHeaderFormat)))
  | _ => none

/-- Source: `VNSProtocol.py`, `VNSOpenTemplate.unpack` -/
def unpackOpenTemplate (body : List UInt8) : Option VnsMessage := do
  match ← Wire.unpack openTemplateHeaderFormat
      (body.take (calcsize openTemplateHeaderFormat)) with
  | [.str templateName, .str vrhost] => do
      let sfBytes := body.drop (calcsize openTemplateHeaderFormat)
      let srcFilters ← (List.range (sfBytes.length / 5)).mapM (unpackFilter sfBytes)
      some (.mkOpenTemplate (strip templateName) (strip vrhost) srcFilters)
  | _ => none

/-- Source: `VNSProtocol.py`, `VNSAuthReply.unpack` -/
def unpackAuthReply (body : List UInt8) : Option VnsMessage := do
  match ← Wire.unpack [.num 4] (body.take 4) with
  | [.num usernameLen] =>
      let rest := body.drop 4
      some (.authReply (rest.take usernameLen.toNat) (rest.drop usernameLen.toNat))
  | _ => none

/-- Source: `VNSProtocol.py`, `VNSAuthStatus.unpack` -/
def unpackAuthStatus (body : List UInt8) : Option VnsMessage := do
  match ← Wire.unpack [.num 1] (body.take 1) with
  | [.num authOk] => some (.authStatus (authOk ≠ 0) (body.drop 1))
  | _ => none

/-- `unpack` of the class of a type; `VNSHardwareInfo` has none.
Source: `VNSProtocol.py`, `unpack` of each class -/
def VnsMessage.unpack : VnsCommand → List UInt8 → Option VnsMessage
  | .openTopo, body => unpackOpen body
  | .close, body => unpackText .close body
  | .packet, body => unpackPacket body
  | .banner, body => unpackText .banner body
  | .hwinfo, _ => none
  | .rtable, body => some (.rtable (strip (body.take 32)) (body.drop 32))
  | .openTemplate, body => unpackOpenTemplate body
  | .authRequest, body => some (.authRequest body)
  | .authReply, body => unpackAuthReply body
  | .authStatus, body => unpackAuthStatus body

/-! ### The framing library -/

/-- The framing library.
Source: `VNSProtocol.py`, `VNS_PROTOCOL = LTProtocol(VNS_MESSAGES, 'I', 'I')` -/
structure LtProtocol where
  /-- The bytes it sends for a message, unless something is raised. -/
  frame : VnsMessage → Option (List UInt8)
  /-- The message it hands on for the bytes of one, unless something is raised. -/
  receive : List UInt8 → Option VnsMessage

/-- **What is assumed of the framing library.** -/
structure LtProtocol.Framed (lt : LtProtocol) : Prop where
  /-- A message is sent as its length, by `length()` and with the header, its type, and its body. -/
  frame : ∀ (m : VnsMessage) (body : List UInt8), m.pack = some body → 8 + m.length < 2 ^ 32 →
    lt.frame m = some (be 4 (8 + m.length) ++ be 4 m.getType.code.toNat ++ body)
  /-- Bytes that begin with their number and with a type are a message of the class of that type,
  if it can unpack the rest. -/
  receive : ∀ (c : VnsCommand) (body : List UInt8) (m : VnsMessage), 8 + body.length < 2 ^ 32 →
    m ∈ VnsMessage.unpack c body →
      lt.receive (be 4 (8 + body.length) ++ be 4 c.code.toNat ++ body) = some m

/-- The class whose type word the bytes are.
Source: `VNSProtocol.py`, `VNS_MESSAGES` -/
def vnsMessages (word : List UInt8) : Option VnsCommand :=
  [VnsCommand.openTopo, .close, .packet, .banner, .hwinfo, .rtable, .openTemplate, .authRequest,
    .authReply, .authStatus].find? fun c => be 4 c.code.toNat = word

/-- A library that does just that. -/
def LtProtocol.plain : LtProtocol where
  frame m := m.pack.map fun body => be 4 (8 + m.length) ++ be 4 m.getType.code.toNat ++ body
  receive message :=
    if message.take 4 = be 4 message.length then
      (vnsMessages ((message.drop 4).take 4)).bind fun c => VnsMessage.unpack c (message.drop 8)
    else none

/-- The words and the body of a framed message. -/
theorem take_drop_framed (len type : ℕ) (body : List UInt8) :
    (be 4 len ++ be 4 type ++ body).take 4 = be 4 len ∧
      ((be 4 len ++ be 4 type ++ body).drop 4).take 4 = be 4 type ∧
      (be 4 len ++ be 4 type ++ body).drop 8 = body := by
  refine ⟨?_, ?_, ?_⟩
  · rw [List.append_assoc, List.take_left' (length_be 4 _)]
  · rw [List.append_assoc, List.drop_left' (length_be 4 _), List.take_left' (length_be 4 _)]
  · rw [List.drop_left' (by rw [List.length_append, length_be, length_be])]

/-- The assumption can be met. -/
theorem LtProtocol.plain_framed : LtProtocol.plain.Framed where
  frame m body hpack _ := by
    show m.pack.map _ = _
    rw [hpack]
    rfl
  receive c body m _ hm := by
    obtain ⟨hlen, htype, hbody⟩ := take_drop_framed (8 + body.length) c.code.toNat body
    have hcount : (be 4 (8 + body.length) ++ be 4 c.code.toNat ++ body).length =
        8 + body.length := by
      simp only [List.length_append, length_be]
    have hclass : vnsMessages (be 4 c.code.toNat) = some c := by cases c <;> rfl
    show (if _ then _ else none) = _
    rw [hcount, if_pos hlen, htype, hclass, hbody]
    exact hm

end SimpleRouter
