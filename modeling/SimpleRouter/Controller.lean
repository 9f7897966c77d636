import SimpleRouter.Connect
import SimpleRouter.Lib.Run
import Mathlib.Logic.Function.Basic

/-!
# The controller (`srhandler.py`, `ofhandler.py`)

The controller stands between a switch and the clients. When a switch connects, it works out which
of the switch's ports are interfaces of the router and keeps two dictionaries, from names to port
numbers and back; a frame from the switch is sent to the clients under the name of its port, and a
frame from a client goes out of the port of its name.

* `Listener.step` — everything `SRServerListener` reacts to. An exception ends a handler where it
  is raised (`Raised`), and what has been done before stays done.
* `Consistent`, `consistent_of_run` — the dictionaries are inverse to each other, if no switch
  contradicts another; `agree_of_switch` — a switch does not contradict itself.
* `switching_of_run` — **what comes in at a port goes to every client under one name, and what they
  send under that name goes out of that port**.

A dictionary is a function to `Option`. The keys of `RouterInfo.info` come in any order
(`DictOrder`), another one each time, and `conn.send` is taken to return. Left out are the log, and
what is printed.
-/

namespace SimpleRouter

open Buffer Machine Wire

/-! ### Numbers and addresses as text -/

/-- Why a handler ends early. -/
inductive Raised where
  /-- `ValueError`, of `int` and of `chr`. -/
  | valueError
  /-- `VNSProtocolException`. -/
  | protocolException
  /-- `UnboundLocalError`. -/
  | unboundLocalError
  /-- `AttributeError`. -/
  | attributeError
deriving DecidableEq

/-- White space around a string is taken off.
Source: `str.strip` -/
def pyStrip (s : List UInt8) : List UInt8 :=
  ((s.dropWhile isSpace).reverse.dropWhile isSpace).reverse

/-- The digits of a literal; a hexadecimal one may begin with `0x`. -/
def pyDigits (base : ℕ) : List UInt8 → Option ℕ
  | 48 :: 120 :: cs => if base = 16 then parseDigits 16 cs else none
  | 48 :: 88 :: cs => if base = 16 then parseDigits 16 cs else none
  | cs => parseDigits base cs

/-- A number with a sign in front of it, or without one.
Source: `int` -/
def pyInt (base : ℕ) (s : List UInt8) : Option ℤ :=
  match pyStrip s with
  | 43 :: cs => (pyDigits base cs).map fun n => (n : ℤ)
  | 45 :: cs => (pyDigits base cs).map fun n => -(n : ℤ)
  | cs => (pyDigits base cs).map fun n => (n : ℤ)

/-- The byte of a number as text.
Source: `chr`, `int` -/
def pyByte (base : ℕ) (s : List UInt8) : Option UInt8 := do
  let n ← pyInt base s
  if 0 ≤ n ∧ n < 256 then some (UInt8.ofNat n.toNat) else none

/-- Source: `srhandler.py`, `pack_mac` -/
def packMac (macaddr : List UInt8) : Option (List UInt8) := (macaddr.splitOn 58).mapM (pyByte 16)

/-- Source: `srhandler.py`, `pack_ip` -/
def packIp (ipaddr : List UInt8) : Option (List UInt8) := (ipaddr.splitOn 46).mapM (pyByte 10)

/-- A byte is read as it was printed: a computation for each byte. -/
theorem pyByte_spec : (List.range 256).all (fun n =>
    decide (pyByte 10 (decimal (UInt8.ofNat n)) = some (UInt8.ofNat n))) = true := by
  decide +kernel

/-- A byte in decimal is read back. -/
theorem pyByte_decimal (b : UInt8) : pyByte 10 (decimal b) = some b := by
  have h := List.all_eq_true.mp pyByte_spec b.toNat (List.mem_range.mpr b.toNat_lt)
  rw [UInt8.ofNat_toNat] at h
  exact of_decide_eq_true h

/-- **`pack_ip` undoes `inet_ntoa`.** -/
theorem packIp_inetNtoa {q s : List UInt8} (h : inetNtoa q = some s) : packIp s = some q := by
  rw [inetNtoa, Option.ite_none_right_eq_some, Option.some.injEq] at h
  obtain ⟨hlen, rfl⟩ := h
  have hsplit : ([46].intercalate (q.map decimal)).splitOn 46 = q.map decimal := by
    refine List.splitOn_intercalate 46 ?_ ?_
    · intro l hl hdot
      obtain ⟨b, -, rfl⟩ := List.mem_map.mp hl
      exact (decimal_char hdot).1 rfl
    · intro hnil
      rw [List.map_eq_nil_iff.mp hnil] at hlen
      cases hlen
  rw [packIp, hsplit, mapM_eq_some_iff, List.forall₂_map_left_iff, List.forall₂_same]
  exact fun b _ => pyByte_decimal b

/-! ### What a switch says about its ports -/

/-- A port in the description a switch sends of itself. -/
structure SwitchPort where
  /-- `name`. -/
  name : List UInt8
  /-- `hw_addr.toStr()`. -/
  hwAddr : List UInt8
  /-- `port_no`. -/
  portNo : ℕ

/-- What the controller says about an interface: an item of `RouterInfo.info`, less the rate. -/
structure PortInfo where
  /-- The key, the name of the interface. -/
  intf : List UInt8
  /-- `ip`, as text. -/
  ip : List UInt8
  /-- `mac`, as text. -/
  mac : List UInt8
  /-- `port`. -/
  port : ℕ

/-- The interface a port is, if it is one: its name is the part behind the first hyphen, and the
configuration must have an address for it. -/
def SwitchPort.info (routerIp : List UInt8 → Option (List UInt8)) (port : SwitchPort) :
    Option PortInfo :=
  match port.name.splitOn 45 with
  | _ :: intf :: _ => (routerIp intf).map fun ip => ⟨intf, ip, port.hwAddr, port.portNo⟩
  | _ => none

/-- An item replaces one of the same key. -/
def setItem (info : List PortInfo) (item : PortInfo) : List PortInfo :=
  if item.intf ∈ info.map PortInfo.intf then
    info.map fun p => if p.intf = item.intf then item else p
  else info ++ [item]

/-- The items that are set, in the order in which they are set first.
Source: `ofhandler.py`, `OFHandler.__init__`, `sw_info` -/
def swInfo (routerIp : List UInt8 → Option (List UInt8)) (ports : List SwitchPort) :
    List PortInfo :=
  (ports.filterMap (SwitchPort.info routerIp)).foldl setItem []

/-- The order in which a dictionary yields its keys. It may be any order.
Source: `dict.keys` -/
structure DictOrder where
  /-- The items in that order. -/
  items : List PortInfo → List PortInfo
  /-- They are the items. -/
  perm : ∀ info, (items info).Perm info

/-- The order in which the items are set. -/
def DictOrder.insertion : DictOrder := ⟨id, List.Perm.refl⟩

/-! ### The listener -/

/-- `255.255.255.255`. -/
def hostMask : List UInt8 := [50, 53, 53, 46, 50, 53, 53, 46, 50, 53, 53, 46, 50, 53, 53]

/-- Source: `VNSProtocol.py`, `VNSInterface.__init__` -/
def mkVnsInterface (name mac ip mask : List UInt8) : Except Raised VnsInterface :=
  if hmac : mac.length = 6 then
    if hip : ip.length = 4 then
      if hmask : mask.length = 4 then .ok ⟨name, mac, ip, mask, hmac, hip, hmask⟩
      else .error .protocolException
    else .error .protocolException
  else .error .protocolException

/-- Source: `srhandler.py`, `_handle_RouterInfo`, the loop body up to `interfaces.append` -/
def PortInfo.interface (p : PortInfo) : Except Raised VnsInterface :=
  match packIp p.ip, packMac p.mac, packIp hostMask with
  | some ip, some mac, some mask => mkVnsInterface p.intf mac ip mask
  | _, _, _ => .error .valueError

/-- The TCP server clients connect to. `κ` are the connections.
Source: `srhandler.py`, `SRServerListener` -/
structure Listener (κ : Type) where
  /-- `srclients`. -/
  srclients : List κ
  /-- `interfaces`, once it is set. -/
  interfaces : Option (List VnsInterface)
  /-- `intfname_to_port`. -/
  intfnameToPort : List UInt8 → Option ℕ
  /-- `port_to_intfname`. -/
  portToIntfname : ℕ → Option (List UInt8)

/-- What the listener reacts to. -/
inductive ListenerEvent (κ : Type) where
  /-- A switch connects, with its ports; its dictionary is gone through in the order `order`. -/
  | connectionUp (ports : List SwitchPort) (order : DictOrder)
  /-- A client connects; the salt is drawn. -/
  | newClient (conn : κ) (salt : List UInt8)
  /-- A message of a client, or one that cannot be unpacked. -/
  | recvMsg (conn : κ) (vnsMsg : Option VnsMessage)
  /-- A client is gone. -/
  | disconnected (conn : κ)
  /-- A frame from a port of the switch. -/
  | packetIn (port : ℕ) (pkt : List UInt8)

/-- What it does. -/
inductive ListenerEffect (κ : Type) where
  /-- A message is sent to a client. -/
  | send (conn : κ) (m : VnsMessage)
  /-- A string is sent. -/
  | sendText (conn : κ) (text : List UInt8)
  /-- The connection is closed. -/
  | loseConnection (conn : κ)
  /-- `SRPacketOut`: the switch sends a frame out of a port. -/
  | packetOut (pkt : List UInt8) (port : ℕ)
  /-- An exception. -/
  | raised (e : Raised)

namespace Listener

variable {κ : Type}

/-- Source: `srhandler.py`, `SRServerListener.__init__` -/
def init : Listener κ := ⟨[], none, fun _ => none, fun _ => none⟩

/-- An interface and its port are entered into the dictionaries. -/
def enter (l : Listener κ) (p : PortInfo) : Listener κ :=
  { l with
    intfnameToPort := Function.update l.intfnameToPort p.intf (some p.port)
    portToIntfname := Function.update l.portToIntfname p.port (some p.intf) }

/-- The loop over `info`; the list of interfaces is set when it is through.
Source: `srhandler.py`, `_handle_RouterInfo` -/
def handleRouterInfo (l : Listener κ) (interfaces : List VnsInterface) :
    List PortInfo → Listener κ × List (ListenerEffect κ)
  | [] => ({ l with interfaces := some interfaces }, [])
  | p :: ps =>
      match p.interface with
      | .error e => (l, [.raised e])
      | .ok intf => handleRouterInfo (l.enter p) (interfaces ++ [intf]) ps

/-- `authenticated `*conn*` as user`. -/
def authenticated (conn : List UInt8) : List UInt8 :=
  [97, 117, 116, 104, 101, 110, 116, 105, 99, 97, 116, 101, 100, 32] ++ conn ++
    [32, 97, 115, 32, 117, 115, 101, 114]

/-- `Goodbyte!` -/
def goodbyte : List UInt8 := [71, 111, 111, 100, 98, 121, 116, 101, 33]

/-- Source: `srhandler.py`, `_handle_close_msg` -/
def handleCloseMsg (conn : κ) : List (ListenerEffect κ) :=
  [.sendText conn goodbyte, .loseConnection conn]

/-- Source: `srhandler.py`, `_handle_open_msg` -/
def handleOpenMsg (l : Listener κ) (conn : κ) : List (ListenerEffect κ) :=
  match l.interfaces with
  | some interfaces => [.send conn (.hwinfo interfaces)]
  | none => []

/-- A name that is not in the dictionary is logged with a port that has not been assigned.
Source: `srhandler.py`, `_handle_packet_msg` -/
def handlePacketMsg (l : Listener κ) (outIntf pkt : List UInt8) : List (ListenerEffect κ) :=
  match l.intfnameToPort outIntf with
  | some outPort => [.packetOut pkt outPort]
  | none => [.raised .unboundLocalError]

/-- There is no handler for a template. `str` is how a connection is printed.
Source: `srhandler.py`, `_handle_recv_msg`, `_handle_auth_reply` -/
def handleRecvMsg (str : κ → List UInt8) (l : Listener κ) (conn : κ) :
    Option VnsMessage → List (ListenerEffect κ)
  | none => handleCloseMsg conn
  | some (.authReply _ _) => [.send conn (.authStatus true (authenticated (str conn)))]
  | some (.openTopo _ _ _ _) => l.handleOpenMsg conn
  | some (.close _) => handleCloseMsg conn
  | some (.packet intfName ethernetFrame) => l.handlePacketMsg intfName ethernetFrame
  | some (.openTemplate _ _ _ _) => [.raised .attributeError]
  | some _ => []

/-- Source: `srhandler.py`, `broadcast` -/
def broadcast (l : Listener κ) (message : VnsMessage) : List (ListenerEffect κ) :=
  l.srclients.map fun client => .send client message

/-- Source: `srhandler.py`, the handlers of `SRServerListener`; `ofhandler.py`,
`OFHandler.__init__`, `_handle_PacketIn` -/
def step (routerIp : List UInt8 → Option (List UInt8)) (str : κ → List UInt8) (l : Listener κ) :
    ListenerEvent κ → Except Empty (Listener κ × List (ListenerEffect κ))
  | .connectionUp ports order =>
      .ok (l.handleRouterInfo [] (order.items (swInfo routerIp ports)))
  | .newClient conn salt =>
      .ok ({ l with srclients := l.srclients ++ [conn] }, [.send conn (.authRequest salt)])
  | .recvMsg conn vnsMsg => .ok (l, l.handleRecvMsg str conn vnsMsg)
  | .disconnected conn => .ok (l, [.loseConnection conn])
  | .packetIn port pkt =>
      match l.portToIntfname port with
      | some intfname => .ok (l, l.broadcast (.packet intfname pkt))
      | none => .ok (l, [])

end Listener

/-! ### The dictionaries -/

section dictionaries

variable {κ : Type} {routerIp : List UInt8 → Option (List UInt8)} {str : κ → List UInt8}
  {l l' : Listener κ} {tr : List (ListenerEvent κ × List (ListenerEffect κ))}
  {A : List UInt8 → ℕ → Prop} {out : List (ListenerEffect κ)}

/-- The connections clients have made, the first in front. -/
def clients (tr : List (ListenerEvent κ × List (ListenerEffect κ))) : List κ :=
  tr.filterMap fun x => match x.1 with
    | .newClient conn _ => some conn
    | _ => none

/-- A switch has said that an interface is at a port. -/
def Said (routerIp : List UInt8 → Option (List UInt8))
    (tr : List (ListenerEvent κ × List (ListenerEffect κ))) (intf : List UInt8) (port : ℕ) : Prop :=
  ∃ ports order, .connectionUp ports order ∈ tr.map Prod.fst ∧
    ∃ p ∈ swInfo routerIp ports, p.intf = intf ∧ p.port = port

/-- No interface has two ports, and no port is two interfaces. -/
def Agree (A : List UInt8 → ℕ → Prop) : Prop :=
  ∀ n p n' p', A n p → A n' p' → (n = n' ↔ p = p')

/-- Setting an item keeps the names apart. -/
theorem nodup_setItem {info : List PortInfo} (h : (info.map PortInfo.intf).Nodup) (p : PortInfo) :
    ((setItem info p).map PortInfo.intf).Nodup := by
  unfold setItem
  split_ifs with hmem
  · have hsame : (info.map fun q => if q.intf = p.intf then p else q).map PortInfo.intf =
        info.map PortInfo.intf := by
      rw [List.map_map]
      refine List.map_congr_left fun q _ => ?_
      show (if q.intf = p.intf then p else q).intf = q.intf
      split_ifs with heq
      · exact heq.symm
      · rfl
    rwa [hsame]
  · rw [List.map_append, List.map_singleton]
    exact List.Nodup.append h (List.nodup_singleton _) (List.disjoint_singleton.mpr hmem)

/-- Setting an item adds that item and no other. -/
theorem mem_setItem {info : List PortInfo} {p q : PortInfo} (h : q ∈ setItem info p) :
    q ∈ info ∨ q = p := by
  unfold setItem at h
  split_ifs at h with hmem
  · obtain ⟨r, hr, rfl⟩ := List.mem_map.mp h
    split_ifs
    · exact .inr rfl
    · exact .inl hr
  · rcases List.mem_append.mp h with h | h
    · exact .inl h
    · exact .inr (List.mem_singleton.mp h)

/-- What is set one after the other: the names are apart, and each item is one of those set. -/
theorem foldl_setItem {items info : List PortInfo} (h : (info.map PortInfo.intf).Nodup) :
    ((items.foldl setItem info).map PortInfo.intf).Nodup ∧
      ∀ p ∈ items.foldl setItem info, p ∈ info ∨ p ∈ items := by
  induction items generalizing info with
  | nil => exact ⟨h, fun p hp => .inl hp⟩
  | cons item items ih =>
      obtain ⟨hnodup, hmem⟩ := ih (nodup_setItem h item)
      refine ⟨hnodup, fun p hp => ?_⟩
      rcases hmem p hp with hp | hp
      · rcases mem_setItem hp with hp | rfl
        · exact .inl hp
        · exact .inr List.mem_cons_self
      · exact .inr (List.mem_cons_of_mem _ hp)

/-- Two ports that are interfaces have different numbers. -/
theorem nodup_info {ports : List SwitchPort} (h : (ports.map SwitchPort.portNo).Nodup) :
    ((ports.filterMap (SwitchPort.info routerIp)).map PortInfo.port).Nodup := by
  have hport : ∀ (port : SwitchPort) p, port.info routerIp = some p → p.port = port.portNo := by
    intro port p hp
    unfold SwitchPort.info at hp
    split at hp
    · obtain ⟨ip, -, rfl⟩ := Option.map_eq_some_iff.mp hp
      rfl
    · cases hp
  refine h.sublist ?_
  rw [List.map_filterMap]
  have hsub : ∀ ps : List SwitchPort, List.Sublist
      (ps.filterMap fun port => (port.info routerIp).map PortInfo.port)
      (ps.map SwitchPort.portNo) := by
    intro ps
    induction ps with
    | nil => exact .slnil
    | cons port ps ih =>
        cases hp : port.info routerIp with
        | none =>
            rw [List.filterMap_cons_none (by rw [hp]; rfl)]
            exact ih.cons _
        | some p =>
            rw [List.filterMap_cons_some (by rw [hp]; rfl), hport port p hp]
            exact ih.cons_cons _
  exact hsub ports

/-- **One switch agrees with itself**, however often it connects. -/
theorem agree_of_switch (ports : List SwitchPort) (hports : (ports.map SwitchPort.portNo).Nodup)
    (hsame : ∀ ports' order, .connectionUp ports' order ∈ tr.map Prod.fst → ports' = ports) :
    Agree (Said routerIp tr) := by
  obtain ⟨hnames, hitems⟩ : ((swInfo routerIp ports).map PortInfo.intf).Nodup ∧
      ∀ p ∈ swInfo routerIp ports, p ∈ [] ∨ p ∈ ports.filterMap (SwitchPort.info routerIp) :=
    foldl_setItem List.nodup_nil
  rintro n p n' p' ⟨_, _, hmem, a, ha, rfl, rfl⟩ ⟨_, _, hmem', b, hb, rfl, rfl⟩
  rw [hsame _ _ hmem] at ha
  rw [hsame _ _ hmem'] at hb
  have ha' := (hitems a ha).resolve_left List.not_mem_nil
  have hb' := (hitems b hb).resolve_left List.not_mem_nil
  constructor
  · intro heq
    rw [List.inj_on_of_nodup_map hnames ha hb heq]
  · intro heq
    rw [List.inj_on_of_nodup_map (nodup_info hports) ha' hb' heq]

/-- The dictionaries have only what `A` says, are inverse to each other, and have every interface
of the list. -/
structure Consistent (A : List UInt8 → ℕ → Prop) (l : Listener κ) : Prop where
  /-- What is entered has been said. -/
  said : ∀ n p, l.intfnameToPort n = some p → A n p
  /-- The one undoes the other. -/
  inverse : ∀ n p, l.intfnameToPort n = some p ↔ l.portToIntfname p = some n
  /-- An interface of the list has been entered. -/
  entered : ∀ intf ∈ l.interfaces.getD [], l.intfnameToPort intf.name ≠ none

/-- The interface of an item that is entered has a port. -/
theorem enter_self {p : PortInfo} : (l.enter p).intfnameToPort p.intf ≠ none := by
  have h : (l.enter p).intfnameToPort p.intf = some p.port := Function.update_self ..
  rw [h]
  exact Option.some_ne_none _

/-- Nothing is taken out. -/
theorem enter_ne_none {p : PortInfo} {n : List UInt8} (h : l.intfnameToPort n ≠ none) :
    (l.enter p).intfnameToPort n ≠ none := by
  by_cases hn : n = p.intf
  · rw [hn]
    exact enter_self
  · have hsame : (l.enter p).intfnameToPort n = l.intfnameToPort n := Function.update_of_ne hn ..
    rwa [hsame]

/-- Entering an item that agrees keeps the dictionaries consistent. -/
theorem Consistent.enter {p : PortInfo} (hA : Agree A) (h : Consistent A l)
    (hp : A p.intf p.port) : Consistent A (l.enter p) := by
  have hname : ∀ n, (l.enter p).intfnameToPort n =
      if n = p.intf then some p.port else l.intfnameToPort n :=
    fun n => Function.update_apply ..
  have hport : ∀ k, (l.enter p).portToIntfname k =
      if k = p.port then some p.intf else l.portToIntfname k :=
    fun k => Function.update_apply ..
  constructor
  case said =>
    intro n k hn
    rw [hname] at hn
    split_ifs at hn with heq
    · rw [heq, ← Option.some.inj hn]
      exact hp
    · exact h.said n k hn
  case inverse =>
    intro n k
    rw [hname, hport]
    split_ifs with hn hk hk
    · simp [hn, hk]
    · -- the name has another port, and its old entry would have to be this one
      constructor
      · intro heq
        exact absurd (Option.some.inj heq).symm hk
      · intro heq
        have := h.said n k ((h.inverse n k).mpr heq)
        exact absurd ((hA _ _ _ _ this hp).mp hn) hk
    · constructor
      · intro heq
        exact absurd ((hA _ _ _ _ (h.said n k heq) hp).mpr hk) hn
      · intro heq
        exact absurd (Option.some.inj heq).symm hn
    · exact h.inverse n k
  case entered =>
    exact fun intf hintf => enter_ne_none (h.entered intf hintf)

/-- What the constructor of an interface makes of it. -/
theorem name_interface {p : PortInfo} {intf : VnsInterface} (h : p.interface = .ok intf) :
    intf.name = p.intf := by
  unfold PortInfo.interface at h
  split at h
  · unfold mkVnsInterface at h
    split_ifs at h
    rw [← Except.ok.inj h]
  · cases h

/-- What the loop keeps, whether it comes to its end or not. -/
theorem handleRouterInfo_spec (hA : Agree A) {interfaces : List VnsInterface}
    {info : List PortInfo} (hinfo : ∀ p ∈ info, A p.intf p.port) (h : Consistent A l)
    (hentered : ∀ intf ∈ interfaces, l.intfnameToPort intf.name ≠ none) :
    Consistent A (l.handleRouterInfo interfaces info).1 ∧
      (l.handleRouterInfo interfaces info).1.srclients = l.srclients := by
  induction info generalizing l interfaces with
  | nil => exact ⟨⟨h.said, h.inverse, hentered⟩, rfl⟩
  | cons p ps ih =>
      obtain ⟨hp, hps⟩ := List.forall_mem_cons.mp hinfo
      rw [Listener.handleRouterInfo]
      cases hintf : p.interface with
      | error e => exact ⟨h, rfl⟩
      | ok intf =>
          refine ih hps (h.enter hA hp) fun i hi => ?_
          rcases List.mem_append.mp hi with hi | hi
          · exact enter_ne_none (hentered i hi)
          · rw [List.mem_singleton.mp hi, name_interface hintf]
            exact enter_self

/-- The dictionaries are consistent in every run, and the clients are those that have come. -/
theorem consistent_of_run (h : Run (Listener.step routerIp str) .init tr l) (hA : Agree A)
    (hsaid : ∀ n p, Said routerIp tr n p → A n p) :
    Consistent A l ∧ l.srclients = clients tr := by
  induction h with
  | nil =>
      refine ⟨⟨?_, ?_, ?_⟩, rfl⟩
      · rintro n p ⟨⟩
      · exact fun n p => ⟨nofun, nofun⟩
      · rintro intf ⟨⟩
  | @snoc tr l l' e out _ hs ih =>
      obtain ⟨hC, hclients⟩ := ih fun n p ⟨ports, order, hmem, hp⟩ =>
        hsaid n p ⟨ports, order, by rw [List.map_append]; exact List.mem_append_left _ hmem, hp⟩
      have hsnoc : clients (tr ++ [(e, out)]) = clients tr ++ clients [(e, out)] :=
        List.filterMap_append
      rw [hsnoc, ← hclients]
      cases e with
      | connectionUp ports order =>
          have hports : ∀ p ∈ order.items (swInfo routerIp ports), A p.intf p.port := fun p hp =>
            hsaid _ _ ⟨ports, order, by simp, p, (order.perm _).mem_iff.mp hp, rfl, rfl⟩
          obtain ⟨hC', hsame⟩ := handleRouterInfo_spec hA hports hC (List.forall_mem_nil _)
          obtain ⟨rfl, -⟩ := Prod.mk.inj (Except.ok.inj hs)
          exact ⟨hC', hsame.trans (List.append_nil _).symm⟩
      | newClient conn salt =>
          obtain ⟨rfl, -⟩ := Prod.mk.inj (Except.ok.inj hs)
          exact ⟨⟨hC.said, hC.inverse, hC.entered⟩, rfl⟩
      | recvMsg | disconnected =>
          obtain ⟨rfl, -⟩ := Prod.mk.inj (Except.ok.inj hs)
          exact ⟨hC, (List.append_nil _).symm⟩
      | packetIn port pkt =>
          have hl : l' = l := by
            simp only [Listener.step] at hs
            split at hs <;> exact (Prod.mk.inj (Except.ok.inj hs)).1.symm
          rw [hl]
          exact ⟨hC, (List.append_nil _).symm⟩

/-- Frames that come in at a port are sent to all clients under a name, and frames that clients send
under that name go out of the port. -/
structure AtPort (routerIp : List UInt8 → Option (List UInt8)) (str : κ → List UInt8)
    (tr : List (ListenerEvent κ × List (ListenerEffect κ))) (l : Listener κ) (name : List UInt8)
    (port : ℕ) : Prop where
  /-- A switch has said so. -/
  said : Said routerIp tr name port
  /-- From the switch to the clients. -/
  comesIn : ∀ pkt, l.step routerIp str (.packetIn port pkt) =
    .ok (l, (clients tr).map fun conn => .send conn (.packet name pkt))
  /-- From a client to the switch. -/
  goesOut : ∀ conn frame, l.step routerIp str (.recvMsg conn (some (.packet name frame))) =
    .ok (l, [.packetOut frame port])

/-- A name that leads to a port is at that port. -/
theorem Consistent.atPort {name : List UInt8} {port : ℕ} (h : Consistent (Said routerIp tr) l)
    (hclients : l.srclients = clients tr) (hname : l.intfnameToPort name = some port) :
    AtPort routerIp str tr l name port where
  said := h.said name port hname
  comesIn pkt := by
    simp only [Listener.step, (h.inverse name port).mp hname, Listener.broadcast, hclients]
  goesOut conn frame := by
    simp only [Listener.step, Listener.handleRecvMsg, Listener.handlePacketMsg, hname]

/-- **Ports and interfaces.** In every state the listener reaches, if no switch has contradicted
another: a port either leads to the interface some switch said it is, and back, or what comes in
there is ignored; a frame under any other name is an error, and goes nowhere; and every interface
clients are told of has a port. A client that has gone is still sent every frame. -/
theorem switching_of_run (h : Run (Listener.step routerIp str) .init tr l)
    (hA : Agree (Said routerIp tr)) :
    (∀ port, (∃ name, AtPort routerIp str tr l name port) ∨
      ∀ pkt, l.step routerIp str (.packetIn port pkt) = .ok (l, [])) ∧
    (∀ name, (∃ port, AtPort routerIp str tr l name port) ∨
      ∀ conn frame, l.step routerIp str (.recvMsg conn (some (.packet name frame))) =
        .ok (l, [.raised .unboundLocalError])) ∧
    ∀ intf ∈ l.interfaces.getD [], ∃ port, AtPort routerIp str tr l intf.name port := by
  obtain ⟨hC, hclients⟩ := consistent_of_run h hA fun _ _ hsaid => hsaid
  refine ⟨fun port => ?_, fun name => ?_, fun intf hintf => ?_⟩
  · cases hport : l.portToIntfname port with
    | some name => exact .inl ⟨name, hC.atPort hclients ((hC.inverse name port).mpr hport)⟩
    | none =>
        right
        intro pkt
        simp only [Listener.step, hport]
  · cases hname : l.intfnameToPort name with
    | some port => exact .inl ⟨port, hC.atPort hclients hname⟩
    | none =>
        right
        intro conn frame
        simp only [Listener.step, Listener.handleRecvMsg, Listener.handlePacketMsg, hname]
  · obtain ⟨port, hport⟩ := Option.ne_none_iff_exists'.mp (hC.entered intf hintf)
    exact ⟨port, hC.atPort hclients hport⟩

end dictionaries

/-- A switch `s0` with `s0-eth1` and `s0-eth2`, and a port for itself. -/
def twoPortSwitch : List SwitchPort :=
  [⟨[115, 48], [48, 50, 58, 48, 48, 58, 48, 48, 58, 48, 48, 58, 48, 48, 58, 48, 57], 65534⟩,
    ⟨[115, 48, 45, 101, 116, 104, 49],
      [48, 50, 58, 48, 48, 58, 48, 48, 58, 48, 48, 58, 48, 48, 58, 48, 49], 1⟩,
    ⟨[115, 48, 45, 101, 116, 104, 50],
      [48, 50, 58, 48, 48, 58, 48, 48, 58, 48, 48, 58, 48, 48, 58, 48, 50], 2⟩]

/-- `10.0.1.1` for `eth1`, `10.0.2.1` for `eth2`. -/
def twoPortIps (intf : List UInt8) : Option (List UInt8) :=
  if intf = [101, 116, 104, 49] then some [49, 48, 46, 48, 46, 49, 46, 49]
  else if intf = [101, 116, 104, 50] then some [49, 48, 46, 48, 46, 50, 46, 49]
  else none

/-- The switch connects, and two clients do, one of which goes. -/
def twoClients : List (ListenerEvent ℕ) :=
  [.connectionUp twoPortSwitch .insertion, .newClient 1 [], .newClient 2 [], .disconnected 1]

/-- Frames of `eth2` have a port, and go to both clients. -/
theorem switching_twoPortSwitch : ∃ tr l port,
    Run (Listener.step twoPortIps fun _ : ℕ => []) .init tr l ∧ clients tr = [1, 2] ∧
    AtPort twoPortIps (fun _ => []) tr l [101, 116, 104, 50] port := by
  obtain ⟨tr, l, hrun, hinputs, htest⟩ := exists_run (Listener.step twoPortIps fun _ : ℕ => [])
    .init twoClients
    (fun l tr => [101, 116, 104, 50] ∈ (l.interfaces.getD []).map VnsInterface.name ∧
      clients tr = [1, 2]) (by decide +kernel)
  obtain ⟨hname, hclients⟩ := of_decide_eq_true htest
  obtain ⟨intf, hintf, heth2⟩ := List.mem_map.mp hname
  have hagree : Agree (Said twoPortIps tr) := by
    refine agree_of_switch twoPortSwitch (by decide) fun ports order hports => ?_
    rw [hinputs] at hports
    have hone : ports = twoPortSwitch ∧ order = .insertion := by simpa [twoClients] using hports
    exact hone.1
  obtain ⟨port, hport⟩ := (switching_of_run hrun hagree).2.2 intf hintf
  exact ⟨tr, l, port, hrun, hclients, heth2 ▸ hport⟩

end SimpleRouter
