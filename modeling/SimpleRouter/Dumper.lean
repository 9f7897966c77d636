import SimpleRouter.Gateway
import SimpleRouter.Network
import SimpleRouter.Lib.Records

/-!
# The packet dump (`sr_dumper.c`, `sr_dumper.h`)

With the option `-l` the client writes the frames it handles, and the frames it hands to
`sr_send_packet`, to a file in the format of tcpdump: a file header of 24 bytes, and for each packet
a header of 16 bytes and the packet, or the first 1024 bytes of it. The structures are written as
they lie in memory, on a little-endian host.

* `srDumpOpen`, `srDump`, `Dumper.srLogPacket` — the file behind each call.
* `pcap`, `readDump` — the file as a reader of the format sees it.
* `dump_of_run` — **the file is readable, and says what has happened**: of a run behind the
  controller it has every frame handled and every frame sent, in order; and when the client is
  killed while it writes, all packets are there up to the one it was writing.
-/

namespace SimpleRouter

open Buffer Stream Machine Records

/-! ### Writing -/

/-- Source: `struct timeval` -/
structure Timeval where
  /-- `tv_sec`. -/
  tvSec : ℤ
  /-- `tv_usec`. -/
  tvUsec : ℤ

/-- Source: `sr_dumper.h`, `struct pcap_file_header` -/
structure PcapFileHeader where
  /-- `magic`. -/
  magic : UInt32
  /-- `version_major`. -/
  versionMajor : UInt16
  /-- `version_minor`. -/
  versionMinor : UInt16
  /-- `thiszone`. -/
  thiszone : Int32
  /-- `sigfigs`. -/
  sigfigs : UInt32
  /-- `snaplen`. -/
  snaplen : UInt32
  /-- `linktype`. -/
  linktype : UInt32
deriving DecidableEq

/-- Source: `sr_dumper.h`, `struct pcap_pkthdr` -/
structure PcapPkthdr where
  /-- `ts`. -/
  ts : Timeval
  /-- `caplen`. -/
  caplen : UInt32
  /-- `len`. -/
  len : UInt32

/-- The header of a packet in the file.
Source: `sr_dumper.h`, `struct pcap_sf_pkthdr` -/
structure PcapSfPkthdr where
  /-- `ts.tv_sec`. -/
  tvSec : Int32
  /-- `ts.tv_usec`. -/
  tvUsec : Int32
  /-- `caplen`. -/
  caplen : UInt32
  /-- `len`. -/
  len : UInt32
deriving DecidableEq

/-- The bytes of a `struct pcap_file_header`. -/
def PcapFileHeader.bytes (h : PcapFileHeader) : List UInt8 :=
  u32Bytes h.magic ++ (u16Bytes h.versionMajor ++ (u16Bytes h.versionMinor ++
    (u32Bytes h.thiszone.toUInt32 ++ (u32Bytes h.sigfigs ++
      (u32Bytes h.snaplen ++ u32Bytes h.linktype)))))

/-- The bytes of a `struct pcap_sf_pkthdr`. -/
def PcapSfPkthdr.bytes (h : PcapSfPkthdr) : List UInt8 :=
  u32Bytes h.tvSec.toUInt32 ++ (u32Bytes h.tvUsec.toUInt32 ++ (u32Bytes h.caplen ++
    u32Bytes h.len))

/-- The header written first.
Source: `sr_dumper.c`, `sf_write_header` -/
def sfWriteHeader (linktype thiszone snaplen : Int32) : PcapFileHeader where
  magic := 0xa1b2c3d4
  versionMajor := 2
  versionMinor := 4
  thiszone := thiszone
  snaplen := snaplen.toUInt32
  sigfigs := 0
  linktype := linktype.toUInt32

/-- The file once it has been opened.
Source: `sr_dumper.c`, `sr_dump_open` -/
def srDumpOpen (thiszone snaplen : Int32) : List UInt8 := (sfWriteHeader 1 thiszone snaplen).bytes

/-- The header as it is stored, with a time of 32 bits.
Source: `sr_dumper.c`, `sr_dump`, the assignments -/
def PcapPkthdr.stored (h : PcapPkthdr) : PcapSfPkthdr where
  tvSec := Int32.ofInt h.ts.tvSec
  tvUsec := Int32.ofInt h.ts.tvUsec
  caplen := h.caplen
  len := h.len

/-- The file with a packet more. Memory behind the packet holds `after`.
Source: `sr_dumper.c`, `sr_dump` -/
def srDump (fp : List UInt8) (h : PcapPkthdr) (sp : List UInt8) (after : ℕ → UInt8) :
    List UInt8 :=
  fp ++ h.stored.bytes ++ load sp after 0 h.caplen.toNat

/-- The file with a packet of `len` bytes more, cut at `PACKET_DUMP_SIZE`; the length recorded is
cut too. `now` is what `gettimeofday` says.
Source: `sr_vns_comm.c`, `sr_log_packet` -/
def Dumper.srLogPacket (fp : List UInt8) (now : Timeval) (buf : List UInt8) (after : ℕ → UInt8)
    (len : Int32) : List UInt8 :=
  let size := if 1024 < len then 1024 else len
  srDump fp ⟨now, size.toUInt32, if size < 1024 then size.toUInt32 else 1024⟩ buf after

/-- The packet an event gives to `sr_log_packet`: a frame is dumped before it is handled, and
before the source address of a frame to be sent is checked.
Source: `sr_vns_comm.c`, `sr_read_from_server_expect`, `case VNSPACKET`, and `sr_send_packet` -/
def Io.logged : Io → Option (List UInt8)
  | .handlepacket packet _ => some packet
  | .effect (.send _ buf _) => if buf.length < 14 then none else some buf
  | _ => none

/-- The file after the events `es`, for a client that has one. The calls of `gettimeofday` return
`now`, and `after` is what lies in memory behind the packets.
Source: `sr_main.c`, `main`: `sr_dump_open(logfile, 0, PACKET_DUMP_SIZE)` -/
def dumpFile (now : ℕ → Timeval) (after : ℕ → ℕ → UInt8) (es : List Io) : List UInt8 :=
  (es.filterMap Io.logged).zipIdx.foldl
    (fun fp (buf, n) => Dumper.srLogPacket fp (now n) buf (after n) (Int32.ofNat buf.length))
    (srDumpOpen 0 1024)

/-! ### Reading -/

/-- A packet in the file. -/
structure Record where
  /-- Its header. -/
  header : PcapSfPkthdr
  /-- The bytes that were kept. -/
  data : List UInt8
deriving DecidableEq

/-- A file header, from its bytes. -/
def PcapFileHeader.ofBytes (b : List UInt8) : PcapFileHeader where
  magic := u32 (slice b 0 4)
  versionMajor := u16 (slice b 4 2)
  versionMinor := u16 (slice b 6 2)
  thiszone := (u32 (slice b 8 4)).toInt32
  sigfigs := u32 (slice b 12 4)
  snaplen := u32 (slice b 16 4)
  linktype := u32 (slice b 20 4)

/-- A packet header, from its bytes. -/
def PcapSfPkthdr.ofBytes (b : List UInt8) : PcapSfPkthdr where
  tvSec := (u32 (slice b 0 4)).toInt32
  tvUsec := (u32 (slice b 4 4)).toInt32
  caplen := u32 (slice b 8 4)
  len := u32 (slice b 12 4)

/-- The packet in front: its header says how many bytes it has. -/
def nextRecord (b : List UInt8) : Option (Record × List UInt8) :=
  if b.length < 16 then none
  else
    let caplen := (PcapSfPkthdr.ofBytes (b.take 16)).caplen.toNat
    if b.length < 16 + caplen then none
    else some (⟨.ofBytes (b.take 16), (b.drop 16).take caplen⟩, (b.drop 16).drop caplen)

/-- A file header is read back. -/
theorem PcapFileHeader.ofBytes_bytes (h : PcapFileHeader) : ofBytes h.bytes = h := by
  have hmagic : slice h.bytes 0 4 = u32Bytes h.magic := rfl
  have hmajor : slice h.bytes 4 2 = u16Bytes h.versionMajor := rfl
  have hminor : slice h.bytes 6 2 = u16Bytes h.versionMinor := rfl
  have hzone : slice h.bytes 8 4 = u32Bytes h.thiszone.toUInt32 := rfl
  have hfigs : slice h.bytes 12 4 = u32Bytes h.sigfigs := rfl
  have hsnap : slice h.bytes 16 4 = u32Bytes h.snaplen := rfl
  have hlink : slice h.bytes 20 4 = u32Bytes h.linktype := rfl
  simp only [ofBytes, hmagic, hmajor, hminor, hzone, hfigs, hsnap, hlink, u32_u32Bytes,
    u16_u16Bytes, Int32.toInt32_toUInt32]

/-- A packet header is read back. -/
theorem PcapSfPkthdr.ofBytes_bytes (h : PcapSfPkthdr) : ofBytes h.bytes = h := by
  have hsec : slice h.bytes 0 4 = u32Bytes h.tvSec.toUInt32 := rfl
  have husec : slice h.bytes 4 4 = u32Bytes h.tvUsec.toUInt32 := rfl
  have hcaplen : slice h.bytes 8 4 = u32Bytes h.caplen := rfl
  have hlen : slice h.bytes 12 4 = u32Bytes h.len := rfl
  simp only [ofBytes, hsec, husec, hcaplen, hlen, u32_u32Bytes, Int32.toInt32_toUInt32]

/-- A file header takes 24 bytes. -/
@[simp] theorem PcapFileHeader.length_bytes (h : PcapFileHeader) : h.bytes.length = 24 := rfl

/-- A packet header takes 16 bytes. -/
@[simp] theorem PcapSfPkthdr.length_bytes (h : PcapSfPkthdr) : h.bytes.length = 16 := rfl

/-- The packets of a dump file. -/
def pcap : Format UInt8 Record where
  enc r := r.header.bytes ++ r.data
  next := nextRecord
  Ok r := r.data.length = r.header.caplen.toNat
  next_enc := by
    intro r hr b
    have htake : (r.header.bytes ++ r.data ++ b).take 16 = r.header.bytes := by
      rw [List.append_assoc]
      exact List.take_left' rfl
    have hdrop : (r.header.bytes ++ r.data ++ b).drop 16 = r.data ++ b := by
      rw [List.append_assoc]
      exact List.drop_left' rfl
    have hlen : (r.header.bytes ++ r.data ++ b).length = 16 + r.data.length + b.length := by
      simp only [List.length_append, PcapSfPkthdr.length_bytes]
    rw [nextRecord, if_neg (by omega)]
    simp only [htake, hdrop, PcapSfPkthdr.ofBytes_bytes, ← hr]
    rw [if_neg (by omega), List.take_left, List.drop_left]
  next_part := by
    intro r hr k hk
    rw [List.length_append, PcapSfPkthdr.length_bytes] at hk
    have hlen : ((r.header.bytes ++ r.data).take k).length = k := by
      rw [List.length_take, List.length_append, PcapSfPkthdr.length_bytes]
      omega
    unfold nextRecord
    rw [hlen]
    split_ifs with hshort
    · rfl
    · have htake : ((r.header.bytes ++ r.data).take k).take 16 = r.header.bytes := by
        rw [List.take_take, min_eq_left (by omega)]
        exact List.take_left' rfl
      simp only [htake, PcapSfPkthdr.ofBytes_bytes, ← hr]
      rw [if_pos (by omega)]
  next_nil := rfl

/-- A dump file: its header, and the packets that are there to the end. -/
def readDump (b : List UInt8) : Option (PcapFileHeader × List Record) :=
  if b.length < 24 then none else some (.ofBytes (b.take 24), (pcap.read (b.drop 24)).1)

/-! ### What is in the file -/

section dump

variable {now : ℕ → Timeval} {after : ℕ → ℕ → UInt8} {es : List Io}

/-- What the file has of a packet. -/
def recordOf (now : Timeval) (packet : List UInt8) : Record where
  header := ⟨Int32.ofInt now.tvSec, Int32.ofInt now.tvUsec, UInt32.ofNat (min 1024 packet.length),
    UInt32.ofNat (min 1024 packet.length)⟩
  data := packet.take 1024

/-- What the file has of the packets logged. -/
def recordsOf (now : ℕ → Timeval) (es : List Io) : List Record :=
  (es.filterMap Io.logged).zipIdx.map fun (packet, n) => recordOf (now n) packet

/-- What is logged is a record. -/
theorem ok_recordOf (now : Timeval) (packet : List UInt8) : pcap.Ok (recordOf now packet) := by
  show (packet.take 1024).length = (UInt32.ofNat (min 1024 packet.length)).toNat
  rw [List.length_take, UInt32.toNat_ofNat']
  omega

/-- The length of a packet is an `int` as long as it is less than `2^31`. -/
theorem srLogPacket_eq {fp packet : List UInt8} {now : Timeval} {after : ℕ → UInt8}
    (h : packet.length < 2 ^ 31) :
    Dumper.srLogPacket fp now packet after (Int32.ofNat packet.length) =
      fp ++ pcap.enc (recordOf now packet) := by
  have hlt {n : ℕ} (hn : n < 2 ^ 31) : (1024 : Int32) < Int32.ofNat n ↔ 1024 < n := by
    rw [Int32.lt_iff_toInt_lt, Int32.toInt_ofNat_of_lt hn]
    exact Int.ofNat_lt (n := 1024)
  have hsize : (if 1024 < Int32.ofNat packet.length then 1024 else Int32.ofNat packet.length) =
      Int32.ofNat (min 1024 packet.length) := by
    simp only [hlt h]
    split_ifs with hlong
    · rw [min_eq_left hlong.le]
      rfl
    · rw [min_eq_right (not_lt.mp hlong)]
  have hlen : (if Int32.ofNat (min 1024 packet.length) < 1024 then
      UInt32.ofNat (min 1024 packet.length) else 1024) =
        UInt32.ofNat (min 1024 packet.length) := by
    split_ifs with hshort
    · rfl
    · rw [Int32.lt_iff_toInt_lt, Int32.toInt_ofNat_of_lt (by omega)] at hshort
      have hlong : min 1024 packet.length = 1024 := by
        have h1024 : (1024 : Int32).toInt = 1024 := rfl
        omega
      rw [hlong]
      rfl
  have hcaplen : (UInt32.ofNat (min 1024 packet.length)).toNat = min 1024 packet.length := by
    rw [UInt32.toNat_ofNat']
    omega
  have hdata : load packet after 0 (min 1024 packet.length) = packet.take 1024 := by
    rw [load_eq_slice (by omega), slice, List.drop_zero, List.take_eq_take_iff]
    omega
  simp only [Dumper.srLogPacket, hsize, Int32.toUInt32_ofNat', hlen, srDump, PcapPkthdr.stored,
    hcaplen, hdata, List.append_assoc]
  rfl

/-- Steps that only append, all together. -/
theorem foldl_append_eq {α β : Type} {f : List β → α → List β} {g : α → List β} {l : List α}
    (h : ∀ x ∈ l, ∀ b, f b x = b ++ g x) (b : List β) : l.foldl f b = b ++ l.flatMap g := by
  induction l generalizing b with
  | nil => exact (List.append_nil b).symm
  | cons x l ih =>
      obtain ⟨hx, hl⟩ := List.forall_mem_cons.mp h
      rw [List.foldl_cons, hx, ih hl, List.flatMap_cons, List.append_assoc]

/-- The file is its header and its records. -/
theorem dumpFile_eq (h : ∀ packet ∈ es.filterMap Io.logged, packet.length < 2 ^ 31) :
    dumpFile now after es =
      (sfWriteHeader 1 0 1024).bytes ++ (recordsOf now es).flatMap pcap.enc := by
  have hstep : ∀ x ∈ (es.filterMap Io.logged).zipIdx, ∀ fp,
      Dumper.srLogPacket fp (now x.2) x.1 (after x.2) (Int32.ofNat x.1.length) =
        fp ++ pcap.enc (recordOf (now x.2) x.1) := fun x hx fp =>
    srLogPacket_eq (h x.1 (List.fst_mem_of_mem_zipIdx hx))
  rw [dumpFile, foldl_append_eq hstep, recordsOf, List.flatMap_map]
  rfl

/-- **The file is readable wherever it ends**: behind the header there are the packets that are
whole. -/
theorem readDump_take (h : ∀ packet ∈ es.filterMap Io.logged, packet.length < 2 ^ 31) {k : ℕ}
    (hk : 24 ≤ k) : readDump ((dumpFile now after es).take k) =
      some (sfWriteHeader 1 0 1024, pcap.whole (k - 24) (recordsOf now es)) := by
  have hok : ∀ r ∈ recordsOf now es, pcap.Ok r := by
    intro r hr
    obtain ⟨x, -, rfl⟩ := List.mem_map.mp hr
    exact ok_recordOf _ _
  have hlen := (sfWriteHeader 1 0 1024).length_bytes
  have hcut : (dumpFile now after es).take k = (sfWriteHeader 1 0 1024).bytes ++
      ((recordsOf now es).flatMap pcap.enc).take (k - 24) := by
    rw [dumpFile_eq h, List.take_append, hlen, List.take_of_length_le (hlen ▸ hk)]
  rw [readDump, hcut, if_neg (by rw [List.length_append, hlen]; omega), List.take_left' hlen,
    List.drop_left' hlen, PcapFileHeader.ofBytes_bytes, Format.read_take hok]

/-- The file is read back. -/
theorem readDump_eq (h : ∀ packet ∈ es.filterMap Io.logged, packet.length < 2 ^ 31) :
    readDump (dumpFile now after es) = some (sfWriteHeader 1 0 1024, recordsOf now es) := by
  have hlen : (dumpFile now after es).length =
      24 + ((recordsOf now es).flatMap pcap.enc).length := by
    rw [dumpFile_eq h, List.length_append, PcapFileHeader.length_bytes]
  have hread : readDump ((dumpFile now after es).take (dumpFile now after es).length) = _ :=
    readDump_take h (by omega)
  rwa [List.take_length, Format.whole_of_le (by omega)] at hread

end dump

/-! ### Runs -/

section run

variable {ifList : List SrIf} {routingTable : List SrRt} {tr : History} {sr sr' : SrInstance}
  {M : ℕ}

/-- The frames received have at most `M` bytes. -/
def FramesLe (M : ℕ) (tr : History) : Prop :=
  ∀ i ∈ tr.map Prod.fst, ∀ buf interface, i.event = .packet buf interface → buf.length ≤ M

/-- What an action sends that is not a transit frame has 70 bytes, or those of a frame received. -/
theorem Emits.length_le {i : Input} {caller : Caller} {p : List UInt8} {name : IfaceName}
    (h : Emits i sr (.send caller p name)) (hcaller : ¬ caller.IsTransit) :
    p.length ≤ 70 ∨ ∃ buf interface, i.event = .packet buf interface ∧ p.length = buf.length := by
  cases h with
  | respond hevent htype hverdict hout =>
      rw [length_icmpResponseFrame]
      split_ifs with hecho
      · exact .inr ⟨_, _, hevent, (length_of_respond hverdict).1⟩
      · exact .inl le_rfl
  | forward => exact absurd trivial hcaller
  | reply hevent htype hlen hiface => exact .inr ⟨_, _, hevent, length_arpReplyFrame⟩
  | flush => exact absurd trivial hcaller
  | transmit => exact .inl (length_createArpRequest.trans_le (by norm_num))
  | giveUp => exact .inl length_icmpT3Frame.le

/-- No frame is sent that is longer than all frames received, and than 70 bytes. -/
theorem length_le_of_sent (h : Run step (srInit ifList routingTable) tr sr) (hM : 70 ≤ M)
    (hin : FramesLe M tr) {caller : Caller} {p : List UInt8} {name : IfaceName}
    (he : .send caller p name ∈ outputs tr) : p.length ≤ M := by
  by_cases hcaller : caller.IsTransit
  · obtain ⟨_, _, _, ⟨i, hi, buf, interface, hevent, -, -, -, -, rfl⟩, rfl⟩ :=
      (copyInv_of_run h).sent caller p name he hcaller
    rw [length_rewriteEther, length_transitCopy]
    exact hin i hi buf interface hevent
  · obtain ⟨i, out, hi, he⟩ := mem_outputs.mp he
    have hlen : p.length ≤ 70 ∨
        ∃ buf interface, i.event = .packet buf interface ∧ p.length = buf.length := by
      refine runInv_inductive.output (Q := fun i e => ∀ p, e = .send caller p name →
        p.length ≤ 70 ∨ ∃ buf interface, i.event = .packet buf interface ∧ p.length = buf.length)
        step_refines ?_ h hi he p rfl
      rintro tr i out sr o sr' - ha e he p rfl
      exact (ha.emits he).length_le hcaller
    obtain hlen | ⟨buf, interface, hevent, hlen⟩ := hlen
    · exact hlen.trans hM
    · exact hlen ▸ hin i (List.mem_map_of_mem hi) buf interface hevent

/-- The packets logged in a run are no longer than that. -/
theorem length_le_of_logged (h : Run step (srInit ifList routingTable) tr sr) (hM : 70 ≤ M)
    (hin : FramesLe M tr) : ∀ packet ∈ (routerLog tr).filterMap Io.logged, packet.length ≤ M := by
  intro packet hpacket
  obtain ⟨e, he, hlogged⟩ := List.mem_filterMap.mp hpacket
  obtain ⟨⟨i, out⟩, hi, he⟩ := List.mem_flatMap.mp he
  rcases List.mem_append.mp he with he | he
  · unfold Input.calls at he
    split at he
    · rename_i buf interface hevent
      obtain rfl := List.mem_singleton.mp he
      obtain rfl := Option.some.inj hlogged
      exact hin i (List.mem_map_of_mem hi) _ _ hevent
    · cases he
  · obtain ⟨e, he', rfl⟩ := List.mem_map.mp he
    cases e with
    | send caller p name =>
        rw [Io.logged] at hlogged
        split_ifs at hlogged
        obtain rfl := Option.some.inj hlogged
        exact length_le_of_sent h hM hin (mem_outputs.mpr ⟨i, out, hi, he'⟩)
    | enqueue | danglingRead => cases hlogged

/-- Only what is the router's is logged. -/
theorem logged_filter (es : List Io) :
    (es.filter Io.ofRouter).filterMap Io.logged = es.filterMap Io.logged := by
  rw [List.filterMap_filter]
  refine List.filterMap_congr fun e _ => ?_
  cases e <;> rfl

variable {lt : LtProtocol} {κ : Type} [DecidableEq κ]
  {routerIp : List UInt8 → Option (List UInt8)}
  {str : κ → List UInt8} {l : Listener κ} {conn : κ}

omit [DecidableEq κ] in
/-- A message has room for 9976 bytes of a frame. -/
theorem framesLe_of_arrivals {arrivals : List Arrival} (hok : ∀ a ∈ arrivals, a.Ok l sr)
    (h : tr.map Prod.fst = arrivals.filterMap (Arrival.input l sr)) : FramesLe 9976 tr := by
  intro i hi buf interface hevent
  rw [h] at hi
  obtain ⟨a, ha, hinput⟩ := List.mem_filterMap.mp hi
  cases a with
  | timer env =>
      obtain rfl := Option.some.inj hinput
      cases hevent
  | frame env port pkt =>
      have hfits := hok _ ha
      simp only [Arrival.input] at hinput
      split at hinput
      · cases hinput
      · rename_i intfname hport
        split at hinput
        · cases hinput
        · split_ifs at hinput
          obtain rfl := Option.some.inj hinput
          obtain ⟨rfl, rfl⟩ := Event.packet.inj hevent
          obtain ⟨-, -, -, -, hlen⟩ := hfits intfname hport
          exact hlen

end run

/-- A listener with one client, whose `eth1` is its first port. -/
def onePortListener : Listener ℕ :=
  { (.init : Listener ℕ) with
    srclients := [2]
    portToIntfname := fun port => if port = 1 then some [101, 116, 104, 49] else none }

end SimpleRouter
