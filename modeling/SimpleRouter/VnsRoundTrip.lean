import SimpleRouter.VnsProtocol
import SimpleRouter.Lib.Run

/-!
# Lengths and round trips of the server's messages

* `length_eq_iff` — **`length()` is the length of what `pack()` returns** for every class but two:
  `VNSOpenTemplate` counts the template name twice, and `VNSAuthReply` does not count the length
  field of the user name.
* `message_unpack_pack` — **a packed message is unpacked to itself**, for the nine classes that have
  `unpack`, if its strings fit their fields (`WellFormed`).

The text of an address comes back because a dotted quad names the address it was printed from
(`inetAton_inetNtoa`).
-/

namespace SimpleRouter

open Buffer Wire

/-! ### Addresses as text -/

/-- A byte is read as it was printed, and is printed in digits: a computation for each byte. -/
theorem decimal_spec : (List.range 256).all (fun n =>
    decide (parseNumber (decimal (UInt8.ofNat n)) = some n) &&
      (decimal (UInt8.ofNat n)).all fun c => c != 46 && !isSpace c) = true := by
  decide +kernel

/-- A byte in decimal, for each of them. -/
theorem decimal_spec_of_byte (b : UInt8) :
    (decide (parseNumber (decimal b) = some b.toNat) &&
      (decimal b).all fun c => c != 46 && !isSpace c) = true := by
  have h := List.all_eq_true.mp decimal_spec b.toNat (List.mem_range.mpr b.toNat_lt)
  rwa [UInt8.ofNat_toNat] at h

/-- A byte in decimal is read back. -/
theorem parseNumber_decimal (b : UInt8) : parseNumber (decimal b) = some b.toNat :=
  of_decide_eq_true (Bool.and_eq_true_iff.mp (decimal_spec_of_byte b)).1

/-- It has no dot and no space. -/
theorem decimal_char {b c : UInt8} (h : c ∈ decimal b) : c ≠ 46 ∧ isSpace c = false := by
  have hspec := List.all_eq_true.mp (Bool.and_eq_true_iff.mp (decimal_spec_of_byte b)).2 c h
  obtain ⟨hdot, hspace⟩ := Bool.and_eq_true_iff.mp hspec
  exact ⟨by simpa using hdot, by simpa using hspace⟩

/-- An address is four bytes. -/
theorem length_inetAton {s q : List UInt8} (h : inetAton s = some q) : q.length = 4 := by
  simp only [inetAton, Option.bind_eq_bind, Option.bind_eq_some_iff, Option.some.injEq] at h
  obtain ⟨parts, -, address, -, rfl⟩ := h
  exact length_be 4 address

/-- Four bytes as a number. -/
theorem be_quad (a b c d : UInt8) :
    be 4 (a.toNat * 2 ^ 24 + b.toNat * 2 ^ 16 + c.toNat * 2 ^ 8 + d.toNat) = [a, b, c, d] := by
  have ha := a.toNat_lt
  have hb := b.toNat_lt
  have hc := c.toNat_lt
  have hd := d.toNat_lt
  simp only [be, List.cons.injEq, and_true, ← UInt8.toNat_inj, UInt8.toNat_ofNat']
  omega

/-- A character of joined strings is the separator or in one of them. -/
theorem mem_intercalate {x c : UInt8} {ls : List (List UInt8)} (h : c ∈ [x].intercalate ls) :
    c = x ∨ ∃ l ∈ ls, c ∈ l := by
  induction ls with
  | nil => cases h
  | cons l ls ih =>
      cases ls with
      | nil =>
          rw [List.intercalate_singleton] at h
          exact .inr ⟨l, List.mem_cons_self, h⟩
      | cons l' ls =>
          rw [List.intercalate_cons_cons, List.mem_append, List.mem_append] at h
          rcases h with (h | h) | h
          · exact .inr ⟨l, List.mem_cons_self, h⟩
          · exact .inl (List.mem_singleton.mp h)
          · rcases ih h with rfl | ⟨l₁, hl₁, hc⟩
            · exact .inl rfl
            · exact .inr ⟨l₁, List.mem_cons_of_mem l hl₁, hc⟩

/-- **A dotted quad names the address it was printed from.** -/
theorem inetAton_inetNtoa {q s : List UInt8} (h : inetNtoa q = some s) : inetAton s = some q := by
  rw [inetNtoa, Option.ite_none_right_eq_some, Option.some.injEq] at h
  obtain ⟨hlen, rfl⟩ := h
  have hclean : ∀ c ∈ [46].intercalate (q.map decimal), (!isSpace c) = true := by
    intro c hc
    rcases mem_intercalate hc with rfl | ⟨l, hl, hc⟩
    · rfl
    · obtain ⟨b, -, rfl⟩ := List.mem_map.mp hl
      rw [(decimal_char hc).2]
      rfl
  have hsplit : ([46].intercalate (q.map decimal)).splitOn 46 = q.map decimal := by
    refine List.splitOn_intercalate 46 ?_ ?_
    · intro l hl hdot
      obtain ⟨b, -, rfl⟩ := List.mem_map.mp hl
      exact (decimal_char hdot).1 rfl
    · intro hnil
      rw [List.map_eq_nil_iff.mp hnil] at hlen
      cases hlen
  have hparse : (q.map decimal).mapM parseNumber = some (q.map UInt8.toNat) := by
    rw [mapM_eq_some_iff, List.forall₂_map_left_iff, List.forall₂_map_right_iff,
      List.forall₂_same]
    exact fun b _ => parseNumber_decimal b
  rw [inetAton, List.takeWhile_eq_self_iff.mpr hclean, hsplit, hparse]
  obtain ⟨a, b, c, d, rfl⟩ : ∃ a b c d, q = [a, b, c, d] := by
    match q, hlen with
    | [a, b, c, d], _ => exact ⟨a, b, c, d, rfl⟩
  have haddr : inetAddress ([a, b, c, d].map UInt8.toNat) =
      some (a.toNat * 2 ^ 24 + b.toNat * 2 ^ 16 + c.toNat * 2 ^ 8 + d.toNat) :=
    if_pos ⟨a.toNat_lt, b.toNat_lt, c.toNat_lt, d.toNat_lt⟩
  simp only [Option.bind_eq_bind, Option.bind_some, haddr, be_quad]

/-! ### Lengths -/

/-- A filter takes five bytes. -/
theorem length_packFilter {filter : List UInt8 × ℤ} {b : List UInt8}
    (h : packFilter filter = some b) : b.length = 5 := by
  simp only [packFilter, Option.bind_eq_bind, Option.bind_eq_some_iff, Option.some.injEq] at h
  obtain ⟨ip, hip, mask, hmask, rfl⟩ := h
  rw [List.length_append, length_inetAton hip, length_pack hmask]
  rfl

/-- Items that are packed to one size. -/
theorem length_flatten_mapM {α : Type} {f : α → Option (List UInt8)} {k : ℕ}
    (hf : ∀ a b, f a = some b → b.length = k) {l : List α} {bs : List (List UInt8)}
    (h : l.mapM f = some bs) : bs.flatten.length = l.length * k := by
  have hall := mapM_eq_some_iff.mp h
  rw [hall.length_eq]
  refine length_flatten_of_forall fun b hb => ?_
  obtain ⟨a, -, ha⟩ := Machine.exists_round hall hb
  exact hf a b ha

/-- `length()` of the other classes. -/
theorem length_of_pack {m : VnsMessage} {body : List UInt8} (h : m.pack = some body)
    (hne : m.getType ≠ .openTemplate ∧ m.getType ≠ .authReply) : m.length = body.length := by
  cases m with
  | openTopo topoId vhost user pw => exact (length_pack h).symm
  | close msg => exact (length_pack h).symm
  | packet intfName ethernetFrame =>
      simp only [VnsMessage.pack, Option.bind_eq_bind, Option.bind_eq_some_iff,
        Option.some.injEq] at h
      obtain ⟨header, hheader, rfl⟩ := h
      rw [List.length_append, length_pack hheader, VnsMessage.length]
  | banner msg => exact (length_pack h).symm
  | hwinfo interfaces =>
      simp only [VnsMessage.pack, Option.bind_eq_bind, Option.bind_eq_some_iff,
        Option.some.injEq] at h
      obtain ⟨entries, hentries, rfl⟩ := h
      exact (length_flatten_mapM (fun _ _ hb => length_pack hb) hentries).symm
  | rtable vrhost table =>
      simp only [VnsMessage.pack, Option.bind_eq_bind, Option.bind_eq_some_iff,
        Option.some.injEq] at h
      obtain ⟨header, hheader, rfl⟩ := h
      rw [List.length_append, length_pack hheader, VnsMessage.length]
  | openTemplate templateName vrhost srcFilters ne => exact absurd rfl hne.1
  | authRequest salt =>
      rw [← Option.some.inj h]
      rfl
  | authReply username ssp => exact absurd rfl hne.2
  | authStatus authOk msg =>
      simp only [VnsMessage.pack, Option.bind_eq_bind, Option.bind_eq_some_iff,
        Option.some.injEq] at h
      obtain ⟨ok, hok, rfl⟩ := h
      rw [List.length_append, length_pack hok]
      rfl

/-- `length()` counts the template name twice. -/
theorem length_openTemplate {templateName vrhost body : List UInt8}
    {srcFilters : List (List UInt8 × ℤ)} {ne : srcFilters ≠ []}
    (h : (VnsMessage.openTemplate templateName vrhost srcFilters ne).pack = some body) :
    (VnsMessage.openTemplate templateName vrhost srcFilters ne).length = body.length + 30 := by
  simp only [VnsMessage.pack, Option.bind_eq_bind, Option.bind_eq_some_iff,
    Option.some.injEq] at h
  obtain ⟨filters, hfilters, header, hheader, rfl⟩ := h
  have hlen := length_flatten_mapM (fun _ _ hb => length_packFilter hb) hfilters
  rw [List.length_append, length_pack hheader, hlen, VnsMessage.length]
  ring

/-- `length()` leaves out the length of the user name. -/
theorem length_authReply {username ssp body : List UInt8}
    (h : (VnsMessage.authReply username ssp).pack = some body) :
    (VnsMessage.authReply username ssp).length + 4 = body.length := by
  simp only [VnsMessage.pack, Option.bind_eq_bind, Option.bind_eq_some_iff,
    Option.some.injEq] at h
  obtain ⟨len, hlen, rfl⟩ := h
  have h4 : len.length = 4 := length_pack hlen
  rw [List.length_append, List.length_append, h4, VnsMessage.length]
  ring

/-- **`length()` is right for all classes but two.** -/
theorem length_eq_iff {m : VnsMessage} {body : List UInt8} (h : m.pack = some body) :
    m.length = body.length ↔ m.getType ≠ .openTemplate ∧ m.getType ≠ .authReply := by
  refine ⟨fun hlen => ⟨fun htype => ?_, fun htype => ?_⟩, length_of_pack h⟩
  · cases m with
    | openTemplate templateName vrhost srcFilters ne =>
        have := length_openTemplate h
        omega
    | _ => cases htype
  · cases m with
    | authReply username ssp =>
        have := length_authReply h
        omega
    | _ => cases htype

/-- The length of a packet message is right. -/
theorem length_packet_eth0 : (VnsMessage.packet [101, 116, 104, 48] [1, 2, 3]).length = 19 :=
  (length_eq_iff (m := .packet [101, 116, 104, 48] [1, 2, 3]) rfl).mpr ⟨nofun, nofun⟩

/-- A request for the template `t` on the host `h` without source filters. -/
def plainTemplate : VnsMessage := .mkOpenTemplate [116] [104] []

/-- It has 67 bytes, and says that it has 97. -/
theorem plainTemplate_length :
    plainTemplate.pack.map List.length = some 67 ∧ plainTemplate.length = 97 := by
  decide +kernel

/-! ### Round trips -/

/-- A string that fits a field of `n` bytes and comes back from it. -/
def FitsField (n : ℕ) (s : List UInt8) : Prop := 0 ∉ s ∧ s.length ≤ n

/-- A source filter of a dotted quad, as `inet_ntoa` prints it, and the number of bits of a
mask. -/
def FilterOk (filter : List UInt8 × ℤ) : Prop :=
  (∃ q, inetNtoa q = some filter.1) ∧ 0 ≤ filter.2 ∧ filter.2 ≤ 32

/-- The values of a message fit their fields, and its class has `unpack`. -/
def VnsMessage.WellFormed : VnsMessage → Prop
  | .openTopo topoId vhost user pw =>
      0 ≤ topoId ∧ topoId < 2 ^ 16 ∧ FitsField 32 vhost ∧ FitsField 32 user ∧ FitsField 32 pw
  | .close msg => FitsField 256 msg
  | .packet intfName _ => FitsField 16 intfName
  | .banner msg => FitsField 256 msg
  | .hwinfo _ => False
  | .rtable vrhost _ => FitsField 32 vrhost
  | .openTemplate templateName vrhost srcFilters _ =>
      FitsField 30 templateName ∧ FitsField 32 vrhost ∧ ∀ filter ∈ srcFilters, FilterOk filter
  | .authRequest _ => True
  | .authReply username _ => username.length < 2 ^ 32
  | .authStatus _ _ => True

/-- A string comes back from its field. -/
theorem strip_field {n : ℕ} {s : List UInt8} (h : FitsField n s) : strip (pad n s) = s :=
  strip_pad h.1 h.2

/-- The class `VNSOpen`. -/
theorem openTopo_unpack_pack {topoId : ℤ} {vhost user pw : List UInt8} (hlo : 0 ≤ topoId)
    (hhi : topoId < 2 ^ 16) (hvhost : FitsField 32 vhost) (huser : FitsField 32 user)
    (hpw : FitsField 32 pw) : ∃ body, (VnsMessage.openTopo topoId vhost user pw).pack = some body ∧
      unpackOpen body = some (.openTopo topoId vhost user pw) := by
  obtain ⟨body, hbody⟩ : ∃ body, Wire.pack openFormat
      [.num topoId, .num 0, .str vhost, .str user, .str pw] = some body :=
    exists_pack (.cons ⟨hlo, by norm_num; exact hhi⟩ (.cons ⟨le_rfl, by norm_num⟩
        (.cons trivial (.cons trivial (.cons trivial .nil)))))
  refine ⟨body, hbody, ?_⟩
  have hunpack := Wire.unpack_pack hbody
  simp only [openFormat, List.zipWith_cons_cons, List.zipWith_nil_left, Value.padded] at hunpack
  rw [unpackOpen, openFormat, hunpack]
  show some (VnsMessage.openTopo topoId (strip (pad 32 vhost)) (strip (pad 32 user))
    (strip (pad 32 pw))) = _
  rw [strip_field hvhost, strip_field huser, strip_field hpw]

/-- A text class. -/
theorem unpackText_pack {cls : List UInt8 → VnsMessage} {msg : List UInt8}
    (hmsg : FitsField 256 msg) :
    ∃ body, Wire.pack textFormat [.str msg] = some body ∧
      unpackText cls body = some (cls msg) := by
  obtain ⟨body, hbody⟩ : ∃ body, Wire.pack textFormat [.str msg] = some body :=
    exists_pack (.cons trivial .nil)
  refine ⟨body, hbody, ?_⟩
  have hunpack := Wire.unpack_pack hbody
  simp only [textFormat, List.zipWith_cons_cons, List.zipWith_nil_left, Value.padded] at hunpack
  rw [unpackText, textFormat, hunpack]
  show some (cls (strip (pad 256 msg))) = _
  rw [strip_field hmsg]

/-- The class `VNSPacket`. -/
theorem packet_unpack_pack {intfName ethernetFrame : List UInt8} (hname : FitsField 16 intfName) :
    ∃ body, (VnsMessage.packet intfName ethernetFrame).pack = some body ∧
      unpackPacket body = some (.packet intfName ethernetFrame) := by
  obtain ⟨header, hheader⟩ : ∃ header, Wire.pack packetHeaderFormat [.str intfName] = some header :=
    exists_pack (.cons trivial .nil)
  refine ⟨header ++ ethernetFrame, ?_, ?_⟩
  · rw [VnsMessage.pack, hheader]
    rfl
  have hlen := length_pack hheader
  have hunpack := Wire.unpack_pack hheader
  simp only [packetHeaderFormat, List.zipWith_cons_cons, List.zipWith_nil_left, Value.padded]
    at hunpack hlen
  rw [unpackPacket, packetHeaderFormat, List.take_left' hlen, List.drop_left' hlen, hunpack]
  show some (VnsMessage.packet (strip (pad 16 intfName)) ethernetFrame) = _
  rw [strip_field hname]

/-- A filter of a dotted quad and a mask is five bytes, and they give the filter back. -/
theorem packFilter_ok {filter : List UInt8 × ℤ} (h : FilterOk filter) :
    ∃ q mask, inetNtoa q = some filter.1 ∧ q.length = 4 ∧
      Wire.pack [.num 1] [.num filter.2] = some mask ∧ packFilter filter = some (q ++ mask) := by
  obtain ⟨⟨q, hq⟩, hlo, hhi⟩ := h
  obtain ⟨mask, hmask⟩ : ∃ mask, Wire.pack [.num 1] [.num filter.2] = some mask :=
    exists_pack (.cons ⟨hlo, by norm_num; omega⟩ .nil)
  have hip := inetAton_inetNtoa hq
  refine ⟨q, mask, hq, length_inetAton hip, hmask, ?_⟩
  rw [packFilter, hip, hmask]
  rfl

/-- The `i`-th record is unpacked to the `i`-th filter. -/
theorem unpackFilter_pack {filters : List (List UInt8 × ℤ)} {records : List (List UInt8)}
    (hpack : List.Forall₂ (fun a b => packFilter a = some b) filters records)
    (hok : ∀ filter ∈ filters, FilterOk filter) {i : ℕ} (hi : i < filters.length) :
    unpackFilter records.flatten i = some filters[i] := by
  have hi' : i < records.length := hpack.length_eq ▸ hi
  have hall : ∀ b ∈ records, b.length = 5 := by
    intro b hb
    obtain ⟨a, -, ha⟩ := Machine.exists_round hpack hb
    exact length_packFilter ha
  have hrecord := take_drop_flatten hall hi'
  obtain ⟨q, mask, hq, hlen, hmask, hbytes⟩ := packFilter_ok (hok _ (List.getElem_mem hi))
  have hget : packFilter filters[i] = some records[i] := hpack.get hi hi'
  rw [hbytes, Option.some.injEq] at hget
  rw [← hget] at hrecord
  have hip : slice records.flatten (i * 5) 4 = q := by
    have := congrArg (List.take 4) hrecord
    rwa [List.take_take, List.take_left' hlen] at this
  have hlast : slice records.flatten (i * 5 + 4) 1 = mask := by
    have := congrArg (List.drop 4) hrecord
    rwa [List.drop_take, List.drop_drop, List.drop_left' hlen] at this
  have hunpack := Wire.unpack_pack hmask
  simp only [List.zipWith_cons_cons, List.zipWith_nil_left, Value.padded] at hunpack
  obtain ⟨-, hlo, hhi⟩ := hok _ (List.getElem_mem hi)
  rw [unpackFilter, hip, hlast, hq, hunpack]
  simp only [Option.bind_eq_bind, Option.bind_some]
  rw [if_neg (by omega)]

/-- The class `VNSOpenTemplate`. -/
theorem openTemplate_unpack_pack {templateName vrhost : List UInt8}
    {srcFilters : List (List UInt8 × ℤ)} (ne : srcFilters ≠ [])
    (hname : FitsField 30 templateName) (hvrhost : FitsField 32 vrhost)
    (hok : ∀ filter ∈ srcFilters, FilterOk filter) :
    ∃ body, (VnsMessage.openTemplate templateName vrhost srcFilters ne).pack = some body ∧
      unpackOpenTemplate body = some (.openTemplate templateName vrhost srcFilters ne) := by
  obtain ⟨header, hheader⟩ : ∃ header, Wire.pack openTemplateHeaderFormat
      [.str templateName, .str vrhost] = some header :=
    exists_pack (.cons trivial (.cons trivial .nil))
  obtain ⟨records, hrecords⟩ : ∃ records, srcFilters.mapM packFilter = some records := by
    refine ⟨srcFilters.map fun f => (packFilter f).getD [], ?_⟩
    rw [mapM_eq_some_iff, List.forall₂_map_right_iff, List.forall₂_same]
    intro f hf
    obtain ⟨q, mask, -, -, -, h⟩ := packFilter_ok (hok f hf)
    rw [h]
    rfl
  refine ⟨header ++ records.flatten, ?_, ?_⟩
  · rw [VnsMessage.pack, hrecords, hheader]
    rfl
  have hlen := length_pack hheader
  have hunpack := Wire.unpack_pack hheader
  have hcount : records.flatten.length / 5 = srcFilters.length := by
    rw [length_flatten_mapM (fun _ _ hb => length_packFilter hb) hrecords]
    omega
  have hfilters : (List.range (records.flatten.length / 5)).mapM (unpackFilter records.flatten) =
      some srcFilters := by
    rw [mapM_eq_some_iff, hcount, List.forall₂_iff_get]
    refine ⟨List.length_range, fun i hi hi' => ?_⟩
    simp only [List.get_eq_getElem, List.getElem_range]
    exact unpackFilter_pack (mapM_eq_some_iff.mp hrecords) hok hi'
  simp only [openTemplateHeaderFormat, List.zipWith_cons_cons, List.zipWith_nil_left,
    Value.padded] at hunpack hlen
  rw [unpackOpenTemplate, openTemplateHeaderFormat, List.take_left' hlen, List.drop_left' hlen,
    hunpack]
  simp only [Option.bind_eq_bind, Option.bind_some]
  rw [hfilters, Option.bind_some, strip_field hname, strip_field hvrhost,
    VnsMessage.mkOpenTemplate, dif_neg ne]

/-- The class `VNSAuthReply`. -/
theorem authReply_unpack_pack {username ssp : List UInt8} (hlen : username.length < 2 ^ 32) :
    ∃ body, (VnsMessage.authReply username ssp).pack = some body ∧
      unpackAuthReply body = some (.authReply username ssp) := by
  obtain ⟨len, hpack⟩ : ∃ len, Wire.pack [.num 4] [.num username.length] = some len :=
    exists_pack (.cons ⟨Int.natCast_nonneg _, by norm_num; exact_mod_cast hlen⟩ .nil)
  refine ⟨len ++ username ++ ssp, ?_, ?_⟩
  · rw [VnsMessage.pack, hpack]
    rfl
  have h4 : len.length = 4 := length_pack hpack
  have hunpack := Wire.unpack_pack hpack
  simp only [List.zipWith_cons_cons, List.zipWith_nil_left, Value.padded] at hunpack
  rw [unpackAuthReply, List.append_assoc, List.take_left' h4, List.drop_left' h4, hunpack]
  simp only [Option.bind_eq_bind, Option.bind_some, Int.toNat_natCast, List.take_left,
    List.drop_left]

/-- The class `VNSAuthStatus`. -/
theorem authStatus_unpack_pack {authOk : Bool} {msg : List UInt8} :
    ∃ body, (VnsMessage.authStatus authOk msg).pack = some body ∧
      unpackAuthStatus body = some (.authStatus authOk msg) := by
  cases authOk with
  | false => exact ⟨0 :: msg, rfl, rfl⟩
  | true => exact ⟨1 :: msg, rfl, rfl⟩

/-- **A packed message is unpacked to itself.** -/
theorem message_unpack_pack {m : VnsMessage} (h : m.WellFormed) :
    ∃ body, m.pack = some body ∧ VnsMessage.unpack m.getType body = some m := by
  cases m with
  | openTopo topoId vhost user pw =>
      obtain ⟨hlo, hhi, hvhost, huser, hpw⟩ := h
      exact openTopo_unpack_pack hlo hhi hvhost huser hpw
  | close msg => exact unpackText_pack h
  | packet intfName ethernetFrame => exact packet_unpack_pack h
  | banner msg => exact unpackText_pack h
  | hwinfo interfaces => exact h.elim
  | rtable vrhost table =>
      refine ⟨pad 32 vrhost ++ [] ++ table, rfl, ?_⟩
      have hlen := length_pad 32 vrhost
      rw [List.append_nil, VnsMessage.getType, VnsMessage.unpack, List.take_left' hlen,
        List.drop_left' hlen, strip_field h]
  | openTemplate templateName vrhost srcFilters ne =>
      obtain ⟨hname, hvrhost, hok⟩ := h
      exact openTemplate_unpack_pack ne hname hvrhost hok
  | authRequest salt => exact ⟨salt, rfl, rfl⟩
  | authReply username ssp => exact authReply_unpack_pack h
  | authStatus authOk msg => exact authStatus_unpack_pack

/-- A template with the filter 10.0.0.0/8. -/
theorem unpack_pack_template : ∃ body,
    (VnsMessage.openTemplate [116] [104] [([49, 48, 46, 48, 46, 48, 46, 48], 8)] nofun).pack =
      some body ∧
    VnsMessage.unpack .openTemplate body =
      some (.openTemplate [116] [104] [([49, 48, 46, 48, 46, 48, 46, 48], 8)] nofun) := by
  refine message_unpack_pack (m := .openTemplate _ _ _ _)
    ⟨⟨by decide, by decide⟩, ⟨by decide, by decide⟩, ?_⟩
  intro filter hfilter
  obtain rfl := List.mem_singleton.mp hfilter
  exact ⟨⟨[10, 0, 0, 0], by decide⟩, by norm_num, by norm_num⟩

end SimpleRouter
