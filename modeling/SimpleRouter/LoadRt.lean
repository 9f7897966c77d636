import SimpleRouter.Step
import SimpleRouter.VnsProtocol
import SimpleRouter.Lib.Lines

/-!
# Loading the routing table (`sr_rt.c`)

`sr_load_rt` reads the file line by line. The arrays the words of a line are stored in live as long
as the call, and the number of words `sscanf` has stored is ignored: where a line has fewer than
four, the arrays behind its last word hold what the line before has left there, or on the first
line whatever the stack holds (`held`).

`loadRt_faithful_iff` — **each line becomes one entry or is refused, exactly if `inet_aton` refuses
every line with fewer than four words that gets as far as that.**

`none` is where the C program has no further meaning: a word that does not fit its array, or an
array read as a string that has no NUL. Left out are the messages, and that the file may fail to
open after `access` has succeeded.
-/

namespace SimpleRouter

open Buffer Lines

/-! ### The arrays -/

/-- A `char[32]`. -/
structure CharArray where
  /-- The 32 bytes. -/
  bytes : List UInt8
  /-- There are 32 of them. -/
  length_eq : bytes.length = 32

/-- The string in the array, if it has an end. -/
def CharArray.string (a : CharArray) : Option (List UInt8) :=
  if 0 ∈ a.bytes then some (a.bytes.takeWhile (· ≠ 0)) else none

/-- A word and a NUL are stored from the start on, if they fit; without a word nothing is stored.
Source: `sscanf`, `%s` -/
def CharArray.store (a : CharArray) : Option (List UInt8) → Option CharArray
  | none => some a
  | some word =>
      if word.length < 32 then
        some ⟨put a.bytes 0 (word ++ [0]), (length_put ..).trans a.length_eq⟩
      else none

/-- The arrays of `sr_load_rt`.
Source: `sr_rt.c`, `sr_load_rt`, the local variables -/
structure RtArrays where
  /-- `dest`. -/
  dest : CharArray
  /-- `gw`. -/
  gw : CharArray
  /-- `mask`. -/
  mask : CharArray
  /-- `iface`. -/
  iface : CharArray

/-- The words of the line go into the arrays in order; an array behind the last word is unchanged.
Source: `sr_rt.c`, `sscanf(line, "%s %s %s %s", dest, gw, mask, iface)` -/
def sscanfLine (a : RtArrays) (line : List UInt8) : Option RtArrays := do
  let ws := words isSpace (line.takeWhile (· ≠ 0))
  let dest ← a.dest.store ws[0]?
  let gw ← a.gw.store ws[1]?
  let mask ← a.mask.store ws[2]?
  let iface ← a.iface.store ws[3]?
  some { dest, gw, mask, iface }

/-! ### The function -/

/-- The address in an array; the inner `none` is a string that is refused.
Source: `inet_aton` -/
def CharArray.address (a : CharArray) : Option (Option UInt32) := do
  let s ← a.string
  some ((inetAton s).map u32)

/-- `dest_addr`, `gw_addr` and `mask_addr`; the inner `none` is a return with -1.
Source: `sr_rt.c`, `sr_load_rt`, the three calls of `inet_aton` -/
def RtArrays.addresses (a : RtArrays) : Option (Option (UInt32 × UInt32 × UInt32)) := do
  match ← a.dest.address with
  | none => some none
  | some dest =>
      match ← a.gw.address with
      | none => some none
      | some gw =>
          match ← a.mask.address with
          | none => some none
          | some mask => some (some (dest, gw, mask))

/-- The entry goes behind the last one.
Source: `sr_rt.c`, `sr_add_rt_entry` -/
def srAddRtEntry (sr : SrInstance) (dest gw mask : UInt32) (ifName : List UInt8) : SrInstance :=
  { sr with
    routingTable := sr.routingTable ++ [⟨dest, gw, mask, IfaceName.ofChars ifName⟩] }

/-- The loop over what `fgets` returns; `clear` is `clear_routing_table`.
Source: `sr_rt.c`, `sr_load_rt`, the loop -/
def loadRtLoop : List (List UInt8) → RtArrays → Bool → SrInstance → Option (ℤ × SrInstance)
  | [], _, _, sr => some (0, sr)
  | line :: rest, a, clear, sr => do
      let a ← sscanfLine a line
      match ← a.addresses with
      | none => some (-1, sr)
      | some (dest, gw, mask) =>
          let sr := if clear then sr else { sr with routingTable := [] }
          loadRtLoop rest a true (srAddRtEntry sr dest gw mask a.iface.bytes)

/-- The strings `fgets(line, BUFSIZ, fp)` returns one after the other: up to a newline, and at most
8191 characters. -/
def fgetsLines (text : List UInt8) : List (List UInt8) := reads (· == 10) 8190 text

/-- `stack` is what the arrays hold at the call, and `file` the content of the file if it can be
read.
Source: `sr_rt.c`, `sr_load_rt` -/
def srLoadRt (sr : SrInstance) (stack : RtArrays) (file : Option (List UInt8)) :
    Option (ℤ × SrInstance) :=
  match file with
  | none => some (-1, sr)
  | some text => loadRtLoop (fgetsLines text) stack false sr

/-! ### What loading a table is for -/

/-- The lines of a text. -/
def textLines (text : List UInt8) : List (List UInt8) := lines (· == 10) text

/-- The entry with the four fields of a line; none if a field is missing or an address is not
valid. -/
def lineEntry (line : List UInt8) : Option SrRt :=
  match words isSpace line with
  | dest :: gw :: mask :: iface :: _ => do
      let dest ← inetAton dest
      let gw ← inetAton gw
      let mask ← inetAton mask
      some ⟨u32 dest, u32 gw, u32 mask, IfaceName.ofChars iface⟩
  | _ => none

/-- One entry for each line, in order; without a line the table is the one there was. -/
def IsTable (sr : SrInstance) (ls : List (List UInt8)) (table : List SrRt) : Prop :=
  if ls = [] then table = sr.routingTable else ls.map lineEntry = table.map some

/-- **The outcome is faithful to the lines.** -/
inductive LineFaithful (sr : SrInstance) (ls : List (List UInt8)) :
    Option (ℤ × SrInstance) → Prop
  /-- Each line has become an entry. -/
  | loaded (table : List SrRt) (h : IsTable sr ls table) :
      LineFaithful sr ls (some (0, { sr with routingTable := table }))
  /-- A line is refused, and each line before it has become an entry. -/
  | refused (before : List (List UInt8)) (line : List UInt8) (after : List (List UInt8))
      (table : List SrRt) (hls : ls = before ++ line :: after) (hline : lineEntry line = none)
      (h : IsTable sr before table) :
      LineFaithful sr ls (some (-1, { sr with routingTable := table }))

/-! ### The condition -/

/-- What the first three arrays hold. -/
def RtArrays.strings (a : RtArrays) : List (Option (List UInt8)) :=
  [a.dest.string, a.gw.string, a.mask.string]

/-- What they hold after these lines, of which each has four words: the words of the last one. -/
def held (stack : RtArrays) (before : List (List UInt8)) : List (Option (List UInt8)) :=
  match before.getLast? with
  | none => stack.strings
  | some line => ((words isSpace line).take 3).map some

/-- The words of a line in front of what the arrays behind them hold. -/
def overwrite (strings : List (Option (List UInt8))) (line : List UInt8) :
    List (Option (List UInt8)) :=
  ((words isSpace line).take 3).map some ++ strings.drop (words isSpace line).length

/-- The first that is no address is a string, which `inet_aton` refuses. -/
def Refused : List (Option (List UInt8)) → Prop
  | [] => False
  | none :: _ => False
  | some s :: strings => inetAton s = none ∨ Refused strings

/-- **A line with fewer than four words behind complete lines is refused**, by one of its own words
or by what is left in an array. -/
def ShortLinesRefused (stack : RtArrays) (ls : List (List UInt8)) : Prop :=
  ∀ before line after, ls = before ++ line :: after → (∀ l ∈ before, (lineEntry l).isSome) →
    (words isSpace line).length < 4 → Refused (overwrite (held stack before) line)

/-- The text is one the arrays have room for. -/
structure TextFits (ls : List (List UInt8)) : Prop where
  /-- No line has a NUL. -/
  nul_notMem : ∀ l ∈ ls, 0 ∉ l
  /-- No word is longer than 31 characters. -/
  word_lt : ∀ l ∈ ls, ∀ w ∈ words isSpace l, w.length < 32

section loading

variable {sr sr' : SrInstance} {stack a a' : RtArrays} {line : List UInt8}
  {ls before after rest : List (List UInt8)} {table : List SrRt} {clear : Bool} {ret : ℤ}

/-! ### The arrays -/

/-- A stored word is the string in the array, and the name copied from it. -/
theorem store_spec {c : CharArray} {w : Option (List UInt8)} (hnul : ∀ word ∈ w, 0 ∉ word)
    (hlen : ∀ word ∈ w, word.length < 32) :
    ∃ c', c.store w = some c' ∧ c'.string = (w.map some).getD c.string ∧
      ∀ word ∈ w, IfaceName.ofChars c'.bytes = IfaceName.ofChars word := by
  cases w with
  | none => exact ⟨c, rfl, rfl, fun word h => absurd h (Option.not_mem_none word)⟩
  | some word =>
      replace hnul : 0 ∉ word := hnul word rfl
      replace hlen : word.length < 32 := hlen word rfl
      have hput : put c.bytes 0 (word ++ [0]) = word ++ 0 :: c.bytes.drop (word.length + 1) := by
        rw [put_eq_append (by rw [List.length_append, c.length_eq, List.length_singleton]; omega)]
        simp
      have htake := takeWhile_append_nul hnul (c.bytes.drop (word.length + 1))
      refine ⟨_, if_pos hlen, ?_, ?_⟩
      · rw [CharArray.string]
        simp only [hput, htake]
        exact if_pos (List.mem_append_right _ List.mem_cons_self)
      · rintro word' h
        obtain rfl := Option.mem_some_iff.mp h
        simp only [IfaceName.ofChars, hput, htake, takeWhile_ne_zero hnul]

/-- **What a line leaves in the arrays.** -/
theorem sscanfLine_spec (hnul : 0 ∉ line) (hlen : ∀ w ∈ words isSpace line, w.length < 32) :
    ∃ a', sscanfLine a line = some a' ∧ a'.strings = overwrite a.strings line ∧
      ∀ w ∈ (words isSpace line)[3]?,
        IfaceName.ofChars a'.iface.bytes = IfaceName.ofChars w := by
  have hstore : ∀ (k : ℕ) (c : CharArray), ∃ c', c.store (words isSpace line)[k]? = some c' ∧
      c'.string = ((words isSpace line)[k]?.map some).getD c.string ∧
      ∀ w ∈ (words isSpace line)[k]?, IfaceName.ofChars c'.bytes = IfaceName.ofChars w :=
    fun k c => store_spec
      (fun w hw h => hnul (mem_of_mem_words (List.mem_of_getElem? hw) h))
      (fun w hw => hlen w (List.mem_of_getElem? hw))
  obtain ⟨d, hd, hds, -⟩ := hstore 0 a.dest
  obtain ⟨g, hg, hgs, -⟩ := hstore 1 a.gw
  obtain ⟨m, hm, hms, -⟩ := hstore 2 a.mask
  obtain ⟨i, hi, -, hname⟩ := hstore 3 a.iface
  refine ⟨⟨d, g, m, i⟩, ?_, ?_, hname⟩
  · rw [sscanfLine, takeWhile_ne_zero hnul]
    simp only [hd, hg, hm, hi]
    rfl
  · rw [RtArrays.strings, hds, hgs, hms, overwrite, RtArrays.strings]
    match words isSpace line with
    | [] => rfl
    | [_] => rfl
    | [_, _] => rfl
    | _ :: _ :: _ :: _ => simp

/-- A return with -1 in front of the conversions: a string is refused. -/
theorem addresses_eq_none_iff : a.addresses = some none ↔ Refused a.strings := by
  rw [RtArrays.addresses, RtArrays.strings]
  cases hd : a.dest.string with
  | none => simp [CharArray.address, hd, Refused]
  | some d =>
      cases hda : inetAton d with
      | none => simp [CharArray.address, hd, hda, Refused]
      | some da =>
          cases hg : a.gw.string with
          | none => simp [CharArray.address, hd, hda, hg, Refused]
          | some g =>
              cases hga : inetAton g with
              | none => simp [CharArray.address, hd, hda, hg, hga, Refused]
              | some ga =>
                  cases hm : a.mask.string with
                  | none => simp [CharArray.address, hd, hda, hg, hga, hm, Refused]
                  | some m =>
                      cases hma : inetAton m <;>
                        simp [CharArray.address, hd, hda, hg, hga, hm, hma, Refused]

/-- Three valid strings are three addresses. -/
theorem addresses_of_strings {d g m da ga ma : List UInt8}
    (h : a.strings = [some d, some g, some m]) (hd : inetAton d = some da)
    (hg : inetAton g = some ga) (hm : inetAton m = some ma) :
    a.addresses = some (some (u32 da, u32 ga, u32 ma)) := by
  rw [RtArrays.strings, List.cons.injEq, List.cons.injEq, List.cons.injEq] at h
  obtain ⟨hds, hgs, hms, -⟩ := h
  simp [RtArrays.addresses, CharArray.address, hds, hgs, hms, hd, hg, hm]

/-! ### One line -/

/-- The fields of a line that has an entry. -/
theorem lineEntry_eq_some {e : SrRt} (h : lineEntry line = some e) :
    ∃ d g m i more da ga ma, words isSpace line = d :: g :: m :: i :: more ∧
      inetAton d = some da ∧ inetAton g = some ga ∧ inetAton m = some ma ∧
      e = ⟨u32 da, u32 ga, u32 ma, IfaceName.ofChars i⟩ := by
  rw [lineEntry] at h
  split at h
  · next d g m i more hwords =>
      simp only [Option.bind_eq_bind, Option.bind_eq_some_iff, Option.some.injEq] at h
      obtain ⟨da, hd, ga, hg, ma, hm, rfl⟩ := h
      exact ⟨d, g, m, i, more, da, ga, ma, hwords, hd, hg, hm, rfl⟩
  · exact absurd h (by simp)

/-- A line with four words and no entry is refused. -/
theorem refused_of_lineEntry (h : lineEntry line = none) (hlen : 4 ≤ (words isSpace line).length)
    (strings : List (Option (List UInt8))) : Refused (overwrite strings line) := by
  rw [lineEntry] at h
  split at h
  · next d g m i more hwords =>
      rw [overwrite, hwords]
      simp only [List.take_succ_cons, List.take_zero, List.map_cons, List.map_nil,
        List.cons_append, Refused]
      cases hd : inetAton d with
      | none => exact .inl rfl
      | some da =>
          cases hg : inetAton g with
          | none => exact .inr (.inl rfl)
          | some ga =>
              cases hm : inetAton m with
              | none => exact .inr (.inr (.inl rfl))
              | some ma => simp [hd, hg, hm] at h
  · next hwords =>
      match hws : words isSpace line, hlen with
      | d :: g :: m :: i :: more, _ => exact absurd hws (hwords d g m i more)

/-- **A complete line**: its entry goes behind the table, which is cleared first if the line is the
first one. -/
theorem loadRtLoop_entry (a : RtArrays) (clear : Bool) (sr : SrInstance) {e : SrRt}
    (hfits : TextFits (line :: rest)) (he : lineEntry line = some e) :
    ∃ a', a'.strings = ((words isSpace line).take 3).map some ∧
      loadRtLoop (line :: rest) a clear sr = loadRtLoop rest a' true
        { sr with routingTable := (if clear then sr.routingTable else []) ++ [e] } := by
  obtain ⟨a', hscan, hstrings, hname⟩ := sscanfLine_spec (a := a)
    (hfits.nul_notMem line List.mem_cons_self) (hfits.word_lt line List.mem_cons_self)
  obtain ⟨d, g, m, i, more, da, ga, ma, hwords, hd, hg, hm, rfl⟩ := lineEntry_eq_some he
  have hthree : a'.strings = [some d, some g, some m] := by
    rw [hstrings, overwrite, hwords]
    simp [RtArrays.strings]
  have hiface : IfaceName.ofChars a'.iface.bytes = IfaceName.ofChars i :=
    hname i (by rw [hwords]; rfl)
  refine ⟨a', by rw [hthree, hwords]; rfl, ?_⟩
  rw [loadRtLoop, hscan]
  simp only [Option.bind_eq_bind, Option.bind_some, addresses_of_strings hthree hd hg hm,
    srAddRtEntry, hiface]
  cases clear <;> rfl

/-- **A line that is refused.** -/
theorem loadRtLoop_refused (hfits : TextFits (line :: rest))
    (href : Refused (overwrite a.strings line)) :
    loadRtLoop (line :: rest) a clear sr = some (-1, sr) := by
  obtain ⟨a', hscan, hstrings, -⟩ := sscanfLine_spec (a := a)
    (hfits.nul_notMem line List.mem_cons_self) (hfits.word_lt line List.mem_cons_self)
  have hnone : a'.addresses = some none := addresses_eq_none_iff.mpr (hstrings ▸ href)
  rw [loadRtLoop, hscan]
  simp only [Option.bind_eq_bind, Option.bind_some, hnone]

/-- **A line that is not refused** is turned into an entry, if the arrays hold strings at all. -/
theorem loadRtLoop_passed (clear : Bool) (sr : SrInstance) (hfits : TextFits (line :: rest))
    (href : ¬ Refused (overwrite a.strings line)) :
    loadRtLoop (line :: rest) a clear sr = none ∨
      ∃ a' e, loadRtLoop (line :: rest) a clear sr = loadRtLoop rest a' true
        { sr with routingTable := (if clear then sr.routingTable else []) ++ [e] } := by
  obtain ⟨a', hscan, hstrings, -⟩ := sscanfLine_spec (a := a)
    (hfits.nul_notMem line List.mem_cons_self) (hfits.word_lt line List.mem_cons_self)
  rw [loadRtLoop, hscan, Option.bind_eq_bind, Option.bind_some]
  cases haddr : a'.addresses with
  | none => exact .inl rfl
  | some o =>
      cases o with
      | none => exact absurd (hstrings ▸ addresses_eq_none_iff.mp haddr) href
      | some p =>
          refine .inr ⟨a', ⟨p.1, p.2.1, p.2.2, IfaceName.ofChars a'.iface.bytes⟩, ?_⟩
          cases clear <;> rfl

/-! ### Many lines -/

theorem TextFits.of_append_right (h : TextFits (before ++ after)) : TextFits after :=
  ⟨fun l hl => h.nul_notMem l (List.mem_append_right _ hl),
    fun l hl => h.word_lt l (List.mem_append_right _ hl)⟩

/-- Each line of a table has an entry. -/
theorem IsTable.isSome (h : IsTable sr ls table) : ∀ l ∈ ls, (lineEntry l).isSome := by
  intro l hl
  rw [IsTable, if_neg (List.ne_nil_of_mem hl)] at h
  obtain ⟨e, -, he⟩ := List.mem_map.mp (h ▸ List.mem_map_of_mem hl)
  rw [← he, Option.isSome_some]

/-- There are as many entries as lines. -/
theorem IsTable.length (h : IsTable sr ls table) (hne : ls ≠ []) : table.length = ls.length := by
  rw [IsTable, if_neg hne] at h
  rw [← List.length_map (f := lineEntry), h, List.length_map]

/-- One more line is one more entry. -/
theorem IsTable.concat {e : SrRt} (h : IsTable sr before table) (he : lineEntry line = some e) :
    IsTable sr (before ++ [line]) ((if !before.isEmpty then table else []) ++ [e]) := by
  rw [IsTable, if_neg (List.append_ne_nil_of_right_ne_nil _ (List.cons_ne_nil _ _)),
    List.map_append, List.map_append, List.map_singleton, List.map_singleton, he]
  congr 1
  cases before with
  | nil => rfl
  | cons l before =>
      rw [IsTable, if_neg (List.cons_ne_nil _ _)] at h
      exact h

/-- **The loop over complete lines**: each becomes an entry, and the arrays hold the last line. -/
theorem loadRtLoop_append (stack : RtArrays) (sr : SrInstance)
    (hfits : TextFits (before ++ rest)) (hvalid : ∀ l ∈ before, (lineEntry l).isSome) :
    ∃ a table, a.strings = held stack before ∧ IsTable sr before table ∧
      loadRtLoop (before ++ rest) stack false sr =
        loadRtLoop rest a (!before.isEmpty) { sr with routingTable := table } := by
  induction before using List.reverseRecOn generalizing rest with
  | nil => exact ⟨stack, sr.routingTable, rfl, rfl, rfl⟩
  | append_singleton before line ih =>
      rw [List.append_assoc, List.singleton_append] at hfits ⊢
      obtain ⟨a, table, -, htable, hloop⟩ :=
        ih hfits fun l hl => hvalid l (List.mem_append_left _ hl)
      obtain ⟨e, he⟩ := Option.isSome_iff_exists.mp
        (hvalid line (List.mem_append_right _ List.mem_cons_self))
      obtain ⟨a', hstrings, hline⟩ := loadRtLoop_entry a (!before.isEmpty)
        { sr with routingTable := table } hfits.of_append_right he
      refine ⟨a', _, ?_, htable.concat he, hloop.trans (hline.trans ?_)⟩
      · rw [hstrings, held, List.getLast?_concat]
      · have hempty : (before ++ [line]).isEmpty = false := by simp
        rw [hempty, Bool.not_false]

/-- The table grows by at most one entry for each line, once it has been cleared. -/
theorem length_loadRtLoop (h : loadRtLoop rest a true sr = some (ret, sr')) :
    sr.routingTable.length ≤ sr'.routingTable.length ∧
      sr'.routingTable.length ≤ sr.routingTable.length + rest.length := by
  induction rest generalizing a sr with
  | nil =>
      obtain ⟨-, rfl⟩ := Prod.mk.inj (Option.some.inj h)
      exact ⟨le_refl _, Nat.le_add_right _ _⟩
  | cons line rest ih =>
      rw [loadRtLoop, Option.bind_eq_bind, Option.bind_eq_some_iff] at h
      obtain ⟨a', -, h⟩ := h
      obtain ⟨o, -, h⟩ := Option.bind_eq_some_iff.mp h
      cases o with
      | none =>
          obtain ⟨-, rfl⟩ := Prod.mk.inj (Option.some.inj h)
          exact ⟨le_refl _, Nat.le_add_right _ _⟩
      | some p =>
          have hrest := ih h
          rw [srAddRtEntry, if_pos rfl, List.length_append, List.length_singleton] at hrest
          rw [List.length_cons]
          omega

/-- The lines in front of the first one that has no entry. -/
theorem takeWhile_complete (hbefore : ∀ l ∈ before, (lineEntry l).isSome)
    (hline : lineEntry line = none) :
    (before ++ line :: after).takeWhile (fun l => (lineEntry l).isSome) = before := by
  rw [List.takeWhile_append_of_pos hbefore, List.takeWhile_cons_of_neg (by rw [hline]; decide),
    List.append_nil]

/-- A file is complete lines, and then nothing or a line that has no entry. -/
theorem exists_complete (ls : List (List UInt8)) :
    ∃ before rest, ls = before ++ rest ∧ (∀ l ∈ before, (lineEntry l).isSome) ∧
      ∀ line ∈ rest.head?, lineEntry line = none := by
  refine ⟨ls.takeWhile fun l => (lineEntry l).isSome, ls.dropWhile fun l => (lineEntry l).isSome,
    List.takeWhile_append_dropWhile.symm, ?_, ?_⟩
  · intro l hl
    exact List.mem_takeWhile_imp (p := fun l => (lineEntry l).isSome) hl
  · intro line hline
    have hhead := List.head?_dropWhile_not (fun l => (lineEntry l).isSome) ls
    rw [Option.mem_def.mp hline] at hhead
    exact Option.isNone_iff_eq_none.mp (Option.isSome_eq_false_iff.mp hhead)

/-- **The loop is faithful if no short line passes.** -/
theorem loadRtLoop_faithful (hfits : TextFits ls) (hshort : ShortLinesRefused stack ls) :
    LineFaithful sr ls (loadRtLoop ls stack false sr) := by
  obtain ⟨before, rest, rfl, hbefore, hrest⟩ := exists_complete ls
  obtain ⟨a, table, hstrings, htable, hloop⟩ :=
    loadRtLoop_append stack sr hfits hbefore
  rw [hloop]
  cases rest with
  | nil =>
      rw [List.append_nil]
      exact .loaded table htable
  | cons line after =>
      have hline : lineEntry line = none := hrest line rfl
      have href : Refused (overwrite a.strings line) := by
        rcases Nat.lt_or_ge (words isSpace line).length 4 with hlen | hlen
        · rw [hstrings]
          exact hshort before line after rfl hbefore hlen
        · exact refused_of_lineEntry hline hlen _
      rw [loadRtLoop_refused hfits.of_append_right href]
      exact .refused before line after table rfl hline htable

/-- A line without an entry behind complete lines is where a faithful call stops. -/
theorem LineFaithful.isTable (h : LineFaithful sr (before ++ line :: after) (some (ret, sr')))
    (hbefore : ∀ l ∈ before, (lineEntry l).isSome) (hline : lineEntry line = none) :
    IsTable sr before sr'.routingTable := by
  cases h with
  | loaded table h =>
      exact absurd (h.isSome line (List.mem_append_right _ List.mem_cons_self))
        (by rw [hline]; decide)
  | refused before' line' after' table hls hline' h =>
      have hbefore' : ∀ l ∈ before', (lineEntry l).isSome := by
        rcases List.eq_nil_or_concat before' with rfl | ⟨l, ls, rfl⟩
        · exact List.forall_mem_nil _
        · exact h.isSome
      have heq : before = before' := by
        rw [← takeWhile_complete hbefore hline, hls, takeWhile_complete hbefore' hline']
      exact heq ▸ h

/-- A line with fewer than four words has no entry. -/
theorem lineEntry_of_short (hlen : (words isSpace line).length < 4) : lineEntry line = none := by
  cases h : lineEntry line with
  | none => rfl
  | some e =>
      obtain ⟨d, g, m, i, more, -, -, -, hwords, -⟩ := lineEntry_eq_some h
      rw [hwords, List.length_cons, List.length_cons, List.length_cons, List.length_cons] at hlen
      omega

/-- **A short line that passes** makes the outcome unfaithful, if the table there was is longer
than the file: the table then shows that it has been cleared. -/
theorem not_faithful_of_passed (hfits : TextFits (before ++ line :: after))
    (hbefore : ∀ l ∈ before, (lineEntry l).isSome) (hlen : (words isSpace line).length < 4)
    (href : ¬ Refused (overwrite (held stack before) line))
    (hlong : (before ++ line :: after).length < sr.routingTable.length) :
    ¬ LineFaithful sr (before ++ line :: after)
      (loadRtLoop (before ++ line :: after) stack false sr) := by
  obtain ⟨a, table, hstrings, htable, hloop⟩ := loadRtLoop_append stack sr hfits hbefore
  intro hfaithful
  rw [hloop] at hfaithful
  rcases loadRtLoop_passed (!before.isEmpty) { sr with routingTable := table }
    hfits.of_append_right (hstrings ▸ href) with hnone | ⟨a', e, hpass⟩
  · rw [hnone] at hfaithful
    cases hfaithful
  rw [hpass] at hfaithful
  cases hres : loadRtLoop after a' true _ with
  | none =>
      rw [hres] at hfaithful
      cases hfaithful
  | some result =>
      rw [hres] at hfaithful
      -- the entry of the short line is in the table
      obtain ⟨hlower, hupper⟩ := length_loadRtLoop hres
      have hend := hfaithful.isTable hbefore (lineEntry_of_short hlen)
      simp only [List.length_append, List.length_singleton] at hlower hupper
      rw [List.length_append, List.length_cons] at hlong
      cases before with
      | nil =>
          rw [IsTable, if_pos rfl] at hend
          simp only [hend, List.isEmpty_nil, Bool.not_true, Bool.false_eq_true, if_false,
            List.length_nil] at hupper hlong
          omega
      | cons l before =>
          have hold := htable.length (List.cons_ne_nil l before)
          have hnew := hend.length (List.cons_ne_nil l before)
          simp only [List.isEmpty_cons, Bool.not_false, if_true] at hlower
          omega

end loading

/-! ### The file -/

/-- **Loading a file is faithful to its lines, whatever table there was, exactly if `inet_aton`
refuses every line with fewer than four words that follows on complete lines only.** -/
theorem loadRt_faithful_iff {text : List UInt8} {stack : RtArrays} (hnul : 0 ∉ text)
    (hline : ∀ l ∈ textLines text, l.length < 8192)
    (hword : ∀ l ∈ textLines text, ∀ w ∈ words isSpace l, w.length < 32) :
    (∀ sr, LineFaithful sr (textLines text) (srLoadRt sr stack (some text))) ↔
      ShortLinesRefused stack (textLines text) := by
  have hfits : TextFits (textLines text) :=
    ⟨fun l hl h => hnul (mem_of_mem_lines hl h), hword⟩
  have hload : ∀ sr, srLoadRt sr stack (some text) = loadRtLoop (textLines text) stack false sr :=
    fun sr => by
      rw [srLoadRt, fgetsLines, textLines,
        reads_eq_lines fun l hl => Nat.le_of_lt_succ (hline l hl)]
  constructor
  · intro h before line after hls hbefore hlen
    by_contra href
    -- the table that was there has one entry more than the file has lines
    have hfaithful := h (srInit []
      (List.replicate ((textLines text).length + 1) ⟨0, 0, 0, IfaceName.ofChars []⟩))
    rw [hload, hls] at hfaithful
    refine not_faithful_of_passed (hls ▸ hfits) hbefore hlen href ?_ hfaithful
    rw [srInit, List.length_replicate]
    exact Nat.lt_succ_self _
  · intro h sr
    rw [hload]
    exact loadRtLoop_faithful hfits h

/-- Arrays of zeros. -/
def zeroArrays : RtArrays :=
  let zeros : CharArray := ⟨List.replicate 32 0, List.length_replicate⟩
  ⟨zeros, zeros, zeros, zeros⟩

/-- The first line of the table the repository has, `10.0.1.100  10.0.1.100  255.255.255.255 eth3`.
Source: `src/rtable` -/
def rtableLine : List UInt8 :=
  [49, 48, 46, 48, 46, 49, 46, 49, 48, 48, 32, 32, 49, 48, 46, 48, 46, 49, 46, 49, 48, 48, 32,
    32, 50, 53, 53, 46, 50, 53, 53, 46, 50, 53, 53, 46, 50, 53, 53, 32, 101, 116, 104, 51, 10]

/-- Its entry: `eth3` for the host 10.0.1.100. -/
def rtableEntry : SrRt where
  dest := u32 [10, 0, 1, 100]
  gw := u32 [10, 0, 1, 100]
  mask := u32 [255, 255, 255, 255]
  interface := IfaceName.ofChars [101, 116, 104, 51]

/-- That table, cut off inside its third line: behind the second, `172.64.3.` is left.
Source: `src/rtable` -/
def cutRtable : List UInt8 :=
  rtableLine ++
    [49, 57, 50, 46, 49, 54, 56, 46, 50, 46, 50, 32, 49, 57, 50, 46, 49, 54, 56, 46, 50, 46, 50, 32,
    50, 53, 53, 46, 50, 53, 53, 46, 50, 53, 53, 46, 50, 53, 53, 32, 101, 116, 104, 49, 10] ++
    [49, 55, 50, 46, 54, 52, 46, 51, 46]

/-- A file of three lines, of which the last is short, and refused. -/
theorem loadRt_faithful_cutRtable :
    (textLines cutRtable).map (fun l => (words isSpace l).length) = [4, 4, 1] ∧
      ∀ sr, LineFaithful sr (textLines cutRtable) (srLoadRt sr zeroArrays (some cutRtable)) := by
  have hnul : 0 ∉ cutRtable := by decide +kernel
  have hline : ∀ l ∈ textLines cutRtable, l.length < 8192 := by decide +kernel
  have hword : ∀ l ∈ textLines cutRtable, ∀ w ∈ words isSpace l, w.length < 32 := by
    decide +kernel
  have hshort : ∀ l ∈ textLines cutRtable, (words isSpace l).length < 4 →
      words isSpace l = [[49, 55, 50, 46, 54, 52, 46, 51, 46]] := by decide +kernel
  refine ⟨by decide +kernel, (loadRt_faithful_iff hnul hline hword).mpr ?_⟩
  intro before line after hls _ hlen
  have hwords := hshort line (hls ▸ List.mem_append_right _ List.mem_cons_self) hlen
  rw [overwrite, hwords]
  exact .inl (by decide +kernel)

/-- **A blank line behind it** repeats its entry. -/
theorem loadRt_blank_line :
    textLines (rtableLine ++ [10]) = [rtableLine, [10]] ∧
      lineEntry rtableLine = some rtableEntry ∧ lineEntry [10] = none ∧
      srLoadRt (srInit [] []) zeroArrays (some (rtableLine ++ [10])) =
        some (0, srInit [] [rtableEntry, rtableEntry]) ∧
      ¬ LineFaithful (srInit [] []) (textLines (rtableLine ++ [10]))
        (srLoadRt (srInit [] []) zeroArrays (some (rtableLine ++ [10]))) := by
  have hlines : textLines (rtableLine ++ [10]) = [rtableLine, [10]] := by decide +kernel
  have hreads : fgetsLines (rtableLine ++ [10]) = textLines (rtableLine ++ [10]) :=
    reads_eq_lines (by decide +kernel)
  have hload : srLoadRt (srInit [] []) zeroArrays (some (rtableLine ++ [10])) =
      some (0, srInit [] [rtableEntry, rtableEntry]) := by
    rw [srLoadRt, hreads]
    decide +kernel
  refine ⟨hlines, by decide +kernel, by decide, hload, fun hfaithful => ?_⟩
  rw [hload, hlines] at hfaithful
  generalize hres : some _ = res at hfaithful
  cases hfaithful with
  | loaded table h =>
      exact absurd (h.isSome [10] (List.mem_cons_of_mem _ List.mem_cons_self)) (by decide)
  | refused before line after table hls hline h =>
      exact absurd (Prod.mk.inj (Option.some.inj hres)).1 (by decide)

end SimpleRouter
