import SimpleRouter.MessageBounds

/-!
# When the client stops reading

The two loops of `sr_read_from_server_expect` count the bytes read and test for `-1` only. At the
end of the stream `recv` and `read` return `0`, so a loop that still misses bytes goes round for
ever.

* `dispatch_settles` — handling a message is no reason to hang.
* `readBody_hang_iff`, `readCommand_hang_iff`, `hang_iff` — a call hangs exactly if the stream ends
  before the length word does or before the length it announces.
* `endsReading_iff` — **when a call comes to an end**: if a read fails, if the length is refused, or
  if the whole message is there. At the end of the stream it never does, wherever the stream ends
  (`reads_for_ever`).
-/

namespace SimpleRouter

open Buffer Stream Logged Machine

variable {fuel len : ℕ} {env : VnsEnv} {s : Session} {expected : Option VnsCommand} {sock : Socket}

/-! ### Handling a message -/

/-- The computation does not read from a closed connection for ever. -/
def Settles {α : Type} (x : Vns α) : Prop := x.val ≠ .error .hang

section settles

variable {α β : Type}

/-- A value is returned. -/
theorem settles_pure (a : α) : Settles (pure a) := nofun

/-- An event returns. -/
theorem settles_tell (e : Io) : Settles (tell e) := nofun

/-- Several events return. -/
theorem settles_tells (es : List Io) : Settles (tells es) := nofun

/-- Any other stop is no hang. -/
theorem settles_stop {e : Stop} (h : e ≠ .hang) : Settles (stop e : Vns α) :=
  fun he => h (Except.error.inj he)

/-- A sequence settles if its parts do. -/
theorem Settles.bind {x : Vns α} {f : α → Vns β} (hx : Settles x) (hf : ∀ a, Settles (f a)) :
    Settles (x >>= f) := by
  unfold Settles
  rw [val_bind, Ne, error_bind_iff]
  rintro (h | ⟨a, -, h⟩)
  · exact hx h
  · exact hf a h

/-- An event in front changes nothing. -/
theorem Settles.tell_bind {e : Io} {f : Unit → Vns β} (hf : Settles (f ())) :
    Settles (tell e >>= f) := (settles_tell e).bind fun _ => hf

/-- A sequence whose second part settles hangs where its first part does. -/
theorem hang_bind_iff {x : Vns α} {f : α → Vns β} (hf : ∀ a, Settles (f a)) :
    (x >>= f).val = .error .hang ↔ x.val = .error .hang := by
  rw [val_bind, error_bind_iff]
  constructor
  · rintro (h | ⟨a, -, h⟩)
    · exact h
    · exact absurd h (hf a)
  · exact .inl

end settles

/-- The check for ARP requests comes to its end. -/
theorem srArpReqNotForUs_settles {sr : SrInstance} {buf name : List UInt8} :
    Settles (srArpReqNotForUs env sr buf len name) := by
  refine (settles_tells _).bind fun _ => ?_
  by_cases hlen : len < 42
  · rw [if_pos hlen]
    exact settles_pure _
  rw [if_neg hlen]
  cases srGetInterface sr (IfaceName.ofChars name) with
  | none => exact settles_stop nofun
  | some iface =>
      refine .tell_bind ?_
      split_ifs
      · exact settles_pure _
      · exact .tell_bind (settles_pure _)
      · exact .tell_bind (.tell_bind (settles_pure _))

/-- A packet is handled. -/
theorem handleVnspacket_settles {buf : List UInt8} : Settles (handleVnspacket env s buf) := by
  refine .tell_bind (srArpReqNotForUs_settles.bind fun drop => ?_)
  split_ifs
  · exact settles_pure _
  refine .tell_bind ((settles_tells _).bind fun _ => .tell_bind ?_)
  split
  · exact (settles_tells _).bind fun _ => settles_pure _
  · exact settles_stop nofun

/-- An entry is handled. -/
theorem hwinfoEntry_settles {buf : List UInt8} {i : ℕ} {ifs : List SrIf} :
    Settles (hwinfoEntry env buf i ifs) := by
  refine .tell_bind ?_
  split
  · exact .tell_bind (settles_pure _)
  · split_ifs
    · exact settles_stop nofun
    · exact .tell_bind (settles_pure _)
  · refine .tell_bind ?_
    split_ifs
    · exact settles_stop nofun
    · exact settles_pure _
  · exact settles_pure _

/-- The loop over the entries comes to its end. -/
theorem hwinfoLoop_settles {buf : List UInt8} {i n : ℕ} {ifs : List SrIf} :
    Settles (hwinfoLoop env buf i n ifs) := by
  induction n generalizing i ifs with
  | zero => exact settles_pure _
  | succ n ih => exact hwinfoEntry_settles.bind fun _ => ih

/-- A routing table is handled. -/
theorem srHandleRtable_settles {buf : List UInt8} : Settles (srHandleRtable env buf) := by
  refine .tell_bind ?_
  split_ifs
  · exact settles_stop nofun
  · exact .tell_bind (.tell_bind (.tell_bind (settles_pure _)))
  · exact settles_pure _

/-- A request for authentication is handled. -/
theorem srHandleAuthRequest_settles {user : CStr 32} {buf : List UInt8} :
    Settles (srHandleAuthRequest env user buf) := by
  unfold srHandleAuthRequest
  split
  · exact settles_pure _
  · refine .tell_bind (.tell_bind ?_)
    split
    · exact settles_pure _
    · exact .tell_bind (settles_pure _)

/-- A status is handled. -/
theorem srHandleAuthStatus_settles {buf : List UInt8} : Settles (srHandleAuthStatus env buf) := by
  refine .tell_bind ?_
  split_ifs
  · exact settles_pure _
  · exact .tell_bind (settles_pure _)

/-- **Whatever message has been read, it is handled.** -/
theorem dispatch_settles {command : UInt32} {buf : List UInt8} :
    Settles (dispatch env s expected command buf) := by
  refine .tell_bind ?_
  split_ifs
  · exact settles_pure _
  unfold handleCommand
  split
  · exact handleVnspacket_settles
  · exact .tell_bind (settles_pure _)
  · exact .tell_bind (settles_pure _)
  · exact (Settles.tell_bind (hwinfoLoop_settles.bind fun _ => settles_pure _)).bind
      fun _ => settles_pure _
  · exact srHandleRtable_settles.bind fun _ => settles_pure _
  · exact srHandleAuthRequest_settles.bind fun _ => settles_pure _
  · exact srHandleAuthStatus_settles.bind fun _ => settles_pure _
  · exact settles_pure _

/-! ### Reading a message -/

/-- Reading the rest of a message hangs exactly if the stream ends before it does. -/
theorem readBody_hang_iff {word : List UInt8} (hfuel : len ≤ fuel) :
    (readBody fuel env word len sock).val = .error .hang ↔
      NoError sock ∧ (bytes sock).length + 4 < len := by
  unfold readBody
  rw [tell_bind]
  by_cases h4 : len < 4
  · rw [if_pos h4]
    exact iff_of_false nofun (by omega)
  rw [if_neg h4]
  refine (hang_bind_iff fun r => ?_).trans ?_
  · obtain ⟨buf, sock'⟩ := r
    cases buf with
    | none => exact settles_pure _
    | some buf =>
        refine .tell_bind (.tell_bind ?_)
        split_ifs
        · exact .tell_bind (settles_stop nofun)
        · exact settles_pure _
  · rw [readLoop_hang_iff (by omega)]
    exact and_congr_right fun _ => by omega

/-- The length the stream announces in its first four bytes, as the client reads it. -/
def announced (sock : Socket) : ℤ := (htonl (u32 ((bytes sock).take 4))).toBitVec.toInt

/-- What follows a length word. -/
theorem afterWord_hang_iff (hfuel : 10000 ≤ fuel) (env : VnsEnv) (sock : Socket)
    (word : List UInt8) (n : ℤ) :
    ((if n > 10000 ∨ n < 0 then do
        tell (.refused n)
        pure (none, sock)
      else readBody fuel env word n.toNat sock) :
        Vns (Option (UInt32 × List UInt8) × Socket)).val = .error .hang ↔
      NoError sock ∧ n ≤ 10000 ∧ ((bytes sock).length : ℤ) + 4 < n := by
  split_ifs with hrefused
  · exact iff_of_false nofun (by omega)
  · rw [readBody_hang_iff (by omega)]
    exact and_congr_right fun _ => by omega

/-- Reading a message hangs exactly if the stream ends inside it. -/
theorem readCommand_hang_iff (hfuel : 10000 ≤ fuel) :
    (readCommand fuel env sock).val = .error .hang ↔
      NoError sock ∧ ((bytes sock).length < 4 ∨
        announced sock ≤ 10000 ∧ ((bytes sock).length : ℤ) < announced sock) := by
  unfold readCommand
  rw [val_bind, error_bind_iff, readLoop_hang_iff (by omega), Nat.sub_zero]
  by_cases hsock : NoError sock
  · by_cases hword : (bytes sock).length < 4
    · exact iff_of_true (.inl ⟨hsock, hword⟩) ⟨hsock, .inl hword⟩
    · -- the length word is there, and with it the announced length
      obtain ⟨sock', hrest, hsock', hval⟩ :=
        readLoop_val Io.lenWord Stop.hang 0 hsock (by omega : 4 - 0 ≤ (bytes sock).length)
      have hloop := hval fuel ((List.range 4).map env.stack) (by omega)
      have hfour : ((bytes sock).take 4).length = ((List.range 4).map env.stack).length := by
        rw [List.length_take, List.length_map, List.length_range]
        omega
      rw [Nat.sub_zero, put_all hfour] at hloop
      have hlen : (bytes sock').length = (bytes sock).length - 4 := by
        rw [hrest, List.length_drop, Nat.sub_zero]
      have hafter := afterWord_hang_iff hfuel env sock' ((bytes sock).take 4) (announced sock)
      rw [hloop]
      constructor
      · rintro (⟨-, hshort⟩ | ⟨r, hr, h⟩)
        · exact absurd hshort hword
        · obtain rfl := Except.ok.inj hr
          obtain ⟨-, hle, hlt⟩ := hafter.mp h
          exact ⟨hsock, .inr ⟨hle, by omega⟩⟩
      · rintro ⟨-, hshort | ⟨hle, hlt⟩⟩
        · exact absurd hshort hword
        · exact .inr ⟨_, rfl, hafter.mpr ⟨hsock', hle, by omega⟩⟩
  · refine iff_of_false ?_ fun h => hsock h.1
    obtain ⟨word, sock', hval, hleft⟩ : ∃ r sock',
        (readLoop Io.lenWord Stop.hang 4 0 fuel 0 ((List.range 4).map env.stack) sock).val =
          .ok (r, sock') ∧ (r = none ∨ ¬ NoError sock') := readLoop_of_error hsock (by omega)
    rw [hval]
    rintro (⟨h, -⟩ | ⟨r, hr, h⟩)
    · exact hsock h
    · obtain rfl := Except.ok.inj hr
      cases word with
      | none => cases h
      | some word =>
          have hno : NoError sock' := ((afterWord_hang_iff hfuel env sock' word _).mp h).1
          exact hleft.resolve_left nofun hno

/-- **When a call hangs**: if the stream ends inside the message. -/
theorem hang_iff (hfuel : 10000 ≤ fuel) :
    (srReadFromServerExpect fuel env s expected sock).val = .error .hang ↔
      NoError sock ∧ ((bytes sock).length < 4 ∨
        announced sock ≤ 10000 ∧ ((bytes sock).length : ℤ) < announced sock) := by
  refine (hang_bind_iff fun r => ?_).trans (readCommand_hang_iff hfuel)
  obtain ⟨message, sock'⟩ := r
  cases message with
  | none => exact settles_pure _
  | some message => exact dispatch_settles.bind fun _ => settles_pure _

/-- **A call comes to its end**: given enough rounds for its loops, it does not go on reading. -/
def EndsReading (env : VnsEnv) (s : Session) (expected : Option VnsCommand) (sock : Socket) :
    Prop :=
  ∃ n, ∀ fuel ≥ n, (srReadFromServerExpect fuel env s expected sock).val ≠ .error .hang

/-- **When a call comes to its end**: if a read fails, or the length word is there and the length
is refused or the message is there too. -/
theorem endsReading_iff :
    EndsReading env s expected sock ↔
      ¬ NoError sock ∨ 4 ≤ (bytes sock).length ∧
        (announced sock > 10000 ∨ announced sock ≤ (bytes sock).length) := by
  constructor
  · rintro ⟨n, hn⟩
    have hends := (hang_iff (le_max_right n 10000)).not.mp (hn _ (le_max_left n 10000))
    by_cases hsock : NoError sock
    · rw [and_iff_right hsock] at hends
      exact .inr (by omega)
    · exact .inl hsock
  · intro hends
    refine ⟨10000, fun fuel hfuel => (hang_iff hfuel).not.mpr ?_⟩
    rintro ⟨hsock, hshort⟩
    have hthere := hends.resolve_left (not_not.mpr hsock)
    omega

/-- Streams that end between messages, inside a length word, and inside the body of a message of
ten bytes. -/
def endings : List Socket :=
  [[], [.segment [0, 0, 0] (by decide)], [.segment [0, 0, 0, 10, 0] (by decide), .eintr]]

/-- A call on any of them goes on reading, however long. -/
theorem reads_for_ever :
    (∀ sock ∈ endings, ∀ fuel ≥ 10000,
      (srReadFromServerExpect fuel quietEnv bareSession none sock).val = .error .hang) ∧
    ∀ sock ∈ endings, ¬ EndsReading quietEnv bareSession none sock := by
  have hends : ∀ sock ∈ endings, NoError sock ∧ ((bytes sock).length < 4 ∨
      announced sock ≤ 10000 ∧ ((bytes sock).length : ℤ) < announced sock) := by
    intro sock hsock
    simp only [endings, List.mem_cons, List.not_mem_nil, or_false] at hsock
    rcases hsock with rfl | rfl | rfl
    · exact ⟨by simp [NoError], by decide⟩
    · exact ⟨by simp [NoError], by decide⟩
    · exact ⟨by simp [NoError], by decide +kernel⟩
  refine ⟨fun sock hsock fuel hfuel => (hang_iff hfuel).mpr (hends sock hsock), ?_⟩
  rintro sock hsock ⟨n, hn⟩
  exact hn _ (le_max_left n 10000) ((hang_iff (le_max_right n 10000)).mpr (hends sock hsock))

end SimpleRouter
