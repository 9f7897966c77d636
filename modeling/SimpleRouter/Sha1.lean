import SimpleRouter.Lib.Blocks
import SimpleRouter.Lib.Simulation
import SimpleRouter.Router

/-!
# The message digest (`sha1.c`, `sha1.h`)

A context holds the digest of the blocks seen so far and the block begun. `SHA1Input` takes any
number of bytes at a time, `SHA1Result` pads and finishes. A write to `Message_Block` past its end
is a `Fault`.

* `sha1` — what the functions are for: the compression function folded over the blocks of the
  padded message. `Hasher` is the state of a computation of it, as its user sees it.
* `represents_simulates` — a context does what the `Hasher` it stands for does, call by call;
  `sha1_refines` — **so it is for any calls in any order**, whatever the context held before the
  first `SHA1Reset`. No call writes outside the context.
* `sha1_eq_or_collides` — **byte strings with the same digest are equal, or
  `SHA1ProcessMessageBlock` collides** on blocks of theirs.
-/

namespace SimpleRouter

open Buffer Machine Blocks

/-! ### The context -/

/-- Source: `sha1.h`, `struct SHA1Context` -/
structure Sha1Context where
  /-- `Message_Digest`. -/
  messageDigest : Fin 5 → UInt32
  /-- `Length_Low`. -/
  lengthLow : UInt32
  /-- `Length_High`. -/
  lengthHigh : UInt32
  /-- `Message_Block`. -/
  messageBlock : List UInt8
  messageBlock_length : messageBlock.length = 64
  /-- `Message_Block_Index`. -/
  messageBlockIndex : ℕ
  /-- `Computed`. -/
  computed : Bool
  /-- `Corrupted`. -/
  corrupted : Bool

/-- The digest of no block. -/
def sha1Start : Fin 5 → UInt32 := ![0x67452301, 0xEFCDAB89, 0x98BADCFE, 0x10325476, 0xC3D2E1F0]

/-- The block keeps what it held.
Source: `sha1.c`, `SHA1Reset` -/
def sha1Reset (context : Sha1Context) : Sha1Context :=
  { context with
    lengthLow := 0
    lengthHigh := 0
    messageBlockIndex := 0
    messageDigest := sha1Start
    computed := false
    corrupted := false }

/-! ### One block -/

/-- Source: `sha1.c`, `SHA1CircularShift` -/
def sha1CircularShift (bits word : UInt32) : UInt32 :=
  ((word <<< bits) &&& 0xFFFFFFFF) ||| (word >>> (32 - bits))

/-- The word buffers `A` to `E`. -/
structure Sha1Words where
  /-- `A`. -/
  a : UInt32
  /-- `B`. -/
  b : UInt32
  /-- `C`. -/
  c : UInt32
  /-- `D`. -/
  d : UInt32
  /-- `E`. -/
  e : UInt32

/-- The word sequence `W`.
Source: `sha1.c`, `SHA1ProcessMessageBlock`, the first two loops -/
def sha1Sequence (block : List UInt8) : List UInt32 :=
  let byte := fun i => (block.getD i 0).toUInt32
  let first := (List.range 16).map fun t =>
    (byte (t * 4) <<< 24) ||| (byte (t * 4 + 1) <<< 16) ||| (byte (t * 4 + 2) <<< 8) |||
      byte (t * 4 + 3)
  (List.range' 16 64).foldl (fun w t => w ++ [sha1CircularShift 1 (w.getD (t - 3) 0 ^^^
    w.getD (t - 8) 0 ^^^ w.getD (t - 14) 0 ^^^ w.getD (t - 16) 0)]) first

/-- The body of the four loops over the rounds, which differ in the function of `B`, `C` and `D`
and in the constant.
Source: `sha1.c`, `SHA1ProcessMessageBlock` -/
def sha1Round (f : UInt32 → UInt32 → UInt32 → UInt32) (k w : UInt32) (x : Sha1Words) :
    Sha1Words :=
  let temp := sha1CircularShift 5 x.a + f x.b x.c x.d + x.e + w + k
  ⟨temp, x.a, sha1CircularShift 30 x.b, x.c, x.d⟩

/-- Twenty rounds from the `t`-th on. -/
def sha1Rounds (f : UInt32 → UInt32 → UInt32 → UInt32) (k : UInt32) (w : List UInt32) (t : ℕ)
    (x : Sha1Words) : Sha1Words :=
  (List.range' t 20).foldl (fun x t => sha1Round f k (w.getD t 0) x) x

/-- The digest after a block.
Source: `sha1.c`, `SHA1ProcessMessageBlock` -/
def sha1Compress (digest : Fin 5 → UInt32) (block : List UInt8) : Fin 5 → UInt32 :=
  let w := sha1Sequence block
  let x : Sha1Words := ⟨digest 0, digest 1, digest 2, digest 3, digest 4⟩
  let x := sha1Rounds (fun b c d => (b &&& c) ||| (~~~b &&& d)) 0x5A827999 w 0 x
  let x := sha1Rounds (fun b c d => b ^^^ c ^^^ d) 0x6ED9EBA1 w 20 x
  let x := sha1Rounds (fun b c d => (b &&& c) ||| (b &&& d) ||| (c &&& d)) 0x8F1BBCDC w 40 x
  let x := sha1Rounds (fun b c d => b ^^^ c ^^^ d) 0xCA62C1D6 w 60 x
  ![digest 0 + x.a, digest 1 + x.b, digest 2 + x.c, digest 3 + x.d, digest 4 + x.e]

/-- Source: `sha1.c`, `SHA1ProcessMessageBlock` -/
def sha1ProcessMessageBlock (context : Sha1Context) : Sha1Context :=
  { context with
    messageDigest := sha1Compress context.messageDigest context.messageBlock
    messageBlockIndex := 0 }

/-! ### The calls -/

/-- `Message_Block[Message_Block_Index++] = byte`. -/
def Sha1Context.store (context : Sha1Context) (byte : UInt8) : Except Fault Sha1Context :=
  if context.messageBlockIndex < 64 then
    .ok { context with
      messageBlock := put context.messageBlock context.messageBlockIndex [byte]
      messageBlock_length := by rw [length_put, context.messageBlock_length]
      messageBlockIndex := context.messageBlockIndex + 1 }
  else .error .outOfBounds

/-- Count 8 bits more, in two words.
Source: `sha1.c`, `SHA1Input`, the lines on `Length_Low` and `Length_High` -/
def Sha1Context.count (context : Sha1Context) : Sha1Context :=
  let low := context.lengthLow + 8
  if low = 0 then
    let high := context.lengthHigh + 1
    { context with
      lengthLow := low
      lengthHigh := high
      corrupted := if high = 0 then true else context.corrupted }
  else { context with lengthLow := low }

/-- The loop, which ends early when the message has become too long.
Source: `sha1.c`, `SHA1Input`, the `while` loop -/
def sha1InputLoop : List UInt8 → Sha1Context → Except Fault Sha1Context
  | [], context => .ok context
  | byte :: rest, context =>
      if context.corrupted then .ok context
      else do
        let context ← context.store byte
        let context := context.count
        let context :=
          if context.messageBlockIndex = 64 then sha1ProcessMessageBlock context else context
        sha1InputLoop rest context

/-- Source: `sha1.c`, `SHA1Input` -/
def sha1Input (context : Sha1Context) (messageArray : List UInt8) : Except Fault Sha1Context :=
  if messageArray.length = 0 then .ok context
  else if context.computed ∨ context.corrupted then .ok { context with corrupted := true }
  else sha1InputLoop messageArray context

/-- `while (Message_Block_Index < limit) Message_Block[Message_Block_Index++] = 0`. -/
def sha1Zeros (limit : ℕ) (context : Sha1Context) : Except Fault Sha1Context :=
  (List.range (limit - context.messageBlockIndex)).foldlM (fun context _ => context.store 0) context

/-- The bytes of a word, the high one first.
Source: `sha1.c`, `SHA1PadMessage`, the right sides of the assignments to `Message_Block` -/
def sha1LengthBytes (word : UInt32) : List UInt8 :=
  [(word >>> 24 &&& 0xFF).toUInt8, (word >>> 16 &&& 0xFF).toUInt8, (word >>> 8 &&& 0xFF).toUInt8,
    (word &&& 0xFF).toUInt8]

/-- Pad the block up to its last eight bytes, in a second one if there is no room in the first.
Source: `sha1.c`, `SHA1PadMessage`, the `if` -/
def sha1PadBlock (context : Sha1Context) : Except Fault Sha1Context :=
  if context.messageBlockIndex > 55 then do
    let context ← context.store 0x80
    let context ← sha1Zeros 64 context
    sha1Zeros 56 (sha1ProcessMessageBlock context)
  else do
    let context ← context.store 0x80
    sha1Zeros 56 context

/-- Source: `sha1.c`, `SHA1PadMessage` -/
def sha1PadMessage (context : Sha1Context) : Except Fault Sha1Context := do
  let context ← sha1PadBlock context
  .ok (sha1ProcessMessageBlock { context with
    messageBlock := put context.messageBlock 56
      (sha1LengthBytes context.lengthHigh ++ sha1LengthBytes context.lengthLow)
    messageBlock_length := by rw [length_put, context.messageBlock_length] })

/-- The value is what is returned, and the context.
Source: `sha1.c`, `SHA1Result` -/
def sha1Result (context : Sha1Context) : Except Fault (Bool × Sha1Context) :=
  if context.corrupted then .ok (false, context)
  else if context.computed then .ok (true, context)
  else do
    let context ← sha1PadMessage context
    .ok (true, { context with computed := true })

/-- A call on a context. -/
inductive Sha1Call where
  /-- `SHA1Reset(context)`. -/
  | reset
  /-- `SHA1Input(context, message_array, length)`. -/
  | input (messageArray : List UInt8)
  /-- `SHA1Result(context)`. -/
  | result

/-- One call. `SHA1Result` is answered with the digest, if it returns 1. -/
def sha1Step (context : Sha1Context) :
    Sha1Call → Except Fault (Sha1Context × List (Option (Fin 5 → UInt32)))
  | .reset => .ok (sha1Reset context, [])
  | .input messageArray => do
      let context ← sha1Input context messageArray
      .ok (context, [])
  | .result => do
      let (ret, context) ← sha1Result context
      .ok (context, [if ret then some context.messageDigest else none])

/-! ### What it is for -/

/-- A one bit, zeros up to eight bytes before the end of a block, and the number of bits. -/
def sha1Padding : Padding UInt8 64 where
  fill := fun len => 0x80 :: List.replicate ((119 - len % 64) % 64) 0
  mark := fun len => Wire.be 8 (8 * len)
  size := 8
  length_mark := fun len => Wire.length_be 8 _
  size_pos := by norm_num
  size_le := by norm_num
  fills := by
    intro len
    rw [List.length_cons, List.length_replicate]
    omega

/-- The digest of a message. -/
def sha1 (m : List UInt8) : Fin 5 → UInt32 := sha1Padding.hash sha1Compress sha1Start m

/-- A computation of a digest, as its user sees it. -/
inductive Hasher where
  /-- The message so far. -/
  | absorbing (m : List UInt8)
  /-- The digest of a message has been asked for. -/
  | finished (m : List UInt8)
  /-- The message has become too long, or there was more of it after its digest. -/
  | corrupted

/-- One call: a digest is of the whole message since the last reset, if that has less than `2^64`
bits. -/
def hasherStep : Hasher → Sha1Call → Except Empty (Hasher × List (Option (Fin 5 → UInt32)))
  | _, .reset => .ok (.absorbing [], [])
  | h, .input [] => .ok (h, [])
  | .absorbing m, .input m' =>
      .ok (if (m ++ m').length < 2 ^ 61 then .absorbing (m ++ m') else .corrupted, [])
  | .finished _, .input _ => .ok (.corrupted, [])
  | .corrupted, .input _ => .ok (.corrupted, [])
  | .absorbing m, .result => .ok (.finished m, [some (sha1 m)])
  | .finished m, .result => .ok (.finished m, [some (sha1 m)])
  | .corrupted, .result => .ok (.corrupted, [none])

/-- The test vector of the standard. -/
example : sha1 [0x61, 0x62, 0x63] =
    ![0xa9993e36, 0x4706816a, 0xba3e2571, 0x7850c26c, 0x9cd0d89d] := by
  decide +kernel

/-! ### Filling the block -/

section filling

variable {context : Sha1Context} {s : Fin 5 → UInt32} {buf : List UInt8}

/-- The words and flags of the context besides its digest and its block. -/
def Sha1Context.status (context : Sha1Context) : UInt32 × UInt32 × Bool × Bool :=
  (context.lengthLow, context.lengthHigh, context.computed, context.corrupted)

/-- The digest is `s`, and the block begins with `buf`. -/
structure Holding (context : Sha1Context) (s : Fin 5 → UInt32) (buf : List UInt8) : Prop where
  digest : context.messageDigest = s
  index : context.messageBlockIndex = buf.length
  front : context.messageBlock.take buf.length = buf

/-- A byte that has room is stored. -/
theorem Holding.store (h : Holding context s buf) (hlt : buf.length < 64) (byte : UInt8) :
    ∃ context', context.store byte = .ok context' ∧ Holding context' s (buf ++ [byte]) ∧
      context'.status = context.status := by
  have hindex : context.messageBlockIndex < 64 := h.index ▸ hlt
  refine ⟨_, if_pos hindex, ⟨h.digest, ?_, ?_⟩, rfl⟩
  · show context.messageBlockIndex + 1 = _
    rw [h.index, List.length_append, List.length_singleton]
  · show (put context.messageBlock context.messageBlockIndex [byte]).take _ = _
    have hroom : buf.length + [byte].length ≤ context.messageBlock.length := by
      rw [context.messageBlock_length]
      exact hlt
    rw [h.index, put_eq_append hroom, h.front]
    exact List.take_left

/-- Zeros that have room are stored. -/
theorem Holding.zeros (h : Holding context s buf) (limit : ℕ) (hbuf : buf.length ≤ limit)
    (hlimit : limit ≤ 64) :
    ∃ context', sha1Zeros limit context = .ok context' ∧
      Holding context' s (buf ++ List.replicate (limit - buf.length) 0) ∧
      context'.status = context.status := by
  have hloop : ∀ k, buf.length + k ≤ 64 → ∃ context',
      (List.range k).foldlM (fun context _ => context.store 0) context = .ok context' ∧
        Holding context' s (buf ++ List.replicate k 0) ∧ context'.status = context.status := by
    intro k
    induction k with
    | zero => exact fun _ => ⟨context, rfl, by simpa using h, rfl⟩
    | succ k ih =>
        intro hk
        obtain ⟨context₁, hrun, hhold, hstatus⟩ := ih (by omega)
        have hroom : (buf ++ List.replicate k 0).length < 64 := by
          rw [List.length_append, List.length_replicate]
          omega
        obtain ⟨context₂, hstore, hhold', hstatus'⟩ := hhold.store hroom 0
        refine ⟨context₂, ?_, ?_, hstatus'.trans hstatus⟩
        · rw [List.range_succ, List.foldlM_append, hrun]
          exact ok_bind_iff.mpr ⟨context₁, rfl, ok_bind_iff.mpr ⟨context₂, hstore, rfl⟩⟩
        · rwa [List.append_assoc, ← List.replicate_succ'] at hhold'
  rw [sha1Zeros, h.index]
  exact hloop _ (by omega)

/-- A full block is processed. -/
theorem Holding.process (h : Holding context s buf) (hfull : buf.length = 64) :
    Holding (sha1ProcessMessageBlock context) (sha1Compress s buf) [] where
  digest := by
    have hblock : context.messageBlock = buf := by
      have hfront := h.front
      rwa [hfull, ← context.messageBlock_length, List.take_length] at hfront
    show sha1Compress context.messageDigest context.messageBlock = _
    rw [h.digest, hblock]
  index := rfl
  front := rfl

/-- The last eight bytes of a block, written over what is there. -/
theorem Holding.finish {bytes : List UInt8} (h : Holding context s buf) (hbuf : buf.length = 56)
    (hbytes : bytes.length = 8) : put context.messageBlock 56 bytes = buf ++ bytes := by
  have hroom : 56 + bytes.length = context.messageBlock.length := by
    rw [hbytes, context.messageBlock_length]
  rw [put_eq_append hroom.le, hroom, List.drop_length, List.append_nil, ← hbuf, h.front]

end filling

/-! ### Counting -/

section counting

variable {context : Sha1Context}

/-- The two words are the number of bits of `len` bytes. -/
def Counted (context : Sha1Context) (len : ℕ) : Prop :=
  context.lengthHigh.toNat * 2 ^ 32 + context.lengthLow.toNat = 8 * len

/-- One byte more is counted, or is too many. -/
theorem Counted.count {len : ℕ} (h : Counted context len) :
    (len + 1 < 2 ^ 61 → Counted context.count (len + 1) ∧
        context.count.corrupted = context.corrupted) ∧
      (len + 1 = 2 ^ 61 → context.count.corrupted = true) := by
  have hlow := context.lengthLow.toNat_lt
  have hhigh := context.lengthHigh.toNat_lt
  unfold Counted at h ⊢
  have hadd : (context.lengthLow + 8).toNat = (context.lengthLow.toNat + 8) % 2 ^ 32 := rfl
  have hcarry : (context.lengthHigh + 1).toNat = (context.lengthHigh.toNat + 1) % 2 ^ 32 := rfl
  unfold Sha1Context.count
  dsimp only
  by_cases hzero : context.lengthLow + 8 = 0
  · have hwrap : (context.lengthLow.toNat + 8) % 2 ^ 32 = 0 := by rw [← hadd, hzero]; rfl
    have hfull : context.lengthLow.toNat + 8 = 2 ^ 32 := by omega
    rw [if_pos hzero]
    dsimp only
    rw [hadd, hcarry, hwrap]
    by_cases hzero' : context.lengthHigh + 1 = 0
    · have hwrap' : (context.lengthHigh.toNat + 1) % 2 ^ 32 = 0 := by rw [← hcarry, hzero']; rfl
      rw [if_pos hzero']
      exact ⟨fun hlen => absurd hlen (by omega), fun _ => rfl⟩
    · have hwrap' : (context.lengthHigh.toNat + 1) % 2 ^ 32 ≠ 0 := fun h0 =>
        hzero' (UInt32.toNat_inj.mp (hcarry.trans h0))
      have hnext : (context.lengthHigh.toNat + 1) % 2 ^ 32 = context.lengthHigh.toNat + 1 := by
        omega
      rw [if_neg hzero', hnext]
      refine ⟨fun hlen => ⟨?_, rfl⟩, fun hlen => by omega⟩
      rw [Nat.add_zero]
      omega
  · have hwrap : (context.lengthLow.toNat + 8) % 2 ^ 32 ≠ 0 := fun h0 =>
      hzero (UInt32.toNat_inj.mp (hadd.trans h0))
    rw [if_neg hzero]
    dsimp only
    rw [hadd]
    exact ⟨fun hlen => ⟨by omega, rfl⟩, fun hlen => by omega⟩

/-- Counting touches neither the digest nor the block. -/
theorem Holding.count {s : Fin 5 → UInt32} {buf : List UInt8} (h : Holding context s buf) :
    Holding context.count s buf := by
  unfold Sha1Context.count
  dsimp only
  split_ifs <;> exact ⟨h.digest, h.index, h.front⟩

/-- A new length leaves the flag as it is. -/
theorem computed_count : context.count.computed = context.computed := by
  unfold Sha1Context.count
  dsimp only
  split_ifs <;> rfl

/-- A byte of a word is a digit of it. -/
theorem sha1LengthBytes_eq (word : UInt32) : sha1LengthBytes word = Wire.be 4 word.toNat := by
  have hword := word.toNat_lt
  simp only [sha1LengthBytes, Wire.be, List.cons.injEq, and_true, ← UInt8.toNat_inj,
    UInt32.toNat_toUInt8, UInt32.toNat_and, UInt32.toNat_shiftRight, UInt8.toNat_ofNat',
    Nat.shiftRight_eq_div_pow]
  have hmask : (0xFF : UInt32).toNat = 2 ^ 8 - 1 := rfl
  simp only [hmask, Nat.and_two_pow_sub_one_eq_mod]
  norm_num
  exact ⟨rfl, rfl, rfl⟩

/-- The two words behind each other are the mark of the length. -/
theorem Counted.bytes {len : ℕ} (h : Counted context len) :
    sha1LengthBytes context.lengthHigh ++ sha1LengthBytes context.lengthLow =
      sha1Padding.mark len := by
  have hlow : context.lengthLow.toNat < 256 ^ 4 := context.lengthLow.toNat_lt
  have hbits : 8 * len = context.lengthHigh.toNat * 256 ^ 4 + context.lengthLow.toNat := h.symm
  have hdiv : 8 * len / 256 ^ 4 = context.lengthHigh.toNat := by
    rw [hbits, Nat.add_comm, Nat.add_mul_div_right _ _ (by norm_num), Nat.div_eq_of_lt hlow,
      Nat.zero_add]
  show _ = Wire.be (4 + 4) (8 * len)
  rw [sha1LengthBytes_eq, sha1LengthBytes_eq, Wire.be_add, hdiv, hbits, Wire.be_mul_add]

end counting

/-! ### What a context stands for -/

/-- The context has absorbed the message `m`. -/
structure Absorbing (m : List UInt8) (context : Sha1Context) : Prop where
  holding : Holding context ((blocks 64 m).foldl sha1Compress sha1Start) (residue 64 m)
  counted : Counted context m.length
  short : m.length < 2 ^ 61
  computed : context.computed = false
  corrupted : context.corrupted = false

section absorbing

variable {m m' : List UInt8} {context : Sha1Context}

/-- A context that is reset has absorbed nothing. -/
theorem absorbing_reset (context : Sha1Context) : Absorbing [] (sha1Reset context) where
  holding := ⟨by simp [sha1Reset], by simp [sha1Reset], by simp⟩
  counted := by simp [Counted, sha1Reset]
  short := by norm_num
  computed := rfl
  corrupted := rfl

/-- A corrupted context takes nothing in. -/
theorem sha1InputLoop_corrupted (h : context.corrupted = true) :
    sha1InputLoop m context = .ok context := by
  cases m with
  | nil => rfl
  | cons byte m => rw [sha1InputLoop, if_pos h]

/-- A byte has been stored and counted; the block is processed if it is full. -/
theorem Holding.push {s : Fin 5 → UInt32} {buf : List UInt8} {byte : UInt8}
    (h : Holding context s (buf ++ [byte])) :
    Holding (if context.messageBlockIndex = 64 then sha1ProcessMessageBlock context else context)
      (push 64 sha1Compress (s, buf) byte).1 (push 64 sha1Compress (s, buf) byte).2 := by
  have hindex : context.messageBlockIndex = buf.length + 1 := by
    rw [h.index, List.length_append, List.length_singleton]
  unfold Blocks.push
  rw [hindex]
  dsimp only
  split_ifs with hfull
  · exact h.process (by rw [List.length_append]; exact hfull)
  · exact h

/-- **Taking in a byte.** -/
theorem Absorbing.byte (h : Absorbing m context) (byte : UInt8) (rest : List UInt8) :
    ∃ context', sha1InputLoop (byte :: rest) context = sha1InputLoop rest context' ∧
      (m.length + 1 < 2 ^ 61 → Absorbing (m ++ [byte]) context') ∧
      (m.length + 1 = 2 ^ 61 → context'.corrupted = true) := by
  have hlt : (residue 64 m).length < 64 := by
    rw [length_residue]
    exact Nat.mod_lt _ (by norm_num)
  obtain ⟨context₁, hstore, hhold, hstatus⟩ := h.holding.store hlt byte
  obtain ⟨hlow, hhigh, hcomputed, hcorrupted⟩ : context₁.lengthLow = context.lengthLow ∧
      context₁.lengthHigh = context.lengthHigh ∧ context₁.computed = context.computed ∧
      context₁.corrupted = context.corrupted := by
    simpa [Sha1Context.status] using hstatus
  have hcounted : Counted context₁ m.length := by
    unfold Counted
    rw [hlow, hhigh]
    exact h.counted
  have hpush := hhold.count.push
  refine ⟨if context₁.count.messageBlockIndex = 64 then sha1ProcessMessageBlock context₁.count
    else context₁.count, ?_, fun hshort => ?_, fun hlong => ?_⟩
  · rw [sha1InputLoop, if_neg (by rw [h.corrupted]; simp)]
    exact congrArg (fun x => x >>= _) hstore
  · have hstep : (blocks 64 (m ++ [byte])).foldl sha1Compress sha1Start =
          (push 64 sha1Compress ((blocks 64 m).foldl sha1Compress sha1Start, residue 64 m) byte).1 ∧
        residue 64 (m ++ [byte]) =
          (push 64 sha1Compress ((blocks 64 m).foldl sha1Compress sha1Start, residue 64 m)
            byte).2 := by
      have hfold := foldl_push (l := m ++ [byte]) (f := sha1Compress) (s := sha1Start)
        (show 0 < 64 by norm_num)
      rw [List.foldl_append, foldl_push (by norm_num)] at hfold
      exact ⟨(congrArg Prod.fst hfold).symm, (congrArg Prod.snd hfold).symm⟩
    obtain ⟨hcount, hflag⟩ := hcounted.count.1 hshort
    constructor
    case holding =>
      rw [hstep.1, hstep.2]
      exact hpush
    case counted =>
      rw [List.length_append, List.length_singleton]
      split_ifs <;> exact hcount
    case short => rwa [List.length_append, List.length_singleton]
    case computed =>
      have hsame := computed_count.trans (hcomputed.trans h.computed)
      split_ifs <;> exact hsame
    case corrupted =>
      have hsame := hflag.trans (hcorrupted.trans h.corrupted)
      split_ifs <;> exact hsame
  · have hflag := hcounted.count.2 hlong
    split_ifs <;> exact hflag

/-- **Taking in bytes**: as long as they are not too many, the context has absorbed them. -/
theorem Absorbing.inputLoop (h : Absorbing m context) :
    ∃ context', sha1InputLoop m' context = .ok context' ∧
      if (m ++ m').length < 2 ^ 61 then Absorbing (m ++ m') context'
      else context'.corrupted = true := by
  induction m' generalizing m context with
  | nil =>
      refine ⟨context, rfl, ?_⟩
      rw [List.append_nil, if_pos h.short]
      exact h
  | cons byte rest ih =>
      obtain ⟨context₁, hloop, hshort, hlong⟩ := h.byte byte rest
      have hm := h.short
      by_cases hlen : m.length + 1 < 2 ^ 61
      · obtain ⟨context', hrest, hend⟩ := ih (hshort hlen)
        rw [List.append_assoc, List.singleton_append] at hend
        exact ⟨context', hloop.trans hrest, hend⟩
      · have hflag := hlong (by omega)
        refine ⟨context₁, hloop.trans (sha1InputLoop_corrupted hflag), ?_⟩
        rw [if_neg (by rw [List.length_append, List.length_cons]; omega)]
        exact hflag

/-- The padded message, cut where the message is. -/
theorem pad_eq : sha1Padding.pad m = (blocks 64 m).flatten ++ (residue 64 m ++
    0x80 :: List.replicate ((119 - (residue 64 m).length) % 64) 0 ++
      sha1Padding.mark m.length) := by
  rw [length_residue, ← List.append_assoc, ← List.append_assoc, flatten_blocks_append]
  rfl

/-- The padding up to the length, in one block or in two. -/
theorem Absorbing.fill (h : Absorbing m context) :
    ∃ context' s buf, sha1PadBlock context = .ok context' ∧ Holding context' s buf ∧
      buf.length = 56 ∧ context'.status = context.status ∧
      sha1 m = sha1Compress s (buf ++ sha1Padding.mark m.length) := by
  have hmark : (sha1Padding.mark m.length).length = 8 := sha1Padding.length_mark _
  have hsize : ∀ b ∈ blocks 64 m, b.length = 64 := fun b => length_of_mem_blocks
  have hhold := h.holding
  have hpad := pad_eq (m := m)
  have hlt : (residue 64 m).length < 64 := length_residue ▸ Nat.mod_lt _ (by norm_num)
  generalize residue 64 m = rest at hhold hpad hlt
  obtain ⟨context₁, hstore, hhold₁, hstatus₁⟩ := hhold.store hlt 0x80
  have hlen : (rest ++ [0x80]).length = rest.length + 1 := by
    rw [List.length_append, List.length_singleton]
  unfold sha1PadBlock
  rw [hhold.index]
  split_ifs with hmany
  · -- there is no room for the length behind the one bit
    obtain ⟨context₂, hzeros, hhold₂, hstatus₂⟩ := hhold₁.zeros 64 (by omega) le_rfl
    have hfull : (rest ++ [(0x80 : UInt8)] ++
        List.replicate (64 - (rest ++ [0x80]).length) 0).length = 64 := by
      rw [List.length_append, List.length_replicate]
      omega
    obtain ⟨context₃, hzeros', hhold₃, hstatus₃⟩ :=
      (hhold₂.process hfull).zeros 56 (Nat.zero_le _) (by norm_num)
    refine ⟨context₃, _, _, ok_bind_iff.mpr ⟨_, hstore, ok_bind_iff.mpr ⟨_, hzeros, hzeros'⟩⟩,
      hhold₃, by simp, hstatus₃.trans (hstatus₂.trans hstatus₁), ?_⟩
    have hzero : (119 - rest.length) % 64 = 64 - (rest.length + 1) + 56 := by omega
    rw [sha1, sha1Padding.hash_eq (blocks 64 m ++ [rest ++ [0x80] ++
        List.replicate (64 - (rest ++ [0x80]).length) 0,
        [] ++ List.replicate (56 - 0) 0 ++ sha1Padding.mark m.length]), List.foldl_append]
    · rfl
    · intro b hb
      rcases List.mem_append.mp hb with hb | hb
      · exact hsize b hb
      · rcases List.mem_pair.mp hb with rfl | rfl
        · exact hfull
        · simp [hmark]
    · rw [hpad, hzero, hlen, List.replicate_add]
      simp
  · obtain ⟨context₂, hzeros, hhold₂, hstatus₂⟩ :=
      hhold₁.zeros 56 (by omega) (by norm_num)
    have hfull : (rest ++ [(0x80 : UInt8)] ++
        List.replicate (56 - (rest ++ [0x80]).length) 0).length = 56 := by
      rw [List.length_append, List.length_replicate]
      omega
    refine ⟨context₂, _, _, ok_bind_iff.mpr ⟨_, hstore, hzeros⟩, hhold₂, hfull,
      hstatus₂.trans hstatus₁, ?_⟩
    have hzero : (119 - rest.length) % 64 = 56 - (rest.length + 1) := by omega
    rw [sha1, sha1Padding.hash_eq (blocks 64 m ++ [rest ++ [0x80] ++
        List.replicate (56 - (rest ++ [0x80]).length) 0 ++ sha1Padding.mark m.length]),
      List.foldl_append]
    · rfl
    · intro b hb
      rcases List.mem_append.mp hb with hb | hb
      · exact hsize b hb
      · rw [List.mem_singleton.mp hb, List.length_append, hfull, hmark]
    · rw [hpad, hzero, hlen]
      simp

/-- **Padding finishes the digest.** -/
theorem Absorbing.padMessage (h : Absorbing m context) :
    ∃ context', sha1PadMessage context = .ok context' ∧ context'.messageDigest = sha1 m ∧
      context'.corrupted = false := by
  obtain ⟨context₁, s, buf, hfill, hhold, hbuf, hstatus, hdigest⟩ := h.fill
  obtain ⟨hlow, hhigh, -, hcorrupted⟩ : context₁.lengthLow = context.lengthLow ∧
      context₁.lengthHigh = context.lengthHigh ∧ context₁.computed = context.computed ∧
      context₁.corrupted = context.corrupted := by
    simpa [Sha1Context.status] using hstatus
  have hbytes : sha1LengthBytes context₁.lengthHigh ++ sha1LengthBytes context₁.lengthLow =
      sha1Padding.mark m.length := by
    rw [hlow, hhigh]
    exact h.counted.bytes
  refine ⟨_, ok_bind_iff.mpr ⟨context₁, hfill, rfl⟩, ?_, hcorrupted.trans h.corrupted⟩
  show sha1Compress context₁.messageDigest (put context₁.messageBlock 56 _) = _
  rw [hbytes, hhold.digest, hhold.finish hbuf (sha1Padding.length_mark _), hdigest]

/-! ### Calls -/

/-- The context stands for the computation. -/
def Represents : Hasher → Sha1Context → Prop
  | .absorbing m, context => Absorbing m context
  | .finished m, context =>
      context.messageDigest = sha1 m ∧ context.computed = true ∧ context.corrupted = false
  | .corrupted, context => context.corrupted = true

/-- More of a message that is not empty. -/
theorem sha1Input_of_ne (hne : m' ≠ []) :
    sha1Input context m' =
      if context.computed ∨ context.corrupted then .ok { context with corrupted := true }
      else sha1InputLoop m' context := by
  rw [sha1Input, if_neg (by simpa using hne)]

/-- **A context does what the computation it stands for does.** -/
theorem represents_simulates : Simulates hasherStep sha1Step Represents := by
  intro h context call h' out hrep hstep
  cases call with
  | reset =>
      obtain ⟨rfl, rfl⟩ : h' = .absorbing [] ∧ out = [] := by
        cases h <;> cases hstep <;> exact ⟨rfl, rfl⟩
      exact ⟨_, rfl, absorbing_reset context⟩
  | result =>
      cases h with
      | absorbing m =>
          cases hstep
          obtain ⟨context', hpad, hdigest, hcorrupted⟩ := hrep.padMessage
          refine ⟨{ context' with computed := true }, ?_, hdigest, rfl, hcorrupted⟩
          have hresult : sha1Result context = .ok (true, { context' with computed := true }) := by
            rw [sha1Result, if_neg (by simp [hrep.corrupted]), if_neg (by simp [hrep.computed])]
            exact ok_bind_iff.mpr ⟨context', hpad, rfl⟩
          refine ok_bind_iff.mpr ⟨_, hresult, ?_⟩
          rw [← hdigest]
          rfl
      | finished m =>
          cases hstep
          obtain ⟨hdigest, hcomputed, hcorrupted⟩ := hrep
          refine ⟨context, ?_, hdigest, hcomputed, hcorrupted⟩
          have hresult : sha1Result context = .ok (true, context) := by
            rw [sha1Result, if_neg (by simp [hcorrupted]), if_pos hcomputed]
          exact ok_bind_iff.mpr ⟨_, hresult, by rw [← hdigest]; rfl⟩
      | corrupted =>
          cases hstep
          have hresult : sha1Result context = .ok (false, context) := if_pos hrep
          exact ⟨context, ok_bind_iff.mpr ⟨_, hresult, rfl⟩, hrep⟩
  | input m' =>
      by_cases hne : m' = []
      · subst hne
        obtain ⟨rfl, rfl⟩ : h' = h ∧ out = [] := by
          cases h <;> cases hstep <;> exact ⟨rfl, rfl⟩
        exact ⟨context, rfl, hrep⟩
      · have hinput : sha1Input context m' = _ := sha1Input_of_ne hne
        obtain ⟨byte, rest, rfl⟩ := List.exists_cons_of_ne_nil hne
        cases h with
        | absorbing m =>
            cases hstep
            obtain ⟨context', hloop, hend⟩ :
                ∃ context', sha1InputLoop (byte :: rest) context = .ok context' ∧ _ :=
              hrep.inputLoop
            rw [if_neg (by simp [hrep.computed, hrep.corrupted]), hloop] at hinput
            refine ⟨context', ok_bind_iff.mpr ⟨_, hinput, rfl⟩, ?_⟩
            split_ifs at hend ⊢
            · exact hend
            · exact hend
        | finished m =>
            cases hstep
            rw [if_pos (.inl hrep.2.1)] at hinput
            exact ⟨_, ok_bind_iff.mpr ⟨_, hinput, rfl⟩, rfl⟩
        | corrupted =>
            cases hstep
            rw [if_pos (.inr hrep)] at hinput
            exact ⟨_, ok_bind_iff.mpr ⟨_, hinput, rfl⟩, rfl⟩

end absorbing

/-- A computation goes on with every call. -/
theorem hasherStep_ok (h : Hasher) (call : Sha1Call) :
    ∃ h' out, hasherStep h call = .ok (h', out) := by
  unfold hasherStep
  split <;> exact ⟨_, _, rfl⟩

/-- The machine answers every call. -/
theorem exec_hasherStep_ok (h : Hasher) (calls : List Sha1Call) :
    ∃ h' tr, exec hasherStep h calls = .ok (h', tr) := by
  induction calls generalizing h with
  | nil => exact ⟨h, [], rfl⟩
  | cons call calls ih =>
      obtain ⟨h₁, out, hstep⟩ := hasherStep_ok h call
      obtain ⟨h₂, tr, hexec⟩ := ih h₁
      exact ⟨h₂, (call, out) :: tr, ok_bind_iff.mpr ⟨_, hstep, ok_bind_iff.mpr ⟨_, hexec, rfl⟩⟩⟩

/-- **The functions compute the digest**: after a reset any calls in any order return, and answer
what the computation answers. -/
theorem sha1_refines (context : Sha1Context) (calls : List Sha1Call) :
    ∃ context' h tr, exec sha1Step (sha1Reset context) calls = .ok (context', tr) ∧
      exec hasherStep (.absorbing []) calls = .ok (h, tr) ∧ Represents h context' := by
  obtain ⟨h, tr, hexec⟩ := exec_hasherStep_ok (.absorbing []) calls
  obtain ⟨context', hexec', hrep⟩ :=
    represents_simulates.exec
      (show Represents (.absorbing []) (sha1Reset context) from absorbing_reset context) hexec
  exact ⟨context', h, tr, hexec', hexec, hrep⟩

/-! ### Collisions -/

/-- The mark tells lengths below `2^61` apart. -/
theorem injOn_mark : Set.InjOn sha1Padding.mark {len | len < 2 ^ 61} := by
  intro len hlen len' hlen' h
  have hlt : ∀ k < 2 ^ 61, 8 * k < 256 ^ 8 := by
    intro k hk
    omega
  have heq := congrArg Wire.beNat h
  rw [show sha1Padding.mark = fun len => Wire.be 8 (8 * len) from rfl] at heq
  simp only [Wire.beNat_be (hlt len hlen), Wire.beNat_be (hlt len' hlen')] at heq
  omega

/-- The answers to a reset, an input of each part, and a call for the digest.
Source: `sr_vns_comm.c`, `sr_handle_auth_request`, the calls on `sha1` -/
def sha1Digest (context : Sha1Context) (parts : List (List UInt8)) :
    Except Fault (List (Option (Fin 5 → UInt32))) := do
  let (_, tr) ← exec sha1Step context (.reset :: (parts.map .input ++ [.result]))
  .ok (outputs tr)

/-- The computation on the parts of a message. -/
theorem exec_hasherStep_parts {m : List UInt8} {h : Hasher} {parts : List (List UInt8)}
    {tr : List (Sha1Call × List (Option (Fin 5 → UInt32)))} (hm : m.length < 2 ^ 61)
    (hexec : exec hasherStep (.absorbing m) (parts.map .input ++ [.result]) = .ok (h, tr)) :
    outputs tr = [if (m ++ parts.flatten).length < 2 ^ 61 then some (sha1 (m ++ parts.flatten))
      else none] := by
  have hlost : ∀ (parts : List (List UInt8)) (h : Hasher) tr,
      exec hasherStep .corrupted (parts.map .input ++ [.result]) = .ok (h, tr) →
        outputs tr = [none] := by
    intro parts
    induction parts with
    | nil =>
        intro h tr hexec
        cases hexec
        rfl
    | cons part parts ih =>
        intro h tr hexec
        obtain ⟨⟨h₁, out⟩, hstep, hexec⟩ := ok_bind_iff.mp hexec
        obtain ⟨⟨h₂, tr₁⟩, hexec₁, hexec⟩ := ok_bind_iff.mp hexec
        obtain ⟨rfl, rfl⟩ := Prod.mk.inj (Except.ok.inj hexec)
        obtain ⟨rfl, rfl⟩ : h₁ = .corrupted ∧ out = [] := by
          cases part <;> cases hstep <;> exact ⟨rfl, rfl⟩
        simpa [outputs] using ih _ _ hexec₁
  induction parts generalizing m tr with
  | nil =>
      cases hexec
      rw [List.flatten_nil, List.append_nil, if_pos hm]
      rfl
  | cons part parts ih =>
      obtain ⟨⟨h₁, out⟩, hstep, hexec⟩ := ok_bind_iff.mp hexec
      obtain ⟨⟨h₂, tr₁⟩, hexec₁, hexec⟩ := ok_bind_iff.mp hexec
      obtain ⟨rfl, rfl⟩ := Prod.mk.inj (Except.ok.inj hexec)
      have hnext : out = [] ∧ h₁ =
          if (m ++ part).length < 2 ^ 61 then .absorbing (m ++ part) else .corrupted := by
        cases part with
        | nil =>
            cases hstep
            rw [List.append_nil, if_pos hm]
            exact ⟨rfl, rfl⟩
        | cons byte rest =>
            cases hstep
            exact ⟨rfl, rfl⟩
      obtain ⟨rfl, rfl⟩ := hnext
      rw [List.flatten_cons, ← List.append_assoc]
      split_ifs at hexec₁ with hshort
      · simpa [outputs] using ih hshort hexec₁
      · rw [if_neg (by rw [List.length_append]; omega)]
        simpa [outputs] using hlost parts _ _ hexec₁

/-- **The answer is the digest of all parts behind each other.** -/
theorem sha1Digest_eq (context : Sha1Context) (parts : List (List UInt8)) :
    sha1Digest context parts =
      .ok [if parts.flatten.length < 2 ^ 61 then some (sha1 parts.flatten) else none] := by
  obtain ⟨h, tr, hexec'⟩ := exec_hasherStep_ok (.absorbing []) (parts.map .input ++ [.result])
  obtain ⟨context', hexec, -⟩ := represents_simulates.exec
    (show Represents (.absorbing []) (sha1Reset context) from absorbing_reset context) hexec'
  have houtputs := exec_hasherStep_parts (m := []) (by norm_num) hexec'
  have hall : exec sha1Step context (.reset :: (parts.map .input ++ [.result])) =
      .ok (context', (.reset, []) :: tr) :=
    ok_bind_iff.mpr ⟨_, rfl, ok_bind_iff.mpr ⟨_, hexec, rfl⟩⟩
  refine ok_bind_iff.mpr ⟨_, hall, ?_⟩
  rw [List.nil_append] at houtputs
  exact congrArg Except.ok houtputs

/-- **Byte strings with the same digest are equal, or processing their blocks collides**: two
calls, one in each computation, are given different digests or blocks and leave the same digest. -/
theorem sha1_eq_or_collides {context context' : Sha1Context} {parts parts' : List (List UInt8)}
    {digest : Fin 5 → UInt32} (h : sha1Digest context parts = .ok [some digest])
    (h' : sha1Digest context' parts' = .ok [some digest]) :
    parts.flatten = parts'.flatten ∨ Collides sha1Compress sha1Start sha1Start
      (blocks 64 (sha1Padding.pad parts.flatten)) (blocks 64 (sha1Padding.pad parts'.flatten)) := by
  have hanswer : ∀ {context : Sha1Context} {parts : List (List UInt8)},
      sha1Digest context parts = .ok [some digest] →
        parts.flatten.length < 2 ^ 61 ∧ sha1 parts.flatten = digest := by
    intro context parts h
    rw [sha1Digest_eq] at h
    split_ifs at h with hshort
    · exact ⟨hshort, Option.some.inj (List.singleton_inj.mp (Except.ok.inj h))⟩
    · cases h
  obtain ⟨hshort, hdigest⟩ := hanswer h
  obtain ⟨hshort', hdigest'⟩ := hanswer h'
  exact sha1Padding.hash_eq_or_collides injOn_mark hshort hshort' (hdigest.trans hdigest'.symm)

/-- The same bytes, cut in two ways. -/
theorem sha1_eq_or_collides_abc : ∃ context digest,
    let parts : List (List UInt8) := [[0x61], [0x62, 0x63]]
    let parts' : List (List UInt8) := [[0x61, 0x62], [], [0x63]]
    sha1Digest context parts = .ok [some digest] ∧ sha1Digest context parts' = .ok [some digest] ∧
      (parts.flatten = parts'.flatten ∨ Collides sha1Compress sha1Start sha1Start
        (blocks 64 (sha1Padding.pad parts.flatten))
        (blocks 64 (sha1Padding.pad parts'.flatten))) := by
  let context : Sha1Context :=
    ⟨fun _ => 0, 0, 0, List.replicate 64 0, List.length_replicate, 0, false, false⟩
  have hanswer : ∀ parts : List (List UInt8), parts.flatten = [0x61, 0x62, 0x63] →
      sha1Digest context parts = .ok [some (sha1 [0x61, 0x62, 0x63])] := by
    intro parts hparts
    rw [sha1Digest_eq, hparts, if_pos (by norm_num)]
  have h := hanswer [[0x61], [0x62, 0x63]] rfl
  have h' := hanswer [[0x61, 0x62], [], [0x63]] rfl
  exact ⟨context, _, h, h', sha1_eq_or_collides h h'⟩

end SimpleRouter
