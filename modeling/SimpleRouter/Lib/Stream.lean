import SimpleRouter.Lib.Buffer
import SimpleRouter.Lib.Logged

/-!
# Reading a byte stream in pieces

A connected socket is the list of what its reads will see: a segment that has arrived, an
interruption by a signal, or an error; past the end of the list the peer has closed. A read of at
most `k` bytes takes what it can of the next segment and leaves the rest.

* `bytes` — the bytes of the stream, whatever the segments are; `arriving` — those in front of the
  first error.
* `recvRetry` — a read that is made again when a signal interrupts it.
* `readLoop` — **the reading loop**: read at a running offset until `n` bytes are there. It is
  given fuel because at the end of the stream each read returns nothing and the loop goes round
  for ever (`readLoop_short`). As long as the bytes arrive, `n` rounds are enough, and what is read
  does not depend on the segments (`readLoop_arriving`, `readLoop_val`); nor are more needed where a
  read fails (`readLoop_of_error`, `readLoop_hang_iff`). `Loop` is all it can do (`readLoop_loop`).
-/

namespace Stream

open Buffer

/-- What one read of a socket can meet. -/
inductive Delivery where
  /-- Bytes have arrived. -/
  | segment (bytes : List UInt8) (ne : bytes ≠ [])
  /-- A signal interrupts the call. -/
  | eintr
  /-- The call fails. -/
  | error

/-- A socket: what its reads will meet, in order. -/
abbrev Socket := List Delivery

/-- The bytes of a delivery. -/
def Delivery.bytes : Delivery → List UInt8
  | .segment s _ => s
  | .eintr => []
  | .error => []

/-- The bytes of the stream. -/
def bytes (sock : Socket) : List UInt8 := sock.flatMap Delivery.bytes

/-- No read of the socket fails. -/
def NoError (sock : Socket) : Prop := Delivery.error ∉ sock

/-- The bytes that arrive before a read fails. -/
def arriving : Socket → List UInt8
  | [] => []
  | .segment s _ :: sock => s ++ arriving sock
  | .eintr :: sock => arriving sock
  | .error :: _ => []

@[simp] theorem bytes_nil : bytes [] = [] := rfl

@[simp] theorem bytes_cons (d : Delivery) (sock : Socket) :
    bytes (d :: sock) = d.bytes ++ bytes sock := rfl

/-- Where no read fails all bytes arrive. -/
theorem arriving_of_noError {sock : Socket} (h : NoError sock) : arriving sock = bytes sock := by
  induction sock with
  | nil => rfl
  | cons d sock ih =>
      have hrest : arriving sock = bytes sock := ih fun h' => h (List.mem_cons_of_mem d h')
      cases d with
      | segment s ne => exact congrArg (s ++ ·) hrest
      | eintr => exact hrest
      | error => exact absurd List.mem_cons_self h

/-- Read at most `k` bytes, again after an interruption; nothing is read at the end of the
stream. -/
def recvRetry (k : ℕ) : Socket → Option (List UInt8) × Socket
  | [] => (some [], [])
  | .eintr :: sock => recvRetry k sock
  | .error :: sock => (none, sock)
  | .segment s ne :: sock =>
      if h : s.length ≤ k then (some s, sock)
      else (some (s.take k), .segment (s.drop k) (by simpa using h) :: sock)

/-- As long as bytes arrive, a read takes between one and `k` of them off the stream. -/
theorem recvRetry_spec {k : ℕ} (hk : 0 < k) {sock : Socket} (harrive : arriving sock ≠ []) :
    ∃ s sock', recvRetry k sock = (some s, sock') ∧ s ≠ [] ∧ s.length ≤ k ∧
      arriving sock = s ++ arriving sock' ∧ (NoError sock → NoError sock') := by
  induction sock with
  | nil => exact absurd rfl harrive
  | cons d sock ih =>
      have hrest : NoError (d :: sock) → NoError sock := fun hsock h =>
        hsock (List.mem_cons_of_mem d h)
      cases d with
      | eintr =>
          obtain ⟨s, sock', hrecv, hs, hle, hsplit, hsock'⟩ := ih harrive
          exact ⟨s, sock', hrecv, hs, hle, hsplit, fun hsock => hsock' (hrest hsock)⟩
      | error => exact absurd rfl harrive
      | segment s ne =>
          by_cases hle : s.length ≤ k
          · exact ⟨s, sock, dif_pos hle, ne, hle, rfl, hrest⟩
          · refine ⟨s.take k, _, dif_neg hle, ?_, List.length_take_le k s, ?_, fun hsock h => ?_⟩
            · intro h
              rcases List.take_eq_nil_iff.mp h with h | h
              · omega
              · exact ne h
            · rw [arriving, arriving, ← List.append_assoc, List.take_append_drop]
            · rcases List.mem_cons.mp h with h | h
              · cases h
              · exact hrest hsock h

/-- What a read gives is the next of what arrives. -/
theorem recvRetry_split {k : ℕ} {sock sock' : Socket} {s : List UInt8}
    (h : recvRetry k sock = (some s, sock')) :
    s.length ≤ k ∧ arriving sock = s ++ arriving sock' := by
  induction sock with
  | nil =>
      obtain ⟨hs, rfl⟩ := Prod.mk.inj h
      obtain rfl := Option.some.inj hs
      exact ⟨Nat.zero_le k, rfl⟩
  | cons d sock ih =>
      cases d with
      | eintr => exact ih h
      | error => cases (Prod.mk.inj h).1
      | segment s' ne =>
          unfold recvRetry at h
          split_ifs at h with hle
          · obtain ⟨hs, rfl⟩ := Prod.mk.inj h
            obtain rfl := Option.some.inj hs
            exact ⟨hle, rfl⟩
          · obtain ⟨hs, rfl⟩ := Prod.mk.inj h
            obtain rfl := Option.some.inj hs
            refine ⟨List.length_take_le k s', ?_⟩
            rw [arriving, arriving, ← List.append_assoc, List.take_append_drop]

/-- At the end of the stream a read returns nothing. -/
theorem recvRetry_eof {k : ℕ} {sock : Socket} (hsock : NoError sock) (hbytes : bytes sock = []) :
    recvRetry k sock = (some [], []) := by
  induction sock with
  | nil => rfl
  | cons d sock ih =>
      have hrest : NoError sock := fun h => hsock (List.mem_cons_of_mem d h)
      cases d with
      | eintr => exact ih hrest hbytes
      | error => exact absurd List.mem_cons_self hsock
      | segment s ne => exact absurd (List.append_eq_nil_iff.mp hbytes).1 ne

/-- A read that has an error ahead fails, or takes bytes and leaves the error ahead. -/
theorem recvRetry_of_error {k : ℕ} (hk : 0 < k) {sock : Socket} (hsock : ¬ NoError sock) :
    (∃ sock', recvRetry k sock = (none, sock')) ∨
      ∃ s sock', recvRetry k sock = (some s, sock') ∧ s ≠ [] ∧ ¬ NoError sock' := by
  induction sock with
  | nil => exact absurd List.not_mem_nil hsock
  | cons d sock ih =>
      have hmem : Delivery.error ∈ d :: sock := not_not.mp hsock
      cases d with
      | eintr => exact ih (not_not.mpr ((List.mem_cons.mp hmem).resolve_left nofun))
      | error => exact .inl ⟨sock, rfl⟩
      | segment s ne =>
          have hrest : Delivery.error ∈ sock := (List.mem_cons.mp hmem).resolve_left nofun
          refine .inr ?_
          by_cases hle : s.length ≤ k
          · exact ⟨s, sock, dif_pos hle, ne, not_not.mpr hrest⟩
          · refine ⟨s.take k, _, dif_neg hle, ?_, not_not.mpr (List.mem_cons_of_mem _ hrest)⟩
            intro h
            rcases List.take_eq_nil_iff.mp h with h | h
            · omega
            · exact ne h

section loop

variable {ω ε : Type}

/-- Read until `n` bytes are there. `dst` is the object read into, from offset `base` on, and
`touch o k` says that a call is given the `k` bytes at `o`; `none` is a read that failed. -/
def readLoop (touch : ℕ → ℕ → ω) (hang : ε) (n base : ℕ) :
    ℕ → ℕ → List UInt8 → Socket → Logged ω ε (Option (List UInt8) × Socket)
  | 0, bytesRead, dst, sock =>
      if bytesRead < n then Logged.stop hang else pure (some dst, sock)
  | fuel + 1, bytesRead, dst, sock =>
      if bytesRead < n then do
        Logged.tell (touch (base + bytesRead) (n - bytesRead))
        match recvRetry (n - bytesRead) sock with
        | (none, sock) => pure (none, sock)
        | (some s, sock) =>
            readLoop touch hang n base fuel (bytesRead + s.length)
              (put dst (base + bytesRead) s) sock
      else pure (some dst, sock)

variable {touch : ℕ → ℕ → ω} {hang : ε} {n base fuel : ℕ}

/-- The loop is left as soon as the bytes are there. -/
theorem readLoop_done {bytesRead : ℕ} {dst : List UInt8} {sock : Socket} (h : n ≤ bytesRead) :
    readLoop touch hang n base fuel bytesRead dst sock = pure (some dst, sock) := by
  cases fuel with
  | zero => exact if_neg (by omega)
  | succ fuel => exact if_neg (by omega)

/-- **The loop reads the next `n` bytes that arrive**, in whatever pieces, and what it leaves
depends neither on the fuel nor on the object read into. -/
theorem readLoop_arriving (touch : ℕ → ℕ → ω) (hang : ε) (base : ℕ) {bytesRead : ℕ}
    {sock : Socket} (harrive : n - bytesRead ≤ (arriving sock).length) :
    ∃ sock', arriving sock' = (arriving sock).drop (n - bytesRead) ∧
      (NoError sock → NoError sock') ∧ ∀ fuel dst, n - bytesRead ≤ fuel →
        (readLoop touch hang n base fuel bytesRead dst sock).val =
          .ok (some (put dst (base + bytesRead) ((arriving sock).take (n - bytesRead))),
            sock') := by
  -- on the number of bytes missing, which every read makes smaller
  induction hk : n - bytesRead using Nat.strong_induction_on generalizing bytesRead sock with
  | _ k ih =>
  by_cases hmore : bytesRead < n
  · have hne : arriving sock ≠ [] := by
      intro h
      rw [h, List.length_nil] at harrive
      omega
    obtain ⟨s, sock₁, hrecv, hs, hle, hsplit, hsock₁⟩ :=
      recvRetry_spec (by omega : 0 < n - bytesRead) hne
    have hpos : 0 < s.length := List.length_pos_iff.mpr hs
    have hrest : n - (bytesRead + s.length) ≤ (arriving sock₁).length := by
      rw [hsplit, List.length_append] at harrive
      omega
    obtain ⟨sock', hdrop, hsock', hval⟩ := ih _ (by omega) hrest rfl
    have hcut : k = s.length + (n - (bytesRead + s.length)) := by omega
    have htake : (arriving sock).take k =
        s ++ (arriving sock₁).take (n - (bytesRead + s.length)) := by
      rw [hsplit, hcut, List.take_length_add_append]
    have htail : (arriving sock).drop k =
        (arriving sock₁).drop (n - (bytesRead + s.length)) := by
      rw [hsplit, hcut, List.drop_length_add_append]
    refine ⟨sock', hdrop.trans htail.symm, fun hsock => hsock' (hsock₁ hsock),
      fun fuel dst hfuel => ?_⟩
    cases fuel with
    | zero => omega
    | succ fuel =>
        rw [readLoop, if_pos hmore, Logged.tell_bind, hrecv, htake, ← put_put_append,
          Nat.add_assoc]
        exact hval fuel _ (by omega)
  · refine ⟨sock, ?_, id, fun fuel dst _ => ?_⟩
    · rw [show k = 0 by omega, List.drop_zero]
    · rw [readLoop_done (by omega), show k = 0 by omega, List.take_zero, put_nil, Logged.val_pure]

/-- Where no read fails, these are the next bytes of the stream. -/
theorem readLoop_val (touch : ℕ → ℕ → ω) (hang : ε) (base : ℕ) {bytesRead : ℕ} {sock : Socket}
    (hsock : NoError sock) (hbytes : n - bytesRead ≤ (bytes sock).length) :
    ∃ sock', bytes sock' = (bytes sock).drop (n - bytesRead) ∧ NoError sock' ∧
      ∀ fuel dst, n - bytesRead ≤ fuel →
        (readLoop touch hang n base fuel bytesRead dst sock).val =
          .ok (some (put dst (base + bytesRead) ((bytes sock).take (n - bytesRead))), sock') := by
  rw [← arriving_of_noError hsock] at hbytes ⊢
  obtain ⟨sock', hdrop, hsock', hval⟩ := readLoop_arriving touch hang base hbytes
  rw [arriving_of_noError (hsock' hsock)] at hdrop
  exact ⟨sock', hdrop, hsock' hsock, hval⟩

/-- What the loop can do, with any fuel: go round for ever, fail, or read the next `n` bytes. -/
inductive Loop (hang : ε) (n base : ℕ) (dst : List UInt8) (sock : Socket) :
    Except ε (Option (List UInt8) × Socket) → Prop
  /-- The rounds are used up. -/
  | hang : Loop hang n base dst sock (.error hang)
  /-- A read fails. -/
  | failed (sock' : Socket) : Loop hang n base dst sock (.ok (none, sock'))
  /-- The bytes are there. -/
  | read {sock' : Socket} (hmany : n ≤ (arriving sock).length)
      (hrest : arriving sock' = (arriving sock).drop n) :
      Loop hang n base dst sock (.ok (some (put dst base ((arriving sock).take n)), sock'))

/-- A loop that has read `s` already. -/
theorem Loop.of_split {sock sock' : Socket} {s dst : List UInt8}
    {r : Except ε (Option (List UInt8) × Socket)} (hsplit : arriving sock = s ++ arriving sock')
    (hle : s.length ≤ n) (h : Loop hang (n - s.length) (base + s.length) (put dst base s) sock' r) :
    Loop hang n base dst sock r := by
  obtain ⟨k, rfl⟩ := Nat.exists_eq_add_of_le hle
  rw [Nat.add_sub_cancel_left] at h
  cases h with
  | hang => exact .hang
  | failed sock'' => exact .failed sock''
  | read hmany hrest =>
      rw [put_put_append]
      have hread : s ++ (arriving sock').take k = (arriving sock).take (s.length + k) := by
        rw [hsplit, List.take_length_add_append]
      rw [hread]
      refine .read ?_ ?_
      · rw [hsplit, List.length_append]
        omega
      · rw [hrest, hsplit, List.drop_length_add_append]

/-- A loop that has nothing to read. -/
theorem Loop.done {dst : List UInt8} {sock : Socket} :
    Loop hang 0 base dst sock (.ok (some dst, sock)) := by
  have h : Loop hang 0 base dst sock (.ok (some (put dst base []), sock)) :=
    .read (Nat.zero_le _) rfl
  rwa [put_nil] at h

/-- **The loop does nothing else.** -/
theorem readLoop_loop {bytesRead : ℕ} {dst : List UInt8} {sock : Socket} :
    Loop hang (n - bytesRead) (base + bytesRead) dst sock
      (readLoop touch hang n base fuel bytesRead dst sock).val := by
  induction fuel generalizing bytesRead dst sock with
  | zero =>
      unfold readLoop
      split_ifs with hmore
      · exact .hang
      · rw [Nat.sub_eq_zero_of_le (by omega)]
        exact .done
  | succ fuel ih =>
      unfold readLoop
      split_ifs with hmore
      · rw [Logged.tell_bind]
        rcases hrecv : recvRetry (n - bytesRead) sock with ⟨_ | s, sock'⟩
        · exact .failed sock'
        · obtain ⟨hle, hsplit⟩ := recvRetry_split hrecv
          refine .of_split hsplit hle ?_
          rw [Nat.sub_sub, Nat.add_assoc]
          exact ih
      · rw [Nat.sub_eq_zero_of_le (by omega)]
        exact .done

/-- The loop stops only by going round for ever. -/
theorem readLoop_error {bytesRead : ℕ} {dst : List UInt8} {sock : Socket} {e : ε}
    (h : (readLoop touch hang n base fuel bytesRead dst sock).val = .error e) : e = hang := by
  have hloop : Loop hang (n - bytesRead) (base + bytesRead) dst sock
      (readLoop touch hang n base fuel bytesRead dst sock).val := readLoop_loop
  rw [h] at hloop
  cases hloop
  rfl

/-- **At the end of the stream the loop goes round for ever.** -/
theorem readLoop_short {bytesRead : ℕ} {dst : List UInt8} {sock : Socket} (hsock : NoError sock)
    (hbytes : (bytes sock).length < n - bytesRead) :
    (readLoop touch hang n base fuel bytesRead dst sock).val = .error hang := by
  induction fuel generalizing bytesRead dst sock with
  | zero =>
      unfold readLoop
      rw [if_pos (by omega), Logged.val_stop]
  | succ fuel ih =>
      unfold readLoop
      rw [if_pos (by omega), Logged.tell_bind]
      by_cases hend : bytes sock = []
      · rw [recvRetry_eof hsock hend]
        exact ih (by simp [NoError]) (by rw [bytes_nil, List.length_nil]; omega)
      · rw [← arriving_of_noError hsock] at hend hbytes
        obtain ⟨s, sock', hrecv, -, -, hsplit, hsock'⟩ :=
          recvRetry_spec (by omega : 0 < n - bytesRead) hend
        rw [hrecv]
        refine ih (hsock' hsock) ?_
        rw [← arriving_of_noError (hsock' hsock)]
        rw [hsplit, List.length_append] at hbytes
        omega

/-- With an error ahead the loop is left: a read fails, or the bytes are there before it. -/
theorem readLoop_of_error {bytesRead : ℕ} {dst : List UInt8} {sock : Socket}
    (hsock : ¬ NoError sock) (hfuel : n - bytesRead ≤ fuel) :
    ∃ r sock', (readLoop touch hang n base fuel bytesRead dst sock).val = .ok (r, sock') ∧
      (r = none ∨ ¬ NoError sock') := by
  induction fuel generalizing bytesRead dst sock with
  | zero => exact ⟨some dst, sock, by rw [readLoop_done (by omega), Logged.val_pure], .inr hsock⟩
  | succ fuel ih =>
      by_cases hmore : bytesRead < n
      · unfold readLoop
        rw [if_pos hmore, Logged.tell_bind]
        rcases recvRetry_of_error (by omega : 0 < n - bytesRead) hsock with
          ⟨sock', hrecv⟩ | ⟨s, sock', hrecv, hs, hsock'⟩
        · rw [hrecv]
          exact ⟨none, sock', rfl, .inl rfl⟩
        · have hpos : 0 < s.length := List.length_pos_iff.mpr hs
          rw [hrecv]
          exact ih hsock' (by omega)
      · exact ⟨some dst, sock, by rw [readLoop_done (by omega), Logged.val_pure], .inr hsock⟩

/-- **When the loop goes round for ever.** -/
theorem readLoop_hang_iff {bytesRead : ℕ} {dst : List UInt8} {sock : Socket}
    (hfuel : n - bytesRead ≤ fuel) :
    (readLoop touch hang n base fuel bytesRead dst sock).val = .error hang ↔
      NoError sock ∧ (bytes sock).length < n - bytesRead := by
  constructor
  · intro hhang
    by_contra hends
    by_cases hsock : NoError sock
    · have hmany : n - bytesRead ≤ (bytes sock).length := not_lt.mp fun h => hends ⟨hsock, h⟩
      obtain ⟨sock', -, -, hval⟩ := readLoop_val touch hang base hsock hmany
      rw [hval fuel dst hfuel] at hhang
      cases hhang
    · obtain ⟨r, sock', hval, -⟩ : ∃ r sock',
          (readLoop touch hang n base fuel bytesRead dst sock).val = .ok (r, sock') ∧
            (r = none ∨ ¬ NoError sock') := readLoop_of_error hsock hfuel
      rw [hval] at hhang
      cases hhang
  · rintro ⟨hsock, hshort⟩
    exact readLoop_short hsock hshort

/-- Each call is given a window of the `n` bytes at `base`. -/
theorem readLoop_touch {P : ω → Prop} {bytesRead : ℕ} {dst : List UInt8} {sock : Socket}
    (h : ∀ o, o < n → P (touch (base + o) (n - o))) :
    Logged.ForAll P (readLoop touch hang n base fuel bytesRead dst sock) := by
  induction fuel generalizing bytesRead dst sock with
  | zero =>
      unfold readLoop
      split_ifs
      · exact Logged.forAll_stop hang
      · exact Logged.forAll_pure _
  | succ fuel ih =>
      unfold readLoop
      split_ifs with hmore
      · rw [Logged.forAll_bind]
        refine ⟨(Logged.forAll_tell _).mpr (h bytesRead hmore), fun _ _ => ?_⟩
        split
        · exact Logged.forAll_pure _
        · exact ih
      · exact Logged.forAll_pure _

end loop

end Stream
