/-
  AccessControl/Proofs/Digest/Streamed.lean
  =========================================
  **A signature does not tell how the content was read.**

  Content comes in portions that end wherever a read ended, blocks end at multiples of 128
  bytes, and the hasher stands in between.  Its law is that two portions one after the other are
  as good as one (`Hasher.update_update`): after any bytes its state has taken in the blocks that
  are full, and it keeps the bytes behind them, so it does not matter where the bytes were cut.
  At the end it adds the padding that the whole message would have had (`Hasher.finish_update`).

  The loop around it takes what a source gives, one read at a time.  A read shows the source for
  what it was (`content_read`): the bytes that it gives and those that it leaves are the bytes of
  the source.  So the loop ends with the hasher after the whole content (`Hasher.copy_eq`), and
  no reading can be seen in a signature but for its bytes, or its first fault.

  ## Main definitions

  * `delivered`: the bytes of all portions, one after the other.

  ## Main statements

  * `Hasher.update_update`, `Hasher.finish_update`: portions, and the digest of a message;
  * `Hasher.copy_eq`: all reads of a source;
  * `signature_of_reads`: the signature of what is read.
-/
import AccessControl.Digest.Signature

namespace AccessControl.Digest

/-! ## 1. Blocks -/

theorem blocks_append {front : List UInt8} (full : front.length % 128 = 0) (back : List UInt8) :
    blocks (front ++ back) = blocks front ++ blocks back := by
  fun_induction blocks front with
  | case1 => rfl
  | case2 b bs ih =>
    have long : 128 ≤ (b :: bs).length := by
      have positive : 0 < (b :: bs).length := by simp
      omega
    have rest : ((b :: bs).drop 128).length % 128 = 0 := by
      rw [List.length_drop]
      omega
    rw [List.cons_append, blocks, ← List.cons_append, List.take_append_of_le_length long,
      List.drop_append_of_le_length long, ih rest, List.cons_append]

theorem blocks_whole_append (front back : List UInt8) :
    blocks (whole front ++ back) = blocks (whole front) ++ blocks back := by
  apply blocks_append
  rw [length_whole]
  omega

namespace Hasher

theorem ext_parts {g h : Hasher} (state : g.state = h.state) (pending : g.pending = h.pending)
    (length : g.length = h.length) : g = h := by
  cases g
  cases h
  simp_all

variable (h : Hasher)

theorem update_nil : h.update [] = h := by
  have none : 128 * (h.pending.length / 128) = 0 := by
    have := h.pending_lt
    omega
  apply ext_parts
  · simp only [update, List.append_nil, whole, none, List.take_zero, blocks, List.foldl_nil]
  · simp only [update, List.append_nil, beyond, none, List.drop_zero]
  · rfl

/-- Two portions one after the other are as good as one. -/
theorem update_update (front back : List UInt8) :
    (h.update front).update back = h.update (front ++ back) := by
  apply ext_parts
  · simp only [update, ← List.append_assoc]
    rw [whole_append (h.pending ++ front), blocks_whole_append, List.foldl_append]
  · simp only [update, ← List.append_assoc]
    rw [beyond_append (h.pending ++ front)]
  · simp only [update, List.length_append, Nat.add_assoc]

/-- A message in one portion has the digest of the message. -/
theorem finish_update (message : List UInt8) : (start.update message).finish = sha512 message := by
  have cut : padded message = whole message ++ (beyond message ++ padding message.length) := by
    rw [padded_eq, ← List.append_assoc, whole_append_beyond]
  have length : (start.update message).length = message.length := Nat.zero_add _
  rw [sha512, cut, blocks_whole_append, List.foldl_append, finish, length]
  rfl

end Hasher

/-! ## 2. Reads -/

def Reading.bytes : Reading → List UInt8
  | .chunk bytes => bytes
  | _ => []

/-- The bytes of all portions, one after the other. -/
def delivered (readings : List Reading) : List UInt8 := readings.flatMap Reading.bytes

/-- A read shows the source for what it was. -/
theorem content_read (source : List Reading) :
    content ((read source).1 :: (read source).2) = content source := by
  fun_induction read source with
  | case1 => rfl
  | case2 source ih =>
    rw [ih, content]
    cases content source <;> rfl
  | case3 b bs source =>
    simp only [content]
    cases content source with
    | error message => rfl
    | ok more =>
      simp only [Except.map, ← List.append_assoc, List.take_append_drop]
  | case4 source => rfl
  | case5 message source => rfl

theorem left_nothing {source rest : List Reading} (h : read source = (.chunk [], rest)) :
    rest = [] := by
  fun_induction read source with
  | case1 => exact (Prod.mk.inj h).2.symm
  | case2 source ih => exact ih h
  | case3 b bs source => simp [portionLimit] at h
  | case4 source => simp at h
  | case5 message source => simp at h

/-- A source ends with the hasher after the whole content. -/
theorem Hasher.copy_eq (h : Hasher) (source : List Reading) :
    h.copy source = (content source).map h.update := by
  fun_induction Hasher.copy h source with
  | case1 h source rest next =>
    have shown := content_read source
    rw [next, left_nothing next] at shown
    rw [← shown]
    show Except.ok h = Except.ok (h.update [])
    rw [update_nil]
  | case2 h source b bs rest next ih =>
    have shown := content_read source
    rw [next] at shown
    rw [ih, ← shown, content]
    cases content rest with
    | error message => rfl
    | ok more =>
      show Except.ok ((h.update (b :: bs)).update more) = Except.ok (h.update (b :: bs ++ more))
      rw [update_update]
  | case3 h source rest next ih =>
    have shown := content_read source
    rw [next] at shown
    rw [ih, ← shown, content]
  | case4 h source message rest next =>
    have shown := content_read source
    rw [next] at shown
    rw [← shown, content]
    rfl

variable {readings : List Reading}

theorem content_of_no_fault (sound : ∀ message, .failed message ∉ readings) :
    content readings = .ok (delivered readings) := by
  induction readings with
  | nil => rfl
  | cons r rest ih =>
    have tail := ih fun message h => sound message (List.mem_cons_of_mem _ h)
    cases r with
    | chunk bytes =>
      rw [content, tail]
      rfl
    | interrupted => rw [content, tail]; rfl
    | failed message => exact absurd (List.mem_cons_self ..) (sound message)

theorem content_of_fault {before : List Reading} (sound : ∀ message, .failed message ∉ before)
    (message : String) (after : List Reading) :
    content (before ++ .failed message :: after) = .error message := by
  induction before with
  | nil => rfl
  | cons r rest ih =>
    have tail := ih fun other h => sound other (List.mem_cons_of_mem _ h)
    cases r with
    | chunk bytes =>
      rw [List.cons_append, content, tail]
      rfl
    | interrupted => rw [List.cons_append, content, tail]
    | failed other => exact absurd (List.mem_cons_self ..) (sound other)

/-! ## 3. Signatures -/

theorem signature_of_bytes {bytes : List UInt8} (h : content readings = .ok bytes) :
    signature readings = .ok (String.ofList (hex (sha512 bytes))) := by
  rw [signature, Hasher.copy_eq, h]
  show Except.ok (String.ofList (hex (Hasher.start.update bytes).finish)) = _
  rw [Hasher.finish_update]

theorem signature_of_fault {message : String} (h : content readings = .error message) :
    signature readings = .error (Failure.unreadable message) := by
  rw [signature, Hasher.copy_eq, h]
  rfl

/-- Content that is read to its end, in portions of any sizes and with any interruptions, has the
    digest of the portions put together as its signature, in lower-case hexadecimal digits; so two
    readings of the same bytes have the same signature.  If a read fails before the end, there is
    no signature, whatever was read before and would have been read behind: the failure is that
    storage is unavailable, and it tells developers the text of the fault. -/
theorem signature_of_reads (readings : List Reading) :
    ((∀ message, .failed message ∉ readings) →
      signature readings = .ok (String.ofList (hex (sha512 (delivered readings)))) ∧
      ∀ others, (∀ message, .failed message ∉ others) → delivered others = delivered readings →
        signature others = signature readings) ∧
    ∀ before message after, readings = before ++ .failed message :: after →
      (∀ other, .failed other ∉ before) →
      ∃ failure, signature readings = .error failure ∧ failure.code = "STORAGE.UNAVAILABLE" ∧
        failure.devMessage = some message := by
  constructor
  · intro sound
    have here := signature_of_bytes (content_of_no_fault sound)
    refine ⟨here, ?_⟩
    intro others also same
    rw [signature_of_bytes (content_of_no_fault also), same, here]
  · rintro before message after rfl sound
    exact ⟨Failure.unreadable message, signature_of_fault (content_of_fault sound message after),
      rfl, rfl⟩

/-- Two readings of three bytes, one of them with an interruption, and one that fails. -/
theorem signature_of_reads_sample :
    signature [.interrupted, .chunk [97], .chunk [98, 99]] = signature [.chunk [97, 98, 99]] ∧
    ∃ failure, signature [.chunk [97], .failed "disk gone", .chunk [98, 99]] = .error failure ∧
      failure.devMessage = some "disk gone" := by
  constructor
  · refine ((signature_of_reads [.chunk [97, 98, 99]]).1 ?_).2 _ ?_ rfl <;> simp
  · obtain ⟨failure, fails, -, text⟩ :=
      (signature_of_reads [.chunk [97], .failed "disk gone", .chunk [98, 99]]).2
        [.chunk [97]] "disk gone" [.chunk [98, 99]] rfl (by simp)
    exact ⟨failure, fails, text⟩

end AccessControl.Digest
