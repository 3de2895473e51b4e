/-
  AccessControl/Digest/Signature.lean
  ===================================
  **Signatures of content.**

  The signature of an image or a file is the digest of its bytes without a salt, so
  that it is the same wherever it is computed.  Content arrives in portions,
  which may be empty; a read that was interrupted is repeated, and a read that fails
  leaves no signature.

  Content may be larger than what one wants to hold.  So it is asked for by so many bytes at a
  time, and each row of bytes goes to a hasher before the next is asked for.

  ## Main definitions

  * `Reading`: the outcome of one read;
  * `content readings`: the bytes that a row of reads delivers;
  * `read readings`: the next read of a source, and what it will deliver behind it;
  * `Hasher.copy`, `signature readings`: all reads up to the end, and their signature.
-/
import AccessControl.Digest.Hasher
import AccessControl.Digest.Hex
import AccessControl.Failure.Named

namespace AccessControl.Digest

/-! ## 1. Sources -/

/-- The outcome of one read. -/
inductive Reading where
  | chunk (bytes : List UInt8)
  | interrupted
  | failed (message : String)
deriving DecidableEq, Repr

/-- The bytes that a row of reads delivers, or the first fault in it. -/
def content : List Reading → Except String (List UInt8)
  | [] => .ok []
  | .chunk bytes :: rest => (content rest).map fun more => bytes ++ more
  | .interrupted :: rest => content rest
  | .failed message :: _ => .error message

def portionLimit : Nat := 8192

/-- The next read of a source, and what is left for later.  Of more bytes than are asked for
    the others stay; without any bytes the source is at its end. -/
def read : List Reading → Reading × List Reading
  | [] => (.chunk [], [])
  | .chunk [] :: rest => read rest
  | .chunk (b :: bs) :: rest =>
    (.chunk ((b :: bs).take portionLimit), .chunk ((b :: bs).drop portionLimit) :: rest)
  | .interrupted :: rest => (.interrupted, rest)
  | .failed message :: rest => (.failed message, rest)

def left : List Reading → Nat
  | [] => 0
  | .chunk bytes :: rest => bytes.length + 1 + left rest
  | _ :: rest => 1 + left rest

theorem left_read {source rest : List Reading} {next : Reading} (h : read source = (next, rest))
    (more : next ≠ .chunk []) : left rest < left source := by
  fun_induction read source with
  | case1 =>
    obtain ⟨rfl, -⟩ := Prod.mk.inj h
    exact absurd rfl more
  | case2 source ih =>
    have := ih h
    simp only [left, List.length_nil]
    omega
  | case3 b bs source =>
    obtain ⟨-, rfl⟩ := Prod.mk.inj h
    simp only [left, List.length_drop, List.length_cons, portionLimit]
    omega
  | case4 source =>
    obtain ⟨-, rfl⟩ := Prod.mk.inj h
    simp only [left]
    omega
  | case5 message source =>
    obtain ⟨-, rfl⟩ := Prod.mk.inj h
    simp only [left]
    omega

/-! ## 2. Signatures -/

/-- The hasher after all that a source delivers, or the first fault. -/
def Hasher.copy (h : Hasher) (source : List Reading) : Except String Hasher :=
  match _ : read source with
  | (.chunk [], _) => .ok h
  | (.chunk (b :: bs), rest) => (h.update (b :: bs)).copy rest
  | (.interrupted, rest) => h.copy rest
  | (.failed message, _) => .error message
termination_by left source
decreasing_by all_goals exact left_read ‹_› (by simp)

/-- The signature of the content that a row of reads delivers. -/
def signature (readings : List Reading) : Except Failure String :=
  match Hasher.start.copy readings with
  | .ok h => .ok (String.ofList (hex h.finish))
  | .error message => .error (Failure.unreadable message)

/-- The signature of a file, of which the opening may fail already. -/
def fileSignature (path : String) (opened : Except String (List Reading)) :
    Except Failure String :=
  match opened with
  | .ok readings => signature readings
  | .error message => .error (Failure.unreadable s!"open {path}: {message}")

end AccessControl.Digest
