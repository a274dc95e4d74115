import BuildCredentials.Lookup.Client
import BuildCredentials.Proofs.Http.Heads
import BuildCredentials.Proofs.Lookup.Wire

/-!
# What a reply tells a client

A reply tells a record if it comes in time, with a status of success and the record as its body, and only then is
a record fetched (`Client.fetch_eq_ok_iff`). An answer of each status that has a body can come with any body
(`Http.readResponse_plainAnswer`).
-/

set_option autoImplicit false

namespace BuildCredentials

/-! ## Answers as they arrive -/

namespace Http

/-- The three digits of a status. -/
def statusDigits (status : Nat) : List UInt8 :=
  [.ofNat (48 + status / 100), .ofNat (48 + status / 10 % 10), .ofNat (48 + status % 10)]

/-- An answer of a status whose body goes on to the end of the connection. -/
def plainAnswer (status : Nat) (body : List UInt8) : List UInt8 :=
  ascii "HTTP/1.1" ++ 32 :: (statusDigits status ++ 13 :: 10 :: 13 :: 10 :: body)

theorem digit_ofNat : ∀ k < 10, isDigitByte (.ofNat (48 + k)) ∧ (UInt8.ofNat (48 + k)).toNat - 48 = k ∧
    UInt8.ofNat (48 + k) ≠ 10 ∧ UInt8.ofNat (48 + k) ≠ 32 := by decide

section
variable {status : Nat} (h : status < 1000)
include h

theorem number?_statusDigits : number? (statusDigits status) = some status := by
  obtain ⟨da, va, -⟩ := digit_ofNat (status / 100) (by omega)
  obtain ⟨db, vb, -⟩ := digit_ofNat (status / 10 % 10) (by omega)
  obtain ⟨dc, vc, -⟩ := digit_ofNat (status % 10) (by omega)
  have hsum : 10 * (10 * (10 * 0 + status / 100) + status / 10 % 10) + status % 10 = status := by omega
  have hlt : status < lengthBound := Nat.lt_trans h (by decide)
  simp only [number?, statusDigits, List.foldl_cons, List.foldl_nil, va, vb, vc, hsum, hlt, if_true, List.all_cons,
    List.all_nil, da, db, dc, Bool.and_self, Bool.not_true]
  simp

theorem ne_of_mem_statusDigits : ∀ b ∈ statusDigits status, b ≠ 10 ∧ b ≠ 32 := by
  intro b hb
  simp only [statusDigits, List.mem_cons, List.not_mem_nil, or_false] at hb
  rcases hb with rfl | rfl | rfl
  · exact (digit_ofNat _ (by omega)).2.2
  · exact (digit_ofNat _ (by omega)).2.2
  · exact (digit_ofNat _ (by omega)).2.2

theorem statusLine?_digits (hl : 100 ≤ status) :
    statusLine? (ascii "HTTP/1.1" ++ 32 :: statusDigits status) = some (.v11, status) := by
  have hversion : ∀ b ∈ ascii "HTTP/1.1", (b == 32) = false := by decide +kernel
  have hdigits : ∀ b ∈ statusDigits status, (b == 32) = false := fun b hb =>
    beq_false_of_ne (ne_of_mem_statusDigits h b hb).2
  have hsplit : (ascii "HTTP/1.1" ++ 32 :: statusDigits status).splitOn 32 =
      [ascii "HTTP/1.1", statusDigits status] := by
    rw [List.splitOn, List.splitOnP_append_cons_of_forall_mem hversion _ (beq_self_eq_true _),
      List.splitOnP_eq_singleton hdigits]
  have hname : Version.ofName? (ascii "HTTP/1.1") = some .v11 := by decide
  simp only [statusLine?, hsplit, number?_statusDigits h]
  simp [statusDigits, hl, hname]

/-- A status that has a body can come with any body. -/
theorem readResponse_plainAnswer (hl : 100 ≤ status) (hi : isInterim status = false)
    (hb : status ∉ [101, 204, 304]) (fuel : Nat) (body : List UInt8) :
    readResponse (fuel + 1) (plainAnswer status body) = some (status, body) := by
  have hversion : ∀ b ∈ ascii "HTTP/1.1", b ≠ 10 := by decide +kernel
  have hline : ∀ b ∈ ascii "HTTP/1.1" ++ 32 :: statusDigits status, b ≠ 10 := by
    intro b hmem
    rcases List.mem_append.1 hmem with hmem | hmem
    · exact hversion b hmem
    · rcases List.mem_cons.1 hmem with rfl | hmem
      · decide
      · exact (ne_of_mem_statusDigits h b hmem).1
  have hbytes : plainAnswer status body = headBytes (ascii "HTTP/1.1" ++ 32 :: statusDigits status) [] ++ body := by
    simp [plainAnswer, headBytes, fieldBytes]
  have hhead : readHead statusLine? (plainAnswer status body) = .ok ((.v11, status), [], body) := by
    rw [hbytes]
    exact readHead_headBytes (by simp) (by simp [ascii]) hline (statusLine?_digits h hl) (List.forall_mem_nil _)
      (Nat.zero_le _) body
  rw [readResponse, hhead]
  simp [hi, Framing.ofResponse?, hb, valuesOf, Framing.read]

end

end Http

namespace Lookup.Client

open Registry (Record)

/-- The status and the body that a client receives in time. -/
def received? (c : Client) : Reply → Option (Nat × List UInt8)
  | .absent => none
  | .silent => none
  | .bytes bytes => if c.waits then Http.readResponse (bytes.length + 1) bytes else none

/-- A reply tells a record: it comes in time, with a status of success and the record as its body. -/
def Tells (c : Client) (reply : Reply) (record : Record) : Prop :=
  ∃ status body, c.received? reply = some (status, body) ∧ (200 ≤ status ∧ status < 300) ∧
    Record.parse body = .ok record

section
variable {c : Client} {request : Request} {reply : Reply} {record : Record} {status : Nat} {body : List UInt8}

theorem received?_plainAnswer (waits : c.waits) (hl : 100 ≤ status) (hu : status < 1000)
    (hi : Http.isInterim status = false) (hb : status ∉ [101, 204, 304]) (body : List UInt8) :
    c.received? (.bytes (Http.plainAnswer status body)) = some (status, body) := by
  rw [received?, if_pos waits, Http.readResponse_plainAnswer hu hl hi hb]

theorem interpret_eq_ok_iff : interpret request status body = .ok record ↔
    (200 ≤ status ∧ status < 300) ∧ Record.parse body = .ok record := by
  have hs : Http.isSuccess status = true ↔ 200 ≤ status ∧ status < 300 := by
    rw [Http.isSuccess, Bool.and_eq_true, decide_eq_true_eq, decide_eq_true_eq]
  rw [interpret, ← hs]
  split
  · next h =>
    subst h
    simp [Http.isSuccess]
  · cases Http.isSuccess status with
    | false => simp
    | true => cases Record.parse body <;> simp

/-- A record is fetched just if the reply tells it. -/
theorem fetch_eq_ok_iff : c.fetch request reply = .ok record ↔ c.Tells reply record := by
  unfold Tells
  cases reply with
  | absent | silent => simp [fetch, received?]
  | bytes bytes =>
    rw [fetch, received?]
    cases c.waits with
    | false => simp
    | true =>
      simp only [Bool.not_true, Bool.false_eq_true, if_false, if_true]
      cases Http.readResponse (bytes.length + 1) bytes with
      | none => simp
      | some answer =>
        obtain ⟨status, body⟩ := answer
        simp [interpret_eq_ok_iff]

end

end Lookup.Client

end BuildCredentials
