import BuildCredentials.Proofs.Http.Heads
import BuildCredentials.Proofs.Lookup.Transparency

/-!
# Requests as bytes of a connection

The bytes of a complete request are answered as the request is (`Endpoint.serve_of_readRequest`), and those that a
client sends are a complete request (`Client.readRequest_requestText`). So what a client is told of an answer is told of
what goes out over the connection (`Endpoint.serve_requestText`). A peer that is rejected gets the same for the same
bytes, whatever is stored (`Endpoint.serve_of_rejected`).
-/

set_option autoImplicit false

namespace BuildCredentials

/-! ## Texts of ASCII characters -/

namespace Http

theorem encode_eq_ascii {s : String} (h : ∀ c ∈ s.toList, c.toNat < 128) : Utf8.encode s = ascii s := by
  rw [Utf8.encode_eq_bytesOf, ascii]
  generalize s.toList = cs at h
  induction cs with
  | nil => rfl
  | cons c cs ih =>
    obtain ⟨hc, h⟩ := List.forall_mem_cons.1 h
    rw [Utf8.bytesOf_cons (Utf8.encodeChar_of_lt hc), ih h]
    rfl

theorem mem_toString_digit {n : Nat} : ∀ c ∈ (toString n).toList, c.isDigit := by
  intro c hc
  rw [Nat.toString_eq_repr, Nat.toList_repr] at hc
  exact Nat.isDigit_of_mem_toDigits (by decide) (by decide) hc

theorem isDigitByte_ofNat {c : Char} (h : c.isDigit) : isDigitByte (.ofNat c.toNat) := by
  obtain ⟨-, hd, -⟩ := Json.byte_of_isDigit h
  exact hd

theorem range_of_isDigitByte {b : UInt8} (h : isDigitByte b) : isValueByte b ∧ isBlankByte b = false := by
  have hlow : 32 ≤ b := UInt8.le_trans (by decide) (of_decide_eq_true (Bool.and_eq_true_iff.1 h).1)
  have hdelete : b ≠ 127 := ne_of_pass h (by decide)
  have htab : b ≠ 9 := ne_of_pass h (by decide)
  have hspace : b ≠ 32 := ne_of_pass h (by decide)
  simp [isValueByte, isBlankByte, hlow, hdelete, htab, hspace]

theorem foldl_digits {cs : List Char} (h : ∀ c ∈ cs, c.isDigit) (n : Nat) :
    (cs.map fun c => UInt8.ofNat c.toNat).foldl (fun n b => 10 * n + (b.toNat - 48)) n = Nat.ofDigitChars 10 cs n := by
  induction cs generalizing n with
  | nil => rfl
  | cons c cs ih =>
    obtain ⟨hc, h⟩ := List.forall_mem_cons.1 h
    obtain ⟨-, -, hv⟩ := Json.byte_of_isDigit hc
    have hv : (UInt8.ofNat c.toNat).toNat = c.toNat := hv
    rw [List.map_cons, List.foldl_cons, hv, ih h, Nat.ofDigitChars_cons]
    rfl

/-- The digits of a number that can be counted are read as the number. -/
theorem number?_toString {n : Nat} (h : n < lengthBound) : number? (ascii (toString n)) = some n := by
  have hne : ascii (toString n) ≠ [] := by
    rw [ascii, Nat.toString_eq_repr, Nat.toList_repr, ne_eq, List.map_eq_nil_iff]
    exact Nat.toDigits_ne_nil
  have hall : (ascii (toString n)).all isDigitByte = true := by
    rw [List.all_eq_true, ascii]
    intro b hb
    obtain ⟨c, hc, rfl⟩ := List.mem_map.1 hb
    exact isDigitByte_ofNat (mem_toString_digit c hc)
  have hsum : (ascii (toString n)).foldl (fun n b => 10 * n + (b.toNat - 48)) 0 = n := by
    rw [ascii, foldl_digits mem_toString_digit, Nat.toString_eq_repr, Nat.toList_repr, Nat.ofDigitChars_ten_toDigits]
  simp only [number?, hne, hall, hsum, h, Bool.not_true, Bool.false_eq_true, or_self, if_false, if_true]

theorem trimBytes_of_forall {bytes : List UInt8} (h : ∀ b ∈ bytes, isBlankByte b = false) :
    trimBytes bytes = bytes := by
  have hdrop {bytes : List UInt8} (h : ∀ b ∈ bytes, isBlankByte b = false) : bytes.dropWhile isBlankByte = bytes := by
    cases bytes with
    | nil => rfl
    | cons b bytes => exact List.dropWhile_cons_of_neg (by simp [h b (.head _)])
  rw [trimBytes, hdrop h, hdrop fun b hb => h b (List.mem_reverse.1 hb), List.reverse_reverse]

end Http

namespace Lookup

open Http (ascii Field requestBytes readRequest)

/-! ## What a client sends -/

namespace Client

/-- The fields of a request, as they are on the wire. -/
def sentFields (request : Request) : List Field := (fields request).map fun f => ⟨f.1, ascii f.2⟩

theorem writable_sentFields (request : Request) : ∀ f ∈ sentFields request, f.Writable := by
  rw [sentFields, fields, List.map_cons, List.map_cons, List.map_cons, List.map_nil, List.forall_mem_cons,
    List.forall_mem_cons, List.forall_mem_singleton]
  dsimp only
  refine ⟨?_, ?_, ?_⟩
  · exact ⟨by decide, by decide +kernel, by decide +kernel, by decide +kernel, by decide +kernel⟩
  · exact ⟨by decide, by decide +kernel, by decide +kernel, by decide +kernel, by decide +kernel⟩
  · have hdigit : ∀ b ∈ ascii (toString (body request).utf8ByteSize), Http.isDigitByte b := by
      intro b hb
      obtain ⟨c, hc, rfl⟩ := List.mem_map.1 hb
      exact Http.isDigitByte_ofNat (Http.mem_toString_digit c hc)
    have hnamed : ascii "content-length" ≠ [] := by decide
    have htoken : ∀ b ∈ ascii "content-length", Http.isTokenByte b := by decide +kernel
    have hlower : Http.text (Http.lowerBytes (ascii "content-length")) = "content-length" := by decide +kernel
    exact ⟨hnamed, htoken, hlower, fun b hb => (Http.range_of_isDigitByte (hdigit b hb)).1,
      Http.trimBytes_of_forall fun b hb => (Http.range_of_isDigitByte (hdigit b hb)).2⟩

theorem length_encode (s : String) : (Utf8.encode s).length = s.utf8ByteSize := by
  simp [Utf8.encode]

variable {request : Request}

/-- The fields tell the length of the body. -/
theorem ofRequest_sentFields (h : (Utf8.encode (body request)).length + 2 < Http.lengthBound) :
    Http.Framing.ofRequest .v11 (sentFields request) = .ok (.sized (Utf8.encode (body request)).length) := by
  rw [length_encode] at h ⊢
  have hn : Http.number? (ascii (toString (body request).utf8ByteSize)) = some (body request).utf8ByteSize :=
    Http.number?_toString (by omega)
  have hsaid : (sentFields request).foldlM (Http.Said.step .v11) {} =
      .ok { length? := some (body request).utf8ByteSize } := by
    rw [sentFields, fields, List.map_cons, List.map_cons, List.map_cons, List.map_nil]
    show Http.Said.step .v11 {} ⟨"content-length", ascii (toString (body request).utf8ByteSize)⟩ >>= pure = _
    simp only [Http.Said.step, hn, h, if_true]
    rfl
  rw [Http.Framing.ofRequest, hsaid]
  rfl

theorem encode_requestText (request : Request) : Utf8.encode (requestText request) =
    requestBytes (ascii "GET") (ascii path) .v11 (sentFields request) (Utf8.encode (body request)) := by
  have hdigits : Utf8.encode (toString (body request).utf8ByteSize) = ascii (toString (body request).utf8ByteSize) := by
    refine Http.encode_eq_ascii fun c hc => ?_
    have hd := Char.isDigit_iff_toNat.1 (Http.mem_toString_digit c hc)
    have hu : c.toNat ≤ 57 := hd.2
    omega
  have happend (s t : String) : Utf8.encode (s ++ t) = Utf8.encode s ++ Utf8.encode t := by
    simp only [Utf8.encode_eq_bytesOf, String.toList_append, Utf8.bytesOf_append]
  have hline : Utf8.encode requestLine = Http.requestLineBytes (ascii "GET") (ascii path) .v11 := by decide +kernel
  have hend : Utf8.encode "\r\n" = [13, 10] := by decide +kernel
  have hcolon : Utf8.encode ": " = [58, 32] := by decide +kernel
  have hname : ∀ s ∈ ["", "host", "localhost", "content-type", "application/json", "content-length"],
      Utf8.encode s = ascii s := by decide +kernel
  simp only [List.forall_mem_cons] at hname
  simp only [requestText, fields, String.join, List.map_cons, List.map_nil, List.foldl_cons, List.foldl_nil, happend,
    hdigits, hline, hend, hcolon, hname]
  simp [requestBytes, Http.headBytes, Http.fieldBytes, sentFields, fields, Field.bytes, ascii]

/-- A client's request arrives as it was sent. -/
theorem readRequest_requestText (h : (Utf8.encode (body request)).length + 2 < Http.lengthBound) :
    readRequest (Utf8.encode (requestText request)) =
      .ok { version := .v11, method := "GET", path := path, body? := some (Utf8.encode (body request)) } := by
  have hmethod : Http.isMethod (ascii "GET") ∧ Http.text (ascii "GET") = "GET" := by decide
  have htarget : ∀ b ∈ ascii path, Http.isTargetByte b := by decide +kernel
  have hpath : Http.readTarget (ascii path) = .ok path := by decide +kernel
  have hlimit : (sentFields request).length ≤ Http.fieldLimit := by
    rw [sentFields, List.length_map]
    exact (by decide : 3 ≤ Http.fieldLimit)
  have hread := Http.readRequest_requestBytes hmethod.1 htarget hpath (writable_sentFields request) hlimit
    (ofRequest_sentFields h) []
  rwa [List.append_nil, ← encode_requestText, hmethod.2] at hread

end Client

/-! ## What goes out -/

namespace Endpoint

variable {e : Endpoint} {store other : Store} {connection : Peer.Connection} {bytes body : List UInt8}
  {incoming : Http.Incoming} {request : Request}

/-- The bytes of a complete request are answered as the request is. -/
theorem serve_of_readRequest (h : readRequest bytes = .ok incoming) (hb : incoming.body? = some body) :
    e.serve store connection bytes =
      let answer := e.respond store (some connection) { method := incoming.method, path := incoming.path, body }
      (some (.ofResponse incoming.version answer.1), answer.2) := by
  simp only [serve, h, hb, Option.isNone_some, Bool.false_eq_true, false_and, if_false, Option.getD_some]

/-- What goes out over a connection on which a client asks is the answer that the client is told of. -/
theorem serve_requestText (h : (Utf8.encode (Client.body request)).length + 2 < Http.lengthBound) :
    ∃ response events, e.serve store connection (Utf8.encode (Client.requestText request)) =
        (some (.ofResponse .v11 response), events) ∧
      e.fetch store connection request =
        (Client.interpret request response.status (Utf8.encode response.body), events) :=
  ⟨_, _, serve_of_readRequest (Client.readRequest_requestText h) rfl, rfl⟩

/-- A peer that is rejected gets the same for the same bytes, whatever is stored. -/
theorem serve_of_rejected {reason : Peer.Rejection} (h : e.verdict (some connection) = .error reason)
    (bytes : List UInt8) : e.serve store connection bytes = e.serve other connection bytes := by
  unfold serve
  cases readRequest bytes with
  | error fault => rfl
  | ok incoming => simp only [respond, handle, h]

end Endpoint

end Lookup

end BuildCredentials
