import BuildCredentials.Http.Wire
import BuildCredentials.Proofs.Text.Cutting

/-!
# Heads as they are written and read

A head that is written line by line is read as it was written, with its first line, its fields and what follows it
(`readHead_headBytes`). So a request whose fields tell how long its body is arrives as it was sent, and what comes
behind its body is left for later (`readRequest_requestBytes`).
-/

set_option autoImplicit false

namespace BuildCredentials.Http

section
variable {b k : UInt8} {line rest : List UInt8} {fields : List Field} {version : Version}

/-! ## Lines -/

theorem takeLine?_line (h : ∀ b ∈ line, b ≠ 10) (rest : List UInt8) :
    takeLine? (line ++ 13 :: 10 :: rest) = some (line, rest) := by
  have hline : ∀ b ∈ line ++ [13], (b ≠ 10 : Bool) := by
    intro b hb
    rcases List.mem_append.1 hb with hb | hb
    · simpa using h b hb
    · rw [List.mem_singleton.1 hb]
      decide
  have hbytes : line ++ 13 :: 10 :: rest = (line ++ [13]) ++ 10 :: rest := by simp
  rw [hbytes, takeLine?, List.dropWhile_append_of_pos hline, List.takeWhile_append_of_pos hline]
  simp

theorem ne_of_pass {p : UInt8 → Bool} (hb : p b) (hk : p k = false) : b ≠ k := by
  rintro rfl
  exact Bool.false_ne_true (hk.symm.trans hb)

theorem skipEmptyLines_cons (hn : b ≠ 10) (hr : b ≠ 13) (rest : List UInt8) :
    skipEmptyLines (b :: rest) = b :: rest := by
  rw [skipEmptyLines.eq_def]
  split
  · rename_i he
    exact absurd (List.cons.inj he).1 hn
  · rename_i he
    exact absurd (List.cons.inj he).1 hr
  · rfl

/-! ## Fields -/

namespace Field

variable {f : Field}

/-- What a field can be written as: a name in lower case, and a value without controls inside or blanks around it. -/
structure Writable (f : Field) : Prop where
  named : ascii f.name ≠ []
  token : ∀ b ∈ ascii f.name, isTokenByte b
  lower : text (lowerBytes (ascii f.name)) = f.name
  visible : ∀ b ∈ f.value, isValueByte b
  trimmed : trimBytes f.value = f.value

/-- The line of a field. -/
def bytes (f : Field) : List UInt8 := ascii f.name ++ 58 :: 32 :: f.value

theorem trimBytes_blank (value : List UInt8) : trimBytes (32 :: value) = trimBytes value := rfl

theorem Writable.ofLine? (h : f.Writable) : Field.ofLine? f.bytes = some f := by
  have hstop : ∀ y ∈ (58 :: 32 :: f.value).head?, isTokenByte y = false := by
    intro y hy
    cases hy
    decide
  obtain ⟨hname, hvalue⟩ := Text.cut_append h.token hstop
  have hvisible : (32 :: f.value).all isValueByte = true :=
    List.all_eq_true.2 (List.forall_mem_cons.2 ⟨by decide, h.visible⟩)
  obtain ⟨first, name, hcons⟩ := List.exists_cons_of_ne_nil h.named
  simp only [Field.ofLine?, bytes, hname, hvalue]
  rw [hcons]
  simp only [← hcons, h.lower, hvisible, trimBytes_blank, h.trimmed, and_self, if_true]

theorem Writable.bytes_ne (h : f.Writable) : ∀ b ∈ f.bytes, b ≠ 10 := by
  intro b hb
  rw [bytes, List.mem_append, List.mem_cons, List.mem_cons] at hb
  rcases hb with hb | rfl | rfl | hb
  · exact ne_of_pass (h.token b hb) (by decide)
  · decide
  · decide
  · exact ne_of_pass (h.visible b hb) (by decide)

end Field

/-- Fields, one on a line, and the empty line behind them. -/
def fieldBytes (fields : List Field) : List UInt8 := fields.flatMap (fun f => f.bytes ++ [13, 10]) ++ [13, 10]

theorem readFields_fieldBytes {limit : Nat} (h : ∀ f ∈ fields, f.Writable) (hl : fields.length ≤ limit)
    (rest : List UInt8) : readFields limit (fieldBytes fields ++ rest) = .ok (fields, rest) := by
  induction fields generalizing limit with
  | nil =>
    have hempty : takeLine? (13 :: 10 :: rest) = some ([], rest) := @takeLine?_line [] nofun rest
    cases limit <;> simp only [fieldBytes, List.flatMap_nil, List.nil_append, List.cons_append, readFields, hempty]
  | cons f fields ih =>
    obtain ⟨hf, h⟩ := List.forall_mem_cons.1 h
    cases limit with
    | zero => exact absurd hl (Nat.not_succ_le_zero _)
    | succ limit =>
      have hbytes : fieldBytes (f :: fields) ++ rest = f.bytes ++ 13 :: 10 :: (fieldBytes fields ++ rest) := by
        simp [fieldBytes]
      have hne : f.bytes ≠ [] := by simp [Field.bytes]
      rw [hbytes, readFields, takeLine?_line hf.bytes_ne]
      obtain ⟨first, line, hcons⟩ := List.exists_cons_of_ne_nil hne
      simp only [hcons]
      rw [← hcons, hf.ofLine?, ih h (Nat.le_of_succ_le_succ hl)]
      rfl

/-! ## Heads -/

/-- A head as it is written: the first line, the fields and an empty line. -/
def headBytes (line : List UInt8) (fields : List Field) : List UInt8 := line ++ 13 :: 10 :: fieldBytes fields

theorem readHead_headBytes {α : Type} {first : List UInt8 → Option α} {a : α} (hne : line ≠ [])
    (hr : line.head? ≠ some 13) (hline : ∀ b ∈ line, b ≠ 10) (hfirst : first line = some a)
    (h : ∀ f ∈ fields, f.Writable) (hl : fields.length ≤ fieldLimit) (rest : List UInt8) :
    readHead first (headBytes line fields ++ rest) = .ok (a, fields, rest) := by
  have hbytes : headBytes line fields ++ rest = line ++ 13 :: 10 :: (fieldBytes fields ++ rest) := by simp [headBytes]
  have hstart : skipEmptyLines (headBytes line fields ++ rest) = headBytes line fields ++ rest := by
    obtain ⟨b, others, rfl⟩ := List.exists_cons_of_ne_nil hne
    exact skipEmptyLines_cons (hline b (.head _)) (fun he => hr (congrArg some he)) _
  rw [readHead, hstart, hbytes, takeLine?_line hline]
  simp only [hfirst, readFields_fieldBytes h hl]
  rfl

/-! ## Requests -/

/-- The first line of a request. -/
def requestLineBytes (method target : List UInt8) (version : Version) : List UInt8 :=
  method ++ 32 :: (target ++ 32 :: ascii version.name)

variable {method target : List UInt8}

theorem name_bytes (version : Version) :
    (∀ b ∈ ascii version.name, b ≠ 32 ∧ b ≠ 10) ∧ Version.ofName? (ascii version.name) = some version := by
  cases version <;> exact ⟨by decide +kernel, by decide⟩

theorem requestLine?_bytes (hm : isMethod method) (ht : target ≠ []) (hv : ∀ b ∈ target, isTargetByte b) :
    requestLine? (requestLineBytes method target version) = some (method, target, version) := by
  have hmethod : ∀ b ∈ method, (b == 32) = false := fun b hb =>
    beq_false_of_ne (ne_of_pass (List.all_eq_true.1 (Bool.and_eq_true_iff.1 hm).2 b hb) (by decide))
  have htarget : ∀ b ∈ target, (b == 32) = false := fun b hb => beq_false_of_ne (ne_of_pass (hv b hb) (by decide))
  have hversion : ∀ b ∈ ascii version.name, (b == 32) = false := fun b hb =>
    beq_false_of_ne ((name_bytes version).1 b hb).1
  have hsplit : (requestLineBytes method target version).splitOn 32 = [method, target, ascii version.name] := by
    rw [List.splitOn, requestLineBytes, List.splitOnP_append_cons_of_forall_mem hmethod _ (beq_self_eq_true _),
      List.splitOnP_append_cons_of_forall_mem htarget _ (beq_self_eq_true _), List.splitOnP_eq_singleton hversion]
  have hall : target.all isTargetByte = true := List.all_eq_true.2 hv
  simp only [requestLine?, hsplit, hm, ht, hall, ne_eq, not_false_eq_true, and_self, if_true,
    (name_bytes version).2, Option.map_some]

/-- A request as it is written. -/
def requestBytes (method target : List UInt8) (version : Version) (fields : List Field) (body : List UInt8) :
    List UInt8 := headBytes (requestLineBytes method target version) fields ++ body

/-- A request arrives as it was sent if its fields tell how long its body is. What follows belongs to the next one. -/
theorem readRequest_requestBytes {path : String} {body : List UInt8} (hm : isMethod method)
    (ht : ∀ b ∈ target, isTargetByte b) (hp : readTarget target = .ok path) (h : ∀ f ∈ fields, f.Writable)
    (hl : fields.length ≤ fieldLimit) (hf : Framing.ofRequest version fields = .ok (.sized body.length))
    (rest : List UInt8) :
    readRequest (requestBytes method target version fields body ++ rest) =
      .ok { version, method := text method, path, body? := some body } := by
  have hne : target ≠ [] := by
    rintro rfl
    cases hp
  obtain ⟨hm0, hmethod⟩ := Bool.and_eq_true_iff.1 hm
  have hm0 : method ≠ [] := of_decide_eq_true hm0
  have hmethod : ∀ b ∈ method, isTokenByte b := List.all_eq_true.1 hmethod
  have hstart : (requestLineBytes method target version).head? ≠ some 13 := by
    obtain ⟨first, others, rfl⟩ := List.exists_cons_of_ne_nil hm0
    exact fun he => ne_of_pass (hmethod first (.head _)) (by decide) (Option.some.inj he)
  have hline : ∀ b ∈ requestLineBytes method target version, b ≠ 10 := by
    intro b hb
    simp only [requestLineBytes, List.mem_append, List.mem_cons] at hb
    rcases hb with hb | rfl | hb | rfl | hb
    · exact ne_of_pass (hmethod b hb) (by decide)
    · decide
    · exact ne_of_pass (ht b hb) (by decide)
    · decide
    · exact ((name_bytes version).1 b hb).2
  have hhead := readHead_headBytes (by simp [requestLineBytes]) hstart hline
    (requestLine?_bytes hm hne ht) h hl (body ++ rest)
  have hbody : (Framing.sized body.length).read (body ++ rest) = some body := by simp [Framing.read]
  rw [readRequest, requestBytes, List.append_assoc, hhead]
  simp only [Bind.bind, Except.bind, hp, hf, hbody]
  rfl

end

end BuildCredentials.Http
