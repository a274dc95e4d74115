import BuildCredentials.Helper.Protocol
import BuildCredentials.Lookup.Client
import BuildCredentials.Proofs.Json.Fields
import BuildCredentials.Registry.Record

/-!
# What goes over the wire

Records, requests, messages and the credentials of a helper are all written as objects of texts and read back as
they were (`Record.parse_toJson` and its like). A record is also read from any other object that carries its
fields, and from no other object (`records_survive_wire`).
-/

set_option autoImplicit false

namespace BuildCredentials

open Json (Derives Member ObjectText blanks_nil)

namespace Registry.Record

/-- The fields of a record by their names. -/
def named (r : Record) : List (String × String) :=
  [("username", r.username), ("password", r.password), ("auth", r.auth), ("email", r.email),
    ("serveraddress", r.serverAddress), ("identitytoken", r.identityToken), ("registrytoken", r.registryToken)]

theorem represents : shape.Represents values ofValues where
  nodup := by decide
  length_values _ := rfl
  ofValues_values _ := rfl
  values_ofValues
    | [_, _, _, _, _, _, _], _ => rfl

/-- A record that is written is read back. -/
theorem parse_toJson (record : Record) : parse (Utf8.encode record.toJson.render) = .ok record :=
  represents.parse_toJson record

theorem written_values (r : Record) : shape.written r.values = r.named.filter (·.2 ≠ "") := by
  refine List.filter_congr fun p _ => ?_
  simp [shape, Bool.beq_eq_decide_eq]

end Registry.Record

namespace Lookup

open Registry (Record)

namespace Request

/-- The fields of a request by their names. -/
def named (r : Request) : List (String × String) := [("buildID", r.build), ("serverAddr", r.address)]

theorem represents : shape.Represents values ofValues where
  nodup := by decide
  length_values _ := rfl
  ofValues_values _ := rfl
  values_ofValues
    | [_, _], _ => rfl

theorem parse_toJson (request : Request) : parse (Utf8.encode request.toJson.render) = .ok request :=
  represents.parse_toJson request

end Request

namespace Message

theorem represents : shape.Represents (fun m => [text m]) fun vs => ⟨vs.headD ""⟩ where
  nodup := by decide
  length_values _ := rfl
  ofValues_values _ := rfl
  values_ofValues
    | [_], _ => rfl

theorem parse_toJson (message : Message) : parse (Utf8.encode message.toJson.render) = .ok message :=
  represents.parse_toJson message

end Message

end Lookup

namespace Helper.Credentials

theorem represents : shape.Represents values ofValues where
  nodup := by decide
  length_values _ := rfl
  ofValues_values _ := rfl
  values_ofValues
    | [_, _, _], _ => rfl

theorem parse_toJson (c : Credentials) : parse (Utf8.encode c.toJson.render) = .ok c := represents.parse_toJson c

end Helper.Credentials

namespace Lookup

open Registry (Record)
open Helper (Credentials)

/-- A record is written as an object of its fields that are not empty, in their order, and is read back. It is
read from an object just if each of its fields stands there once, with its value in any spelling, or is empty and
left out, wherever in the object that is and whatever other members hold; no field may stand twice. Requests,
credentials and messages are read back as well, and none of their fields may be missing. -/
theorem records_survive_wire :
    (∀ r : Record,
      (∃ o : ObjectText, o.bytes = Utf8.encode r.toJson.render ∧
        List.Forall₂ Member.Holds o.members (r.named.filter (·.2 ≠ ""))) ∧
      Record.parse (Utf8.encode r.toJson.render) = .ok r ∧
      ∀ o : ObjectText, Record.parse o.bytes = .ok r ↔ o.Carries true r.named) ∧
    (∀ o : ObjectText, ∀ field ∈ Record.shape.fields, 2 ≤ o.names.count field →
      ∃ failure, Record.parse o.bytes = .error failure) ∧
    ((∀ x : Request, Request.parse (Utf8.encode x.toJson.render) = .ok x) ∧
      ∀ o : ObjectText, ∀ field ∈ ["buildID", "serverAddr"], field ∉ o.names →
        ∃ failure, Request.parse o.bytes = .error failure) ∧
    ((∀ x : Credentials, Credentials.parse (Utf8.encode x.toJson.render) = .ok x) ∧
      ∀ o : ObjectText, ∀ field ∈ ["ServerURL", "Username", "Secret"], field ∉ o.names →
        ∃ failure, Credentials.parse o.bytes = .error failure) ∧
    (∀ x : Message, Message.parse (Utf8.encode x.toJson.render) = .ok x) ∧
      ∀ o : ObjectText, "message" ∉ o.names → ∃ failure, Message.parse o.bytes = .error failure := by
  refine ⟨fun r => ⟨?_, r.parse_toJson, fun o => Record.represents.parse_object_iff⟩,
    fun o field hf => Record.represents.refuses_repeated hf,
    ⟨Request.parse_toJson, fun o field hf => Request.represents.refuses_missing hf rfl⟩,
    ⟨Credentials.parse_toJson, fun o field hf => Credentials.represents.refuses_missing hf rfl⟩,
    Message.parse_toJson, fun o => Message.represents.refuses_missing (.head _) rfl⟩
  obtain ⟨o, hb, hm⟩ := Record.shape.exists_object_toJson r.values
  exact ⟨o, hb, by rwa [← Record.written_values]⟩

/-- A member that is no field, in whose value half of a pair stands alone. -/
def intruder : Member where
  name := "x"
  spelling := Utf8.encode "\"x\""
  value := Utf8.encode "[\x7b\"a\":\"\\ud800\"\x7d]"
  left := [32]
  between := []
  before := [9]
  right := [10]
  spells := ⟨[.plain 'x' (by decide)], rfl, rfl⟩
  derives := by
    have half : Derives .spaced (Utf8.encode "\"\\ud800\"") :=
      @Derives.spaced [] _ [] blanks_nil (.string [.number ⟨⟨13, false⟩, ⟨8, false⟩, ⟨0, false⟩, ⟨0, false⟩⟩])
        blanks_nil
    have member : Derives (.element .object) (Utf8.encode "\"a\":\"\\ud800\"") :=
      .member [.plain 'a' (by decide)] blanks_nil blanks_nil half
    have item : Derives .spaced (Utf8.encode "\x7b\"a\":\"\\ud800\"\x7d") :=
      @Derives.spaced [] _ [] blanks_nil (.nested .object (.last member)) blanks_nil
    exact .nested .array (.last (.item item))
  blanks := by decide +kernel

/-- A record is read behind an intruder; a repeated field and a missing one are refused. -/
theorem records_survive_wire_among_others :
    Record.parse (Utf8.encode ("\x7b \"x\":\t[\x7b\"a\":\"\\ud800\"\x7d]\n,\"password\":\"p\",\"username\":\"u\"," ++
        "\"email\":\"\"\x7d")) = .ok { username := "u", password := "p" } ∧
      (∃ failure, Record.parse (Utf8.encode "\x7b\"auth\":\"\",\"auth\":\"\"\x7d") = .error failure) ∧
      ∃ failure, Request.parse (Utf8.encode "\x7b\"buildID\":\"b\"\x7d") = .error failure := by
  let r : Record := { username := "u", password := "p" }
  let texts := [("password", "p"), ("username", "u"), ("email", "")]
  let o : ObjectText := { ObjectText.ofTexts texts with members := intruder :: texts.map .ofText }
  have carries : o.Carries true r.named := by
    refine ⟨by decide +kernel, fun p hp m hm he => ?_, by decide +kernel⟩
    rcases List.mem_cons.1 hm with rfl | hm
    · have hno : intruder.name ∉ r.named.map Prod.fst := by decide +kernel
      exact absurd (List.mem_map.2 ⟨p, hp, he.symm⟩) hno
    · obtain ⟨q, hq, rfl⟩ := List.mem_map.1 hm
      have hall : ∀ q ∈ texts, q ∈ r.named := by decide +kernel
      have hd : (r.named.map Prod.fst).Nodup := by decide +kernel
      obtain rfl := List.inj_on_of_nodup_map hd (hall q hq) hp he
      exact Json.spells_quoteChars q.2
  have survive := records_survive_wire
  refine ⟨((survive.1 r).2.2 o).2 carries, ?_, ?_⟩
  · exact survive.2.1 (.ofTexts [("auth", ""), ("auth", "")]) "auth" (by decide) (by decide)
  · exact survive.2.2.1.2 (.ofTexts [("buildID", "b")]) "serverAddr" (by decide) (by decide)

end Lookup

end BuildCredentials
