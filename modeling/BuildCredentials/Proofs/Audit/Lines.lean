import BuildCredentials.Audit.Log
import BuildCredentials.Proofs.FileTree.Appending
import BuildCredentials.Proofs.Json.Depth
import BuildCredentials.Proofs.Json.Sorting
import Mathlib.Data.List.Forall2
import Mathlib.Data.List.Induction

/-!
# The lines of the audit log

A log whose file can be added to goes on so: each entry adds one line to what the file held (`Log.Holds.record`). No
line has a line end inside, whatever stands in its data, so that the lines of the file are those of the calls
(`lines_record_calls`).
-/

set_option autoImplicit false

namespace BuildCredentials.Audit

open Json (Plain Same parseWithin)

/-! ## One line -/

namespace Entry

variable {e : Entry}

theorem toJson_eq (e : Entry) (time : String) : e.toJson time =
    .object [("data", e.data.sorted), ("event", .text e.event), ("timestamp", .text time)] := rfl

theorem plain_toJson (h : e.data.Plain) (time : String) : (e.toJson time).Plain := by
  rw [toJson_eq]
  refine .object ?_
  intro m hm
  simp only [List.mem_cons, List.not_mem_nil, or_false] at hm
  rcases hm with rfl | rfl | rfl
  · exact h.sorted
  · exact .text _
  · exact .text _

theorem depth_toJson_le (h : e.data.Plain) (time : String) : (e.toJson time).depth ≤ e.data.depth + 1 := by
  have hsorted := h.depth_sorted_le
  simp only [toJson_eq, Json.depth, Json.membersDepth]
  omega

/-- The bytes of a line, without its end. -/
def lineBytes (e : Entry) (time : String) : List UInt8 := Utf8.encode (e.line time)

theorem encode_line (e : Entry) (time : String) : Utf8.encode (e.line time ++ "\n") = e.lineBytes time ++ [10] := by
  simp only [lineBytes, Utf8.encode_eq_bytesOf, String.toList_append, Utf8.bytesOf_append]
  rfl

theorem newline_not_mem_lineBytes (h : e.data.Plain) (time : String) : 10 ∉ e.lineBytes time :=
  (plain_toJson h time).newline_not_mem

theorem parse_lineBytes (h : e.data.Plain) (time : String) {limit : Nat} (hl : e.data.depth + 1 < limit) :
    parseWithin limit (e.lineBytes time) =
      .ok (.object [("data", e.data.sorted), ("event", .text e.event), ("timestamp", .text time)]) := by
  have hd : (e.toJson time).depth < limit := Nat.lt_of_le_of_lt (depth_toJson_le h time) hl
  exact (plain_toJson h time).parseWithin_render hd

/-- The usual reader reads a line up to data in which 126 arrays and objects stand in one another, and no deeper. -/
theorem parse_lineBytes_iff (h : e.data.Plain) (time : String) {v : Json} :
    Json.parse (e.lineBytes time) = .ok v ↔ v = e.toJson time ∧ e.data.sorted.depth ≤ 126 := by
  rw [lineBytes, line, (plain_toJson h time).parse_render_iff]
  refine and_congr_right fun _ => ?_
  simp only [toJson_eq, Json.depth, Json.membersDepth, Json.depthLimit]
  omega

end Entry

theorem plain_texts (texts : List String) :
    (Json.array (texts.map .text)).Plain ∧ (Json.array (texts.map .text)).depth ≤ 1 := by
  have hitems : ∀ v ∈ texts.map Json.text, v.Plain ∧ v.depth ≤ 0 := by
    intro v hv
    obtain ⟨s, -, rfl⟩ := List.mem_map.1 hv
    exact ⟨.text s, Nat.le_refl 0⟩
  exact ⟨.array fun v hv => (hitems v hv).1,
    Nat.succ_le_succ (Json.itemsDepth_le_iff.2 fun v hv => (hitems v hv).2)⟩

/-- What is said of builds, registries and peers is plain, and not deep. -/
theorem Event.plain_data (e : Event) : e.data.Plain ∧ e.data.depth ≤ 2 := by
  suffices h : ∃ members, e.data = .object members ∧ ∀ m ∈ members, m.2.Plain ∧ m.2.depth ≤ 1 by
    obtain ⟨members, hdata, h⟩ := h
    rw [hdata]
    refine ⟨.object fun m hm => (h m hm).1, ?_⟩
    rw [Json.depth, Nat.add_le_add_iff_right, Json.membersDepth_le_iff]
    exact fun m hm => (h m hm).2
  have htext (s : String) : (Json.text s).Plain ∧ (Json.text s).depth ≤ 1 := ⟨.text s, Nat.zero_le 1⟩
  cases e with
  | stored build registries => exact ⟨_, rfl, by simpa [reference] using ⟨htext _, plain_texts registries⟩⟩
  | removed build => exact ⟨_, rfl, by simpa [reference] using htext _⟩
  | served build address kind => exact ⟨_, rfl, by simpa [reference] using ⟨htext _, htext _, htext _⟩⟩
  | denied build address => exact ⟨_, rfl, by simpa [reference] using ⟨htext _, htext _⟩⟩
  | rejected reason => exact ⟨_, rfl, by simpa using htext _⟩

/-! ## Calls one after another -/

namespace Log

variable {log : Log} {files : FileTree} {content : List UInt8}

/-- The directories of a log's file can be made, and then the file can be added to and holds a content. -/
def Holds (log : Log) (files : FileTree) (content : List UInt8) : Prop :=
  ∃ made l, log.makeParents files = (made, .ok ()) ∧ made.locate log.path = .ok l ∧ made.Keeps l content

/-- Adds entries one after another, each at its time. -/
def recordEach (log : Log) (files : FileTree) (calls : List (String × Entry)) : FileTree :=
  calls.foldl (fun files call => log.record call.1 files call.2) files

theorem recordAll_eq (log : Log) (time : String) (files : FileTree) (entries : List Entry) :
    log.recordAll time files entries = log.recordEach files (entries.map fun e => (time, e)) :=
  by simp only [recordAll, recordEach, List.foldl_map]

theorem makeParents_again {made : FileTree} (h : log.makeParents files = (made, .ok ())) :
    ∀ w, made.Grows w → log.makeParents w = (w, .ok ()) := by
  unfold makeParents at h ⊢
  split at h
  · intro w _
    rfl
  · exact (FileTree.makeDirectories_again h).2

/-- An entry adds its line to what the file held. -/
theorem Holds.record (on : log.enabled = true) (h : log.Holds files content) (time : String) (e : Entry) :
    let after := log.record time files e
    let longer := content ++ (e.lineBytes time ++ [10])
    log.Holds after longer ∧ after.read log.path = .ok longer := by
  intro after longer
  obtain ⟨made, l, hmade, hl, hkeeps⟩ := h
  have hafter : after = made.set l (.file longer) := by
    simp only [after, longer, Log.record, on, hmade, FileTree.append_of_keeps hl hkeeps, Entry.encode_line]
    rfl
  have hgrows : made.Grows after := hafter ▸ FileTree.grows_set hkeeps.ne_directory _
  have hnode : after.node? l = some (.file longer) := hafter ▸ FileTree.node?_set_self hkeeps.ne_directory _
  have hlocate : after.locate log.path = .ok l := hgrows.locate hl
  exact ⟨⟨after, l, makeParents_again hmade after hgrows, hlocate, .file hnode⟩,
    FileTree.read_of_file hlocate hnode⟩

/-- The lines of calls, without their ends. -/
def lines (calls : List (String × Entry)) : List (List UInt8) := calls.map fun call => call.2.lineBytes call.1

theorem Holds.recordEach (on : log.enabled = true) (h : log.Holds files content) (calls : List (String × Entry)) :
    let after := log.recordEach files calls
    let longer := content ++ (lines calls).flatMap (· ++ [10])
    log.Holds after longer ∧ (calls ≠ [] → after.read log.path = .ok longer) := by
  induction calls using List.reverseRecOn with
  | nil => exact ⟨by simpa [Log.recordEach, lines] using h, fun hne => absurd rfl hne⟩
  | append_singleton calls call ih =>
    intro after longer
    have hafter : after = log.record call.1 (log.recordEach files calls) call.2 := List.foldl_concat ..
    have hlonger : longer = content ++ (lines calls).flatMap (· ++ [10]) ++ (call.2.lineBytes call.1 ++ [10]) := by
      simp [longer, lines]
    obtain ⟨hholds, hread⟩ := Holds.record on ih.1 call.1 call.2
    rw [hafter, hlonger]
    exact ⟨hholds, fun _ => hread⟩

theorem splitOn_flatMap_lines {lines : List (List UInt8)} (h : ∀ line ∈ lines, 10 ∉ line) :
    (lines.flatMap (· ++ [10])).splitOn 10 = lines ++ [[]] := by
  induction lines with
  | nil => rfl
  | cons line lines ih =>
    rw [List.flatMap_cons, List.append_assoc, List.singleton_append,
      List.splitOn_append_cons_self_of_not_mem (h line (.head _)), ih fun l hl => h l (.tail _ hl), List.cons_append]

/-- A log's file consists of lines, each with its end; where there are none, it may be missing. -/
def Consists (log : Log) (files : FileTree) (lines : List (List UInt8)) : Prop :=
  ∃ content, log.Holds files content ∧ (lines ≠ [] → files.read log.path = .ok content) ∧
    content.splitOn 10 = lines ++ [[]]

theorem consists_recordEach (on : log.enabled = true) (empty : log.Holds files []) {calls : List (String × Entry)}
    (plain : ∀ call ∈ calls, call.2.data.Plain) : log.Consists (log.recordEach files calls) (lines calls) := by
  obtain ⟨hholds, hread⟩ := empty.recordEach on calls
  refine ⟨_, hholds, fun hne => hread fun hnil => hne ?_, ?_⟩
  · rw [hnil]
    rfl
  · rw [List.nil_append]
    apply splitOn_flatMap_lines
    intro line hline
    obtain ⟨call, hcall, rfl⟩ := List.mem_map.1 hline
    exact Entry.newline_not_mem_lineBytes (plain call hcall) call.1

end Log

/-! ## What the file says -/

/-- A line is a record of a call: every reader that goes deep enough reads it as an object with the data, the event
and the time. -/
def Records (call : String × Entry) (line : List UInt8) : Prop :=
  ∃ data, Same data call.2.data ∧ ∀ limit, call.2.data.depth + 1 < limit → parseWithin limit line =
    .ok (.object [("data", data), ("event", .text call.2.event), ("timestamp", .text call.1)])

theorem records_lineBytes {call : String × Entry} (h : call.2.data.Plain) :
    Records call (call.2.lineBytes call.1) :=
  ⟨call.2.data.sorted, h.same_sorted, fun _ => Entry.parse_lineBytes h call.1⟩

/-- The usual reader goes deep enough for calls with data of depth 126 at most. -/
theorem Records.parse {call : String × Entry} {line : List UInt8} (h : Records call line)
    (hd : call.2.data.depth ≤ 126) : ∃ data, Same data call.2.data ∧ Json.parse line =
      .ok (.object [("data", data), ("event", .text call.2.event), ("timestamp", .text call.1)]) := by
  obtain ⟨data, hsame, hread⟩ := h
  exact ⟨data, hsame, hread Json.depthLimit (Nat.add_lt_add_right (Nat.lt_succ_of_le hd) 1)⟩

/-- Calls on a log that is on and whose file holds nothing: the file then consists of as many lines as there were
calls, each of which records its call; the usual reader reads those with data of depth 126 at most (`Records.parse`).
So it is with what the program itself tells of builds, registries and peers, be the addresses what they may: its data
is never that deep. -/
theorem lines_record_calls {log : Log} (on : log.enabled = true) {files : FileTree} (empty : log.Holds files []) :
    (∀ calls : List (String × Entry), (∀ call ∈ calls, call.2.data.Plain) →
      ∃ lines, log.Consists (log.recordEach files calls) lines ∧ List.Forall₂ Records calls lines) ∧
    ∀ (time : String) (events : List Event),
      ∃ lines, log.Consists (log.recordAll time files (events.map (·.entry))) lines ∧
        List.Forall₂ (fun e line => ∃ data, Same data e.data ∧ Json.parse line =
          .ok (.object [("data", data), ("event", .text e.name), ("timestamp", .text time)])) events lines := by
  constructor
  · intro calls plain
    refine ⟨_, Log.consists_recordEach on empty plain, ?_⟩
    rw [Log.lines, List.forall₂_map_right_iff, List.forall₂_same]
    exact fun call hcall => records_lineBytes (plain call hcall)
  · intro time events
    rw [Log.recordAll_eq, List.map_map]
    refine ⟨_, Log.consists_recordEach on empty ?_, ?_⟩
    · intro call hcall
      obtain ⟨e, -, rfl⟩ := List.mem_map.1 hcall
      exact e.plain_data.1
    · rw [Log.lines, List.map_map, List.forall₂_map_right_iff, List.forall₂_same]
      intro e _
      obtain ⟨hplain, hdepth⟩ := e.plain_data
      have hrecords : Records (time, e.entry) (e.entry.lineBytes time) := records_lineBytes hplain
      exact hrecords.parse (Nat.le_trans hdepth (by decide))

/-- An address and a name that are made to look like lines of their own come to no lines of their own. -/
theorem lines_record_calls_of_forged_address :
    let log : Log := { path := "state/audit.log" }
    let forged := "ghcr.io\"\x7d\x7d\n\x7b\"event\":\"credentials.removed\",\"data\":null\x7d\n"
    let calls : List (String × Entry) := [
      ("12:00", ⟨"credentials.denied", .object [("server", .text forged), ("tries", .array [.integer (-1), .null])]⟩),
      ("12:01", ⟨forged, .object [(forged, .object [("seen", .bool true)])]⟩)]
    let events : List Event := [.denied ⟨"b"⟩ forged, .removed ⟨"b"⟩]
    (∃ first second, log.Consists (log.recordEach {} calls) [first, second] ∧
      List.Forall₂ Records calls [first, second]) ∧
    ∃ first second, log.Consists (log.recordAll "12:02" {} (events.map (·.entry))) [first, second] := by
  intro log forged calls events
  have empty : log.Holds {} [] := ⟨(log.makeParents {}).1, ["state", "audit.log"], Prod.ext rfl (by decide +kernel),
    by decide +kernel, .missing (by decide +kernel)⟩
  have on : log.enabled = true := rfl
  obtain ⟨hcalls, hevents⟩ := lines_record_calls on empty
  have htries : (Json.array [.integer (-1), .null]).Plain :=
    .array (by simpa using ⟨.integer (by decide) (by decide), .null⟩)
  have hseen : (Json.object [("seen", .bool true)]).Plain := .object (by simpa using .bool true)
  have plain : ∀ call ∈ calls, call.2.data.Plain := by
    intro call hcall
    simp only [calls, List.mem_cons, List.not_mem_nil, or_false] at hcall
    rcases hcall with rfl | rfl
    · exact .object (by simpa using ⟨.text forged, htries⟩)
    · exact .object (by simpa using hseen)
  constructor
  · obtain ⟨lines, hlines, hrecords⟩ := hcalls calls plain
    obtain ⟨first, second, rfl⟩ := List.length_eq_two.1 hrecords.length_eq.symm
    exact ⟨first, second, hlines, hrecords⟩
  · obtain ⟨lines, hlines, hrecords⟩ := hevents "12:02" events
    obtain ⟨first, second, rfl⟩ := List.length_eq_two.1 hrecords.length_eq.symm
    exact ⟨first, second, hlines⟩

end BuildCredentials.Audit
