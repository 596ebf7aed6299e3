import ApiOutline.Proofs.SavedSettings
import ApiOutline.Proofs.SortedKeys
import ApiOutline.Run.Result
import ApiOutline.Run.Write

/-!
# Written reports are read back

A report that is written is plain ASCII, has its keys in order, and is read back as JSON with the
entries of the report (`written_report_reads_back`). The name of the run and the time are added to
it, but a value that the report has of its own under one of these keys is kept. A report that is not
written for a number with too many digits leaves nothing behind, so there is no such number in a
report that was written.
-/

namespace ApiOutline.Text.Utf8

/-- The bytes of ASCII characters are ASCII. -/
theorem lt_of_mem_encode {cs : List Char} (h : ∀ c ∈ cs, c.toNat < 0x80) : ∀ b ∈ encode cs, b < 0x80 := by
  intro b hb
  obtain ⟨c, hc, hb⟩ := List.mem_flatMap.1 hb
  have hascii := h c hc
  rw [encodeChar, if_pos hascii, List.mem_singleton] at hb
  rw [hb, UInt8.lt_iff_toNat_lt, toNat_toUInt8 (by omega)]
  exact hascii

end ApiOutline.Text.Utf8

namespace ApiOutline.Json

/-- Objects with the same entries have the same values under each key. -/
theorem SameEntries.field? {fields others : List (String × Json)}
    (h : SameEntries (.obj fields) (.obj others)) (key : String) :
    Option.Rel SameEntries (field? key fields) (field? key others) := by
  cases h with
  | refl =>
    cases Json.field? key fields with
    | none => exact .none
    | some value => exact .some (.refl value)
  | obj h => exact h key

/-- A key is looked for in the first fields and then in the others. -/
theorem field?_append (key : String) (fields others : List (String × Json)) :
    field? key (fields ++ others) = (field? key fields).or (field? key others) :=
  List.lookup_append

end ApiOutline.Json

namespace ApiOutline.Run

open Files (Store WriteFaults joinPaths)
open Text (Bytes)

/-! ## The fields of a report -/

/-- The value of a report under a key: its own, or else the name of the run or the time. -/
def reportValue? (report : List (String × Json)) (runId timestamp key : String) : Option Json :=
  (Json.field? key report).or
    (Json.field? key [("run_id", .str runId), ("timestamp_utc", .str timestamp)])

/-- A default shows under its name where the report has nothing. -/
theorem field?_withDefault (name value key : String) (report : List (String × Json)) :
    Json.field? key (withDefault name value report) =
      (Json.field? key report).or (Json.field? key [(name, .str value)]) := by
  unfold withDefault
  split
  case isTrue h =>
    -- The report has the name, so the default shows under no key.
    by_cases hkey : key = name
    · rw [hkey, Option.or_of_isSome h]
    · have hother : Json.field? key [(name, .str value)] = none := by
        rw [Json.field?, List.lookup_cons, beq_false_of_ne hkey, List.lookup_nil]
      rw [hother, Option.or_none]
  case isFalse h => exact Json.field?_append key report _

/-- The fields of a report are its own and the two defaults. -/
theorem field?_reportFields (report : List (String × Json)) (runId timestamp key : String) :
    Json.field? key (reportFields report runId timestamp) = reportValue? report runId timestamp key := by
  rw [reportFields, field?_withDefault, field?_withDefault, Option.or_assoc, ← Json.field?_append]
  rfl

/-- A default makes no key stand twice. -/
theorem plain_withDefault (name value : String) {report : List (String × Json)}
    (h : (Json.obj report).Plain) : (Json.obj (withDefault name value report)).Plain := by
  unfold withDefault
  split
  case isTrue => exact h
  case isFalse hnone =>
    rw [Json.Plain, Json.plainFields_iff] at h ⊢
    -- The name is new, since the report has nothing under it.
    have hname : ∀ key ∈ report.map Prod.fst, key ≠ name := by
      rw [List.forall_mem_map]
      rintro field hfield rfl
      exact hnone (by rw [(Json.field?_eq_some_iff h.1).2 hfield]; rfl)
    refine ⟨?_, List.forall_mem_append.2 ⟨h.2, List.forall_mem_singleton.2 trivial⟩⟩
    rw [List.map_append, List.nodup_append]
    exact ⟨h.1, List.nodup_singleton name, fun key hkey other hother =>
      List.mem_singleton.1 hother ▸ hname key hkey⟩

/-- With its defaults a report stays plain. -/
theorem plain_reportFields (runId timestamp : String) {report : List (String × Json)}
    (h : (Json.obj report).Plain) : (Json.obj (reportFields report runId timestamp)).Plain :=
  plain_withDefault _ _ (plain_withDefault _ _ h)

/-- The report of a run is plain. -/
theorem plain_report (result : RunResult) (settings : Settings) :
    (Json.obj (result.report settings)).Plain := by
  have hkeys : ["summary", "config", "artifacts", "failed_files", "failed_writes"].Nodup := by decide
  have hsummary : (summaryDocument result.summary).Plain := by
    have hcounts : ["projects", "files", "namespaces", "types", "methods"].Nodup := by decide
    exact ⟨hcounts, trivial, trivial, trivial, trivial, trivial, trivial⟩
  exact ⟨hkeys, hsummary, settings.plain_document, Json.plainItems_texts _, Json.plainItems_texts _,
    Json.plainItems_texts _, trivial⟩

/-! ## The file of a report -/

/-- The bytes of a file are those of a report with the given values under its keys. -/
structure HoldsReport (bytes : Bytes) (text : List Char) (fields : List (String × Json))
    (value? : String → Option Json) : Prop where
  ascii : ∀ b ∈ bytes, b < 0x80
  decoded : Text.Utf8.decode bytes = .ok text
  parsed : Json.parse text = .ok (.obj fields)
  /-- The text has the fields of every object in the order in which they are parsed. -/
  written : text = Json.writeAt reportStyle 0 (.obj fields) ++ ['\n']
  ordered : (Json.obj fields).Ordered
  values : ∀ key, Option.Rel Json.SameEntries (value? key) (Json.field? key fields)

/-- The text of a report holds its values. -/
theorem holdsReport_reportText {report : List (String × Json)} {runId timestamp text : String}
    (hplain : (Json.obj report).Plain) (h : reportText report runId timestamp = .ok text) :
    ∃ fields, HoldsReport (Text.Utf8.ofString text) text.toList fields
      (reportValue? report runId timestamp) := by
  have hplain' := plain_reportFields runId timestamp hplain
  obtain ⟨fields, hsorted, -⟩ := Json.sorted_obj (reportFields report runId timestamp)
  obtain ⟨written, hdump, rfl⟩ := Outcome.map_eq_ok.1 h
  obtain ⟨hsmall, rfl⟩ := Json.dump_eq_ok_iff.1 hdump
  -- The text is that of the sorted fields and a line feed.
  have htext : ((Json.obj (reportFields report runId timestamp)).sorted.write reportStyle ++
      "\n").toList = Json.writeAt reportStyle 0 (.obj fields) ++ ['\n'] := by
    rw [hsorted, String.toList_append, Json.write, String.toList_ofList]
    rfl
  have hascii : ∀ c ∈ ((Json.obj (reportFields report runId timestamp)).sorted.write reportStyle ++
      "\n").toList, c.toNat < 0x80 := by
    rw [htext, List.forall_mem_append, List.forall_mem_singleton]
    refine ⟨fun c hc => ?_, by decide⟩
    have := (Json.writtenText_writeAt reportStyle 0 _ c hc).ascii rfl
    omega
  refine ⟨fields, Text.Utf8.lt_of_mem_encode hascii, Text.Utf8.decode_encode _, ?_, htext, ?_, ?_⟩
  · -- The line feed is a blank, so the fields are parsed before it.
    have hblank : ∀ c ∈ ['\n'], Json.isSpace c = true := List.forall_mem_singleton.2 rfl
    rw [htext, ← hsorted, Json.parse_writeAt reportStyle (Json.plain_sorted hplain') hblank, hsmall]
    rfl
  · rw [← hsorted]
    exact Json.ordered_sorted hplain'
  · intro key
    have hsame := Json.sameEntries_sorted hplain'
    rw [hsorted] at hsame
    rw [← field?_reportFields]
    exact hsame.field? key

/-- A path leads to the file of a report with the given values under its keys. -/
def FileHolds (store : Store) (path : String) (value? : String → Option Json) : Prop :=
  ∃ bytes text fields, store.read path = .ok bytes ∧ HoldsReport bytes text fields value?

/-- The file of a report that was written holds it. -/
theorem fileHolds_of_writeReport {store : Store} {faults : WriteFaults}
    {report : List (String × Json)} {runId timestamp dir path : String} (hplain : (Json.obj report).Plain)
    (h : (writeReport store faults report runId timestamp dir).1 = .ok path) :
    path = joinPaths dir (runId ++ ".json") ∧
      FileHolds (writeReport store faults report runId timestamp dir).2 path
        (reportValue? report runId timestamp) := by
  unfold writeReport at h ⊢
  cases htext : reportText report runId timestamp with
  | error fault =>
    rw [htext] at h
    cases h
  | ok text =>
    simp only [htext] at h ⊢
    obtain ⟨rfl, place, name, htarget, hfile⟩ :=
      Store.exists_target_of_writeText (Outcome.mapError_eq_ok.1 h)
    obtain ⟨fields, hfields⟩ := holdsReport_reportText hplain htext
    exact ⟨rfl, _, _, fields, htarget.read_eq hfile, hfields⟩

/-- A report whose numbers can be written is written as its text is. -/
theorem writeReport_of_isWritable {store : Store} {faults : WriteFaults}
    {report : List (String × Json)} {runId timestamp dir answer : String}
    (h : (Json.obj (reportFields report runId timestamp)).isWritable = true)
    (hwrite : ∀ text, (store.writeText faults (joinPaths dir (runId ++ ".json")) text).1 = .ok answer) :
    (writeReport store faults report runId timestamp dir).1 = .ok answer := by
  -- No number is too large after sorting either, so there is a text.
  have hsmall := Json.oversized?_sorted (Json.isWritable_iff.1 h)
  obtain ⟨text, htext⟩ : ∃ text, reportText report runId timestamp = .ok text :=
    ⟨_, Outcome.map_eq_ok.2 ⟨_, Json.dump_eq_ok_iff.2 ⟨hsmall, rfl⟩, rfl⟩⟩
  unfold writeReport
  rw [htext]
  exact Outcome.mapError_eq_ok.2 (hwrite text)

/-- The file of a written report of a run is read back as the entries of the report with the name of
the run and the time. The file of any other report keeps what it has of its own under these keys. -/
theorem written_report_reads_back (store : Store) (faults : WriteFaults)
    (runId timestamp dir path : String) :
    (∀ (result : RunResult) (settings : Settings),
      (writeReport store faults (result.report settings) runId timestamp dir).1 = .ok path →
      path = joinPaths dir (runId ++ ".json") ∧
        FileHolds (writeReport store faults (result.report settings) runId timestamp dir).2 path
          fun key => Json.field? key (result.report settings ++
            [("run_id", .str runId), ("timestamp_utc", .str timestamp)])) ∧
    ∀ report : List (String × Json), (Json.obj report).Plain →
      (writeReport store faults report runId timestamp dir).1 = .ok path →
      path = joinPaths dir (runId ++ ".json") ∧
        FileHolds (writeReport store faults report runId timestamp dir).2 path fun key =>
          (Json.field? key report).or
            (Json.field? key [("run_id", .str runId), ("timestamp_utc", .str timestamp)]) := by
  constructor
  · intro result settings h
    simp only [Json.field?_append]
    exact fileHolds_of_writeReport (plain_report result settings) h
  · intro report hplain h
    exact fileHolds_of_writeReport hplain h

/-- A report of a run, and one that has a time of its own, a fraction, and keys out of order. -/
theorem own_time_kept :
    let store := Command.settingsStore "c.json" ""
    let result : RunResult := { artifacts := ["out/é.txt"] }
    let report : List (String × Json) :=
      [("timestamp_utc", .float (.finite false 7205759403792794 (-56))),
        ("b", .obj [("z", .int (-1)), ("é", .null)]), ("a", .arr [.str "😀"])]
    (writeReport store (fun _ => none) (result.report {}) "r" "t" "runs").1 = .ok "runs/r.json" ∧
    FileHolds (writeReport store (fun _ => none) (result.report {}) "r" "t" "runs").2 "runs/r.json"
      (fun key => Json.field? key (result.report {} ++
        [("run_id", .str "r"), ("timestamp_utc", .str "t")])) ∧
    (Json.obj report).Plain ∧
    (writeReport store (fun _ => none) report "r" "t" "runs").1 = .ok "runs/r.json" ∧
    FileHolds (writeReport store (fun _ => none) report "r" "t" "runs").2 "runs/r.json" fun key =>
      (Json.field? key report).or
        (Json.field? key [("run_id", .str "r"), ("timestamp_utc", .str "t")]) := by
  intro store result report
  have hwrite : ∀ text, (store.writeText (fun _ => none) (joinPaths "runs" ("r" ++ ".json")) text).1 =
      .ok "runs/r.json" := fun text => rfl
  have hresult : (writeReport store (fun _ => none) (result.report {}) "r" "t" "runs").1 =
      .ok "runs/r.json" := writeReport_of_isWritable (by decide +kernel) hwrite
  have hreport : (writeReport store (fun _ => none) report "r" "t" "runs").1 = .ok "runs/r.json" :=
    writeReport_of_isWritable (by decide +kernel) hwrite
  -- The keys are different at both levels, and the fraction is a finite number.
  have hplain : (Json.obj report).Plain := by
    have hkeys : ["timestamp_utc", "b", "a"].Nodup ∧ ["z", "é"].Nodup := by decide
    have htenth : Number.IsFinite 7205759403792794 (-56) := by
      constructor <;> norm_num
    exact ⟨hkeys.1, htenth, ⟨hkeys.2, trivial, trivial, trivial⟩, ⟨trivial, trivial⟩, trivial⟩
  obtain ⟨hruns, hreports⟩ := written_report_reads_back store (fun _ => none) "r" "t" "runs" "runs/r.json"
  exact ⟨hresult, (hruns result {} hresult).2, hplain, hreport, (hreports report hplain hreport).2⟩

end ApiOutline.Run
